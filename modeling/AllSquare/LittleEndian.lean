import Mathlib.Data.BitVec

/-! # Little-endian two's-complement integers

A fixed-width integer on the wire is its bytes, least significant first. The
codec below works on lists of bytes; reading a range demands a proof that it
lies inside the list, so an out-of-range read cannot be written.

* `i16OfLe` and `i16ToLe` are inverse in both directions (`i16OfLe_bytes`,
  `i16ToLe_ofLe`), so a 16-bit field survives a round trip as a value and as
  bytes.
-/

namespace LittleEndian

/-- The 16-bit integer of two bytes, least significant first. -/
def i16OfLe (lo hi : UInt8) : Int16 :=
  Int16.ofUInt16 ⟨hi.toBitVec ++ lo.toBitVec⟩

/-- The low byte of a 16-bit integer. -/
def lowByte (x : Int16) : UInt8 := ⟨x.toBitVec.extractLsb' 0 8⟩

/-- The high byte of a 16-bit integer. -/
def highByte (x : Int16) : UInt8 := ⟨x.toBitVec.extractLsb' 8 8⟩

/-- The two bytes of a 16-bit integer, least significant first. -/
def i16ToLe (x : Int16) : List UInt8 := [lowByte x, highByte x]

/-- The 32-bit integer of four bytes, least significant first. -/
def i32OfLe (b₀ b₁ b₂ b₃ : UInt8) : Int32 :=
  Int32.ofUInt32 ⟨b₃.toBitVec ++ (b₂.toBitVec ++ (b₁.toBitVec ++ b₀.toBitVec))⟩

/-- The unsigned number of some bytes, most significant first. -/
def natOfBe (bs : List UInt8) : ℕ := bs.foldl (fun n b => n * 256 + b.toNat) 0

/-- The unsigned number of some bytes, least significant first. -/
def natOfLe (bs : List UInt8) : ℕ := bs.foldr (fun b n => b.toNat + 256 * n) 0

/-! ## Values -/

theorem toNat_append {m n : ℕ} (x : BitVec m) (y : BitVec n) :
    (x ++ y).toNat = y.toNat + 2 ^ n * x.toNat := by
  rw [BitVec.toNat_append, ← Nat.shiftLeft_add_eq_or_of_lt y.isLt, Nat.shiftLeft_eq,
    Nat.add_comm, Nat.mul_comm]

/-- A 16-bit integer is the two's-complement reading of its bytes. -/
theorem toInt_i16OfLe (lo hi : UInt8) :
    (i16OfLe lo hi).toInt = (natOfLe [lo, hi] : ℤ).bmod (2 ^ 16) := by
  have hbits : (hi.toBitVec ++ lo.toBitVec).toNat = natOfLe [lo, hi] := by
    rw [toNat_append]
    rfl
  show (hi.toBitVec ++ lo.toBitVec).toInt = _
  rw [BitVec.toInt_eq_toNat_bmod, hbits]

/-- A 32-bit integer is the two's-complement reading of its bytes. -/
theorem toInt_i32OfLe (b₀ b₁ b₂ b₃ : UInt8) :
    (i32OfLe b₀ b₁ b₂ b₃).toInt = (natOfLe [b₀, b₁, b₂, b₃] : ℤ).bmod (2 ^ 32) := by
  have hbits : (b₃.toBitVec ++ (b₂.toBitVec ++ (b₁.toBitVec ++ b₀.toBitVec))).toNat =
      natOfLe [b₀, b₁, b₂, b₃] := by
    rw [toNat_append, toNat_append, toNat_append]
    simp only [natOfLe, List.foldr_cons, List.foldr_nil, UInt8.toNat_toBitVec]
    omega
  show (b₃.toBitVec ++ (b₂.toBitVec ++ (b₁.toBitVec ++ b₀.toBitVec))).toInt = _
  rw [BitVec.toInt_eq_toNat_bmod, hbits]

theorem natOfBe_concat (bs : List UInt8) (b : UInt8) :
    natOfBe (bs ++ [b]) = natOfBe bs * 256 + b.toNat := by
  unfold natOfBe
  rw [List.foldl_append]
  rfl

theorem natOfBe_lt (bs : List UInt8) : natOfBe bs < 2 ^ (8 * bs.length) := by
  induction bs using List.reverseRecOn with
  | nil => decide
  | append_singleton bs b ih =>
    have hb := b.toNat_lt
    rw [natOfBe_concat, List.length_append, List.length_singleton, Nat.mul_add, pow_add]
    omega

/-! ## Round trips -/

@[simp] theorem lowByte_ofLe (lo hi : UInt8) : lowByte (i16OfLe lo hi) = lo := by
  rw [← UInt8.toBitVec_inj]
  show (hi.toBitVec ++ lo.toBitVec).extractLsb' 0 8 = lo.toBitVec
  grind

@[simp] theorem highByte_ofLe (lo hi : UInt8) : highByte (i16OfLe lo hi) = hi := by
  rw [← UInt8.toBitVec_inj]
  show (hi.toBitVec ++ lo.toBitVec).extractLsb' 8 8 = hi.toBitVec
  rw [BitVec.extractLsb'_append_eq_of_le (le_refl 8)]
  exact BitVec.extractLsb'_eq_self

@[simp] theorem i16OfLe_bytes (x : Int16) : i16OfLe (lowByte x) (highByte x) = x := by
  rw [← Int16.toBitVec_inj]
  show x.toBitVec.extractLsb' 8 8 ++ x.toBitVec.extractLsb' 0 8 = x.toBitVec
  rw [BitVec.extractLsb'_append_extractLsb'_eq_extractLsb' (by rfl)]
  exact BitVec.extractLsb'_eq_self

/-- Writing what was read gives the bytes back. -/
theorem i16ToLe_ofLe (lo hi : UInt8) : i16ToLe (i16OfLe lo hi) = [lo, hi] := by
  simp [i16ToLe]

/-! ## Reading a field of a byte list -/

/-- The 16-bit integer at offset `off`, which the list must contain. -/
def i16At (b : List UInt8) (off : ℕ) (h : off + 2 ≤ b.length) : Int16 :=
  i16OfLe b[off] b[off + 1]

/-- The 32-bit integer at offset `off`, which the list must contain. -/
def i32At (b : List UInt8) (off : ℕ) (h : off + 4 ≤ b.length) : Int32 :=
  i32OfLe b[off] b[off + 1] b[off + 2] b[off + 3]

end LittleEndian
