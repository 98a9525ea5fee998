import Mathlib.Algebra.Group.Nat.Defs
import AllSquare.Text

/-! # Shot identifiers

A shot's identifier is a version 4 UUID whose random bits come from two rounds
of a xorshift generator seeded from the system clock.
-/

namespace AllSquare

namespace ShotId

/-- The state of the generator. -/
structure Seed where
  s0 : UInt64
  s1 : UInt64

/-- Seed the generator from the nanoseconds of the clock, a `u128`. -/
def Seed.ofNanos (nanos : ℕ) : Seed :=
  let s0 := UInt64.ofNat nanos
  let s1 := UInt64.ofNat (nanos * 6364136223846793005 % 2 ^ 128)
  { s0 := if s0 = 0 then 0x123456789abcdef0 else s0
    s1 := if s1 = 0 then 0xfedcba9876543210 else s1 }

/-- One round: the next state and the number it gives. -/
def Seed.next (s : Seed) : Seed × UInt64 :=
  let y := s.s1
  let x := s.s0 ^^^ (s.s0 <<< 23)
  let x := x ^^^ (x >>> 17)
  let x := x ^^^ y
  let x := x ^^^ (y >>> 26)
  ({ s0 := y, s1 := x }, y + x)

/-- The bytes of a number, lowest first. -/
def leBytes (v : UInt64) : List UInt8 :=
  (List.range 8).map fun i => (v >>> (8 * UInt64.ofNat i)).toUInt8

/-- The sixteen bytes, with the version and the variant in place. -/
def bytes (nanos : ℕ) : List UInt8 :=
  let (seed, first) := (Seed.ofNanos nanos).next
  let (_, second) := seed.next
  ((leBytes first ++ leBytes second).modify 6 fun b => (b &&& 0x0f) ||| 0x40).modify 8
    fun b => (b &&& 0x3f) ||| 0x80

/-- A byte as two lower-case hexadecimal digits. -/
def hex (b : UInt8) : Text := [Nat.digitChar (b.toNat / 16), Nat.digitChar (b.toNat % 16)]

/-- Bytes in the groups of a UUID. -/
def format (bs : List UInt8) : Text :=
  (bs.take 4).flatMap hex ++ '-' :: ((bs.drop 4).take 2).flatMap hex ++
    '-' :: ((bs.drop 6).take 2).flatMap hex ++ '-' :: ((bs.drop 8).take 2).flatMap hex ++
    '-' :: (bs.drop 10).flatMap hex

/-- The UUID made at a clock reading. -/
def uuidV4 (nanos : ℕ) : Text := format (bytes nanos)

/-! ## The form of an identifier -/

theorem version_digit (b : UInt8) : Nat.digitChar (((b &&& 0x0f) ||| 0x40).toNat / 16) = '4' := by
  have h : ∀ v : BitVec 8, Nat.digitChar (((v &&& 0x0f) ||| 0x40).toNat / 16) = '4' := by decide
  exact h b.toBitVec

theorem variant_digit (b : UInt8) :
    Nat.digitChar (((b &&& 0x3f) ||| 0x80).toNat / 16) ∈ ['8', '9', 'a', 'b'] := by
  have h : ∀ v : BitVec 8,
      Nat.digitChar (((v &&& 0x3f) ||| 0x80).toNat / 16) ∈ ['8', '9', 'a', 'b'] := by decide
  exact h b.toBitVec

/-- Whatever the clock says, the identifier has the length, the version digit
and the variant digit of a version 4 UUID. -/
theorem uuidV4_form (nanos : ℕ) :
    (uuidV4 nanos).length = 36 ∧ (uuidV4 nanos)[14]? = some '4' ∧
      ∃ c ∈ ['8', '9', 'a', 'b'], (uuidV4 nanos)[19]? = some c := by
  have hle (v : UInt64) : ∃ a b c d e f g h, leBytes v = [a, b, c, d, e, f, g, h] :=
    ⟨_, _, _, _, _, _, _, _, rfl⟩
  unfold uuidV4 bytes
  rcases hle (Seed.ofNanos nanos).next.2 with ⟨a, b, c, d, e, f, g, h, hfirst⟩
  rcases hle (Seed.ofNanos nanos).next.1.next.2 with ⟨i, j, k, l, m, n, o, p, hsecond⟩
  dsimp only
  rw [hfirst, hsecond]
  refine ⟨rfl, congrArg some (version_digit g), _, variant_digit i, rfl⟩

end ShotId

end AllSquare
