import Mathlib.Tactic.Common

/-! # Text

Text is a list of characters. `fromUtf8Lossy` decodes bytes, putting one
replacement character in the place of each maximal invalid prefix of a
character; `after` and `before` are the two uses the code makes of substring
search.
-/

namespace AllSquare

abbrev Text := List Char

namespace Text

/-! ## Decoding -/

/-- A continuation byte. -/
def isCont (b : UInt8) : Bool := 0x80 ≤ b && b ≤ 0xbf

/-- The second bytes that may follow a three-byte lead. -/
def second3 (lead b : UInt8) : Bool :=
  if lead == 0xe0 then 0xa0 ≤ b && b ≤ 0xbf
  else if lead == 0xed then 0x80 ≤ b && b ≤ 0x9f
  else isCont b

/-- The second bytes that may follow a four-byte lead. -/
def second4 (lead b : UInt8) : Bool :=
  if lead == 0xf0 then 0x90 ≤ b && b ≤ 0xbf
  else if lead == 0xf4 then 0x80 ≤ b && b ≤ 0x8f
  else isCont b

/-- The six payload bits of a continuation byte. -/
def low6 (b : UInt8) : ℕ := b.toNat % 0x40

def replacement : Char := Char.ofNat 0xfffd

/-- One decoded character with the number of bytes it took, for a non-empty
input; the replacement character when the bytes are not one. -/
def decodeChar : List UInt8 → Char × ℕ
  | [] => (replacement, 1)
  | a :: rest =>
    -- one maximal invalid prefix becomes one replacement character: the width of a
    -- replacement is the number of bytes that were still possible
    if a < 0x80 then (Char.ofNat a.toNat, 1)
    else if 0xc2 ≤ a && a ≤ 0xdf then
      match rest with
      | b :: _ =>
        if isCont b then (Char.ofNat ((a.toNat % 0x20) * 0x40 + low6 b), 2) else (replacement, 1)
      | [] => (replacement, 1)
    else if 0xe0 ≤ a && a ≤ 0xef then
      match rest with
      | b :: c :: _ =>
        if !second3 a b then (replacement, 1)
        else if !isCont c then (replacement, 2)
        else (Char.ofNat ((a.toNat % 0x10) * 0x1000 + low6 b * 0x40 + low6 c), 3)
      | [b] => (replacement, if second3 a b then 2 else 1)
      | [] => (replacement, 1)
    else if 0xf0 ≤ a && a ≤ 0xf4 then
      match rest with
      | b :: c :: d :: _ =>
        if !second4 a b then (replacement, 1)
        else if !isCont c then (replacement, 2)
        else if !isCont d then (replacement, 3)
        else (Char.ofNat ((a.toNat % 8) * 0x40000 + low6 b * 0x1000 + low6 c * 0x40 + low6 d), 4)
      | [b, c] => (replacement, if !second4 a b then 1 else if isCont c then 3 else 2)
      | [b] => (replacement, if second4 a b then 2 else 1)
      | [] => (replacement, 1)
    else (replacement, 1)

/-- Decode with a bound on the number of characters. -/
def decodeUpTo : ℕ → List UInt8 → Text
  | 0, _ => []
  | _, [] => []
  | n + 1, data =>
    let (c, width) := decodeChar data
    c :: decodeUpTo n (data.drop width)

/-- The text of a byte string, invalid sequences replaced. No decoding has
more characters than bytes. -/
def fromUtf8Lossy (data : List UInt8) : Text := decodeUpTo data.length data

/-! ## Searching -/

/-- What follows the first occurrence of `pat`. -/
def after (pat : Text) : Text → Option Text
  | [] => if pat.isEmpty then some [] else none
  | c :: cs =>
    if pat.isPrefixOf (c :: cs) then some ((c :: cs).drop pat.length) else after pat cs

/-- What precedes the first occurrence of a character. -/
def before (x : Char) : Text → Option Text
  | [] => none
  | c :: cs => if c = x then some [] else (before x cs).map (c :: ·)

/-! ### Searching past text without the delimiter -/

section Delimited

variable {q : Char}

/-- A pattern that begins with `q` is not found in text without it. -/
theorem after_append_of_not_mem {g : Text} (hg : q ∉ g) (k s : Text) :
    after (q :: k) (g ++ s) = after (q :: k) s := by
  induction g with
  | nil => rfl
  | cons c g ih =>
    rw [List.mem_cons, not_or] at hg
    have hne : (q == c) = false := by simpa using hg.1
    rw [List.cons_append, after, List.isPrefixOf_cons_cons, hne, Bool.false_and]
    exact ih hg.2

theorem after_eq_none_of_not_mem {g : Text} (hg : q ∉ g) (k : Text) : after (q :: k) g = none := by
  have h := after_append_of_not_mem hg k []
  rw [List.append_nil] at h
  exact h

/-- A single character is found after the text without it. -/
theorem after_char {g : Text} (hg : q ∉ g) (s : Text) : after [q] (g ++ q :: s) = some s := by
  rw [after_append_of_not_mem hg]
  simp [after]

theorem before_append {g : Text} (hg : q ∉ g) (s : Text) : before q (g ++ q :: s) = some g := by
  induction g with
  | nil => exact if_pos rfl
  | cons c g ih =>
    rw [List.mem_cons, not_or] at hg
    rw [List.cons_append, before, if_neg (Ne.symm hg.1), ih hg.2]
    rfl

/-- Text up to a delimiter is determined by what follows. -/
theorem isPrefixOf_delimited {k x : Text} (hk : q ∉ k) (hx : q ∉ x) (s : Text) :
    (k ++ [q]).isPrefixOf (x ++ q :: s) = true ↔ x = k := by
  induction k generalizing x with
  | nil =>
    cases x with
    | nil => simp
    | cons c x =>
      rw [List.mem_cons, not_or] at hx
      simp [hx.1]
  | cons d k ih =>
    rw [List.mem_cons, not_or] at hk
    cases x with
    | nil => simp [Ne.symm hk.1]
    | cons c x =>
      rw [List.mem_cons, not_or] at hx
      rw [List.cons_append, List.cons_append, List.isPrefixOf_cons_cons, Bool.and_eq_true,
        ih hk.2 hx.2, List.cons.injEq, beq_iff_eq, eq_comm]

/-- At a delimiter the delimited pattern is found when it is the text up to the
next one; else the search goes on from that one. -/
theorem after_delimited {k x : Text} (hk : q ∉ k) (hx : q ∉ x) (s : Text) :
    after (q :: (k ++ [q])) (q :: (x ++ q :: s)) =
      if x = k then some s else after (q :: (k ++ [q])) (q :: s) := by
  conv_lhs => rw [after, List.isPrefixOf_cons_cons, beq_self_eq_true, Bool.true_and]
  by_cases h : x = k
  · rw [if_pos ((isPrefixOf_delimited hk hx s).2 h), if_pos h, h]
    simp
  · rw [if_neg fun hp => h ((isPrefixOf_delimited hk hx s).1 hp), if_neg h,
      after_append_of_not_mem hx]

/-- Behind the last delimiter nothing delimited is found. -/
theorem after_last_delimiter {k x : Text} (hx : q ∉ x) :
    after (q :: (k ++ [q])) (q :: x) = none := by
  have hprefix : ¬ (k ++ [q]).isPrefixOf x = true := by
    rw [List.isPrefixOf_iff_prefix]
    rintro ⟨rest, rfl⟩
    exact hx (by simp)
  rw [after, List.isPrefixOf_cons_cons, beq_self_eq_true, Bool.true_and, if_neg hprefix,
    after_eq_none_of_not_mem hx]

end Delimited

end Text

end AllSquare
