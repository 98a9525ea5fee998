import AllSquare.Slices
import AllSquare.Text
import Mathlib

/-! # Whitespace and letter case

A user's text is compared without the whitespace around it and without regard to
the case of ASCII letters. `Recased` says what a change of case may do, and
`eqIgnoreAsciiCase_iff` that the comparison accepts just that. Trimming takes the
whitespace off a text in any case (`trim_recased`).
-/

namespace AllSquare

namespace Text

/-! ## Whitespace -/

/-- The characters with the Unicode property `White_Space`. -/
def isWhitespace (c : Char) : Bool :=
  (0x09 ≤ c.toNat && c.toNat ≤ 0x0d) || c.toNat == 0x20 || c.toNat == 0x85 || c.toNat == 0xa0 ||
    c.toNat == 0x1680 || (0x2000 ≤ c.toNat && c.toNat ≤ 0x200a) || c.toNat == 0x2028 ||
    c.toNat == 0x2029 || c.toNat == 0x202f || c.toNat == 0x205f || c.toNat == 0x3000

/-- The text without whitespace at its ends. -/
def trim (s : Text) : Text := Slices.trim isWhitespace s

/-- A text of whitespace. -/
def Blank (s : Text) : Prop := ∀ c ∈ s, isWhitespace c = true

/-! ## Letter case -/

/-- Equality up to the case of ASCII letters. `Char.toLower` leaves all other
characters as they are. -/
def eqIgnoreAsciiCase (s t : Text) : Bool := s.map Char.toLower == t.map Char.toLower

/-- `t` is `s` with some ASCII letters put in lower or upper case. -/
def Recased (s t : Text) : Prop :=
  List.Forall₂ (fun c d => d = c ∨ d = c.toLower ∨ d = c.toUpper) s t

theorem toLower_eq_toLower_iff {c d : Char} :
    c.toLower = d.toLower ↔ d = c ∨ d = c.toLower ∨ d = c.toUpper := by
  constructor
  · intro h
    have hupper : c.toUpper = d.toUpper := by
      rw [← Char.toUpper_toLower_eq_toUpper c, h, Char.toUpper_toLower_eq_toUpper]
    by_cases hd : d.isUpper = true
    · -- an upper-case letter is its own upper case
      have hsame : d.toUpper = d := Char.toUpper_eq_of_not_isLower (Char.not_isLower_of_isUpper hd)
      exact .inr (.inr (hsame.symm.trans hupper.symm))
    · exact .inr (.inl ((Char.toLower_eq_of_not_isUpper hd).symm.trans h.symm))
  · rintro (rfl | rfl | rfl)
    · rfl
    · exact (Char.toLower_toLower_eq_toLower c).symm
    · exact (Char.toLower_toUpper_eq_toLower c).symm

/-- Two texts are equal up to case when one is the other with its case changed. -/
theorem eqIgnoreAsciiCase_iff {s t : Text} : eqIgnoreAsciiCase s t = true ↔ Recased s t := by
  unfold eqIgnoreAsciiCase Recased
  rw [beq_iff_eq, ← List.forall₂_eq_eq_eq, List.forall₂_map_left_iff, List.forall₂_map_right_iff]
  simp only [toLower_eq_toLower_iff]

/-- A change of case makes no whitespace and removes none. -/
theorem isWhitespace_toLower (c : Char) : isWhitespace c.toLower = isWhitespace c := by
  by_cases hc : c.isUpper = true
  · have hletter (d : Char) (hlow : 0x41 ≤ d.toNat) (hhigh : d.toNat ≤ 0x7a) :
        isWhitespace d = false := by
      simp [isWhitespace]
      omega
    have hrange : 0x41 ≤ c.toNat ∧ c.toNat ≤ 0x5a := by
      simpa [Char.isUpper, UInt32.le_iff_toNat_le, Char.toNat_val] using hc
    have hlower : c.toLower.toNat = c.toNat + 32 := by
      rw [Char.toLower_eq_of_isUpper hc, Char.toNat_ofNat, if_pos]
      exact .inl (by omega)
    rw [hletter c hrange.1 (by omega), hletter c.toLower (by omega) (by omega)]
  · rw [Char.toLower_eq_of_not_isUpper hc]

theorem isWhitespace_eq_of_toLower_eq {c d : Char} (h : c.toLower = d.toLower) :
    isWhitespace c = isWhitespace d := by
  rw [← isWhitespace_toLower c, h, isWhitespace_toLower]

/-- A text whose case has been changed begins with whitespace only if it did. -/
theorem Recased.head_not_whitespace {s t : Text} (h : Recased s t)
    (hs : ∀ c, s.head? = some c → isWhitespace c = false) :
    ∀ d, t.head? = some d → isWhitespace d = false := by
  cases h with
  | nil => simp
  | @cons c d s t hcd hst =>
    intro e he
    obtain rfl : d = e := Option.some.inj he
    rw [← isWhitespace_eq_of_toLower_eq (toLower_eq_toLower_iff.2 hcd)]
    exact hs c rfl

theorem Recased.reverse {s t : Text} (h : Recased s t) : Recased s.reverse t.reverse :=
  List.forall₂_reverse_iff.2 h

/-- Whitespace around a text is trimmed off it in any case, when neither of its ends
is whitespace. -/
theorem trim_recased {s t w w' : Text} (h : Recased s t) (hw : Blank w) (hw' : Blank w')
    (hfirst : ∀ c, s.head? = some c → isWhitespace c = false)
    (hlast : ∀ c, s.getLast? = some c → isWhitespace c = false) : trim (w ++ t ++ w') = t := by
  apply Slices.trim_append hw hw'
  · exact h.head_not_whitespace hfirst
  · rw [List.getLast?_eq_head?_reverse] at hlast ⊢
    exact h.reverse.head_not_whitespace hlast

end Text

end AllSquare
