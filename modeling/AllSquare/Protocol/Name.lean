import AllSquare.Slices
import AllSquare.Text

/-! # Advertised names

The Bluetooth stack reports a device under its advertised name, or, where it has
connected to it before, as `<cached GAP name> [<advertised name>]`.
`advertisedName` takes the advertised name out of the report. It reads the second
form at the last bracket that a blank precedes, so a GAP name may hold brackets of
its own (`advertisedName_cachedName`), and a name once taken out is reported as it
is (`advertisedName_idem`).
-/

namespace AllSquare

/-- Name prefix advertised by both the Home and the Omni. -/
def namePrefix : Text := "SquareGolf".toList

/-- What stands between a cached name and the advertised one. -/
def nameSeparator : Text := " [".toList

/-- The report of a device connected to before. -/
def cachedName (gap advertised : Text) : Text := gap ++ nameSeparator ++ advertised ++ [']']

/-- The part of a report that can be the advertised name. -/
def advertisedPart (reported : Text) : Text :=
  ((Slices.stripSuffix [']'] reported).bind (Slices.rsplitOnce nameSeparator)).elim reported
    Prod.snd

/-- The advertised Square Golf name within a name reported by the Bluetooth stack. -/
def advertisedName (reported : Text) : Option Text :=
  if namePrefix <+: advertisedPart reported then some (advertisedPart reported) else none

/-! ## The part taken out -/

/-- A report without a separator is the name itself. -/
theorem advertisedPart_of_not_infix {r : Text} (h : ¬nameSeparator <:+: r) :
    advertisedPart r = r := by
  unfold advertisedPart
  cases hs : Slices.stripSuffix [']'] r with
  | none => rfl
  | some s =>
    rw [Slices.stripSuffix_eq_some_iff] at hs
    have hno : ¬nameSeparator <:+: s := by
      intro hin
      rw [hs] at h
      exact h (hin.trans (List.prefix_append s [']']).isInfix)
    rw [Option.bind_some, Slices.rsplitOnce_eq_none_iff.2 hno, Option.elim_none]

/-- The name in the brackets is taken out, whatever the cached name. -/
theorem advertisedPart_cachedName (g : Text) {a : Text} (ha : ¬nameSeparator <:+: a) :
    advertisedPart (cachedName g a) = a := by
  unfold advertisedPart cachedName
  rw [Slices.stripSuffix_append, Option.bind_some]
  have hsplit : Slices.rsplitOnce nameSeparator (g ++ nameSeparator ++ a) = some (g, a) :=
    Slices.rsplitOnce_append (q := ' ') (k := ['[']) (by decide) g ha
  rw [hsplit, Option.elim_some]

/-- A report is one of a device connected to before, or the part is the whole of it. -/
theorem advertisedPart_cases (r : Text) :
    (∃ g, r = cachedName g (advertisedPart r) ∧ ¬nameSeparator <:+: advertisedPart r) ∨
      advertisedPart r = r := by
  unfold advertisedPart
  cases hs : Slices.stripSuffix [']'] r with
  | none => exact .inr rfl
  | some s =>
    rw [Slices.stripSuffix_eq_some_iff] at hs
    rw [Option.bind_some]
    cases hsplit : Slices.rsplitOnce nameSeparator s with
    | none => exact .inr rfl
    | some p =>
      rcases p with ⟨g, a⟩
      refine .inl ⟨g, ?_, Slices.not_infix_of_rsplitOnce (by decide) hsplit⟩
      rw [hs, (Slices.rsplitOnce_last hsplit).1]
      rfl

theorem advertisedPart_idem (r : Text) : advertisedPart (advertisedPart r) = advertisedPart r := by
  rcases advertisedPart_cases r with ⟨g, -, hno⟩ | hsame
  · exact advertisedPart_of_not_infix hno
  · rw [hsame, hsame]

/-! ## The name -/

theorem advertisedName_eq_some_iff {r n : Text} :
    advertisedName r = some n ↔ advertisedPart r = n ∧ namePrefix <+: n := by
  unfold advertisedName
  constructor
  · intro h
    split at h
    · rename_i hstart
      obtain rfl : advertisedPart r = n := Option.some.inj h
      exact ⟨rfl, hstart⟩
    · cases h
  · rintro ⟨rfl, hstart⟩
    exact if_pos hstart

/-- The advertised name is reported as it is. -/
theorem advertisedName_idem {r n : Text} (h : advertisedName r = some n) :
    advertisedName n = some n := by
  rw [advertisedName_eq_some_iff] at h ⊢
  rcases h with ⟨rfl, hstart⟩
  exact ⟨advertisedPart_idem r, hstart⟩

/-- The advertised name is found behind every cached name. -/
theorem advertisedName_cachedName (g : Text) {a : Text} (hstart : namePrefix <+: a)
    (ha : ¬nameSeparator <:+: a) : advertisedName (cachedName g a) = some a :=
  advertisedName_eq_some_iff.2 ⟨advertisedPart_cachedName g ha, hstart⟩

end AllSquare
