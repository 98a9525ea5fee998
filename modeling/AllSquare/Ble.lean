import AllSquare.Protocol.Name
import AllSquare.Text.Matching

/-! # Pinning a device

A user pins a device by its identifier or its advertised name. `matchesPin` decides
whether a device seen in a scan is the pinned one, and `pinning_agrees` says that it
finds the device under every name the device is reported by, and no other by name.
-/

namespace AllSquare

namespace Ble

/-- Whether a device matches a pinned value: its identifier or its advertised name,
ignoring case and surrounding whitespace in the pin. -/
def matchesPin (want address reported : Text) : Bool :=
  let want := Text.trim want
  !want.isEmpty &&
    (Text.eqIgnoreAsciiCase address want ||
      (advertisedName reported).any fun n => Text.eqIgnoreAsciiCase n want)

/-- `pin` is a name with its case changed and whitespace around it. -/
def PinOf (name pin : Text) : Prop :=
  ∃ w t w', Text.Blank w ∧ Text.Recased name t ∧ Text.Blank w' ∧ pin = w ++ t ++ w'

theorem matchesPin_iff {p addr r : Text} :
    matchesPin p addr r = true ↔
      Text.trim p ≠ [] ∧ (Text.Recased addr (Text.trim p) ∨
        ∃ n, advertisedName r = some n ∧ Text.Recased n (Text.trim p)) := by
  unfold matchesPin
  simp only [Bool.and_eq_true, Bool.or_eq_true, Bool.not_eq_true', List.isEmpty_eq_false_iff,
    Option.any_eq_true, Text.eqIgnoreAsciiCase_iff]

/-- A name that begins with the prefix does not begin with whitespace. -/
theorem head_not_whitespace {n : Text} (h : namePrefix <+: n) :
    ∀ c, n.head? = some c → Text.isWhitespace c = false := by
  rcases h with ⟨rest, rfl⟩
  intro c hc
  obtain rfl : 'S' = c := Option.some.inj hc
  rfl

/-- A pin made of a device's advertised name matches the device. -/
theorem matchesPin_of_pinOf {r n p : Text} (addr : Text) (hn : advertisedName r = some n)
    (hlast : ∀ c, n.getLast? = some c → Text.isWhitespace c = false) (hp : PinOf n p) :
    matchesPin p addr r = true := by
  rcases hp with ⟨w, t, w', hw, ht, hw', rfl⟩
  have hstart := (advertisedName_eq_some_iff.1 hn).2
  rw [matchesPin_iff, Text.trim_recased ht hw hw' (head_not_whitespace hstart) hlast]
  refine ⟨?_, .inr ⟨n, hn, ht⟩⟩
  rintro rfl
  cases ht
  exact absurd hstart (by decide)

/-- Taking the advertised name out of a report and pinning by it agree, for all
texts: the name taken out is reported as it is; a name with the prefix and without a
separator is found behind every cached name; a device matches every pin made of its
advertised name, when that does not end in whitespace; and a pin that matches is,
trimmed, not empty and either the identifier or the advertised name up to case, so
that only the identifier can pin a device without one. -/
theorem pinning_agrees :
    (∀ r n, advertisedName r = some n → advertisedName n = some n) ∧
    (∀ g a, namePrefix <+: a → ¬nameSeparator <:+: a →
      advertisedName (cachedName g a) = some a) ∧
    (∀ r n, advertisedName r = some n →
      (∀ c, n.getLast? = some c → Text.isWhitespace c = false) →
      ∀ addr p, PinOf n p → matchesPin p addr r = true) ∧
    (∀ p addr r, matchesPin p addr r = true →
      Text.trim p ≠ [] ∧ (Text.Recased addr (Text.trim p) ∨
        ∃ n, advertisedName r = some n ∧ Text.Recased n (Text.trim p))) ∧
    ∀ p addr r, advertisedName r = none → matchesPin p addr r = true →
      Text.Recased addr (Text.trim p) := by
  refine ⟨?_, ?_, ?_, ?_, ?_⟩
  · intro r n h
    exact advertisedName_idem h
  · intro g a hstart ha
    exact advertisedName_cachedName g hstart ha
  · intro r n hn hlast addr p hp
    exact matchesPin_of_pinOf addr hn hlast hp
  · intro p addr r h
    exact matchesPin_iff.1 h
  · intro p addr r hnone h
    rcases (matchesPin_iff.1 h).2 with haddr | ⟨n, hn, -⟩
    · exact haddr
    · rw [hnone] at hn
      cases hn

/-- An Omni that has been connected to before, pinned in lower case. -/
theorem pinning_agrees_omni :
    matchesPin " squaregolf(cd01)\n".toList [] "SGO300A [SquareGolf(CD01)]".toList = true := by
  have hname :=
    pinning_agrees.2.1 "SGO300A".toList "SquareGolf(CD01)".toList (by decide) (by decide)
  have hblank {c : Char} (hc : Text.isWhitespace c = true) : Text.Blank [c] := by
    intro d hd
    rwa [List.mem_singleton.1 hd]
  refine pinning_agrees.2.2.1 _ _ hname ?_ [] _ ?_
  · intro c hc
    obtain rfl : ')' = c := Option.some.inj hc
    rfl
  · exact ⟨[' '], "squaregolf(cd01)".toList, ['\n'], hblank rfl,
      Text.eqIgnoreAsciiCase_iff.1 (by decide), hblank rfl, rfl⟩

end Ble

end AllSquare
