import Mathlib.Data.List.DropRight
import Mathlib.Data.List.Infix
import Mathlib.Tactic.Common

/-! # Slices of a list

Three ways to cut a list, over any type of elements, and what each leaves:

* `stripSuffix_eq_some_iff` — the part before an end that is known;
* `rsplitOnce_eq_some_iff` — the two sides of the last occurrence of a separator;
* `rsplitOnce_append` — a list put together around a separator comes apart there,
  when the separator begins with an element it does not repeat and does not occur
  in what follows;
* `trim_append` — what stands between ends that are trimmed off.
-/

namespace Slices

variable {α : Type*}

section Separators

variable [DecidableEq α]

/-- What precedes the suffix, if the list ends in it. -/
def stripSuffix (suffix s : List α) : Option (List α) :=
  if suffix <:+ s then some (s.take (s.length - suffix.length)) else none

/-- The two sides of the last occurrence of the separator. -/
def rsplitOnce (sep : List α) : List α → Option (List α × List α)
  | [] => if sep = [] then some ([], []) else none
  | a :: s =>
    match rsplitOnce sep s with
    | some (l, r) => some (a :: l, r)
    | none => if sep <+: a :: s then some ([], (a :: s).drop sep.length) else none

variable {sep s l r : List α}

/-! ## Suffixes -/

theorem stripSuffix_eq_some_iff : stripSuffix sep s = some l ↔ s = l ++ sep := by
  unfold stripSuffix
  constructor
  · intro h
    split at h
    · rename_i hsuffix
      rcases hsuffix with ⟨l', rfl⟩
      simpa using h
    · cases h
  · rintro rfl
    simp

theorem stripSuffix_append (l sep : List α) : stripSuffix sep (l ++ sep) = some l :=
  stripSuffix_eq_some_iff.2 rfl

/-! ## The last occurrence -/

theorem rsplitOnce_eq_none_iff : rsplitOnce sep s = none ↔ ¬sep <:+: s := by
  induction s with
  | nil => simp [rsplitOnce]
  | cons a s ih =>
    rw [rsplitOnce, List.infix_cons_iff]
    cases hs : rsplitOnce sep s with
    | some p =>
      -- an occurrence further on is one of the whole list
      have hin : sep <:+: s := by
        by_contra hno
        rw [ih.2 hno] at hs
        cases hs
      simp [hin]
    | none => simp [ih.1 hs]

/-- The cut is at an occurrence of the separator, and no other one starts later. -/
theorem rsplitOnce_last (h : rsplitOnce sep s = some (l, r)) :
    s = l ++ sep ++ r ∧ ∀ l' r', s = l' ++ sep ++ r' → l'.length ≤ l.length := by
  induction s generalizing l with
  | nil =>
    rw [rsplitOnce] at h
    split at h
    · rename_i hsep
      cases h
      refine ⟨by simp [hsep], ?_⟩
      intro l' r' heq
      have hlen := congrArg List.length heq
      simp only [List.length_nil, List.length_append] at hlen ⊢
      omega
    · cases h
  | cons a s ih =>
    rw [rsplitOnce] at h
    cases hs : rsplitOnce sep s with
    | some p =>
      rcases p with ⟨l₀, r₀⟩
      rw [hs] at h
      cases h
      rcases ih hs with ⟨hcut, hlast⟩
      refine ⟨by simp [hcut], ?_⟩
      intro l' r' heq
      cases l' with
      | nil => exact Nat.zero_le _
      | cons b l' => exact Nat.succ_le_succ (hlast l' r' (List.cons.inj heq).2)
    | none =>
      rw [hs] at h
      dsimp only at h
      split at h
      · rename_i hprefix
        cases h
        refine ⟨List.prefix_iff_eq_append.1 hprefix |>.symm, ?_⟩
        intro l' r' heq
        cases l' with
        | nil => exact Nat.le_refl _
        | cons b l' =>
          -- the list behind its first element has no occurrence
          have htail : s = l' ++ sep ++ r' := (List.cons.inj heq).2
          exact absurd ⟨l', r', htail.symm⟩ (rsplitOnce_eq_none_iff.1 hs)
      · cases h

/-- `rsplitOnce` cuts at the last place where the separator occurs. -/
theorem rsplitOnce_eq_some_iff :
    rsplitOnce sep s = some (l, r) ↔
      s = l ++ sep ++ r ∧ ∀ l' r', s = l' ++ sep ++ r' → l'.length ≤ l.length := by
  constructor
  · exact rsplitOnce_last
  · rintro ⟨hcut, hlast⟩
    cases hs : rsplitOnce sep s with
    | none => exact absurd ⟨l, r, hcut.symm⟩ (rsplitOnce_eq_none_iff.1 hs)
    | some p =>
      rcases p with ⟨l', r'⟩
      rcases rsplitOnce_last hs with ⟨hcut', hlast'⟩
      -- both cuts are last, so they are at one place
      have hlen : l'.length = l.length :=
        Nat.le_antisymm (hlast l' r' hcut') (hlast' l r hcut)
      have heq : l' ++ (sep ++ r') = l ++ (sep ++ r) := by
        rw [← List.append_assoc, ← List.append_assoc, ← hcut, ← hcut']
      rcases List.append_inj heq hlen with ⟨rfl, hrest⟩
      rw [List.append_cancel_left hrest]

/-- The separator does not occur behind its last occurrence. -/
theorem not_infix_of_rsplitOnce (hsep : sep ≠ []) (h : rsplitOnce sep s = some (l, r)) :
    ¬sep <:+: r := by
  rintro ⟨x, y, rfl⟩
  rcases rsplitOnce_last h with ⟨hcut, hlast⟩
  have hle := hlast (l ++ sep ++ x) y (by simp [hcut])
  have hpos := List.length_pos_of_ne_nil hsep
  simp only [List.length_append] at hle
  omega

/-- A separator whose first element it does not repeat, put before a list in which
it does not occur, is the last one. -/
theorem rsplitOnce_append {q : α} {k : List α} (hq : q ∉ k) (l : List α)
    (hr : ¬(q :: k) <:+: r) : rsplitOnce (q :: k) (l ++ (q :: k) ++ r) = some (l, r) := by
  rw [rsplitOnce_eq_some_iff]
  refine ⟨rfl, ?_⟩
  intro l' r' heq
  rw [List.append_assoc, List.append_assoc, List.append_eq_append_iff] at heq
  rcases heq with ⟨m, rfl, heq⟩ | ⟨m, rfl, -⟩
  · cases m with
    | nil => simp
    | cons c m =>
      -- a later occurrence starts inside `k` or inside `r`
      exfalso
      rcases List.cons.inj heq with ⟨-, heq⟩
      rcases List.append_eq_append_iff.1 heq with ⟨x, -, rfl⟩ | ⟨x, rfl, hx⟩
      · exact hr ⟨x, r', by simp⟩
      · cases x with
        | nil => exact hr ⟨[], r', by simpa using hx⟩
        | cons d x =>
          obtain rfl : q = d := (List.cons.inj hx).1
          exact hq (by simp)
  · simp

end Separators

/-! ## Ends -/

/-- The list without the elements at its ends that satisfy `p`. -/
def trim (p : α → Bool) (s : List α) : List α := (s.dropWhile p).rdropWhile p

theorem rdropWhile_append_of_pos {p : α → Bool} {w : List α} (s : List α)
    (hw : ∀ a ∈ w, p a = true) : (s ++ w).rdropWhile p = s.rdropWhile p := by
  have hrev : ∀ a ∈ w.reverse, p a = true := by simpa using hw
  rw [List.rdropWhile, List.reverse_append, List.dropWhile_append_of_pos hrev, List.rdropWhile]

/-- Ends that satisfy `p` are trimmed off a list whose own ends do not. -/
theorem trim_append {p : α → Bool} {w s w' : List α} (hw : ∀ a ∈ w, p a = true)
    (hw' : ∀ a ∈ w', p a = true) (hfirst : ∀ a, s.head? = some a → p a = false)
    (hlast : ∀ a, s.getLast? = some a → p a = false) : trim p (w ++ s ++ w') = s := by
  unfold trim
  rw [List.append_assoc, List.dropWhile_append_of_pos hw]
  cases s with
  | nil => simp [List.dropWhile_eq_nil_iff.2 hw']
  | cons a s =>
    have ha : ¬p a = true := by simp [hfirst a rfl]
    rw [List.cons_append, List.dropWhile_cons_of_neg ha, ← List.cons_append,
      rdropWhile_append_of_pos _ hw', List.rdropWhile_eq_self_iff]
    intro hne
    simp [hlast _ (List.getLast?_eq_some_getLast hne)]

end Slices
