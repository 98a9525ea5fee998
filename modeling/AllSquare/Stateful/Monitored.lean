import AllSquare.Reactive
import AllSquare.Stateful

/-! # Computations that log what they do

A computation that appends every call it makes to a log, and a machine that watches the
log as a monitor. `Conforms` is the triple for the two: from a monitor state satisfying `P`
all calls of the computation meet the guard, and if it returns a value the monitor ends in
a state that satisfies `Q` of it. The rules follow the ways of building a computation.
-/

namespace Stateful

open Reactive

variable {ε γ σ ο α β : Type} {M : Machine σ γ ο} {G : σ → γ → Prop}
  {P : σ → Prop} {Q : α → σ → Prop}

/-- Make a call. -/
def log (c : γ) : Stateful ε (List γ) PUnit := modify (· ++ [c])

/-- From `P` the computation makes only calls that meet `G`, and returns in `Q`. -/
def Conforms (M : Machine σ γ ο) (G : σ → γ → Prop) (P : σ → Prop)
    (m : Stateful ε (List γ) α) (Q : α → σ → Prop) : Prop :=
  ∀ cs s, P s → ∃ cs', (m.exec cs).1 = cs ++ cs' ∧ M.Meets G s cs' ∧
    ∀ a, (m.exec cs).2 = .ok a → Q a (M.run s cs')

theorem Conforms.pure {a : α} (h : ∀ s, P s → Q a s) :
    Conforms M G P (Pure.pure a : Stateful ε (List γ) α) Q := by
  intro cs s hs
  refine ⟨[], (List.append_nil cs).symm, trivial, ?_⟩
  intro a' ha'
  obtain rfl : a = a' := Except.ok.inj ha'
  exact h s hs

theorem Conforms.throw (e : ε) :
    Conforms M G P (MonadExcept.throw e : Stateful ε (List γ) α) Q := by
  intro cs s _
  refine ⟨[], (List.append_nil cs).symm, trivial, ?_⟩
  intro a ha
  cases ha

/-- A call is permitted where it is made. -/
theorem Conforms.log {c : γ} {Q : PUnit → σ → Prop}
    (h : ∀ s, P s → G s c ∧ Q ⟨⟩ (M.next s c)) :
    Conforms M G P (Stateful.log c : Stateful ε (List γ) PUnit) Q := by
  intro cs s hs
  refine ⟨[c], rfl, ⟨(h s hs).1, trivial⟩, ?_⟩
  intro _ _
  exact (h s hs).2

/-- One computation after another. -/
theorem Conforms.bind {m : Stateful ε (List γ) α} {f : α → Stateful ε (List γ) β}
    {R : β → σ → Prop} (h : Conforms M G P m Q) (hf : ∀ a, Conforms M G (Q a) (f a) R) :
    Conforms M G P (m >>= f) R := by
  intro cs s hs
  rcases h cs s hs with ⟨cs₁, hlog, hmeets, hok⟩
  rw [exec_bind]
  generalize m.exec cs = out at hlog hok
  rcases out with ⟨cs', r⟩
  obtain rfl : cs' = cs ++ cs₁ := hlog
  cases r with
  | error e =>
    refine ⟨cs₁, rfl, hmeets, ?_⟩
    intro b hb
    cases hb
  | ok a =>
    rcases hf a (cs ++ cs₁) (M.run s cs₁) (hok a rfl) with ⟨cs₂, hlog', hmeets', hok'⟩
    refine ⟨cs₁ ++ cs₂, ?_, M.meets_append.2 ⟨hmeets, hmeets'⟩, ?_⟩
    · rw [← List.append_assoc]
      exact hlog'
    · rw [M.run_append]
      exact hok'

/-- What holds before and after may be weakened. -/
theorem Conforms.mono {m : Stateful ε (List γ) α} {P' : σ → Prop} {Q' : α → σ → Prop}
    (h : Conforms M G P m Q) (hP : ∀ s, P' s → P s) (hQ : ∀ a s, Q a s → Q' a s) :
    Conforms M G P' m Q' := by
  intro cs s hs
  rcases h cs s (hP s hs) with ⟨cs', hlog, hmeets, hok⟩
  exact ⟨cs', hlog, hmeets, fun a ha => hQ a _ (hok a ha)⟩

/-- What is known besides of the state may be assumed. -/
theorem Conforms.assume {m : Stateful ε (List γ) α} {p : Prop} (h : p → Conforms M G P m Q) :
    Conforms M G (fun s => P s ∧ p) m Q := by
  rintro cs s ⟨hs, hp⟩
  exact h hp cs s hs

end Stateful
