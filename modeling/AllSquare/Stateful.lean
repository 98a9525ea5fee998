import Mathlib.Tactic.Common

/-! # Stateful computations that may fail

A computation over a state `σ` that ends in a value or an error `ε`, and keeps
the state it has reached in both cases. `exec` runs it; the lemmas say what
running does to each way of building a computation, so that a proof peels one
apart from the front (`exec_bind`) and never unfolds the monad.
-/

/-- Computations over `σ` that may fail with `ε` and keep the state if they do. -/
abbrev Stateful (ε σ : Type) : Type → Type := ExceptT ε (StateM σ)

namespace Stateful

variable {ε σ α β : Type}

/-- Run a computation from a state. -/
def exec (m : Stateful ε σ α) (s : σ) : σ × Except ε α := ((m.run s).2, (m.run s).1)

theorem exec_bind (m : Stateful ε σ α) (f : α → Stateful ε σ β) (s : σ) :
    (m >>= f).exec s =
      match m.exec s with
      | (s', .ok a) => (f a).exec s'
      | (s', .error e) => (s', .error e) := by
  rcases hm : m.run s with ⟨r, s'⟩
  -- `run_bind` leaves a match on the pair; naming both parts first makes it reduce
  have hbind (k : Except ε α → StateM σ (Except ε β)) : (m.run >>= k) s = k r s' := by
    show k (m.run s).1 (m.run s).2 = k r s'
    rw [hm]
  unfold exec
  rw [ExceptT.run_bind, hbind, hm]
  cases r <;> rfl

@[simp] theorem exec_pure (a : α) (s : σ) : (pure a : Stateful ε σ α).exec s = (s, .ok a) := rfl

@[simp] theorem exec_throw (e : ε) (s : σ) :
    (throw e : Stateful ε σ α).exec s = (s, .error e) := rfl

@[simp] theorem exec_get (s : σ) : (get : Stateful ε σ σ).exec s = (s, .ok s) := rfl

@[simp] theorem exec_set (s' s : σ) : (set s' : Stateful ε σ PUnit).exec s = (s', .ok ⟨⟩) := rfl

@[simp] theorem exec_modify (f : σ → σ) (s : σ) :
    (modify f : Stateful ε σ PUnit).exec s = (f s, .ok ⟨⟩) := rfl

@[simp] theorem exec_ite (p : Prop) [Decidable p] (m m' : Stateful ε σ α) (s : σ) :
    (if p then m else m').exec s = if p then m.exec s else m'.exec s := by
  split <;> rfl

end Stateful
