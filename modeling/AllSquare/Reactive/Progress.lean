import Mathlib.Order.Filter.AtTopBot.Basic
import AllSquare.Reactive

/-! # Progress along schedules

A schedule gives a machine an input for every step of an endless run. It is fair to a
kind of input when inputs of that kind come again and again, which is `∃ᶠ n in atTop`.

* `exists_of_rank` — what a rank leads to: while it has not come about, every step lowers
  the rank or leaves it, with the help it needs, as it was, and a step of that help does
  not leave it;
* `Machine.leads_to` — the same for a machine, where it is a step that is led to.
-/

namespace Reactive

open Filter

/-! ## Ranks -/

section Rank

variable {κ : Type*} {Q : ℕ → Prop} {rank : ℕ → ℕ} {need : ℕ → κ} {helps : κ → ℕ → Prop}

/-- After some steps the goal has been met, the rank is lower, or nothing has changed. -/
theorem rank_persists {n : ℕ}
    (hstep : ∀ m ≥ n, Q (m + 1) ∨ rank (m + 1) < rank m ∨
      (rank (m + 1) = rank m ∧ need (m + 1) = need m ∧ ¬helps (need m) m)) (d : ℕ) :
    (∃ m > n, Q m) ∨ (∃ m > n, rank m < rank n) ∨
      (rank (n + d) = rank n ∧ need (n + d) = need n) := by
  induction d with
  | zero => exact .inr (.inr ⟨rfl, rfl⟩)
  | succ d ih =>
    rcases ih with hQ | hlow | ⟨hrank, hneed⟩
    · exact .inl hQ
    · exact .inr (.inl hlow)
    · rcases hstep (n + d) (Nat.le_add_right n d) with hQ | hlow | ⟨hrank', hneed', -⟩
      · exact .inl ⟨n + d + 1, by omega, hQ⟩
      · rw [hrank] at hlow
        exact .inr (.inl ⟨n + d + 1, by omega, hlow⟩)
      · exact .inr (.inr ⟨hrank'.trans hrank, hneed'.trans hneed⟩)

/-- What a rank leads to under fairness to every help. -/
theorem exists_of_rank (hfair : ∀ k, ∃ᶠ m in atTop, helps k m) (n : ℕ)
    (hstep : ∀ m ≥ n, Q (m + 1) ∨ rank (m + 1) < rank m ∨
      (rank (m + 1) = rank m ∧ need (m + 1) = need m ∧ ¬helps (need m) m)) :
    ∃ m > n, Q m := by
  induction hr : rank n using Nat.strong_induction_on generalizing n with
  | _ r ih =>
    subst hr
    -- the next help that the rank needs now
    rcases frequently_atTop.1 (hfair (need n)) n with ⟨j, hj, hhelps⟩
    obtain ⟨d, rfl⟩ := Nat.exists_eq_add_of_le hj
    have hlower : (∃ m > n, Q m) ∨ ∃ m > n, rank m < rank n := by
      rcases rank_persists hstep d with hQ | hlow | ⟨hrank, hneed⟩
      · exact .inl hQ
      · exact .inr hlow
      · rcases hstep (n + d) hj with hQ | hlow | ⟨-, -, hno⟩
        · exact .inl ⟨n + d + 1, by omega, hQ⟩
        · rw [hrank] at hlow
          exact .inr ⟨n + d + 1, by omega, hlow⟩
        · rw [hneed] at hno
          exact absurd hhelps hno
    rcases hlower with hQ | ⟨m, hm, hlow⟩
    · exact hQ
    · rcases ih (rank m) hlow m (fun m' hm' => hstep m' (by omega)) rfl with ⟨m', hm', hQ⟩
      exact ⟨m', by omega, hQ⟩

end Rank

/-! ## Schedules -/

/-- The first `n` inputs of a schedule. -/
def first {ι : Type*} (sched : ℕ → ι) (n : ℕ) : List ι := (List.range n).map sched

theorem first_succ {ι : Type*} (sched : ℕ → ι) (n : ℕ) :
    first sched (n + 1) = first sched n ++ [sched n] := by
  unfold first
  rw [List.range_succ, List.map_append, List.map_singleton]

namespace Machine

variable {σ ι ο κ : Type*} (M : Machine σ ι ο)

/-- The state after `n` steps of a schedule. -/
def reach (s : σ) (sched : ℕ → ι) (n : ℕ) : σ := M.run s (first sched n)

theorem reach_succ (s : σ) (sched : ℕ → ι) (n : ℕ) :
    M.reach s sched (n + 1) = M.next (M.reach s sched n) (sched n) := by
  unfold reach
  rw [first_succ, M.run_concat]

/-- What the first steps of a schedule hear grows by what each step hears. -/
theorem heardAlong_first_succ {κ' : Type*} (hears : σ → ι → Option κ') (s : σ) (sched : ℕ → ι)
    (n : ℕ) : M.heardAlong hears s (first sched (n + 1)) =
      M.heardAlong hears s (first sched n) ++ (hears (M.reach s sched n) (sched n)).toList := by
  rw [first_succ, M.heardAlong_append, M.heardAlong_cons]
  exact congrArg (_ ++ ·) (List.append_nil _)

/-- A state satisfying `P` leads to a step satisfying `Q`, on a schedule that is fair to all
kinds of input, when every step from a state satisfying `P` either satisfies `Q`, or keeps
`P` and lowers the rank, or keeps all as it is and is not of the kind needed. The step
satisfying `Q` comes from a state satisfying `P`. -/
theorem leads_to {P : σ → Prop} {Q : σ → ι → Prop} (rank : σ → ℕ) (need : σ → κ)
    (kind : κ → ι → Prop)
    (hstep : ∀ s i, P s → Q s i ∨ (P (M.next s i) ∧ (rank (M.next s i) < rank s ∨
      (rank (M.next s i) = rank s ∧ need (M.next s i) = need s ∧ ¬kind (need s) i))))
    {s : σ} {sched : ℕ → ι} (hfair : ∀ k, ∃ᶠ n in atTop, kind k (sched n)) {n : ℕ}
    (h : P (M.reach s sched n)) :
    ∃ m ≥ n, P (M.reach s sched m) ∧ Q (M.reach s sched m) (sched m) := by
  by_contra hnever
  -- until such a step comes `P` holds
  have hkeeps : ∀ m ≥ n, P (M.reach s sched m) →
      P (M.reach s sched (m + 1)) ∧ (rank (M.reach s sched (m + 1)) < rank (M.reach s sched m) ∨
        (rank (M.reach s sched (m + 1)) = rank (M.reach s sched m) ∧
          need (M.reach s sched (m + 1)) = need (M.reach s sched m) ∧
          ¬kind (need (M.reach s sched m)) (sched m))) := by
    intro m hm hP
    rw [M.reach_succ]
    rcases hstep _ (sched m) hP with hQ | hkeep
    · exact absurd ⟨m, hm, hP, hQ⟩ hnever
    · exact hkeep
  have hP : ∀ m ≥ n, P (M.reach s sched m) := by
    intro m hm
    induction m, hm using Nat.le_induction with
    | base => exact h
    | succ m hm ih => exact (hkeeps m hm ih).1
  rcases @exists_of_rank κ (fun _ => False) (fun m => rank (M.reach s sched m))
    (fun m => need (M.reach s sched m)) (fun k m => kind k (sched m)) hfair n
    (fun m hm => .inr (hkeeps m hm (hP m hm)).2) with ⟨m, hm, hfalse⟩
  exact hfalse

end Machine

end Reactive
