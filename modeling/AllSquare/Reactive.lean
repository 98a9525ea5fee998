import Mathlib.Algebra.GroupWithZero.Nat
import Mathlib.Data.List.Destutter
import Mathlib.Data.List.ReduceOption

/-! # Reactive machines

A machine takes one input at a time, moves to a next state and gives an
output. This file has the rules the rest of the development uses to go from one
step to a whole run:

* `run_invariant`, `run_invariant_of_meets` — what every step preserves, every run
  preserves, and what every guarded step does, every guarded run;
* `meets_of_invariant`, `always_iff_meets` — a property of every step, or of
  every state, of a run, from an invariant;
* `sum_trace_le` — what every step spends of a potential, a run spends of it;
* `run_eq_lastSet` — a part of the state that inputs set is what the last of them set;
* `lastStep_concat` — how the last step of a kind moves with the run;
* `exists_step_of_log` — what a run has added to a log, one of its steps has added;
* `meets_iff_heardAlong` — a machine that stays related to another one on the
  inputs it hears agrees with it on related step properties;
* `Refines.run_eq`, `Refines.outs_eq` — a machine that acts on some of its inputs
  as an abstract one does, and on the others not at all, runs as the abstract one
  on the inputs it heard;
* `run_unrolled` — a machine whose steps are runs of another one runs as that one;
* `run_destutter`, `outs_destutter` — a machine that ignores an input equal to
  the one it has just taken cannot tell a sequence from its collapsed form.
-/

namespace Reactive

/-- A deterministic machine with states `σ`, inputs `ι` and outputs `ο`. -/
structure Machine (σ ι ο : Type*) where
  step : σ → ι → σ × ο

namespace Machine

variable {σ τ ι κ ο ο' ω : Type*} (M : Machine σ ι ο)

/-! ## Runs -/

/-- The state after one input. -/
def next (s : σ) (i : ι) : σ := (M.step s i).1

/-- The output for one input. -/
def out (s : σ) (i : ι) : ο := (M.step s i).2

theorem next_eq {s s' : σ} {i : ι} {o : ο} (h : M.step s i = (s', o)) : M.next s i = s' :=
  congrArg Prod.fst h

theorem out_eq {s s' : σ} {i : ι} {o : ο} (h : M.step s i = (s', o)) : M.out s i = o :=
  congrArg Prod.snd h

/-- The state after a list of inputs. -/
def run : σ → List ι → σ
  | s, [] => s
  | s, i :: is => run (M.next s i) is

/-- What `f` says of each step of a run, in order. -/
def trace (f : σ → ι → ω) : σ → List ι → List ω
  | _, [] => []
  | s, i :: is => f s i :: trace f (M.next s i) is

/-- The outputs along a list of inputs, in order. -/
def outs (s : σ) (is : List ι) : List ο := M.trace M.out s is

@[simp] theorem run_nil (s : σ) : M.run s [] = s := rfl

@[simp] theorem run_cons (s : σ) (i : ι) (is : List ι) :
    M.run s (i :: is) = M.run (M.next s i) is := rfl

@[simp] theorem trace_nil (f : σ → ι → ω) (s : σ) : M.trace f s [] = [] := rfl

@[simp] theorem trace_cons (f : σ → ι → ω) (s : σ) (i : ι) (is : List ι) :
    M.trace f s (i :: is) = f s i :: M.trace f (M.next s i) is := rfl

@[simp] theorem outs_nil (s : σ) : M.outs s [] = [] := rfl

@[simp] theorem outs_cons (s : σ) (i : ι) (is : List ι) :
    M.outs s (i :: is) = M.out s i :: M.outs (M.next s i) is := rfl

theorem run_append (s : σ) (is js : List ι) :
    M.run s (is ++ js) = M.run (M.run s is) js := by
  induction is generalizing s with
  | nil => rfl
  | cons i is ih => exact ih (M.next s i)

theorem run_concat (s : σ) (is : List ι) (i : ι) :
    M.run s (is ++ [i]) = M.next (M.run s is) i :=
  M.run_append s is [i]

theorem trace_append (f : σ → ι → ω) (s : σ) (is js : List ι) :
    M.trace f s (is ++ js) = M.trace f s is ++ M.trace f (M.run s is) js := by
  induction is generalizing s with
  | nil => rfl
  | cons i is ih => simp [ih (M.next s i)]

theorem outs_append (s : σ) (is js : List ι) :
    M.outs s (is ++ js) = M.outs s is ++ M.outs (M.run s is) js :=
  M.trace_append M.out s is js

/-! ## Properties of every step and of every state -/

/-- Every step of the run from `s` satisfies `G`, a condition on the state
before the step and its input. -/
def Meets (G : σ → ι → Prop) : σ → List ι → Prop
  | _, [] => True
  | s, i :: is => G s i ∧ Meets G (M.next s i) is

/-- Every state of the run from `s` satisfies `P`, the first included. -/
def Always (P : σ → Prop) (s : σ) (is : List ι) : Prop :=
  ∀ pre post, is = pre ++ post → P (M.run s pre)

@[simp] theorem meets_nil (G : σ → ι → Prop) (s : σ) : M.Meets G s [] := trivial

/-- A condition of every input is met by a list of inputs that satisfy it. -/
theorem meets_of_forall {G : ι → Prop} {s : σ} {is : List ι} (h : ∀ i ∈ is, G i) :
    M.Meets (fun _ i => G i) s is := by
  induction is generalizing s with
  | nil => trivial
  | cons i is ih => exact ⟨h i (by simp), ih fun j hj => h j (by simp [hj])⟩

@[simp] theorem meets_cons {G : σ → ι → Prop} {s : σ} {i : ι} {is : List ι} :
    M.Meets G s (i :: is) ↔ G s i ∧ M.Meets G (M.next s i) is := Iff.rfl

theorem meets_append {G : σ → ι → Prop} {s : σ} {is js : List ι} :
    M.Meets G s (is ++ js) ↔ M.Meets G s is ∧ M.Meets G (M.run s is) js := by
  induction is generalizing s with
  | nil => simp
  | cons i is ih => simp [ih, and_assoc]

/-- `Meets` says its condition of each step the run can be split at. -/
theorem meets_iff {G : σ → ι → Prop} {s : σ} {is : List ι} :
    M.Meets G s is ↔ ∀ pre i post, is = pre ++ i :: post → G (M.run s pre) i := by
  constructor
  · rintro h pre i post rfl
    exact (M.meets_append.1 h).2.1
  · intro h
    induction is generalizing s with
    | nil => trivial
    | cons i is ih =>
      refine ⟨h [] i is rfl, ih fun pre j post heq => ?_⟩
      exact h (i :: pre) j post (by rw [heq, List.cons_append])

/-- What every step makes sure of its output holds of every output. -/
theorem forall_mem_outs {P : ο → Prop} {s : σ} {is : List ι}
    (h : M.Meets (fun s i => P (M.out s i)) s is) : ∀ o ∈ M.outs s is, P o := by
  induction is generalizing s with
  | nil => simp
  | cons i is ih =>
    intro o ho
    rcases List.mem_cons.1 ho with rfl | ho
    · exact h.1
    · exact ih h.2 o ho

theorem always_cons {P : σ → Prop} {s : σ} {i : ι} {is : List ι} :
    M.Always P s (i :: is) ↔ P s ∧ M.Always P (M.next s i) is := by
  constructor
  · intro h
    refine ⟨h [] (i :: is) rfl, ?_⟩
    intro pre post heq
    exact h (i :: pre) post (by rw [heq, List.cons_append])
  · rintro ⟨h0, h⟩ pre post heq
    cases pre with
    | nil => exact h0
    | cons j pre =>
      obtain ⟨rfl, rfl⟩ : i = j ∧ is = pre ++ post := by simpa using heq
      exact h pre post rfl

/-! ## Invariants -/

theorem run_invariant (I : σ → Prop) (hstep : ∀ s i, I s → I (M.next s i)) {s : σ}
    (is : List ι) (h : I s) : I (M.run s is) := by
  induction is generalizing s with
  | nil => exact h
  | cons i is ih => exact ih (hstep s i h)

/-- What every guarded step preserves, a guarded run preserves. -/
theorem run_invariant_of_meets (I : σ → Prop) {G : σ → ι → Prop}
    (hstep : ∀ s i, I s → G s i → I (M.next s i)) {s : σ} {is : List ι} (h : I s)
    (hG : M.Meets G s is) : I (M.run s is) := by
  induction is generalizing s with
  | nil => exact h
  | cons i is ih => exact ih (hstep s i h hG.1) hG.2

/-- A step property that follows from an invariant and the guard holds of every
step of a guarded run. -/
theorem meets_of_invariant (I : σ → Prop) {G P : σ → ι → Prop}
    (hstep : ∀ s i, I s → G s i → P s i ∧ I (M.next s i)) {s : σ} {is : List ι}
    (h : I s) (hG : M.Meets G s is) : M.Meets P s is := by
  induction is generalizing s with
  | nil => trivial
  | cons i is ih =>
    rcases hstep s i h hG.1 with ⟨hP, hI⟩
    exact ⟨hP, ih hI hG.2⟩

/-- What does not hold at first and holds in the end, some step has brought about. -/
theorem exists_change (P : σ → Prop) {s : σ} {is : List ι} (h : ¬P s) (hend : P (M.run s is)) :
    ∃ pre i post, is = pre ++ i :: post ∧ ¬P (M.run s pre) ∧ P (M.next (M.run s pre) i) := by
  induction is generalizing s with
  | nil => exact absurd hend h
  | cons i is ih =>
    by_cases hi : P (M.next s i)
    · exact ⟨[], i, is, rfl, h, hi⟩
    · rcases ih hi hend with ⟨pre, j, post, rfl, hpre, hj⟩
      exact ⟨i :: pre, j, post, rfl, hpre, hj⟩

/-- What every step spends of a potential, a run spends of it. -/
theorem sum_trace_le (I : σ → Prop) (hinv : ∀ s i, I s → I (M.next s i)) (potential : σ → ℕ)
    (cost : σ → ι → ℕ) (hstep : ∀ s i, I s → cost s i + potential (M.next s i) ≤ potential s)
    {s : σ} (h : I s) (is : List ι) :
    (M.trace cost s is).sum + potential (M.run s is) ≤ potential s := by
  induction is generalizing s with
  | nil => simp
  | cons i is ih =>
    have hfirst := hstep s i h
    have hrest := ih (hinv s i h)
    rw [trace_cons, List.sum_cons, run_cons]
    omega

/-- When, under the invariant `I`, `G` is exactly what a step needs to keep `P`, a
run keeps `P` throughout exactly when all its steps meet `G`. -/
theorem always_iff_meets (I P : σ → Prop) {G : σ → ι → Prop}
    (hinv : ∀ s i, I s → I (M.next s i))
    (hstep : ∀ s i, I s → P s → (P (M.next s i) ↔ G s i)) {s : σ} {is : List ι}
    (hI : I s) (hP : P s) : M.Always P s is ↔ M.Meets G s is := by
  induction is generalizing s with
  | nil =>
    refine ⟨fun _ => trivial, ?_⟩
    intro _ pre post heq
    rcases List.append_eq_nil_iff.1 heq.symm with ⟨rfl, -⟩
    exact hP
  | cons i is ih =>
    -- `P` of the next state is the first obligation of the rest of the run, and by
    -- `hstep` it is `G` of this step
    have hnextI : I (M.next s i) := hinv s i hI
    rw [always_cons, meets_cons]
    constructor
    · rintro ⟨-, hrest⟩
      have hnext : P (M.next s i) := hrest [] is rfl
      exact ⟨(hstep s i hI hP).1 hnext, (ih hnextI hnext).1 hrest⟩
    · rintro ⟨hG, hrest⟩
      exact ⟨hP, (ih hnextI ((hstep s i hI hP).2 hG)).2 hrest⟩

/-! ## The last input of a kind -/

/-- A part of the state that every input sets or leaves is what was set last. -/
theorem run_eq_lastSet (part : σ → ω) (set : ι → Option ω)
    (hset : ∀ s i, part (M.next s i) = (set i).getD (part s)) (s : σ) (is : List ι) :
    part (M.run s is) = (is.filterMap set).getLast?.getD (part s) := by
  induction is using List.reverseRecOn with
  | nil => rfl
  | append_singleton is i ih =>
    rw [run_concat, hset, ih, List.filterMap_append, List.getLast?_append]
    cases hi : set i with
    | none => simp [hi]
    | some v => simp [hi]


/-- The run splits at its last step that satisfies `G`: `pre` comes before it and
it takes `i`. -/
def LastStep (G : σ → ι → Prop) (s : σ) (is pre : List ι) (i : ι) : Prop :=
  ∃ post, is = pre ++ i :: post ∧ G (M.run s pre) i ∧
    M.Meets (fun s i => ¬G s i) (M.run s (pre ++ [i])) post

/-- A further step is the last one of its kind, or leaves the last one as it was. -/
theorem lastStep_concat {G : σ → ι → Prop} {s : σ} {is : List ι} {j : ι} {pre : List ι} {i : ι} :
    M.LastStep G s (is ++ [j]) pre i ↔
      (G (M.run s is) j ∧ pre = is ∧ i = j) ∨ (¬G (M.run s is) j ∧ M.LastStep G s is pre i) := by
  constructor
  · rintro ⟨post, heq, hG, hpost⟩
    rcases List.eq_nil_or_concat' post with rfl | ⟨post, k, rfl⟩
    · rcases List.append_inj' heq rfl with ⟨rfl, hj⟩
      obtain rfl := List.singleton_inj.1 hj
      exact .inl ⟨hG, rfl, rfl⟩
    · have heq' : is ++ [j] = (pre ++ i :: post) ++ [k] := by simpa using heq
      rcases List.append_inj' heq' rfl with ⟨rfl, hj⟩
      obtain rfl := List.singleton_inj.1 hj
      rcases M.meets_append.1 hpost with ⟨hrest, hlast, -⟩
      rw [← M.run_append, List.append_assoc] at hlast
      exact .inr ⟨hlast, post, rfl, hG, hrest⟩
  · rintro (⟨hG, rfl, rfl⟩ | ⟨hG, post, rfl, hi, hpost⟩)
    · exact ⟨[], rfl, hG, trivial⟩
    · refine ⟨post ++ [j], by simp, hi, M.meets_append.2 ⟨hpost, ?_, trivial⟩⟩
      rw [← M.run_append, List.append_assoc]
      exact hG

/-! ## Logs -/

/-- A log that every step extends is extended by a whole run. -/
theorem log_prefix_run (log : σ → List ω) (hgrow : ∀ s i, log s <+: log (M.next s i)) (s : σ)
    (is : List ι) : log s <+: log (M.run s is) := by
  induction is generalizing s with
  | nil => exact List.prefix_rfl
  | cons i is ih => exact (hgrow s i).trans (ih (M.next s i))

/-- An entry that a run has added to such a log was added by one of its steps. -/
theorem exists_step_of_log (log : σ → List ω) (hgrow : ∀ s i, log s <+: log (M.next s i)) {s : σ}
    {is : List ι} {l₁ : List ω} {w : ω} {l₂ : List ω} (h : log (M.run s is) = l₁ ++ w :: l₂)
    (hlen : (log s).length ≤ l₁.length) :
    ∃ pre i post l l', is = pre ++ i :: post ∧ l₁ = log (M.run s pre) ++ l ∧
      log (M.run s (pre ++ [i])) = l₁ ++ w :: l' := by
  induction is generalizing s with
  | nil =>
    rw [run_nil] at h
    rw [h, List.length_append, List.length_cons] at hlen
    omega
  | cons i is ih =>
    by_cases hnext : (log (M.next s i)).length ≤ l₁.length
    · rcases ih h hnext with ⟨pre, j, post, l, l', rfl, hl, hj⟩
      exact ⟨i :: pre, j, post, l, l', rfl, hl, hj⟩
    · -- the log passes the entry's place at this step, so this step added it
      have hrun := M.log_prefix_run log hgrow (M.next s i) is
      rw [run_cons] at h
      rw [h] at hrun
      have hl₁ : l₁ <+: log (M.next s i) :=
        List.prefix_of_prefix_length_le (List.prefix_append l₁ (w :: l₂)) hrun (by omega)
      rcases hl₁ with ⟨l', hl'⟩
      have hlog : log s <+: l₁ := by
        refine List.prefix_of_prefix_length_le (hgrow s i) ?_ hlen
        exact ⟨l', hl'⟩
      rcases hlog with ⟨l, hl⟩
      rw [← hl', List.prefix_append_right_inj] at hrun
      cases l' with
      | nil =>
        rw [← hl', List.append_nil] at hnext
        exact absurd (Nat.le_refl _) hnext
      | cons v l' =>
        obtain rfl : v = w := (List.cons_prefix_cons.1 hrun).1
        exact ⟨[], i, is, l, l', rfl, hl.symm, hl'.symm⟩

/-! ## Two machines, one hearing the other's inputs -/

/-- `M` refines `N`: under the invariant `I`, an input that meets `E` and that
`hears` turns into one of `N` moves the abstract state and emits what `N` does;
one that it turns into none leaves the abstract state alone and emits nothing. -/
structure Refines (N : Machine τ κ ο') (I : σ → Prop) (E : σ → ι → Prop) (abs : σ → τ)
    (hears : σ → ι → Option κ) (emit : ο → List ω) (emit' : ο' → List ω) : Prop where
  inv : ∀ s i, I s → E s i → I (M.next s i)
  quiet : ∀ s i, I s → E s i → hears s i = none →
    abs (M.next s i) = abs s ∧ emit (M.out s i) = []
  heard : ∀ s i k, I s → E s i → hears s i = some k →
    abs (M.next s i) = N.next (abs s) k ∧ emit (M.out s i) = emit' (N.out (abs s) k)

section Refines

variable {M} {N : Machine τ κ ο'} {I : σ → Prop} {E : σ → ι → Prop} {abs : σ → τ}
  {hears : σ → ι → Option κ} {emit : ο → List ω} {emit' : ο' → List ω}

/-- The inputs of the abstract machine that a run hears. -/
def heardAlong (M : Machine σ ι ο) (hears : σ → ι → Option κ) (s : σ) (is : List ι) : List κ :=
  (M.trace hears s is).reduceOption

theorem heardAlong_cons_of_none (M : Machine σ ι ο) {hears : σ → ι → Option κ} {s : σ} {i : ι}
    (h : hears s i = none) (is : List ι) :
    M.heardAlong hears s (i :: is) = M.heardAlong hears (M.next s i) is := by
  unfold heardAlong
  rw [trace_cons, h, List.reduceOption_cons_of_none]

theorem heardAlong_cons_of_some (M : Machine σ ι ο) {hears : σ → ι → Option κ} {s : σ} {i : ι}
    {k : κ} (h : hears s i = some k) (is : List ι) :
    M.heardAlong hears s (i :: is) = k :: M.heardAlong hears (M.next s i) is := by
  unfold heardAlong
  rw [trace_cons, h, List.reduceOption_cons_of_some]

theorem heardAlong_cons (M : Machine σ ι ο) (hears : σ → ι → Option κ) (s : σ) (i : ι)
    (is : List ι) :
    M.heardAlong hears s (i :: is) = (hears s i).toList ++ M.heardAlong hears (M.next s i) is := by
  cases h : hears s i with
  | none => exact M.heardAlong_cons_of_none h is
  | some k => exact M.heardAlong_cons_of_some h is

theorem heardAlong_append (M : Machine σ ι ο) (hears : σ → ι → Option κ) (s : σ)
    (is js : List ι) :
    M.heardAlong hears s (is ++ js) =
      M.heardAlong hears s is ++ M.heardAlong hears (M.run s is) js := by
  unfold heardAlong
  rw [trace_append, List.reduceOption_append]

/-- What holds of whatever an input of a run can be heard as holds of all that it hears. -/
theorem forall_mem_heardAlong (M : Machine σ ι ο) {hears : σ → ι → Option κ} {P : κ → Prop}
    {is : List ι} (h : ∀ s, ∀ i ∈ is, ∀ k, hears s i = some k → P k) (s : σ) :
    ∀ k ∈ M.heardAlong hears s is, P k := by
  induction is generalizing s with
  | nil =>
    intro k hk
    cases hk
  | cons i is ih =>
    intro k hk
    rw [heardAlong_cons] at hk
    rcases List.mem_append.1 hk with hk | hk
    · exact h s i (List.mem_cons_self ..) k (Option.mem_toList.1 hk)
    · exact ih (fun s j hj => h s j (List.mem_cons_of_mem _ hj)) (M.next s i) k hk

/-- When what is heard is read off the input alone, it is a filter of them. -/
theorem heardAlong_eq_filterMap (M : Machine σ ι ο) (f : ι → Option κ) (s : σ) (is : List ι) :
    M.heardAlong (fun _ i => f i) s is = is.filterMap f := by
  induction is generalizing s with
  | nil => rfl
  | cons i is ih =>
    cases hi : f i with
    | none => rw [M.heardAlong_cons_of_none hi, ih, List.filterMap_cons_none hi]
    | some k => rw [M.heardAlong_cons_of_some hi, ih, List.filterMap_cons_some hi]

/-- What is heard under an invariant may be read in another way that agrees there. -/
theorem heardAlong_congr (M : Machine σ ι ο) {hears hears' : σ → ι → Option κ} (I : σ → Prop)
    (hstep : ∀ s i, I s → I (M.next s i)) (heq : ∀ s i, I s → hears s i = hears' s i) {s : σ}
    (h : I s) (is : List ι) : M.heardAlong hears s is = M.heardAlong hears' s is := by
  induction is generalizing s with
  | nil => rfl
  | cons i is ih => rw [heardAlong_cons, heardAlong_cons, heq s i h, ih (hstep s i h)]

/-- What is read off what is heard is a filter of that. -/
theorem heardAlong_bind {κ' : Type*} (M : Machine σ ι ο) (hears : σ → ι → Option κ)
    (f : κ → Option κ') (s : σ) (is : List ι) :
    M.heardAlong (fun s i => (hears s i).bind f) s is =
      (M.heardAlong hears s is).filterMap f := by
  induction is generalizing s with
  | nil => rfl
  | cons i is ih =>
    rw [heardAlong_cons, heardAlong_cons, List.filterMap_append, ih]
    cases hears s i with
    | none => rfl
    | some k =>
      rw [Option.bind_some, Option.toList_some, List.filterMap_cons]
      cases f k <;> rfl

/-- Machines that every input leaves related, heard or not, end a run related. -/
theorem run_heardAlong (J : σ → τ → Prop)
    (hquiet : ∀ s t i, J s t → hears s i = none → J (M.next s i) t)
    (hheard : ∀ s t i k, J s t → hears s i = some k → J (M.next s i) (N.next t k))
    {s : σ} {t : τ} (h : J s t) (is : List ι) :
    J (M.run s is) (N.run t (M.heardAlong hears s is)) := by
  induction is generalizing s t with
  | nil => exact h
  | cons i is ih =>
    cases hk : hears s i with
    | none =>
      rw [M.heardAlong_cons_of_none hk]
      exact ih (hquiet s t i h hk)
    | some k =>
      rw [M.heardAlong_cons_of_some hk]
      exact ih (hheard s t i k h hk)

/-- A step property of `M` that says nothing of inputs it does not hear, and of the
others what `Q` says of the related state of `N`, holds along a run exactly when
`Q` holds along what the run hears. -/
theorem meets_iff_heardAlong (J : σ → τ → Prop) {P : σ → ι → Prop} {Q : τ → κ → Prop}
    (hquiet : ∀ s t i, J s t → hears s i = none → P s i ∧ J (M.next s i) t)
    (hheard : ∀ s t i k, J s t → hears s i = some k →
      (P s i ↔ Q t k) ∧ J (M.next s i) (N.next t k))
    {s : σ} {t : τ} {is : List ι} (h : J s t) :
    M.Meets P s is ↔ N.Meets Q t (M.heardAlong hears s is) := by
  induction is generalizing s t with
  | nil => exact Iff.rfl
  | cons i is ih =>
    cases hk : hears s i with
    | none =>
      rcases hquiet s t i h hk with ⟨hP, hJ⟩
      rw [M.heardAlong_cons_of_none hk]
      exact (and_iff_right hP).trans (ih hJ)
    | some k =>
      rcases hheard s t i k h hk with ⟨hPQ, hJ⟩
      rw [M.heardAlong_cons_of_some hk]
      exact and_congr hPQ (ih hJ)

theorem Refines.run_eq (h : M.Refines N I E abs hears emit emit') {s : σ} {is : List ι}
    (hs : I s) (hE : M.Meets E s is) :
    abs (M.run s is) = N.run (abs s) (M.heardAlong hears s is) := by
  induction is generalizing s with
  | nil => rfl
  | cons i is ih =>
    rcases hE with ⟨hi, his⟩
    -- the tails agree; what is left is the first input, heard or not
    rw [run_cons, ih (h.inv s i hs hi) his]
    cases hk : hears s i with
    | none => rw [M.heardAlong_cons_of_none hk, (h.quiet s i hs hi hk).1]
    | some k => rw [M.heardAlong_cons_of_some hk, run_cons, (h.heard s i k hs hi hk).1]

theorem Refines.outs_eq (h : M.Refines N I E abs hears emit emit') {s : σ} {is : List ι}
    (hs : I s) (hE : M.Meets E s is) :
    (M.outs s is).flatMap emit = (N.outs (abs s) (M.heardAlong hears s is)).flatMap emit' := by
  induction is generalizing s with
  | nil => rfl
  | cons i is ih =>
    rcases hE with ⟨hi, his⟩
    rw [outs_cons, List.flatMap_cons, ih (h.inv s i hs hi) his]
    cases hk : hears s i with
    | none =>
      rcases h.quiet s i hs hi hk with ⟨habs, hemit⟩
      rw [M.heardAlong_cons_of_none hk, habs, hemit, List.nil_append]
    | some k =>
      rcases h.heard s i k hs hi hk with ⟨habs, hemit⟩
      rw [M.heardAlong_cons_of_some hk, outs_cons, List.flatMap_cons, habs, hemit]

/-- What the abstract machine hears of what is heard is heard of the run. -/
theorem Refines.heardAlong_eq {κ' : Type*} (h : M.Refines N I E abs hears emit emit')
    (hears' : τ → κ → Option κ') {s : σ} {is : List ι} (hs : I s) (hE : M.Meets E s is) :
    N.heardAlong hears' (abs s) (M.heardAlong hears s is) =
      M.heardAlong (fun s i => (hears s i).bind (hears' (abs s))) s is := by
  induction is generalizing s with
  | nil => rfl
  | cons i is ih =>
    rcases hE with ⟨hi, his⟩
    have hrest := ih (h.inv s i hs hi) his
    cases hk : hears s i with
    | none =>
      rw [M.heardAlong_cons_of_none hk, heardAlong_cons, hk, ← hrest, (h.quiet s i hs hi hk).1]
      rfl
    | some k =>
      rw [M.heardAlong_cons_of_some hk, heardAlong_cons, heardAlong_cons, hk, ← hrest,
        (h.heard s i k hs hi hk).1]
      rfl

/-- Every prefix of what a run hears is what some prefix of the run hears. -/
theorem exists_heardAlong_eq (M : Machine σ ι ο) (hears : σ → ι → Option κ) {s : σ} {is : List ι}
    {ks ls : List κ} (h : M.heardAlong hears s is = ks ++ ls) :
    ∃ pre post, is = pre ++ post ∧ M.heardAlong hears s pre = ks := by
  induction is generalizing s ks with
  | nil =>
    rcases List.append_eq_nil_iff.1 h.symm with ⟨rfl, -⟩
    exact ⟨[], [], rfl, rfl⟩
  | cons i is ih =>
    cases hi : hears s i with
    | none =>
      -- an unheard input goes with the prefix: nothing heard is cut off by it
      rw [M.heardAlong_cons_of_none hi] at h
      rcases ih h with ⟨pre, post, rfl, hpre⟩
      refine ⟨i :: pre, post, rfl, ?_⟩
      rw [M.heardAlong_cons_of_none hi, hpre]
    | some k =>
      rw [M.heardAlong_cons_of_some hi] at h
      cases ks with
      | nil => exact ⟨[], i :: is, rfl, rfl⟩
      | cons k' ks =>
        rcases List.cons.inj h with ⟨rfl, htail⟩
        rcases ih htail with ⟨pre, post, rfl, hpre⟩
        refine ⟨i :: pre, post, rfl, ?_⟩
        rw [M.heardAlong_cons_of_some hi, hpre]

end Refines

/-! ## Steps that are runs of another machine -/

section Unrolled

variable {N : Machine τ κ ο'}

/-- The inputs of another machine that a run is, when `inputs` says them of a step. -/
def unrolled (inputs : σ → ι → List κ) (s : σ) (is : List ι) : List κ :=
  (M.trace inputs s is).flatten

theorem unrolled_cons (inputs : σ → ι → List κ) (s : σ) (i : ι) (is : List ι) :
    M.unrolled inputs s (i :: is) = inputs s i ++ M.unrolled inputs (M.next s i) is := rfl

/-- Machines that every step leaves related end a run related. -/
theorem run_unrolled (J : σ → τ → Prop) {inputs : σ → ι → List κ}
    (hstep : ∀ s t i, J s t → J (M.next s i) (N.run t (inputs s i))) {s : σ} {t : τ} (h : J s t)
    (is : List ι) : J (M.run s is) (N.run t (M.unrolled inputs s is)) := by
  induction is generalizing s t with
  | nil => exact h
  | cons i is ih =>
    rw [unrolled_cons, run_append]
    exact ih (hstep s t i h)

/-- What is an input along a run is one at some step. -/
theorem exists_of_mem_unrolled {inputs : σ → ι → List κ} {s : σ} {is : List ι} {k : κ}
    (h : k ∈ M.unrolled inputs s is) : ∃ s', ∃ i ∈ is, k ∈ inputs s' i := by
  induction is generalizing s with
  | nil => cases h
  | cons i is ih =>
    rw [unrolled_cons] at h
    rcases List.mem_append.1 h with h | h
    · exact ⟨s, i, List.mem_cons_self .., h⟩
    · rcases ih h with ⟨s', j, hj, hk⟩
      exact ⟨s', j, List.mem_cons_of_mem _ hj, hk⟩

end Unrolled

/-! ## Repeated inputs -/

section Destutter

variable [DecidableEq ι] {last : σ → Option ι} {quiet : ο}

/-- A machine that remembers its last input, and for which taking it again
changes nothing, reaches the same state when adjacent repeats are collapsed. -/
theorem run_destutter (hlast : ∀ s i, last (M.next s i) = some i)
    (hrep : ∀ s i, last s = some i → M.step s i = (s, quiet)) (s : σ) (is : List ι) :
    M.run s (is.destutter (· ≠ ·)) = M.run s is := by
  cases is with
  | nil => rfl
  | cons a is =>
    rw [List.destutter_cons']
    induction is generalizing s a with
    | nil => rfl
    | cons b is ih =>
      by_cases hab : a = b
      · subst hab
        -- after the first `a` the machine is in a state whose last input is `a`, so the
        -- second leaves it there
        have hsame := M.next_eq (hrep _ a (hlast s a))
        rw [List.destutter'_cons_neg _ (by simp), ih, run_cons, run_cons, run_cons, hsame]
      · rw [List.destutter'_cons_pos _ hab, run_cons, ih]
        rfl

/-- What such a machine emits is the same too, the repeats having nothing to
emit. -/
theorem outs_destutter (hlast : ∀ s i, last (M.next s i) = some i)
    (hrep : ∀ s i, last s = some i → M.step s i = (s, quiet)) {emit : ο → List ω}
    (hquiet : emit quiet = []) (s : σ) (is : List ι) :
    (M.outs s (is.destutter (· ≠ ·))).flatMap emit = (M.outs s is).flatMap emit := by
  cases is with
  | nil => rfl
  | cons a is =>
    rw [List.destutter_cons']
    induction is generalizing s a with
    | nil => rfl
    | cons b is ih =>
      by_cases hab : a = b
      · subst hab
        have hsame := M.next_eq (hrep _ a (hlast s a))
        -- the repeat changes nothing and its output emits nothing
        have hsilent := M.out_eq (hrep _ a (hlast s a))
        rw [List.destutter'_cons_neg _ (by simp), ih]
        simp [hsame, hsilent, hquiet]
      · rw [List.destutter'_cons_pos _ hab, outs_cons, outs_cons, List.flatMap_cons,
          List.flatMap_cons, ih]

end Destutter

end Machine

section Destutter

variable {α : Type*} [DecidableEq α]

/-- Collapsing repeats keeps the first element. -/
theorem destutter'_eq_cons (a : α) (l : List α) :
    l.destutter' (· ≠ ·) a = a :: (l.destutter' (· ≠ ·) a).tail := by
  induction l generalizing a with
  | nil => rfl
  | cons b l ih =>
    by_cases hab : a = b
    · subst hab
      rw [List.destutter'_cons_neg _ (by simp)]
      exact ih a
    · rw [List.destutter'_cons_pos _ hab, List.tail_cons]

/-- What comes later does not change how repeats are collapsed before it. -/
theorem prefix_destutter {l l' : List α} (h : l <+: l') :
    l.destutter (· ≠ ·) <+: l'.destutter (· ≠ ·) := by
  rcases h with ⟨rest, rfl⟩
  cases l with
  | nil => exact List.nil_prefix
  | cons a l =>
    rw [List.cons_append, List.destutter_cons', List.destutter_cons']
    induction l generalizing a with
    | nil =>
      rw [List.nil_append, destutter'_eq_cons a rest]
      exact List.cons_prefix_cons.2 ⟨rfl, List.nil_prefix⟩
    | cons b l ih =>
      by_cases hab : a = b
      · subst hab
        rw [List.cons_append, List.destutter'_cons_neg _ (by simp),
          List.destutter'_cons_neg _ (by simp)]
        exact ih a
      · rw [List.cons_append, List.destutter'_cons_pos _ hab, List.destutter'_cons_pos _ hab]
        exact List.cons_prefix_cons.2 ⟨rfl, ih b⟩

end Destutter

end Reactive
