import AllSquare.Bridge.Model

/-! # The client in the loop

The loop reaches its client through the client's operations alone: a turn polls it
once, and after that only calls others (`iterate_calls`). So the client of the
program is always one that a run of the client reaches (`exists_client_run`).
-/

namespace AllSquare

namespace Bridge

open Reactive

variable {ft : Features}

/-- The client comes from `c` to `c'` by calls of operations other than polls. -/
def Calls (ft : Features) (c c' : Client) : Prop :=
  ∃ ops : List ClientOp, (∀ op ∈ ops, ∀ env, op ≠ .poll env) ∧ (clientMachine ft).run c ops = c'

theorem Calls.refl (c : Client) : Calls ft c c := ⟨[], by simp, rfl⟩

theorem Calls.trans {c c' c'' : Client} (h : Calls ft c c') (h' : Calls ft c' c'') :
    Calls ft c c'' := by
  rcases h with ⟨ops, hops, rfl⟩
  rcases h' with ⟨ops', hops', rfl⟩
  refine ⟨ops ++ ops', ?_, (clientMachine ft).run_append c ops ops'⟩
  intro op hop
  rcases List.mem_append.1 hop with hop | hop
  · exact hops op hop
  · exact hops' op hop

theorem calls_exec (c : Client) {op : ClientOp} (hop : ∀ env, op ≠ .poll env) :
    Calls ft c (op.exec ft c).1 := by
  refine ⟨[op], ?_, rfl⟩
  intro op' hmem
  rwa [List.mem_singleton.1 hmem]

/-- What operations other than polls leave alone is left alone. -/
theorem Calls.eq {α : Type} (part : Client → α)
    (hpart : ∀ c op, (∀ env, op ≠ .poll env) → part (ClientOp.exec ft c op).1 = part c)
    {c c' : Client} (h : Calls ft c c') : part c' = part c := by
  rcases h with ⟨ops, hops, rfl⟩
  exact (clientMachine ft).run_invariant_of_meets (part · = part c)
    (fun c' op heq hop => (hpart c' op hop).trans heq) rfl
    ((clientMachine ft).meets_of_forall hops)

/-! ## What a turn does after its poll -/

theorem connected_calls (ft : Features) (b : Bridge) (env : TurnEnv) (fw : Firmware)
    (model : Text) : Calls ft b.client (b.connected ft env fw model).client := by
  have harm := @calls_exec ft b.client (.arm env.write b.club .advanced) (by simp)
  unfold connected
  generalize ClientOp.exec ft b.client (.arm env.write b.club .advanced) = out at harm ⊢
  rcases out with ⟨c, r⟩
  cases r <;> exact harm

theorem handle_calls (ft : Features) (b : Bridge) (env : TurnEnv) (ev : Event) :
    Calls ft b.client (b.handle ft env ev).client := by
  cases ev with
  | connected fw hw id model =>
    have hconnected := connected_calls ft b env fw model
    simp only [handle]
    split <;> exact hconnected
  | stateChanged _ | sensor _ | shot _ _ | battery _ _ | clock _ | alignment _ =>
    exact Calls.refl _

theorem applyControllerCommand_calls (ft : Features) (b : Bridge) (env : TurnEnv)
    (cmd : ControllerCommand) :
    Calls ft b.client (b.applyControllerCommand ft env cmd).client := by
  -- the hand is set first, and an armed device is then told
  have htold (c : Client) (hc : Calls ft b.client c) (club : Club) :
      Calls ft b.client (ClientOp.exec ft c (.selectClub env.write club)).1 :=
    hc.trans (calls_exec c (by simp))
  unfold applyControllerCommand
  cases cmd.handed with
  | none =>
    dsimp only
    split
    · exact htold b.client (Calls.refl _) _
    · exact Calls.refl _
  | some handed =>
    have hhand := @calls_exec ft b.client (.setHanded (handedFromFrp handed)) (by simp)
    dsimp only
    split
    · exact htold _ hhand _
    · exact hhand

theorem attend_calls (ft : Features) (b : Bridge) (env : TurnEnv) :
    Calls ft b.client (b.attend ft env).client := by
  unfold attend
  dsimp only
  split
  · rename_i frp cmd _
    exact applyControllerCommand_calls ft { b with frp := frp } env cmd
  · exact Calls.refl _

/-- After its poll a turn only calls other operations of the client. -/
theorem iterate_calls (ft : Features) {b : Bridge} (hrun : b.running = true) (env : TurnEnv) :
    Calls ft ((Client.poll ft env.poll).exec b.client).1 (b.iterate ft env).client := by
  unfold iterate
  rw [if_pos hrun]
  generalize (Client.poll ft env.poll).exec b.client = out
  rcases out with ⟨c, r⟩
  cases r with
  | error e => exact Calls.refl c
  | ok ev =>
    cases ev with
    | none => exact attend_calls ft { b with client := c } env
    | some ev => exact handle_calls ft { b with client := c } env ev

/-! ## Runs -/

/-- The client of the program is one that a run of the client reaches. -/
theorem exists_client_run (ft : Features) (now : ℕ) (env : FrpEnv) (name : Text)
    (arg : Option Text) (turns : List TurnEnv) :
    ∃ ops, ((machine ft).run (start now env name arg) turns).client =
      (clientMachine ft).run (.new now) ops := by
  refine (machine ft).run_invariant
    (fun b => ∃ ops, b.client = (clientMachine ft).run (.new now) ops) ?_ turns ⟨[], rfl⟩
  rintro b turn ⟨ops, hops⟩
  show ∃ ops, (b.iterate ft turn).client = _
  by_cases hrun : b.running = true
  · rcases iterate_calls ft hrun turn with ⟨ops', -, hcalls⟩
    refine ⟨ops ++ .poll turn.poll :: ops', ?_⟩
    rw [Machine.run_append, ← hops]
    exact hcalls.symm
  · refine ⟨ops, ?_⟩
    unfold iterate
    rw [if_neg hrun]
    exact hops

end Bridge

end AllSquare
