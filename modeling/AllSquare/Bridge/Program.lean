import AllSquare.Bridge.Arming
import AllSquare.Bridge.Calls
import AllSquare.Client.Connecting

/-! # The loop as a program

The program is the loop with the client's polls (`run_machine_eq`). Its client
identifies the device once at most (`program_connects_once`), so what holds of
the loop when it hears the connected event at most once holds of the program.
-/

namespace AllSquare

namespace Bridge

variable {ft : Features}

/-- A turn's poll and the rest of its environment. -/
def programTurn (ft : Features) (env : TurnEnv) : Poll × TurnEnv := (.ofEnv ft env.poll, env)

/-- The program is the loop with the client's polls. -/
theorem run_machine_eq (ft : Features) (b : Bridge) (turns : List TurnEnv) :
    (machine ft).run b turns = (loop ft).run b (turns.map (programTurn ft)) := by
  induction turns generalizing b with
  | nil => rfl
  | cons env turns ih => exact ih _

/-! ## What a turn does after its poll -/

/-- What the loop does after a poll leaves the client's queue and phase. -/
structure Stays (c c' : Client) : Prop where
  queue : c'.queue = c.queue
  phase : c'.phase = c.phase

theorem Calls.stays {c c' : Client} (h : Calls ft c c') : Stays c c' where
  queue := h.eq Client.queue fun c op hop => (ClientOp.exec_other ft c op hop).2.1
  phase := h.eq Client.phase fun c op hop => (ClientOp.call_step ft c op hop).phase

/-- A turn of the program leaves the queue and phase that its poll leaves. -/
theorem iterate_stays (ft : Features) {b : Bridge} (hrun : b.running = true) (env : TurnEnv) :
    Stays ((Client.poll ft env.poll).exec b.client).1 (b.iterate ft env).client :=
  (iterate_calls ft hrun env).stays

/-! ## The connected event -/

/-- A turn hears the connected event when its poll returns it. -/
theorem isConnected_of_hears {b : Bridge} {env : TurnEnv}
    (h : b.hears (programTurn ft env) = some .connected) :
    b.running = true ∧
      Client.IsConnected (Reply.event ((Client.poll ft env.poll).exec b.client).2) := by
  unfold hears at h
  by_cases hrun : b.running = true
  · rw [if_pos hrun] at h
    refine ⟨hrun, ?_⟩
    revert h
    show (match ((Client.poll ft env.poll).exec b.client).2 with
      | .ok (some ev) => Heard.ofEvent ev
      | .ok none => (received b.frp env).map .command
      | .error _ => none) = _ → _
    generalize (Client.poll ft env.poll).exec b.client = out
    rcases out with ⟨c, r⟩
    intro h
    cases r with
    | error e => cases h
    | ok ev =>
      cases ev with
      | none => cases hr : received b.frp env <;> simp [hr] at h
      | some ev => cases ev <;> trivial
  · rw [if_neg hrun] at h
    cases h

theorem reads_iterate (ft : Features) {b : Bridge} (hr : b.client.Reads) (env : TurnEnv) :
    (b.iterate ft env).client.Reads := by
  by_cases hrun : b.running = true
  · have hstays := iterate_stays ft hrun env
    have hpolled := (@ClientOp.exec_active ft b.client hr (.poll env.poll)).2
    exact ⟨hstays.queue.trans hpolled.1, hstays.phase.trans hpolled.2⟩
  · unfold iterate
    rw [if_neg hrun]
    exact hr

theorem queue_iterate (ft : Features) {b : Bridge} (hq : b.client.queue = []) (env : TurnEnv) :
    (b.iterate ft env).client.queue = [] := by
  by_cases hrun : b.running = true
  · exact (iterate_stays ft hrun env).queue.trans (ClientOp.exec_queue b.client (.poll env.poll) hq)
  · unfold iterate
    rw [if_neg hrun]
    exact hq

/-- The connected event makes the client an active one. -/
theorem reads_of_hears (ft : Features) {b : Bridge} (hq : b.client.queue = []) {env : TurnEnv}
    (h : b.hears (programTurn ft env) = some .connected) :
    (b.iterate ft env).client.Reads := by
  obtain ⟨hrun, hconnected⟩ := isConnected_of_hears h
  have hstays := iterate_stays ft hrun env
  have hqueue := queue_iterate ft hq env
  cases hp : b.client.phase with
  | active => exact absurd hconnected (ClientOp.exec_active ⟨hq, hp⟩ (.poll env.poll)).1
  | connecting =>
    rcases @ClientOp.exec_connecting ft b.client hq hp (.poll env.poll) with
      ⟨hnone, -⟩ | ⟨-, hactive⟩
    · have hnone : Reply.event ((Client.poll ft env.poll).exec b.client).2 = none := hnone
      rw [hnone] at hconnected
      exact hconnected.elim
    · exact ⟨hqueue, hstays.phase.trans hactive⟩

/-- An active client's polls are not heard as connected. -/
theorem count_connected_active (ft : Features) {b : Bridge} (hr : b.client.Reads)
    (turns : List TurnEnv) :
    ((loop ft).heardAlong hears b (turns.map (programTurn ft))).count .connected = 0 := by
  induction turns generalizing b with
  | nil => rfl
  | cons env turns ih =>
    have hrest := ih (reads_iterate ft hr env)
    cases hh : b.hears (programTurn ft env) with
    | none =>
      rw [List.map_cons, (loop ft).heardAlong_cons_of_none hh]
      exact hrest
    | some k =>
      have hne : k ≠ .connected := by
        rintro rfl
        exact (ClientOp.exec_active hr (.poll env.poll)).1 (isConnected_of_hears hh).2
      rw [List.map_cons, (loop ft).heardAlong_cons_of_some hh,
        List.count_cons_of_ne hne]
      exact hrest

theorem count_connected_le (ft : Features) {b : Bridge} (hq : b.client.queue = [])
    (turns : List TurnEnv) :
    ((loop ft).heardAlong hears b (turns.map (programTurn ft))).count .connected ≤ 1 := by
  induction turns generalizing b with
  | nil => exact Nat.zero_le 1
  | cons env turns ih =>
    have hrest := ih (queue_iterate ft hq env)
    cases hh : b.hears (programTurn ft env) with
    | none =>
      rw [List.map_cons, (loop ft).heardAlong_cons_of_none hh]
      exact hrest
    | some k =>
      rw [List.map_cons, (loop ft).heardAlong_cons_of_some hh]
      by_cases hk : k = .connected
      · subst hk
        have hzero := count_connected_active ft (reads_of_hears ft hq hh) turns
        rw [List.count_cons_self]
        exact Nat.succ_le_succ hzero.le
      · rw [List.count_cons_of_ne hk]
        exact hrest

/-- The program hears the connected event once at most. -/
theorem program_connects_once (ft : Features) (now : ℕ) (env : FrpEnv) (name : Text)
    (arg : Option Text) (turns : List TurnEnv) :
    ((loop ft).heardAlong hears (start now env name arg) (turns.map (programTurn ft))).count
      .connected ≤ 1 :=
  count_connected_le ft rfl turns

end Bridge

end AllSquare
