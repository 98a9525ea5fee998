import AllSquare.Client.Tracker

/-! # Connected comes first and once

A new client identifies the device before anything else: until an identity step
succeeds every poll is one, reads no notification and, when it fails, leaves
the client ready for the next. `connected_first_and_once` says so of every run,
whatever fails in it and whatever else the caller does in between.
-/

namespace AllSquare

namespace Client

open Reactive Stateful

variable {ft : Features}

/-- The events a run returns, in order. -/
def events (ft : Features) (c : Client) (ops : List ClientOp) : List Event :=
  ((clientMachine ft).outs c ops).filterMap Reply.event

/-- The run has returned a connected event. -/
def HasConnected (ft : Features) (now : ℕ) (ops : List ClientOp) : Prop :=
  ∃ ev ∈ events ft (.new now) ops, IsConnected (some ev)

/-- The identity step of a poll. -/
def identityStep (env : PollEnv) : ClientM (Option Event) := do
  let ev ← readIdentity env
  modify fun c => { c with phase := .active }
  return some ev

/-- Only the transport, the counter and the heartbeat timer may differ. -/
def OnlyWrote (c c' : Client) : Prop :=
  c' = { c with written := c'.written, seq := c'.seq, lastHeartbeat := c'.lastHeartbeat }

/-! ## One operation -/

/-- A connecting client's poll is the identity step. -/
theorem poll_connecting {c : Client} (hq : c.queue = []) (hp : c.phase = .connecting)
    (env : PollEnv) : (poll ft env).exec c = (identityStep env).exec c := by
  unfold poll identityStep
  simp only [exec_bind, exec_get, hq, hp]

/-- What the poll of a connecting client does. -/
theorem PollStep.connecting {c c' : Client} {env : PollEnv} {r : Reply}
    (h : PollStep ft c env c' r) (hq : c.queue = []) (hp : c.phase = .connecting) :
    (c' = c.identified env ∧ IsConnected r.event) ∨
      ∃ e, r = .error (.transport e) ∧ IdentityFailed c env c' e := by
  have hr : ¬c.Reads := by simp [Reads, hp]
  cases h with
  | queued ev rest hq' =>
    rw [hq] at hq'
    cases hq'
  | identified fw hw id model => exact .inl ⟨rfl, trivial⟩
  | unidentified _ e _ _ hf => exact .inr ⟨e, rfl, hf⟩
  | beatFailed _ hr' | readFailed _ hr' | closed _ hr' | silent hr' | idle hr' =>
    exact absurd hr' hr
  | duplicate _ hr' | malformed _ _ hr' | accepted _ _ _ _ hr' => exact absurd hr' hr

theorem HandleStep.not_connected {write : Command → IoResult Unit} {c c' : Client}
    {n : Notification} {r : Reply} (h : HandleStep ft write c n c' r) : ¬IsConnected r.event := by
  cases h with
  | ball | ballFailed | staleClub | strayClub | sameState | query => exact id
  | shot | newState => exact id
  | passed _ ev hn =>
    cases n with
    | sensor | battery | clock | alignment =>
      cases hn
      exact id
    | ball | heartbeatAck | queryResponse | club => cases hn

/-- An active client returns no connected event. -/
theorem PollStep.not_connected {c c' : Client} {env : PollEnv} {r : Reply}
    (h : PollStep ft c env c' r) (hr : c.Reads) : ¬IsConnected r.event := by
  cases h with
  | queued ev rest hq =>
    rw [hr.1] at hq
    cases hq
  | identified _ _ _ _ _ hp =>
    rw [hr.2] at hp
    cases hp
  | unidentified | beatFailed | readFailed | closed | silent | idle | duplicate | malformed =>
    exact id
  | accepted _ _ _ _ _ _ _ _ _ hstep => exact hstep.not_connected

theorem IdentityFailed.onlyWrote {c c' : Client} {env : PollEnv} {e : IoError}
    (h : IdentityFailed c env c' e) : c.OnlyWrote c' := by
  cases h <;> rfl

theorem IdentityFailed.phase {c c' : Client} {env : PollEnv} {e : IoError}
    (h : IdentityFailed c env c' e) : c'.phase = c.phase := by
  cases h <;> rfl

end Client

namespace ClientOp

open Client Stateful

variable {ft : Features}

/-- Only a poll moves the phase. -/
theorem CallStep.phase {c c' : Client} {op : ClientOp} {r : Reply} (h : CallStep c op c' r) :
    c'.phase = c.phase := by
  cases h <;> rfl

/-- A connecting client stays so, or becomes active with the connected event. -/
theorem exec_connecting {c : Client} (hq : c.queue = []) (hp : c.phase = .connecting)
    (op : ClientOp) :
    (Reply.event (op.exec ft c).2 = none ∧ (op.exec ft c).1.phase = .connecting) ∨
      (IsConnected (Reply.event (op.exec ft c).2) ∧ (op.exec ft c).1.phase = .active) := by
  rcases op.other_or_poll with hop | ⟨env, rfl⟩
  · exact .inl ⟨(exec_other ft c op hop).2.2, (call_step ft c op hop).phase.trans hp⟩
  · rcases (poll_step ft env c).connecting hq hp with ⟨hc, hevent⟩ | ⟨e, hr, hf⟩
    · refine .inr ⟨hevent, ?_⟩
      exact congrArg Client.phase hc
    · refine .inl ⟨?_, hf.phase.trans hp⟩
      exact congrArg Reply.event hr

/-- An active client stays so, and returns no connected event. -/
theorem exec_active {c : Client} (hr : c.Reads) (op : ClientOp) :
    ¬IsConnected (Reply.event (op.exec ft c).2) ∧ (op.exec ft c).1.Reads := by
  rcases op.other_or_poll with hop | ⟨env, rfl⟩
  · rcases exec_other ft c op hop with ⟨-, hqueue, hevent⟩
    refine ⟨?_, hqueue.trans hr.1, (call_step ft c op hop).phase.trans hr.2⟩
    rw [hevent]
    exact id
  · exact ⟨(poll_step ft env c).not_connected hr, (poll_step ft env c).reads hr⟩

end ClientOp

namespace Client

open Reactive Stateful

variable {ft : Features}

/-! ## Runs -/

theorem events_cons (c : Client) (op : ClientOp) (ops : List ClientOp) :
    events ft c (op :: ops) =
      (Reply.event (op.exec ft c).2).toList ++ events ft (op.exec ft c).1 ops := by
  unfold events
  show List.filterMap Reply.event ((op.exec ft c).2 :: _) = _
  rw [List.filterMap_cons]
  cases Reply.event (op.exec ft c).2 <;> rfl

/-- No event of an active client is a connected one. -/
theorem events_active {c : Client} (hr : c.Reads) (ops : List ClientOp) :
    ∀ ev ∈ events ft c ops, ¬IsConnected (some ev) := by
  induction ops generalizing c with
  | nil => simp [events]
  | cons op ops ih =>
    rcases ClientOp.exec_active hr op with ⟨hno, hr'⟩
    intro ev hev
    rw [events_cons, List.mem_append, Option.mem_toList] at hev
    rcases hev with hev | hev
    · rw [hev] at hno
      exact hno
    · exact ih hr' ev hev

/-- A connecting client has no event, or first the connected one and no other of
its kind. -/
theorem events_connecting {c : Client} (hq : c.queue = []) (hp : c.phase = .connecting)
    (ops : List ClientOp) :
    (events ft c ops = [] ∧ ((clientMachine ft).run c ops).phase = .connecting) ∨
      ∃ ev rest, events ft c ops = ev :: rest ∧ IsConnected (some ev) ∧
        ∀ ev' ∈ rest, ¬IsConnected (some ev') := by
  induction ops generalizing c with
  | nil => exact .inl ⟨rfl, hp⟩
  | cons op ops ih =>
    have hq' : (op.exec ft c).1.queue = [] := ClientOp.exec_queue c op hq
    rw [events_cons, Machine.run_cons]
    rcases ClientOp.exec_connecting hq hp op with ⟨hevent, hp'⟩ | ⟨hevent, hp'⟩
    · rw [hevent]
      exact ih hq' hp'
    · -- from here on the client is active
      right
      cases hev : Reply.event (op.exec ft c).2 with
      | none =>
        rw [hev] at hevent
        exact hevent.elim
      | some ev =>
        rw [hev] at hevent
        exact ⟨ev, _, rfl, hevent, events_active ⟨hq', hp'⟩ ops⟩

theorem run_connecting {now : ℕ} {ops : List ClientOp} (h : ¬HasConnected ft now ops) :
    ((clientMachine ft).run (.new now) ops).phase = .connecting := by
  rcases @events_connecting ft (new now) rfl rfl ops with ⟨-, hp⟩ | ⟨ev, rest, heq, hev, -⟩
  · exact hp
  · refine absurd ⟨ev, ?_, hev⟩ h
    rw [heq]
    exact List.mem_cons_self

/-- In every run the connected event comes first and once; before it no poll
takes a notification, and one that fails leaves all but the transport, the
counter and the heartbeat timer as they were, so that the next poll is the whole
identity step again; and the poll that returns it ends with a query and a
heartbeat, one unanswered, the watchdog's clock restarted. -/
theorem connected_first_and_once (ft : Features) (now : ℕ) (ops : List ClientOp) :
    (events ft (.new now) ops = [] ∨
      ∃ ev rest, events ft (.new now) ops = ev :: rest ∧ IsConnected (some ev) ∧
        ∀ ev' ∈ rest, ¬IsConnected (some ev')) ∧
    ∀ pre env post, ops = pre ++ .poll env :: post →
      let c := (clientMachine ft).run (.new now) pre
      let c' := ((poll ft env).exec c).1
      let reply : Reply := ((poll ft env).exec c).2
      (¬HasConnected ft now pre →
        c.receives env = none ∧
        (∀ read, (poll ft { env with read := read }).exec c = (poll ft env).exec c) ∧
        ∀ e, reply = .error e →
          c.OnlyWrote c' ∧ ∀ env', (poll ft env').exec c' = (identityStep env').exec c') ∧
      (IsConnected reply.event →
        c'.written = c.written ++
          [⟨Command.query.encode (c.seq + 1), true⟩,
            ⟨Command.heartbeat.encode (c.seq + 1 + 1), true⟩] ∧
        c'.unanswered = 1 ∧ c'.lastData = env.clock.recv) := by
  constructor
  · rcases @events_connecting ft (new now) rfl rfl ops with ⟨hnil, -⟩ | hfirst
    · exact .inl hnil
    · exact .inr hfirst
  · intro pre env post hops
    dsimp only
    have hq : ((clientMachine ft).run (.new now) pre).queue = [] := (run_settled ft now pre).queue
    have hstep := poll_step ft env ((clientMachine ft).run (.new now) pre)
    constructor
    · intro hnone
      have hp := run_connecting hnone
      refine ⟨receives_connecting hp env, ?_, ?_⟩
      · intro read
        rw [poll_connecting hq hp, poll_connecting hq hp]
        rfl
      · intro e he
        rcases hstep.connecting hq hp with ⟨-, hevent⟩ | ⟨e', hr, hf⟩
        · rw [he] at hevent
          exact hevent.elim
        · refine ⟨hf.onlyWrote, ?_⟩
          intro env'
          exact poll_connecting (hf.queue.trans hq) (hf.phase.trans hp) env'
    · intro hconnected
      -- an active client would not have returned it
      have hp : ((clientMachine ft).run (.new now) pre).phase = .connecting := by
        cases hphase : ((clientMachine ft).run (.new now) pre).phase with
        | connecting => rfl
        | active => exact absurd hconnected (hstep.not_connected ⟨hq, hphase⟩)
      rcases hstep.connecting hq hp with ⟨hc, -⟩ | ⟨e, hr, -⟩
      · rw [hc]
        exact ⟨List.append_assoc _ _ _, rfl, rfl⟩
      · rw [hr] at hconnected
        exact hconnected.elim

/-- A heartbeat that the transport refuses during the identity step. -/
theorem connected_first_and_once_refused :
    let refused : PollEnv :=
      { PollEnv.empty 0 with
        write := fun cmd => if cmd = .heartbeat then .error .other else .ok () }
    let c' := ((poll ⟨false⟩ refused).exec (.new 0)).1
    (new 0).OnlyWrote c' ∧
      ∀ env', (poll ⟨false⟩ env').exec c' = (identityStep env').exec c' :=
  (((connected_first_and_once ⟨false⟩ 0
    [.poll
      { PollEnv.empty 0 with
        write := fun cmd => if cmd = .heartbeat then .error .other else .ok () }]).2
    [] _ [] rfl).1 (by simp [HasConnected, events])).2.2 (.transport .other) rfl

end Client

end AllSquare
