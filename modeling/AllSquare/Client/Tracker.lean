import AllSquare.Client.Steps

/-! # The shot tracker

What the client is for, apart from timing and transport: it hears the device's
notifications one at a time, holds a ball until its club packet, and reports
device states when they change. `Tracker` is that component on its own, over
notifications; `accepts` is the notification a poll takes to it, if any.

`PollStep.tracker` connects the two: a poll that accepts a notification does to
the client's tracker what `Tracker.hear` does and returns its event, and any
other poll leaves the tracker alone and returns no event of it.
-/

namespace AllSquare

/-! ## The abstract component -/

structure Tracker where
  /-- The device state last heard. -/
  device : Option DeviceState
  /-- The ball waiting for its club packet. -/
  pending : Option BallMetrics
  /-- A club packet has been asked for. -/
  awaiting : Bool
deriving DecidableEq, Repr

namespace Tracker

/-- Nothing has been heard. -/
def fresh : Tracker := ⟨none, none, false⟩

/-- Hear one notification. `report` is what a shot says of a club packet. -/
def hear (report : ClubMetrics → Option ClubMetrics) (t : Tracker) :
    Notification → Tracker × Option Event
  | .ball b => ({ t with pending := some b, awaiting := true }, none)
  | .club m =>
    if t.awaiting then
      ({ t with pending := none, awaiting := false }, t.pending.map fun b => .shot b (report m))
    else (t, none)
  | .heartbeatAck s =>
    if t.device = some s then (t, none)
    else ({ t with device := some s }, some (.stateChanged s))
  | n => (t, Client.passThrough n)

/-- A club packet is awaited exactly while a ball waits for one. -/
def Paired (t : Tracker) : Prop := t.awaiting = t.pending.isSome

/-- The ball that waits after a notification. -/
theorem hear_pending {report : ClubMetrics → Option ClubMetrics} {t : Tracker} (h : t.Paired)
    (n : Notification) :
    (t.hear report n).1.pending =
      match n with
      | .ball b => some b
      | .club _ => none
      | _ => t.pending := by
  cases n with
  | ball b => rfl
  | club m =>
    simp only [hear]
    split
    · rfl
    · rename_i ha
      -- nothing is awaited, so by `Paired` no ball waits either
      exact Option.not_isSome_iff_eq_none.1 fun hp => ha (h.trans hp)
  | heartbeatAck s =>
    simp only [hear]
    split <;> rfl
  | sensor _ | alignment _ | queryResponse _ | battery _ _ | clock _ => rfl

/-- The tracker driven by notifications. -/
def machine (report : ClubMetrics → Option ClubMetrics) :
    Reactive.Machine Tracker Notification (Option Event) where
  step := fun t n => t.hear report n

theorem fresh_paired : fresh.Paired := rfl

theorem hear_paired {report : ClubMetrics → Option ClubMetrics} {t : Tracker} (h : t.Paired)
    (n : Notification) : (t.hear report n).1.Paired := by
  cases n with
  | ball b => rfl
  | club m =>
    simp only [hear]
    split
    · rfl
    · exact h
  | heartbeatAck s =>
    simp only [hear]
    split <;> exact h
  | sensor _ | alignment _ | queryResponse _ | battery _ _ | clock _ => exact h

end Tracker

/-! ## Environments in which nothing fails -/

/-- Nothing fails: every write is taken, a read gives a payload or nothing yet,
and the identity can be read (its GAP name need not be). -/
structure PollEnv.Healthy (env : PollEnv) : Prop where
  write : ∀ cmd, env.write cmd = .ok ()
  read : ∀ e, env.read = .error e → e = .wouldBlock
  identity : ∀ u, u ≠ uuid.gapName → ∃ v, env.readCharacteristic u = .ok v

namespace PollEnv

/-- A poll at instant `t` that finds nothing to read. -/
def empty (t : ℕ) : PollEnv where
  clock := Clock.at t
  read := .error .wouldBlock
  write := fun _ => .ok ()
  readCharacteristic := fun _ => .ok []
  modelHint := none

/-- A poll at instant `t` that reads a payload. -/
def reading (t : ℕ) (p : Payload) : PollEnv :=
  { empty t with read := .ok p }

theorem empty_healthy (t : ℕ) : (empty t).Healthy where
  write := fun _ => rfl
  read := fun _ he => (Except.error.inj he).symm
  identity := fun _ _ => ⟨[], rfl⟩

theorem reading_healthy (t : ℕ) (p : Payload) : (reading t p).Healthy where
  write := fun _ => rfl
  read := fun _ he => nomatch he
  identity := fun _ _ => ⟨[], rfl⟩

end PollEnv

/-- The ball frame of the source's client tests. -/
def sampleBall : Payload :=
  ⟨[0x11, 0x02, 0x37, 0xa5, 0, 0x39, 0, 0x2e, 0, 0, 0, 0, 0, 0, 0, 0, 0], by decide⟩

def sampleClubBody : List UInt8 :=
  [0xbd, 0x01, 0x2d, 0x03, 0xd6, 0x00, 0xe9, 0x0f, 0x6d, 0xf3, 0x31, 0xf9, 0x46, 0x01, 0x65, 0x00]

/-- The club frame of the source's client tests: vertical impact -17.43. -/
def sampleClub : Payload := ⟨0x11 :: 0x07 :: 0xff :: sampleClubBody, by decide⟩

/-- The event of a reply. -/
def Reply.event : Reply → Option Event
  | .ok ev => ev
  | .error _ => none

namespace Client

variable {ft : Features}

/-- The tracker a client carries. -/
def tracker (c : Client) : Tracker where
  device := c.state
  pending := c.pendingShot
  awaiting := c.awaitingClub

/-- The fields that only the caller's own operations set. -/
structure Config where
  handed : Handed
  activeClub : Option Club
  impactCalibration : ImpactCalibration
  heartbeatInterval : ℕ
  linkTimeout : ℕ

def config (c : Client) : Config where
  handed := c.handed
  activeClub := c.activeClub
  impactCalibration := c.impactCalibration
  heartbeatInterval := c.heartbeatInterval
  linkTimeout := c.linkTimeout

/-! ## What a poll accepts -/

instance (c : Client) : Decidable c.Reads := inferInstanceAs (Decidable (_ ∧ _))

instance (c : Client) (env : PollEnv) : Decidable (c.Beats env) :=
  inferInstanceAs (Decidable (_ → _))

/-- The payload a poll receives, duplicates included. -/
def receives (c : Client) (env : PollEnv) : Option (List UInt8) :=
  if c.Reads ∧ c.Beats env then
    match env.read with
    | .ok p => if p.bytes = [] then none else some p.bytes
    | .error _ => none
  else none

/-- The notification a poll accepts: the one it receives, when it is not a
duplicate and it parses. -/
def accepts (ft : Features) (c : Client) (env : PollEnv) : Option Notification :=
  (c.receives env).bind fun data =>
    if data = c.lastRx then none else (parse ft data).toOption

/-! ## Fields along a poll -/

@[simp] theorem beaten_tracker (c : Client) (env : PollEnv) :
    (c.beaten env).tracker = c.tracker := by
  unfold beaten
  split <;> rfl

@[simp] theorem beaten_config (c : Client) (env : PollEnv) :
    (c.beaten env).config = c.config := by
  unfold beaten
  split <;> rfl

@[simp] theorem beaten_queue (c : Client) (env : PollEnv) : (c.beaten env).queue = c.queue := by
  unfold beaten
  split <;> rfl

/-- What a shot reports of a club packet depends on the configuration only. -/
theorem reported_congr {c c' : Client} (h : c.config = c'.config) (m : ClubMetrics) :
    c.reported ft m = c'.reported ft m := by
  unfold config at h
  injection h with _ hclub hcal
  unfold reported calibrated
  rw [hclub, hcal]

/-- The heartbeat and the receipt that come before `handle` do not touch what the
tracker holds. -/
theorem took_tracker (c : Client) (env : PollEnv) (data : List UInt8) :
    ((c.beaten env).took env data).tracker = c.tracker :=
  beaten_tracker c env

/-- Nor what a shot reports. -/
theorem took_reported (c : Client) (env : PollEnv) (data : List UInt8) :
    ((c.beaten env).took env data).reported ft = c.reported ft :=
  funext (reported_congr (beaten_config c env))

theorem HandleStep.tracker {write : Command → IoResult Unit} {c c' : Client} {n : Notification}
    {r : Reply} (h : HandleStep ft write c n c' r) :
    c'.tracker = (c.tracker.hear (c.reported ft) n).1 ∧
      r.event = (c.tracker.hear (c.reported ft) n).2 := by
  cases h with
  | ball b hw => exact ⟨rfl, rfl⟩
  | ballFailed b e hw => exact ⟨rfl, rfl⟩
  | staleClub m ha => simp [Tracker.hear, Client.tracker, ha, Reply.event]
  | strayClub m ha hp => simp [Tracker.hear, Client.tracker, ha, hp, Reply.event]
  | shot m b ha hp => simp [Tracker.hear, Client.tracker, ha, hp, Reply.event]
  | sameState s hs => simp [Tracker.hear, Client.tracker, hs, Reply.event]
  | newState s hs => simp [Tracker.hear, Client.tracker, hs, Reply.event]
  | query payload => exact ⟨rfl, rfl⟩
  | passed _ ev hn =>
    cases n with
    | sensor _ | battery _ _ | clock _ | alignment _ =>
      cases hn
      exact ⟨rfl, rfl⟩
    | ball _ | heartbeatAck _ | queryResponse _ | club _ => cases hn

theorem HandleStep.config {write : Command → IoResult Unit} {c c' : Client} {n : Notification}
    {r : Reply} (h : HandleStep ft write c n c' r) : c'.config = c.config := by
  cases h <;> rfl

theorem HandleStep.queue {write : Command → IoResult Unit} {c c' : Client} {n : Notification}
    {r : Reply} (h : HandleStep ft write c n c' r) : c'.queue = c.queue := by
  cases h <;> rfl

theorem IdentityFailed.tracker {c c' : Client} {env : PollEnv} {e : IoError}
    (h : IdentityFailed c env c' e) : c'.tracker = c.tracker := by
  cases h <;> rfl

theorem IdentityFailed.config {c c' : Client} {env : PollEnv} {e : IoError}
    (h : IdentityFailed c env c' e) : c'.config = c.config := by
  cases h <;> rfl

theorem IdentityFailed.queue {c c' : Client} {env : PollEnv} {e : IoError}
    (h : IdentityFailed c env c' e) : c'.queue = c.queue := by
  cases h <;> rfl

/-- A poll never touches what only the caller sets. -/
theorem PollStep.config {c c' : Client} {env : PollEnv} {r : Reply}
    (h : PollStep ft c env c' r) : c'.config = c.config := by
  cases h with
  | queued | identified | beatFailed => rfl
  | unidentified _ e hq hp hf => exact hf.config
  | readFailed | closed | silent | idle => exact beaten_config c env
  | duplicate p | malformed p => exact beaten_config c env
  | accepted p n _ _ hr hb hread hnew hparse hstep =>
    exact hstep.config.trans (beaten_config c env)

/-- Nothing is ever put in the queue. -/
theorem PollStep.queue {c c' : Client} {env : PollEnv} {r : Reply}
    (h : PollStep ft c env c' r) (hq : c.queue = []) : c'.queue = [] := by
  cases h with
  | queued ev rest hq' =>
    rw [hq] at hq'
    cases hq'
  | identified | beatFailed => exact hq
  | unidentified _ e _ hp hf => exact hf.queue.trans hq
  | readFailed | closed | silent | idle => exact (beaten_queue c env).trans hq
  | duplicate p | malformed p => exact (beaten_queue c env).trans hq
  | accepted p n _ _ hr hb hread hnew hparse hstep =>
    exact hstep.queue.trans ((beaten_queue c env).trans hq)

theorem HandleStep.phase {write : Command → IoResult Unit} {c c' : Client} {n : Notification}
    {r : Reply} (h : HandleStep ft write c n c' r) : c'.phase = c.phase := by
  cases h <;> rfl

@[simp] theorem beaten_phase (c : Client) (env : PollEnv) : (c.beaten env).phase = c.phase := by
  unfold beaten
  split <;> rfl

/-- An active client stays active. -/
theorem PollStep.reads {c c' : Client} {env : PollEnv} {r : Reply}
    (h : PollStep ft c env c' r) (hr : c.Reads) : c'.Reads := by
  refine ⟨h.queue hr.1, ?_⟩
  cases h with
  | queued | beatFailed => exact hr.2
  | identified => rfl
  | unidentified _ e _ hp hf =>
    rw [hr.2] at hp
    cases hp
  | readFailed | closed | silent | idle => exact (beaten_phase c env).trans hr.2
  | duplicate p | malformed p => exact (beaten_phase c env).trans hr.2
  | accepted p n _ _ _ hb hread hnew hparse hstep =>
    exact hstep.phase.trans ((beaten_phase c env).trans hr.2)

/-! ## A poll refines the tracker -/

theorem receives_eq {c : Client} {env : PollEnv} {p : Payload} (hr : c.Reads) (hb : c.Beats env)
    (hread : env.read = .ok p) :
    c.receives env = if p.bytes = [] then none else some p.bytes := by
  unfold receives
  rw [if_pos ⟨hr, hb⟩, hread]

/-- A failed read receives nothing. -/
theorem receives_of_error {env : PollEnv} {e : IoError} (hread : env.read = .error e)
    (c : Client) : c.receives env = none := by
  unfold receives
  rw [hread]
  split <;> rfl

/-- A connecting client reads nothing. -/
theorem receives_connecting {c : Client} (hp : c.phase = .connecting) (env : PollEnv) :
    c.receives env = none :=
  if_neg fun h => by simp [Reads, hp] at h

theorem accepts_eq_none {c : Client} {env : PollEnv} (h : c.receives env = none) :
    c.accepts ft env = none := by
  unfold accepts
  rw [h]
  rfl

/-- A frame that parses is not empty. -/
theorem ne_nil_of_parse {d : List UInt8} {n : Notification} (h : parse ft d = .ok n) :
    d ≠ [] := by
  rintro rfl
  cases h

/-- The event that only the identity step returns. -/
def IsConnected : Option Event → Prop
  | some (.connected ..) => True
  | _ => False

theorem IsConnected.tell_eq_nil {ω : Type} {tell : Event → List ω} {ev : Option Event}
    (h : IsConnected ev) (htell : ∀ fw hw id model, tell (.connected fw hw id model) = []) :
    ev.toList.flatMap tell = [] := by
  cases ev with
  | none => rfl
  | some ev =>
    cases ev with
    | connected fw hw id model => simp [htell]
    | stateChanged _ | sensor _ | shot _ _ | battery _ _ | clock _ | alignment _ => exact h.elim

theorem accepts_eq_some {c : Client} {env : PollEnv} {p : Payload} {n : Notification}
    (hr : c.Reads) (hb : c.Beats env) (hread : env.read = .ok p) (hnew : p.bytes ≠ c.lastRx)
    (hparse : parse ft p.bytes = .ok n) : c.accepts ft env = some n := by
  have hne : p.bytes ≠ [] := ne_nil_of_parse hparse
  simp [accepts, receives_eq hr hb hread, hne, hnew, hparse, Except.toOption]

/-- A poll accepts nothing, or it handles what it accepts. -/
theorem PollStep.accepts_or {c c' : Client} {env : PollEnv} {r : Reply}
    (h : PollStep ft c env c' r) :
    c.accepts ft env = none ∨
    ∃ p n, c.accepts ft env = some n ∧ c.Beats env ∧
      HandleStep ft env.write ((c.beaten env).took env p) n c' r := by
  cases h with
  | queued ev rest hq => exact .inl (accepts_eq_none (if_neg fun h => by simp [Reads, hq] at h))
  | identified fw hw id model _ hp => exact .inl (accepts_eq_none (receives_connecting hp env))
  | unidentified _ e _ hp hf => exact .inl (accepts_eq_none (receives_connecting hp env))
  | beatFailed e hr hd hw =>
    exact .inl (accepts_eq_none (if_neg fun h => by simp [Beats, hd, hw] at h))
  | readFailed e _ _ _ hread => exact .inl (accepts_eq_none (receives_of_error hread c))
  | silent _ _ hread => exact .inl (accepts_eq_none (receives_of_error hread c))
  | idle _ _ hread => exact .inl (accepts_eq_none (receives_of_error hread c))
  | closed p hr hb hread hnil =>
    exact .inl (accepts_eq_none ((receives_eq hr hb hread).trans (if_pos hnil)))
  | duplicate p hr hb hread hne hdup =>
    left
    simp [accepts, receives_eq hr hb hread, hdup]
  | malformed p e hr hb hread hne hnew hparse =>
    left
    simp [accepts, receives_eq hr hb hread, hne, hnew, hparse, Except.toOption]
  | accepted p n _ _ hr hb hread hnew hparse hstep =>
    exact .inr ⟨p.bytes, n, accepts_eq_some hr hb hread hnew hparse, hb, hstep⟩

/-- A poll does to the tracker what hearing the accepted notification does. -/
theorem PollStep.tracker {c c' : Client} {env : PollEnv} {r : Reply}
    (h : PollStep ft c env c' r) (hq : c.queue = []) :
    (c.accepts ft env = none ∧ c'.tracker = c.tracker ∧ (r.event = none ∨ IsConnected r.event)) ∨
    ∃ n, c.accepts ft env = some n ∧
      c'.tracker = (c.tracker.hear (c.reported ft) n).1 ∧
      r.event = (c.tracker.hear (c.reported ft) n).2 := by
  rcases h.accepts_or with hnone | ⟨p, n, hsome, hb, hstep⟩
  · refine .inl ⟨hnone, ?_⟩
    cases h with
    | queued ev rest hq' =>
      rw [hq] at hq'
      cases hq'
    | identified fw hw id model _ hp => exact ⟨rfl, .inr trivial⟩
    | unidentified _ e _ hp hf => exact ⟨hf.tracker, .inl rfl⟩
    | beatFailed => exact ⟨rfl, .inl rfl⟩
    | readFailed | closed | silent | idle => exact ⟨beaten_tracker c env, .inl rfl⟩
    | duplicate | malformed => exact ⟨beaten_tracker c env, .inl rfl⟩
    | accepted p n _ _ hr hb hread hnew hparse hstep =>
      rw [accepts_eq_some hr hb hread hnew hparse] at hnone
      cases hnone
  · rcases hstep.tracker with ⟨htracker, hevent⟩
    rw [took_reported, took_tracker] at htracker hevent
    exact .inr ⟨n, hsome, htracker, hevent⟩

/-- The notifications a run of polls accepts. -/
def accepted (ft : Features) (c : Client) (envs : List PollEnv) : List Notification :=
  (pollMachine ft).heardAlong (accepts ft) c envs

/-- Polling refines the tracker, for any reading of events that says nothing of
the identity event. -/
theorem refines_tracker (ft : Features) (report : ClubMetrics → Option ClubMetrics)
    {ω : Type} (tell : Event → List ω) (htell : ∀ fw hw id model,
      tell (.connected fw hw id model) = []) :
    (pollMachine ft).Refines (Tracker.machine report)
      (fun c => c.queue = [] ∧ c.reported ft = report) (fun _ _ => True) tracker (accepts ft)
      (fun r => r.event.toList.flatMap tell) (fun ev => ev.toList.flatMap tell) where
  inv := by
    rintro c env ⟨hq, hrep⟩ -
    have hstep := poll_step ft env c
    exact ⟨hstep.queue hq, hrep ▸ funext (reported_congr hstep.config)⟩
  quiet := by
    rintro c env ⟨hq, -⟩ - hnone
    rcases (poll_step ft env c).tracker hq with ⟨-, htracker, hevent⟩ | ⟨n, hsome, -⟩
    · refine ⟨htracker, ?_⟩
      rcases hevent with hevent | hevent
      · exact congrArg (fun ev : Option Event => ev.toList.flatMap tell) hevent
      · exact hevent.tell_eq_nil htell
    · rw [hnone] at hsome
      cases hsome
  heard := by
    rintro c env n ⟨hq, hrep⟩ - hn
    rcases (poll_step ft env c).tracker hq with ⟨hnone, -⟩ | ⟨n', hsome, htracker, hevent⟩
    · rw [hnone] at hn
      cases hn
    · obtain rfl : n = n' := Option.some.inj (hn.symm.trans hsome)
      rw [hrep] at htracker hevent
      exact ⟨htracker, congrArg (fun ev : Option Event => ev.toList.flatMap tell) hevent⟩

end Client

/-! ## The other operations -/

namespace ClientOp

open Client Stateful

variable {ft : Features}

/-- The notification an operation accepts; only a poll accepts any. -/
def accepts (ft : Features) (c : Client) : ClientOp → Option Notification
  | .poll env => c.accepts ft env
  | _ => none

theorem accepts_other (c : Client) (op : ClientOp) (hop : ∀ env, op ≠ .poll env) :
    op.accepts ft c = none := by
  cases op with
  | poll env => exact absurd rfl (hop env)
  | arm | disarm | selectClub | setUnits | setGreenSpeed | setCarryAdjustment | setHanded
  | setImpactCalibration => rfl

theorem exec_other (ft : Features) (c : Client) (op : ClientOp) (hop : ∀ env, op ≠ .poll env) :
    (op.exec ft c).1.tracker = c.tracker ∧ (op.exec ft c).1.queue = c.queue ∧
      Reply.event (op.exec ft c).2 = none := by
  have h := call_step ft c op hop
  generalize op.exec ft c = out at h ⊢
  rcases out with ⟨c', r⟩
  cases h <;> exact ⟨rfl, rfl, rfl⟩

/-- Every operation does to the tracker what hearing the notification it
accepts does. -/
theorem exec_tracker (ft : Features) (c : Client) (op : ClientOp) (hq : c.queue = []) :
    (op.accepts ft c = none ∧ (op.exec ft c).1.tracker = c.tracker ∧
      (Reply.event (op.exec ft c).2 = none ∨ IsConnected (Reply.event (op.exec ft c).2))) ∨
    ∃ n, op.accepts ft c = some n ∧
      (op.exec ft c).1.tracker = (c.tracker.hear (c.reported ft) n).1 ∧
      Reply.event (op.exec ft c).2 = (c.tracker.hear (c.reported ft) n).2 := by
  rcases op.other_or_poll with hop | ⟨env, rfl⟩
  · rcases exec_other ft c op hop with ⟨htracker, -, hevent⟩
    exact .inl ⟨accepts_other c op hop, htracker, .inl hevent⟩
  · exact (poll_step ft env c).tracker hq

theorem exec_queue (c : Client) (op : ClientOp) (hq : c.queue = []) :
    (op.exec ft c).1.queue = [] := by
  rcases op.other_or_poll with hop | ⟨env, rfl⟩
  · exact (exec_other ft c op hop).2.1.trans hq
  · exact (poll_step ft env c).queue hq

end ClientOp

namespace Client

/-- What every state of a run has: nothing queued, and a club packet awaited
exactly while a ball waits for one. -/
structure Settled (c : Client) : Prop where
  queue : c.queue = []
  paired : c.tracker.Paired

theorem new_settled (now : ℕ) : (new now).Settled := ⟨rfl, rfl⟩

theorem exec_settled {c : Client} (h : c.Settled) (op : ClientOp) :
    (op.exec ft c).1.Settled where
  queue := ClientOp.exec_queue c op h.queue
  paired := by
    rcases ClientOp.exec_tracker ft c op h.queue with ⟨-, ht, -⟩ | ⟨n, -, ht, -⟩
    · rw [ht]
      exact h.paired
    · rw [ht]
      exact Tracker.hear_paired h.paired n

theorem run_settled (ft : Features) (now : ℕ) (ops : List ClientOp) :
    ((clientMachine ft).run (.new now) ops).Settled :=
  (clientMachine ft).run_invariant Settled (fun _ op h => exec_settled h op) ops (new_settled now)

end Client

end AllSquare
