import AllSquare.Client.Tracker

/-! # Heartbeats and the link watchdog

`Timers` is what a client knows of time: when it last sent a heartbeat and last
heard anything, and how many heartbeats are unanswered. `PollStep.timers` says
once how a poll moves them, when every write is taken: an identity step starts
them, a poll of an active client beats if the heartbeat is due and then notes
what it receives, if anything. The theorems about cadence and loss of the link
are proved from it.
-/

namespace AllSquare

structure Timers where
  phase : Phase
  lastHeartbeat : ℕ
  lastData : ℕ
  unanswered : ℕ
  /-- Heartbeats written so far. -/
  heartbeats : ℕ
deriving DecidableEq, Repr

namespace Timers

/-- The heartbeat step of a poll at instant `start`, over by `beat`. -/
def beat (t : Timers) (start beat : ℕ) : Timers :=
  if secs heartbeatSecs ≤ start - t.lastHeartbeat then
    { t with
      lastHeartbeat := beat
      unanswered := min (t.unanswered + 1) u32Max
      heartbeats := t.heartbeats + 1 }
  else t

theorem beat_due {t : Timers} {start now : ℕ}
    (h : secs heartbeatSecs ≤ start - t.lastHeartbeat) :
    t.beat start now = { t with
      lastHeartbeat := now
      unanswered := min (t.unanswered + 1) u32Max
      heartbeats := t.heartbeats + 1 } :=
  if_pos h

theorem beat_not_due {t : Timers} {start now : ℕ}
    (h : ¬secs heartbeatSecs ≤ start - t.lastHeartbeat) : t.beat start now = t :=
  if_neg h

/-- Something has been received. -/
def hear (t : Timers) (now : ℕ) : Timers := { t with lastData := now, unanswered := 0 }

/-- The watchdog's condition. -/
def Silent (t : Timers) (now : ℕ) : Prop :=
  unansweredHeartbeats ≤ t.unanswered ∧ linkTimeout ≤ now - t.lastData

end Timers

namespace Client

variable {ft : Features}

/-- The heartbeats handed to the transport. -/
def heartbeats (c : Client) : ℕ :=
  c.written.countP fun w => Command.typeByteOf w.frame = some Command.heartbeat.typeByte

def timers (c : Client) : Timers where
  phase := c.phase
  lastHeartbeat := c.lastHeartbeat
  lastData := c.lastData
  unanswered := c.unanswered
  heartbeats := c.heartbeats

/-- The timing constants are the ones a new client has. -/
def Timed (c : Client) : Prop :=
  c.queue = [] ∧ c.heartbeatInterval = secs heartbeatSecs ∧ c.linkTimeout = AllSquare.linkTimeout

theorem timed_new (now : ℕ) : (new now).Timed := ⟨rfl, rfl, rfl⟩

theorem PollStep.timed {c c' : Client} {env : PollEnv} {r : Reply} (h : PollStep ft c env c' r)
    (hc : c.Timed) : c'.Timed :=
  ⟨h.queue hc.1, (congrArg Config.heartbeatInterval h.config).trans hc.2.1,
    (congrArg Config.linkTimeout h.config).trans hc.2.2⟩

/-! ## Fields along a poll -/

theorem heartbeats_wrote (c : Client) (cmd : Command) (ok : Bool) :
    (c.wrote cmd ok).heartbeats = c.heartbeats + if cmd = .heartbeat then 1 else 0 := by
  unfold heartbeats wrote
  rw [List.countP_append, List.countP_singleton]
  simp only [Command.typeByteOf_encode, Option.some.injEq, Command.typeByte_eq_heartbeat,
    decide_eq_true_eq]

/-- Only a heartbeat moves the timers when it is written. -/
theorem wrote_timers {cmd : Command} (hcmd : cmd ≠ .heartbeat) (c : Client) (ok : Bool) :
    (c.wrote cmd ok).timers = c.timers := by
  have hcount := heartbeats_wrote c cmd ok
  rw [if_neg hcmd] at hcount
  unfold timers
  rw [Timers.mk.injEq]
  exact ⟨rfl, rfl, rfl, rfl, hcount⟩

theorem beaten_timers {c : Client} (hc : c.Timed) (env : PollEnv) :
    (c.beaten env).timers = c.timers.beat env.clock.start env.clock.beat := by
  have hdue : c.HeartbeatDue env ↔
      secs heartbeatSecs ≤ env.clock.start - c.timers.lastHeartbeat := by
    unfold HeartbeatDue
    rw [hc.2.1]
    rfl
  unfold beaten Timers.beat
  by_cases hd : c.HeartbeatDue env
  · have hcount := heartbeats_wrote c .heartbeat true
    rw [if_pos rfl] at hcount
    rw [if_pos hd, if_pos (hdue.1 hd)]
    unfold timers
    rw [Timers.mk.injEq]
    exact ⟨rfl, rfl, rfl, rfl, hcount⟩
  · rw [if_neg hd, if_neg fun h => hd (hdue.2 h)]

theorem identified_timers (c : Client) (env : PollEnv) :
    (c.identified env).timers =
      { phase := .active
        lastHeartbeat := env.clock.beat
        lastData := env.clock.recv
        unanswered := 1
        heartbeats := c.heartbeats + 1 } := by
  have hquery := heartbeats_wrote c .query true
  have hbeat := heartbeats_wrote { c.wrote .query true with lastHeartbeat := env.clock.beat }
    .heartbeat true
  rw [if_neg (by simp)] at hquery
  rw [if_pos rfl] at hbeat
  unfold timers
  rw [Timers.mk.injEq]
  refine ⟨rfl, rfl, rfl, rfl, ?_⟩
  exact hbeat.trans (congrArg (· + 1) hquery)

theorem HandleStep.timers {write : Command → IoResult Unit} {c c' : Client} {n : Notification}
    {r : Reply} (h : HandleStep ft write c n c' r) :
    c'.timers = c.timers ∧ r ≠ .error .disconnected := by
  cases h with
  | ball b hw => exact ⟨wrote_timers (by simp) _ true, by simp⟩
  | ballFailed b e hw => exact ⟨wrote_timers (by simp) _ false, by simp⟩
  | staleClub | strayClub | shot | sameState | newState | passed | query => exact ⟨rfl, by simp⟩

/-! ## One poll -/

/-- How a poll whose writes are all taken moves the timers, and when it reports
the loss of the link. -/
theorem PollStep.timers {c c' : Client} {env : PollEnv} {r : Reply} (h : PollStep ft c env c' r)
    (hc : c.Timed) (hw : ∀ cmd, env.write cmd = .ok ()) :
    (c.phase = .connecting ∧ c'.timers = c.timers ∧ r ≠ .error .disconnected) ∨
    (c.phase = .connecting ∧ c'.timers = (c.identified env).timers ∧ r ≠ .error .disconnected) ∨
    (c.phase = .active ∧ c.receives env = none ∧
      c'.timers = c.timers.beat env.clock.start env.clock.beat ∧
      (env.read = .error .wouldBlock →
        (r = .error .disconnected ↔
          (c.timers.beat env.clock.start env.clock.beat).Silent env.clock.recv))) ∨
    (c.phase = .active ∧ (c.receives env).isSome ∧
      c'.timers = (c.timers.beat env.clock.start env.clock.beat).hear env.clock.recv ∧
      r ≠ .error .disconnected) := by
  have hbeaten := beaten_timers hc env
  have hsilent : (c.beaten env).LinkSilent env ↔
      (c.timers.beat env.clock.start env.clock.beat).Silent env.clock.recv := by
    rw [← hbeaten]
    have htimeout : (c.beaten env).linkTimeout = AllSquare.linkTimeout :=
      (congrArg Config.linkTimeout (beaten_config c env)).trans hc.2.2
    unfold LinkSilent Timers.Silent
    rw [htimeout]
    rfl
  have hnone {e : IoError} (hread : env.read = .error e) : c.receives env = none :=
    receives_of_error hread c
  have hsome {p : Payload} (hr : c.Reads) (hb : c.Beats env) (hread : env.read = .ok p)
      (hne : p.bytes ≠ []) : (c.receives env).isSome := by
    rw [receives_eq hr hb hread, if_neg hne]
    rfl
  have htook (p : Payload) : ((c.beaten env).took env p.bytes).timers =
      (c.timers.beat env.clock.start env.clock.beat).hear env.clock.recv := by
    rw [← hbeaten]
    rfl
  cases h with
  | queued ev rest hq => simp [hc.1] at hq
  -- connecting: the identity step starts the timers or leaves them as they are
  | identified fw hwv id model hq hp => exact .inr (.inl ⟨hp, rfl, by simp⟩)
  | unidentified _ e hq hp hf =>
    refine .inl ⟨hp, ?_, by simp⟩
    cases hf with
    | characteristic u _ hr => rfl
    | query _ hwq => simp [hw] at hwq
    | heartbeat _ _ hwb => simp [hw] at hwb
  | beatFailed e hr hd hwb => simp [hw] at hwb
  -- active, nothing received: only the heartbeat step moves them
  | readFailed e hr hb he hread =>
    refine .inr (.inr (.inl ⟨hr.2, hnone hread, hbeaten, fun hblock => ?_⟩))
    exact absurd (Except.error.inj (hread.symm.trans hblock)) he
  | closed p hr hb hread hnil =>
    refine .inr (.inr (.inl ⟨hr.2, ?_, hbeaten, fun hblock => ?_⟩))
    · rw [receives_eq hr hb hread, if_pos hnil]
    · simp [hread] at hblock
  | silent hr hb hread hs =>
    exact .inr (.inr (.inl ⟨hr.2, hnone hread, hbeaten, fun _ => iff_of_true rfl (hsilent.1 hs)⟩))
  | idle hr hb hread hs =>
    exact .inr (.inr (.inl ⟨hr.2, hnone hread, hbeaten,
      fun _ => iff_of_false (by simp) fun h => hs (hsilent.2 h)⟩))
  -- active, a payload received: duplicates and malformed ones count as well
  | duplicate p hr hb hread hne hdup =>
    exact .inr (.inr (.inr ⟨hr.2, hsome hr hb hread hne, htook p, by simp⟩))
  | malformed p e hr hb hread hne hnew hparse =>
    exact .inr (.inr (.inr ⟨hr.2, hsome hr hb hread hne, htook p, by simp⟩))
  | accepted p n _ _ hr hb hread hnew hparse hstep =>
    rcases hstep.timers with ⟨htimers, hreply⟩
    exact .inr (.inr (.inr ⟨hr.2, hsome hr hb hread (ne_nil_of_parse hparse),
      htimers.trans (htook p), hreply⟩))

end Client

end AllSquare
