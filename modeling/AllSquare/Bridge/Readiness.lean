import AllSquare.Bridge.Calls

/-! # Does the controller's readiness agree with the device?

The device reports its state in every heartbeat acknowledgment. The client drops
one that repeats its last state, and the adapter sets its ready value to false
on every shot. So after a shot the two memories differ: the client's still says
ready, and an acknowledgment that says so again is dropped, which leaves the
controller with a device that is not ready.

`Watch` remembers what it takes to tell: the last state acknowledged, whether a
ball waits for its club, and whether a shot was completed since the state
changed. `ack_reflected_iff` says that every acknowledgment is reflected exactly
when none says ready again in that situation.
-/

namespace AllSquare

/-! ## The readiness of a device as heard -/

structure Watch where
  /-- The last state acknowledged. -/
  state : Option DeviceState
  /-- A ball waits for its club. -/
  ball : Bool
  /-- A shot has been completed since the state changed. -/
  shot : Bool
deriving DecidableEq

/-- The adapter's ready value after an event. -/
def readyAfter (last : Option Bool) : Option Event → Option Bool
  | some (.stateChanged s) => some (s == .ready)
  | some (.shot _ _) => some false
  | _ => last

/-- The event of the identity step says nothing of readiness. -/
theorem readyAfter_quiet {ev : Option Event} (h : ev = none ∨ Client.IsConnected ev)
    (last : Option Bool) : readyAfter last ev = last := by
  rcases h with rfl | h
  · rfl
  · cases ev with
    | none => rfl
    | some ev =>
      cases ev with
      | connected => rfl
      | stateChanged | sensor | shot | battery | clock | alignment => exact h.elim

namespace Watch

def init : Watch := ⟨none, false, false⟩

def hear (w : Watch) : Notification → Watch
  | .ball _ => { w with ball := true }
  | .club _ => if w.ball then { w with ball := false, shot := true } else w
  | .heartbeatAck s => if w.state = some s then w else { w with state := some s, shot := false }
  | _ => w

/-- The notification does not acknowledge ready once more after a shot in the
ready state. -/
def Changes (w : Watch) (n : Notification) : Prop :=
  n = .heartbeatAck .ready → ¬(w.state = some .ready ∧ w.shot = true)

def machine : Reactive.Machine Watch Notification Unit where
  step := fun w n => (w.hear n, ())

/-- The ready value the adapter has for such a device. -/
def lastReady (w : Watch) : Option Bool :=
  if w.shot then some false else w.state.map (· == .ready)

/-- A tracker's device as heard. -/
structure Of (w : Watch) (t : Tracker) : Prop where
  paired : t.Paired
  state : w.state = t.device
  ball : w.ball = t.pending.isSome

/-- What the tracker reports moves the adapter's ready value as the watch says. -/
theorem Of.hear {w : Watch} {t : Tracker} (h : w.Of t)
    (report : ClubMetrics → Option ClubMetrics) (n : Notification) :
    (w.hear n).Of (t.hear report n).1 ∧
      (w.hear n).lastReady = readyAfter w.lastReady (t.hear report n).2 := by
  cases n with
  | ball b => exact ⟨⟨rfl, h.state, rfl⟩, rfl⟩
  | club m =>
    have hawait : t.awaiting = w.ball := h.paired.trans h.ball.symm
    cases hp : t.pending with
    | none =>
      have hball : w.ball = false := by simp [h.ball, hp]
      simp only [Tracker.hear, Watch.hear, hawait, hball, Bool.false_eq_true, if_false]
      exact ⟨h, rfl⟩
    | some b =>
      have hball : w.ball = true := by simp [h.ball, hp]
      simp only [Tracker.hear, Watch.hear, hawait, hball, if_true, hp, Option.map_some]
      exact ⟨⟨rfl, h.state, rfl⟩, rfl⟩
  | heartbeatAck s =>
    simp only [Tracker.hear, Watch.hear, h.state]
    split
    · exact ⟨h, rfl⟩
    · exact ⟨⟨h.paired, rfl, h.ball⟩, rfl⟩
  | sensor _ | alignment _ | queryResponse _ | battery _ _ | clock _ => exact ⟨h, rfl⟩

/-- An acknowledgment leaves the adapter with its state's ready value unless it
says ready once more after a shot. -/
theorem lastReady_hear_ack (w : Watch) (s : DeviceState) :
    (w.hear (.heartbeatAck s)).lastReady = some (s == .ready) ↔ w.Changes (.heartbeatAck s) := by
  unfold Changes hear
  dsimp only
  by_cases hs : w.state = some s
  · rw [if_pos hs]
    unfold lastReady
    by_cases hready : s = .ready
    · -- a repeated ready is dropped: the adapter has it unless a shot came since
      subst hready
      cases w.shot <;> simp [hs]
    · -- any other repeated state means not ready, which is what a shot sets as well
      have hne : (s == DeviceState.ready) = false := by simp [hready]
      cases w.shot <;> simp [hs, hne, hready]
  · -- a new state is reported
    rw [if_neg hs]
    apply iff_of_true rfl
    intro heq hcon
    apply hs
    rw [hcon.1, Notification.heartbeatAck.inj heq]

end Watch

/-! ## The adapter's ready value -/

namespace FrpDevice

open Stateful

variable {ft : Features}

theorem sendTelemetry_lastReady (env : FrpEnv) (ready : Option Bool) (battery : Option UInt8)
    (d : FrpDevice) :
    ((sendTelemetry env ready battery).exec d).1.lastReady = ready.or d.lastReady := by
  rw [sendTelemetry_exec]
  split
  · rename_i hs
    rcases Option.isSome_iff_exists.1 hs.2.1 with ⟨r, hr⟩
    -- suppressed telemetry says the value that is remembered
    rw [← hs.2.2, hr]
    rfl
  · exact memory_lastReady (sendEnvelope_memory env _ (d.reported ready battery))

theorem handleEvent_lastReady (env : FrpEnv) (ev : Event) (d : FrpDevice) :
    ((handleEvent ft env ev).exec d).1.lastReady = readyAfter d.lastReady (some ev) := by
  cases ev with
  | stateChanged s => exact sendTelemetry_lastReady env (some (s == .ready)) none d
  | battery percent _ => exact sendTelemetry_lastReady env none (some percent) d
  | shot b m =>
    apply @handleEvent_shot_keeps ft fun d' => d'.lastReady = some false
    · exact sendTelemetry_lastReady env (some false) none d
    · intro d' evs hd'
      exact (memory_lastReady (sendEvents_memory env evs d'.nextShot)).trans hd'
  | connected | sensor | clock | alignment => rfl

theorem pollConnection_lastReady (env : FrpEnv) (incoming : Bool) (d : FrpDevice) :
    ((pollConnection env incoming).exec d).1.lastReady = d.lastReady := by
  rw [pollConnection_exec]
  split
  · split
    · rfl
    · exact memory_lastReady (sendEnvelope_memory env _ d.adopt)
  · rfl

end FrpDevice

/-! ## One turn -/

namespace Bridge

variable {ft : Features}

/-- What a turn after its poll keeps of the client. -/
structure Keeps (b b' : Bridge) : Prop where
  tracker : b'.client.tracker = b.client.tracker
  queue : b'.client.queue = b.client.queue

theorem Keeps.of_calls {b b' : Bridge} (h : Calls ft b.client b'.client) : b.Keeps b' where
  tracker := h.eq Client.tracker fun c op hop => (ClientOp.exec_other ft c op hop).1
  queue := h.eq Client.queue fun c op hop => (ClientOp.exec_other ft c op hop).2.1

theorem connected_lastReady (ft : Features) (b : Bridge) (env : TurnEnv) (fw : Firmware)
    (model : Text) : (b.connected ft env fw model).frp.lastReady = b.frp.lastReady := by
  have hmodel : ((b.frp.setFirmware fw.lm).setModel model).lastReady = b.frp.lastReady := by
    unfold FrpDevice.setModel
    split <;> rfl
  have hinfo : ((FrpDevice.sendDeviceInfo env.frp).exec
      ((b.frp.setFirmware fw.lm).setModel model)).1.lastReady = b.frp.lastReady :=
    (FrpDevice.sendTelemetry_lastReady env.frp none none _).trans hmodel
  unfold connected
  generalize ClientOp.exec ft b.client (.arm env.write b.club .advanced) = out
  rcases out with ⟨c, r⟩
  cases r <;> exact hinfo

theorem handle_lastReady (ft : Features) (b : Bridge) (env : TurnEnv) (ev : Event) :
    (b.handle ft env ev).frp.lastReady = readyAfter b.frp.lastReady (some ev) := by
  have hforward (b : Bridge) :
      (b.forward ft env ev).frp.lastReady = readyAfter b.frp.lastReady (some ev) :=
    FrpDevice.handleEvent_lastReady env.frp ev b.frp
  cases ev with
  | connected fw hw id model =>
    have hready := connected_lastReady ft b env fw model
    simp only [handle]
    -- arming may fail, and then the event is not passed on; it says nothing of readiness
    split
    · exact (hforward _).trans hready
    · exact hready
  | stateChanged _ | sensor _ | shot _ _ | battery _ _ | clock _ | alignment _ => exact hforward b

theorem applyControllerCommand_frp (ft : Features) (b : Bridge) (env : TurnEnv)
    (cmd : ControllerCommand) : (b.applyControllerCommand ft env cmd).frp = b.frp := by
  unfold applyControllerCommand
  dsimp only
  split <;> rfl

theorem attend_lastReady (ft : Features) (b : Bridge) (env : TurnEnv) :
    (b.attend ft env).frp.lastReady = b.frp.lastReady := by
  have hpoll := FrpDevice.pollConnection_lastReady env.frp env.incoming b.frp
  have hcheck := FrpDevice.checkController_memory env.frp env.recv
    ((FrpDevice.pollConnection env.frp env.incoming).exec b.frp).1
  unfold attend
  dsimp only
  generalize (FrpDevice.checkController env.frp env.recv).exec _ = out at hcheck ⊢
  rcases out with ⟨frp, r⟩
  have hready : frp.lastReady = b.frp.lastReady := (FrpDevice.memory_lastReady hcheck).trans hpoll
  split
  · rename_i cmd heq
    rcases Prod.mk.inj heq with ⟨rfl, -⟩
    have hfrp := applyControllerCommand_frp ft { b with frp := frp } env cmd
    exact (congrArg FrpDevice.lastReady hfrp).trans hready
  · rename_i heq
    rcases Prod.mk.inj heq with ⟨rfl, -⟩
    exact hready

theorem iterate_lastReady (ft : Features) {b : Bridge} (hrun : b.running = true) (env : TurnEnv) :
    (b.iterate ft env).frp.lastReady =
      readyAfter b.frp.lastReady (Reply.event ((Client.poll ft env.poll).exec b.client).2) := by
  unfold iterate
  rw [if_pos hrun]
  generalize (Client.poll ft env.poll).exec b.client = out
  rcases out with ⟨c, r⟩
  cases r with
  | error e => rfl
  | ok ev =>
    cases ev with
    | none => exact attend_lastReady ft { b with client := c } env
    | some ev => exact handle_lastReady ft { b with client := c } env ev

/-- After its poll a turn only moves the adapter's ready value, by the event the
poll has returned. -/
theorem iterate_keeps (ft : Features) {b : Bridge} (hrun : b.running = true) (env : TurnEnv) :
    let out := (Client.poll ft env.poll).exec b.client
    (b.iterate ft env).client.tracker = out.1.tracker ∧
      (b.iterate ft env).client.queue = out.1.queue ∧
      (b.iterate ft env).frp.lastReady = readyAfter b.frp.lastReady (Reply.event out.2) := by
  intro out
  have hkeeps : Keeps { b with client := out.1 } (b.iterate ft env) :=
    .of_calls (iterate_calls ft hrun env)
  exact ⟨hkeeps.tracker, hkeeps.queue, iterate_lastReady ft hrun env⟩

/-! ## Agreement -/

/-- The bridge and what a watch has heard. -/
structure Agrees (b : Bridge) (w : Watch) : Prop where
  queue : b.client.queue = []
  heard : w.Of b.client.tracker
  ready : b.frp.lastReady = w.lastReady

/-- When a turn accepts an acknowledgment, the ready value last put in telemetry
afterwards is that of the state acknowledged. -/
def AckReflected (ft : Features) (b : Bridge) (env : TurnEnv) : Prop :=
  ∀ s, b.accepts ft env = some (.heartbeatAck s) →
    (b.iterate ft env).frp.lastReady = some (s == .ready)

theorem agrees_start (now : ℕ) (env : FrpEnv) (name : Text) (arg : Option Text) :
    (start now env name arg).Agrees .init where
  queue := rfl
  heard := ⟨rfl, rfl, rfl⟩
  ready := by
    show (FrpDevice.spawn env).lastReady = none
    rw [FrpDevice.spawn_eq]
    exact FrpDevice.memory_lastReady (FrpDevice.requested_memory _ env)

theorem Agrees.quiet {b : Bridge} {w : Watch} {env : TurnEnv} (h : b.Agrees w)
    (hnone : b.accepts ft env = none) : AckReflected ft b env ∧ (b.iterate ft env).Agrees w := by
  refine ⟨fun s hs => by simp [hnone] at hs, ?_⟩
  cases hrun : b.running with
  | false =>
    have hsame : b.iterate ft env = b := if_neg (by simp [hrun])
    rwa [hsame]
  | true =>
    have hpoll := Client.poll_step ft env.poll b.client
    rcases iterate_keeps ft hrun env with ⟨htracker, hqueue, hready⟩
    rcases hpoll.tracker h.queue with ⟨-, hquiet, hev⟩ | ⟨n, hn, -⟩
    · -- a poll that accepts nothing returns no event, or the identity
      have hevent := readyAfter_quiet hev b.frp.lastReady
      refine ⟨hqueue.trans (hpoll.queue h.queue), ?_, (hready.trans hevent).trans h.ready⟩
      rw [htracker, hquiet]
      exact h.heard
    · simp [accepts, hrun, hn] at hnone

theorem Agrees.heard_step {b : Bridge} {w : Watch} {env : TurnEnv} {n : Notification}
    (h : b.Agrees w) (hn : b.accepts ft env = some n) :
    (AckReflected ft b env ↔ w.Changes n) ∧ (b.iterate ft env).Agrees (w.hear n) := by
  have hrun : b.running = true := by
    by_contra hstop
    simp [accepts, hstop] at hn
  have haccept : b.client.accepts ft env.poll = some n := by simpa [accepts, hrun] using hn
  have hpoll := Client.poll_step ft env.poll b.client
  rcases iterate_keeps ft hrun env with ⟨htracker, hqueue, hready⟩
  rcases hpoll.tracker h.queue with ⟨hnone, -⟩ | ⟨n', hn', htr, hev⟩
  · simp [haccept] at hnone
  · obtain rfl : n = n' := Option.some.inj (haccept.symm.trans hn')
    rcases h.heard.hear (b.client.reported ft) n with ⟨hof, hlast⟩
    have hready' : (b.iterate ft env).frp.lastReady = (w.hear n).lastReady := by
      rw [hready, hev, hlast, h.ready]
    refine ⟨?_, hqueue.trans (hpoll.queue h.queue), ?_, hready'⟩
    · cases n with
      | heartbeatAck s =>
        refine Iff.trans ?_ (w.lastReady_hear_ack s)
        rw [← hready']
        refine ⟨fun hack => hack s hn, ?_⟩
        intro heq s' hs'
        obtain rfl : s = s' := by simpa [hn] using hs'
        exact heq
      | ball _ | club _ | sensor _ | alignment _ | queryResponse _ | battery _ _ | clock _ =>
        exact iff_of_true (fun s hs => by simp [hn] at hs) (fun heq => by cases heq)
    · rw [htracker, htr]
      exact hof

/-- Along any run of the bridge, every accepted acknowledgment leaves the ready
value of its state in telemetry exactly when no accepted acknowledgment says
ready, as the last one did, after a shot has been completed in that state. -/
theorem ack_reflected_iff (ft : Features) (now : ℕ) (env : FrpEnv) (name : Text)
    (arg : Option Text) (turns : List TurnEnv) :
    (machine ft).Meets (AckReflected ft) (start now env name arg) turns ↔
      Watch.machine.Meets Watch.Changes .init
        ((machine ft).heardAlong (accepts ft) (start now env name arg) turns) :=
  (machine ft).meets_iff_heardAlong Agrees (fun _ _ _ h hnone => h.quiet hnone)
    (fun _ _ _ _ h hn => h.heard_step hn) (agrees_start now env name arg)

/-- Nothing fails in a turn. -/
structure Healthy (env : TurnEnv) : Prop where
  poll : env.poll.Healthy
  write : ∀ cmd, env.write cmd = .ok ()
  send : ∀ e, env.frp.send e = .ok ()

/-- A turn whose poll has the given environment. -/
def turn (poll : PollEnv) : TurnEnv :=
  ⟨poll, fun _ => .ok (), ⟨fun _ => .ok (), true, 0⟩, false, .ok none⟩

def readyAck : Payload := ⟨[0x11, 0x03, 0x00, 0x04], by decide⟩

/-- The device is ready, a shot is hit, and the device is ready again. -/
theorem ack_reflected_fails :
    ¬∀ (ft : Features) (now : ℕ) (env : FrpEnv) (name : Text) (arg : Option Text)
        (turns : List TurnEnv), (∀ t ∈ turns, Healthy t) →
      (machine ft).Meets (AckReflected ft) (start now env name arg) turns := by
  intro h
  let turns : List TurnEnv := [turn (.empty 0), turn (.reading 0 readyAck),
    turn (.reading 0 sampleBall), turn (.reading 0 sampleClub), turn (.reading 0 readyAck)]
  have hhealthy (env : PollEnv) (henv : env.Healthy) : Healthy (turn env) :=
    ⟨henv, fun _ => rfl, fun _ => rfl⟩
  have hrun := h ⟨false⟩ 0 ⟨fun _ => .ok (), true, 0⟩ [] none turns (by
    simp [turns, hhealthy, PollEnv.empty_healthy, PollEnv.reading_healthy])
  have hlast := ((machine ⟨false⟩).meets_iff.1 hrun) (turns.take 4) (turn (.reading 0 readyAck)) []
    rfl .ready (by decide)
  exact absurd hlast (by decide)

end Bridge

end AllSquare
