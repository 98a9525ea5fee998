import AllSquare.Client.Model
import AllSquare.Protocol.Grammar

/-! # What one client operation does

`poll_step` says once everything a poll can do, as the relation `PollStep` with
one constructor for each way through the code; `HandleStep` says the same of a
notification, and `CallStep` of the caller's other operations. Every invariant of
the client is proved by cases on these relations, never by unfolding `poll`.
-/

namespace AllSquare

namespace Client

open Stateful

variable {ft : Features}

/-! ## States along a poll -/

/-- A command has been numbered and handed to the transport. -/
def wrote (c : Client) (cmd : Command) (ok : Bool) : Client :=
  { c with seq := c.seq + 1, written := c.written ++ [⟨cmd.encode (c.seq + 1), ok⟩] }

/-- The heartbeat is due at the start of the poll. -/
def HeartbeatDue (c : Client) (env : PollEnv) : Prop :=
  c.heartbeatInterval ≤ env.clock.start - c.lastHeartbeat

instance (c : Client) (env : PollEnv) : Decidable (c.HeartbeatDue env) :=
  inferInstanceAs (Decidable (_ ≤ _))

/-- After the heartbeat step of a poll whose heartbeat, if due, is taken. -/
def beaten (c : Client) (env : PollEnv) : Client :=
  if c.HeartbeatDue env then
    { c.wrote .heartbeat true with
      lastHeartbeat := env.clock.beat, unanswered := min (c.unanswered + 1) u32Max }
  else c

/-- The heartbeat, if due, is taken by the transport. -/
def Beats (c : Client) (env : PollEnv) : Prop :=
  c.HeartbeatDue env → env.write .heartbeat = .ok ()

/-- After a payload has been read. -/
def took (c : Client) (env : PollEnv) (data : List UInt8) : Client :=
  { c with lastData := env.clock.recv, unanswered := 0, lastRx := data }

/-- The watchdog's condition, at the end of an empty read. -/
def LinkSilent (c : Client) (env : PollEnv) : Prop :=
  unansweredHeartbeats ≤ c.unanswered ∧ c.linkTimeout ≤ env.clock.recv - c.lastData

/-- The poll reads from the transport if its heartbeat step does not fail. -/
def Reads (c : Client) : Prop := c.queue = [] ∧ c.phase = .active

/-! ## One notification -/

/-- The event of a notification that is surfaced as it is. -/
def passThrough : Notification → Option Event
  | .sensor s => some (.sensor s)
  | .battery percent state => some (.battery percent state)
  | .clock seconds => some (.clock seconds)
  | .alignment angle => some (.alignment angle)
  | _ => none

/-- The club part of the shot reported for a club packet. -/
def reported (ft : Features) (c : Client) (club : ClubMetrics) : Option ClubMetrics :=
  if (calibrated ft c club).isEmpty then none else some (calibrated ft c club)

/-- What a notification does to the client: the ways through `handle`. -/
inductive HandleStep (ft : Features) (write : Command → IoResult Unit) (c : Client) :
    Notification → Client → Reply → Prop
  | ball (b : BallMetrics) (hw : write .requestClubMetrics = .ok ()) :
      HandleStep ft write c (.ball b)
        ({ c with pendingShot := some b, awaitingClub := true }.wrote .requestClubMetrics true)
        (.ok none)
  | ballFailed (b : BallMetrics) (e : IoError) (hw : write .requestClubMetrics = .error e) :
      HandleStep ft write c (.ball b)
        ({ c with pendingShot := some b, awaitingClub := true }.wrote .requestClubMetrics false)
        (.error (.transport e))
  | staleClub (m : ClubMetrics) (ha : c.awaitingClub = false) :
      HandleStep ft write c (.club m) c (.ok none)
  | strayClub (m : ClubMetrics) (ha : c.awaitingClub = true) (hp : c.pendingShot = none) :
      HandleStep ft write c (.club m) { c with awaitingClub := false } (.ok none)
  | shot (m : ClubMetrics) (b : BallMetrics) (ha : c.awaitingClub = true)
      (hp : c.pendingShot = some b) :
      HandleStep ft write c (.club m) { c with awaitingClub := false, pendingShot := none }
        (.ok (some (.shot b (c.reported ft m))))
  | sameState (s : DeviceState) (hs : c.state = some s) :
      HandleStep ft write c (.heartbeatAck s) c (.ok none)
  | newState (s : DeviceState) (hs : c.state ≠ some s) :
      HandleStep ft write c (.heartbeatAck s) { c with state := some s }
        (.ok (some (.stateChanged s)))
  | passed (n : Notification) (ev : Event) (hn : passThrough n = some ev) :
      HandleStep ft write c n c (.ok (some ev))
  | query (payload : List UInt8) : HandleStep ft write c (.queryResponse payload) c (.ok none)

theorem send_exec (write : Command → IoResult Unit) (cmd : Command) (c : Client) :
    (send write cmd).exec c =
      match write cmd with
      | .ok () => (c.wrote cmd true, .ok ())
      | .error e => (c.wrote cmd false, .error (.transport e)) := by
  unfold send
  simp only [exec_bind, exec_modify, exec_get]
  cases write cmd <;> rfl

theorem handle_step (write : Command → IoResult Unit) (c : Client) (n : Notification) :
    HandleStep ft write c n ((handle ft write n).exec c).1 ((handle ft write n).exec c).2 := by
  cases n with
  | ball b =>
    simp only [handle, exec_bind, exec_modify, send_exec]
    cases hw : write .requestClubMetrics with
    | ok _ => exact .ball b hw
    | error e => exact .ballFailed b e hw
  | club m =>
    simp only [handle, exec_bind, exec_get, exec_ite]
    -- a club packet is looked at only while one is awaited
    cases ha : c.awaitingClub with
    | false => exact .staleClub m ha
    | true =>
      simp only [Bool.not_true, Bool.false_eq_true, if_false, exec_modify]
      split
      · exact .strayClub m ha ‹_›
      · exact .shot m _ ha ‹_›
  | heartbeatAck s =>
    simp only [handle, exec_bind, exec_get, exec_ite]
    split
    · exact .sameState s ‹_›
    · exact .newState s ‹_›
  | sensor s => exact .passed _ _ rfl
  | battery percent state => exact .passed _ _ rfl
  | clock seconds => exact .passed _ _ rfl
  | alignment angle => exact .passed _ _ rfl
  | queryResponse payload => exact .query payload

/-! ## The identity step -/

/-- After an identity step in which everything succeeded. -/
def identified (c : Client) (env : PollEnv) : Client :=
  { ({ c.wrote .query true with lastHeartbeat := env.clock.beat }.wrote .heartbeat true) with
    lastData := env.clock.recv, unanswered := 1, phase := .active }

/-- The ways an identity step leaves the client when it fails. -/
inductive IdentityFailed (c : Client) (env : PollEnv) : Client → IoError → Prop
  | characteristic (u : Uuid) (e : IoError) (hr : env.readCharacteristic u = .error e) :
      IdentityFailed c env c e
  | query (e : IoError) (hw : env.write .query = .error e) :
      IdentityFailed c env (c.wrote .query false) e
  | heartbeat (e : IoError) (hq : env.write .query = .ok ())
      (hw : env.write .heartbeat = .error e) :
      IdentityFailed c env
        ({ c.wrote .query true with lastHeartbeat := env.clock.beat }.wrote .heartbeat false) e

theorem readCharacteristic_exec (env : PollEnv) (u : Uuid) (c : Client) :
    (readCharacteristic env u).exec c =
      match env.readCharacteristic u with
      | .ok v => (c, .ok v)
      | .error e => (c, .error (.transport e)) := by
  unfold readCharacteristic
  cases env.readCharacteristic u <;> rfl

/-- The characteristics without which an identity step fails. -/
def identityReads : List Uuid := [uuid.fwVersion, uuid.hwVersion, uuid.deviceId]

/-- An identity step fails at the first characteristic it cannot read, or goes on to
write. -/
theorem readIdentity_reads (env : PollEnv) (c : Client) :
    (∃ u ∈ identityReads, ∃ e, env.readCharacteristic u = .error e ∧
      (readIdentity env).exec c = (c, .error (.transport e))) ∨
    ((∀ u ∈ identityReads, (env.readCharacteristic u).isOk = true) ∧
      ∃ fw hw id, (readIdentity env).exec c =
        match env.write .query with
        | .error e => (c.wrote .query false, .error (.transport e))
        | .ok _ =>
          match env.write .heartbeat with
          | .error e =>
            ({ c.wrote .query true with lastHeartbeat := env.clock.beat }.wrote .heartbeat false,
              .error (.transport e))
          | .ok _ => ({ c.identified env with phase := c.phase },
            .ok (.connected fw hw id (modelName env)))) := by
  unfold readIdentity identityReads
  simp only [exec_bind, exec_modify, exec_pure, readCharacteristic_exec, send_exec]
  cases hf : env.readCharacteristic uuid.fwVersion with
  | error e => exact .inl ⟨_, by simp, e, hf, rfl⟩
  | ok fw =>
  cases hh : env.readCharacteristic uuid.hwVersion with
  | error e => exact .inl ⟨_, by simp, e, hh, rfl⟩
  | ok hw =>
  cases hi : env.readCharacteristic uuid.deviceId with
  | error e => exact .inl ⟨_, by simp, e, hi, rfl⟩
  | ok id =>
    refine .inr ⟨by simp [hf, hh, hi, Except.isOk, Except.toBool],
      Firmware.parse (Text.fromUtf8Lossy fw), Text.fromUtf8Lossy hw, Text.fromUtf8Lossy id, ?_⟩
    cases env.write .query with
    | error e => rfl
    | ok _ => cases env.write .heartbeat <;> rfl

/-- An identity step either writes a query and a heartbeat and reports the
device, or fails at the first operation that does. -/
theorem readIdentity_exec (env : PollEnv) (c : Client) :
    (∃ fw hw id, env.write .query = .ok () ∧ env.write .heartbeat = .ok () ∧
      (readIdentity env).exec c =
        ({ c.identified env with phase := c.phase }, .ok (.connected fw hw id (modelName env)))) ∨
    ∃ c' e, IdentityFailed c env c' e ∧
      (readIdentity env).exec c = (c', .error (.transport e)) := by
  rcases readIdentity_reads env c with ⟨u, -, e, hu, hexec⟩ | ⟨-, fw, hw, id, hexec⟩
  · exact .inr ⟨c, e, .characteristic u e hu, hexec⟩
  · rw [hexec]
    cases hq : env.write .query with
    | error e => exact .inr ⟨_, e, .query e hq, rfl⟩
    | ok _ =>
      cases hb : env.write .heartbeat with
      | error e => exact .inr ⟨_, e, .heartbeat e hq hb, rfl⟩
      | ok _ => exact .inl ⟨fw, hw, id, rfl, rfl, rfl⟩

/-! ## One poll -/

/-- Everything a poll can do. -/
inductive PollStep (ft : Features) (c : Client) (env : PollEnv) : Client → Reply → Prop
  | queued (ev : Event) (rest : List Event) (hq : c.queue = ev :: rest) :
      PollStep ft c env { c with queue := rest } (.ok (some ev))
  | identified (fw : Firmware) (hw id model : Text) (hq : c.queue = [])
      (hp : c.phase = .connecting) (hwq : env.write .query = .ok ())
      (hwb : env.write .heartbeat = .ok ()) :
      PollStep ft c env (c.identified env) (.ok (some (.connected fw hw id model)))
  | unidentified (c' : Client) (e : IoError) (hq : c.queue = []) (hp : c.phase = .connecting)
      (hf : IdentityFailed c env c' e) : PollStep ft c env c' (.error (.transport e))
  | beatFailed (e : IoError) (hr : c.Reads) (hd : c.HeartbeatDue env)
      (hw : env.write .heartbeat = .error e) :
      PollStep ft c env (c.wrote .heartbeat false) (.error (.transport e))
  | readFailed (e : IoError) (hr : c.Reads) (hb : c.Beats env) (he : e ≠ .wouldBlock)
      (hread : env.read = .error e) : PollStep ft c env (c.beaten env) (.error (.transport e))
  | closed (p : Payload) (hr : c.Reads) (hb : c.Beats env) (hread : env.read = .ok p)
      (hnil : p.bytes = []) : PollStep ft c env (c.beaten env) (.error .disconnected)
  | silent (hr : c.Reads) (hb : c.Beats env) (hread : env.read = .error .wouldBlock)
      (hs : (c.beaten env).LinkSilent env) : PollStep ft c env (c.beaten env) (.error .disconnected)
  | idle (hr : c.Reads) (hb : c.Beats env) (hread : env.read = .error .wouldBlock)
      (hs : ¬(c.beaten env).LinkSilent env) : PollStep ft c env (c.beaten env) (.ok none)
  | duplicate (p : Payload) (hr : c.Reads) (hb : c.Beats env) (hread : env.read = .ok p)
      (hne : p.bytes ≠ []) (hdup : p.bytes = c.lastRx) :
      PollStep ft c env ((c.beaten env).took env p.bytes) (.ok none)
  | malformed (p : Payload) (e : Error) (hr : c.Reads) (hb : c.Beats env)
      (hread : env.read = .ok p) (hne : p.bytes ≠ []) (hnew : p.bytes ≠ c.lastRx)
      (hparse : parse ft p.bytes = .error e) :
      PollStep ft c env ((c.beaten env).took env p.bytes) (.ok none)
  | accepted (p : Payload) (n : Notification) (c' : Client) (r : Reply) (hr : c.Reads)
      (hb : c.Beats env) (hread : env.read = .ok p) (hnew : p.bytes ≠ c.lastRx)
      (hparse : parse ft p.bytes = .ok n)
      (hstep : HandleStep ft env.write ((c.beaten env).took env p.bytes) n c' r) :
      PollStep ft c env c' r

theorem heartbeatIfDue_exec (env : PollEnv) (c : Client) :
    (heartbeatIfDue env).exec c =
      if c.HeartbeatDue env then
        match env.write .heartbeat with
        | .ok () => (c.beaten env, .ok ())
        | .error e => (c.wrote .heartbeat false, .error (.transport e))
      else (c, .ok ()) := by
  simp only [heartbeatIfDue, exec_bind, exec_get, exec_ite, send_exec, exec_modify, exec_pure]
  by_cases hd : c.HeartbeatDue env
  · have hb : c.beaten env = { c.wrote .heartbeat true with
        lastHeartbeat := env.clock.beat, unanswered := min (c.unanswered + 1) u32Max } :=
      if_pos hd
    rw [if_pos hd, hb]
    unfold HeartbeatDue at hd
    rw [if_pos hd]
    cases env.write .heartbeat <;> rfl
  · rw [if_neg hd]
    exact if_neg hd

@[simp] theorem beaten_lastRx (c : Client) (env : PollEnv) :
    (c.beaten env).lastRx = c.lastRx := by
  unfold beaten
  split <;> rfl

/-- The part of a poll after its heartbeat step. -/
theorem readNotification_step (ft : Features) (env : PollEnv) (c : Client) (hr : c.Reads)
    (hb : c.Beats env) :
    PollStep ft c env ((readNotification ft env).exec (c.beaten env)).1
      ((readNotification ft env).exec (c.beaten env)).2 := by
  unfold readNotification
  cases hread : env.read with
  | error e =>
    cases e with
    | wouldBlock =>
      simp only [exec_bind, exec_get, exec_ite, exec_throw, exec_pure]
      split
      · exact .silent hr hb hread ‹_›
      · exact .idle hr hb hread ‹_›
    | notConnected | notFound | timedOut | other => exact .readFailed _ hr hb (by simp) hread
  | ok p =>
    simp only [exec_ite, exec_throw]
    split
    · exact .closed p hr hb hread ‹_›
    · rename_i hne
      unfold receive
      simp only [exec_bind, exec_modify, exec_get, exec_ite, exec_pure, beaten_lastRx]
      split
      · rename_i hdup
        -- the code leaves `lastRx` alone here; setting it to the payload is the same
        have hstep : PollStep ft c env ((c.beaten env).took env p.bytes) (.ok none) :=
          .duplicate p hr hb hread hne hdup
        unfold took at hstep
        rwa [hdup] at hstep
      · rename_i hnew
        cases hparse : parse ft p.bytes with
        | ok n => exact .accepted p n _ _ hr hb hread hnew hparse (handle_step _ _ n)
        | error e =>
          cases e with
          -- the empty payload was caught before parsing
          | disconnected => exact absurd hparse (parse_ne_disconnected hne)
          | truncated _ _ _ | unknownFamily _ | unknownNotification _ | transport _ =>
            exact .malformed p _ hr hb hread hne hnew hparse

/-- A poll does one of the things `PollStep` lists. -/
theorem poll_step (ft : Features) (env : PollEnv) (c : Client) :
    PollStep ft c env ((poll ft env).exec c).1 ((poll ft env).exec c).2 := by
  unfold poll
  simp only [exec_bind, exec_get]
  cases hq : c.queue with
  | cons ev rest =>
    simp only [exec_bind, exec_set, exec_pure]
    exact .queued ev rest hq
  | nil =>
    cases hp : c.phase with
    | connecting =>
      simp only [exec_bind, exec_modify, exec_pure]
      rcases readIdentity_exec env c with ⟨fw, hw, id, hwq, hwb, hexec⟩ | ⟨c', e, hf, hexec⟩
      · rw [hexec]
        exact .identified fw hw id _ hq hp hwq hwb
      · rw [hexec]
        exact .unidentified c' e hq hp hf
    | active =>
      have hr : c.Reads := ⟨hq, hp⟩
      simp only [exec_bind, heartbeatIfDue_exec]
      by_cases hd : c.HeartbeatDue env
      · rw [if_pos hd]
        cases hw : env.write .heartbeat with
        | error e => exact .beatFailed e hr hd hw
        | ok _ => exact readNotification_step ft env c hr fun _ => hw
      -- no heartbeat is due: the read starts from the client as it was
      · have hb : c.beaten env = c := if_neg hd
        have hstep := readNotification_step ft env c hr fun h => absurd h hd
        rw [hb] at hstep
        rw [if_neg hd]
        exact hstep

end Client

/-! ## One call of another operation -/

namespace ClientOp

open Client Stateful

theorem other_or_poll (op : ClientOp) : (∀ env, op ≠ .poll env) ∨ ∃ env, op = .poll env := by
  cases op with
  | poll env => exact .inr ⟨env, rfl⟩
  | _ => exact .inl (by simp)

/-- What the transport answers during an operation. -/
def write : ClientOp → Command → IoResult Unit
  | .poll env => env.write
  | .arm write _ _ | .disarm write | .selectClub write _ | .setUnits write _ _
  | .setGreenSpeed write _ | .setCarryAdjustment write _ => write
  | .setHanded _ | .setImpactCalibration _ => fun _ => .ok ()

/-- The command of an operation that sends one and does nothing else. -/
def command : ClientOp → Option Command
  | .disarm _ => some (.detectBall false .advanced)
  | .setUnits _ speed distance => some (.setUnits speed distance)
  | .setGreenSpeed _ v => some (.setGreenSpeed (min v 5))
  | .setCarryAdjustment _ v => some (.setCarryAdjustment v)
  | _ => none

/-- After a club selection that the transport has taken. -/
def selected (c : Client) (club : Club) : Client :=
  { c.wrote (.selectClub club c.handed) true with activeClub := some club }

/-- Everything an operation other than a poll can do. -/
inductive CallStep (c : Client) : ClientOp → Client → Reply → Prop
  | sent (op : ClientOp) (cmd : Command) (hcmd : op.command = some cmd)
      (hw : op.write cmd = .ok ()) : CallStep c op (c.wrote cmd true) (.ok none)
  | refused (op : ClientOp) (cmd : Command) (e : IoError) (hcmd : op.command = some cmd)
      (hw : op.write cmd = .error e) :
      CallStep c op (c.wrote cmd false) (.error (.transport e))
  | selected (write : Command → IoResult Unit) (club : Club)
      (hw : write (.selectClub club c.handed) = .ok ()) :
      CallStep c (.selectClub write club) (selected c club) (.ok none)
  | unselected (write : Command → IoResult Unit) (club : Club) (e : IoError)
      (hw : write (.selectClub club c.handed) = .error e) :
      CallStep c (.selectClub write club) (c.wrote (.selectClub club c.handed) false)
        (.error (.transport e))
  | armed (write : Command → IoResult Unit) (club : Club) (spin : SpinMode)
      (hw : write (.selectClub club c.handed) = .ok ())
      (hd : write (.detectBall true spin) = .ok ()) :
      CallStep c (.arm write club spin) ((selected c club).wrote (.detectBall true spin) true)
        (.ok none)
  | undetected (write : Command → IoResult Unit) (club : Club) (spin : SpinMode) (e : IoError)
      (hw : write (.selectClub club c.handed) = .ok ())
      (hd : write (.detectBall true spin) = .error e) :
      CallStep c (.arm write club spin) ((selected c club).wrote (.detectBall true spin) false)
        (.error (.transport e))
  | unarmed (write : Command → IoResult Unit) (club : Club) (spin : SpinMode) (e : IoError)
      (hw : write (.selectClub club c.handed) = .error e) :
      CallStep c (.arm write club spin) (c.wrote (.selectClub club c.handed) false)
        (.error (.transport e))
  | handed (handed : Handed) : CallStep c (.setHanded handed) (c.setHanded handed) (.ok none)
  | calibrated (calibration : ImpactCalibration) :
      CallStep c (.setImpactCalibration calibration) (c.setImpactCalibration calibration)
        (.ok none)

theorem send_step (c : Client) (op : ClientOp) {cmd : Command} (hcmd : op.command = some cmd) :
    let r := (send op.write cmd *> pure none : ClientM (Option Event)).exec c
    CallStep c op r.1 r.2 := by
  rw [seqRight_eq_bind, exec_bind, send_exec]
  cases hw : op.write cmd with
  | ok _ => exact .sent op cmd hcmd hw
  | error e => exact .refused op cmd e hcmd hw

/-- An operation other than a poll does one of the things `CallStep` lists. -/
theorem call_step (ft : Features) (c : Client) (op : ClientOp) (hop : ∀ env, op ≠ .poll env) :
    CallStep c op (op.exec ft c).1 (op.exec ft c).2 := by
  cases op with
  | poll env => exact absurd rfl (hop env)
  | setHanded handed => exact .handed handed
  | setImpactCalibration calibration => exact .calibrated calibration
  | disarm write => exact send_step c (.disarm write) rfl
  | setUnits write speed distance => exact send_step c (.setUnits write speed distance) rfl
  | setGreenSpeed write v => exact send_step c (.setGreenSpeed write v) rfl
  | setCarryAdjustment write v => exact send_step c (.setCarryAdjustment write v) rfl
  | selectClub write club =>
    simp only [exec, Client.selectClub, seqRight_eq_bind, exec_bind, exec_get, exec_modify,
      send_exec]
    cases hw : write (.selectClub club c.handed) with
    | ok _ => exact .selected write club hw
    | error e => exact .unselected write club e hw
  | arm write club spin =>
    simp only [exec, Client.arm, seqRight_eq_bind, exec_bind, exec_get, exec_modify, send_exec]
    cases hw : write (.selectClub club c.handed) with
    | error e => exact .unarmed write club spin e hw
    | ok _ =>
      -- the selection is taken, and its club stays active whatever detection does
      cases hd : write (.detectBall true spin) with
      | ok _ => exact .armed write club spin hw hd
      | error e => exact .undetected write club spin e hw hd

end ClientOp

end AllSquare
