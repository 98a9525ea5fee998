import AllSquare.Firmware
import AllSquare.Impact
import AllSquare.Protocol.Command
import AllSquare.Protocol.Notification
import AllSquare.Reactive
import AllSquare.Stateful

/-! # The poll-based client

`Client` holds what the source's client holds; its transport is the record
`written` of the frames handed to it, each with the transport's answer. Every
operation is a `ClientM` computation: the state is kept when it fails, as
`&mut self` keeps it across an early return.

What the transport and the clock say during one call is the call's environment.
`PollEnv` has one answer for each question a poll can ask, so a poll is a
function of the client and its environment; no operation writes the same
command twice, so the answer to a write is a function of the command.

Instants are nanoseconds on a monotonic clock.
-/

namespace AllSquare

/-- The result of one transport operation. -/
abbrev IoResult (α : Type) := Except IoError α

/-! ## Durations -/

def secs (n : ℕ) : ℕ := n * 1000000000

/-- Silence after which the link is presumed dead: three heartbeat intervals. -/
def linkTimeout : ℕ := secs (3 * heartbeatSecs)

/-- Heartbeats that must go unanswered, alongside `linkTimeout`. -/
def unansweredHeartbeats : ℕ := 2

/-- The largest value of the unanswered counter, a `u32`. -/
def u32Max : ℕ := 2 ^ 32 - 1

/-! ## Events -/

/-- Events surfaced to the caller. -/
inductive Event where
  /-- Emitted once, after identity has been read. -/
  | connected (firmware : Firmware) (hardware deviceId model : Text)
  | stateChanged (s : DeviceState)
  | sensor (s : Sensor)
  /-- A completed shot; no club if the device had nothing to report. -/
  | shot (ball : BallMetrics) (club : Option ClubMetrics)
  | battery (percent : UInt8) (state : ChargingState)
  | clock (seconds : UInt64)
  | alignment (angle : ℚ)
deriving DecidableEq, Repr

/-! ## State -/

/-- Connection phase. -/
inductive Phase where
  | connecting
  | active
deriving DecidableEq, Repr

/-- A frame handed to the transport, and whether the transport took it. -/
structure Write where
  frame : List UInt8
  ok : Bool
deriving DecidableEq, Repr

structure Client where
  written : List Write
  phase : Phase
  seq : UInt8
  lastRx : List UInt8
  queue : List Event
  lastHeartbeat : ℕ
  heartbeatInterval : ℕ
  /-- When anything was last received, duplicates included. -/
  lastData : ℕ
  /-- Heartbeats sent since anything was last received. -/
  unanswered : ℕ
  /-- Silence after which the link is presumed dead. -/
  linkTimeout : ℕ
  state : Option DeviceState
  /-- Ball metrics awaiting their club packet. -/
  pendingShot : Option BallMetrics
  /-- Set once club metrics have been requested for the pending ball. -/
  awaitingClub : Bool
  handed : Handed
  /-- Club last successfully armed or selected. -/
  activeClub : Option Club
  impactCalibration : ImpactCalibration

/-- A computation on the client that may fail. -/
abbrev ClientM := Stateful Error Client

/-- A payload read from the transport: the read buffer has 64 bytes. -/
structure Payload where
  bytes : List UInt8
  length_le : bytes.length ≤ 64
deriving DecidableEq

/-- The clock readings of one poll: when the heartbeat is considered, when it
has been sent, and when the read has returned. -/
structure Clock where
  start : ℕ
  beat : ℕ
  recv : ℕ
  start_le : start ≤ beat
  beat_le : beat ≤ recv

/-- A poll that takes no time. -/
def Clock.at (t : ℕ) : Clock := ⟨t, t, t, Nat.le_refl t, Nat.le_refl t⟩

/-- What the clock and the transport say during one poll. -/
structure PollEnv where
  clock : Clock
  read : IoResult Payload
  write : Command → IoResult Unit
  readCharacteristic : Uuid → IoResult (List UInt8)
  modelHint : Option Text

namespace Client

/-- Wrap a connected transport at the given instant. -/
def new (now : ℕ) : Client where
  written := []
  phase := .connecting
  seq := 0
  lastRx := []
  queue := []
  lastHeartbeat := now
  heartbeatInterval := secs heartbeatSecs
  lastData := now
  unanswered := 0
  linkTimeout := AllSquare.linkTimeout
  state := none
  pendingShot := none
  awaitingClub := false
  handed := .right
  activeClub := none
  impactCalibration := ImpactCalibration.default

def setImpactCalibration (c : Client) (calibration : ImpactCalibration) : Client :=
  { c with impactCalibration := calibration }

def setHanded (c : Client) (handed : Handed) : Client :=
  { c with handed := handed }

/-! ## Sending -/

/-- Number a command and hand it to the transport. -/
def send (write : Command → IoResult Unit) (cmd : Command) : ClientM Unit := do
  modify fun c => { c with seq := c.seq + 1 }
  let bytes := cmd.encode (← get).seq
  match write cmd with
  | .ok () => modify fun c => { c with written := c.written ++ [⟨bytes, true⟩] }
  | .error e =>
    modify fun c => { c with written := c.written ++ [⟨bytes, false⟩] }
    throw (.transport e)

/-- Arm ball detection for `club`. -/
def arm (write : Command → IoResult Unit) (club : Club) (spin : SpinMode) : ClientM Unit := do
  send write (.selectClub club (← get).handed)
  modify fun c => { c with activeClub := some club }
  send write (.detectBall true spin)

/-- Stop ball detection. -/
def disarm (write : Command → IoResult Unit) : ClientM Unit :=
  send write (.detectBall false .advanced)

/-- Change the active club without touching detection. -/
def selectClub (write : Command → IoResult Unit) (club : Club) : ClientM Unit := do
  send write (.selectClub club (← get).handed)
  modify fun c => { c with activeClub := some club }

def setUnits (write : Command → IoResult Unit) (speed : SpeedUnit) (distance : DistanceUnit) :
    ClientM Unit :=
  send write (.setUnits speed distance)

/-- Set green speed, `0..=5` for stimp 8..13. -/
def setGreenSpeed (write : Command → IoResult Unit) (stimpIndex : UInt8) : ClientM Unit :=
  send write (.setGreenSpeed (min stimpIndex 5))

def setCarryAdjustment (write : Command → IoResult Unit) (percent : UInt8) : ClientM Unit :=
  send write (.setCarryAdjustment percent)

/-! ## Notifications -/

/-- Correct vertical impact location with the active club's offset, or clear
it if no offset is known. -/
def applyImpactVerticalOffset (club : ClubMetrics) (activeClub : Option Club)
    (calibration : ImpactCalibration) : ClubMetrics :=
  { club with
    impactVertical :=
      match activeClub.bind calibration.dotBottomToFaceCenterMm with
      | some offset => club.impactVertical.map fun v => v + offset
      | none => none }

/-- The club metrics a shot reports for a club packet. -/
def calibrated (ft : Features) (c : Client) (club : ClubMetrics) : ClubMetrics :=
  if ft.rawFaceImpact then club
  else applyImpactVerticalOffset club c.activeClub c.impactCalibration

def handle (ft : Features) (write : Command → IoResult Unit) :
    Notification → ClientM (Option Event)
  | .ball ball => do
    -- the ball is kept before its club packet is asked for, so a failed write keeps it too
    modify fun c => { c with pendingShot := some ball, awaitingClub := true }
    send write .requestClubMetrics
    return none
  | .club club => do
    if !(← get).awaitingClub then
      return none
    else
      modify fun c => { c with awaitingClub := false }
      let c ← get
      match c.pendingShot with
      | none => return none
      | some ball =>
        set { c with pendingShot := none }
        let club := calibrated ft c club
        return some (.shot ball (if club.isEmpty then none else some club))
  | .heartbeatAck state => do
    if (← get).state = some state then
      return none
    else
      modify fun c => { c with state := some state }
      return some (.stateChanged state)
  | .sensor s => return some (.sensor s)
  | .battery percent state => return some (.battery percent state)
  | .clock seconds => return some (.clock seconds)
  | .alignment angle => return some (.alignment angle)
  | .queryResponse _ => return none

/-! ## Polling -/

/-- Send the heartbeat when due. -/
def heartbeatIfDue (env : PollEnv) : ClientM Unit := do
  let c ← get
  if c.heartbeatInterval ≤ env.clock.start - c.lastHeartbeat then
    send env.write .heartbeat
    modify fun c =>
      { c with lastHeartbeat := env.clock.beat, unanswered := min (c.unanswered + 1) u32Max }

/-- Take in a received payload: duplicates of the last one stop here, and
malformed frames are skipped. -/
def receive (ft : Features) (env : PollEnv) (data : List UInt8) : ClientM (Option Event) := do
  -- any payload proves the link is alive, duplicates included
  modify fun c => { c with lastData := env.clock.recv, unanswered := 0 }
  if data = (← get).lastRx then
    return none
  else
    modify fun c => { c with lastRx := data }
    match parse ft data with
    | .ok note => handle ft env.write note
    | .error .disconnected => throw .disconnected
    | .error _ => return none

/-- Read at most one notification. -/
def readNotification (ft : Features) (env : PollEnv) : ClientM (Option Event) := do
  match env.read with
  | .ok payload =>
    -- a read of zero bytes is how a closed link shows itself
    if payload.bytes = [] then throw .disconnected else receive ft env payload.bytes
  | .error .wouldBlock =>
    let c ← get
    if unansweredHeartbeats ≤ c.unanswered ∧ c.linkTimeout ≤ env.clock.recv - c.lastData then
      throw .disconnected
    else
      return none
  | .error e => throw (.transport e)

/-- Read a characteristic, surfacing a failure. -/
def readCharacteristic (env : PollEnv) (u : Uuid) : ClientM (List UInt8) :=
  match env.readCharacteristic u with
  | .ok v => return v
  | .error e => throw (.transport e)

/-- What the device calls itself; else the transport's hint. -/
def modelName (env : PollEnv) : Text :=
  let name :=
    match env.readCharacteristic uuid.gapName with
    | .ok v => some (Text.fromUtf8Lossy v)
    | .error _ => none
  ((name.filter fun s => !s.isEmpty).or env.modelHint).getD []

def readIdentity (env : PollEnv) : ClientM Event := do
  let fw ← readCharacteristic env uuid.fwVersion
  let hw ← readCharacteristic env uuid.hwVersion
  let id ← readCharacteristic env uuid.deviceId
  send env.write .query
  modify fun c => { c with lastHeartbeat := env.clock.beat }
  send env.write .heartbeat
  -- the identity step's own heartbeat is the first one unanswered
  modify fun c => { c with lastData := env.clock.recv, unanswered := 1 }
  return .connected (Firmware.parse (Text.fromUtf8Lossy fw)) (Text.fromUtf8Lossy hw)
    (Text.fromUtf8Lossy id) (modelName env)

/-- Advance the client, returning the next event, if any. -/
def poll (ft : Features) (env : PollEnv) : ClientM (Option Event) := do
  let c ← get
  match c.queue with
  | ev :: rest =>
    set { c with queue := rest }
    return some ev
  | [] =>
    match c.phase with
    | .connecting =>
      let ev ← readIdentity env
      modify fun c => { c with phase := .active }
      return some ev
    | .active =>
      heartbeatIfDue env
      readNotification ft env

end Client

/-! ## The client as a machine -/

/-- What a call of an operation returns, by value or by error. -/
abbrev Reply := Except Error (Option Event)

/-- A call of one of the client's operations, with what the transport answers
during it. -/
inductive ClientOp where
  | poll (env : PollEnv)
  | arm (write : Command → IoResult Unit) (club : Club) (spin : SpinMode)
  | disarm (write : Command → IoResult Unit)
  | selectClub (write : Command → IoResult Unit) (club : Club)
  | setUnits (write : Command → IoResult Unit) (speed : SpeedUnit) (distance : DistanceUnit)
  | setGreenSpeed (write : Command → IoResult Unit) (stimpIndex : UInt8)
  | setCarryAdjustment (write : Command → IoResult Unit) (percent : UInt8)
  | setHanded (handed : Handed)
  | setImpactCalibration (calibration : ImpactCalibration)

/-- The computation an operation is; one that returns nothing has no event. -/
def ClientOp.exec (ft : Features) (c : Client) : ClientOp → Client × Reply
  | .poll env => (Client.poll ft env).exec c
  | .arm write club spin => (Client.arm write club spin *> pure none).exec c
  | .disarm write => (Client.disarm write *> pure none).exec c
  | .selectClub write club => (Client.selectClub write club *> pure none).exec c
  | .setUnits write speed distance => (Client.setUnits write speed distance *> pure none).exec c
  | .setGreenSpeed write v => (Client.setGreenSpeed write v *> pure none).exec c
  | .setCarryAdjustment write v => (Client.setCarryAdjustment write v *> pure none).exec c
  | .setHanded handed => (c.setHanded handed, .ok none)
  | .setImpactCalibration calibration => (c.setImpactCalibration calibration, .ok none)

/-- The client driven by any of its operations. -/
def clientMachine (ft : Features) : Reactive.Machine Client ClientOp Reply where
  step := fun c op => op.exec ft c

/-- The client driven by polls alone. -/
def pollMachine (ft : Features) : Reactive.Machine Client PollEnv Reply where
  step := fun c env => (Client.poll ft env).exec c

end AllSquare
