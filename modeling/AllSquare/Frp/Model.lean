import AllSquare.Client.Model
import AllSquare.Frp.Convert
import AllSquare.Frp.ShotId

/-! # The Flight Relay device adapter

`FrpDevice` turns the client's events into envelopes and hands them to the
controller's connection. A connection is the record of what became of the
envelopes handed to it; the device keeps the connections it has dropped in
`gone`, which the source forgets, and counts in `requests` what it has asked of
the acceptor thread.

What the connection, the acceptor and the clock say during one call is the
call's environment. A call hands each envelope over at most once, so the answer
to a send is a function of the envelope.
-/

namespace AllSquare

/-! ## Envelopes -/

/-- Identifies a shot and orders it among the device's shots. -/
structure ShotKey where
  shotId : Text
  shotNumber : UInt32
deriving DecidableEq, Repr

/-- The keys of telemetry values. -/
inductive TelemetryKey where
  | ready
  | batteryPct
deriving DecidableEq, Repr

inductive FrpEvent where
  | shotTrigger (key : ShotKey)
  | ballFlight (key : ShotKey) (ball : BallFlight)
  | clubPath (key : ShotKey) (club : FrpClubData)
  | faceImpact (key : ShotKey) (impact : FaceImpact)
  | shotFinished (key : ShotKey)
  | deviceTelemetry (manufacturer model firmware : Option Text)
    (telemetry : Option (List (TelemetryKey × Text)))
deriving DecidableEq, Repr

structure Envelope where
  device : Text
  event : FrpEvent
deriving DecidableEq, Repr

/-- The failures of the protocol library: the peer has gone away, or another. -/
inductive FrpError where
  | closed
  | other
deriving DecidableEq, Repr

/-! ## Controller messages -/

/-- A detection mode, which the device does nothing with. -/
structure DetectionMode where
  code : ℕ
deriving DecidableEq, Repr

inductive Handedness where
  | right
  | left
deriving DecidableEq, Repr

/-- The protocol's clubs; `other` stands for those the device has no code for. -/
inductive FrpClub where
  | driver
  | wood3
  | wood5
  | wood7
  | hybrid3
  | hybrid4
  | hybrid5
  | iron3
  | iron4
  | iron5
  | iron6
  | iron7
  | iron8
  | iron9
  | pitchingWedge
  | gapWedge
  | sandWedge
  | lobWedge
  | putter
  | other (code : ℕ)
deriving DecidableEq, Repr

/-- What a controller's `set_detection_mode` asked for. -/
structure ControllerCommand where
  mode : Option DetectionMode
  handed : Option Handedness
  club : Option FrpClub
deriving DecidableEq, Repr

/-- A message from a controller. -/
inductive FrpMessage where
  | setDetectionMode (mode : Option DetectionMode) (handed : Option Handedness)
    (club : Option FrpClub)
  | other
deriving DecidableEq, Repr

/-- The command a message carries, if it is a `set_detection_mode`. -/
def controllerCommand : FrpMessage → Option ControllerCommand
  | .setDetectionMode mode handed club => some ⟨mode, handed, club⟩
  | .other => none

/-! ## State -/

/-- A controller's connection. -/
structure Connection where
  /-- The telemetry the device had cached when it adopted the connection. -/
  cached : Option Envelope
  /-- The envelopes accepted, in order. -/
  accepted : List Envelope
  /-- The envelope whose send found the peer gone. -/
  refused : Option Envelope
deriving DecidableEq

structure FrpDevice where
  conn : Option Connection
  /-- The connections dropped so far. -/
  gone : List Connection
  /-- The requests the acceptor thread has taken so far. -/
  requests : ℕ
  /-- True while the acceptor thread is working on a connection. -/
  pending : Bool
  /-- Last telemetry envelope, sent again to each newly connected controller. -/
  telemetry : Option Envelope
  device : Text
  firmware : Option Text
  model : Option Text
  shotNumber : UInt32
  /-- The last `ready` state put in telemetry. -/
  lastReady : Option Bool
deriving DecidableEq

/-- A computation on the device adapter that may fail. -/
abbrev FrpM := Stateful FrpError FrpDevice

/-- What the connection, the acceptor thread and the clock say during a call. -/
structure FrpEnv where
  send : Envelope → Except FrpError Unit
  /-- Whether the acceptor thread takes a request. -/
  request : Bool
  /-- The system clock when a shot identifier is made. -/
  nanos : ℕ

def manufacturer : Text := "Invant".toList

namespace FrpDevice

/-! ## Connections -/

/-- Ask the acceptor thread for a connection, unless one is already pending. -/
def requestConnection (env : FrpEnv) : FrpM Unit := do
  if !(← get).pending && env.request then
    modify fun d => { d with pending := true, requests := d.requests + 1 }

/-- The device before it asks for its first connection. -/
def unconnected : FrpDevice where
  conn := none
  gone := []
  requests := 0
  pending := false
  telemetry := none
  device := []
  firmware := none
  model := none
  shotNumber := 0
  lastReady := none

/-- A new device, which asks for its first connection. -/
def spawn (env : FrpEnv) : FrpDevice :=
  ((requestConnection env).exec unconnected).1

/-- Drop the current connection and ask for a replacement. -/
def dropConnection (env : FrpEnv) : FrpM Unit := do
  modify fun d => { d with conn := none, gone := d.gone ++ d.conn.toList }
  requestConnection env

/-- Send one envelope, dropping the connection if the peer has gone away. -/
def sendEnvelope (env : FrpEnv) (e : Envelope) : FrpM Unit := do
  match (← get).conn with
  | none => return ()
  | some c =>
    match env.send e with
    | .ok () => modify fun d => { d with conn := some { c with accepted := c.accepted ++ [e] } }
    -- only a peer that has gone away costs the connection
    | .error .closed =>
      modify fun d => { d with conn := some { c with refused := some e } }
      dropConnection env
    | .error err => throw err

/-- Adopt a newly established connection, if one is `incoming`, and send it the
cached telemetry. -/
def pollConnection (env : FrpEnv) (incoming : Bool) : FrpM Bool := do
  let d ← get
  if d.conn.isSome then
    return false
  else if incoming then
    set { d with pending := false, conn := some ⟨d.telemetry, [], none⟩ }
    match d.telemetry with
    | none => return true
    | some e =>
      sendEnvelope env e
      return true
  else
    return false

/-- Poll for controller commands; `recv` is what the connection has. -/
def checkController (env : FrpEnv) (recv : Except FrpError (Option FrpMessage)) :
    FrpM (Option ControllerCommand) := do
  if (← get).conn.isNone then
    return none
  else
    match recv with
    | .ok (some msg) => return controllerCommand msg
    | .error _ =>
      dropConnection env
      return none
    | .ok none => return none

/-! ## Settings -/

/-- Set the device name. -/
def setDeviceName (d : FrpDevice) (name : Text) : FrpDevice := { d with device := name }

/-- Set the firmware string reported in telemetry. -/
def setFirmware (d : FrpDevice) (fw : Text) : FrpDevice := { d with firmware := some fw }

/-- Set the model the device reports for itself. -/
def setModel (d : FrpDevice) (model : Text) : FrpDevice :=
  if model.isEmpty then d else { d with model := some model }

/-! ## Sending -/

/-- The telemetry envelope for the current state. -/
def telemetryEnvelope (d : FrpDevice) (battery : Option UInt8) : Envelope where
  device := d.device
  event := .deviceTelemetry (some manufacturer) d.model d.firmware
    (some ((.ready, (toString (d.lastReady.getD false)).toList) ::
      battery.toList.map fun pct => (.batteryPct, (toString pct.toNat).toList)))

/-- Send telemetry, unless it would say nothing new. -/
def sendTelemetry (env : FrpEnv) (ready : Option Bool) (battery : Option UInt8) : FrpM Unit := do
  if battery.isNone && ready.isSome && ready == (← get).lastReady then
    return ()
  else
    -- remembered and cached before it is sent, whatever becomes of the send
    modify fun d => { d with lastReady := ready.or d.lastReady }
    let e := (← get).telemetryEnvelope battery
    modify fun d => { d with telemetry := some e }
    sendEnvelope env e

/-- Send the initial device-info envelope. -/
def sendDeviceInfo (env : FrpEnv) : FrpM Unit := sendTelemetry env none none

/-- Send the events of a shot while there is a connection. -/
def sendEvents (env : FrpEnv) : List FrpEvent → FrpM Unit
  | [] => return ()
  | event :: rest => do
    let d ← get
    if d.conn.isNone then
      return ()
    else
      sendEnvelope env ⟨d.device, event⟩
      sendEvents env rest

/-- The events a shot is sent as. -/
def shotEvents (ft : Features) (key : ShotKey) (ball : BallMetrics) (club : Option ClubMetrics) :
    List FrpEvent :=
  [.shotTrigger key, .ballFlight key (Convert.ballFlight ball)] ++
    (match club with
    | none => []
    | some club =>
      .clubPath key (Convert.clubData club) ::
        (Convert.faceImpact ft club).toList.map (.faceImpact key)) ++
    [.shotFinished key]

/-- Process a client event and send the resulting envelopes. -/
def handleEvent (ft : Features) (env : FrpEnv) : Event → FrpM Unit
  | .stateChanged state => sendTelemetry env (some (state == .ready)) none
  | .battery percent _ => sendTelemetry env none (some percent)
  | .shot ball club => do
    sendTelemetry env (some false) none
    modify fun d => { d with shotNumber := d.shotNumber + 1 }
    -- numbered whether or not anyone is listening
    let key : ShotKey := ⟨ShotId.uuidV4 env.nanos, (← get).shotNumber⟩
    sendEvents env (shotEvents ft key ball club)
  | _ => return ()

end FrpDevice

/-! ## The device as a machine -/

/-- A call of one of the device's methods, with what it is told during it. -/
inductive FrpCall where
  | handleEvent (env : FrpEnv) (event : Event)
  | sendDeviceInfo (env : FrpEnv)
  | pollConnection (env : FrpEnv) (incoming : Bool)
  | checkController (env : FrpEnv) (recv : Except FrpError (Option FrpMessage))
  | setDeviceName (name : Text)
  | setFirmware (fw : Text)
  | setModel (model : Text)

/-- What a call returns. -/
inductive FrpReply where
  | done (r : Except FrpError Unit)
  | adopted (r : Except FrpError Bool)
  | command (r : Except FrpError (Option ControllerCommand))

/-- Make a call. -/
def FrpCall.exec (ft : Features) (d : FrpDevice) : FrpCall → FrpDevice × FrpReply
  | .handleEvent env event => ((FrpDevice.handleEvent ft env event).exec d).map id .done
  | .sendDeviceInfo env => ((FrpDevice.sendDeviceInfo env).exec d).map id .done
  | .pollConnection env incoming => ((FrpDevice.pollConnection env incoming).exec d).map id .adopted
  | .checkController env recv => ((FrpDevice.checkController env recv).exec d).map id .command
  | .setDeviceName name => (d.setDeviceName name, .done (.ok ()))
  | .setFirmware fw => (d.setFirmware fw, .done (.ok ()))
  | .setModel model => (d.setModel model, .done (.ok ()))

/-- The device driven by calls. -/
def frpMachine (ft : Features) : Reactive.Machine FrpDevice FrpCall FrpReply where
  step := fun d call => call.exec ft d

end AllSquare
