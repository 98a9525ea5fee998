import Mathlib.Data.Rat.Defs
import AllSquare.LittleEndian

/-! # Notifications from the device

`parse` decodes one notification payload. Measured values are exact
rationals: the wire carries 16-bit integers and the code divides them by 100,
so a rational holds every value the parser can produce.

Each branch asks `need` for the length it reads, and every byte access takes
its bound from that check, so no branch can index outside the payload.
-/

namespace AllSquare

open LittleEndian

/-- Build features that change the decoding. -/
structure Features where
  /-- Report impact as the unscaled wire value, without the vertical offset. -/
  rawFaceImpact : Bool
deriving DecidableEq, Repr

/-! ## Errors -/

/-- The kinds of I/O failure a transport reports. -/
inductive IoError where
  | wouldBlock
  | notConnected
  | notFound
  | timedOut
  | other
deriving DecidableEq, Repr

inductive Error where
  | truncated (kind : String) (len need : ℕ)
  | unknownFamily (family : UInt8)
  | unknownNotification (type : UInt8)
  | disconnected
  | transport (e : IoError)
deriving DecidableEq, Repr

/-! ## Decoded values -/

/-- Device state machine, reported in every heartbeat ack. -/
inductive DeviceState where
  | none
  | idle
  | init
  | detect
  | ready
  | shot
  | done
  | unknown (v : UInt8)
deriving DecidableEq, Repr

def DeviceState.ofByte (v : UInt8) : DeviceState :=
  match v with
  | 0 => .none
  | 1 => .idle
  | 2 => .init
  | 3 => .detect
  | 4 => .ready
  | 5 => .shot
  | 6 => .done
  | other => .unknown other

/-- Charging status accompanying a battery notification. -/
inductive ChargingState where
  | notCharging
  | discharging
  | charging
  | full
  | noBattery
  | unknown
deriving DecidableEq, Repr

def ChargingState.ofByte (v : UInt8) : ChargingState :=
  match v with
  | 0 => .notCharging
  | 1 => .discharging
  | 2 => .charging
  | 3 => .full
  | 4 => .noBattery
  | _ => .unknown

/-- Ball launch data. -/
structure BallMetrics where
  shotType : UInt8
  speed : ℚ
  launchAngle : ℚ
  direction : ℚ
  totalSpin : Int16
  spinAxis : ℚ
  backSpin : Int16
  sideSpin : Int16
deriving DecidableEq, Repr

/-- Club data for the last shot; a field the device did not measure is `none`. -/
structure ClubMetrics where
  mask : UInt8
  path : Option ℚ
  faceAngle : Option ℚ
  attackAngle : Option ℚ
  dynamicLoft : Option ℚ
  impactHorizontal : Option ℚ
  impactVertical : Option ℚ
  clubSpeed : Option ℚ
  smashFactor : Option ℚ
deriving DecidableEq, Repr

/-- Whether the device measured anything at all for this shot, as the code
decides it: from three of the eight fields. -/
def ClubMetrics.isEmpty (c : ClubMetrics) : Bool :=
  c.clubSpeed.isNone && c.path.isNone && c.faceAngle.isNone

/-- Ball position and detection state. -/
structure Sensor where
  ready : Bool
  detected : Bool
  position : Int32 × Int32 × Int32
deriving DecidableEq, Repr

inductive Notification where
  | sensor (s : Sensor)
  | ball (b : BallMetrics)
  | heartbeatAck (s : DeviceState)
  | alignment (angle : ℚ)
  | queryResponse (payload : List UInt8)
  | club (c : ClubMetrics)
  | battery (percent : UInt8) (state : ChargingState)
  | clock (seconds : UInt64)
deriving DecidableEq, Repr

/-! ## Parsing -/

/-- The sentinel a club field carries when the device has no value for it. -/
def clubSentinel : Int16 := -1

/-- Wire units per club field unit. -/
def clubScale : ℚ := 100

/-- Wire units per impact location unit. -/
def impactScale (ft : Features) : ℚ := if ft.rawFaceImpact then 1 else clubScale

/-- Check that `data` holds at least `n` bytes, handing the bound to the
reads that follow. -/
def need (kind : String) (data : List UInt8) (n : ℕ) :
    Except Error (PLift (n ≤ data.length)) :=
  if h : n ≤ data.length then .ok ⟨h⟩ else .error (.truncated kind data.length n)

/-- Scale a club field, mapping the sentinel to `none`. -/
def clubField (raw : Int16) (mask bit : UInt8) (scale : ℚ) : Option ℚ :=
  if raw = clubSentinel ∨ mask &&& (1 <<< bit) = 0 then none
  else some (raw.toInt / scale)

/-- Club field `i` of a club notification's body, `none` past its end. -/
def getScaled (mask : UInt8) (body : List UInt8) (i : ℕ) (bit : UInt8) (scale : ℚ) :
    Option ℚ :=
  if h : body.length < (i + 1) * 2 then none
  else clubField (i16At body (i * 2) (by omega)) mask bit scale

/-- An `i16` field in hundredths. -/
def hundredths (raw : Int16) : ℚ := raw.toInt / 100

/-- The ball metrics of a frame long enough to hold them. -/
def ballOf (data : List UInt8) (h : 17 ≤ data.length) : BallMetrics where
  shotType := data[2]
  speed := hundredths (i16At data 3 (by omega))
  launchAngle := hundredths (i16At data 5 (by omega))
  direction := hundredths (i16At data 7 (by omega))
  totalSpin := i16At data 9 (by omega)
  spinAxis := hundredths (i16At data 11 (by omega))
  backSpin := i16At data 13 (by omega)
  sideSpin := i16At data 15 (by omega)

/-- The club metrics of a mask and a body of any length. -/
def clubOf (ft : Features) (mask : UInt8) (body : List UInt8) : ClubMetrics where
  mask := mask
  path := getScaled mask body 0 0 clubScale
  faceAngle := getScaled mask body 1 1 clubScale
  attackAngle := getScaled mask body 2 2 clubScale
  dynamicLoft := getScaled mask body 3 3 clubScale
  impactHorizontal := getScaled mask body 4 4 (impactScale ft)
  impactVertical := getScaled mask body 5 5 (impactScale ft)
  clubSpeed := getScaled mask body 6 6 clubScale
  smashFactor := getScaled mask body 7 7 clubScale

/-- Parse a payload of the `0x11` family. -/
def parse11 (ft : Features) (data : List UInt8) : Except Error Notification := do
  let ⟨_⟩ ← need "notification" data 2
  match data[1] with
  | 0x01 =>
    let ⟨_⟩ ← need "sensor" data 17
    return .sensor
      { ready := data[3] == 0x01 || data[3] == 0x02
        detected := data[4] == 0x01
        position := (i32At data 5 (by omega), i32At data 9 (by omega), i32At data 13 (by omega)) }
  | 0x02 =>
    let ⟨h⟩ ← need "ball" data 17
    return .ball (ballOf data h)
  | 0x03 =>
    let ⟨_⟩ ← need "heartbeat ack" data 4
    return .heartbeatAck (DeviceState.ofByte data[3])
  | 0x04 =>
    let ⟨_⟩ ← need "alignment" data 7
    return .alignment (hundredths (i16At data 5 (by omega)))
  -- no length check: the payload is whatever follows the two-byte header
  | 0x06 => return .queryResponse (data.drop 2)
  | 0x07 =>
    let ⟨_⟩ ← need "club" data 3
    -- a short body is accepted; the fields past its end read as unmeasured
    return .club (clubOf ft data[2] (data.drop 3))
  | other => throw (.unknownNotification other)

/-- Parse one notification payload. -/
def parse (ft : Features) (data : List UInt8) : Except Error Notification :=
  if h : data = [] then .error .disconnected
  else
    have : 0 < data.length := List.length_pos_iff.mpr h
    match data[0] with
    | 0x91 => do
      let ⟨_⟩ ← need "battery" data 3
      return .battery data[1] (ChargingState.ofByte data[2])
    | 0x71 => do
      let ⟨_⟩ ← need "clock" data 9
      return .clock (UInt64.ofNat (natOfBe ((data.drop 1).take 8)))
    | 0x11 => parse11 ft data
    | other => .error (.unknownFamily other)

end AllSquare
