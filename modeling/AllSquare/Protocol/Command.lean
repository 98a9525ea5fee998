import AllSquare.Club

/-! # Commands to the device

Commands are `[0x00] [type] [seq] [payload…]`, always nine bytes. `encode`
builds the frame; the payload of a command sits in bytes 3 to 5, and a
command without one leaves them zero.
-/

namespace AllSquare

/-- Recommended heartbeat interval, in seconds. -/
def heartbeatSecs : ℕ := 5

/-- Every command is exactly this long. -/
def commandLen : ℕ := 9

/-! ## Characteristics -/

/-- A 128-bit characteristic identifier. -/
abbrev Uuid := BitVec 128

namespace uuid

def deviceId : Uuid := 0x866020016b7e439abdd1489a3213e9bb
def hwVersion : Uuid := 0x866020026b7e439abdd1489a3213e9bb
def fwVersion : Uuid := 0x866020036b7e439abdd1489a3213e9bb
/-- Commands to the device. -/
def cmd : Uuid := 0x866021016b7e439abdd1489a3213e9bb
/-- Notifications from the device. -/
def evt : Uuid := 0x866021026b7e439abdd1489a3213e9bb
def gapName : Uuid := 0x00002a0000001000800000805f9b34fb

end uuid

/-! ## Commands -/

/-- Spin measurement mode, the second parameter of `detectBall`. -/
inductive SpinMode where
  | standard
  | advanced
deriving DecidableEq, Repr

/-- Speed unit for the device's own display. -/
inductive SpeedUnit where
  | metersPerSecond
  | milesPerHour
deriving DecidableEq, Repr

/-- Distance unit for the device's own display. -/
inductive DistanceUnit where
  | meter
  | yardFeet
  | yardYard
deriving DecidableEq, Repr

def SpinMode.byte : SpinMode → UInt8
  | .standard => 0x10
  | .advanced => 0x11

/-- The discriminant `speed as u8`. -/
def SpeedUnit.byte : SpeedUnit → UInt8
  | .metersPerSecond => 0
  | .milesPerHour => 1

/-- The discriminant `distance as u8`. -/
def DistanceUnit.byte : DistanceUnit → UInt8
  | .meter => 0
  | .yardFeet => 1
  | .yardYard => 2

/-- A command to the device. -/
inductive Command where
  | detectBall (on : Bool) (spin : SpinMode)
  | selectClub (club : Club) (handed : Handed)
  | heartbeat
  | query
  | requestClubMetrics
  | setUnits (speed : SpeedUnit) (distance : DistanceUnit)
  | setGreenSpeed (stimpIndex : UInt8)
  | setCarryAdjustment (percent : UInt8)
deriving DecidableEq, Repr

namespace Command

/-- Command type byte. -/
def typeByte : Command → UInt8
  | .detectBall .. => 0x81
  | .selectClub .. => 0x82
  | .heartbeat => 0x83
  | .query => 0x86
  | .requestClubMetrics => 0x87
  | .setUnits .. => 0x88
  | .setGreenSpeed _ => 0x89
  | .setCarryAdjustment _ => 0x8A

/-- The command type byte of an encoded frame, when it is long enough. -/
def typeByteOf (frame : List UInt8) : Option UInt8 := frame[1]?

/-- Bytes 3 to 8 of the frame: the payload, padded with zeros. -/
def payload : Command → List UInt8
  | .detectBall on spin => [if on then 1 else 0, spin.byte, 0, 0, 0, 0]
  | .selectClub club handed => [club.code.1, club.code.2.byte, handed.code, 0, 0, 0]
  | .heartbeat => [0, 0, 0, 0, 0, 0]
  | .query => [0, 0, 0, 0, 0, 0]
  | .requestClubMetrics => [0, 0, 0, 0, 0, 0]
  | .setUnits speed distance => [0, speed.byte, distance.byte, 0, 0, 0]
  | .setGreenSpeed v => [v, 0, 0, 0, 0, 0]
  | .setCarryAdjustment v => [v, 0, 0, 0, 0, 0]

/-- Encode into the nine-byte wire form. -/
def encode (cmd : Command) (seq : UInt8) : List UInt8 :=
  0x00 :: cmd.typeByte :: seq :: cmd.payload

@[simp] theorem length_encode (cmd : Command) (seq : UInt8) :
    (cmd.encode seq).length = commandLen := by
  cases cmd <;> rfl

/-- The type byte is readable from the encoded frame. -/
@[simp] theorem typeByteOf_encode (cmd : Command) (seq : UInt8) :
    typeByteOf (cmd.encode seq) = some cmd.typeByte := rfl

/-- Only a metrics request carries the request's type byte. -/
theorem typeByte_eq_request {cmd : Command} :
    cmd.typeByte = requestClubMetrics.typeByte ↔ cmd = .requestClubMetrics := by
  cases cmd <;> simp [typeByte]

/-- Only a heartbeat carries the heartbeat's type byte. -/
theorem typeByte_eq_heartbeat {cmd : Command} :
    cmd.typeByte = heartbeat.typeByte ↔ cmd = .heartbeat := by
  cases cmd <;> simp [typeByte]

end Command

end AllSquare
