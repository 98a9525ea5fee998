import AllSquare.Coding
import AllSquare.Protocol.Command

/-! # Reading commands back

The fields of a command are written as codes that can be read back, and so is the
command: `Command.decode` reads a frame's command from bytes 1 and 3 to 8, and
accepts just the frames that `encode` writes (`Command.decode_eq_some_iff`).
-/

namespace AllSquare

/-! ## Fields -/

def onOffCoding : Coding Bool UInt8 :=
  .ofTable [false, true] (fun on => if on then 1 else 0)
    (by intro on; cases on <;> decide)
    (by intro on on'; cases on <;> cases on' <;> decide)

def SpinMode.coding : Coding SpinMode UInt8 :=
  .ofTable [.standard, .advanced] SpinMode.byte
    (by intro m; cases m <;> decide)
    (by intro m m'; cases m <;> cases m' <;> decide)

def SpeedUnit.coding : Coding SpeedUnit UInt8 :=
  .ofTable [.metersPerSecond, .milesPerHour] SpeedUnit.byte
    (by intro u; cases u <;> decide)
    (by intro u u'; cases u <;> cases u' <;> decide)

def DistanceUnit.coding : Coding DistanceUnit UInt8 :=
  .ofTable [.meter, .yardFeet, .yardYard] DistanceUnit.byte
    (by intro u; cases u <;> decide)
    (by intro u u'; cases u <;> cases u' <;> decide)

def Handed.coding : Coding Handed UInt8 :=
  .ofTable [.right, .left] Handed.code
    (by intro h; cases h <;> decide)
    (by intro h h'; cases h <;> cases h' <;> decide)

/-- A club is read back from its number and category with the source's own search. -/
def Club.coding : Coding Club (UInt8 × UInt8) :=
  .ofReader (fun c => (c.code.1, c.code.2.byte)) (fun b => Club.fromCode b.1 b.2)
    Club.fromCode_code

/-! ## Commands -/

namespace Command

/-- The command of a type byte with its fields, read off bytes 3 to 5. -/
def ofFields (type b3 b4 b5 : UInt8) : Option Command :=
  match type with
  | 0x81 => Option.map₂ detectBall (onOffCoding.decode b3) (SpinMode.coding.decode b4)
  | 0x82 => Option.map₂ selectClub (Club.coding.decode (b3, b4)) (Handed.coding.decode b5)
  | 0x83 => some .heartbeat
  | 0x86 => some .query
  | 0x87 => some .requestClubMetrics
  | 0x88 => Option.map₂ setUnits (SpeedUnit.coding.decode b4) (DistanceUnit.coding.decode b5)
  | 0x89 => some (.setGreenSpeed b3)
  | 0x8A => some (.setCarryAdjustment b3)
  | _ => none

def ofPayload (type : UInt8) : List UInt8 → Option Command
  | b3 :: b4 :: b5 :: _ => ofFields type b3 b4 b5
  | _ => none

theorem ofPayload_payload (cmd : Command) : ofPayload cmd.typeByte cmd.payload = some cmd := by
  cases cmd with
  | detectBall on spin =>
    exact Coding.map₂_decode_encode onOffCoding SpinMode.coding detectBall on spin
  | selectClub club handed =>
    exact Coding.map₂_decode_encode Club.coding Handed.coding selectClub club handed
  | setUnits speed distance =>
    exact Coding.map₂_decode_encode SpeedUnit.coding DistanceUnit.coding setUnits speed distance
  | heartbeat | query | requestClubMetrics => rfl
  | setGreenSpeed v | setCarryAdjustment v => rfl

/-- A command's type byte and payload, as a code. Bytes without a meaning must be as
`encode` leaves them. -/
def coding : Coding Command (UInt8 × List UInt8) :=
  .ofReader (fun cmd => (cmd.typeByte, cmd.payload)) (fun b => ofPayload b.1 b.2)
    ofPayload_payload

/-- The command of a frame; the frame's number is not looked at. -/
def decode : List UInt8 → Option Command
  | 0x00 :: type :: _seq :: payload => coding.decode (type, payload)
  | _ => none

/-- The command is recovered from every frame it is written in. -/
theorem decode_encode (cmd : Command) (seq : UInt8) : decode (cmd.encode seq) = some cmd :=
  coding.decode_encode cmd

/-- A frame has a command just when it is written for that one. -/
theorem decode_eq_some_iff {frame : List UInt8} {cmd : Command} :
    decode frame = some cmd ↔ ∃ seq, frame = cmd.encode seq := by
  constructor
  · intro h
    unfold decode at h
    split at h
    · rename_i type seq payload
      have hcode := coding.decode_eq_some_iff.1 h
      cases hcode
      exact ⟨seq, rfl⟩
    · cases h
  · rintro ⟨seq, rfl⟩
    exact decode_encode cmd seq

/-- Byte 1 and the bytes from 3 on tell commands apart. -/
theorem eq_of_bytes {cmd cmd' : Command} {seq seq' : UInt8}
    (h : ∀ i, i = 1 ∨ (3 ≤ i ∧ i ≤ 8) → (cmd.encode seq)[i]? = (cmd'.encode seq')[i]?) :
    cmd = cmd' := by
  apply coding.encode_injective
  have htype : cmd.typeByte = cmd'.typeByte := Option.some.inj (h 1 (.inl rfl))
  have hpayload : cmd.payload = cmd'.payload := by
    apply List.ext_getElem?
    intro i
    by_cases hi : i ≤ 5
    · exact h (i + 3) (.inr ⟨by omega, by omega⟩)
    · -- both payloads have six bytes
      have hlen (c : Command) : c.payload.length = 6 := by
        cases c <;> rfl
      rw [List.getElem?_eq_none (by rw [hlen]; omega), List.getElem?_eq_none (by rw [hlen]; omega)]
  exact Prod.ext htype hpayload

end Command

end AllSquare
