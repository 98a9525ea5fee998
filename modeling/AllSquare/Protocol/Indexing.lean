import Mathlib.Tactic.Common
import AllSquare.Protocol.Notification

/-! # The parser with indexing that may panic

`parse` takes the bound of every read from the length check before it, so it
cannot be written with a check that is too short. Here the same parser is
written as the source has it, with checks and reads apart: a read outside the
payload panics. `Indexed.parse_run` says that none of them ever does.
-/

namespace AllSquare

/-- A computation that may return an error, and may panic instead (`none`). -/
abbrev Panicking := ExceptT Error Option

namespace Indexed

open LittleEndian

/-! ## Reads that may panic -/

/-- `data[i]`. -/
def index (data : List UInt8) (i : ℕ) : Panicking UInt8 := ExceptT.lift data[i]?

/-- `&data[start..]`. -/
def sliceFrom (data : List UInt8) (start : ℕ) : Panicking (List UInt8) :=
  ExceptT.lift (if start ≤ data.length then some (data.drop start) else none)

/-- `&data[start..stop]`. -/
def slice (data : List UInt8) (start stop : ℕ) : Panicking (List UInt8) :=
  ExceptT.lift
    (if start ≤ stop ∧ stop ≤ data.length then some ((data.drop start).take (stop - start))
    else none)

def i16At (b : List UInt8) (off : ℕ) : Panicking Int16 := do
  return i16OfLe (← index b off) (← index b (off + 1))

def i32At (b : List UInt8) (off : ℕ) : Panicking Int32 := do
  return i32OfLe (← index b off) (← index b (off + 1)) (← index b (off + 2)) (← index b (off + 3))

/-! ## The parser -/

def need (kind : String) (data : List UInt8) (n : ℕ) : Panicking Unit :=
  if data.length < n then throw (.truncated kind data.length n) else pure ()

def getScaled (mask : UInt8) (body : List UInt8) (i : ℕ) (bit : UInt8) (scale : ℚ) :
    Panicking (Option ℚ) :=
  if body.length < (i + 1) * 2 then pure none
  else do
    let raw ← i16At body (i * 2)
    return clubField raw mask bit scale

def parse11 (ft : Features) (data : List UInt8) : Panicking Notification := do
  need "notification" data 2
  match ← index data 1 with
  | 0x01 =>
    need "sensor" data 17
    let ready ← index data 3
    let detected ← index data 4
    return .sensor
      { ready := ready == 0x01 || ready == 0x02
        detected := detected == 0x01
        position := (← i32At data 5, ← i32At data 9, ← i32At data 13) }
  | 0x02 =>
    need "ball" data 17
    return .ball
      { shotType := ← index data 2
        speed := hundredths (← i16At data 3)
        launchAngle := hundredths (← i16At data 5)
        direction := hundredths (← i16At data 7)
        totalSpin := ← i16At data 9
        spinAxis := hundredths (← i16At data 11)
        backSpin := ← i16At data 13
        sideSpin := ← i16At data 15 }
  | 0x03 =>
    need "heartbeat ack" data 4
    return .heartbeatAck (DeviceState.ofByte (← index data 3))
  | 0x04 =>
    need "alignment" data 7
    return .alignment (hundredths (← i16At data 5))
  | 0x06 => return .queryResponse (← sliceFrom data 2)
  | 0x07 =>
    need "club" data 3
    let mask ← index data 2
    let body ← sliceFrom data 3
    return .club
      { mask := mask
        path := ← getScaled mask body 0 0 clubScale
        faceAngle := ← getScaled mask body 1 1 clubScale
        attackAngle := ← getScaled mask body 2 2 clubScale
        dynamicLoft := ← getScaled mask body 3 3 clubScale
        impactHorizontal := ← getScaled mask body 4 4 (impactScale ft)
        impactVertical := ← getScaled mask body 5 5 (impactScale ft)
        clubSpeed := ← getScaled mask body 6 6 clubScale
        smashFactor := ← getScaled mask body 7 7 clubScale }
  | other => throw (.unknownNotification other)

def parse (ft : Features) (data : List UInt8) : Panicking Notification :=
  if data = [] then throw .disconnected
  else do
    match ← index data 0 with
    | 0x91 =>
      need "battery" data 3
      return .battery (← index data 1) (ChargingState.ofByte (← index data 2))
    | 0x71 =>
      need "clock" data 9
      return .clock (UInt64.ofNat (natOfBe (← slice data 1 9)))
    | 0x11 => parse11 ft data
    | other => throw (.unknownFamily other)

/-! ## No read panics -/

theorem index_eq {data : List UInt8} {i : ℕ} (h : i < data.length) :
    index data i = pure data[i] := by
  unfold index
  rw [List.getElem?_eq_getElem h]
  rfl

theorem sliceFrom_eq {data : List UInt8} {start : ℕ} (h : start ≤ data.length) :
    sliceFrom data start = pure (data.drop start) := by
  unfold sliceFrom
  rw [if_pos h]
  rfl

theorem slice_eq {data : List UInt8} {start stop : ℕ} (h : start ≤ stop)
    (h' : stop ≤ data.length) :
    slice data start stop = pure ((data.drop start).take (stop - start)) := by
  unfold slice
  rw [if_pos ⟨h, h'⟩]
  rfl

theorem i16At_eq {b : List UInt8} {off : ℕ} (h : off + 2 ≤ b.length) :
    i16At b off = pure (LittleEndian.i16At b off h) := by
  unfold i16At
  rw [index_eq (by omega), index_eq (by omega)]
  rfl

theorem i32At_eq {b : List UInt8} {off : ℕ} (h : off + 4 ≤ b.length) :
    i32At b off = pure (LittleEndian.i32At b off h) := by
  unfold i32At
  rw [index_eq (by omega), index_eq (by omega), index_eq (by omega), index_eq (by omega)]
  rfl

theorem getScaled_eq (mask : UInt8) (body : List UInt8) (i : ℕ) (bit : UInt8) (scale : ℚ) :
    getScaled mask body i bit scale = pure (AllSquare.getScaled mask body i bit scale) := by
  unfold getScaled AllSquare.getScaled
  split
  · rfl
  · rw [i16At_eq (by omega)]
    rfl

/-- A computation behind a length check runs as the checked one does, when past
the check the two agree. -/
theorem need_bind_run {α : Type} {kind : String} {data : List UInt8} {n : ℕ}
    {k : Unit → Panicking α} {k' : PLift (n ≤ data.length) → Except Error α}
    (h : ∀ hn : n ≤ data.length, (k ()).run = some (k' ⟨hn⟩)) :
    (need kind data n >>= k).run = some (AllSquare.need kind data n >>= k') := by
  unfold need AllSquare.need
  by_cases hn : n ≤ data.length
  · rw [if_neg (by omega), dif_pos hn]
    exact h hn
  · rw [if_pos (by omega), dif_neg hn]
    rfl

theorem parse11_run (ft : Features) (data : List UInt8) :
    (parse11 ft data).run = some (AllSquare.parse11 ft data) := by
  unfold parse11 AllSquare.parse11
  apply need_bind_run
  intro h2
  rw [index_eq (by omega), pure_bind]
  dsimp only
  generalize data[1] = b
  split
  · apply need_bind_run
    intro h
    rw [index_eq (by omega), index_eq (by omega), i32At_eq (by omega), i32At_eq (by omega),
      i32At_eq (by omega)]
    rfl
  · apply need_bind_run
    intro h
    rw [index_eq (by omega), i16At_eq (by omega), i16At_eq (by omega), i16At_eq (by omega),
      i16At_eq (by omega), i16At_eq (by omega), i16At_eq (by omega), i16At_eq (by omega)]
    rfl
  · apply need_bind_run
    intro h
    rw [index_eq (by omega)]
    rfl
  · apply need_bind_run
    intro h
    rw [i16At_eq (by omega)]
    rfl
  · rw [sliceFrom_eq (by omega)]
    rfl
  · apply need_bind_run
    intro h
    simp only [index_eq (show 2 < data.length by omega), sliceFrom_eq h, getScaled_eq, pure_bind]
    rfl
  · -- the type is none of the known ones on the other side either
    try simp only [*]
    rfl

/-- The parser as the source has it never panics, and returns what `parse` does. -/
theorem parse_run (ft : Features) (data : List UInt8) :
    (parse ft data).run = some (AllSquare.parse ft data) := by
  unfold parse AllSquare.parse
  by_cases hnil : data = []
  · rw [if_pos hnil, dif_pos hnil]
    rfl
  · have hpos : 0 < data.length := List.length_pos_iff.2 hnil
    rw [if_neg hnil, dif_neg hnil, index_eq hpos, pure_bind]
    dsimp only
    generalize data[0] = b
    split
    · apply need_bind_run
      intro h
      rw [index_eq (by omega), index_eq (by omega)]
      rfl
    · apply need_bind_run
      intro h
      rw [slice_eq (by omega) h]
      rfl
    · exact parse11_run ft data
    · -- nor is the family
      try simp only [*]
      rfl

end Indexed

end AllSquare
