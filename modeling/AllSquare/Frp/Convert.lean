import AllSquare.Protocol.Notification

/-! # Shot data in Flight Relay terms

The device's launch and club measurements as the protocol's own types, reduced
to the fields the device can fill: the source leaves every other one at its
default, absent. The device's spin, and its lateral impact, are positive to the
left of the protocol's, so those signs are inverted.
-/

namespace AllSquare

inductive Velocity where
  | metersPerSecond (v : ℚ)
deriving DecidableEq, Repr

inductive Distance where
  | millimeters (v : ℚ)
deriving DecidableEq, Repr

structure BallFlight where
  launchSpeed : Option Velocity
  launchAzimuth : Option ℚ
  launchElevation : Option ℚ
  backspinRpm : Option ℤ
  sidespinRpm : Option ℤ
  totalSpinRpm : Option ℤ
  spinAxis : Option ℚ
deriving DecidableEq, Repr

structure FrpClubData where
  clubSpeed : Option Velocity
  path : Option ℚ
  attackAngle : Option ℚ
  faceAngle : Option ℚ
  dynamicLoft : Option ℚ
  smashFactor : Option ℚ
deriving DecidableEq, Repr

structure FaceImpact where
  lateral : Option Distance
  vertical : Option Distance
deriving DecidableEq, Repr

namespace Convert

/-- Ball metrics as a ball flight. A total spin of zero, which the device
reports for putts, sends neither total spin nor axis. -/
def ballFlight (b : BallMetrics) : BallFlight :=
  let spinMeasured := 0 < b.totalSpin
  { launchSpeed := some (.metersPerSecond b.speed)
    launchAzimuth := some b.direction
    launchElevation := some b.launchAngle
    backspinRpm := some b.backSpin.toInt
    sidespinRpm := some (-b.sideSpin.toInt)
    totalSpinRpm := if spinMeasured then some b.totalSpin.toInt else none
    spinAxis := if spinMeasured then some (-b.spinAxis) else none }

/-- Club metrics as club data; the impact location is not part of it. -/
def clubData (c : ClubMetrics) : FrpClubData where
  clubSpeed := c.clubSpeed.map .metersPerSecond
  path := c.path
  attackAngle := c.attackAngle
  faceAngle := c.faceAngle
  dynamicLoft := c.dynamicLoft
  smashFactor := c.smashFactor

/-- The impact location of club metrics, if there is any of it. -/
def faceImpact (ft : Features) (c : ClubMetrics) : Option FaceImpact :=
  if c.impactHorizontal.isNone && c.impactVertical.isNone then none
  else
    let lateralSign : ℚ := if ft.rawFaceImpact then 1 else -1
    some
      { lateral := c.impactHorizontal.map fun v => .millimeters (lateralSign * v)
        vertical := c.impactVertical.map .millimeters }

/-- A face impact that is sent has a coordinate. -/
theorem faceImpact_coordinate {ft : Features} {c : ClubMetrics} {i : FaceImpact}
    (h : faceImpact ft c = some i) : i.lateral.isSome ∨ i.vertical.isSome := by
  unfold faceImpact at h
  split at h
  · cases h
  · rename_i hc
    obtain rfl := Option.some.inj h
    cases hh : c.impactHorizontal with
    | some x => exact .inl rfl
    | none =>
      cases hv : c.impactVertical with
      | some y => exact .inr rfl
      | none => simp [hh, hv] at hc

/-- A spin axis is sent exactly with a total spin, and that one is positive. -/
theorem ballFlight_spin (b : BallMetrics) :
    (ballFlight b).spinAxis.isSome = (ballFlight b).totalSpinRpm.isSome ∧
      ∀ s, (ballFlight b).totalSpinRpm = some s → 0 < s := by
  unfold ballFlight
  dsimp only
  split
  · rename_i hpos
    refine ⟨rfl, ?_⟩
    intro s hs
    obtain rfl := Option.some.inj hs
    exact Int16.lt_iff_toInt_lt.1 hpos
  · exact ⟨rfl, nofun⟩

end Convert

end AllSquare
