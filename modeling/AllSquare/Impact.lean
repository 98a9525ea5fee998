import Mathlib.Data.Rat.Defs
import AllSquare.Club

/-! # Face impact calibration

Per club, the distance in millimeters from the bottom edge of the sticker's dot
down to face center. The client adds it to the measured vertical impact; a club
with no value reports no vertical impact.
-/

namespace AllSquare

/-- The calibration table. -/
structure ImpactCalibration where
  dotBottomToFaceCenterMm : Club → Option ℚ

namespace ImpactCalibration

/-- A calibration with no clubs: vertical impact is reported for none. -/
def empty : ImpactCalibration where
  dotBottomToFaceCenterMm := fun _ => none

/-- Set (or, with `none`, clear) the distance for `club`. -/
def setDotBottomToFaceCenterMm (c : ImpactCalibration) (club : Club) (mm : Option ℚ) :
    ImpactCalibration where
  dotBottomToFaceCenterMm := Function.update c.dotBottomToFaceCenterMm club mm

/-- The rows of the default calibration. -/
def defaultTable : List (List Club × ℚ) :=
  [([.driver], 15),
    ([.wood3, .wood5, .wood7], 9),
    ([.hybrid3, .hybrid4, .hybrid5], 8),
    ([.iron3, .iron4, .iron5, .iron6, .iron7, .iron8, .iron9, .pitchingWedge], 19),
    ([.gapWedge, .sandWedge], 21),
    ([.lobWedge], 24)]

/-- The default calibration: every row's distance set for each of its clubs. -/
def default : ImpactCalibration :=
  defaultTable.foldl
    (fun c row => row.1.foldl (fun c club => c.setDotBottomToFaceCenterMm club (some row.2)) c)
    empty

/-- Every club but the putter has a default. -/
theorem default_isSome (club : Club) :
    (default.dotBottomToFaceCenterMm club).isSome ↔ club ≠ .putter := by
  cases club <;> decide

end ImpactCalibration

end AllSquare
