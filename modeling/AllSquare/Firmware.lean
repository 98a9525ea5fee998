import AllSquare.Text

/-! # Firmware versions

The firmware characteristic holds a flat JSON object of three strings. `parse`
reads them with substring searches, as the code does.
-/

namespace AllSquare

/-- Firmware versions reported by the device. -/
structure Firmware where
  launcher : Text
  mmi : Text
  lm : Text
deriving DecidableEq, Repr

namespace Firmware

/-- The value of a member: the text between the first two quotes after the
first colon after the quoted key, and nothing when any of these is missing. -/
def field (s key : Text) : Text :=
  ((Text.after ('"' :: (key ++ ['"'])) s).bind fun rest =>
    (Text.after [':'] rest).bind fun rest =>
      (Text.after ['"'] rest).bind (Text.before '"')).getD []

/-- Parse the JSON the firmware characteristic returns. -/
def parse (s : Text) : Firmware where
  launcher := field s "launcher".toList
  mmi := field s "mmi".toList
  lm := field s "lm".toList

end Firmware

end AllSquare
