import Mathlib.Data.List.Basic

/-! # Clubs and their wire codes

A `selectClub` command names a club by a number and a category. Numbers
collide across categories (the 5-wood and the 5-iron are both number 5), so
only the pair identifies the club: `code` and `fromCode` are inverse on it
(`fromCode_code`, `code_injective`).
-/

namespace AllSquare

/-- Club category, the second byte of a club selection. -/
inductive Category where
  | driver
  | woodHybrid
  | ironWedge
  | putter
deriving DecidableEq, Repr

/-- The category's discriminant (`category as u8`). -/
def Category.byte : Category → UInt8
  | .driver => 0x00
  | .woodHybrid => 0x01
  | .ironWedge => 0x02
  | .putter => 0x03

/-- A selectable club. -/
inductive Club where
  | driver
  | wood3
  | wood5
  | wood7
  | hybrid3
  | hybrid4
  | hybrid5
  | iron3
  | iron4
  | iron5
  | iron6
  | iron7
  | iron8
  | iron9
  | pitchingWedge
  | gapWedge
  | sandWedge
  | lobWedge
  | putter
deriving DecidableEq, Repr

/-- Player handedness, the third byte of a club selection. -/
inductive Handed where
  | right
  | left
deriving DecidableEq, Repr

def Handed.code : Handed → UInt8
  | .right => 0x00
  | .left => 0x01

namespace Club

/-- The `(club_number, category)` pair sent in a club selection. -/
def code : Club → UInt8 × Category
  | .driver => (0x01, .driver)
  | .wood3 => (0x03, .woodHybrid)
  | .wood5 => (0x05, .woodHybrid)
  | .wood7 => (0x07, .woodHybrid)
  | .hybrid3 => (0x0D, .woodHybrid)
  | .hybrid4 => (0x0E, .woodHybrid)
  | .hybrid5 => (0x0F, .woodHybrid)
  | .iron3 => (0x03, .ironWedge)
  | .iron4 => (0x04, .ironWedge)
  | .iron5 => (0x05, .ironWedge)
  | .iron6 => (0x06, .ironWedge)
  | .iron7 => (0x07, .ironWedge)
  | .iron8 => (0x08, .ironWedge)
  | .iron9 => (0x09, .ironWedge)
  | .pitchingWedge => (0x0A, .ironWedge)
  | .gapWedge => (0x0B, .ironWedge)
  | .sandWedge => (0x0C, .ironWedge)
  | .lobWedge => (0x0D, .ironWedge)
  | .putter => (0x01, .putter)

/-- The clubs `fromCode` searches, in the source's order. -/
def all : List Club :=
  [.driver, .wood3, .wood5, .wood7, .hybrid3, .hybrid4, .hybrid5, .iron3,
    .iron4, .iron5, .iron6, .iron7, .iron8, .iron9, .pitchingWedge, .gapWedge,
    .sandWedge, .lobWedge, .putter]

/-- Recover a club from a wire code, if it maps to a known one. -/
def fromCode (number category : UInt8) : Option Club :=
  all.find? fun c => c.code.1 == number && c.code.2.byte == category

theorem mem_all (c : Club) : c ∈ all := by
  cases c <;> decide

/-- A club is recovered from the code it is sent under. -/
theorem fromCode_code (c : Club) : fromCode c.code.1 c.code.2.byte = some c := by
  cases c <;> decide

/-- No two clubs share a wire code. -/
theorem code_injective : Function.Injective code := by
  intro c c' h
  -- `fromCode` is a left inverse of `code`
  have hc := fromCode_code c
  rw [h, fromCode_code c'] at hc
  exact (Option.some.inj hc).symm

end Club

end AllSquare
