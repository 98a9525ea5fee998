import AllSquare.Ble

/-! # Finding a device

Both backends look through what the Bluetooth stack has seen, again and again, and take
the first device that fits: the pinned one, or without a pin any Square Golf device. What
a name is worth differs between them. The btleplug backend takes the advertised name out
of what is reported and, when a match has none, waits a while for one
(`transportName_eq`), so that a device found without a pin is found again by a pin made of
its name (`found_again`). The BlueZ backend takes a reported name that begins with the
prefix as it is, and `Bluez.name_pins_iff` says when that name is a pin.
-/

namespace AllSquare

/-- Company identifier the Omni advertises its manufacturer data under. -/
def manufacturerId : UInt16 := 0xffff

/-- Manufacturer data payload advertised by the Omni: its model code. -/
def omniModel : List UInt8 := [0x30, 0x33, 0x30, 0x30, 0x41]

/-- GAP device name of the Omni, distinct from its advertised name. -/
def omniGapName : Text := "SGO300A".toList

/-- Whether an advertisement belongs to a Square Golf device. -/
def isSquareGolf (reported : Text) (manufacturerData : List (UInt16 × List UInt8)) : Bool :=
  (advertisedName reported).isSome || reported == omniGapName ||
    manufacturerData.any fun data => data.1 == manufacturerId && data.2 == omniModel

/-! ## The btleplug backend -/

namespace Btleplug

/-- What the stack reports of a device. -/
structure Properties where
  /-- The address; macOS hides it. -/
  address : Option Text
  localName : Option Text
  manufacturerData : List (UInt16 × List UInt8)

/-- A device in a round of the scan. -/
structure Sighting where
  /-- The peripheral's identifier. -/
  id : Text
  /-- `none` when the properties could not be read. -/
  properties : Option Properties
  /-- What reading them again gives while the scan waits for a name. -/
  rereads : List (Option Properties)

/-- A device matched by a scan. -/
structure Found where
  name : Text
  address : Text
deriving DecidableEq

namespace Properties

def reported (props : Properties) : Text := props.localName.getD []

/-- The peripheral's identifier stands in for a hidden address. -/
def addr (props : Properties) (id : Text) : Text := props.address.getD id

/-- The device is the one looked for. -/
def Matched (props : Properties) (address : Option Text) (id : Text) : Bool :=
  match address with
  | some want => Ble.matchesPin want (props.addr id) props.reported
  | none => isSquareGolf props.reported props.manufacturerData

end Properties

/-- The first advertised name among what reading a device's properties gave. -/
def readAdvertisedName (reads : List (Option Properties)) : Option Text :=
  reads.findSome? fun r => r.bind fun props => props.localName.bind advertisedName

/-- The name a match is found under. Without a pin a match that has no advertised name
waits for one. -/
def matchName (address : Option Text) (s : Sighting) (props : Properties) : Text :=
  match advertisedName props.reported with
  | some name => name
  | none =>
    if address.isNone then (readAdvertisedName s.rereads).getD props.reported
    else props.reported

/-- What a scan makes of a device. -/
def sight (address : Option Text) (s : Sighting) : Option Found :=
  s.properties.bind fun props =>
    if props.Matched address s.id then some ⟨matchName address s props, props.addr s.id⟩ else none

/-- A scan: rounds over the devices seen so far, `none` when these could not be listed. -/
def discover (address : Option Text) (rounds : List (Option (List Sighting))) : Option Found :=
  rounds.findSome? fun round => round.bind fun seen => seen.findSome? (sight address)

/-- The name of the transport once it has connected; `last` is one more reading of the
properties, made when the scan has found no advertised name. -/
def transportName (found : Found) (last : Option Properties) : Text :=
  if (advertisedName found.name).isSome then found.name
  else (readAdvertisedName [last]).getD found.name

/-! ### The name of a transport -/

theorem readAdvertisedName_append (reads reads' : List (Option Properties)) :
    readAdvertisedName (reads ++ reads') =
      (readAdvertisedName reads).or (readAdvertisedName reads') :=
  List.findSome?_append

/-- What is read as an advertised name is one. -/
theorem advertisedName_of_read {reads : List (Option Properties)} {n : Text}
    (h : readAdvertisedName reads = some n) : advertisedName n = some n := by
  rcases List.exists_of_findSome?_eq_some h with ⟨r, -, hr⟩
  rcases Option.bind_eq_some_iff.1 hr with ⟨props, -, hprops⟩
  rcases Option.bind_eq_some_iff.1 hprops with ⟨reported, -, hname⟩
  exact advertisedName_idem hname

/-- A report is read as its advertised name. -/
theorem readAdvertisedName_one (props : Properties) :
    readAdvertisedName [some props] = advertisedName props.reported := by
  have hone : readAdvertisedName [some props] = props.localName.bind advertisedName := by
    unfold readAdvertisedName
    rw [List.findSome?_singleton, Option.bind_some]
  rw [hone]
  unfold Properties.reported
  cases props.localName with
  | none => decide
  | some reported => rfl

/-- What a match is read for its name before it is connected. -/
def matchReads (address : Option Text) (s : Sighting) (props : Properties) :
    List (Option Properties) :=
  some props :: if address.isNone then s.rereads else []

/-- A match is found under the first advertised name read, or else as it is reported. -/
theorem matchName_eq (address : Option Text) (s : Sighting) (props : Properties) :
    matchName address s props =
      (readAdvertisedName (matchReads address s props)).getD props.reported := by
  have hsplit := readAdvertisedName_append [some props] (if address.isNone then s.rereads else [])
  rw [readAdvertisedName_one] at hsplit
  unfold matchReads matchName
  rw [← List.singleton_append, hsplit]
  cases advertisedName props.reported with
  | some n => rfl
  | none =>
    cases address with
    | none => rfl
    | some want => rfl

/-- The transport has the first advertised name that was read of its device, at the match,
while the scan waited, or after connecting; where none was, it has the reported name. -/
theorem transportName_eq (address : Option Text) (s : Sighting) (props : Properties)
    (last : Option Properties) :
    transportName ⟨matchName address s props, props.addr s.id⟩ last =
      (readAdvertisedName (matchReads address s props ++ [last])).getD props.reported := by
  unfold transportName
  rw [matchName_eq, readAdvertisedName_append]
  cases hread : readAdvertisedName (matchReads address s props) with
  | some n =>
    have hname := advertisedName_of_read hread
    rw [Option.getD_some, hname]
    rfl
  | none =>
    -- then the report at the match has none either
    have hnone : advertisedName props.reported = none := by
      have hsplit := readAdvertisedName_append [some props]
        (if address.isNone then s.rereads else [])
      rw [readAdvertisedName_one] at hsplit
      have hboth := hsplit.symm.trans hread
      cases hname : advertisedName props.reported with
      | none => rfl
      | some n =>
        rw [hname] at hboth
        cases hboth
    rw [Option.getD_none, hnone]
    rfl

/-! ### Scans -/

/-- The device is seen, and its properties read, in some round. -/
def Seen (rounds : List (Option (List Sighting))) (s : Sighting) (props : Properties) : Prop :=
  ∃ seen, some seen ∈ rounds ∧ s ∈ seen ∧ s.properties = some props

/-- What a scan finds is a device it has seen and that is looked for. -/
theorem discover_some {address : Option Text} {rounds : List (Option (List Sighting))}
    {found : Found} (h : discover address rounds = some found) :
    ∃ s props, Seen rounds s props ∧ props.Matched address s.id = true ∧
      found = ⟨matchName address s props, props.addr s.id⟩ := by
  rcases List.exists_of_findSome?_eq_some h with ⟨round, hround, hlook⟩
  rcases Option.bind_eq_some_iff.1 hlook with ⟨seen, rfl, hseen⟩
  rcases List.exists_of_findSome?_eq_some hseen with ⟨s, hs, hsight⟩
  rcases Option.bind_eq_some_iff.1 hsight with ⟨props, hprops, hfound⟩
  by_cases hm : props.Matched address s.id = true
  · rw [if_pos hm] at hfound
    exact ⟨s, props, ⟨seen, hround, hs, hprops⟩, hm, (Option.some.inj hfound).symm⟩
  · rw [if_neg hm] at hfound
    cases hfound

/-- A scan that sees a device it looks for finds one. -/
theorem discover_isSome {address : Option Text} {rounds : List (Option (List Sighting))}
    {s : Sighting} {props : Properties} (hseen : Seen rounds s props)
    (hm : props.Matched address s.id = true) : (discover address rounds).isSome = true := by
  rcases hseen with ⟨seen, hround, hs, hprops⟩
  have hsight : (sight address s).isSome = true := by
    unfold sight
    rw [hprops, Option.bind_some, if_pos hm]
    rfl
  have hlook : (seen.findSome? (sight address)).isSome = true :=
    List.findSome?_isSome_iff.2 ⟨s, hs, hsight⟩
  exact List.findSome?_isSome_iff.2 ⟨some seen, hround, hlook⟩

/-- What a pinned scan finds is a device it has seen, under the name reported of it or the
advertised name in that, and its address or its advertised name is the pin. -/
theorem pinned_some {pin : Text} {rounds : List (Option (List Sighting))} {found : Found}
    (h : discover (some pin) rounds = some found) :
    ∃ s props, Seen rounds s props ∧ found.address = props.addr s.id ∧
      found.name = (advertisedName props.reported).getD props.reported ∧
      (Text.Recased found.address (Text.trim pin) ∨
        (advertisedName props.reported = some found.name ∧
          Text.Recased found.name (Text.trim pin))) := by
  rcases discover_some h with ⟨s, props, hseen, hm, rfl⟩
  have hname : matchName (some pin) s props =
      (advertisedName props.reported).getD props.reported := by
    unfold matchName
    cases advertisedName props.reported <;> rfl
  refine ⟨s, props, hseen, rfl, hname, ?_⟩
  rcases (Ble.matchesPin_iff.1 hm).2 with haddr | ⟨n, hn, hrecased⟩
  · exact .inl haddr
  · right
    dsimp only
    rw [hname, hn]
    exact ⟨rfl, hrecased⟩

/-- A device found without a pin, for every scan and whatever is read of it: the
transport's address is that of a device the scan has seen, and its name is the first
advertised name that was read of this device, or, where none was, the reported name. And where
it is an advertised name that does not end in whitespace, it is a pin: every later scan for it,
in any case and with whitespace around it, that sees a device reported with this advertised
name in any form finds one. What it finds it has seen, with the address and the name that are
reported of that one device, and one of the two is the pin. -/
theorem found_again {rounds : List (Option (List Sighting))} {found : Found}
    (hfound : discover none rounds = some found) (last : Option Properties) :
    let name := transportName found last
    (∃ s props, Seen rounds s props ∧ isSquareGolf props.reported props.manufacturerData = true ∧
      found.address = props.addr s.id ∧
      name = (readAdvertisedName (some props :: s.rereads ++ [last])).getD props.reported) ∧
    ((∀ c, name.getLast? = some c → Text.isWhitespace c = false) →
      ∀ pin, Ble.PinOf name pin → ∀ (rounds' : List (Option (List Sighting))) (s : Sighting)
        (props : Properties), Seen rounds' s props → advertisedName props.reported = some name →
      ∃ found', discover (some pin) rounds' = some found' ∧
        ∃ s' props', Seen rounds' s' props' ∧ found'.address = props'.addr s'.id ∧
          found'.name = (advertisedName props'.reported).getD props'.reported ∧
          (Text.Recased found'.address (Text.trim pin) ∨
            (advertisedName props'.reported = some found'.name ∧
              Text.Recased found'.name (Text.trim pin)))) := by
  intro name
  refine ⟨?_, ?_⟩
  · rcases discover_some hfound with ⟨s, props, hseen, hm, rfl⟩
    exact ⟨s, props, hseen, hm, rfl, transportName_eq none s props last⟩
  · intro hlast pin hpin rounds' s props hseen hname
    have hm : props.Matched (some pin) s.id = true :=
      Ble.matchesPin_of_pinOf (props.addr s.id) hname hlast hpin
    rcases Option.isSome_iff_exists.1 (discover_isSome hseen hm) with ⟨found', hfound'⟩
    exact ⟨found', hfound', pinned_some hfound'⟩

/-- An Omni matched by its manufacturer data, whose name arrives while the scan waits, is
later reported behind its cached name. -/
theorem found_again_omni :
    let name := "SquareGolf(CD01)".toList
    let cached : Properties := ⟨none, some (cachedName omniGapName name), []⟩
    ∃ found, discover (some "squaregolf(cd01)\n".toList)
        [none, some [⟨[], none, []⟩, ⟨"2".toList, some cached, []⟩]] = some found ∧
      (Text.Recased found.address "squaregolf(cd01)".toList ∨
        Text.Recased found.name "squaregolf(cd01)".toList) := by
  intro name cached
  let omni : Properties := ⟨none, none, [(manufacturerId, omniModel)]⟩
  have hfound : discover none [some [⟨"1".toList, some omni, [none, some ⟨none, some name, []⟩]⟩]] =
      some ⟨name, "1".toList⟩ := by decide
  have hlast : ∀ c, name.getLast? = some c → Text.isWhitespace c = false := by
    intro c hc
    obtain rfl : ')' = c := Option.some.inj hc
    rfl
  have hpin : Ble.PinOf name "squaregolf(cd01)\n".toList :=
    ⟨[], "squaregolf(cd01)".toList, ['\n'], by simp [Text.Blank],
      Text.eqIgnoreAsciiCase_iff.1 (by decide), by simp [Text.Blank, Text.isWhitespace], rfl⟩
  have hseen : Seen [none, some [⟨[], none, []⟩, ⟨"2".toList, some cached, []⟩]]
      ⟨"2".toList, some cached, []⟩ cached :=
    ⟨_, List.mem_cons_of_mem _ (List.mem_singleton_self _), by simp, rfl⟩
  rcases (found_again hfound none).2 hlast _ hpin _ _ cached hseen (by decide) with
    ⟨found, hagain, _, _, -, -, -, hmatch⟩
  exact ⟨found, hagain, hmatch.imp_right And.right⟩

end Btleplug

end AllSquare
