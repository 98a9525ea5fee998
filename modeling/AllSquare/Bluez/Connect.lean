import AllSquare.Ble
import AllSquare.Protocol.Command
import AllSquare.Stateful.Monitored

/-! # Connecting over BlueZ

BlueZ is spoken to over D-Bus. `connect` finds a device among the objects BlueZ manages,
after a scan if need be, and takes it through trusting, connecting and service discovery to
its notifications. Every call it asks for is logged, and what the calls give is the
environment.

BlueZ works with this device only when some things come in order: a device is trusted
before it is connected, or it is removed again; it is not connected while a scan is on; and
the signals are subscribed to before notifications are enabled, or the first are missed.
`Bus` is a monitor for that order, and `connect_conforms` says that `connect` keeps it
whatever its calls give. What BlueZ answers to the start and the stop of a scan is not looked
at, though, so a scan that BlueZ has refused to stop may still be on. `name_pins_iff` says
which devices found without a pin are found again by their name.
-/

namespace AllSquare

namespace Bluez

open Stateful (log)

/-! ## What BlueZ manages -/

/-- A D-Bus object path. -/
abbrev Path := Text

/-- A property value: a string, or something else. -/
inductive Value where
  | string (s : Text)
  | other

def Value.text : Value → Option Text
  | .string s => some s
  | .other => none

/-- The properties of a device that are looked at. -/
structure DeviceProps where
  aliasValue : Option Value
  nameValue : Option Value
  addressValue : Option Value

/-- A managed object with the interfaces that are looked at: a device, or a characteristic
with its UUID. -/
structure Object where
  path : Path
  device : Option DeviceProps
  characteristic : Option (Option Value)

/-- The alias stands before the name. -/
def DeviceProps.name (dev : DeviceProps) : Text :=
  ((dev.aliasValue.or dev.nameValue).bind Value.text).getD []

def DeviceProps.address (dev : DeviceProps) : Text := (dev.addressValue.bind Value.text).getD []

/-- A device that has been found. -/
structure Hit where
  path : Path
  name : Text
  address : Text
deriving DecidableEq

/-- What a look makes of an object. -/
def hit (address : Option Text) (o : Object) : Option Hit :=
  o.device.bind fun dev =>
    let matched : Bool :=
      match address with
      | some want => Ble.matchesPin want dev.address dev.name
      | none => decide (namePrefix <+: dev.name)
    if matched then some ⟨o.path, dev.name, dev.address⟩ else none

/-! ## Characteristics -/

def hexDigit (c : Char) : Option ℕ :=
  if '0' ≤ c ∧ c ≤ '9' then some (c.toNat - '0'.toNat)
  else if 'a' ≤ c ∧ c ≤ 'f' then some (c.toNat - 'a'.toNat + 10)
  else if 'A' ≤ c ∧ c ≤ 'F' then some (c.toNat - 'A'.toNat + 10)
  else none

/-- A number without the plus sign it may have. -/
def unsigned : Text → Text
  | '+' :: digits => digits
  | digits => digits

/-- One more digit of a number of 128 bits. -/
def pushDigit (n : ℕ) (c : Char) : Option ℕ :=
  (hexDigit c).bind fun d => if n * 16 + d < 2 ^ 128 then some (n * 16 + d) else none

/-- A hexadecimal number of 128 bits. -/
def u128FromHex (t : Text) : Option Uuid :=
  if unsigned t = [] then none
  else ((unsigned t).foldlM pushDigit 0).map (BitVec.ofNat 128)

/-- The characteristics of a device, by their UUIDs. -/
def characteristics (device : Path) (objects : List Object) : List (Uuid × Path) :=
  objects.filterMap fun o =>
    if device <+: o.path then
      (o.characteristic.bind fun u => u.bind Value.text).bind fun u =>
        (u128FromHex (u.filter (· ≠ '-'))).map fun u => (u, o.path)
    else none

/-- The last entry of a UUID counts. -/
def lookup (chars : List (Uuid × Path)) (u : Uuid) : Option Path :=
  (chars.reverse.find? fun c => c.1 = u).map Prod.snd

/-! ## Connecting -/

/-- Why connecting has failed. -/
inductive ConnectError where
  | notFound
  | backend (message : Text)

/-- A call over D-Bus, logged when it is asked for; of a scan, with whether BlueZ grants it. -/
inductive Call where
  | getManagedObjects
  | startDiscovery (granted : Bool)
  | stopDiscovery (granted : Bool)
  | getManufacturerData (device : Path)
  | setTrusted (device : Path)
  | connect (device : Path)
  | getServicesResolved (device : Path)
  | matchRule (path : Path)
  | startNotify (characteristic : Path)
deriving DecidableEq

/-- A computation over the bus. -/
abbrev DbusM := Stateful ConnectError (List Call)

/-- What the bus and the system give while a device is connected. For the start and the stop
of the scan it has two answers: whether the adapter's proxy can be made, without which nothing
is asked, and whether BlueZ then does what it is asked. -/
structure Env where
  system : Except Text Unit
  /-- The objects known before a scan. -/
  known : Except Text (List Object)
  startProxy : Except Text Unit
  startDiscovery : Bool
  /-- The objects at each look while the scan lasts. -/
  looks : List (Except Text (List Object))
  stopProxy : Except Text Unit
  stopDiscovery : Bool
  manufacturerData : Option (List (UInt16 × Option (List UInt8)))
  setTrusted : Except Text Unit
  connect : Except Text Unit
  /-- Whether services are resolved, each time that is read within the limit. -/
  servicesResolved : List (Except Text Bool)
  objects : Except Text (List Object)
  matchRule : Except Text Unit
  startNotify : Except Text Unit
  thread : Except Text Unit

/-- A connected device. -/
structure Connected where
  device : Path
  cmd : Path
  name : Text
  address : Text
  modelHint : Option Text
  chars : List (Uuid × Path)

/-- A failure of the backend. -/
def backend {α : Type} : Except Text α → DbusM α
  | .ok a => pure a
  | .error e => throw (.backend e)

def look (address : Option Text) (objects : Except Text (List Object)) : DbusM (Option Hit) := do
  log .getManagedObjects
  return (← backend objects).findSome? (hit address)

/-- Look until the device is there or the scan has lasted long enough. -/
def lookOn (address : Option Text) : List (Except Text (List Object)) → DbusM (Option Hit)
  | [] => return none
  | objects :: looks => do
    match ← look address objects with
    | some hit => return some hit
    | none => lookOn address looks

/-- Ask the adapter for a scan, or for its end. The answer is dropped. -/
def scan (proxy : Except Text Unit) (call : Call) : DbusM PUnit := do
  backend proxy
  log call

def find (env : Env) (address : Option Text) : DbusM Hit := do
  match ← look address env.known with
  | some hit => return hit
  | none =>
    scan env.startProxy (.startDiscovery env.startDiscovery)
    -- a look that fails leaves the scan on
    let hit ← lookOn address env.looks
    scan env.stopProxy (.stopDiscovery env.stopDiscovery)
    match hit with
    | some hit => return hit
    | none => throw .notFound

/-- The advertised manufacturer payload, decoded as text. -/
def manufacturerPayload (data : Option (List (UInt16 × Option (List UInt8)))) : Option Text :=
  (data.bind List.head?).bind fun entry => entry.2.bind fun bytes =>
    (String.fromUTF8? ⟨bytes.toArray⟩).bind fun s => if s.isEmpty then none else some s.toList

/-- `Connect` gives no reply, so the services are watched instead. -/
def awaitResolved (device : Path) : List (Except Text Bool) → DbusM Unit
  | [] => throw (.backend "services never resolved".toList)
  | resolved :: rest => do
    log (.getServicesResolved device)
    if ← backend resolved then return () else awaitResolved device rest

def required (chars : List (Uuid × Path)) (u : Uuid) (missing : String) : DbusM Path :=
  match lookup chars u with
  | some path => pure path
  | none => throw (.backend missing.toList)

/-- Scan for a device and connect to it. -/
def connect (env : Env) (address : Option Text) : DbusM Connected := do
  backend env.system
  let found ← find env address
  log (.getManufacturerData found.path)
  log (.setTrusted found.path)
  backend env.setTrusted
  log (.connect found.path)
  backend env.connect
  awaitResolved found.path env.servicesResolved
  log .getManagedObjects
  let chars := characteristics found.path (← backend env.objects)
  let cmd ← required chars uuid.cmd "CMD characteristic missing"
  let evt ← required chars uuid.evt "EVT characteristic missing"
  log (.matchRule evt)
  backend env.matchRule
  log (.startNotify evt)
  backend env.startNotify
  backend env.thread
  return {
    device := found.path
    cmd := cmd
    name := found.name
    address := found.address
    modelHint := manufacturerPayload env.manufacturerData
    chars := chars }

/-! ## The order of calls -/

/-- What a monitor of the bus remembers. -/
structure Bus where
  /-- A scan has been asked for, and its end not yet. -/
  scanning : Bool
  /-- The scan is on. -/
  discovering : Bool
  /-- BlueZ has refused to end the scan. -/
  refused : Bool
  trusted : List Path
  connecting : Option Path
  matched : List Path
  notifying : List Path
deriving DecidableEq

namespace Bus

def init : Bus := ⟨false, false, false, [], none, [], []⟩

def watch (b : Bus) : Call → Bus
  | .startDiscovery granted =>
    { b with scanning := true, discovering := b.discovering || granted }
  | .stopDiscovery granted =>
    { b with scanning := false, discovering := b.discovering && !granted, refused := !granted }
  | .setTrusted device => { b with trusted := b.trusted ++ [device] }
  | .connect device => { b with connecting := some device }
  | .matchRule path => { b with matched := b.matched ++ [path] }
  | .startNotify path => { b with notifying := b.notifying ++ [path] }
  | .getManagedObjects | .getManufacturerData _ | .getServicesResolved _ => b

/-- The end of every scan has been asked for, and none is on unless BlueZ has refused to end
it. -/
def Quiet (b : Bus) : Prop :=
  b.scanning = false ∧ (b.discovering = true → b.refused = true)

/-- What BlueZ needs of a call. -/
def Permits (b : Bus) : Call → Prop
  | .startDiscovery _ => b.scanning = false ∧ b.connecting = none
  | .stopDiscovery _ => b.scanning = true
  | .connect device => b.Quiet ∧ device ∈ b.trusted ∧ b.connecting = none
  | .getServicesResolved device => b.connecting = some device
  | .startNotify path => path ∈ b.matched ∧ b.connecting.isSome
  | .getManagedObjects | .getManufacturerData _ | .setTrusted _ | .matchRule _ => True

def machine : Reactive.Machine Bus Call Unit where
  step b c := (b.watch c, ())

/-- The bus at a stage of connecting, with what has been trusted and so on by then. -/
structure Stage (env : Env) (trusted : List Path) (connecting : Option Path)
    (matched notifying : List Path) (b : Bus) : Prop where
  quiet : b.Quiet
  refused : b.refused = true → env.stopDiscovery = false
  trusted : b.trusted = trusted
  connecting : b.connecting = connecting
  matched : b.matched = matched
  notifying : b.notifying = notifying

end Bus

/-- A triple over the monitored bus. -/
abbrev Keeps {α : Type} (P : Bus → Prop) (m : DbusM α) (Q : α → Bus → Prop) : Prop :=
  Stateful.Conforms Bus.machine Bus.Permits P m Q

/-- What the backend gives is what the environment says, and no call is made for it. -/
theorem backend_keeps {α : Type} (P : Bus → Prop) (r : Except Text α) :
    Keeps P (backend r) fun a b => P b ∧ r = .ok a := by
  cases r with
  | ok a => exact .pure fun b hb => ⟨hb, rfl⟩
  | error e => exact .throw _

theorem look_keeps (P : Bus → Prop) (address : Option Text)
    (objects : Except Text (List Object)) :
    Keeps P (look address objects) fun found b =>
      P b ∧ ∃ os, objects = .ok os ∧ found = os.findSome? (hit address) := by
  unfold look
  refine .bind (.log (Q := fun _ => P) fun b hb => ⟨trivial, hb⟩) fun _ => ?_
  refine .bind (backend_keeps P objects) fun os => .pure ?_
  rintro b ⟨hb, hos⟩
  exact ⟨hb, os, hos, rfl⟩

/-- A hit is the first of the objects of some look. -/
def FoundIn (env : Env) (address : Option Text) (h : Hit) : Prop :=
  ∃ os, (env.known = .ok os ∨ .ok os ∈ env.looks) ∧ os.findSome? (hit address) = some h

theorem lookOn_keeps (P : Bus → Prop) (address : Option Text)
    (looks : List (Except Text (List Object))) :
    Keeps P (lookOn address looks) fun found b =>
      P b ∧ ∀ h, found = some h → ∃ os, .ok os ∈ looks ∧ os.findSome? (hit address) = some h := by
  induction looks with
  | nil => exact .pure fun b hb => ⟨hb, nofun⟩
  | cons objects looks ih =>
    unfold lookOn
    refine .bind (look_keeps P address objects) fun found => ?_
    cases found with
    | some h =>
      refine .pure ?_
      rintro b ⟨hb, os, rfl, hfound⟩
      refine ⟨hb, ?_⟩
      rintro h' hh'
      obtain rfl := Option.some.inj hh'
      exact ⟨os, List.mem_cons_self .., hfound.symm⟩
    | none =>
      refine ih.mono (fun b h => h.1) ?_
      rintro found b ⟨hb, hfound⟩
      refine ⟨hb, fun h hh => ?_⟩
      rcases hfound h hh with ⟨os, hos, hhit⟩
      exact ⟨os, List.mem_cons_of_mem _ hos, hhit⟩

theorem scan_keeps {P Q : Bus → Prop} (proxy : Except Text Unit) {call : Call}
    (h : ∀ b, P b → b.Permits call ∧ Q (b.watch call)) :
    Keeps P (scan proxy call) fun _ => Q :=
  .bind (backend_keeps P proxy) fun _ => .log fun b hb => h b hb.1

/-- A device is found with no scan left on, unless BlueZ has refused to end it. -/
theorem find_keeps (env : Env) (address : Option Text) :
    Keeps (· = Bus.init) (find env address) fun h b =>
      b.Stage env [] none [] [] ∧ FoundIn env address h := by
  unfold find
  refine .bind (look_keeps _ address env.known) fun found => ?_
  cases found with
  | some h =>
    refine .pure ?_
    rintro b ⟨rfl, os, hos, hfound⟩
    refine ⟨⟨⟨rfl, nofun⟩, nofun, rfl, rfl, rfl, rfl⟩, os, .inl hos, hfound.symm⟩
  | none =>
    -- the scan is asked for from here to the end of the looks
    let scanning : Bus :=
      { Bus.init with scanning := true, discovering := env.startDiscovery }
    refine .bind (scan_keeps (Q := (· = scanning)) env.startProxy ?_) fun _ => ?_
    · rintro b ⟨rfl, -⟩
      exact ⟨⟨rfl, rfl⟩, rfl⟩
    refine .bind (lookOn_keeps (· = scanning) address env.looks) fun found =>
      .assume fun hfound => ?_
    refine .bind (scan_keeps (Q := fun b => b.Stage env [] none [] []) env.stopProxy ?_)
      fun _ => ?_
    · rintro b rfl
      refine ⟨rfl, ⟨rfl, ?_⟩, ?_, rfl, rfl, rfl, rfl⟩
      · intro hon
        exact (Bool.and_eq_true_iff.1 hon).2
      · intro hrefused
        exact Bool.not_eq_eq_eq_not.1 hrefused
    cases found with
    | some h =>
      refine .pure fun b hb => ⟨hb, ?_⟩
      rcases hfound h rfl with ⟨os, hos, hhit⟩
      exact ⟨os, .inr hos, hhit⟩
    | none => exact .throw _

theorem awaitResolved_keeps {device : Path} {P : Bus → Prop}
    (hP : ∀ b, P b → b.connecting = some device) (resolved : List (Except Text Bool)) :
    Keeps P (awaitResolved device resolved) fun _ => P := by
  induction resolved with
  | nil => exact .throw _
  | cons r rest ih =>
    unfold awaitResolved
    refine .bind (.log (Q := fun _ => P) fun b hb => ⟨hP b hb, hb⟩) fun _ => ?_
    refine .bind (backend_keeps P r) fun resolved => ?_
    cases resolved with
    | true => exact .pure fun b hb => hb.1
    | false => exact ih.mono (fun b hb => hb.1) fun _ _ h => h

theorem required_keeps (P : Bus → Prop) (chars : List (Uuid × Path)) (u : Uuid)
    (missing : String) :
    Keeps P (required chars u missing) fun path b => P b ∧ lookup chars u = some path := by
  unfold required
  cases lookup chars u with
  | some path => exact .pure fun b hb => ⟨hb, rfl⟩
  | none => exact .throw _

/-- The bus once a device is connected. -/
structure Ready (env : Env) (address : Option Text) (t : Connected) (b : Bus) : Prop where
  found : FoundIn env address ⟨t.device, t.name, t.address⟩
  cmd : lookup t.chars uuid.cmd = some t.cmd
  bus : ∃ evt, lookup t.chars uuid.evt = some evt ∧
    b.Stage env [t.device] (some t.device) [evt] [evt]

theorem connect_keeps (env : Env) (address : Option Text) :
    Keeps (· = Bus.init) (connect env address) (Ready env address) := by
  unfold connect
  refine .bind (backend_keeps _ env.system) fun _ => .assume fun _ => ?_
  refine .bind (find_keeps env address) fun found => .assume fun hfound => ?_
  refine .bind (.log (Q := fun _ b => b.Stage env [] none [] []) fun b hb => ⟨trivial, hb⟩)
    fun _ => ?_
  -- the device is trusted before it is connected
  refine .bind (.log (Q := fun _ b => b.Stage env [found.path] none [] []) ?_) fun _ => ?_
  · intro b hb
    refine ⟨trivial, hb.quiet, hb.refused, ?_, hb.connecting, hb.matched, hb.notifying⟩
    exact congrArg (· ++ [found.path]) hb.trusted
  refine .bind (backend_keeps _ env.setTrusted) fun _ => .assume fun _ => ?_
  refine .bind (.log (Q := fun _ b => b.Stage env [found.path] (some found.path) [] []) ?_)
    fun _ => ?_
  · intro b hb
    refine ⟨⟨hb.quiet, ?_, hb.connecting⟩, hb.quiet, hb.refused, hb.trusted, rfl, hb.matched,
      hb.notifying⟩
    rw [hb.trusted]
    exact List.mem_singleton_self _
  refine .bind (backend_keeps _ env.connect) fun _ => .assume fun _ => ?_
  refine .bind (awaitResolved_keeps (fun b hb => hb.connecting) env.servicesResolved) fun _ => ?_
  refine .bind (.log (Q := fun _ b => b.Stage env [found.path] (some found.path) [] [])
    fun b hb => ⟨trivial, hb⟩) fun _ => ?_
  refine .bind (backend_keeps _ env.objects) fun objects => .assume fun _ => ?_
  refine .bind (required_keeps _ _ uuid.cmd _) fun cmd => .assume fun hcmd => ?_
  refine .bind (required_keeps _ _ uuid.evt _) fun evt => .assume fun hevt => ?_
  -- the signals are subscribed to before notifications are enabled
  refine .bind (.log (Q := fun _ b => b.Stage env [found.path] (some found.path) [evt] []) ?_)
    fun _ => ?_
  · intro b hb
    refine ⟨trivial, hb.quiet, hb.refused, hb.trusted, hb.connecting, ?_, hb.notifying⟩
    exact congrArg (· ++ [evt]) hb.matched
  refine .bind (backend_keeps _ env.matchRule) fun _ => .assume fun _ => ?_
  refine .bind (.log (Q := fun _ b => b.Stage env [found.path] (some found.path) [evt] [evt]) ?_)
    fun _ => ?_
  · intro b hb
    refine ⟨⟨?_, ?_⟩, hb.quiet, hb.refused, hb.trusted, hb.connecting, hb.matched, ?_⟩
    · rw [hb.matched]
      exact List.mem_singleton_self _
    · rw [hb.connecting]
      rfl
    · exact congrArg (· ++ [evt]) hb.notifying
  refine .bind (backend_keeps _ env.startNotify) fun _ => .assume fun _ => ?_
  refine .bind (backend_keeps _ env.thread) fun _ => .assume fun _ => .pure ?_
  intro b hb
  exact ⟨hfound, hcmd, evt, hevt, hb⟩

/-- Of a name with the prefix only whitespace at its end is trimmed off. -/
theorem trim_name {n : Text} (h : namePrefix <+: n) :
    Text.trim n = n.rdropWhile Text.isWhitespace := by
  unfold Text.trim Slices.trim
  rcases h with ⟨rest, rfl⟩
  have hfirst : (namePrefix ++ rest).dropWhile Text.isWhitespace = namePrefix ++ rest :=
    List.dropWhile_cons_of_neg (by decide)
  rw [hfirst]

theorem trim_name_ne_nil {n : Text} (h : namePrefix <+: n) : Text.trim n ≠ [] := by
  rw [trim_name h]
  intro hnil
  have hmem : 'S' ∈ n := h.subset (by decide)
  have hblank := List.rdropWhile_eq_nil_iff.1 hnil 'S' hmem
  cases hblank

/-- A name with the prefix does not end in whitespace exactly when trimming leaves it. -/
theorem trim_name_eq_self_iff {n : Text} (h : namePrefix <+: n) :
    Text.trim n = n ↔ ∀ c, n.getLast? = some c → Text.isWhitespace c = false := by
  rw [trim_name h, List.rdropWhile_eq_self_iff]
  constructor
  · intro hlast c hc
    have hne : n ≠ [] := by
      rintro rfl
      cases hc
    rw [List.getLast?_eq_some_getLast hne] at hc
    obtain rfl := Option.some.inj hc
    simpa using hlast hne
  · intro hlast hne
    simp [hlast _ (List.getLast?_eq_some_getLast hne)]

/-- When a reported name with the prefix is a pin for its device. -/
theorem pins_iff {n addr : Text} (h : namePrefix <+: n) :
    Ble.matchesPin n addr n = true ↔
      Text.Recased addr (Text.trim n) ∨
        (advertisedPart n = n ∧ ∀ c, n.getLast? = some c → Text.isWhitespace c = false) := by
  rw [Ble.matchesPin_iff, and_iff_right (trim_name_ne_nil h), ← trim_name_eq_self_iff h]
  apply or_congr_right
  constructor
  · rintro ⟨m, hm, hrecased⟩
    rcases advertisedName_eq_some_iff.1 hm with ⟨hpart, -⟩
    have hlength : m.length = (Text.trim n).length := List.Forall₂.length_eq hrecased
    rcases advertisedPart_cases n with ⟨g, hcached, -⟩ | hsame
    · -- behind a cached name the advertised one is shorter than the whole
      rw [hpart] at hcached
      have hend : ∀ c, n.getLast? = some c → Text.isWhitespace c = false := by
        intro c hc
        rw [hcached, cachedName, List.getLast?_concat] at hc
        obtain rfl : ']' = c := Option.some.inj hc
        rfl
      rw [(trim_name_eq_self_iff h).2 hend] at hlength
      have hlonger := congrArg List.length hcached
      simp only [cachedName, List.length_append, List.length_singleton] at hlonger
      omega
    · refine ⟨hsame, ?_⟩
      obtain rfl : n = m := hsame.symm.trans hpart
      rw [trim_name h] at hlength ⊢
      exact (List.rdropWhile_prefix _ _).eq_of_length hlength.symm
  · rintro ⟨hpart, hlast⟩
    refine ⟨n, advertisedName_eq_some_iff.2 ⟨hpart, h⟩, ?_⟩
    rw [hlast]
    exact Text.eqIgnoreAsciiCase_iff.1 (beq_self_eq_true _)

/-- For a device found without a pin: its address is a pin for it under every name, when it
is not empty and has no whitespace at its ends; and its name, as long as it is reported
under that, is a pin exactly when it is no cached name with an advertised one behind it and
does not end in whitespace, or when it happens to be the address. -/
theorem name_pins_iff (env : Env) (t : Connected)
    (h : ((connect env none).exec []).2 = .ok t) :
    (t.address ≠ [] → Text.trim t.address = t.address →
      ∀ reported, Ble.matchesPin t.address t.address reported = true) ∧
    (Ble.matchesPin t.name t.address t.name = true ↔
      Text.Recased t.address (Text.trim t.name) ∨ (advertisedPart t.name = t.name ∧
        ∀ c, t.name.getLast? = some c → Text.isWhitespace c = false)) := by
  have hprefix : namePrefix <+: t.name := by
    rcases connect_keeps env none [] .init rfl with ⟨calls, -, -, hok⟩
    rcases (hok t h).found with ⟨os, -, hfound⟩
    rcases List.exists_of_findSome?_eq_some hfound with ⟨o, -, ho⟩
    rcases Option.bind_eq_some_iff.1 ho with ⟨dev, -, hdev⟩
    by_cases hname : namePrefix <+: dev.name
    · simp only [hname, decide_true, if_true] at hdev
      have hsame : dev.name = t.name := congrArg Hit.name (Option.some.inj hdev)
      rwa [← hsame]
    · simp [hname] at hdev
  refine ⟨?_, pins_iff hprefix⟩
  intro hne htrim reported
  rw [Ble.matchesPin_iff, htrim]
  exact ⟨hne, .inl (Text.eqIgnoreAsciiCase_iff.1 (beq_self_eq_true _))⟩

/-- A device whose alias ends in a bracket is found without a pin, and its name is none. -/
theorem name_pins_iff_bracket :
    Ble.matchesPin "SquareGolf [2]".toList "02:00:00:AB:CD:01".toList "SquareGolf [2]".toList =
      false := by
  let characteristic (path uuid : String) : Object :=
    ⟨path.toList, none, some (some (.string uuid.toList))⟩
  let objects : List Object := [
    ⟨"/dev".toList, some ⟨some (.string "SquareGolf [2]".toList), none,
      some (.string "02:00:00:AB:CD:01".toList)⟩, none⟩,
    characteristic "/dev/1" "86602101-6b7e-439a-bdd1-489a3213e9bb",
    characteristic "/dev/2" "86602102-6b7e-439a-bdd1-489a3213e9bb"]
  let env : Env :=
    { system := .ok (), known := .ok objects, startProxy := .ok (), startDiscovery := true,
      looks := [], stopProxy := .ok (), stopDiscovery := true, manufacturerData := none,
      setTrusted := .ok (), connect := .ok (), servicesResolved := [.ok false, .ok true],
      objects := .ok objects, matchRule := .ok (), startNotify := .ok (), thread := .ok () }
  let t : Connected :=
    { device := "/dev".toList, cmd := "/dev/1".toList, name := "SquareGolf [2]".toList,
      address := "02:00:00:AB:CD:01".toList, modelHint := none,
      chars := [(uuid.cmd, "/dev/1".toList), (uuid.evt, "/dev/2".toList)] }
  have hconnected : ((connect env none).exec []).2 = .ok t := rfl
  have hpins := (name_pins_iff env t hconnected).2
  rw [Bool.eq_false_iff]
  intro hmatches
  rcases hpins.1 hmatches with haddress | ⟨hpart, -⟩
  · exact absurd (Text.eqIgnoreAsciiCase_iff.2 haddress) (by decide)
  · exact absurd hpart (by decide)

end Bluez

end AllSquare
