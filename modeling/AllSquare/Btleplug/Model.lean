import AllSquare.Reactive

/-! # Bluetooth sessions of the btleplug backend

One btleplug adapter is one session with the operating system. An `Attempt` is a
call of `connect`, stopped where other calls can come in between: it owns the
adapter of its stage, and `connect` takes it to the next one. What the Bluetooth
operations give is in the step's `AttemptEnv`.
-/

namespace AllSquare

namespace Btleplug

/-- An adapter, numbered in the order of opening. -/
abbrev Adapter := ℕ

/-- What all attempts share, and what has happened to each adapter. -/
structure Backend where
  /-- `SCANNER`: the adapter kept for the next scan. -/
  scanner : Option Adapter := none
  /-- The adapters of the live transports. -/
  transports : List Adapter := []
  /-- The number of sessions opened. -/
  opened : ℕ := 0
  /-- One entry for each attempt whose link was established. -/
  held : List Adapter := []
  /-- One entry for each attempt that found Bluetooth off. -/
  off : List Adapter := []

/-- Return an adapter to the slot, unless another attempt has. -/
def Backend.park (b : Backend) (a : Adapter) : Backend :=
  if b.scanner.isNone then { b with scanner := some a } else b

inductive CentralState where
  | unknown
  | poweredOn
  | poweredOff
deriving DecidableEq, Repr

/-- What the operations of an attempt give. -/
structure AttemptEnv where
  /-- A session could be opened. -/
  adapter : Bool := true
  /-- The power state, `none` when it could not be read. -/
  adapterState : Option CentralState := some .poweredOn
  /-- The grace period of an unknown state has passed. -/
  late : Bool := false
  startScan : Bool := true
  /-- The scan found the device in time. -/
  found : Bool := true
  events : Bool := true
  connect : Bool := true
  subscribe : Bool := true

/-- Why a scan ended without a device. -/
structure ScanFailure where
  /-- The adapter may scan again. -/
  reusable : Bool

/-- The scan failure of any other error. -/
def ScanFailure.ofError : ScanFailure := ⟨true⟩

/-- One turn of the wait for Bluetooth power; `none` goes on waiting. -/
def waitPowered (env : AttemptEnv) : Option (Except ScanFailure Unit) :=
  match env.adapterState with
  | none => some (.error .ofError)
  | some .poweredOn => some (.ok ())
  | some .poweredOff => some (.error ⟨false⟩)
  | some .unknown => if env.late then some (.ok ()) else none

/-- The scan behind the wait. -/
def scan (env : AttemptEnv) : Except ScanFailure Unit :=
  if env.startScan && env.found then .ok () else .error .ofError

/-- Where a call of `connect` stands. -/
inductive Attempt where
  | called
  /-- The slot was empty. -/
  | opening
  | waiting (a : Adapter)
  | scanning (a : Adapter)
  | connecting (a : Adapter)
  | subscribing (a : Adapter)
  /-- About to return an error, with an adapter that may scan again. -/
  | parking (a : Adapter)
deriving DecidableEq, Repr

/-- A scan without a device: only a reusable adapter goes back. -/
def scanFailed (a : Adapter) (e : ScanFailure) : Option Attempt :=
  if e.reusable then some (.parking a) else none

/-- Record that the power was read as off. -/
def Backend.note (b : Backend) (a : Adapter) (state : Option CentralState) : Backend :=
  if state = some .poweredOff then { b with off := b.off ++ [a] } else b

/-- One step of `connect`. The attempt is over when it gives no stage. -/
def connect (b : Backend) (env : AttemptEnv) : Attempt → Backend × Option Attempt
  | .called =>
    -- the lock on the slot covers the take alone
    match b.scanner with
    | some a => ({ b with scanner := none }, some (.waiting a))
    | none => (b, some .opening)
  | .opening =>
    if env.adapter then ({ b with opened := b.opened + 1 }, some (.waiting b.opened))
    else (b, none)
  | .waiting a =>
    let b := b.note a env.adapterState
    match waitPowered env with
    | none => (b, some (.waiting a))
    | some (.ok ()) => (b, some (.scanning a))
    | some (.error e) => (b, scanFailed a e)
  | .scanning a =>
    match scan env with
    | .ok () => (b, some (.connecting a))
    | .error e => (b, scanFailed a e)
  | .connecting a =>
    -- a connect that fails is cancelled and has not held the link
    if env.events && env.connect then ({ b with held := b.held ++ [a] }, some (.subscribing a))
    else (b, some (.parking a))
  | .subscribing a =>
    -- on success the transport owns the adapter, on failure it is dropped
    if env.subscribe then ({ b with transports := b.transports ++ [a] }, none) else (b, none)
  | .parking a => (b.park a, none)

/-! ## Any number of attempts -/

structure System where
  backend : Backend := {}
  attempts : List Attempt := []

inductive Move where
  /-- `connect` is called. -/
  | call
  /-- The `i`-th running attempt takes its step. -/
  | go (i : ℕ) (env : AttemptEnv)
  /-- The `i`-th live transport is dropped. -/
  | drop (i : ℕ)

def System.step (s : System) : Move → System
  | .call => { s with attempts := s.attempts ++ [.called] }
  | .go i env =>
    match s.attempts[i]? with
    | none => s
    | some x =>
      let (b, next) := connect s.backend env x
      ⟨b, s.attempts.take i ++ next.toList ++ s.attempts.drop (i + 1)⟩
  | .drop i =>
    { s with backend := { s.backend with transports := s.backend.transports.eraseIdx i } }

/-- The attempts of a process, in any interleaving. -/
def machine : Reactive.Machine System Move Unit where
  step s m := (s.step m, ())

end Btleplug

end AllSquare
