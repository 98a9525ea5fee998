import AllSquare.Ble.Reading

/-! # The btleplug transport

A transport has two parties. The pump, a task of the runtime, takes notifications and
link events from the Bluetooth stack and passes notifications on over a channel; the
owner reads that channel, writes to the stack and in the end disconnects. They share
the flags of the `Link` and the channel, and nothing else.

The pump stores the two flags and drops its sender one after the other, so these are
steps of their own, and `abort` only asks: until the runtime drops the pump it may take
another item. A call of the owner reads the flags once, and is one step; only a write is
two, its checks and the frame's way to the stack, because the pump may store in between that
the link is down. The owner makes one call at a time.
-/

namespace AllSquare

namespace Btleplug

open Mpsc

abbrev PeripheralId := ℕ

/-! ## The pump -/

/-- Link state shared with the notification pump. -/
structure Link where
  /-- The link is gone; reads and writes are pointless. -/
  down : Bool
  /-- The Bluetooth stack reported the device disconnected. -/
  released : Bool
deriving DecidableEq

/-- What the notification pump sees. -/
inductive Pumped where
  | data (value : List UInt8)
  | closed (released : Bool)
deriving DecidableEq

/-- An item of the device's notification stream or of the adapter's event stream. The
end of the latter is no item: the pump goes on without it. -/
inductive StreamItem where
  | notification (u : Uuid) (value : List UInt8)
  | notificationsEnd
  | deviceDisconnected (device : PeripheralId)
  | otherEvent
deriving DecidableEq

/-- The two streams, merged and filtered for a device. -/
def pumped (id : PeripheralId) : StreamItem → Option Pumped
  | .notification u value => if u = uuid.evt then some (.data value) else none
  | .notificationsEnd => some (.closed false)
  | .deviceDisconnected device => if device = id then some (.closed true) else none
  | .otherEvent => none

/-- Where the pump stands. -/
inductive Pump where
  | running
  /-- `released` has been stored. -/
  | released
  /-- `down` has been stored. -/
  | returning
  /-- The sender has been dropped. -/
  | ended
deriving DecidableEq

/-- A connected device. `handed` and `disconnects` record what the owner has asked of
the stack. -/
structure Transport where
  id : PeripheralId
  notifications : Ble.Notifications
  link : Link
  pump : Pump
  /-- The pump has been asked to stop. -/
  aborted : Bool
  /-- `disconnect` has been called. -/
  closed : Bool
  dropped : Bool
  /-- The frame of a write whose checks are through, on its way to the stack. -/
  writing : Option (List UInt8)
  /-- The frames handed to the stack. -/
  handed : List (List UInt8)
  /-- How often the stack was asked to disconnect the device. -/
  disconnects : ℕ

/-- What the stack answers to an operation with a time limit. -/
inductive StackResult (α : Type) where
  | done (a : α)
  | failed
  | timedOut

/-- What the stack has to say during a call. -/
structure Stack where
  characteristics : List Uuid
  write : StackResult Unit
  read : StackResult (List UInt8)
  isConnected : StackResult Bool
  disconnect : StackResult Unit

namespace Transport

/-- A transport whose device has just been subscribed to. -/
def opened (id : PeripheralId) : Transport where
  id := id
  notifications := .new
  link := ⟨false, false⟩
  pump := .running
  aborted := false
  closed := false
  dropped := false
  writing := none
  handed := []
  disconnects := 0

/-- The pump is gone, and its sender with it. -/
def endPump (t : Transport) : Transport :=
  { t with pump := .ended, notifications := t.notifications.dropSender }

/-- A running pump takes its next item. -/
def take (t : Transport) : Pumped → Transport
  | .data value =>
    if t.notifications.receiver then
      { t with notifications := t.notifications.send value }
    -- the transport has been dropped
    else t.endPump
  | .closed released => { t with link := { t.link with released }, pump := .released }

/-- An item reaches the pump. -/
def arrive (t : Transport) (item : StreamItem) : Transport :=
  match pumped t.id item with
  | some p => if t.pump = .running then t.take p else t
  | none => t

/-- The pump takes a step of its own, once it has seen the end. -/
def settle (t : Transport) : Transport :=
  match t.pump with
  | .released => { t with link := { t.link with down := true }, pump := .returning }
  | .returning => t.endPump
  | .running | .ended => t

/-- The runtime drops a pump that has been asked to stop. -/
def cancel (t : Transport) : Transport :=
  if t.aborted ∧ t.pump = .running then t.endPump else t

/-! ## The owner's calls -/

/-- A closed transport, or one whose link is down, does nothing more. -/
def Down (t : Transport) : Prop := t.closed = true ∨ t.link.down = true

instance (t : Transport) : Decidable t.Down := inferInstanceAs (Decidable (_ ∨ _))

def ensureUp (t : Transport) : IoResult Unit :=
  if t.Down then .error .notConnected else .ok ()

def characteristic (stack : Stack) (u : Uuid) : IoResult Uuid :=
  (stack.characteristics.find? (· == u)).elim (.error .notFound) .ok

/-- Run an operation of the stack, as an I/O result. -/
def ioOp {α : Type} : StackResult α → IoResult α
  | .done a => .ok a
  | .failed => .error .other
  | .timedOut => .error .timedOut

/-- Read one notification into a buffer of `len` bytes. -/
def read (t : Transport) (len : ℕ) : Transport × IoResult (List UInt8) :=
  ({ t with notifications := t.notifications.tryRecv.1 },
    Ble.readFrom len t.notifications.tryRecv.2)

/-- The checks of a write. -/
def checkWrite (t : Transport) (stack : Stack) : IoResult Unit := do
  t.ensureUp
  let _ ← characteristic stack uuid.cmd

/-- A write gets as far as its checks let it. -/
def write (t : Transport) (stack : Stack) (data : List UInt8) : Transport :=
  match t.checkWrite stack with
  | .ok () => { t with writing := some data }
  | .error _ => t

/-- The frame of a write is handed to the stack. -/
def handOver (t : Transport) : Transport :=
  { t with writing := none, handed := t.handed ++ t.writing.toList }

def readCharacteristic (t : Transport) (stack : Stack) (u : Uuid) : IoResult (List UInt8) := do
  t.ensureUp
  let _ ← characteristic stack u
  ioOp stack.read

/-- Whether the link is still up. -/
def isConnected (t : Transport) (stack : Stack) : Bool :=
  if t.Down then false
  else
    match stack.isConnected with
    | .done connected => connected
    | .failed | .timedOut => false

/-- Ask the stack to disconnect the device, unless it is known to be disconnected. -/
def release (t : Transport) : Transport :=
  if t.link.released then t else { t with disconnects := t.disconnects + 1 }

/-- Disconnect; the transport is closed whatever the stack answers. -/
def disconnect (t : Transport) (stack : Stack) : Transport × StackResult Unit :=
  if t.closed then (t, .done ())
  else
    ({ t.release with closed := true, link := { t.link with down := true }, aborted := true },
      if t.link.released then .done () else stack.disconnect)

/-- Dropping a transport disconnects the device, unless that has been done. -/
def drop (t : Transport) : Transport :=
  let t := if t.closed then t else t.release
  { t with aborted := true, dropped := true, notifications := t.notifications.dropReceiver }

end Transport

/-! ## The two parties together -/

/-- A step of the pump, or a call of the owner. -/
inductive TransportOp where
  | arrive (item : StreamItem)
  | settle
  | cancel
  | read
  /-- A write is begun. -/
  | write (stack : Stack) (data : List UInt8)
  /-- The write goes on to the stack. -/
  | handOver (stack : Stack)
  | readCharacteristic (stack : Stack) (u : Uuid)
  | isConnected (stack : Stack)
  | disconnect (stack : Stack)
  | drop

/-- What a call returns. -/
inductive TransportReply where
  | none
  | read (r : IoResult (List UInt8))
  /-- The write has failed its checks. -/
  | refused (e : IoError)
  /-- The write has reached the stack. -/
  | written (r : IoResult Unit)
  | characteristic (r : IoResult (List UInt8))
  | connected (b : Bool)
  | disconnected (r : StackResult Unit)

namespace Transport

/-- What a write that has been begun returns, if it goes no further. -/
def writeReply (t : Transport) (stack : Stack) : TransportReply :=
  match t.checkWrite stack with
  | .ok () => .none
  | .error e => .refused e

/-- A call of the owner, who reads into a buffer of `len` bytes. -/
def call (len : ℕ) (t : Transport) : TransportOp → Transport × TransportReply
  | .read => ((t.read len).1, .read (t.read len).2)
  | .write stack data => (t.write stack data, t.writeReply stack)
  | .readCharacteristic stack u => (t, .characteristic (t.readCharacteristic stack u))
  | .isConnected stack => (t, .connected (t.isConnected stack))
  | .disconnect stack => ((t.disconnect stack).1, .disconnected (t.disconnect stack).2)
  | .drop => (t.drop, .none)
  | _ => (t, .none)

/-- The transport is there, and no write is going on. -/
def Callable (t : Transport) : Prop := t.dropped = false ∧ t.writing = none

instance (t : Transport) : Decidable t.Callable := inferInstanceAs (Decidable (_ ∧ _))

/-- One step. A transport that has been dropped is not called, and until a write is through
nothing else is. -/
def step (len : ℕ) (t : Transport) : TransportOp → Transport × TransportReply
  | .arrive item => (t.arrive item, .none)
  | .settle => (t.settle, .none)
  | .cancel => (t.cancel, .none)
  | .handOver stack =>
    if t.writing.isSome then (t.handOver, .written (ioOp stack.write)) else (t, .none)
  | op => if t.Callable then t.call len op else (t, .none)

/-- The transport under any interleaving of its pump and its owner. -/
def machine (len : ℕ) : Reactive.Machine Transport TransportOp TransportReply where
  step := step len

end Transport

end Btleplug

end AllSquare
