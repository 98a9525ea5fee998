import AllSquare.Ble.Reading
import AllSquare.Bluez.Connect

/-! # The BlueZ transport

A thread iterates over the `PropertiesChanged` signals of the device's events and forwards
the values over a channel; the owner reads the channel, writes commands and reads
characteristics over the bus. The thread owns the sending end of the channel, which goes
when it ends, and the transport the receiving end. A thread whose transport has been
dropped finds that out only when it next has something to forward.
-/

namespace AllSquare

namespace Bluez

open Mpsc

/-- A message of the signal iterator. -/
inductive Signal where
  /-- It could not be received. -/
  | broken
  /-- Its body is not that of a `PropertiesChanged` signal. -/
  | undecodable
  /-- The changed properties; `value` is what stands under `Value`, if it is bytes. -/
  | changed (value : Option (Option (List UInt8)))

/-- What the thread forwards of a signal. -/
def Signal.payload : Signal → Option (List UInt8)
  | .changed value => value.join
  | .broken | .undecodable => none

structure Transport where
  notifications : Ble.Notifications
  cmd : Path
  chars : List (Uuid × Path)
  /-- The frames handed to the bus. -/
  handed : List (List UInt8)

/-- What the bus says to a call: the proxy for it, and its reply. -/
structure BusCall (α : Type) where
  proxy : Bool
  reply : Except Unit α

namespace Transport

/-- The transport of a device that has just been connected. -/
def opened (t : Connected) : Transport := ⟨.new, t.cmd, t.chars, []⟩

/-- A signal reaches the thread, if it has not ended. -/
def arrive (t : Transport) (s : Signal) : Transport :=
  if t.notifications.sender then
    match s.payload with
    | none => t
    | some v =>
      if t.notifications.receiver then { t with notifications := t.notifications.send v }
      -- the transport has been dropped
      else { t with notifications := t.notifications.dropSender }
  else t

/-- A call over the bus, as an I/O result. -/
def ioCall {α : Type} (c : BusCall α) : IoResult α :=
  if c.proxy then
    match c.reply with
    | .ok a => .ok a
    | .error _ => .error .other
  else .error .other

/-- Read one notification into a buffer of `len` bytes. -/
def read (t : Transport) (len : ℕ) : Transport × IoResult (List UInt8) :=
  ({ t with notifications := t.notifications.tryRecv.1 },
    Ble.readFrom len t.notifications.tryRecv.2)

def write (t : Transport) (c : BusCall Unit) (data : List UInt8) : Transport × IoResult Unit :=
  (if c.proxy then { t with handed := t.handed ++ [data] } else t, ioCall c)

def readCharacteristic (t : Transport) (c : BusCall (List UInt8)) (u : Uuid) :
    IoResult (List UInt8) :=
  match lookup t.chars u with
  | none => .error .notFound
  | some _ => ioCall c

/-- Dropping the transport drops the receiving end. -/
def drop (t : Transport) : Transport := { t with notifications := t.notifications.dropReceiver }

end Transport

/-- A step of the thread, or a call of the owner. -/
inductive TransportOp where
  | signal (s : Signal)
  | signalsEnd
  | read
  | write (c : BusCall Unit) (data : List UInt8)
  | readCharacteristic (c : BusCall (List UInt8)) (u : Uuid)
  | drop

/-- What a call returns. -/
inductive TransportReply where
  | none
  | read (r : IoResult (List UInt8))
  | written (r : IoResult Unit)
  | characteristic (r : IoResult (List UInt8))

/-- What a read gave. -/
def TransportReply.reads : TransportReply → List (IoResult (List UInt8))
  | .read r => [r]
  | .none | .written _ | .characteristic _ => []

namespace Transport

/-- A call of the owner. -/
def call (len : ℕ) (t : Transport) : TransportOp → Transport × TransportReply
  | .read => ((t.read len).1, .read (t.read len).2)
  | .write c data => ((t.write c data).1, .written (t.write c data).2)
  | .readCharacteristic c u => (t, .characteristic (t.readCharacteristic c u))
  | .drop => (t.drop, .none)
  | .signal _ | .signalsEnd => (t, .none)

/-- One step. A transport that has been dropped is not called. -/
def step (len : ℕ) (t : Transport) : TransportOp → Transport × TransportReply
  | .signal s => (t.arrive s, .none)
  | .signalsEnd => ({ t with notifications := t.notifications.dropSender }, .none)
  | op => if t.notifications.receiver then t.call len op else (t, .none)

/-- The transport under any interleaving of its thread and its owner. -/
def machine (len : ℕ) : Reactive.Machine Transport TransportOp TransportReply where
  step := step len

/-! ## Delivery -/

/-- The operation of the channel that a step is. -/
def channelOp (t : Transport) : TransportOp → Option (Op (List UInt8))
  | .signal s =>
    if t.notifications.sender then
      s.payload.map fun v => if t.notifications.receiver then .send v else .dropSender
    else none
  | .signalsEnd => some .dropSender
  | .read => if t.notifications.receiver then some .tryRecv else none
  | .drop => if t.notifications.receiver then some .dropReceiver else none
  | .write _ _ | .readCharacteristic _ _ => none

/-- What the owner's calls leave to the channel. -/
theorem next_notifications (len : ℕ) (t : Transport) (op : TransportOp) :
    ((machine len).next t op).notifications =
      (t.channelOp op).elim t.notifications fun o => (t.notifications.step o).1 := by
  cases op with
  | signal s =>
    show (t.arrive s).notifications = _
    unfold arrive channelOp
    dsimp only
    cases t.notifications.sender with
    | false => rfl
    | true =>
      cases s.payload with
      | none => rfl
      | some v => cases t.notifications.receiver <;> rfl
  | signalsEnd => rfl
  | read =>
    show (if t.notifications.receiver then t.call len .read else (t, _)).1.notifications = _
    unfold channelOp
    cases hreceiver : t.notifications.receiver with
    | false => rfl
    | true =>
      show t.notifications.tryRecv.1 = (t.notifications.step .tryRecv).1
      rw [Channel.step_tryRecv hreceiver]
  | drop =>
    show (if t.notifications.receiver then t.call len .drop else (t, _)).1.notifications = _
    unfold channelOp
    cases t.notifications.receiver <;> rfl
  | write c data =>
    show (if t.notifications.receiver then t.call len (.write c data) else (t, _)).1.notifications =
      t.notifications
    split
    · show (if c.proxy then _ else t : Transport).notifications = _
      split <;> rfl
    · rfl
  | readCharacteristic c u =>
    show (if t.notifications.receiver then t.call len (.readCharacteristic c u)
      else (t, _)).1.notifications = t.notifications
    split <;> rfl

/-- Only a read answers with one. -/
theorem out_reads (len : ℕ) (t : Transport) (op : TransportOp) :
    ((machine len).out t op).reads =
      (t.channelOp op).elim [] fun o =>
        ((t.notifications.step o).2.map (Ble.readFrom len)).toList := by
  cases op with
  | signal s =>
    show [] = _
    unfold channelOp
    dsimp only
    split
    · cases s.payload with
      | none => rfl
      | some v => cases t.notifications.receiver <;> rfl
    · rfl
  | signalsEnd => rfl
  | read =>
    show (if t.notifications.receiver then t.call len .read else (t, _)).2.reads = _
    unfold channelOp
    cases hreceiver : t.notifications.receiver with
    | false => rfl
    | true =>
      show [Ble.readFrom len t.notifications.tryRecv.2] =
        ((t.notifications.step .tryRecv).2.map (Ble.readFrom len)).toList
      rw [Channel.step_tryRecv hreceiver]
      rfl
  | drop =>
    show (if t.notifications.receiver then t.call len .drop else (t, _)).2.reads = _
    unfold channelOp
    cases t.notifications.receiver <;> rfl
  | write | readCharacteristic =>
    show (if t.notifications.receiver then _ else (t, TransportReply.none)).2.reads = []
    split <;> rfl

/-- A transport acts on its channel as the steps' operations do. -/
theorem refines_channel (len : ℕ) :
    (machine len).Refines Mpsc.machine (fun _ => True) (fun _ _ => True) notifications channelOp
      TransportReply.reads fun o => (o.map (Ble.readFrom len)).toList where
  inv := fun _ _ _ _ => trivial
  quiet := by
    intro t op _ _ hnone
    rw [next_notifications, out_reads, hnone]
    exact ⟨rfl, rfl⟩
  heard := by
    intro t op o _ _ hsome
    rw [next_notifications, out_reads, hsome]
    exact ⟨rfl, rfl⟩

/-- The values of the signals up to the end of the thread or of the transport. -/
def forwarded : List TransportOp → List (List UInt8)
  | [] => []
  | .signal s :: ops => s.payload.toList ++ forwarded ops
  | .signalsEnd :: _ | .drop :: _ => []
  | .read :: ops | .write _ _ :: ops | .readCharacteristic _ _ :: ops => forwarded ops

/-- What a step puts into the channel, and whether the channel still takes anything. -/
theorem step_puts (t : Transport) (op : TransportOp) (rest : List (List UInt8)) :
    ((t.channelOp op).bind t.notifications.puts).toList ++
      (if ((t.channelOp op).elim t.notifications fun o => (t.notifications.step o).1).Takes
        then rest else []) =
      if t.notifications.Takes then
        match op with
        | .signal s => s.payload.toList ++ rest
        | .signalsEnd | .drop => []
        | .read | .write _ _ | .readCharacteristic _ _ => rest
      else [] := by
  rcases t with ⟨⟨queue, sender, receiver⟩, cmd, chars, handed⟩
  cases op with
  | signal s =>
    have hchannel : channelOp ⟨⟨queue, sender, receiver⟩, cmd, chars, handed⟩ (.signal s) =
        if sender then s.payload.map fun v => if receiver then .send v else .dropSender
        else none := rfl
    rw [hchannel]
    -- a value gets in only with both ends there, and they stay
    cases hpayload : s.payload with
    | none => cases sender <;> cases receiver <;> simp [Channel.Takes, hpayload]
    | some v =>
      cases sender <;> cases receiver <;>
        simp [Channel.Takes, Channel.step, Channel.puts, Channel.dropSender, hpayload]
  | signalsEnd => cases sender <;> cases receiver <;> rfl
  | read => cases sender <;> cases receiver <;> cases queue <;> rfl
  | drop => cases sender <;> cases receiver <;> rfl
  | write | readCharacteristic => rfl

/-- What the channel takes of a run is what is forwarded in it while both ends are there. -/
theorem puts_eq_forwarded (len : ℕ) (t : Transport) (ops : List TransportOp) :
    (machine len).heardAlong (fun t op => (t.channelOp op).bind t.notifications.puts) t ops =
      if t.notifications.Takes then forwarded ops else [] := by
  induction ops generalizing t with
  | nil => exact (ite_self []).symm
  | cons op ops ih =>
    rw [Reactive.Machine.heardAlong_cons, ih, next_notifications, step_puts]
    cases op <;> rfl

/-- For every interleaving of the thread with its owner's calls: each read that gave
something gave the value in its place among those forwarded, cut to the buffer, or zero
bytes behind all of them once the thread has ended. So zero bytes come for an empty value,
or only when none is left and the thread has ended. -/
theorem payloads_delivered (len : ℕ) (t : Connected) (ops : List TransportOp) :
    let ch := ((machine len).run (opened t) ops).notifications
    let reads := (((machine len).outs (opened t) ops).flatMap TransportReply.reads).filterMap
      Except.toOption
    Ble.Delivers len (forwarded ops) reads ch ∧
      (0 < len → ∀ i, reads[i]? = some [] →
        (forwarded ops)[i]? = some [] ∨ ((forwarded ops).length ≤ i ∧ ch.Drained)) := by
  intro ch reads
  have hdelivers := Ble.delivers_of_refines (refines_channel len) (s := opened t) trivial rfl ops
  rw [puts_eq_forwarded] at hdelivers
  exact ⟨hdelivers, fun hlen i hzero => Ble.Delivers.zero_bytes hdelivers hlen hzero⟩

end Transport

end Bluez

end AllSquare
