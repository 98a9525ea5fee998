import AllSquare.Frp.Steps

/-! # The device and its acceptor thread

The device asks the acceptor thread for connections over one channel and
receives them over another. What the channels carry says nothing more than that
it was sent, so a channel is the number of its messages.

`Asks` is what one call of the device does to its account with the acceptor;
`FrpLink.Balanced` is the account in every state the two parties reach
(`one_connection`).
-/

namespace AllSquare

/-! ## The two parties -/

structure FrpLink where
  device : FrpDevice
  /-- The requests in the acceptor's channel. -/
  queued : ℕ
  /-- The acceptor has taken a request and tries to establish its connection. -/
  working : Bool
  /-- The connections in the device's channel. -/
  incoming : ℕ

/-- With both channels open: a request is always taken. -/
def FrpEnv.opened (env : FrpEnv) : FrpEnv := { env with request := true }

/-- A call with the channels as they are. -/
def FrpCall.within (incoming : ℕ) : FrpCall → FrpCall
  | .handleEvent env event => .handleEvent env.opened event
  | .sendDeviceInfo env => .sendDeviceInfo env.opened
  | .pollConnection env _ => .pollConnection env.opened (0 < incoming)
  | .checkController env recv => .checkController env.opened recv
  | .setDeviceName name => .setDeviceName name
  | .setFirmware fw => .setFirmware fw
  | .setModel model => .setModel model

/-- Whether a call takes a connection from the channel. -/
def FrpCall.receives (d : FrpDevice) (incoming : ℕ) : FrpCall → Bool
  | .pollConnection _ _ => d.conn.isNone && 0 < incoming
  | _ => false

inductive FrpMove where
  /-- A call of the device; whether a connection is waiting is the channel's to say. -/
  | call (call : FrpCall)
  /-- The acceptor receives a request or, working on one, tries to establish a
  connection; `established` says whether that gives one. -/
  | accept (established : Bool)

namespace FrpLink

def step (ft : Features) (s : FrpLink) : FrpMove → FrpLink
  | .call call =>
    let d := ((call.within s.incoming).exec ft s.device).1
    { s with
      device := d
      queued := s.queued + (d.requests - s.device.requests)
      incoming := s.incoming - (call.receives s.device s.incoming).toNat }
  | .accept established =>
    if s.working then
      -- retries until connected
      if established then { s with working := false, incoming := s.incoming + 1 } else s
    else
      match s.queued with
      | 0 => s
      | n + 1 => { s with queued := n, working := true }

def machine (ft : Features) : Reactive.Machine FrpLink FrpMove Unit where
  step s m := (s.step ft m, ())

/-- A new device with its acceptor thread. -/
def spawn (env : FrpEnv) : FrpLink where
  device := FrpDevice.spawn env.opened
  queued := (FrpDevice.spawn env.opened).requests
  working := false
  incoming := 0

end FrpLink

/-! ## What a call asks for -/

namespace FrpDevice

variable {ft : Features} {env : FrpEnv}

/-- The device waits for a connection exactly while it has none. -/
def Waits (d : FrpDevice) : Prop := d.conn = none ↔ d.pending = true

/-- From `d` to `d'` the device has received `n` connections, and has asked for
one for each that it has lost. -/
structure Asks (n : ℕ) (d d' : FrpDevice) : Prop where
  waits : d'.Waits
  grows : d.requests ≤ d'.requests
  balance : d'.requests + d.pending.toNat = d.requests + d'.pending.toNat + n

theorem Asks.refl {d : FrpDevice} (h : d.Waits) : Asks 0 d d := ⟨h, le_rfl, rfl⟩

theorem Asks.trans {m n : ℕ} {d d' d'' : FrpDevice} (h : Asks m d d') (h' : Asks n d' d'') :
    Asks (m + n) d d'' where
  waits := h'.waits
  grows := h.grows.trans h'.grows
  balance := by
    have hfirst := h.balance
    have hsecond := h'.balance
    omega

/-- The fields that count are untouched. -/
theorem Asks.of_fields {d d' : FrpDevice} (h : d.Waits) (hconn : d'.conn = d.conn)
    (hpending : d'.pending = d.pending) (hrequests : d'.requests = d.requests) : Asks 0 d d' where
  waits := by
    unfold Waits
    rw [hconn, hpending]
    exact h
  grows := hrequests.ge
  balance := by rw [hpending, hrequests, Nat.add_zero]

theorem lost_asks {d : FrpDevice} (h : d.Waits) (hopen : env.request = true)
    (hc : d.conn.isSome) (c : Connection) : Asks 0 d (d.lost env c) := by
  have hpending : d.pending = false := by
    rw [Bool.eq_false_iff]
    intro hp
    simp [h.2 hp] at hc
  have hlost : d.lost env c = { d with
      conn := none, gone := d.gone ++ [c], pending := true, requests := d.requests + 1 } := by
    unfold lost requested
    simp [hpending, hopen]
  rw [hlost]
  constructor
  · exact iff_of_true rfl rfl
  · exact Nat.le_succ _
  · simp [hpending]

theorem adopt_asks {d : FrpDevice} (h : d.Waits) (hc : d.conn = none) : Asks 1 d d.adopt where
  waits := by simp [Waits, adopt]
  grows := le_rfl
  balance := by simp [adopt, h.1 hc]

theorem offer_asks {d : FrpDevice} (h : d.Waits) (hopen : env.request = true) (e : Envelope) :
    Asks 0 d (d.offer env e) := by
  unfold offer
  cases hc : d.conn with
  | none => exact .refl h
  | some c =>
    cases env.send e with
    | ok _ =>
      refine ⟨?_, le_rfl, rfl⟩
      unfold Waits at h ⊢
      rw [hc] at h
      simpa using h
    | error _ => exact lost_asks h hopen (by simp [hc]) _

theorem sendEnvelope_asks {d : FrpDevice} (h : d.Waits) (hopen : env.request = true)
    (e : Envelope) : Asks 0 d ((sendEnvelope env e).exec d).1 := by
  rw [sendEnvelope_exec]
  split
  · exact .refl h
  · exact offer_asks h hopen e

theorem sendEvents_asks {d : FrpDevice} (h : d.Waits) (hopen : env.request = true)
    (evs : List FrpEvent) : Asks 0 d ((sendEvents env evs).exec d).1 := by
  induction evs generalizing d with
  | nil => exact .refl h
  | cons ev rest ih =>
    rw [sendEvents_exec]
    split
    · exact .refl h
    · split
      · exact .refl h
      · have hoffer := offer_asks h hopen ⟨d.device, ev⟩
        exact hoffer.trans (ih hoffer.waits)

theorem sendTelemetry_asks {d : FrpDevice} (h : d.Waits) (hopen : env.request = true)
    (ready : Option Bool) (battery : Option UInt8) :
    Asks 0 d ((sendTelemetry env ready battery).exec d).1 := by
  rw [sendTelemetry_exec]
  split
  · exact .refl h
  · have hreported : Asks 0 d (d.reported ready battery) := .of_fields h rfl rfl rfl
    exact hreported.trans (sendEnvelope_asks hreported.waits hopen _)

theorem handleEvent_asks {d : FrpDevice} (h : d.Waits) (hopen : env.request = true) (ev : Event) :
    Asks 0 d ((handleEvent ft env ev).exec d).1 := by
  cases ev with
  | stateChanged state => exact sendTelemetry_asks h hopen _ none
  | battery percent _ => exact sendTelemetry_asks h hopen none _
  | shot b m =>
    apply handleEvent_shot_keeps (sendTelemetry_asks h hopen (some false) none)
    intro d' evs hd'
    have hnext : Asks 0 d' d'.nextShot := .of_fields hd'.waits rfl rfl rfl
    exact hd'.trans (hnext.trans (sendEvents_asks hnext.waits hopen evs))
  | connected | sensor | clock | alignment => exact .refl h

/-- The connection adopted may be lost to the telemetry sent to it. -/
theorem pollConnection_asks {d : FrpDevice} (h : d.Waits) (hopen : env.request = true)
    (incoming : Bool) :
    Asks (d.conn.isNone && incoming).toNat d ((pollConnection env incoming).exec d).1 := by
  rw [pollConnection_exec]
  split
  · rename_i hadopt
    have hreceived : (d.conn.isNone && incoming).toNat = 1 := by simp [hadopt.1, hadopt.2]
    have hadopts := adopt_asks h hadopt.1
    rw [hreceived]
    split
    · exact hadopts
    · exact hadopts.trans (sendEnvelope_asks hadopts.waits hopen _)
  · rename_i hkeep
    have hnone : (d.conn.isNone && incoming).toNat = 0 := by
      rw [← Option.isNone_iff_eq_none] at hkeep
      cases hcond : d.conn.isNone && incoming with
      | false => rfl
      | true => exact absurd (by simpa using hcond) hkeep
    rw [hnone]
    exact .refl h

theorem checkController_asks {d : FrpDevice} (h : d.Waits) (hopen : env.request = true)
    (recv : Except FrpError (Option FrpMessage)) :
    Asks 0 d ((checkController env recv).exec d).1 := by
  rw [checkController_exec]
  split
  · rename_i c _ hc
    exact lost_asks h hopen (by simp [hc]) c
  · exact .refl h

theorem exec_asks (ft : Features) {d : FrpDevice} (h : d.Waits) (incoming : ℕ) (call : FrpCall) :
    Asks (call.receives d incoming).toNat d ((call.within incoming).exec ft d).1 := by
  cases call with
  | handleEvent env ev => exact handleEvent_asks h rfl ev
  | sendDeviceInfo env => exact sendTelemetry_asks h rfl none none
  | pollConnection env _ => exact pollConnection_asks h rfl (0 < incoming)
  | checkController env recv => exact checkController_asks h rfl recv
  | setDeviceName name => exact .of_fields h rfl rfl rfl
  | setFirmware fw => exact .of_fields h rfl rfl rfl
  | setModel model =>
    simp only [FrpCall.within, FrpCall.exec, FrpDevice.setModel]
    split <;> exact .of_fields h rfl rfl rfl

end FrpDevice

/-! ## Runs -/

namespace FrpLink

variable {ft : Features}

/-- Every request is somewhere on its way, and there is one exactly while the
device waits. -/
structure Balanced (s : FrpLink) : Prop where
  waits : s.device.Waits
  account : s.queued + s.working.toNat + s.incoming = s.device.pending.toNat

theorem spawn_balanced (env : FrpEnv) : (spawn env).Balanced := by
  have hdevice : (spawn env).device =
      { FrpDevice.unconnected with pending := true, requests := 1 } := by
    simp [spawn, FrpDevice.spawn_eq, FrpDevice.requested, FrpDevice.unconnected, FrpEnv.opened]
  constructor
  · rw [hdevice]
    exact iff_of_true rfl rfl
  · have hqueued : (spawn env).queued = (spawn env).device.requests := rfl
    rw [hqueued, hdevice]
    rfl

theorem receives_le (call : FrpCall) (d : FrpDevice) (incoming : ℕ) :
    (call.receives d incoming).toNat ≤ incoming := by
  cases call with
  | pollConnection env _ =>
    cases incoming with
    | zero => simp [FrpCall.receives]
    | succ n => exact (Bool.toNat_le _).trans (Nat.succ_le_succ (Nat.zero_le n))
  | handleEvent | sendDeviceInfo | checkController | setDeviceName | setFirmware | setModel =>
    exact Nat.zero_le incoming

theorem next_balanced (s : FrpLink) (m : FrpMove) (h : s.Balanced) :
    ((machine ft).next s m).Balanced := by
  obtain ⟨hwaits, haccount⟩ := h
  show (s.step ft m).Balanced
  cases m with
  | call call =>
    have hasks := FrpDevice.exec_asks ft hwaits s.incoming call
    have hle := receives_le call s.device s.incoming
    have hgrows := hasks.grows
    have hbalance := hasks.balance
    refine ⟨hasks.waits, ?_⟩
    simp only [step]
    omega
  | accept established =>
    unfold step
    cases hworking : s.working with
    | true =>
      rw [hworking] at haccount
      cases established with
      | true =>
        refine ⟨hwaits, ?_⟩
        simp at haccount ⊢
        omega
      | false =>
        exact ⟨hwaits, by simpa [hworking] using haccount⟩
    | false =>
      rw [hworking] at haccount
      cases hqueued : s.queued with
      | zero => exact ⟨hwaits, by simpa [hworking] using haccount⟩
      | succ n =>
        refine ⟨hwaits, ?_⟩
        simp [hqueued] at haccount ⊢
        omega

/-- Whatever the calls of the device and the acceptor do, in any interleaving: the
device has no connection exactly while it waits for one, and then exactly one is
on its way, as a request, in the acceptor's hands or established; and none is on
its way while one is in use. -/
theorem one_connection (ft : Features) (env : FrpEnv) (ms : List FrpMove) :
    let s := (machine ft).run (spawn env) ms
    (s.device.conn = none ↔ s.device.pending = true) ∧
      s.queued + s.working.toNat + s.incoming = (if s.device.pending then 1 else 0) ∧
      (s.device.conn = none → s.queued + s.working.toNat + s.incoming = 1) ∧
      (s.device.conn ≠ none → s.queued = 0 ∧ s.working = false ∧ s.incoming = 0) := by
  intro s
  have h : s.Balanced := (machine ft).run_invariant Balanced next_balanced ms (spawn_balanced env)
  obtain ⟨hwaits, haccount⟩ := h
  refine ⟨hwaits, ?_, ?_, ?_⟩
  · rw [haccount]
    cases s.device.pending <;> rfl
  · intro hnone
    rw [haccount, hwaits.1 hnone]
    rfl
  · intro hconn
    have hpending : s.device.pending = false := Bool.eq_false_iff.2 fun hp => hconn (hwaits.2 hp)
    rw [hpending] at haccount
    have hzero : s.queued + s.working.toNat + s.incoming = 0 := haccount
    have hworking : s.working.toNat = 0 := by omega
    refine ⟨by omega, ?_, by omega⟩
    cases hw : s.working with
    | false => rfl
    | true =>
      rw [hw] at hworking
      cases hworking

end FrpLink

end AllSquare
