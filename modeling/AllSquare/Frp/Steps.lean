import AllSquare.Frp.Model

/-! # What one call of the device does

Every send is an offer of an envelope: `offer` is the device after one that the
connection took or found its peer gone, and `SendFails` says when a send ends in
an error instead. `sendTelemetry_exec`, `sendEvents_exec` and `handleEvent_shot`
put the calls in these terms, and every invariant of the device is proved from
them.

The device remembers a ready value twice, in `lastReady` and in the telemetry it
caches; `Consistent` says that the two agree, and every call keeps it whatever
becomes of its sends (`FrpCall.exec_consistent`).
-/

namespace AllSquare

/-! ## Reading envelopes -/

/-- Not a telemetry event. -/
def FrpEvent.IsShot : FrpEvent → Prop
  | .deviceTelemetry .. => False
  | _ => True

instance : DecidablePred FrpEvent.IsShot := fun e =>
  match e with
  | .deviceTelemetry .. => inferInstanceAs (Decidable False)
  | .shotTrigger _ | .ballFlight .. | .clubPath .. | .faceImpact .. | .shotFinished _ =>
    inferInstanceAs (Decidable True)

/-- The ready value a telemetry envelope says. -/
def Envelope.ready (e : Envelope) : Option Text :=
  match e.event with
  | .deviceTelemetry _ _ _ telemetry => telemetry.bind fun values => values.lookup .ready
  | _ => none

/-- The last telemetry among envelopes. -/
def Envelope.lastTelemetry (es : List Envelope) : Option Envelope :=
  (es.filter fun e => ¬e.event.IsShot).getLast?

/-- The text of a ready value. -/
def readyText (r : Bool) : Text := (toString r).toList

namespace Connection

/-- A connection takes an envelope. -/
def accept (c : Connection) (e : Envelope) : Connection := { c with accepted := c.accepted ++ [e] }

/-- The peer is gone when an envelope is sent. -/
def refuse (c : Connection) (e : Envelope) : Connection := { c with refused := some e }

/-- The last telemetry a connection has accepted. -/
def lastTelemetry (c : Connection) : Option Envelope := Envelope.lastTelemetry c.accepted

/-- The ready value a controller has last been told. -/
def told (c : Connection) : Option Text := c.lastTelemetry.bind Envelope.ready

theorem lastTelemetry_accept_shot (c : Connection) {e : Envelope} (h : e.event.IsShot) :
    (c.accept e).lastTelemetry = c.lastTelemetry := by
  simp [lastTelemetry, Envelope.lastTelemetry, accept, h]

theorem lastTelemetry_accept_telemetry (c : Connection) {e : Envelope} (h : ¬e.event.IsShot) :
    (c.accept e).lastTelemetry = some e := by
  simp [lastTelemetry, Envelope.lastTelemetry, accept, h]

end Connection

namespace FrpDevice

open Stateful

variable {ft : Features}

/-! ## Offers -/

/-- After asking for a connection. -/
def requested (d : FrpDevice) (env : FrpEnv) : FrpDevice :=
  if !d.pending && env.request then { d with pending := true, requests := d.requests + 1 } else d

/-- After the loss of a connection. -/
def lost (d : FrpDevice) (env : FrpEnv) (c : Connection) : FrpDevice :=
  requested { d with conn := none, gone := d.gone ++ [c] } env

/-- After a send that did not fail. -/
def offer (d : FrpDevice) (env : FrpEnv) (e : Envelope) : FrpDevice :=
  match d.conn with
  | none => d
  | some c =>
    match env.send e with
    | .ok () => { d with conn := some (c.accept e) }
    | .error _ => d.lost env (c.refuse e)

/-- A send ends in an error: the connection stays, and has not got the envelope. -/
def SendFails (d : FrpDevice) (env : FrpEnv) (e : Envelope) : Prop :=
  d.conn.isSome ∧ env.send e = .error .other

instance (d : FrpDevice) (env : FrpEnv) (e : Envelope) : Decidable (d.SendFails env e) :=
  inferInstanceAs (Decidable (_ ∧ _))

theorem requestConnection_exec (env : FrpEnv) (d : FrpDevice) :
    (requestConnection env).exec d = (d.requested env, .ok ()) := by
  unfold requestConnection requested
  simp only [exec_bind, exec_get, exec_ite, exec_modify, exec_pure]
  split <;> rfl

theorem spawn_eq (env : FrpEnv) : spawn env = unconnected.requested env := by
  unfold spawn
  rw [requestConnection_exec]

theorem dropConnection_exec (env : FrpEnv) (d : FrpDevice) {c : Connection}
    (hc : d.conn = some c) : (dropConnection env).exec d = (d.lost env c, .ok ()) := by
  unfold dropConnection lost
  simp only [exec_bind, exec_modify, requestConnection_exec, hc]
  rfl

theorem sendEnvelope_exec (env : FrpEnv) (e : Envelope) (d : FrpDevice) :
    (sendEnvelope env e).exec d =
      if d.SendFails env e then (d, .error .other) else (d.offer env e, .ok ()) := by
  unfold sendEnvelope
  simp only [exec_bind, exec_get]
  cases hc : d.conn with
  | none =>
    have hf : ¬d.SendFails env e := fun h => by simp [SendFails, hc] at h
    rw [if_neg hf]
    simp [offer, hc]
  | some c =>
    cases hs : env.send e with
    | ok _ =>
      have hf : ¬d.SendFails env e := fun h => by simp [SendFails, hs] at h
      rw [if_neg hf]
      simp [offer, hc, hs, Connection.accept]
    | error err =>
      cases err with
      | closed =>
        have hf : ¬d.SendFails env e := fun h => by simp [SendFails, hs] at h
        rw [if_neg hf]
        simp only [exec_bind, exec_modify]
        rw [dropConnection_exec env _ rfl]
        simp [offer, hc, hs, lost, Connection.refuse]
      | other =>
        -- any other error: the connection stays as it was
        have hf : d.SendFails env e := ⟨by simp [hc], hs⟩
        rw [if_pos hf]
        simp

/-! ## Fields -/

@[simp] theorem requested_conn (d : FrpDevice) (env : FrpEnv) :
    (d.requested env).conn = d.conn := by
  unfold requested
  split <;> rfl

@[simp] theorem requested_gone (d : FrpDevice) (env : FrpEnv) :
    (d.requested env).gone = d.gone := by
  unfold requested
  split <;> rfl

/-- What a device remembers of its shots and its telemetry, whatever becomes of
its connections. -/
structure Memory where
  telemetry : Option Envelope
  device : Text
  firmware : Option Text
  model : Option Text
  shotNumber : UInt32
  lastReady : Option Bool

def memory (d : FrpDevice) : Memory where
  telemetry := d.telemetry
  device := d.device
  firmware := d.firmware
  model := d.model
  shotNumber := d.shotNumber
  lastReady := d.lastReady

@[simp] theorem requested_memory (d : FrpDevice) (env : FrpEnv) :
    (d.requested env).memory = d.memory := by
  unfold requested
  split <;> rfl

@[simp] theorem lost_memory (d : FrpDevice) (env : FrpEnv) (c : Connection) :
    (d.lost env c).memory = d.memory :=
  requested_memory _ env

@[simp] theorem lost_conn (d : FrpDevice) (env : FrpEnv) (c : Connection) :
    (d.lost env c).conn = none :=
  requested_conn _ env

@[simp] theorem lost_gone (d : FrpDevice) (env : FrpEnv) (c : Connection) :
    (d.lost env c).gone = d.gone ++ [c] :=
  requested_gone _ env

@[simp] theorem offer_memory (d : FrpDevice) (env : FrpEnv) (e : Envelope) :
    (d.offer env e).memory = d.memory := by
  unfold offer
  split
  · rfl
  · split
    · rfl
    · exact lost_memory d env _

theorem offer_none {d : FrpDevice} (hc : d.conn = none) (env : FrpEnv) (e : Envelope) :
    d.offer env e = d := by
  unfold offer
  rw [hc]

/-- What an offer to a connection does to it. -/
theorem offer_cases {d : FrpDevice} {c : Connection} (hc : d.conn = some c) (env : FrpEnv)
    (e : Envelope) :
    (env.send e = .ok () ∧ (d.offer env e).conn = some (c.accept e) ∧
      (d.offer env e).gone = d.gone) ∨
    ((d.offer env e).conn = none ∧ (d.offer env e).gone = d.gone ++ [c.refuse e]) := by
  unfold offer
  rw [hc]
  cases hs : env.send e with
  | ok _ => exact .inl ⟨rfl, rfl, rfl⟩
  | error err => exact .inr ⟨lost_conn d env _, lost_gone d env _⟩

/-! ## Telemetry -/

/-- Telemetry that would say nothing new. -/
def Suppressed (d : FrpDevice) (ready : Option Bool) (battery : Option UInt8) : Prop :=
  battery = none ∧ ready.isSome ∧ ready = d.lastReady

instance (d : FrpDevice) (ready : Option Bool) (battery : Option UInt8) :
    Decidable (d.Suppressed ready battery) := inferInstanceAs (Decidable (_ ∧ _))

/-- The ready value put in telemetry. -/
def heard (d : FrpDevice) (ready : Option Bool) : FrpDevice :=
  { d with lastReady := ready.or d.lastReady }

/-- The telemetry envelope for a ready and a battery value. -/
def report (d : FrpDevice) (ready : Option Bool) (battery : Option UInt8) : Envelope :=
  (d.heard ready).telemetryEnvelope battery

/-- The device with the envelope cached, before it is sent. -/
def reported (d : FrpDevice) (ready : Option Bool) (battery : Option UInt8) : FrpDevice :=
  { d.heard ready with telemetry := some (d.report ready battery) }

theorem sendTelemetry_exec (env : FrpEnv) (ready : Option Bool) (battery : Option UInt8)
    (d : FrpDevice) :
    (sendTelemetry env ready battery).exec d =
      if d.Suppressed ready battery then (d, .ok ())
      else (sendEnvelope env (d.report ready battery)).exec (d.reported ready battery) := by
  have hcond : (battery.isNone && ready.isSome && ready == d.lastReady) = true ↔
      d.Suppressed ready battery := by
    simp [Suppressed, Bool.and_eq_true, and_assoc]
  unfold sendTelemetry
  simp only [exec_bind, exec_get, exec_ite, exec_pure, exec_modify, hcond]
  split
  · rfl
  · rfl

theorem telemetryEnvelope_ready (d : FrpDevice) (battery : Option UInt8) :
    (d.telemetryEnvelope battery).ready = some (readyText (d.lastReady.getD false)) := by
  simp [telemetryEnvelope, Envelope.ready, readyText]

theorem telemetryEnvelope_not_shot (d : FrpDevice) (battery : Option UInt8) :
    ¬(d.telemetryEnvelope battery).event.IsShot := id

/-! ## Shots -/

/-- The device counts the shot it is about to send. -/
def nextShot (d : FrpDevice) : FrpDevice := { d with shotNumber := d.shotNumber + 1 }

theorem handleEvent_shot (env : FrpEnv) (b : BallMetrics) (m : Option ClubMetrics)
    (d : FrpDevice) :
    (handleEvent ft env (.shot b m)).exec d =
      match (sendTelemetry env (some false) none).exec d with
      | (d', .ok _) =>
        (sendEvents env (shotEvents ft ⟨ShotId.uuidV4 env.nanos, d'.shotNumber + 1⟩ b m)).exec
          d'.nextShot
      | (d', .error e) => (d', .error e) := by
  simp only [handleEvent, exec_bind, exec_modify, exec_get]
  rcases (sendTelemetry env (some false) none).exec d with ⟨d', r⟩
  cases r <;> rfl

/-- What holds after the telemetry of a shot, and is kept by counting the shot and
sending some of its events, holds after the shot. -/
theorem handleEvent_shot_keeps {P : FrpDevice → Prop} {env : FrpEnv} {b : BallMetrics}
    {m : Option ClubMetrics} {d : FrpDevice}
    (htel : P ((sendTelemetry env (some false) none).exec d).1)
    (hevents : ∀ d' evs, P d' → P ((sendEvents env evs).exec d'.nextShot).1) :
    P ((handleEvent ft env (.shot b m)).exec d).1 := by
  rw [handleEvent_shot]
  generalize (sendTelemetry env (some false) none).exec d = out at htel ⊢
  rcases out with ⟨d', r⟩
  cases r with
  | error e => exact htel
  | ok _ => exact hevents d' _ htel

theorem shotEvents_isShot {key : ShotKey} {b : BallMetrics} {m : Option ClubMetrics}
    {ev : FrpEvent} (h : ev ∈ shotEvents ft key b m) : ev.IsShot := by
  cases m with
  | none =>
    simp only [shotEvents, List.append_nil, List.mem_append, List.mem_cons, List.not_mem_nil,
      or_false] at h
    rcases h with (rfl | rfl) | rfl <;> trivial
  | some m =>
    simp only [shotEvents, List.mem_append, List.mem_cons, List.mem_map, List.not_mem_nil,
      or_false] at h
    rcases h with ((rfl | rfl) | rfl | ⟨i, -, rfl⟩) | rfl <;> trivial

theorem sendEvents_exec (env : FrpEnv) (ev : FrpEvent) (rest : List FrpEvent) (d : FrpDevice) :
    (sendEvents env (ev :: rest)).exec d =
      if d.conn = none then (d, .ok ())
      else if d.SendFails env ⟨d.device, ev⟩ then (d, .error .other)
      else (sendEvents env rest).exec (d.offer env ⟨d.device, ev⟩) := by
  simp only [sendEvents, exec_bind, exec_get, exec_ite, exec_pure, sendEnvelope_exec,
    Option.isNone_iff_eq_none]
  by_cases hf : d.SendFails env ⟨d.device, ev⟩
  · simp only [if_pos hf]
  · simp only [if_neg hf]

/-! ## What every call keeps -/

/-- The cached telemetry says the ready value the device remembers, and there is
some once there is such a value. -/
structure Consistent (d : FrpDevice) : Prop where
  ready : ∀ e, d.telemetry = some e → e.ready = some (readyText (d.lastReady.getD false)) ∧
    ¬e.event.IsShot
  produced : d.lastReady ≠ none → d.telemetry ≠ none

theorem unconnected_consistent : unconnected.Consistent where
  ready := fun e he => by cases he
  produced := fun h => absurd rfl h

theorem reported_consistent (d : FrpDevice) (ready : Option Bool) (battery : Option UInt8) :
    (d.reported ready battery).Consistent where
  ready := fun e he => by
    obtain rfl := Option.some.inj he
    exact ⟨telemetryEnvelope_ready _ battery, telemetryEnvelope_not_shot _ battery⟩
  produced := fun _ => Option.some_ne_none _

theorem Consistent.of_memory {d d' : FrpDevice} (h : d.Consistent)
    (ht : d'.telemetry = d.telemetry) (hr : d'.lastReady = d.lastReady) : d'.Consistent where
  ready := by
    rw [ht, hr]
    exact h.ready
  produced := by
    rw [ht, hr]
    exact h.produced

theorem memory_telemetry {d d' : FrpDevice} (h : d'.memory = d.memory) :
    d'.telemetry = d.telemetry := congrArg Memory.telemetry h

theorem memory_lastReady {d d' : FrpDevice} (h : d'.memory = d.memory) :
    d'.lastReady = d.lastReady := congrArg Memory.lastReady h

theorem sendEnvelope_memory (env : FrpEnv) (e : Envelope) (d : FrpDevice) :
    ((sendEnvelope env e).exec d).1.memory = d.memory := by
  rw [sendEnvelope_exec]
  split
  · rfl
  · exact offer_memory d env e

theorem sendEvents_memory (env : FrpEnv) (evs : List FrpEvent) (d : FrpDevice) :
    ((sendEvents env evs).exec d).1.memory = d.memory := by
  induction evs generalizing d with
  | nil => rfl
  | cons ev rest ih =>
    rw [sendEvents_exec]
    split
    · rfl
    · split
      · rfl
      · exact (ih _).trans (offer_memory d env _)

theorem sendTelemetry_consistent (env : FrpEnv) (ready : Option Bool) (battery : Option UInt8)
    {d : FrpDevice} (h : d.Consistent) :
    ((sendTelemetry env ready battery).exec d).1.Consistent := by
  rw [sendTelemetry_exec]
  -- suppressed, the telemetry and the ready value stay; otherwise both are set together
  split
  · exact h
  · have hm := sendEnvelope_memory env (d.report ready battery) (d.reported ready battery)
    exact (reported_consistent d ready battery).of_memory (memory_telemetry hm)
      (memory_lastReady hm)

theorem handleEvent_consistent (env : FrpEnv) (ev : Event) {d : FrpDevice} (h : d.Consistent) :
    ((handleEvent ft env ev).exec d).1.Consistent := by
  cases ev with
  | stateChanged state => exact sendTelemetry_consistent env _ none h
  | battery percent _ => exact sendTelemetry_consistent env none _ h
  | shot b m =>
    apply handleEvent_shot_keeps (sendTelemetry_consistent env (some false) none h)
    intro d' evs hd'
    have hm := sendEvents_memory env evs d'.nextShot
    have hshot : d'.nextShot.Consistent := hd'.of_memory rfl rfl
    exact hshot.of_memory (memory_telemetry hm) (memory_lastReady hm)
  | connected | sensor | clock | alignment => exact h

/-- A connection is adopted, and the cached telemetry not yet sent to it. -/
def adopt (d : FrpDevice) : FrpDevice :=
  { d with pending := false, conn := some ⟨d.telemetry, [], none⟩ }

/-- What polling for a connection does to the device. -/
theorem pollConnection_exec (env : FrpEnv) (incoming : Bool) (d : FrpDevice) :
    ((pollConnection env incoming).exec d).1 =
      if d.conn = none ∧ incoming = true then
        match d.telemetry with
        | none => d.adopt
        | some e => ((sendEnvelope env e).exec d.adopt).1
      else d := by
  unfold pollConnection
  simp only [exec_bind, exec_get]
  cases hc : d.conn with
  | some c => simp
  | none =>
    cases incoming with
    | false => rfl
    | true =>
      cases ht : d.telemetry with
      | none =>
        unfold adopt
        rw [ht]
        rfl
      | some e =>
        simp only [exec_bind, exec_set, exec_pure, Option.isSome_none,
          Bool.false_eq_true, if_false, if_true, and_self]
        unfold adopt
        rw [ht]
        split
        · rename_i heq
          rw [heq]
        · rename_i heq
          rw [heq]

theorem pollConnection_consistent (env : FrpEnv) (incoming : Bool) {d : FrpDevice}
    (h : d.Consistent) : ((pollConnection env incoming).exec d).1.Consistent := by
  have hadopt : d.adopt.Consistent := h.of_memory rfl rfl
  rw [pollConnection_exec]
  split
  · split
    · exact hadopt
    · have hm := sendEnvelope_memory env ‹Envelope› d.adopt
      exact hadopt.of_memory (memory_telemetry hm) (memory_lastReady hm)
  · exact h

/-- What polling for controller commands does. -/
theorem checkController_exec (env : FrpEnv) (recv : Except FrpError (Option FrpMessage))
    (d : FrpDevice) :
    ((checkController env recv).exec d).1 =
      match d.conn, recv with
      | some c, .error _ => d.lost env c
      | _, _ => d := by
  unfold checkController
  cases hc : d.conn with
  | none => simp [exec_bind, hc]
  | some c =>
    simp only [exec_bind, exec_get, hc, Option.isNone_some, Bool.false_eq_true, if_false]
    cases recv with
    | error e => simp only [exec_bind, dropConnection_exec env d hc, exec_pure]
    | ok msg => cases msg <;> rfl

theorem checkController_memory (env : FrpEnv) (recv : Except FrpError (Option FrpMessage))
    (d : FrpDevice) : ((checkController env recv).exec d).1.memory = d.memory := by
  rw [checkController_exec]
  split
  · exact lost_memory d env _
  · rfl

end FrpDevice

/-- What a connection answers to a send during a call. -/
def FrpCall.send (call : FrpCall) (e : Envelope) : Except FrpError Unit :=
  match call with
  | .handleEvent env _ | .sendDeviceInfo env | .pollConnection env _ | .checkController env _ =>
    env.send e
  | _ => .ok ()

open FrpDevice

variable {ft : Features}

theorem FrpCall.exec_consistent (call : FrpCall) {d : FrpDevice} (h : d.Consistent) :
    (call.exec ft d).1.Consistent := by
  cases call with
  | handleEvent env ev => exact handleEvent_consistent env ev h
  | sendDeviceInfo env => exact sendTelemetry_consistent env none none h
  | pollConnection env incoming => exact pollConnection_consistent env incoming h
  | checkController env recv =>
    have hm := checkController_memory env recv d
    exact h.of_memory (memory_telemetry hm) (memory_lastReady hm)
  | setDeviceName name => exact h.of_memory rfl rfl
  | setFirmware fw => exact h.of_memory rfl rfl
  | setModel model =>
    simp only [FrpCall.exec, FrpDevice.setModel]
    split <;> exact h.of_memory rfl rfl

theorem spawn_consistent (env : FrpEnv) : (spawn env).Consistent := by
  rw [spawn_eq]
  exact unconnected_consistent.of_memory (memory_telemetry (requested_memory _ env))
    (memory_lastReady (requested_memory _ env))

end AllSquare
