import AllSquare.Frp.Steps

/-! # Is suppressed telemetry what the controller has?

Telemetry that would say nothing new is not sent, on the ground that the
controller has it: its connection has last accepted the ready value the device
remembers (`Delivered`). A send that ends in an error other than the peer's
being gone breaks that: the value is remembered before the send, and the
connection stays without it.

`delivered_iff` says exactly when no state of a run is like that: when every
telemetry send that fails is on a connection that has already been told the
value that was being sent (`FailuresHarmless`).
-/

namespace AllSquare

open FrpDevice

/-- The connected controller, once there is telemetry, has last been told the
ready value the device remembers. -/
def Delivered (d : FrpDevice) : Prop :=
  ∀ c, d.conn = some c → d.telemetry ≠ none → c.told = some (readyText (d.lastReady.getD false))

instance (d : FrpDevice) : Decidable (Delivered d) :=
  inferInstanceAs (Decidable (∀ c ∈ d.conn,
    d.telemetry ≠ none → c.told = some (readyText (d.lastReady.getD false))))

/-! ## The telemetry a call sends -/

namespace FrpDevice

/-- The telemetry handed to the connection for a ready and a battery value. -/
def news (d : FrpDevice) (ready : Option Bool) (battery : Option UInt8) : Option Envelope :=
  if d.conn = none ∨ d.Suppressed ready battery then none else some (d.report ready battery)

/-- The telemetry a call hands to a connection. -/
def announces (d : FrpDevice) : FrpCall → Option Envelope
  | .handleEvent _ (.stateChanged state) => d.news (some (state == .ready)) none
  | .handleEvent _ (.battery percent _) => d.news none (some percent)
  | .handleEvent _ (.shot _ _) => d.news (some false) none
  | .sendDeviceInfo _ => d.news none none
  | .pollConnection _ incoming => if d.conn = none ∧ incoming = true then d.telemetry else none
  | _ => none

end FrpDevice

/-- A telemetry send of the call that fails is on a connection that has already
been told the ready value that was being sent. -/
def FailuresHarmless (d : FrpDevice) (call : FrpCall) : Prop :=
  ∀ e, d.announces call = some e → call.send e = .error .other →
    ∃ c, d.conn = some c ∧ c.told = e.ready

theorem failuresHarmless_of_quiet {d : FrpDevice} {call : FrpCall} (h : d.announces call = none) :
    FailuresHarmless d call := by
  intro e he
  rw [h] at he
  cases he

namespace FrpDevice

variable {ft : Features}

/-! ## What a send does to what the controller has been told -/

theorem delivered_of_conn_none {d : FrpDevice} (h : d.conn = none) : Delivered d := by
  intro c hc
  rw [h] at hc
  cases hc

/-- After a send of the cached telemetry, the controller has been told its ready
value exactly when the send did not fail or it had been told before. -/
theorem sendEnvelope_delivered {env : FrpEnv} {e : Envelope} {d : FrpDevice} {c : Connection}
    (hd : d.Consistent) (he : d.telemetry = some e) (hc : d.conn = some c) :
    Delivered ((sendEnvelope env e).exec d).1 ↔
      (env.send e = .error .other → c.told = e.ready) := by
  rcases hd.ready e he with ⟨hready, htel⟩
  rw [sendEnvelope_exec]
  split
  · -- the send fails, the connection stays: what was told before has to be right already
    rename_i hf
    constructor
    · intro h _
      rw [h c hc (by simp [he]), hready]
    · intro h c' hc' _
      obtain rfl : c = c' := Option.some.inj (hc.symm.trans hc')
      rw [h hf.2, hready]
  · rename_i hf
    -- taken or refused: the telemetry is the last the connection has, or there is none
    have hnot : env.send e ≠ .error .other := fun h => hf ⟨by simp [hc], h⟩
    refine ⟨fun _ h => absurd h hnot, ?_⟩
    intro _
    rcases offer_cases hc env e with ⟨-, hconn, -⟩ | ⟨hconn, -⟩
    · intro c' hc' _
      obtain rfl : c.accept e = c' := Option.some.inj (hconn.symm.trans hc')
      rw [memory_lastReady (offer_memory d env e), Connection.told,
        c.lastTelemetry_accept_telemetry htel]
      exact hready
    · exact delivered_of_conn_none hconn

/-- Telemetry keeps the controller told exactly when its send, if there is one,
does not fail or says what the controller has been told. -/
theorem sendTelemetry_delivered {env : FrpEnv} {ready : Option Bool} {battery : Option UInt8}
    {d : FrpDevice} (h : Delivered d) :
    Delivered ((sendTelemetry env ready battery).exec d).1 ↔
      ∀ e, d.news ready battery = some e → env.send e = .error .other →
        ∃ c, d.conn = some c ∧ c.told = e.ready := by
  unfold news
  rw [sendTelemetry_exec]
  by_cases hs : d.Suppressed ready battery
  · simp [hs, h]
  · rw [if_neg hs]
    cases hc : d.conn with
    | none =>
      -- nobody to tell
      have hconn : (d.reported ready battery).conn = none := hc
      rw [sendEnvelope_exec, if_neg fun hf => by simp [SendFails, hconn] at hf,
        offer_none hconn]
      simp [delivered_of_conn_none hconn]
    | some c =>
      rw [sendEnvelope_delivered (reported_consistent d ready battery) rfl hc]
      simp [hs]

/-- Telemetry whose send fails is an error of the call. -/
theorem sendTelemetry_ok {env : FrpEnv} {ready : Option Bool} {battery : Option UInt8}
    {d d' : FrpDevice} {u : Unit}
    (h : (sendTelemetry env ready battery).exec d = (d', .ok u)) {e : Envelope}
    (he : d.news ready battery = some e) : env.send e ≠ .error .other := by
  intro hfail
  unfold news at he
  split at he
  · cases he
  · rename_i hsend
    obtain rfl := Option.some.inj he
    rcases not_or.1 hsend with ⟨hconn, hs⟩
    have hf : (d.reported ready battery).SendFails env (d.report ready battery) :=
      ⟨Option.isSome_iff_ne_none.2 hconn, hfail⟩
    rw [sendTelemetry_exec, if_neg hs, sendEnvelope_exec, if_pos hf] at h
    cases (Prod.mk.inj h).2

/-- An event of a shot leaves what the controller has been told. -/
theorem offer_shot_delivered {env : FrpEnv} {e : Envelope} (he : e.event.IsShot) {d : FrpDevice}
    (h : Delivered d) : Delivered (d.offer env e) := by
  cases hc : d.conn with
  | none => rwa [offer_none hc]
  | some c =>
    rcases offer_cases hc env e with ⟨-, hconn, -⟩ | ⟨hconn, -⟩
    · intro c' hc' htel
      obtain rfl : c.accept e = c' := Option.some.inj (hconn.symm.trans hc')
      rw [memory_telemetry (offer_memory d env e)] at htel
      rw [memory_lastReady (offer_memory d env e), Connection.told,
        c.lastTelemetry_accept_shot he]
      exact h c hc htel
    · exact delivered_of_conn_none hconn

theorem sendEvents_delivered {env : FrpEnv} {evs : List FrpEvent} (hevs : ∀ ev ∈ evs, ev.IsShot)
    {d : FrpDevice} (h : Delivered d) : Delivered ((sendEvents env evs).exec d).1 := by
  induction evs generalizing d with
  | nil => exact h
  | cons ev rest ih =>
    rw [sendEvents_exec]
    split
    · exact h
    · split
      · exact h
      · have hshot : ev.IsShot := hevs ev (List.mem_cons_self ..)
        exact ih (fun e he => hevs e (List.mem_cons_of_mem _ he))
          (offer_shot_delivered (e := ⟨d.device, ev⟩) hshot h)

theorem handleEvent_delivered {env : FrpEnv} {ev : Event} {d : FrpDevice} (h : Delivered d) :
    Delivered ((handleEvent ft env ev).exec d).1 ↔ FailuresHarmless d (.handleEvent env ev) := by
  cases ev with
  | stateChanged state => exact sendTelemetry_delivered h
  | battery percent _ => exact sendTelemetry_delivered h
  | shot b m =>
    have htel : _ ↔ FailuresHarmless d (.handleEvent env (.shot b m)) :=
      sendTelemetry_delivered (d := d) h
    have hok {d' : FrpDevice} {u : Unit} (hexec : (sendTelemetry env (some false) none).exec d =
        (d', .ok u)) {e : Envelope} (he : d.news (some false) none = some e) :
        env.send e ≠ .error .other :=
      sendTelemetry_ok hexec he
    rw [handleEvent_shot]
    generalize (sendTelemetry env (some false) none).exec d = out at htel hok ⊢
    rcases out with ⟨d', r⟩
    cases r with
    | error e => exact htel
    | ok u =>
      -- the telemetry was not refused with an error, so the condition says nothing
      have hharmless : FailuresHarmless d (.handleEvent env (.shot b m)) := fun e he hfail =>
        absurd hfail (hok rfl he)
      refine ⟨fun _ => hharmless, ?_⟩
      intro _
      have hd' : Delivered d' := htel.2 hharmless
      apply sendEvents_delivered (fun ev hev => shotEvents_isShot hev)
      exact fun c hc ht => hd' c hc ht
  | connected | sensor | clock | alignment =>
    exact ⟨fun _ => failuresHarmless_of_quiet rfl, fun _ => h⟩

theorem pollConnection_delivered {env : FrpEnv} {incoming : Bool} {d : FrpDevice}
    (hd : d.Consistent) (h : Delivered d) :
    Delivered ((pollConnection env incoming).exec d).1 ↔
      FailuresHarmless d (.pollConnection env incoming) := by
  have hannounces : d.announces (.pollConnection env incoming) =
      if d.conn = none ∧ incoming = true then d.telemetry else none := rfl
  rw [pollConnection_exec]
  by_cases hadopt : d.conn = none ∧ incoming = true
  · rw [if_pos hadopt] at hannounces ⊢
    cases ht : d.telemetry with
    | none =>
      refine ⟨fun _ => failuresHarmless_of_quiet (hannounces.trans ht), ?_⟩
      intro _
      exact fun c _ htel => absurd ht htel
    | some e =>
      -- the new connection has been told nothing
      have hcons : d.adopt.Consistent := hd.of_memory rfl rfl
      have hready := (hd.ready e ht).1
      apply (sendEnvelope_delivered hcons ht rfl).trans
      simp [FailuresHarmless, hannounces, ht, hadopt.1, hready, Connection.told,
        Connection.lastTelemetry, Envelope.lastTelemetry, FrpCall.send]
  · rw [if_neg hadopt] at hannounces ⊢
    exact ⟨fun _ => failuresHarmless_of_quiet hannounces, fun _ => h⟩

end FrpDevice

variable {ft : Features}

/-! ## One call and whole runs -/

/-- A call keeps the controller told exactly when the failures of its telemetry
sends are harmless. -/
theorem exec_delivered {d : FrpDevice} (call : FrpCall) (hd : d.Consistent) (h : Delivered d) :
    Delivered (call.exec ft d).1 ↔ FailuresHarmless d call := by
  cases call with
  | handleEvent env ev => exact handleEvent_delivered h
  | sendDeviceInfo env => exact sendTelemetry_delivered h
  | pollConnection env incoming => exact pollConnection_delivered hd h
  | checkController env recv =>
    refine ⟨fun _ => failuresHarmless_of_quiet rfl, ?_⟩
    intro _
    show Delivered ((checkController env recv).exec d).1
    rw [checkController_exec]
    split
    · exact delivered_of_conn_none (lost_conn d env _)
    · exact h
  | setDeviceName name => exact ⟨fun _ => failuresHarmless_of_quiet rfl, fun _ => h⟩
  | setFirmware fw => exact ⟨fun _ => failuresHarmless_of_quiet rfl, fun _ => h⟩
  | setModel model =>
    refine ⟨fun _ => failuresHarmless_of_quiet rfl, ?_⟩
    intro _
    simp only [FrpCall.exec, FrpDevice.setModel]
    split <;> exact h

/-- In a run of calls the connected controller has, after every call, last been
told the ready value the device remembers, exactly when every telemetry send
that ends in an error other than the peer's being gone is on a connection that
has already been told the value that was being sent. -/
theorem delivered_iff (ft : Features) (env : FrpEnv) (calls : List FrpCall) :
    (frpMachine ft).Always Delivered (spawn env) calls ↔
      (frpMachine ft).Meets FailuresHarmless (spawn env) calls := by
  refine (frpMachine ft).always_iff_meets Consistent Delivered
    (fun d call hd => call.exec_consistent hd) (fun d call hd h => exec_delivered call hd h)
    (spawn_consistent env) (delivered_of_conn_none ?_)
  rw [spawn_eq]
  exact requested_conn unconnected env

/-- The connection fails to take the telemetry of the first state change. -/
theorem delivered_fails :
    ¬∀ (ft : Features) (env : FrpEnv) (calls : List FrpCall),
      (frpMachine ft).Always Delivered (spawn env) calls := by
  intro h
  let works : FrpEnv := ⟨fun _ => .ok (), true, 0⟩
  let fails : FrpEnv := ⟨fun _ => .error .other, true, 0⟩
  let calls : List FrpCall := [.sendDeviceInfo works, .pollConnection works true,
    .handleEvent fails (.stateChanged .ready)]
  exact absurd (h ⟨false⟩ works calls calls [] (by simp)) (by decide)

end AllSquare
