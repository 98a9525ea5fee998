import AllSquare.Bridge.Program
import AllSquare.Bridge.Readiness
import AllSquare.Client.Shots
import AllSquare.Frp.Delivery
import AllSquare.Frp.Published

/-! # What controllers learn of the device

The loop reaches its adapter through the adapter's calls alone (`exists_frp_run`), so what
holds of every run of calls holds of the program's adapter. With what the client makes of
the notifications it accepts this says what a controller can learn of the device:

* `program_flights` — the ball flights of all controllers together are those of balls the
  device has reported, in order and each once at most;
* `told_ready_iff` — when a controller believes the device ready;
* `program_introduces` — a controller is sent nothing before the device is identified, and
  then everything under its name, with the firmware and model it was identified by.
-/

namespace AllSquare

/-! ## Balls, shots and flights -/

/-- What a shot says, if the event is one. -/
def Event.shotData : Event → Option (BallMetrics × Option ClubMetrics)
  | .shot ball club => some (ball, club)
  | _ => none

/-- The ball flight an event carries. -/
def FrpEvent.flight : FrpEvent → Option BallFlight
  | .ballFlight _ flight => some flight
  | _ => none

/-- A shot is sent with one flight. -/
theorem Shot.flights (ft : Features) (s : Shot) :
    (s.events ft).filterMap FrpEvent.flight = [Convert.ballFlight s.ball] := by
  unfold events FrpDevice.shotEvents
  cases s.club with
  | none => rfl
  | some club =>
    cases hi : Convert.faceImpact ft club with
    | none =>
      simp only [hi]
      rfl
    | some i =>
      simp only [hi]
      rfl

/-- The balls reported of a notification, and the one that then waits, are among the one
that waited and the notification's. -/
theorem Tracker.hear_balls (report : ClubMetrics → Option ClubMetrics) (t : Tracker)
    (n : Notification) :
    ((t.hear report n).2.toList.flatMap Event.shotBall ++
      (t.hear report n).1.pending.toList).Sublist (t.pending.toList ++ n.ballData) := by
  cases n with
  | ball b => exact List.sublist_append_right t.pending.toList [b]
  | club m =>
    simp only [hear]
    split
    · cases t.pending <;> exact .refl _
    · exact List.sublist_append_left t.pending.toList []
  | heartbeatAck s =>
    simp only [hear]
    split <;> exact List.sublist_append_left t.pending.toList []
  | sensor _ | alignment _ | queryResponse _ | battery _ _ | clock _ =>
    exact List.sublist_append_left t.pending.toList []

/-! ## What a device remembers and a controller has been told -/

namespace FrpDevice

/-- What holds between calls when every send is taken or finds the peer gone. -/
structure Informs (d : FrpDevice) : Prop where
  consistent : d.Consistent
  delivered : Delivered d
  telemetryFirst : d.TelemetryFirst

theorem spawn_informs (env : FrpEnv) : (spawn env).Informs where
  consistent := spawn_consistent env
  delivered := by
    refine delivered_of_conn_none ?_
    rw [spawn_eq]
    exact requested_conn unconnected env
  telemetryFirst := fun _ => spawn_taken env

theorem exec_informs (ft : Features) {d : FrpDevice} (h : d.Informs) {call : FrpCall}
    (hpolite : call.Polite) : (call.exec ft d).1.Informs where
  consistent := call.exec_consistent h.consistent
  delivered := (exec_delivered call h.consistent h.delivered).2 fun e _ hfail =>
    absurd hfail (hpolite e)
  telemetryFirst := exec_telemetryFirst ft h.consistent h.telemetryFirst call

/-- The connected controller has been told ready exactly when that is what the device
remembers. -/
theorem Informs.told_ready {d : FrpDevice} (h : d.Informs) {c : Connection}
    (hc : d.conn = some c) : c.told = some (readyText true) ↔ d.lastReady = some true := by
  by_cases ht : d.telemetry = none
  · -- nothing has been sent, and no ready value is remembered
    have hlast : d.lastReady = none := by
      by_contra hlast
      exact h.consistent.produced hlast ht
    have haccepted : c.accepted = [] := by
      have htaken := h.telemetryFirst ht
      unfold taken at htaken
      rw [connections_some hc, List.flatMap_append] at htaken
      simpa using (List.append_eq_nil_iff.1 htaken).2
    simp [Connection.told, Connection.lastTelemetry, Envelope.lastTelemetry, haccepted, hlast]
  · rw [h.delivered c hc ht]
    rcases d.lastReady with _ | ready
    · decide
    · cases ready <;> decide

end FrpDevice

/-! ## The adapter in the loop -/

namespace Bridge

open Reactive

variable {ft : Features}

/-- The event the poll of a turn returns. -/
def event (ft : Features) (b : Bridge) (env : TurnEnv) : Option Event :=
  if b.running then Reply.event ((Client.poll ft env.poll).exec b.client).2 else none

/-- The adapter after it has been handed an event. -/
def hearing (ft : Features) (env : TurnEnv) (d : FrpDevice) : Event → FrpDevice
  | .connected fw _ _ model =>
    ((FrpDevice.sendDeviceInfo env.frp).exec ((d.setFirmware fw.lm).setModel model)).1
  | ev => ((FrpDevice.handleEvent ft env.frp ev).exec d).1

/-- The adapter after the controller has been looked after. -/
def attended (env : TurnEnv) (d : FrpDevice) : FrpDevice :=
  ((FrpDevice.checkController env.frp env.recv).exec
    ((FrpDevice.pollConnection env.frp env.incoming).exec d).1).1

theorem handle_frp (ft : Features) (b : Bridge) (env : TurnEnv) (ev : Event) :
    (b.handle ft env ev).frp = hearing ft env b.frp ev := by
  cases ev with
  | connected fw hw id model =>
    have hconnected : (b.connected ft env fw model).frp =
        hearing ft env b.frp (.connected fw hw id model) := by
      unfold connected
      generalize ClientOp.exec ft b.client (.arm env.write b.club .advanced) = out
      rcases out with ⟨c, r⟩
      cases r <;> rfl
    simp only [handle]
    -- the adapter makes nothing of the connected event itself
    split <;> exact hconnected
  | stateChanged _ | sensor _ | shot _ _ | battery _ _ | clock _ | alignment _ => rfl

theorem attend_frp (ft : Features) (b : Bridge) (env : TurnEnv) :
    (b.attend ft env).frp = attended env b.frp := by
  unfold attend attended
  dsimp only
  generalize (FrpDevice.checkController env.frp env.recv).exec _ = out
  rcases out with ⟨frp, r⟩
  split
  · rename_i cmd heq
    rcases Prod.mk.inj heq with ⟨rfl, -⟩
    exact applyControllerCommand_frp ft { b with frp := frp } env cmd
  · rename_i heq
    rcases Prod.mk.inj heq with ⟨rfl, -⟩
    rfl

/-- What a turn does to the adapter. -/
theorem iterate_frp (ft : Features) (b : Bridge) (env : TurnEnv) :
    (∃ ev, b.event ft env = some ev ∧ (b.iterate ft env).frp = hearing ft env b.frp ev) ∨
    (b.event ft env = none ∧ ((b.iterate ft env).frp = b.frp ∨
      (b.iterate ft env).frp = attended env b.frp)) := by
  unfold event iterate
  by_cases hrun : b.running = true
  · rw [if_pos hrun, if_pos hrun]
    generalize (Client.poll ft env.poll).exec b.client = out
    rcases out with ⟨c, r⟩
    cases r with
    | error e => exact .inr ⟨rfl, .inl rfl⟩
    | ok ev =>
      cases ev with
      | none => exact .inr ⟨rfl, .inr (attend_frp ft { b with client := c } env)⟩
      | some ev => exact .inl ⟨ev, rfl, handle_frp ft { b with client := c } env ev⟩
  · rw [if_neg hrun, if_neg hrun]
    exact .inr ⟨rfl, .inl rfl⟩

/-- The adapter comes from `d` to `d'` by calls that tell it of the shots `shots` and
send as `env` says. -/
def Says (ft : Features) (env : FrpEnv) (shots : List (BallMetrics × Option ClubMetrics))
    (d d' : FrpDevice) : Prop :=
  ∃ calls : List FrpCall, (frpMachine ft).run d calls = d' ∧
    calls.filterMap FrpCall.shotData = shots ∧ (env.Polite → ∀ call ∈ calls, call.Polite)

theorem Says.refl (env : FrpEnv) (d : FrpDevice) : Says ft env [] d d :=
  ⟨[], rfl, rfl, by simp⟩

theorem Says.trans {env : FrpEnv} {shots shots' : List (BallMetrics × Option ClubMetrics)}
    {d d' d'' : FrpDevice} (h : Says ft env shots d d') (h' : Says ft env shots' d' d'') :
    Says ft env (shots ++ shots') d d'' := by
  rcases h with ⟨calls, rfl, rfl, hpolite⟩
  rcases h' with ⟨calls', rfl, rfl, hpolite'⟩
  refine ⟨calls ++ calls', (frpMachine ft).run_append d calls calls', List.filterMap_append, ?_⟩
  intro henv call hcall
  rcases List.mem_append.1 hcall with hcall | hcall
  · exact hpolite henv call hcall
  · exact hpolite' henv call hcall

/-- One call. -/
theorem says_call {env : FrpEnv} (d : FrpDevice) (call : FrpCall)
    (hpolite : env.Polite → call.Polite) :
    Says ft env call.shotData.toList d (call.exec ft d).1 := by
  refine ⟨[call], rfl, ?_, ?_⟩
  · cases h : call.shotData <;> simp [h]
  · intro henv call' hcall
    obtain rfl := List.mem_singleton.1 hcall
    exact hpolite henv

/-- A call that has no send is polite. -/
theorem polite_of_ok {call : FrpCall} (h : call.send = fun _ => .ok ()) : call.Polite := by
  intro e
  rw [h]
  nofun

theorem hearing_says (ft : Features) (env : TurnEnv) (d : FrpDevice) (ev : Event) :
    Says ft env.frp ev.shotData.toList d (hearing ft env d ev) := by
  cases ev with
  | connected fw hw id model =>
    have hfirmware := @says_call ft env.frp d (.setFirmware fw.lm) fun _ => polite_of_ok rfl
    have hmodel := @says_call ft env.frp (d.setFirmware fw.lm) (.setModel model)
      fun _ => polite_of_ok rfl
    have hinfo := @says_call ft env.frp ((d.setFirmware fw.lm).setModel model)
      (.sendDeviceInfo env.frp) fun henv => henv
    exact hfirmware.trans (hmodel.trans hinfo)
  | shot ball club =>
    exact says_call d (.handleEvent env.frp (.shot ball club)) fun henv => henv
  | stateChanged s => exact says_call d (.handleEvent env.frp (.stateChanged s)) fun henv => henv
  | sensor s => exact says_call d (.handleEvent env.frp (.sensor s)) fun henv => henv
  | battery p s => exact says_call d (.handleEvent env.frp (.battery p s)) fun henv => henv
  | clock t => exact says_call d (.handleEvent env.frp (.clock t)) fun henv => henv
  | alignment a => exact says_call d (.handleEvent env.frp (.alignment a)) fun henv => henv

theorem attended_says (ft : Features) (env : TurnEnv) (d : FrpDevice) :
    Says ft env.frp [] d (attended env d) := by
  have hpoll := @says_call ft env.frp d (.pollConnection env.frp env.incoming) fun henv => henv
  have hcheck := @says_call ft env.frp ((FrpDevice.pollConnection env.frp env.incoming).exec d).1
    (.checkController env.frp env.recv) fun henv => henv
  exact hpoll.trans hcheck

/-- In a turn the adapter is called, told of the shot the poll has returned. -/
theorem iterate_says (ft : Features) (b : Bridge) (env : TurnEnv) :
    Says ft env.frp ((b.event ft env).bind Event.shotData).toList b.frp (b.iterate ft env).frp := by
  rcases iterate_frp ft b env with ⟨ev, hev, hfrp⟩ | ⟨hnone, hfrp | hfrp⟩
  · rw [hev, hfrp]
    exact hearing_says ft env b.frp ev
  · rw [hnone, hfrp]
    exact Says.refl env.frp b.frp
  · rw [hnone, hfrp]
    exact attended_says ft env b.frp

/-- The adapter of the program is one that a run of calls reaches, told of the shots the
polls have returned. -/
theorem exists_frp_run (ft : Features) (now : ℕ) (env : FrpEnv) (name : Text)
    (arg : Option Text) (turns : List TurnEnv) :
    ∃ calls, ((machine ft).run (start now env name arg) turns).frp =
        (frpMachine ft).run (FrpDevice.spawn env) calls ∧
      calls.filterMap FrpCall.shotData =
        ((machine ft).heardAlong (event ft) (start now env name arg) turns).filterMap
          Event.shotData ∧
      ((∀ turn ∈ turns, turn.frp.Polite) → ∀ call ∈ calls, call.Polite) := by
  induction turns using List.reverseRecOn with
  | nil =>
    refine ⟨[.setDeviceName name], rfl, rfl, ?_⟩
    intro _ call hcall
    obtain rfl := List.mem_singleton.1 hcall
    exact polite_of_ok rfl
  | append_singleton turns turn ih =>
    rcases ih with ⟨calls, hrun, hshots, hpolite⟩
    rcases iterate_says ft ((machine ft).run (start now env name arg) turns) turn with
      ⟨calls', hrun', hshots', hpolite'⟩
    refine ⟨calls ++ calls', ?_, ?_, ?_⟩
    · rw [Machine.run_concat, Machine.run_append, ← hrun]
      exact hrun'.symm
    · rw [List.filterMap_append, hshots, hshots', Machine.heardAlong_append,
        List.filterMap_append]
      apply congrArg (_ ++ ·)
      show _ = List.filterMap Event.shotData ((machine ft).heardAlong (event ft) _ [turn])
      rw [Machine.heardAlong_cons]
      cases event ft ((machine ft).run (start now env name arg) turns) turn with
      | none => rfl
      | some ev => cases h : ev.shotData <;> simp [h, Machine.heardAlong]
    · intro hturns call hcall
      rcases List.mem_append.1 hcall with hcall | hcall
      · exact hpolite (fun turn' h => hturns turn' (List.mem_append_left _ h)) call hcall
      · exact hpolite' (hturns turn (by simp)) call hcall

/-! ## Balls and flights -/

/-- The balls reported in a turn, and the one that then waits, are among the one that
waited and the one accepted. -/
theorem iterate_balls (ft : Features) {b : Bridge} (hq : b.client.queue = []) (env : TurnEnv) :
    ((b.event ft env).toList.flatMap Event.shotBall ++
      (b.iterate ft env).client.tracker.pending.toList).Sublist
        (b.client.tracker.pending.toList ++ (b.accepts ft env).toList.flatMap
          Notification.ballData) := by
  unfold event accepts
  by_cases hrun : b.running = true
  · have htracker := (iterate_keeps ft hrun env).1
    rw [if_pos hrun, if_pos hrun, htracker]
    rcases (Client.poll_step ft env.poll b.client).tracker hq with
      ⟨hnone, hsame, hevent⟩ | ⟨n, hn, htr, hevent⟩
    · have hballs : (Reply.event ((Client.poll ft env.poll).exec b.client).2).toList.flatMap
          Event.shotBall = [] := by
        rcases hevent with hevent | hevent
        · rw [hevent]
          rfl
        · exact hevent.tell_eq_nil fun _ _ _ _ => rfl
      rw [hballs, hsame, hnone]
      exact List.sublist_append_left _ _
    · rw [hevent, htr, hn, Option.toList_some, List.flatMap_singleton]
      exact Tracker.hear_balls _ _ n
  · have hstop : b.iterate ft env = b := if_neg hrun
    rw [if_neg hrun, if_neg hrun, hstop]
    exact List.sublist_append_left _ _

/-- The balls of the shots a run reports are among those that it accepts. -/
theorem run_balls (ft : Features) {b : Bridge} (hq : b.client.queue = []) (turns : List TurnEnv) :
    (((machine ft).heardAlong (event ft) b turns).flatMap Event.shotBall).Sublist
      (b.client.tracker.pending.toList ++
        ((machine ft).heardAlong (accepts ft) b turns).flatMap Notification.ballData) := by
  induction turns generalizing b with
  | nil => exact List.nil_sublist _
  | cons env turns ih =>
    have hturn := iterate_balls ft hq env
    have hrest := ih (queue_iterate ft hq env)
    rw [Machine.heardAlong_cons, Machine.heardAlong_cons, List.flatMap_append,
      List.flatMap_append, ← List.append_assoc]
    refine ((List.Sublist.refl _).append hrest).trans ?_
    rw [← List.append_assoc]
    exact hturn.append (.refl _)

theorem shotBall_eq (evs : List Event) :
    evs.flatMap Event.shotBall = (evs.filterMap Event.shotData).map Prod.fst := by
  induction evs with
  | nil => rfl
  | cons ev evs ih =>
    cases ev <;> simp [List.filterMap_cons, Event.shotBall, Event.shotData, ih]

/-- In every run of the program, whatever fails: the ball flights that all its
controllers together have been sent are conversions of balls the client has accepted from
the device, in the order in which it accepted them, and none of these twice. -/
theorem program_flights (ft : Features) (now : ℕ) (env : FrpEnv) (name : Text)
    (arg : Option Text) (turns : List TurnEnv) :
    let s := start now env name arg
    (((machine ft).run s turns).frp.published.filterMap FrpEvent.flight).Sublist
      ((((machine ft).heardAlong (accepts ft) s turns).flatMap Notification.ballData).map
        Convert.ballFlight) := by
  intro s
  rcases exists_frp_run ft now env name arg turns with ⟨calls, hrun, hshots, -⟩
  rcases published_shots ft env calls with ⟨shots, hpublished, -, -, hdata⟩
  have hballs : ((machine ft).heardAlong (event ft) s turns).flatMap Event.shotBall =
      (calls.filterMap FrpCall.shotData).map Prod.fst := by
    rw [shotBall_eq, hshots]
  have hflights : (shots.flatMap (Shot.events ft)).filterMap FrpEvent.flight =
      ((shots.map Shot.data).map Prod.fst).map Convert.ballFlight := by
    rw [List.filterMap_flatMap, List.map_map, List.map_map, List.map_eq_flatMap]
    exact List.flatMap_congr fun s _ => s.flights ft
  rw [hrun]
  refine (hpublished.filterMap FrpEvent.flight).trans ?_
  rw [hflights]
  refine List.Sublist.map Convert.ballFlight ((hdata.map Prod.fst).trans ?_)
  rw [← hballs]
  exact run_balls ft rfl turns

/-! ## Ready -/

/-- In a run of the program whose sends are all taken or find the peer gone, in every
state: the connected controller has last been told that the device is ready exactly when
the last state the device acknowledged is ready and no shot has been completed since the state
changed to that. An acknowledgment that repeats the state changes nothing, after a shot
neither. -/
theorem told_ready_iff (ft : Features) (now : ℕ) (env : FrpEnv) (name : Text)
    (arg : Option Text) (turns : List TurnEnv) (hpolite : ∀ turn ∈ turns, turn.frp.Polite) :
    let b := (machine ft).run (start now env name arg) turns
    let w := Watch.machine.run .init
      ((machine ft).heardAlong (accepts ft) (start now env name arg) turns)
    b.client.state = w.state ∧ ∀ c, b.frp.conn = some c →
      (c.told = some (readyText true) ↔ w.state = some .ready ∧ w.shot = false) := by
  intro b w
  have hagrees : b.Agrees w := by
    refine (machine ft).run_heardAlong (N := Watch.machine) Agrees ?_ ?_
      (agrees_start now env name arg) turns
    · intro b w turn h hnone
      exact (h.quiet hnone).2
    · intro b w turn n h hn
      exact (h.heard_step hn).2
  have hinforms : b.frp.Informs := by
    rcases exists_frp_run ft now env name arg turns with ⟨calls, hrun, -, hcalls⟩
    have hmeets : (frpMachine ft).Meets (fun _ call => call.Polite) (FrpDevice.spawn env) calls :=
      (frpMachine ft).meets_of_forall (hcalls hpolite)
    have hend := (frpMachine ft).run_invariant_of_meets FrpDevice.Informs
      (fun _ call h hcall => FrpDevice.exec_informs ft h hcall) (FrpDevice.spawn_informs env) hmeets
    rwa [← hrun] at hend
  refine ⟨hagrees.heard.state.symm, ?_⟩
  intro c hc
  rw [hinforms.told_ready hc, hagrees.ready]
  unfold Watch.lastReady
  cases w.shot with
  | true => simp
  | false => simp

/-! ## Introduction -/

/-- The model a device is presented as. -/
def modelText (model : Text) : Option Text := if model.isEmpty then none else some model

/-- The device has not been identified, and controllers have been sent nothing. -/
structure Unknown (name : Text) (d : FrpDevice) : Prop where
  device : d.device = name
  model : d.model = none
  telemetry : d.telemetry = none
  taken : d.taken = []

/-- The device has been identified, and controllers are told what it is. -/
structure Known (i : FrpDevice.Identity) (d : FrpDevice) : Prop where
  identity : d.identity = i
  signed : d.Signed

section Introduction

variable {env : TurnEnv} {d : FrpDevice} {name : Text} {i : FrpDevice.Identity}

/-- While there is no telemetry a controller is sent nothing. -/
theorem Unknown.attended (h : Unknown name d) : Unknown name (attended env d) := by
  have hmemory : (Bridge.attended env d).memory = d.memory :=
    (FrpDevice.checkController_memory env.frp env.recv _).trans
      (FrpDevice.pollConnection_memory env.frp env.incoming d)
  refine ⟨?_, ?_, ?_, ?_⟩
  · exact (congrArg FrpDevice.Memory.device hmemory).trans h.device
  · exact (congrArg FrpDevice.Memory.model hmemory).trans h.model
  · exact (congrArg FrpDevice.Memory.telemetry hmemory).trans h.telemetry
  · refine (FrpDevice.checkController_taken env.frp env.recv _).trans ?_
    rw [FrpDevice.pollConnection_exec]
    split
    · rename_i hadopt
      rw [h.telemetry]
      exact (FrpDevice.adopt_taken hadopt.1).trans h.taken
    · exact h.taken

/-- The device is presented to controllers once it has been identified. -/
theorem Unknown.connected (h : Unknown name d) (ft : Features) (fw : Firmware)
    (hw id model : Text) :
    Known ⟨name, modelText model, some fw.lm⟩ (hearing ft env d (.connected fw hw id model)) := by
  have hset : ((d.setFirmware fw.lm).setModel model).identity =
      ⟨name, modelText model, some fw.lm⟩ ∧
      ((d.setFirmware fw.lm).setModel model).telemetry = none ∧
      ((d.setFirmware fw.lm).setModel model).taken = [] := by
    unfold FrpDevice.setModel modelText
    split
    · refine ⟨?_, h.telemetry, h.taken⟩
      show FrpDevice.Identity.mk d.device d.model (some fw.lm) = _
      rw [h.device, h.model]
    · refine ⟨?_, h.telemetry, h.taken⟩
      show FrpDevice.Identity.mk d.device (some model) (some fw.lm) = _
      rw [h.device]
  rcases hset with ⟨hidentity, htelemetry, htaken⟩
  have hsigned : ((d.setFirmware fw.lm).setModel model).Signed := by
    constructor
    · intro e he
      rw [htelemetry] at he
      cases he
    · rw [htaken]
      simp
  exact ⟨(FrpDevice.sendTelemetry_identity env.frp none none _).trans hidentity,
    hsigned.sendTelemetry none none⟩

theorem Known.attended (h : Known i d) : Known i (attended env d) := by
  have hmemory : (Bridge.attended env d).memory = d.memory :=
    (FrpDevice.checkController_memory env.frp env.recv _).trans
      (FrpDevice.pollConnection_memory env.frp env.incoming d)
  refine ⟨(FrpDevice.memory_identity hmemory).trans h.identity, ?_⟩
  exact (h.signed.pollConnection env.incoming).checkController env.recv

theorem Known.hearing (h : Known i d) (ft : Features) {ev : Event}
    (hev : ¬Client.IsConnected (some ev)) : Known i (hearing ft env d ev) := by
  cases ev with
  | connected fw hw id model => exact absurd trivial hev
  | stateChanged _ | sensor _ | shot _ _ | battery _ _ | clock _ | alignment _ =>
    exact ⟨(FrpDevice.handleEvent_identity ft env.frp _ d).trans h.identity,
      h.signed.handleEvent ft _⟩

end Introduction

/-- A known device stays known. -/
theorem iterate_known (ft : Features) {i : FrpDevice.Identity} {b : Bridge}
    (hr : b.client.Reads) (h : Known i b.frp) (env : TurnEnv) :
    (b.iterate ft env).client.Reads ∧ Known i (b.iterate ft env).frp := by
  refine ⟨reads_iterate ft hr env, ?_⟩
  rcases iterate_frp ft b env with ⟨ev, hev, hfrp⟩ | ⟨-, hfrp | hfrp⟩
  · rw [hfrp]
    refine h.hearing ft ?_
    rw [← hev]
    unfold event
    split
    · exact (@ClientOp.exec_active ft b.client hr (.poll env.poll)).1
    · exact id
  · rwa [hfrp]
  · rw [hfrp]
    exact h.attended

/-- A device is unknown until the turn that hears it connected. -/
theorem iterate_unknown (ft : Features) {name : Text} {b : Bridge} (hq : b.client.queue = [])
    (hp : b.client.phase = .connecting) (h : Unknown name b.frp) (env : TurnEnv) :
    (b.event ft env = none ∧ (b.iterate ft env).client.phase = .connecting ∧
      Unknown name (b.iterate ft env).frp) ∨
    ∃ fw hw id model, b.event ft env = some (.connected fw hw id model) ∧
      (b.iterate ft env).client.phase = .active ∧
      Known ⟨name, modelText model, some fw.lm⟩ (b.iterate ft env).frp := by
  by_cases hrun : b.running = true
  · have hstays := iterate_stays ft hrun env
    have hevent : b.event ft env = Reply.event (ClientOp.exec ft b.client (.poll env.poll)).2 :=
      if_pos hrun
    rcases ClientOp.exec_connecting hq hp (.poll env.poll) with
      ⟨hnone, hphase⟩ | ⟨hconnected, hphase⟩
    · rw [← hevent] at hnone
      refine .inl ⟨hnone, hstays.phase.trans hphase, ?_⟩
      rcases iterate_frp ft b env with ⟨ev, hev, -⟩ | ⟨-, hfrp | hfrp⟩
      · simp [hnone] at hev
      · rwa [hfrp]
      · rw [hfrp]
        exact h.attended
    · rw [← hevent] at hconnected
      rcases iterate_frp ft b env with ⟨ev, hev, hfrp⟩ | ⟨hnone, -⟩
      · rw [hev] at hconnected
        cases ev with
        | connected fw hw id model =>
          refine .inr ⟨fw, hw, id, model, hev, hstays.phase.trans hphase, ?_⟩
          rw [hfrp]
          exact h.connected ft fw hw id model
        | stateChanged _ | sensor _ | shot _ _ | battery _ _ | clock _ | alignment _ =>
          exact hconnected.elim
      · rw [hnone] at hconnected
        exact hconnected.elim
  · have hstop : b.iterate ft env = b := if_neg hrun
    rw [hstop]
    exact .inl ⟨if_neg hrun, hp, h⟩

/-- In every run of the program, whatever fails: if anything has been sent to a
controller, the device has been identified; every envelope any controller has accepted
carries the device's name, and all telemetry among them the firmware and, unless it is
empty, the model that it was identified by. -/
theorem program_introduces (ft : Features) (now : ℕ) (env : FrpEnv) (name : Text)
    (arg : Option Text) (turns : List TurnEnv) :
    let s := start now env name arg
    let b := (machine ft).run s turns
    b.frp.taken = [] ∨ ∃ fw hw id model,
      Event.connected fw hw id model ∈ (machine ft).heardAlong (event ft) s turns ∧
      ∀ e ∈ b.frp.taken, FrpDevice.Identity.Signs ⟨name, modelText model, some fw.lm⟩ e := by
  intro s b
  -- the device is unknown, or known as what a turn heard
  have hinv : b.client.queue = [] ∧ ((b.client.phase = .connecting ∧ Unknown name b.frp) ∨
      (b.client.phase = .active ∧ ∃ fw hw id model,
        Event.connected fw hw id model ∈ (machine ft).heardAlong (event ft) s turns ∧
        Known ⟨name, modelText model, some fw.lm⟩ b.frp)) := by
    induction turns using List.reverseRecOn with
    | nil =>
      refine ⟨rfl, .inl ⟨rfl, rfl, ?_, ?_, ?_⟩⟩
      · show (FrpDevice.spawn env).memory.model = none
        rw [FrpDevice.spawn_eq, FrpDevice.requested_memory]
        rfl
      · show (FrpDevice.spawn env).memory.telemetry = none
        rw [FrpDevice.spawn_eq, FrpDevice.requested_memory]
        rfl
      · exact spawn_taken env
    | append_singleton turns turn ih =>
      rcases ih with ⟨hq, hstate⟩
      have hnext : b = ((machine ft).run s turns).iterate ft turn :=
        (machine ft).run_concat s turns turn
      rw [hnext, Machine.heardAlong_append]
      refine ⟨queue_iterate ft hq turn, ?_⟩
      rcases hstate with ⟨hp, hunknown⟩ | ⟨hp, fw, hw, id, model, hmem, hknown⟩
      · rcases iterate_unknown ft hq hp hunknown turn with
          ⟨-, hp', hunknown'⟩ | ⟨fw, hw, id, model, hevent, hp', hknown⟩
        · exact .inl ⟨hp', hunknown'⟩
        · refine .inr ⟨hp', fw, hw, id, model, List.mem_append_right _ ?_, hknown⟩
          rw [Machine.heardAlong_cons, hevent]
          exact List.mem_cons_self
      · rcases iterate_known ft ⟨hq, hp⟩ hknown turn with ⟨hreads, hknown'⟩
        exact .inr ⟨hreads.2, fw, hw, id, model, List.mem_append_left _ hmem, hknown'⟩
  rcases hinv.2 with ⟨-, hunknown⟩ | ⟨-, fw, hw, id, model, hmem, hknown⟩
  · exact .inl hunknown.taken
  · refine .inr ⟨fw, hw, id, model, hmem, ?_⟩
    rw [← hknown.identity]
    exact hknown.signed.taken

end Bridge

end AllSquare
