import AllSquare.Bridge.Commands
import AllSquare.Bridge.Controllers
import AllSquare.Session.Pairing

/-! # A session with the program

The device of a session, the program in its client's place, and the controllers the
program sends to. The device makes shots, processes commands and sends other frames as in
`Session`; a turn of the loop polls the next frame on its way, if it has arrived, and then
tells the controllers or looks after them, with whatever sends, connections and commands of
theirs. Every command to the device is taken, and the link loses nothing.

A shot the program reports is a shot of the session with its own club, as in
`session_shots_paired`; but the club in play changes along the way, and with it the
correction of the vertical impact. So the invariant keeps a session of today's client
(`Deployed.session`), whose past shots are told anew whenever the club changes
(`Inv.recast`), beside what has really been told.

* `shots_published` — what controllers are sent of the shots is of shots of the session;
* `every_shot_published` — when the device makes each shot after the one before it is
  through, and a controller is there to be told, every shot is sent, and nothing else.
-/

namespace AllSquare

open Reactive

/-- The club metrics a shot reports with a club in play. -/
def reportedWith (ft : Features) (club : Option Club) (m : ClubMetrics) : Option ClubMetrics :=
  Client.reported ft { Client.new 0 with activeClub := club } m

/-- A client that has not been given another calibration reports with its club. -/
theorem reported_eq (ft : Features) {c : Client}
    (h : c.impactCalibration = ImpactCalibration.default) :
    c.reported ft = reportedWith ft c.activeClub := by
  funext m
  unfold reportedWith Client.reported Client.calibrated
  rw [h]
  rfl

/-! ## The model -/

/-- A session of the device with the program. -/
structure Deployment (ft : Features) where
  bridge : Bridge
  shots : List (SessionShot ft)
  stale : ClubFrame ft
  served : ℕ
  inbox : List (Flight ft)

inductive DeploymentStep (ft : Features) where
  | shot (s : SessionShot ft)
  | serve
  | emit (f : OtherFrame ft)
  /-- The loop takes a turn; the next frame on its way has `arrived` by then, or not. What
  the poll reads and what becomes of the commands is not `env`'s. -/
  | turn (arrived : Bool) (env : TurnEnv)

namespace Deployment

variable {ft : Features}

/-- The program once it has connected to the device. -/
def start (now : ℕ) (env : FrpEnv) (name : Text) (arg : Option Text) (stale : ClubFrame ft) :
    Deployment ft :=
  ⟨.start now env name arg, [], stale, 0, []⟩

/-- The session of the program's client. -/
def session (s : Deployment ft) : Session ft :=
  ⟨s.bridge.client, s.shots, s.stale, s.served, s.inbox⟩

/-- The device and the link have moved on as in a session. -/
def within (s : Deployment ft) (s' : Session ft) : Deployment ft :=
  ⟨s.bridge, s'.shots, s'.stale, s'.served, s'.inbox⟩

/-- A session in which the client has done nothing. -/
theorem session_within {s : Deployment ft} {s' : Session ft} (h : s'.client = s.bridge.client) :
    (s.within s').session = s' := by
  cases s'
  exact congrArg (Session.mk · _ _ _ _) h.symm

/-- What the turn is told: every command is taken, and the poll reads from the link. -/
def turnEnv (s : Deployment ft) (arrived : Bool) (env : TurnEnv) : TurnEnv :=
  { env with
    poll := s.session.env arrived env.poll.clock env.poll.readCharacteristic env.poll.modelHint
    write := fun _ => .ok () }

/-- The poll of a turn, as a step of the session. -/
def pollStep (arrived : Bool) (env : TurnEnv) : SessionStep ft :=
  .poll arrived env.poll.clock env.poll.readCharacteristic env.poll.modelHint

def step (ft : Features) (s : Deployment ft) : DeploymentStep ft → Deployment ft
  | .shot shot => s.within (s.session.step ft (.shot shot)).1
  | .serve => s.within (s.session.step ft .serve).1
  | .emit f => s.within (s.session.step ft (.emit f)).1
  | .turn arrived env =>
    if s.bridge.running then
      { s.within (s.session.step ft (pollStep arrived env)).1 with
        bridge := s.bridge.iterate ft (s.turnEnv arrived env) }
    else s

/-- Device, link and loop, under any interleaving. -/
def machine (ft : Features) : Machine (Deployment ft) (DeploymentStep ft) Unit where
  step s i := (s.step ft i, ())

/-- The turn a step makes the loop take. -/
def turned (s : Deployment ft) : DeploymentStep ft → Option TurnEnv
  | .turn arrived env => some (s.turnEnv arrived env)
  | .shot _ | .serve | .emit _ => none

/-- The shot a step reports. -/
def reports (s : Deployment ft) (i : DeploymentStep ft) : Option ShotData :=
  ((s.turned i).bind (s.bridge.event ft)).bind Event.shotData

/-- The turns a run makes the loop take. -/
def turns (ft : Features) (s : Deployment ft) (ops : List (DeploymentStep ft)) : List TurnEnv :=
  (machine ft).heardAlong turned s ops

/-- The shot a step makes. -/
def made : DeploymentStep ft → Option (SessionShot ft)
  | .shot shot => some shot
  | .serve | .emit _ | .turn _ _ => none

theorem step_shots (s : Deployment ft) (i : DeploymentStep ft) :
    (s.step ft i).shots = s.shots ++ (made i).toList := by
  cases i with
  | shot shot => rfl
  | emit f => exact (List.append_nil _).symm
  | serve =>
    show (s.session.step ft .serve).1.shots = s.shots ++ []
    rw [List.append_nil]
    unfold Session.step
    dsimp only
    split <;> rfl
  | turn arrived env =>
    show _ = s.shots ++ []
    rw [List.append_nil]
    unfold step
    dsimp only
    split <;> rfl

theorem run_shots (s : Deployment ft) (ops : List (DeploymentStep ft)) :
    ((machine ft).run s ops).shots = s.shots ++ ops.filterMap made := by
  induction ops generalizing s with
  | nil => exact (List.append_nil _).symm
  | cons i ops ih =>
    have hrest := ih (s.step ft i)
    rw [step_shots, List.append_assoc] at hrest
    rw [Machine.run_cons]
    refine hrest.trans ?_
    cases h : made i <;> simp [h]

theorem turn_bridge (s : Deployment ft) (arrived : Bool) (env : TurnEnv) :
    (s.step ft (.turn arrived env)).bridge = s.bridge.iterate ft (s.turnEnv arrived env) := by
  unfold step
  dsimp only
  split
  · rfl
  · rename_i hrun
    exact (if_neg hrun).symm

theorem refines_bridge (ft : Features) :
    (machine ft).Refines (Bridge.machine ft) (fun _ => True) (fun _ _ => True) bridge turned
      (fun _ => ([] : List Unit)) fun _ => [] where
  inv := fun _ _ _ _ => trivial
  quiet := by
    rintro s i - - hnone
    cases i with
    | shot | serve | emit => exact ⟨rfl, rfl⟩
    | turn arrived env => cases hnone
  heard := by
    rintro s i k - - hk
    cases i with
    | shot | serve | emit => cases hk
    | turn arrived env =>
      obtain rfl := Option.some.inj hk
      exact ⟨turn_bridge s arrived env, rfl⟩

/-- The loop takes its turns as in the program. -/
theorem run_bridge (ft : Features) (s : Deployment ft) (ops : List (DeploymentStep ft)) :
    ((machine ft).run s ops).bridge = (Bridge.machine ft).run s.bridge (turns ft s ops) :=
  (refines_bridge ft).run_eq trivial ((machine ft).meets_of_forall fun _ _ => trivial)

/-- The shots reported are those the adapter is told of. -/
theorem reports_bridge (ft : Features) (s : Deployment ft) (ops : List (DeploymentStep ft)) :
    ((Bridge.machine ft).heardAlong (Bridge.event ft) s.bridge (turns ft s ops)).filterMap
        Event.shotData =
      (machine ft).heardAlong reports s ops := by
  have hevents : (Bridge.machine ft).heardAlong (Bridge.event ft) s.bridge (turns ft s ops) =
      (machine ft).heardAlong (fun s i => (s.turned i).bind (s.bridge.event ft)) s ops :=
    (refines_bridge ft).heardAlong_eq (Bridge.event ft) trivial
      ((machine ft).meets_of_forall fun _ _ => trivial)
  rw [hevents]
  exact ((machine ft).heardAlong_bind (fun s i => (s.turned i).bind (s.bridge.event ft))
    Event.shotData s ops).symm

end Deployment

/-! ## The client between its polls -/

theorem ClientOp.CallStep.asked {c c' : Client} {op : ClientOp} {r : Reply}
    (h : CallStep c op c' r) : c.Asked c' := by
  cases h with
  | sent | refused | selected | unselected | unarmed => exact Client.asked_wrote rfl rfl
  | armed write club spin | undetected write club spin =>
    have hselected : c.Asked (ClientOp.selected c club) := Client.asked_wrote rfl rfl
    exact hselected.trans (Client.asked_wrote rfl rfl)
  | handed | calibrated => exact Client.asked_of_eq rfl id

namespace Bridge

variable {ft : Features} {c c' : Client}

theorem Calls.asked (h : Calls ft c c') : c.Asked c' := by
  rcases h with ⟨ops, hops, rfl⟩
  exact (clientMachine ft).run_invariant_of_meets c.Asked
    (fun c' op h hop => h.trans (ClientOp.call_step ft c' op hop).asked)
    (Client.asked_of_eq rfl id) ((clientMachine ft).meets_of_forall hops)

theorem Calls.lastRx (h : Calls ft c c') : c'.lastRx = c.lastRx := by
  refine h.eq Client.lastRx fun c op hop => ?_
  have hstep := ClientOp.call_step ft c op hop
  generalize op.exec ft c = out at hstep ⊢
  rcases out with ⟨c', r⟩
  cases hstep <;> rfl

theorem Calls.tracker (h : Calls ft c c') : c'.tracker = c.tracker :=
  h.eq Client.tracker fun c op hop => (ClientOp.exec_other ft c op hop).1

/-- The program does not calibrate its client. -/
theorem Drives.impactCalibration {n : ℕ} (h : Drives ft n c c') :
    c'.impactCalibration = c.impactCalibration := by
  rcases h with ⟨ops, hops, -, rfl⟩
  refine (clientMachine ft).run_invariant_of_meets (·.impactCalibration = c.impactCalibration)
    ?_ rfl ((clientMachine ft).meets_of_forall hops)
  intro c' op heq hop
  refine Eq.trans ?_ heq
  rcases op.other_or_poll with hother | ⟨env, rfl⟩
  · have hstep := ClientOp.call_step ft c' op hother
    show (op.exec ft c').1.impactCalibration = c'.impactCalibration
    generalize op.exec ft c' = out at hstep ⊢
    rcases out with ⟨c'', r⟩
    cases hstep with
    | calibrated => exact hop.elim
    | _ => rfl
  · have hconfig := (Client.poll_step ft env c').config
    exact congrArg Client.Config.impactCalibration hconfig

end Bridge

namespace Session

variable {ft : Features} {report : ClubMetrics → Option ClubMetrics} {s : Session ft}
  {told : List ShotData} {cur : ℕ} {is : List ℕ}

/-- The shots that have been told can be told anew, in another way. -/
theorem Attributed.retell {shots : List (SessionShot ft)} (h : Attributed report shots told is)
    (report' : ClubMetrics → Option ClubMetrics) : ∃ told', Attributed report' shots told' is := by
  have hagain : ∃ told', List.Forall₂ (Tells report' shots) told' is := by
    have htells := h.tells
    clear h
    induction htells with
    | nil => exact ⟨[], .nil⟩
    | cons ht _ ih =>
      rcases ih with ⟨told', h'⟩
      rcases ht with ⟨shot, hshot, -⟩
      exact ⟨shot.data report' :: told', .cons ⟨shot, hshot, rfl⟩ h'⟩
  rcases hagain with ⟨told', h'⟩
  exact ⟨told', h.increasing, h'⟩

/-- The client has been called between its polls, and may report in another way. -/
theorem Inv.recast (h : Inv report s told cur is) {c' : Client}
    (hcalls : Bridge.Calls ft s.client c') :
    ∃ told', Inv (c'.reported ft) { s with client := c' } told' cur is := by
  rcases h.attributed.retell (c'.reported ft) with ⟨told', htold⟩
  refine ⟨told', ?_, rfl, ?_, htold, ?_, ?_, ?_⟩
  · exact hcalls.stays.queue.trans h.queue
  · rcases hcalls.asked with ⟨sent, hw, -⟩
    show s.served ≤ c'.written.length
    rw [hw, List.length_append]
    exact Nat.le_add_right_of_le h.served_le
  · show Knows s.shots cur is c'.lastRx c'.tracker
    rw [hcalls.lastRx, hcalls.tracker]
    exact h.knows
  · show Ahead s.shots s.stale cur c'.lastRx s.inbox s.shots.length
    rw [hcalls.lastRx]
    exact h.ahead
  · exact h.asked_of hcalls.asked fun fl hfl _ _ => hfl

end Session

/-! ## The invariant -/

theorem shotOf_eq (ev : Option Event) : shotOf ev = (ev.bind Event.shotData).toList := by
  cases ev with
  | none => rfl
  | some ev => cases ev <;> rfl

namespace Deployment

variable {ft : Features}

/-- `t` is what is said of a shot with some club in play. -/
def Reports (t : ShotData) (shot : SessionShot ft) : Prop :=
  ∃ club, t = shot.data (reportedWith ft club)

/-- `t` is what is said of shot `i`. -/
def Told (shots : List (SessionShot ft)) (t : ShotData) (i : ℕ) : Prop :=
  ∃ shot, Session.shotAt shots i = some shot ∧ Reports t shot

theorem Told.append {shots : List (SessionShot ft)} {t : ShotData} {i : ℕ} (h : Told shots t i)
    (new : SessionShot ft) : Told (shots ++ [new]) t i := by
  rcases h with ⟨shot, hshot, hclub⟩
  exact ⟨shot, Session.shotAt_append hshot, hclub⟩

/-- Only shots that were made are told of. -/
theorem bounds_of_told {shots : List (SessionShot ft)} {told : List ShotData} {is : List ℕ}
    (h : List.Forall₂ (Told shots) told is) : ∀ i ∈ is, 0 < i ∧ i ≤ shots.length := by
  induction h with
  | nil => simp
  | @cons t i told is ht _ ih =>
    intro j hj
    rcases List.mem_cons.1 hj with rfl | hj
    · rcases ht with ⟨shot, hshot, -⟩
      cases j with
      | zero => cases hshot
      | succ j => exact ⟨Nat.succ_pos j, (List.getElem?_eq_some_iff.1 hshot).1⟩
    · exact ih j hj

/-- What is told of shots of increasing indices is told of a part of the shots. -/
theorem sublistForall₂_of_told {shots : List (SessionShot ft)} {told : List ShotData}
    {is : List ℕ} (htold : List.Forall₂ (Told shots) told is) (hinc : is.Pairwise (· < ·)) (k : ℕ)
    (hk : ∀ i ∈ is, k < i) : List.SublistForall₂ Reports told (shots.drop k) := by
  induction htold generalizing k with
  | nil => exact .nil
  | @cons t i told is ht _ ih =>
    rcases ht with ⟨shot, hshot, hreports⟩
    rcases List.pairwise_cons.1 hinc with ⟨hlt, hinc'⟩
    have hki := hk i (List.mem_cons_self ..)
    cases i with
    | zero => cases hshot
    | succ i =>
      -- the shot stands first among those from its index on
      rcases List.getElem?_eq_some_iff.1 hshot with ⟨hi, rfl⟩
      have hrest : List.SublistForall₂ Reports (t :: told) (shots.drop i) := by
        rw [List.drop_eq_getElem_cons hi]
        exact .cons hreports (ih hinc' (i + 1) hlt)
      rcases List.sublistForall₂_iff.1 hrest with ⟨l, hl, hsub⟩
      refine List.sublistForall₂_iff.2 ⟨l, hl, hsub.trans ?_⟩
      exact List.drop_sublist_drop_left shots (Nat.lt_succ_iff.1 hki)

/-- The invariant: `told` is what has been reported so far, of the shots `is`. -/
structure Inv (s : Deployment ft) (told : List ShotData) (is : List ℕ) : Prop where
  calibration : s.bridge.client.impactCalibration = ImpactCalibration.default
  tells : List.Forall₂ (Told s.shots) told is
  session : ∃ told' cur, Session.Inv (s.bridge.client.reported ft) s.session told' cur is

theorem inv_start (now : ℕ) (env : FrpEnv) (name : Text) (arg : Option Text)
    (stale : ClubFrame ft) : (start now env name arg stale).Inv [] [] where
  calibration := rfl
  tells := .nil
  session := ⟨[], 0, Session.inv_init now stale⟩

section Steps

variable {s : Deployment ft} {told : List ShotData} {is : List ℕ}

theorem Inv.shot (h : s.Inv told is) (shot : SessionShot ft) :
    (s.step ft (.shot shot)).Inv told is where
  calibration := h.calibration
  tells := h.tells.imp fun _ _ ht => ht.append shot
  session := by
    rcases h.session with ⟨told', cur, hs⟩
    exact ⟨told', cur, hs.shot shot⟩

theorem Inv.emit (h : s.Inv told is) (f : OtherFrame ft) : (s.step ft (.emit f)).Inv told is where
  calibration := h.calibration
  tells := h.tells
  session := by
    rcases h.session with ⟨told', cur, hs⟩
    exact ⟨told', cur, hs.emit f⟩

theorem Inv.serve (h : s.Inv told is) : (s.step ft .serve).Inv told is := by
  have hclient : (s.session.step ft .serve).1.client = s.bridge.client := by
    unfold Session.step
    dsimp only
    split <;> rfl
  have hsession : (s.step ft .serve).session = (s.session.step ft .serve).1 :=
    session_within hclient
  refine ⟨h.calibration, ?_, ?_⟩
  · rw [step_shots]
    show List.Forall₂ (Told (s.shots ++ [])) told is
    rw [List.append_nil]
    exact h.tells
  · rcases h.session with ⟨told', cur, hs⟩
    rw [hsession]
    exact ⟨told', cur, hs.serve⟩

/-- A turn may report the next shot. -/
theorem Inv.turn (h : s.Inv told is) (arrived : Bool) (env : TurnEnv) :
    ∃ new, (s.step ft (.turn arrived env)).Inv
      (told ++ (s.reports (.turn arrived env)).toList) (is ++ new) := by
  by_cases hrun : s.bridge.running = true
  · rcases h.session with ⟨told', cur, hs⟩
    rcases hs.poll_append arrived env.poll.clock env.poll.readCharacteristic env.poll.modelHint with
      ⟨cur', new, hs', htells⟩
    have hstep : s.step ft (.turn arrived env) =
        { s.within (s.session.step ft (pollStep arrived env)).1 with
          bridge := s.bridge.iterate ft (s.turnEnv arrived env) } := if_pos hrun
    -- the poll of the session is the poll of the turn
    have hpoll := Client.poll_step ft (s.turnEnv arrived env).poll s.bridge.client
    have hcalls : Bridge.Calls ft (s.session.step ft (pollStep arrived env)).1.client
        (s.bridge.iterate ft (s.turnEnv arrived env)).client :=
      Bridge.iterate_calls ft hrun (s.turnEnv arrived env)
    have hevent : (s.reports (.turn arrived env)).toList =
        shotOf ((s.session.step ft (pollStep arrived env)).2.bind Reply.event) := by
      rw [shotOf_eq]
      unfold reports Bridge.event
      show ((if s.bridge.running = true then _ else none : Option Event).bind
        Event.shotData).toList = _
      rw [if_pos hrun]
      rfl
    rcases hs'.recast hcalls with ⟨told'', hs''⟩
    refine ⟨new, ?_, ?_, ?_⟩
    · rw [hstep]
      have hdrives := (Bridge.iterate_drives ft hrun (s.turnEnv arrived env)).1
      refine hdrives.impactCalibration.trans (Eq.trans ?_ h.calibration)
      exact congrArg Client.Config.impactCalibration hpoll.config
    · rw [hstep, hevent]
      refine List.rel_append h.tells (htells.imp ?_)
      rintro t i ⟨shot, hshot, rfl⟩
      refine ⟨shot, hshot, s.bridge.client.activeClub, ?_⟩
      rw [reported_eq ft h.calibration]
    · rw [hstep]
      exact ⟨told'', cur', hs''⟩
  · have hstop : s.step ft (.turn arrived env) = s := if_neg hrun
    have hnone : s.reports (.turn arrived env) = none := by
      unfold reports Bridge.event
      show ((if s.bridge.running = true then _ else none : Option Event).bind Event.shotData) = _
      rw [if_neg hrun]
      rfl
    rw [hstop, hnone]
    refine ⟨[], ?_⟩
    rw [Option.toList_none, List.append_nil, List.append_nil]
    exact h

/-- One step. -/
theorem Inv.step (h : s.Inv told is) (i : DeploymentStep ft) :
    ∃ new, (s.step ft i).Inv (told ++ (s.reports i).toList) (is ++ new) := by
  have hsilent {s' : Deployment ft} (h' : s'.Inv told is) :
      ∃ new, s'.Inv (told ++ []) (is ++ new) :=
    ⟨[], by rwa [List.append_nil, List.append_nil]⟩
  cases i with
  | shot shot => exact hsilent (h.shot shot)
  | serve => exact hsilent h.serve
  | emit f => exact hsilent (h.emit f)
  | turn arrived env => exact h.turn arrived env

/-- A whole run. -/
theorem Inv.run (h : s.Inv told is) (ops : List (DeploymentStep ft)) :
    ∃ new, ((machine ft).run s ops).Inv (told ++ (machine ft).heardAlong reports s ops)
      (is ++ new) := by
  induction ops generalizing s told is with
  | nil =>
    refine ⟨[], ?_⟩
    show s.Inv (told ++ []) (is ++ [])
    rwa [List.append_nil, List.append_nil]
  | cons i ops ih =>
    rcases h.step i with ⟨new, h'⟩
    rcases ih h' with ⟨new', h''⟩
    refine ⟨new ++ new', ?_⟩
    rw [Machine.heardAlong_cons, ← List.append_assoc, ← List.append_assoc]
    exact h''

end Steps

/-! ## What controllers are sent -/

/-- The parts of a list that stands in a relation stand in it. -/
theorem exists_sublist_of_forall₂ {α β : Type} {R : α → β → Prop} {l l' : List α} {m : List β}
    (hsub : l'.Sublist l) (h : List.Forall₂ R l m) :
    ∃ m', m'.Sublist m ∧ List.Forall₂ R l' m' := by
  induction hsub generalizing m with
  | slnil =>
    cases h
    exact ⟨[], .slnil, .nil⟩
  | cons a _ ih =>
    cases h with
    | cons _ hrest =>
      rcases ih hrest with ⟨m', hm, h'⟩
      exact ⟨m', hm.cons _, h'⟩
  | cons_cons a _ ih =>
    cases h with
    | cons hab hrest =>
      rcases ih hrest with ⟨m', hm, h'⟩
      exact ⟨_, hm.cons_cons _, .cons hab h'⟩

/-- What has been reported is told of a part of the shots. -/
theorem Inv.sublistForall₂ {s : Deployment ft} {told : List ShotData} {is : List ℕ}
    (h : s.Inv told is) : List.SublistForall₂ Reports told s.shots := by
  rcases h.session with ⟨told', cur, hs⟩
  exact sublistForall₂_of_told h.tells hs.attributed.increasing 0 fun i hi =>
    (bounds_of_told h.tells i hi).1

/-- In every interleaving of the device's shots, its other frames, its processing of
commands and the turns of the loop, whatever the controllers ask for and whatever becomes of
connections and sends, as long as every command to the device is taken and the link loses
nothing either way: what all controllers together have been sent of the shots is, in
order and each event once at most, what some numbered shots are sent as. These are shots of
the session in the order in which they were made, none of them twice, each with its own ball
and its own club. -/
theorem shots_published (ft : Features) (now : ℕ) (env : FrpEnv) (name : Text)
    (arg : Option Text) (stale : ClubFrame ft) (ops : List (DeploymentStep ft)) :
    let s := (machine ft).run (start now env name arg stale) ops
    ∃ shots : List Shot, s.bridge.frp.published.Sublist (shots.flatMap (Shot.events ft)) ∧
      shots.map (fun shot => shot.key.shotNumber) =
        (List.range shots.length).map (fun i => UInt32.ofNat (i + 1)) ∧
      List.SublistForall₂ (fun shot made => Reports shot.data made) shots s.shots := by
  intro s
  rcases (inv_start now env name arg stale).run ops with ⟨is, hinv⟩
  rw [List.nil_append, List.nil_append] at hinv
  rcases Bridge.exists_frp_run ft now env name arg
    (turns ft (start now env name arg stale) ops) with ⟨calls, hrun, hshots, -⟩
  rcases published_shots ft env calls with ⟨shots, hpublished, hnumbers, -, hdata⟩
  have hreports : calls.filterMap FrpCall.shotData =
      (machine ft).heardAlong reports (start now env name arg stale) ops :=
    hshots.trans (reports_bridge ft (start now env name arg stale) ops)
  rw [hreports] at hdata
  have hfrp : s.bridge.frp = (frpMachine ft).run (FrpDevice.spawn env) calls :=
    (congrArg Bridge.frp (run_bridge ft (start now env name arg stale) ops)).trans hrun
  refine ⟨shots, ?_, hnumbers, ?_⟩
  · rw [hfrp]
    exact hpublished
  · rcases List.sublistForall₂_iff.1 hinv.sublistForall₂ with ⟨l, hl, hsub⟩
    rcases exists_sublist_of_forall₂ hdata hl with ⟨l', hl', htold⟩
    rw [List.forall₂_map_left_iff] at htold
    exact List.sublistForall₂_iff.2 ⟨l', htold, hl'.trans hsub⟩

/-! ## Calm runs -/

/-- No command that asks for a club and no frame is on its way. -/
def Quiet (s : Deployment ft) : Prop :=
  s.inbox = [] ∧ ∀ w ∈ s.session.commandsInFlight, ¬w.IsRequest

/-- The device makes a shot when the one before it is through, sends are taken, and a shot
is reported when a controller is connected. -/
def Calm (s : Deployment ft) : DeploymentStep ft → Prop
  | .shot _ => s.Quiet
  | .turn arrived env => (∀ e, env.frp.send e = .ok ()) ∧
      (s.reports (.turn arrived env) ≠ none → s.bridge.frp.conn.isSome)
  | .serve | .emit _ => True

section Calm

variable {s : Deployment ft} {told : List ShotData} {is : List ℕ}

/-- In a quiet session the last shot has been reported. -/
theorem Inv.last_mem (h : s.Inv told is) (hquiet : s.Quiet) (hpos : 0 < s.shots.length) :
    s.shots.length ∈ is := by
  rcases h.session with ⟨told', cur, hs⟩
  have hnone : s.bridge.client.pendingShot = none := (hs.quiet hquiet.1 hquiet.2).1
  have hawait : s.session.client.tracker.awaiting = false := by
    have hpaired : s.session.client.tracker.awaiting = s.bridge.client.pendingShot.isSome :=
      hs.knows.paired
    rw [hpaired, hnone]
    rfl
  -- the client has taken in all that was sent
  have hcur : cur = s.shots.length := by
    have hahead := hs.ahead
    rw [show s.session.inbox = [] from hquiet.1] at hahead
    cases hahead with
    | stream hstream =>
      cases hstream
      rfl
  have hlast := hs.knows.free hawait (by omega)
  rw [hcur] at hlast
  exact List.mem_of_getLast? hlast

/-- All shots but the last have been reported. -/
def AllBut (s : Deployment ft) (is : List ℕ) : Prop := ∀ i, 0 < i → i < s.shots.length → i ∈ is

/-- In a quiet session in which all shots but the last have been reported, all have. -/
theorem Inv.all_of_quiet (h : s.Inv told is) (hquiet : s.Quiet) (hall : s.AllBut is) :
    List.Forall₂ Reports told s.shots := by
  rcases h.session with ⟨told', cur, hs⟩
  rcases List.sublistForall₂_iff.1 h.sublistForall₂ with ⟨l, hl, hsub⟩
  have hmem : List.range' 1 s.shots.length ⊆ is := by
    intro i hi
    rw [List.mem_range'_1] at hi
    by_cases hlast : i = s.shots.length
    · rw [hlast]
      exact h.last_mem hquiet (by omega)
    · exact hall i (by omega) (by omega)
  have hlength := (List.subperm_of_subset List.nodup_range' hmem).length_le
  rw [List.length_range', ← h.tells.length_eq, hl.length_eq] at hlength
  rwa [hsub.eq_of_length_le hlength] at hl

theorem Inv.allBut_step (h : s.Inv told is) {i : DeploymentStep ft} (hcalm : s.Calm i)
    (hall : s.AllBut is) {new : List ℕ} : (s.step ft i).AllBut (is ++ new) := by
  intro j hpos hlt
  rw [step_shots, List.length_append] at hlt
  refine List.mem_append_left new ?_
  cases i with
  | shot shot =>
    have hlt : j < s.shots.length + 1 := hlt
    by_cases hj : j = s.shots.length
    · rw [hj]
      exact h.last_mem hcalm (by omega)
    · exact hall j hpos (by omega)
  | serve | emit f | turn arrived env => exact hall j hpos hlt

/-- The adapter has sent the whole of every shot it was told of, and no more. -/
def Complete (ft : Features) (d : FrpDevice) (told : List ShotData) : Prop :=
  ∃ shots : List Shot, d.published = shots.flatMap (Shot.events ft) ∧
    shots.map Shot.data = told ∧ d.shotNumber = UInt32.ofNat shots.length ∧
    shots.map (fun shot => shot.key.shotNumber) =
      (List.range shots.length).map fun i => UInt32.ofNat (i + 1)

theorem complete_spawn (ft : Features) (env : FrpEnv) (name : Text) :
    Complete ft ((FrpDevice.spawn env).setDeviceName name) [] := by
  refine ⟨[], ?_, rfl, ?_, rfl⟩
  · have htaken : ((FrpDevice.spawn env).setDeviceName name).taken = (FrpDevice.spawn env).taken :=
      FrpDevice.taken_congr rfl rfl
    unfold FrpDevice.published
    rw [htaken, spawn_taken]
    rfl
  · show (FrpDevice.spawn env).shotNumber = 0
    rw [FrpDevice.spawn_eq]
    exact FrpDevice.memory_shotNumber (FrpDevice.requested_memory FrpDevice.unconnected env)

/-- A turn in which every send is taken keeps the adapter complete. -/
theorem Complete.iterate {b : Bridge} {env : TurnEnv} (hb : b.frp.Consistent)
    (h : Complete ft b.frp told) (hsend : ∀ e, env.frp.send e = .ok ())
    (hconn : (b.event ft env).bind Event.shotData ≠ none → b.frp.conn.isSome) :
    Complete ft (b.iterate ft env).frp (told ++ ((b.event ft env).bind Event.shotData).toList) := by
  rcases h with ⟨shots, hpublished, hdata, hnumber, hnumbers⟩
  cases hevent : (b.event ft env).bind Event.shotData with
  | none =>
    rcases Bridge.iterate_says ft b env with ⟨calls, hrun, hshots, -⟩
    rw [hevent] at hshots
    have hquiet : ∀ call ∈ calls, call.shotData = none := by
      intro call hcall
      by_contra hne
      rcases Option.ne_none_iff_exists'.1 hne with ⟨x, hx⟩
      have hmem : x ∈ calls.filterMap FrpCall.shotData := List.mem_filterMap.2 ⟨call, hcall, hx⟩
      rw [hshots] at hmem
      cases hmem
    rcases FrpDevice.run_quiet ft hb hquiet with ⟨hsame, hsame'⟩
    rw [← hrun, Option.toList_none, List.append_nil]
    exact ⟨shots, hsame.trans hpublished, hdata, hsame'.trans hnumber, hnumbers⟩
  | some x =>
    rcases Option.bind_eq_some_iff.1 hevent with ⟨ev, hev, hx⟩
    rw [hevent] at hconn
    have hsome := hconn (Option.some_ne_none x)
    cases ev with
    | shot ball club =>
      obtain rfl : (ball, club) = x := Option.some.inj hx
      rcases Bridge.iterate_frp ft b env with ⟨ev', hev', hfrp⟩ | ⟨hnone, -⟩
      · obtain rfl := Option.some.inj (hev'.symm.trans hev)
        rcases FrpDevice.handleEvent_published ft hsend hsome ball club with
          ⟨shot, hshot, hkey, hnext, hall⟩
        have hcount : b.frp.shotNumber + 1 = UInt32.ofNat (shots ++ [shot]).length := by
          rw [hnumber, List.length_append, UInt32.ofNat_add]
          rfl
        rw [hfrp]
        refine ⟨shots ++ [shot], ?_, ?_, hnext.trans hcount, ?_⟩
        · rw [List.flatMap_append, List.flatMap_singleton, ← hpublished]
          exact hall
        · rw [List.map_append, hdata, List.map_singleton, hshot]
          rfl
        · have hlength : (shots ++ [shot]).length = shots.length + 1 := List.length_append
          rw [hlength] at hcount ⊢
          rw [List.map_append, hnumbers, List.range_succ, List.map_append, List.map_singleton,
            List.map_singleton, hkey, hcount]
      · rw [hev] at hnone
        cases hnone
    | connected | stateChanged | sensor | battery | clock | alignment => cases hx

/-- What is kept along a calm run. -/
structure Kept (s : Deployment ft) (told : List ShotData) (is : List ℕ) : Prop where
  inv : s.Inv told is
  allBut : s.AllBut is
  consistent : s.bridge.frp.Consistent
  complete : Complete ft s.bridge.frp told

theorem Kept.step (h : s.Kept told is) {i : DeploymentStep ft} (hcalm : s.Calm i) :
    ∃ new, (s.step ft i).Kept (told ++ (s.reports i).toList) (is ++ new) := by
  rcases h.inv.step i with ⟨new, hinv⟩
  have hfrp : (s.step ft i).bridge.frp.Consistent ∧
      Complete ft (s.step ft i).bridge.frp (told ++ (s.reports i).toList) := by
    have hsame : s.bridge.frp.Consistent ∧ Complete ft s.bridge.frp (told ++ []) := by
      rw [List.append_nil]
      exact ⟨h.consistent, h.complete⟩
    cases i with
    | shot | serve | emit => exact hsame
    | turn arrived env =>
      rw [turn_bridge]
      refine ⟨?_, h.complete.iterate h.consistent hcalm.1 hcalm.2⟩
      rcases Bridge.iterate_says ft s.bridge (s.turnEnv arrived env) with ⟨calls, hrun, -⟩
      rw [← hrun]
      exact (frpMachine ft).run_invariant FrpDevice.Consistent
        (fun _ call h => call.exec_consistent h) calls h.consistent
  exact ⟨new, hinv, h.inv.allBut_step hcalm h.allBut, hfrp.1, hfrp.2⟩

theorem Kept.run (h : s.Kept told is) {ops : List (DeploymentStep ft)}
    (hcalm : (machine ft).Meets Calm s ops) :
    ∃ told' is', ((machine ft).run s ops).Kept told' is' := by
  induction ops generalizing s told is with
  | nil => exact ⟨told, is, h⟩
  | cons i ops ih =>
    rcases h.step hcalm.1 with ⟨new, h'⟩
    exact ih h' hcalm.2

end Calm

/-- When every command to the device is taken and the link loses nothing either way, the
device makes each shot after the one before it is through, a controller is connected whenever
a shot is reported, and no send to it fails: once the last shot is through as
well, controllers have been sent every shot of the session, each once and whole, in the
order in which they were made, with its own ball and its own club, numbered from one on; and
of shots they have been sent nothing else. -/
theorem every_shot_published (ft : Features) (now : ℕ) (env : FrpEnv) (name : Text)
    (arg : Option Text) (stale : ClubFrame ft) (ops : List (DeploymentStep ft))
    (hcalm : (machine ft).Meets Calm (start now env name arg stale) ops)
    (hquiet : ((machine ft).run (start now env name arg stale) ops).Quiet) :
    let s := (machine ft).run (start now env name arg stale) ops
    ∃ shots : List Shot, s.bridge.frp.published = shots.flatMap (Shot.events ft) ∧
      shots.map (fun shot => shot.key.shotNumber) =
        (List.range shots.length).map (fun i => UInt32.ofNat (i + 1)) ∧
      List.Forall₂ (fun shot made => Reports shot.data made) shots s.shots := by
  intro s
  have hstart : (start now env name arg stale).Kept [] [] := by
    refine ⟨inv_start now env name arg stale, ?_, ?_, complete_spawn ft env name⟩
    · intro i hpos hlt
      exact absurd hlt (Nat.not_lt_zero i)
    · exact @FrpCall.exec_consistent ft (.setDeviceName name) _ (spawn_consistent env)
  rcases hstart.run hcalm with ⟨told, is, hkept⟩
  have hall := hkept.inv.all_of_quiet hquiet hkept.allBut
  rcases hkept.complete with ⟨shots, hpublished, rfl, -, hnumbers⟩
  rw [List.forall₂_map_left_iff] at hall
  exact ⟨shots, hpublished, hnumbers, hall⟩

/-- A shot of the source's client tests. -/
def sampleShot : SessionShot ⟨false⟩ where
  ball := ⟨sampleBall, ballOf sampleBall.bytes (by decide), rfl⟩
  club := ⟨sampleClub, clubOf ⟨false⟩ 0xff sampleClubBody, rfl⟩

/-- A controller connects, and one shot is made. -/
theorem every_shot_published_one :
    let poll (arrived : Bool) : DeploymentStep ⟨false⟩ := .turn arrived (Bridge.turn (.empty 0))
    let ops : List (DeploymentStep ⟨false⟩) :=
      [poll false, .turn false { Bridge.turn (.empty 0) with incoming := true }, .shot sampleShot,
        poll true, poll true, .serve, .serve, .serve, .serve, .serve, poll true, poll true]
    let s := (machine ⟨false⟩).run (start 0 ⟨fun _ => .ok (), true, 0⟩ [] none sampleShot.club) ops
    ∃ shot : Shot, shot.ball = sampleShot.ball.ball ∧
      s.bridge.frp.published = shot.events ⟨false⟩ := by
  intro poll ops s
  have hcalm : (machine ⟨false⟩).Meets Calm
      (start 0 ⟨fun _ => .ok (), true, 0⟩ [] none sampleShot.club) ops := by
    -- sends are taken, the session is quiet at the shot, and the controller is there for it
    refine ⟨⟨fun _ => rfl, ?_⟩, ⟨fun _ => rfl, ?_⟩, ⟨?_, ?_⟩, ⟨fun _ => rfl, ?_⟩,
      ⟨fun _ => rfl, ?_⟩, trivial, trivial, trivial, trivial, trivial, ⟨fun _ => rfl, ?_⟩,
      ⟨fun _ => rfl, ?_⟩, trivial⟩ <;> decide +kernel
  have hquiet : s.Quiet := ⟨by decide +kernel, by decide +kernel⟩
  rcases every_shot_published ⟨false⟩ 0 ⟨fun _ => .ok (), true, 0⟩ [] none sampleShot.club ops
    hcalm hquiet with ⟨shots, hpublished, -, hshots⟩
  rw [run_shots] at hshots
  rcases hshots with _ | ⟨⟨club, hdata⟩, ⟨⟩⟩
  rename_i shot
  refine ⟨shot, congrArg Prod.fst hdata, ?_⟩
  rw [hpublished, List.flatMap_singleton]

end Deployment

end AllSquare
