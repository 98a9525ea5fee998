import AllSquare.Frp.Connections

/-! # What controllers are sent of the shots

A controller may come and go, and any send may fail. `published_shots` says what all the
controllers together have been sent of the shots, whatever happens: nothing but the
events of the shots the device was told of, in order, none twice, each under the number
that counts its shot; a shot is missing from the end on when its connection was lost or
its send failed, and from the start when nobody was listening.

The device is told of a shot and sends telemetry first. When that send fails the shot is
not numbered, and nothing of it is sent; `Shot` is one that is numbered.
-/

namespace AllSquare

/-! ## The log of a device -/

/-- A shot the device has given a number. -/
structure Shot where
  key : ShotKey
  ball : BallMetrics
  club : Option ClubMetrics

namespace Shot

/-- The events a shot is sent as. -/
def events (ft : Features) (s : Shot) : List FrpEvent :=
  FrpDevice.shotEvents ft s.key s.ball s.club

/-- What the device is told of a shot. -/
def data (s : Shot) : BallMetrics × Option ClubMetrics := (s.ball, s.club)

end Shot

/-- The shot a call tells the device of. -/
def FrpCall.shotData : FrpCall → Option (BallMetrics × Option ClubMetrics)
  | .handleEvent _ (.shot ball club) => some (ball, club)
  | _ => none

namespace FrpDevice

variable {ft : Features}

/-- The envelopes that controllers have accepted, in order. -/
def taken (d : FrpDevice) : List Envelope := d.connections.flatMap Connection.accepted

/-- What the controllers have been sent of the shots, in order. -/
def published (d : FrpDevice) : List FrpEvent :=
  (d.taken.map Envelope.event).filter FrpEvent.IsShot

/-- The shot a call numbers. -/
def numbers (d : FrpDevice) : FrpCall → Option Shot
  | .handleEvent env (.shot ball club) =>
    let told := (sendTelemetry env (some false) none).exec d
    if told.2.isOk then
      some ⟨⟨ShotId.uuidV4 env.nanos, told.1.shotNumber + 1⟩, ball, club⟩
    else none
  | _ => none

/-! ## What a call hands over -/

/-- From `d` to `d'` controllers have accepted telemetry and then the first few of
`events`. -/
def Hands (events : List FrpEvent) (d d' : FrpDevice) : Prop :=
  ∃ news sent, (∀ e ∈ news, ¬e.event.IsShot) ∧ sent <+: events ∧
    d'.taken = d.taken ++ news ++ sent.map fun event => ⟨d.device, event⟩

theorem Hands.of_eq {d d' : FrpDevice} (h : d'.taken = d.taken) (events : List FrpEvent) :
    Hands events d d' :=
  ⟨[], [], by simp, List.nil_prefix, by simp [h]⟩

/-- The connections are what counts. -/
theorem taken_congr {d d' : FrpDevice} (hconn : d'.conn = d.conn) (hgone : d'.gone = d.gone) :
    d'.taken = d.taken := by
  unfold taken connections
  rw [hconn, hgone]

/-- A connection keeps what it has accepted when it is lost. -/
theorem lost_taken {d : FrpDevice} {c : Connection} (hc : d.conn = some c) (env : FrpEnv) :
    (d.lost env c).taken = d.taken := by
  unfold taken
  rw [connections_none (lost_conn d env c), connections_some hc, lost_gone]

/-- An offer is accepted, or changes nothing in what has been. -/
theorem offer_taken (d : FrpDevice) (env : FrpEnv) (e : Envelope) :
    (d.offer env e).taken = d.taken ++ [e] ∨
      ((d.offer env e).taken = d.taken ∧ (d.offer env e).conn = none) := by
  cases hc : d.conn with
  | none =>
    rw [offer_none hc]
    exact .inr ⟨rfl, hc⟩
  | some c =>
    rcases offer_cases hc env e with ⟨-, hconn, hgone⟩ | ⟨hconn, hgone⟩
    · left
      unfold taken
      rw [connections_some hconn, connections_some hc, hgone, List.flatMap_append,
        List.flatMap_append, List.append_assoc]
      apply congrArg (_ ++ ·)
      show (c.accepted ++ [e]) ++ [] = (c.accepted ++ []) ++ [e]
      rw [List.append_nil, List.append_nil]
    · right
      refine ⟨?_, hconn⟩
      unfold taken
      rw [connections_none hconn, connections_some hc, hgone, List.flatMap_append,
        List.flatMap_append]
      rfl

theorem sendEnvelope_taken (env : FrpEnv) (e : Envelope) (d : FrpDevice) :
    ((sendEnvelope env e).exec d).1.taken = d.taken ++ [e] ∨
      ((sendEnvelope env e).exec d).1.taken = d.taken := by
  rw [sendEnvelope_exec]
  split
  · exact .inr rfl
  · exact (offer_taken d env e).imp_right And.left

theorem sendEvents_none {d : FrpDevice} (hc : d.conn = none) (env : FrpEnv)
    (evs : List FrpEvent) : (sendEvents env evs).exec d = (d, .ok ()) := by
  cases evs with
  | nil => rfl
  | cons ev rest => rw [sendEvents_exec, if_pos hc]

/-- The events of a shot are accepted from the first on, up to one that fails. -/
theorem sendEvents_taken (env : FrpEnv) (evs : List FrpEvent) (d : FrpDevice) :
    ∃ sent, sent <+: evs ∧ ((sendEvents env evs).exec d).1.taken =
      d.taken ++ sent.map fun event => ⟨d.device, event⟩ := by
  induction evs generalizing d with
  | nil => exact ⟨[], List.nil_prefix, (List.append_nil _).symm⟩
  | cons ev rest ih =>
    rw [sendEvents_exec]
    split
    · exact ⟨[], List.nil_prefix, (List.append_nil _).symm⟩
    · split
      · exact ⟨[], List.nil_prefix, (List.append_nil _).symm⟩
      · have hdevice : (d.offer env ⟨d.device, ev⟩).device = d.device :=
          congrArg Memory.device (offer_memory d env _)
        rcases offer_taken d env ⟨d.device, ev⟩ with htaken | ⟨hsame, hnone⟩
        · rcases ih (d.offer env ⟨d.device, ev⟩) with ⟨sent, hsent, heq⟩
          refine ⟨ev :: sent, List.cons_prefix_cons.2 ⟨rfl, hsent⟩, ?_⟩
          rw [heq, htaken, hdevice, List.append_assoc]
          rfl
        · -- the connection is lost: nobody is left to send the rest to
          refine ⟨[], List.nil_prefix, ?_⟩
          rw [sendEvents_none hnone, List.map_nil, List.append_nil]
          exact hsame

theorem sendTelemetry_hands (env : FrpEnv) (ready : Option Bool) (battery : Option UInt8)
    (d : FrpDevice) : Hands [] d ((sendTelemetry env ready battery).exec d).1 := by
  rw [sendTelemetry_exec]
  split
  · exact .of_eq rfl []
  · have hsame : (d.reported ready battery).taken = d.taken := taken_congr rfl rfl
    rcases sendEnvelope_taken env (d.report ready battery) (d.reported ready battery) with
      htaken | htaken
    · refine ⟨[d.report ready battery], [], ?_, List.prefix_rfl, ?_⟩
      · intro e he
        obtain rfl := List.mem_singleton.1 he
        exact telemetryEnvelope_not_shot _ battery
      · rw [htaken, hsame]
        exact (List.append_nil _).symm
    · exact .of_eq (htaken.trans hsame) []

theorem sendTelemetry_device (env : FrpEnv) (ready : Option Bool) (battery : Option UInt8)
    (d : FrpDevice) : ((sendTelemetry env ready battery).exec d).1.device = d.device := by
  rw [sendTelemetry_exec]
  split
  · rfl
  · exact congrArg Memory.device (sendEnvelope_memory env _ (d.reported ready battery))

/-- An adopted connection has accepted nothing. -/
theorem adopt_taken {d : FrpDevice} (hc : d.conn = none) : d.adopt.taken = d.taken := by
  unfold taken
  rw [connections_some rfl, connections_none hc, List.flatMap_append]
  exact List.append_nil _

/-- An adopted connection is handed the cached telemetry. -/
theorem pollConnection_hands {d : FrpDevice} (h : d.Consistent) (env : FrpEnv)
    (incoming : Bool) : Hands [] d ((pollConnection env incoming).exec d).1 := by
  rw [pollConnection_exec]
  split
  · rename_i hadopt
    have hsame := adopt_taken hadopt.1
    cases ht : d.telemetry with
    | none => exact .of_eq hsame []
    | some e =>
      rcases sendEnvelope_taken env e d.adopt with htaken | htaken
      · refine ⟨[e], [], ?_, List.prefix_rfl, ?_⟩
        · intro e' he'
          obtain rfl := List.mem_singleton.1 he'
          exact (h.ready e' ht).2
        · show ((sendEnvelope env e).exec d.adopt).1.taken = _
          rw [htaken, hsame]
          exact (List.append_nil _).symm
      · exact .of_eq (htaken.trans hsame) []
  · exact .of_eq rfl []

/-- A call that tells the device of no shot. -/
theorem Hands.quiet {call : FrpCall} {d d' : FrpDevice} (h : Hands [] d d')
    (hquiet : d.numbers call = none) :
    Hands (((d.numbers call).map (Shot.events ft)).getD []) d d' := by
  rw [hquiet]
  exact h

theorem checkController_taken (env : FrpEnv) (recv : Except FrpError (Option FrpMessage))
    (d : FrpDevice) : ((checkController env recv).exec d).1.taken = d.taken := by
  rw [checkController_exec]
  split
  · rename_i c _ hc
    exact lost_taken hc env
  · rfl

/-- Everything a call hands over is telemetry, or the start of the shot it numbers. -/
theorem exec_hands (ft : Features) {d : FrpDevice} (h : d.Consistent) (call : FrpCall) :
    Hands (((d.numbers call).map (Shot.events ft)).getD []) d (call.exec ft d).1 := by
  cases call with
  | handleEvent env ev =>
    cases ev with
    | stateChanged state => exact (sendTelemetry_hands env _ none d).quiet rfl
    | battery percent _ => exact (sendTelemetry_hands env none _ d).quiet rfl
    | shot b m =>
      have htel := sendTelemetry_hands env (some false) none d
      show Hands _ d ((handleEvent ft env (.shot b m)).exec d).1
      rw [handleEvent_shot]
      unfold numbers
      dsimp only
      have hdevice := sendTelemetry_device env (some false) none d
      generalize (sendTelemetry env (some false) none).exec d = out at htel hdevice ⊢
      rcases out with ⟨d', r⟩
      cases r with
      | error e => exact htel
      | ok _ =>
        rcases htel with ⟨news, sent, hnews, hnil, htaken⟩
        obtain rfl := List.prefix_nil.1 hnil
        rcases sendEvents_taken env (shotEvents ft ⟨ShotId.uuidV4 env.nanos, d'.shotNumber + 1⟩ b m)
          d'.nextShot with ⟨sent, hsent, hsends⟩
        refine ⟨news, sent, hnews, hsent, ?_⟩
        have hnext : d'.nextShot.taken = d'.taken := taken_congr rfl rfl
        have hname : d'.nextShot.device = d.device := hdevice
        rw [hsends, hnext, htaken, hname, List.map_nil, List.append_nil]
    | connected | sensor | clock | alignment => exact .of_eq rfl []
  | sendDeviceInfo env => exact (sendTelemetry_hands env none none d).quiet rfl
  | pollConnection env incoming => exact (pollConnection_hands h env incoming).quiet rfl
  | checkController env recv => exact .of_eq (checkController_taken env recv d) []
  | setDeviceName name =>
    have hsame : (d.setDeviceName name).taken = d.taken := taken_congr rfl rfl
    exact .of_eq hsame []
  | setFirmware fw =>
    have hsame : (d.setFirmware fw).taken = d.taken := taken_congr rfl rfl
    exact .of_eq hsame []
  | setModel model =>
    refine Hands.of_eq ?_ []
    simp only [FrpCall.exec, FrpDevice.setModel]
    split <;> rfl

/-- Telemetry does not count as published. -/
theorem published_append {d d' : FrpDevice} {news : List Envelope} {events : List FrpEvent}
    (hnews : ∀ e ∈ news, ¬e.event.IsShot) (hevents : ∀ ev ∈ events, ev.IsShot)
    (htaken : d'.taken = d.taken ++ news ++ events.map fun event => ⟨d.device, event⟩) :
    d'.published = d.published ++ events := by
  have hnone : (news.map Envelope.event).filter FrpEvent.IsShot = [] := by
    rw [List.filter_eq_nil_iff]
    intro ev hev
    rcases List.mem_map.1 hev with ⟨e, he, rfl⟩
    simpa using hnews e he
  have hall : events.filter FrpEvent.IsShot = events :=
    List.filter_eq_self.2 fun ev hev => by simpa using hevents ev hev
  have hmap : (events.map fun event => (⟨d.device, event⟩ : Envelope)).map Envelope.event =
      events := by
    rw [List.map_map]
    exact List.map_id events
  unfold FrpDevice.published
  rw [htaken, List.map_append, List.map_append, List.filter_append, List.filter_append, hnone,
    hmap, hall, List.append_nil]

/-- What a call hands over adds the start of a shot to what is published. -/
theorem Hands.published {events : List FrpEvent} {d d' : FrpDevice} (h : Hands events d d')
    (hevents : ∀ ev ∈ events, ev.IsShot) :
    ∃ sent, sent <+: events ∧ d'.published = d.published ++ sent := by
  rcases h with ⟨news, sent, hnews, hsent, htaken⟩
  exact ⟨sent, hsent, published_append hnews (fun ev hev => hevents ev (hsent.subset hev)) htaken⟩

/-! ## A shot that is heard -/

section Heard

variable {env : FrpEnv} {d : FrpDevice}

/-- An offer that is taken. -/
theorem offer_ok (hsend : ∀ e, env.send e = .ok ()) (hc : d.conn.isSome) (e : Envelope) :
    (d.offer env e).taken = d.taken ++ [e] ∧ (d.offer env e).conn.isSome := by
  rcases Option.isSome_iff_exists.1 hc with ⟨c, hc⟩
  have hoffer : d.offer env e = { d with conn := some (c.accept e) } := by
    unfold offer
    rw [hc]
    dsimp only
    rw [hsend e]
  rcases offer_taken d env e with htaken | ⟨-, hnone⟩
  · refine ⟨htaken, ?_⟩
    rw [hoffer]
    rfl
  · rw [hoffer] at hnone
    cases hnone

theorem not_sendFails (hsend : ∀ e, env.send e = .ok ()) (d : FrpDevice) (e : Envelope) :
    ¬d.SendFails env e := by
  rintro ⟨-, hfails⟩
  rw [hsend e] at hfails
  cases hfails

/-- A connected controller is sent all the events. -/
theorem sendEvents_all (hsend : ∀ e, env.send e = .ok ()) (hc : d.conn.isSome)
    (evs : List FrpEvent) :
    ((sendEvents env evs).exec d).1.taken =
      d.taken ++ evs.map fun event => ⟨d.device, event⟩ := by
  induction evs generalizing d with
  | nil => exact (List.append_nil _).symm
  | cons ev rest ih =>
    have hsome : ¬d.conn = none := by
      intro hnone
      rw [hnone] at hc
      cases hc
    rcases offer_ok hsend hc ⟨d.device, ev⟩ with ⟨htaken, hconn⟩
    have hdevice : (d.offer env ⟨d.device, ev⟩).device = d.device :=
      congrArg Memory.device (offer_memory d env _)
    rw [sendEvents_exec, if_neg hsome, if_neg (not_sendFails hsend d _), ih hconn, htaken, hdevice,
      List.append_assoc]
    rfl

/-- Telemetry is sent, or was before. -/
theorem sendTelemetry_heard (hsend : ∀ e, env.send e = .ok ()) (hc : d.conn.isSome)
    (ready : Option Bool) (battery : Option UInt8) :
    ((sendTelemetry env ready battery).exec d).2 = .ok () ∧
      ((sendTelemetry env ready battery).exec d).1.conn.isSome := by
  rw [sendTelemetry_exec]
  split
  · exact ⟨rfl, hc⟩
  · rw [sendEnvelope_exec, if_neg (not_sendFails hsend _ _)]
    have hreported : (d.reported ready battery).conn.isSome := hc
    exact ⟨rfl, (offer_ok hsend hreported _).2⟩

end Heard

/-! ## Numbers -/

theorem pollConnection_memory (env : FrpEnv) (incoming : Bool) (d : FrpDevice) :
    ((pollConnection env incoming).exec d).1.memory = d.memory := by
  rw [pollConnection_exec]
  split
  · split
    · rfl
    · exact (sendEnvelope_memory env _ d.adopt).trans rfl
  · rfl

theorem sendTelemetry_shotNumber (env : FrpEnv) (ready : Option Bool) (battery : Option UInt8)
    (d : FrpDevice) :
    ((sendTelemetry env ready battery).exec d).1.shotNumber = d.shotNumber := by
  rw [sendTelemetry_exec]
  split
  · rfl
  · exact (memory_shotNumber (sendEnvelope_memory env _ (d.reported ready battery))).trans rfl

/-- A shot that is numbered has the next number, and no other call counts. -/
theorem exec_numbers (ft : Features) (d : FrpDevice) (call : FrpCall) :
    (d.numbers call = none ∧ (call.exec ft d).1.shotNumber = d.shotNumber) ∨
    ∃ s, d.numbers call = some s ∧ s.key.shotNumber = d.shotNumber + 1 ∧
      (call.exec ft d).1.shotNumber = d.shotNumber + 1 ∧ call.shotData = some s.data := by
  cases call with
  | handleEvent env ev =>
    cases ev with
    | stateChanged state => exact .inl ⟨rfl, sendTelemetry_shotNumber env _ none d⟩
    | battery percent _ => exact .inl ⟨rfl, sendTelemetry_shotNumber env none _ d⟩
    | shot b m =>
      have htel := sendTelemetry_shotNumber env (some false) none d
      have hexec := @handleEvent_shot ft env b m d
      show (d.numbers _ = none ∧ ((handleEvent ft env (.shot b m)).exec d).1.shotNumber = _) ∨
        ∃ s, d.numbers _ = some s ∧ _ ∧
          ((handleEvent ft env (.shot b m)).exec d).1.shotNumber = _ ∧ _
      unfold numbers
      dsimp only
      rw [hexec]
      generalize (sendTelemetry env (some false) none).exec d = out at htel ⊢
      rcases out with ⟨d', r⟩
      cases r with
      | error e => exact .inl ⟨rfl, htel⟩
      | ok _ =>
        right
        refine ⟨_, rfl, congrArg (· + 1) htel, ?_, rfl⟩
        exact (memory_shotNumber (sendEvents_memory env _ d'.nextShot)).trans
          (congrArg (· + 1) htel)
    | connected | sensor | clock | alignment => exact .inl ⟨rfl, rfl⟩
  | sendDeviceInfo env => exact .inl ⟨rfl, sendTelemetry_shotNumber env none none d⟩
  | pollConnection env incoming =>
    exact .inl ⟨rfl, memory_shotNumber (pollConnection_memory env incoming d)⟩
  | checkController env recv =>
    exact .inl ⟨rfl, memory_shotNumber (checkController_memory env recv d)⟩
  | setDeviceName name => exact .inl ⟨rfl, rfl⟩
  | setFirmware fw => exact .inl ⟨rfl, rfl⟩
  | setModel model =>
    refine .inl ⟨rfl, ?_⟩
    simp only [FrpCall.exec, FrpDevice.setModel]
    split <;> rfl

/-- A shot that the device is told of while a controller is connected is numbered and sent
as a whole. -/
theorem handleEvent_published (ft : Features) {env : FrpEnv} {d : FrpDevice}
    (hsend : ∀ e, env.send e = .ok ()) (hc : d.conn.isSome) (ball : BallMetrics)
    (club : Option ClubMetrics) :
    let d' := ((handleEvent ft env (.shot ball club)).exec d).1
    ∃ shot : Shot, shot.data = (ball, club) ∧ shot.key.shotNumber = d.shotNumber + 1 ∧
      d'.shotNumber = d.shotNumber + 1 ∧ d'.published = d.published ++ shot.events ft := by
  intro d'
  have htel := sendTelemetry_hands env (some false) none d
  have hnumber := sendTelemetry_shotNumber env (some false) none d
  have hdevice := sendTelemetry_device env (some false) none d
  have hok := sendTelemetry_heard hsend hc (some false) none
  have hexec := @handleEvent_shot ft env ball club d
  generalize (sendTelemetry env (some false) none).exec d = out at htel hnumber hdevice hok hexec
  rcases out with ⟨d₁, r⟩
  rcases hok with ⟨rfl, hconn⟩
  rcases htel with ⟨news, sent, hnews, hnil, htaken⟩
  obtain rfl := List.prefix_nil.1 hnil
  rw [List.map_nil, List.append_nil] at htaken
  let shot : Shot := ⟨⟨ShotId.uuidV4 env.nanos, d₁.shotNumber + 1⟩, ball, club⟩
  have hd' : d' = ((sendEvents env (shot.events ft)).exec d₁.nextShot).1 := congrArg Prod.fst hexec
  refine ⟨shot, rfl, congrArg (· + 1) hnumber, ?_, ?_⟩
  · rw [hd']
    exact (memory_shotNumber (sendEvents_memory env _ d₁.nextShot)).trans
      (congrArg (· + 1) hnumber)
  · refine published_append hnews (fun ev hev => shotEvents_isShot hev) ?_
    have hnext : d₁.nextShot.taken = d₁.taken := taken_congr rfl rfl
    have hall := @sendEvents_all env d₁.nextShot hsend hconn (shot.events ft)
    rw [hd', hall, hnext, htaken]
    show _ ++ List.map (fun event => (⟨d₁.device, event⟩ : Envelope)) _ = _
    rw [hdevice]

/-- Calls that tell the device of no shot publish nothing. -/
theorem run_quiet (ft : Features) {d : FrpDevice} (h : d.Consistent) {calls : List FrpCall}
    (hquiet : ∀ call ∈ calls, call.shotData = none) :
    ((frpMachine ft).run d calls).published = d.published ∧
      ((frpMachine ft).run d calls).shotNumber = d.shotNumber := by
  induction calls generalizing d with
  | nil => exact ⟨rfl, rfl⟩
  | cons call calls ih =>
    have hcall := hquiet call (List.mem_cons_self ..)
    have hrest := fun call' h' => hquiet call' (List.mem_cons_of_mem call h')
    rcases ih (call.exec_consistent h) hrest with ⟨hpublished, hnumber⟩
    rcases exec_numbers ft d call with ⟨hnone, hsame⟩ | ⟨s, -, -, -, hshot⟩
    · have hhands := exec_hands ft h call
      rw [hnone] at hhands
      rcases hhands.published (by simp) with ⟨sent, hsent, heq⟩
      obtain rfl := List.prefix_nil.1 hsent
      rw [List.append_nil] at heq
      exact ⟨hpublished.trans heq, hnumber.trans hsame⟩
    · rw [hcall] at hshot
      cases hshot

/-! ## Nothing before telemetry -/

/-- Nothing is sent before there is telemetry. -/
def TelemetryFirst (d : FrpDevice) : Prop := d.telemetry = none → d.taken = []

theorem TelemetryFirst.of_telemetry {d : FrpDevice} (h : d.telemetry ≠ none) :
    d.TelemetryFirst := fun hnone => absurd hnone h

theorem TelemetryFirst.of_eq {d d' : FrpDevice} (h : d.TelemetryFirst)
    (htelemetry : d'.telemetry = d.telemetry) (htaken : d'.taken = d.taken) :
    d'.TelemetryFirst := by
  unfold TelemetryFirst
  rw [htelemetry, htaken]
  exact h

/-- After telemetry has been sent, or suppressed, there is some. -/
theorem sendTelemetry_telemetry (env : FrpEnv) (ready : Option Bool) (battery : Option UInt8)
    {d : FrpDevice} (h : d.Consistent) :
    ((sendTelemetry env ready battery).exec d).1.telemetry ≠ none := by
  rw [sendTelemetry_exec]
  split
  · rename_i hs
    apply h.produced
    rw [← hs.2.2]
    exact Option.isSome_iff_ne_none.1 hs.2.1
  · rw [memory_telemetry (sendEnvelope_memory env _ (d.reported ready battery))]
    exact Option.some_ne_none _

theorem exec_telemetryFirst (ft : Features) {d : FrpDevice} (hd : d.Consistent)
    (h : d.TelemetryFirst) (call : FrpCall) : (call.exec ft d).1.TelemetryFirst := by
  cases call with
  | handleEvent env ev =>
    cases ev with
    | stateChanged state => exact .of_telemetry (sendTelemetry_telemetry env _ none hd)
    | battery percent _ => exact .of_telemetry (sendTelemetry_telemetry env none _ hd)
    | shot b m =>
      refine .of_telemetry ?_
      apply @handleEvent_shot_keeps ft fun d' => d'.telemetry ≠ none
      · exact sendTelemetry_telemetry env (some false) none hd
      · intro d' evs hd'
        rw [memory_telemetry (sendEvents_memory env evs d'.nextShot)]
        exact hd'
    | connected | sensor | clock | alignment => exact h
  | sendDeviceInfo env => exact .of_telemetry (sendTelemetry_telemetry env none none hd)
  | pollConnection env incoming =>
    show ((pollConnection env incoming).exec d).1.TelemetryFirst
    rw [pollConnection_exec]
    split
    · rename_i hadopt
      cases ht : d.telemetry with
      | none => exact h.of_eq rfl (adopt_taken hadopt.1)
      | some e =>
        refine .of_telemetry ?_
        rw [memory_telemetry (sendEnvelope_memory env e d.adopt)]
        simp [adopt, ht]
    · exact h
  | checkController env recv =>
    exact h.of_eq (memory_telemetry (checkController_memory env recv d))
      (checkController_taken env recv d)
  | setDeviceName name => exact h.of_eq rfl (taken_congr rfl rfl)
  | setFirmware fw => exact h.of_eq rfl (taken_congr rfl rfl)
  | setModel model =>
    simp only [FrpCall.exec, FrpDevice.setModel]
    split
    · exact h
    · exact h.of_eq rfl (taken_congr rfl rfl)

/-! ## How the device presents itself -/

/-- What the device says of itself. -/
structure Identity where
  device : Text
  model : Option Text
  firmware : Option Text

def identity (d : FrpDevice) : Identity := ⟨d.device, d.model, d.firmware⟩

/-- An envelope of a device; its telemetry says what the device is. -/
def Identity.Signs (i : Identity) (e : Envelope) : Prop :=
  e.device = i.device ∧ (¬e.event.IsShot → ∃ values,
    e.event = .deviceTelemetry (some manufacturer) i.model i.firmware (some values))

/-- All the device has sent, and the telemetry it has cached, is signed as what it is. -/
structure Signed (d : FrpDevice) : Prop where
  telemetry : ∀ e, d.telemetry = some e → d.identity.Signs e
  taken : ∀ e ∈ d.taken, d.identity.Signs e

section Signed

variable {env : FrpEnv} {d d' : FrpDevice}

theorem memory_identity (h : d'.memory = d.memory) : d'.identity = d.identity := by
  show Identity.mk d'.memory.device d'.memory.model d'.memory.firmware = _
  rw [h]
  rfl

/-- Only what is newly sent needs to be looked at. -/
theorem Signed.of_memory (h : d.Signed) (hmemory : d'.memory = d.memory)
    (htaken : ∀ e ∈ d'.taken, d.identity.Signs e) : d'.Signed where
  telemetry := by
    rw [memory_telemetry hmemory, memory_identity hmemory]
    exact h.telemetry
  taken := by
    rw [memory_identity hmemory]
    exact htaken

theorem Signed.sendEnvelope (h : d.Signed) {e : Envelope} (he : d.identity.Signs e) :
    ((FrpDevice.sendEnvelope env e).exec d).1.Signed := by
  refine h.of_memory (sendEnvelope_memory env e d) ?_
  rcases sendEnvelope_taken env e d with htaken | htaken
  · rw [htaken]
    intro e' he'
    rcases List.mem_append.1 he' with he' | he'
    · exact h.taken e' he'
    · rwa [List.mem_singleton.1 he']
  · rw [htaken]
    exact h.taken

theorem reported_signs (d : FrpDevice) (ready : Option Bool) (battery : Option UInt8) :
    d.identity.Signs (d.report ready battery) := ⟨rfl, fun _ => ⟨_, rfl⟩⟩

theorem Signed.sendTelemetry (h : d.Signed) (ready : Option Bool) (battery : Option UInt8) :
    ((FrpDevice.sendTelemetry env ready battery).exec d).1.Signed := by
  rw [sendTelemetry_exec]
  split
  · exact h
  · have hreported : (d.reported ready battery).Signed := by
      constructor
      · intro e he
        rw [← Option.some.inj he]
        exact reported_signs d ready battery
      · exact h.taken
    exact hreported.sendEnvelope (reported_signs d ready battery)

theorem sendTelemetry_identity (env : FrpEnv) (ready : Option Bool) (battery : Option UInt8)
    (d : FrpDevice) :
    ((FrpDevice.sendTelemetry env ready battery).exec d).1.identity = d.identity := by
  rw [sendTelemetry_exec]
  split
  · rfl
  · exact (memory_identity (sendEnvelope_memory env _ (d.reported ready battery))).trans rfl

theorem handleEvent_identity (ft : Features) (env : FrpEnv) (ev : Event) (d : FrpDevice) :
    ((FrpDevice.handleEvent ft env ev).exec d).1.identity = d.identity := by
  cases ev with
  | stateChanged state => exact sendTelemetry_identity env _ none d
  | battery percent _ => exact sendTelemetry_identity env none _ d
  | shot b m =>
    apply @handleEvent_shot_keeps ft fun d' => d'.identity = d.identity
    · exact sendTelemetry_identity env (some false) none d
    · intro d' evs hd'
      exact (memory_identity (sendEvents_memory env evs d'.nextShot)).trans hd'
  | connected | sensor | clock | alignment => rfl

theorem Signed.handleEvent (ft : Features) (h : d.Signed) (ev : Event) :
    ((FrpDevice.handleEvent ft env ev).exec d).1.Signed := by
  cases ev with
  | stateChanged state => exact h.sendTelemetry _ none
  | battery percent _ => exact h.sendTelemetry none _
  | shot b m =>
    rw [handleEvent_shot]
    have htel := @Signed.sendTelemetry env d h (some false) none
    generalize (FrpDevice.sendTelemetry env (some false) none).exec d = out at htel ⊢
    rcases out with ⟨d', r⟩
    cases r with
    | error e => exact htel
    | ok _ =>
      have hnext : d'.nextShot.Signed := ⟨htel.telemetry, htel.taken⟩
      rcases sendEvents_taken env (shotEvents ft ⟨ShotId.uuidV4 env.nanos, d'.shotNumber + 1⟩ b m)
        d'.nextShot with ⟨sent, hsent, htaken⟩
      refine hnext.of_memory (sendEvents_memory env _ d'.nextShot) ?_
      rw [htaken]
      intro e he
      rcases List.mem_append.1 he with he | he
      · exact hnext.taken e he
      · rcases List.mem_map.1 he with ⟨ev, hev, rfl⟩
        exact ⟨rfl, fun hnot => absurd (shotEvents_isShot (hsent.subset hev)) hnot⟩
  | connected | sensor | clock | alignment => exact h

theorem Signed.pollConnection (h : d.Signed) (incoming : Bool) :
    ((FrpDevice.pollConnection env incoming).exec d).1.Signed := by
  rw [pollConnection_exec]
  split
  · rename_i hadopt
    have hadopted : d.adopt.Signed := by
      refine ⟨h.telemetry, ?_⟩
      rw [adopt_taken hadopt.1]
      exact h.taken
    cases ht : d.telemetry with
    | none => exact hadopted
    | some e => exact hadopted.sendEnvelope (h.telemetry e ht)
  · exact h

theorem Signed.checkController (h : d.Signed) (recv : Except FrpError (Option FrpMessage)) :
    ((FrpDevice.checkController env recv).exec d).1.Signed := by
  refine h.of_memory (checkController_memory env recv d) ?_
  rw [checkController_taken]
  exact h.taken

end Signed

end FrpDevice

/-! ## Runs -/

open FrpDevice

variable {ft : Features}

/-- The shots a run of calls numbers, in order. -/
def shotsNumbered (ft : Features) (d : FrpDevice) (calls : List FrpCall) : List Shot :=
  (frpMachine ft).heardAlong numbers d calls

theorem shotsNumbered_cons (d : FrpDevice) (call : FrpCall) (calls : List FrpCall) :
    shotsNumbered ft d (call :: calls) =
      (d.numbers call).toList ++ shotsNumbered ft (call.exec ft d).1 calls :=
  (frpMachine ft).heardAlong_cons numbers d call calls

theorem run_published {d : FrpDevice} (h : d.Consistent) (calls : List FrpCall) :
    ((frpMachine ft).run d calls).published.Sublist
      (d.published ++ (shotsNumbered ft d calls).flatMap (Shot.events ft)) := by
  induction calls generalizing d with
  | nil => exact (List.append_nil _).symm ▸ List.Sublist.refl _
  | cons call calls ih =>
    have hshots : ∀ ev ∈ ((d.numbers call).map (Shot.events ft)).getD [], ev.IsShot := by
      intro ev hev
      cases hn : d.numbers call with
      | none => simp [hn] at hev
      | some s =>
        rw [hn] at hev
        exact shotEvents_isShot hev
    rcases (exec_hands ft h call).published hshots with ⟨sent, hsent, hpublished⟩
    have hrest := ih (@FrpCall.exec_consistent ft call d h)
    rw [hpublished, List.append_assoc] at hrest
    rw [shotsNumbered_cons, List.flatMap_append]
    refine hrest.trans ((List.Sublist.refl _).append (List.Sublist.append ?_ (.refl _)))
    cases hn : d.numbers call with
    | none =>
      rw [hn] at hsent
      exact hsent.sublist
    | some s =>
      rw [hn] at hsent
      simpa using hsent.sublist

theorem run_numbers (d : FrpDevice) (calls : List FrpCall) :
    let shots := shotsNumbered ft d calls
    shots.map (fun s => s.key.shotNumber) =
        (List.range shots.length).map (fun i => d.shotNumber + UInt32.ofNat (i + 1)) ∧
      ((frpMachine ft).run d calls).shotNumber = d.shotNumber + UInt32.ofNat shots.length ∧
      (shots.map Shot.data).Sublist (calls.filterMap FrpCall.shotData) := by
  induction calls generalizing d with
  | nil => exact ⟨rfl, (UInt32.add_zero _).symm, .slnil⟩
  | cons call calls ih =>
    rcases ih (call.exec ft d).1 with ⟨hnumbers, hlast, hdata⟩
    rw [shotsNumbered_cons]
    rcases exec_numbers ft d call with ⟨hnone, hsame⟩ | ⟨s, hs, hnumber, hnext, hcall⟩
    · rw [hsame] at hnumbers hlast
      rw [hnone]
      refine ⟨hnumbers, hlast, hdata.trans ?_⟩
      cases hc : call.shotData with
      | none => rw [List.filterMap_cons_none hc]
      | some x =>
        rw [List.filterMap_cons_some hc]
        exact List.sublist_cons_self _ _
    · have hshift (n : ℕ) :
          d.shotNumber + 1 + UInt32.ofNat n = d.shotNumber + UInt32.ofNat (n + 1) := by
        rw [UInt32.ofNat_add, UInt32.add_assoc]
        exact congrArg (d.shotNumber + ·) (UInt32.add_comm _ _)
      rw [hnext] at hnumbers hlast
      rw [hs]
      refine ⟨?_, ?_, ?_⟩
      · rw [Option.toList_some, List.singleton_append, List.map_cons, hnumbers, hnumber,
          List.length_cons, List.range_succ_eq_map, List.map_cons, List.map_map]
        apply congrArg (_ :: ·)
        apply List.map_congr_left
        intro i _
        exact hshift (i + 1)
      · exact hlast.trans (hshift _)
      · rw [List.filterMap_cons_some hcall]
        exact hdata.cons_cons s.data

theorem spawn_taken (env : FrpEnv) : (spawn env).taken = [] := by
  rw [spawn_eq]
  exact taken_congr (requested_conn unconnected env) (requested_gone unconnected env)

/-- Whatever the calls of a new device and whatever becomes of its sends: what all its
controllers together have been sent of the shots is, in order and each event once at
most, what some shots are sent as. These are shots the device was told of, in the order it
was told, and they carry the numbers from one on, modulo `2 ^ 32`. -/
theorem published_shots (ft : Features) (env : FrpEnv) (calls : List FrpCall) :
    let d := (frpMachine ft).run (spawn env) calls
    ∃ shots : List Shot, d.published.Sublist (shots.flatMap (Shot.events ft)) ∧
      shots.map (fun s => s.key.shotNumber) =
        (List.range shots.length).map (fun i => UInt32.ofNat (i + 1)) ∧
      d.shotNumber = UInt32.ofNat shots.length ∧
      (shots.map Shot.data).Sublist (calls.filterMap FrpCall.shotData) := by
  intro d
  have hzero : (spawn env).shotNumber = 0 := by
    rw [spawn_eq]
    exact memory_shotNumber (requested_memory unconnected env)
  have hempty : (spawn env).published = [] := by
    unfold FrpDevice.published
    rw [spawn_taken]
    rfl
  have hpublished := @run_published ft _ (spawn_consistent env) calls
  rcases @run_numbers ft (spawn env) calls with ⟨hnumbers, hlast, hdata⟩
  rw [hempty, List.nil_append] at hpublished
  rw [hzero] at hnumbers hlast
  simp only [UInt32.zero_add] at hnumbers hlast
  exact ⟨_, hpublished, hnumbers, hlast, hdata⟩

end AllSquare
