import Mathlib.Order.Filter.AtTopBot.ModEq
import AllSquare.Frp.Acceptor
import AllSquare.Frp.Published
import AllSquare.Reactive.Progress

/-! # A dropped connection is established again

The device asks for a connection and waits; the acceptor thread takes the request, tries
until it has a connection, and hands it over. `one_connection` says that the request is
never lost and never doubled. Here it gets on: as long as the device looks for a connection
again and again and the acceptor succeeds again and again, a device without a connection
adopts a new one and sends it the telemetry it has cached (`connection_reestablished`).
-/

namespace AllSquare

open Filter

/-! ## A device without a connection -/

/-- A new connection once it has been adopted. Its peer has taken the telemetry that was
cached, if any was, or was found gone by that send, or the send has failed otherwise and the
peer has got nothing. -/
def Connection.adopted (send : Envelope → Except FrpError Unit) :
    Option Envelope → Connection
  | none => ⟨none, [], none⟩
  | some e =>
    match send e with
    | .ok () => ⟨some e, [e], none⟩
    | .error .closed => ⟨some e, [], some e⟩
    | .error .other => ⟨some e, [], none⟩

namespace FrpDevice

variable {ft : Features} {d : FrpDevice}

/-- No connection has been adopted or dropped. -/
structure Unconnected (d d' : FrpDevice) : Prop where
  conn : d'.conn = none
  gone : d'.gone = d.gone

theorem sendEnvelope_unconnected (hc : d.conn = none) (env : FrpEnv) (e : Envelope) :
    (sendEnvelope env e).exec d = (d, .ok ()) := by
  have hno : ¬d.SendFails env e := by
    rintro ⟨hsome, -⟩
    simp [hc] at hsome
  rw [sendEnvelope_exec, if_neg hno, offer_none hc]

theorem sendTelemetry_unconnected (hc : d.conn = none) (env : FrpEnv) (ready : Option Bool)
    (battery : Option UInt8) : Unconnected d ((sendTelemetry env ready battery).exec d).1 := by
  rw [sendTelemetry_exec]
  split
  · exact ⟨hc, rfl⟩
  · have hc' : (d.reported ready battery).conn = none := hc
    rw [sendEnvelope_unconnected hc']
    exact ⟨hc, rfl⟩

theorem handleEvent_unconnected (hc : d.conn = none) (env : FrpEnv) (ev : Event) :
    Unconnected d ((handleEvent ft env ev).exec d).1 := by
  cases ev with
  | stateChanged state => exact sendTelemetry_unconnected hc env _ none
  | battery percent _ => exact sendTelemetry_unconnected hc env none _
  | shot b m =>
    apply handleEvent_shot_keeps (sendTelemetry_unconnected hc env (some false) none)
    intro d' evs h
    have hc' : d'.nextShot.conn = none := h.conn
    rw [sendEvents_none hc']
    exact ⟨hc', h.gone⟩
  | connected | sensor | clock | alignment => exact ⟨hc, rfl⟩

/-- Only an established connection changes what a device without one has. -/
theorem exec_unconnected (ft : Features) (hc : d.conn = none) {incoming : ℕ} {call : FrpCall}
    (hno : call.receives d incoming = false) :
    Unconnected d ((call.within incoming).exec ft d).1 := by
  cases call with
  | handleEvent env ev => exact handleEvent_unconnected hc env.opened ev
  | sendDeviceInfo env => exact sendTelemetry_unconnected hc env.opened none none
  | pollConnection env _ =>
    have hempty : ¬(d.conn = none ∧ decide (0 < incoming) = true) := by
      rintro ⟨-, hincoming⟩
      simp [FrpCall.receives, hc, hincoming] at hno
    show Unconnected d ((pollConnection env.opened (0 < incoming)).exec d).1
    rw [pollConnection_exec, if_neg hempty]
    exact ⟨hc, rfl⟩
  | checkController env recv =>
    show Unconnected d ((checkController env.opened recv).exec d).1
    rw [checkController_exec, hc]
    exact ⟨hc, rfl⟩
  | setDeviceName name => exact ⟨hc, rfl⟩
  | setFirmware fw => exact ⟨hc, rfl⟩
  | setModel model =>
    show Unconnected d (d.setModel model)
    unfold setModel
    split <;> exact ⟨hc, rfl⟩

/-- From `d` to `d'` one more connection has been adopted and sent the telemetry cached. It is
in use unless its peer was found gone. -/
structure Adopts (env : FrpEnv) (d d' : FrpDevice) : Prop where
  connections : d'.connections = d.connections ++ [.adopted env.send d.telemetry]
  telemetry : d'.telemetry = d.telemetry
  conn : d'.conn = some (.adopted env.send d.telemetry) ∨
    (d'.conn = none ∧ ∃ e, d.telemetry = some e ∧ env.send e = .error .closed)

/-- The connection adopted is in use. -/
theorem adopts_of_conn {d' : FrpDevice} (hc : d.conn = none) {env : FrpEnv}
    (hconn : d'.conn = some (.adopted env.send d.telemetry)) (hgone : d'.gone = d.gone)
    (htelemetry : d'.telemetry = d.telemetry) : Adopts env d d' := by
  refine ⟨?_, htelemetry, .inl hconn⟩
  rw [connections_some hconn, connections_none hc, hgone]

/-- The connection counts as adopted even when its peer is found gone at once. -/
theorem pollConnection_adopts (hc : d.conn = none) (env : FrpEnv) :
    Adopts env d ((pollConnection env true).exec d).1 := by
  rw [pollConnection_exec, if_pos ⟨hc, rfl⟩]
  cases ht : d.telemetry with
  | none =>
    show Adopts env d d.adopt
    refine adopts_of_conn hc ?_ rfl rfl
    show some (⟨d.telemetry, [], none⟩ : Connection) = _
    rw [ht]
    rfl
  | some e =>
    show Adopts env d ((sendEnvelope env e).exec d.adopt).1
    have hfresh : d.adopt.conn = some ⟨some e, [], none⟩ := by
      rw [← ht]
      rfl
    rw [sendEnvelope_exec]
    cases hs : env.send e with
    | ok _ =>
      have hsent : d.adopt.offer env e = { d.adopt with conn := some ⟨some e, [e], none⟩ } := by
        unfold offer
        rw [hfresh]
        dsimp only
        rw [hs]
        rfl
      rw [if_neg (by simp [SendFails, hs]), hsent]
      refine adopts_of_conn hc ?_ rfl rfl
      simp [Connection.adopted, ht, hs]
    | error err =>
      cases err with
      | closed =>
        have hlost : d.adopt.offer env e = d.adopt.lost env ⟨some e, [], some e⟩ := by
          unfold offer
          rw [hfresh]
          dsimp only
          rw [hs]
          rfl
        rw [if_neg (by simp [SendFails, hs]), hlost]
        refine ⟨?_, ?_, .inr ⟨lost_conn _ env _, e, ht, hs⟩⟩
        · rw [connections_none (lost_conn _ env _), connections_none hc, lost_gone]
          simp [Connection.adopted, ht, hs, adopt]
        · exact congrArg Memory.telemetry (lost_memory d.adopt env _)
      | other =>
        rw [if_pos ⟨by simp [hfresh], hs⟩]
        refine adopts_of_conn hc ?_ rfl rfl
        rw [hfresh]
        simp [Connection.adopted, ht, hs]

end FrpDevice

/-! ## The link while the device waits -/

namespace FrpLink

variable {ft : Features}

/-- Where the device's one request is: how many steps are left to the adoption. -/
def rank (s : FrpLink) : ℕ := s.queued * 3 + s.working.toNat * 2 + s.incoming

/-- Whose step is needed next. -/
inductive Party where
  | device
  | acceptor

/-- Once a connection is established it is the device's turn. -/
def turn (s : FrpLink) : Party := if 0 < s.incoming then .device else .acceptor

/-- A step that brings its party on: the device looks for a connection, the acceptor
receives a request or establishes a connection. -/
def Party.Moves : Party → FrpMove → Prop
  | .device, .call (.pollConnection _ _) => True
  | .acceptor, .accept established => established = true
  | _, _ => False

/-- In a step the device looks for a connection and adopts one. -/
def Establishes (ft : Features) (s : FrpLink) (m : FrpMove) : Prop :=
  ∃ env incoming, m = .call (.pollConnection env incoming) ∧
    s.device.Adopts env ((machine ft).next s m).device

/-- A step of a link whose device waits: a connection is adopted, or it is one step
nearer, or all is as it was because it was not the step of the party whose turn it is. -/
theorem step_waiting {s : FrpLink} (h : s.Balanced) (hc : s.device.conn = none) (m : FrpMove) :
    s.Establishes ft m ∨
      (s.device.Unconnected ((machine ft).next s m).device ∧
        (((machine ft).next s m).rank < s.rank ∨
          (((machine ft).next s m).rank = s.rank ∧ ((machine ft).next s m).turn = s.turn ∧
            ¬s.turn.Moves m))) := by
  have hpending : s.device.pending = true := h.waits.1 hc
  have haccount := h.account
  rw [hpending] at haccount
  show s.Establishes ft m ∨ (s.device.Unconnected (s.step ft m).device ∧
    ((s.step ft m).rank < s.rank ∨
      ((s.step ft m).rank = s.rank ∧ (s.step ft m).turn = s.turn ∧ ¬s.turn.Moves m)))
  cases m with
  | call call =>
    have hasks := FrpDevice.exec_asks ft h.waits s.incoming call
    cases hreceives : call.receives s.device s.incoming with
    | true =>
      left
      cases call with
      | pollConnection env incoming =>
        have hincoming : decide (0 < s.incoming) = true := by
          simpa [FrpCall.receives, hc] using hreceives
        have hadopts := FrpDevice.pollConnection_adopts hc env.opened
        refine ⟨env, incoming, rfl, ?_⟩
        show s.device.Adopts env
          ((FrpDevice.pollConnection env.opened (0 < s.incoming)).exec s.device).1
        rw [hincoming]
        exact ⟨hadopts.connections, hadopts.telemetry, hadopts.conn⟩
      | handleEvent | sendDeviceInfo | checkController | setDeviceName | setFirmware | setModel =>
        cases hreceives
    | false =>
      -- the request stays where it is
      rw [hreceives] at hasks
      have hidle := FrpDevice.exec_unconnected ft hc hreceives
      have hbalance := hasks.balance
      have hstill : ((call.within s.incoming).exec ft s.device).1.pending = true :=
        hasks.waits.1 hidle.conn
      rw [hpending, hstill, Bool.toNat_false, Nat.add_zero] at hbalance
      have hqueued : (s.step ft (.call call)).queued = s.queued := by
        simp only [step]
        omega
      have hincoming : (s.step ft (.call call)).incoming = s.incoming := by
        simp only [step]
        rw [hreceives]
        rfl
      refine .inr ⟨hidle, .inr ⟨?_, ?_, ?_⟩⟩
      · unfold rank
        rw [hqueued, hincoming]
        rfl
      · unfold turn
        rw [hincoming]
      · intro hmoves
        unfold turn at hmoves
        split at hmoves
        · rename_i hwaiting
          cases call with
          | pollConnection env _ => simp [FrpCall.receives, hc, hwaiting] at hreceives
          | handleEvent | sendDeviceInfo | checkController | setDeviceName | setFirmware
          | setModel => exact hmoves
        · exact hmoves
  | accept established =>
    right
    unfold step
    cases hworking : s.working with
    | true =>
      rw [hworking] at haccount
      have hincoming : s.incoming = 0 := by
        simp at haccount
        omega
      cases established with
      | true =>
        refine ⟨⟨hc, rfl⟩, .inl ?_⟩
        simp [rank, hworking]
        omega
      | false =>
        refine ⟨⟨hc, rfl⟩, .inr ⟨rfl, rfl, ?_⟩⟩
        simp [turn, hincoming, Party.Moves]
    | false =>
      cases hqueued : s.queued with
      | zero =>
        -- no request is left to take: the connection is established already
        rw [hworking, hqueued] at haccount
        have hincoming : 0 < s.incoming := by
          simp at haccount
          omega
        refine ⟨⟨hc, rfl⟩, .inr ⟨rfl, rfl, ?_⟩⟩
        simp [turn, hincoming, Party.Moves]
      | succ k =>
        refine ⟨⟨hc, rfl⟩, .inl ?_⟩
        simp [rank, hworking, hqueued]
        omega

/-- On every schedule in which the device looks for a connection again and again, and the
acceptor's steps succeed again and again: from every state in which the device has no
connection there comes a step in which it looks for one and adopts one more, no other having
been adopted or dropped before. The peer of that connection then has the telemetry that was
cached, if any was, or it was found gone by that send, or the send has failed otherwise. -/
theorem connection_reestablished (ft : Features) (env : FrpEnv) (sched : ℕ → FrpMove)
    (hpolls : ∃ᶠ n in atTop, Party.device.Moves (sched n))
    (hconnects : ∃ᶠ n in atTop, Party.acceptor.Moves (sched n)) (n : ℕ)
    (hnone : ((machine ft).reach (spawn env) sched n).device.conn = none) :
    ∃ m ≥ n, ∃ env' incoming, sched m = .call (.pollConnection env' incoming) ∧
      let d := ((machine ft).reach (spawn env) sched m).device
      let d' := ((machine ft).reach (spawn env) sched (m + 1)).device
      d.conn = none ∧ d.gone = ((machine ft).reach (spawn env) sched n).device.gone ∧
        d.Adopts env' d' := by
  generalize hs : (machine ft).reach (spawn env) sched n = s at hnone
  have hbalanced : s.Balanced := by
    rw [← hs]
    exact (machine ft).run_invariant Balanced next_balanced _ (spawn_balanced env)
  have hleads : ∃ m ≥ n,
      (((machine ft).reach (spawn env) sched m).Balanced ∧
        s.device.Unconnected ((machine ft).reach (spawn env) sched m).device) ∧
      ((machine ft).reach (spawn env) sched m).Establishes ft (sched m) := by
    refine (machine ft).leads_to (P := fun s' => s'.Balanced ∧ s.device.Unconnected s'.device)
      (Q := Establishes ft) rank turn Party.Moves ?_ ?_ ?_
    · rintro s' m ⟨hbal, hidle⟩
      rcases @step_waiting ft s' hbal hidle.conn m with hadopts | ⟨hidle', hrank⟩
      · exact .inl hadopts
      · right
        exact ⟨⟨next_balanced s' m hbal, hidle'.conn, hidle'.gone.trans hidle.gone⟩, hrank⟩
    · rintro (_ | _)
      · exact hpolls
      · exact hconnects
    · rw [hs]
      exact ⟨hbalanced, hnone, rfl⟩
  rcases hleads with ⟨m, hm, ⟨-, hidle⟩, env', incoming, hmove, hadopts⟩
  refine ⟨m, hm, env', incoming, hmove, hidle.conn, hidle.gone, ?_⟩
  rwa [(machine ft).reach_succ]

/-- The device reports a change of its state and looks for a connection, and in between the
acceptor takes its two steps. -/
theorem connection_reestablished_first :
    let env : FrpEnv := ⟨fun _ => .ok (), true, 0⟩
    let sched : ℕ → FrpMove := fun n =>
      if n % 4 = 0 then .call (.handleEvent env (.stateChanged .ready))
      else if n % 4 = 3 then .call (.pollConnection env false)
      else .accept true
    ∃ m ≥ 0, ∃ env' incoming, sched m = .call (.pollConnection env' incoming) ∧
      let d := ((machine ⟨false⟩).reach (spawn env) sched m).device
      let d' := ((machine ⟨false⟩).reach (spawn env) sched (m + 1)).device
      d.conn = none ∧ d.gone = [] ∧ d.Adopts env' d' := by
  intro env sched
  have hpolls : ∃ᶠ n in atTop, Party.device.Moves (sched n) := by
    refine (Nat.frequently_mod_eq (d := 3) (n := 4) (by decide)).mono ?_
    intro n hn
    simp only [sched, hn, OfNat.ofNat_ne_zero, if_false, if_true]
    trivial
  have hconnects : ∃ᶠ n in atTop, Party.acceptor.Moves (sched n) := by
    refine (Nat.frequently_mod_eq (d := 1) (n := 4) (by decide)).mono ?_
    intro n hn
    simp only [sched, hn, one_ne_zero, OfNat.one_ne_ofNat, if_false]
    rfl
  exact connection_reestablished ⟨false⟩ env sched hpolls hconnects 0 rfl

end FrpLink

end AllSquare
