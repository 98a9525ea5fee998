import AllSquare.Frp.Groups

/-! # Every controller sees whole shots

When every send is taken or finds the peer gone, every connection the device
ever had is good: what it accepted is telemetry and whole groups, cut short only
by its own end, the cached telemetry first, and each shot only after the
controller has been told that the device is not ready. Shot numbers increase
over all groups of all connections, and no group is spread over two of them
(`connections_well_formed`).

`Inv` is what holds between calls: the connection in use has accepted the cached
telemetry last, so telemetry that is suppressed is telemetry the controller has.
-/

namespace AllSquare

/-- Every send is taken or finds the peer gone. -/
def FrpEnv.Polite (env : FrpEnv) : Prop := ∀ e, env.send e ≠ .error .other

/-! ## The connections of a device -/

/-- The connections of a device whose last shot has number `n`. -/
structure History (n : ℕ) (conns : List Connection) : Prop where
  good : ∀ c ∈ conns, c.Good
  increasing : (conns.flatMap Connection.triggers).Pairwise fun k k' =>
    k.shotNumber < k'.shotNumber
  bound : ∀ k ∈ conns.flatMap Connection.triggers, k.shotNumber.toNat ≤ n

namespace History

variable {n : ℕ} {conns : List Connection} {c c' : Connection}

theorem empty : History 0 [] where
  good := by simp
  increasing := .nil
  bound := by simp

theorem adopt (h : History n conns) (t : Option Envelope) :
    History n (conns ++ [⟨t, [], none⟩]) := by
  have htriggers : (conns ++ [(⟨t, [], none⟩ : Connection)]).flatMap Connection.triggers =
      conns.flatMap Connection.triggers := by
    simp [Connection.triggers, Connection.events]
  refine ⟨?_, htriggers ▸ h.increasing, htriggers ▸ h.bound⟩
  intro c hc
  rcases List.mem_append.1 hc with hc | hc
  · exact h.good c hc
  · exact List.mem_singleton.1 hc ▸ .fresh t

theorem good_replace (h : History n (conns ++ [c])) (hgood : c'.Good) :
    ∀ x ∈ conns ++ [c'], x.Good := by
  intro x hx
  rcases List.mem_append.1 hx with hx | hx
  · exact h.good x (List.mem_append_left _ hx)
  · exact List.mem_singleton.1 hx ▸ hgood

/-- The last connection goes on without beginning a shot. -/
theorem replace (h : History n (conns ++ [c])) (hgood : c'.Good)
    (htriggers : c'.triggers = c.triggers) : History n (conns ++ [c']) := by
  have heq : (conns ++ [c']).flatMap Connection.triggers =
      (conns ++ [c]).flatMap Connection.triggers := by
    simp [htriggers]
  exact ⟨h.good_replace hgood, heq ▸ h.increasing, heq ▸ h.bound⟩

/-- The last connection begins the next shot. -/
theorem begin (h : History n (conns ++ [c])) (hgood : c'.Good) {k : ShotKey}
    (htriggers : c'.triggers = c.triggers ++ [k]) (hk : k.shotNumber.toNat = n + 1) :
    History (n + 1) (conns ++ [c']) := by
  have heq : (conns ++ [c']).flatMap Connection.triggers =
      (conns ++ [c]).flatMap Connection.triggers ++ [k] := by
    simp [htriggers]
  refine ⟨h.good_replace hgood, ?_, ?_⟩
  · rw [heq]
    refine List.pairwise_append.2 ⟨h.increasing, List.pairwise_singleton _ _, ?_⟩
    intro k₁ hk₁ k₂ hk₂
    rw [List.mem_singleton.1 hk₂, UInt32.lt_iff_toNat_lt, hk]
    exact Nat.lt_succ_of_le (h.bound k₁ hk₁)
  · rw [heq]
    intro k' hk'
    rcases List.mem_append.1 hk' with hk' | hk'
    · exact Nat.le_succ_of_le (h.bound k' hk')
    · rw [List.mem_singleton.1 hk', hk]

theorem mono {m : ℕ} (h : History n conns) (hm : n ≤ m) : History m conns where
  good := h.good
  increasing := h.increasing
  bound := fun k hk => (h.bound k hk).trans hm

end History

namespace FrpDevice

variable {ft : Features}

/-- All the connections the device has had, in order. -/
def connections (d : FrpDevice) : List Connection := d.gone ++ d.conn.toList

/-- The device between calls. -/
structure Inv (d : FrpDevice) : Prop where
  consistent : d.Consistent
  history : History d.shotNumber.toNat d.connections
  /-- The connection in use has accepted the cached telemetry, and that last. -/
  live : ∀ c, d.conn = some c → c.Live ∧ c.lastTelemetry = d.telemetry

theorem connections_some {d : FrpDevice} {c : Connection} (hc : d.conn = some c) :
    d.connections = d.gone ++ [c] := by
  simp [connections, hc]

theorem connections_none {d : FrpDevice} (hc : d.conn = none) : d.connections = d.gone := by
  simp [connections, hc]

theorem memory_shotNumber {d d' : FrpDevice} (h : d'.memory = d.memory) :
    d'.shotNumber = d.shotNumber := congrArg Memory.shotNumber h

/-! ## Telemetry -/

section Telemetry

variable {env : FrpEnv} {d : FrpDevice}

/-- The cached telemetry is offered to the connection. -/
theorem inv_offer_telemetry {c : Connection} {e : Envelope} (hcons : d.Consistent)
    (hhistory : History d.shotNumber.toNat d.connections) (hc : d.conn = some c)
    (he : d.telemetry = some e) (htraffic : Traffic c.events)
    (hcached : c.accepted = [] → ∀ t, c.cached = some t → e = t) : Inv (d.offer env e) := by
  have hmemory := offer_memory d env e
  have hcons' : (d.offer env e).Consistent :=
    hcons.of_memory (memory_telemetry hmemory) (memory_lastReady hmemory)
  have htel := (hcons.ready e he).2
  rw [connections_some hc] at hhistory
  have hgood : c.Good := hhistory.good c (by simp)
  rcases offer_cases hc env e with ⟨-, hconn, hgone⟩ | ⟨hconn, hgone⟩
  · -- taken: the cached telemetry is the last accepted
    have hlive : (c.accept e).Live := hgood.telemetry htraffic htel hcached
    refine ⟨hcons', ?_, ?_⟩
    · rw [connections_some hconn, hgone, memory_shotNumber hmemory]
      apply hhistory.replace hlive.good
      have hnot : e.event.trigger = none := by
        revert htel
        cases e.event <;> simp [FrpEvent.trigger, FrpEvent.IsShot]
      simp [Connection.accept_eq_acceptAll, Connection.acceptAll_triggers, hnot]
    · intro c' hc'
      obtain rfl : c.accept e = c' := Option.some.inj (hconn.symm.trans hc')
      rw [memory_telemetry hmemory, he]
      exact ⟨hlive, c.lastTelemetry_accept_telemetry htel⟩
  · refine ⟨hcons', ?_, ?_⟩
    · -- refused: the connection is gone, with nothing new accepted
      rw [connections_none hconn, hgone, memory_shotNumber hmemory]
      exact hhistory.replace (hgood.refuse htraffic e) rfl
    · intro c' hc'
      rw [hconn] at hc'
      cases hc'

theorem sendEnvelope_polite (hpolite : env.Polite) (e : Envelope) (d : FrpDevice) :
    (sendEnvelope env e).exec d = (d.offer env e, .ok ()) := by
  rw [sendEnvelope_exec, if_neg fun hf => hpolite e hf.2]

/-- Telemetry is sent, or suppressed because the controller has it. -/
theorem Inv.sendTelemetry (h : Inv d) (hpolite : env.Polite) (ready : Option Bool)
    (battery : Option UInt8) :
    ∃ d', (sendTelemetry env ready battery).exec d = (d', .ok ()) ∧ Inv d' ∧
      d'.shotNumber = d.shotNumber ∧ (ready.isSome → d'.lastReady = ready) := by
  rw [sendTelemetry_exec]
  split
  · rename_i hs
    -- suppressed: the value is the one remembered
    exact ⟨d, rfl, h, rfl, fun _ => hs.2.2.symm⟩
  · have hmemory := offer_memory (d.reported ready battery) env (d.report ready battery)
    have hcons := reported_consistent d ready battery
    have hnumber := memory_shotNumber hmemory
    rw [sendEnvelope_polite hpolite]
    refine ⟨_, rfl, ?_, hnumber, ?_⟩
    · cases hc : d.conn with
      | none =>
        have hconn : (d.reported ready battery).conn = none := hc
        rw [offer_none hconn]
        refine ⟨hcons, h.history, ?_⟩
        intro c hc'
        rw [hconn] at hc'
        cases hc'
      | some c =>
        have hlive := (h.live c hc).1
        apply inv_offer_telemetry hcons h.history hc rfl hlive.traffic
        intro hnil t ht
        rw [hlive.cached hnil] at ht
        cases ht
    · intro hready
      rw [memory_lastReady hmemory]
      rcases Option.isSome_iff_exists.1 hready with ⟨r, rfl⟩
      rfl

/-- A connection is adopted. -/
theorem Inv.pollConnection (h : Inv d) (hpolite : env.Polite) (incoming : Bool) :
    Inv ((pollConnection env incoming).exec d).1 ∧
      ((pollConnection env incoming).exec d).1.shotNumber = d.shotNumber := by
  rw [pollConnection_exec]
  split
  · rename_i hadopt
    have hcons : d.adopt.Consistent := h.consistent.of_memory rfl rfl
    have hhistory : History d.adopt.shotNumber.toNat d.adopt.connections := by
      have hold := h.history
      rw [connections_none hadopt.1] at hold
      exact hold.adopt d.telemetry
    cases ht : d.telemetry with
    | none =>
      refine ⟨⟨hcons, hhistory, fun c hc => ?_⟩, rfl⟩
      obtain rfl := Option.some.inj hc
      exact ⟨⟨.fresh _, .nil, fun _ => ht⟩, ht.symm⟩
    | some e =>
      simp only
      rw [sendEnvelope_polite hpolite]
      refine ⟨inv_offer_telemetry hcons hhistory rfl ht .nil fun _ t hcached => ?_,
        memory_shotNumber (offer_memory _ env e)⟩
      exact Option.some.inj (ht.symm.trans hcached)
  · exact ⟨h, rfl⟩

end Telemetry

/-! ## Shots -/

/-- After a list of envelopes has been offered one by one. -/
def offers (d : FrpDevice) (env : FrpEnv) (es : List Envelope) : FrpDevice :=
  es.foldl (fun d e => d.offer env e) d

section Shots

variable {env : FrpEnv}

theorem offers_none {d : FrpDevice} (hc : d.conn = none) (es : List Envelope) :
    d.offers env es = d := by
  induction es with
  | nil => rfl
  | cons e es ih =>
    show (d.offer env e).offers env es = d
    rw [offer_none hc, ih]

theorem offers_memory (env : FrpEnv) (d : FrpDevice) (es : List Envelope) :
    (d.offers env es).memory = d.memory := by
  induction es generalizing d with
  | nil => rfl
  | cons e es ih => exact (ih _).trans (offer_memory d env e)

/-- Offers are taken up to the first that finds the peer gone. -/
theorem offers_cases (env : FrpEnv) {d : FrpDevice} {c : Connection} (hc : d.conn = some c)
    (es : List Envelope) :
    ((d.offers env es).conn = some (c.acceptAll es) ∧ (d.offers env es).gone = d.gone) ∨
    ∃ pre e post, es = pre ++ e :: post ∧ (d.offers env es).conn = none ∧
      (d.offers env es).gone = d.gone ++ [(c.acceptAll pre).refuse e] := by
  induction es generalizing d c with
  | nil => exact .inl ⟨hc.trans (congrArg some c.acceptAll_nil.symm), rfl⟩
  | cons e es ih =>
    have hcons : d.offers env (e :: es) = (d.offer env e).offers env es := rfl
    rw [hcons]
    rcases offer_cases hc env e with ⟨-, hconn, hgone⟩ | ⟨hconn, hgone⟩
    · rw [← c.accept_acceptAll e es, ← hgone]
      rcases ih hconn with htaken | ⟨pre, e', post, rfl, hnone, hcut⟩
      · exact .inl htaken
      · refine .inr ⟨e :: pre, e', post, rfl, hnone, ?_⟩
        rw [hcut, c.accept_acceptAll e pre]
    · refine .inr ⟨[], e, es, rfl, ?_⟩
      rw [offers_none hconn]
      exact ⟨hconn, by simpa using hgone⟩

theorem sendEvents_polite (hpolite : env.Polite) (evs : List FrpEvent) (d : FrpDevice) :
    (sendEvents env evs).exec d = (d.offers env (evs.map (⟨d.device, ·⟩)), .ok ()) := by
  induction evs generalizing d with
  | nil => rfl
  | cons ev rest ih =>
    rw [sendEvents_exec]
    split
    · rename_i hc
      rw [offers_none hc]
    · rw [if_neg fun hf => hpolite _ hf.2, ih]
      have hdevice : (d.offer env ⟨d.device, ev⟩).device = d.device :=
        congrArg Memory.device (offer_memory d env _)
      rw [hdevice]
      rfl

/-- The events of the next shot are offered. -/
theorem Inv.shot {d : FrpDevice} (h : Inv d) (env : FrpEnv) (hready : d.lastReady = some false)
    (hnumber : d.shotNumber.toNat + 1 < 2 ^ 32) {id : Text} {es : List Envelope}
    (hg : Group ⟨id, d.shotNumber + 1⟩ (es.map Envelope.event)) :
    Inv (d.nextShot.offers env es) ∧
      (d.nextShot.offers env es).shotNumber.toNat = d.shotNumber.toNat + 1 := by
  have hnext : d.nextShot.shotNumber.toNat = d.shotNumber.toNat + 1 := by
    unfold nextShot
    rw [UInt32.toNat_add]
    exact Nat.mod_eq_of_lt hnumber
  have hmemory := offers_memory env d.nextShot es
  have hshot : (d.nextShot.offers env es).shotNumber.toNat = d.shotNumber.toNat + 1 :=
    (congrArg UInt32.toNat (memory_shotNumber hmemory)).trans hnext
  have hcons : (d.nextShot.offers env es).Consistent := by
    have hcons' : d.nextShot.Consistent := h.consistent.of_memory rfl rfl
    exact hcons'.of_memory (memory_telemetry hmemory) (memory_lastReady hmemory)
  refine ⟨?_, hshot⟩
  cases hc : d.conn with
  | none =>
    -- nobody is listening
    have hconn : d.nextShot.conn = none := hc
    rw [offers_none hconn] at hcons hshot ⊢
    refine ⟨hcons, ?_, ?_⟩
    · rw [hshot]
      exact h.history.mono (Nat.le_succ _)
    · intro c hc'
      rw [hconn] at hc'
      cases hc'
  | some c =>
    have hconn : d.nextShot.conn = some c := hc
    rcases h.live c hc with ⟨hlive, hlast⟩
    have hhistory := h.history
    rw [connections_some hc] at hhistory
    -- the controller has been told that the device is not ready
    rcases Option.ne_none_iff_exists'.1 (h.consistent.produced (by simp [hready])) with ⟨t, ht⟩
    have htold : t.ready = some (readyText false) := by
      have hsaid := (h.consistent.ready t ht).1
      rwa [hready] at hsaid
    have hunready : ∃ t, c.lastTelemetry = some t ∧ t.ready = some (readyText false) :=
      ⟨t, hlast.trans ht, htold⟩
    -- the whole group is taken, or the connection ends within it
    rcases offers_cases env hconn es with ⟨htaken, hgone⟩ | ⟨pre, e, post, rfl, hnone, hgone⟩
    · rcases hlive.group hunready hg with ⟨hlive', hlast', htriggers⟩
      refine ⟨hcons, ?_, ?_⟩
      · rw [connections_some htaken, hgone, hshot]
        exact hhistory.begin hlive'.good htriggers hnext
      · intro c' hc'
        obtain rfl := Option.some.inj (htaken.symm.trans hc')
        rw [memory_telemetry hmemory]
        exact ⟨hlive', hlast'.trans hlast⟩
    · rcases hlive.cut hunready hg with ⟨hgood, htriggers⟩
      refine ⟨hcons, ?_, ?_⟩
      · rw [connections_none hnone, hgone, hshot]
        rcases htriggers with hsame | hbegun
        · exact (hhistory.replace hgood hsame).mono (Nat.le_succ _)
        · exact hhistory.begin hgood hbegun hnext
      · intro c' hc'
        rw [hnone] at hc'
        cases hc'

end Shots

end FrpDevice

/-! ## Calls and runs -/

namespace FrpCall

/-- Every send of the call is taken or finds the peer gone. -/
def Polite (call : FrpCall) : Prop := ∀ e, call.send e ≠ .error .other

/-- The call handles a shot. -/
def isShot : FrpCall → Bool
  | .handleEvent _ (.shot _ _) => true
  | _ => false

end FrpCall

/-- The shots among some calls. -/
def shotCalls (calls : List FrpCall) : ℕ := calls.countP FrpCall.isShot

open FrpDevice

variable {ft : Features}

theorem FrpDevice.Inv.handleEvent {d : FrpDevice} (h : d.Inv) {env : FrpEnv}
    (hpolite : env.Polite) (ev : Event)
    (hnumber : d.shotNumber.toNat + shotCalls [.handleEvent env ev] < 2 ^ 32) :
    Inv ((FrpDevice.handleEvent ft env ev).exec d).1 ∧
      ((FrpDevice.handleEvent ft env ev).exec d).1.shotNumber.toNat =
        d.shotNumber.toNat + shotCalls [.handleEvent env ev] := by
  cases ev with
  | stateChanged state =>
    rcases h.sendTelemetry hpolite (some (state == .ready)) none with ⟨d', hexec, hinv, hshot, -⟩
    rw [FrpDevice.handleEvent, hexec]
    exact ⟨hinv, congrArg UInt32.toNat hshot⟩
  | battery percent _ =>
    rcases h.sendTelemetry hpolite none (some percent) with ⟨d', hexec, hinv, hshot, -⟩
    rw [FrpDevice.handleEvent, hexec]
    exact ⟨hinv, congrArg UInt32.toNat hshot⟩
  | shot b m =>
    rcases h.sendTelemetry hpolite (some false) none with ⟨d', hexec, hinv, hshot, hready⟩
    have hnumber' : d'.shotNumber.toNat + 1 < 2 ^ 32 := by
      rw [hshot]
      exact hnumber
    rw [handleEvent_shot, hexec]
    simp only
    rw [sendEvents_polite hpolite]
    have hg : Group ⟨ShotId.uuidV4 env.nanos, d'.shotNumber + 1⟩
        (((shotEvents ft ⟨ShotId.uuidV4 env.nanos, d'.shotNumber + 1⟩ b m).map
          (⟨d'.nextShot.device, ·⟩)).map Envelope.event) := by
      rw [List.map_map]
      exact (List.map_id _).symm ▸ shotEvents_group ft _ b m
    rcases hinv.shot env (hready rfl) hnumber' hg with ⟨hinv', hshot'⟩
    exact ⟨hinv', hshot'.trans (congrArg (fun n : UInt32 => n.toNat + 1) hshot)⟩
  | connected | sensor | clock | alignment => exact ⟨h, rfl⟩

/-- One call. -/
theorem FrpDevice.Inv.call {d : FrpDevice} (h : d.Inv) (ft : Features) (call : FrpCall)
    (hpolite : call.Polite) (hnumber : d.shotNumber.toNat + shotCalls [call] < 2 ^ 32) :
    Inv (call.exec ft d).1 ∧
      (call.exec ft d).1.shotNumber.toNat = d.shotNumber.toNat + shotCalls [call] := by
  have hsame {d' : FrpDevice} (hmemory : d'.memory = d.memory) : d'.Consistent :=
    h.consistent.of_memory (memory_telemetry hmemory) (memory_lastReady hmemory)
  cases call with
  | handleEvent env ev => exact h.handleEvent hpolite ev hnumber
  | sendDeviceInfo env =>
    rcases h.sendTelemetry hpolite none none with ⟨d', hexec, hinv, hshot, -⟩
    simp only [FrpCall.exec, FrpDevice.sendDeviceInfo, hexec]
    exact ⟨hinv, congrArg UInt32.toNat hshot⟩
  | pollConnection env incoming =>
    rcases h.pollConnection hpolite incoming with ⟨hinv, hshot⟩
    exact ⟨hinv, congrArg UInt32.toNat hshot⟩
  | checkController env recv =>
    show Inv ((FrpDevice.checkController env recv).exec d).1 ∧
      ((FrpDevice.checkController env recv).exec d).1.shotNumber.toNat = d.shotNumber.toNat
    rw [checkController_exec]
    split
    · rename_i c _ hc
      have hmemory := lost_memory d env c
      refine ⟨⟨hsame hmemory, ?_, fun c' hc' => ?_⟩,
        congrArg UInt32.toNat (memory_shotNumber hmemory)⟩
      · have hhistory := h.history
        rw [connections_some hc] at hhistory
        rw [connections_none (lost_conn d env c), lost_gone, memory_shotNumber hmemory]
        exact hhistory
      · rw [lost_conn] at hc'
        cases hc'
    · exact ⟨h, rfl⟩
  | setDeviceName name => exact ⟨⟨h.consistent.of_memory rfl rfl, h.history, h.live⟩, rfl⟩
  | setFirmware fw => exact ⟨⟨h.consistent.of_memory rfl rfl, h.history, h.live⟩, rfl⟩
  | setModel model =>
    simp only [FrpCall.exec, FrpDevice.setModel]
    split
    · exact ⟨h, rfl⟩
    · exact ⟨⟨h.consistent.of_memory rfl rfl, h.history, h.live⟩, rfl⟩

/-- A run of calls. -/
theorem FrpDevice.Inv.run {d : FrpDevice} (h : d.Inv) {calls : List FrpCall}
    (hpolite : ∀ call ∈ calls, call.Polite)
    (hnumber : d.shotNumber.toNat + shotCalls calls < 2 ^ 32) :
    Inv ((frpMachine ft).run d calls) := by
  induction calls generalizing d with
  | nil => exact h
  | cons call calls ih =>
    have hcount : shotCalls (call :: calls) = shotCalls [call] + shotCalls calls := by
      unfold shotCalls
      rw [← List.countP_append, List.singleton_append]
    rw [hcount] at hnumber
    rcases h.call ft call (hpolite call (List.mem_cons_self ..)) (by omega) with ⟨hinv, hshot⟩
    apply ih hinv (fun c hc => hpolite c (List.mem_cons_of_mem _ hc))
    show (call.exec ft d).1.shotNumber.toNat + shotCalls calls < 2 ^ 32
    omega

theorem inv_spawn (env : FrpEnv) : (spawn env).Inv := by
  have hconn : (spawn env).conn = none := by
    rw [spawn_eq]
    exact requested_conn unconnected env
  have hgone : (spawn env).gone = [] := by
    rw [spawn_eq]
    exact requested_gone unconnected env
  refine ⟨spawn_consistent env, ?_, ?_⟩
  · rw [connections_none hconn, hgone]
    exact History.empty.mono (Nat.zero_le _)
  · intro c hc
    rw [hconn] at hc
    cases hc

/-! ## Whole shots -/

/-- In any run of fewer than `2 ^ 32` shots in which every send is taken or finds
the peer gone: every connection has accepted telemetry and groups, whole but for
one cut short by the connection's end, and the one in use none that is cut
short; the cached telemetry first; and each trigger after `ready=false`. Shot
numbers increase strictly over all groups of all connections, and those of an
earlier connection are below those of a later one. -/
theorem connections_well_formed (ft : Features) (env : FrpEnv) (calls : List FrpCall)
    (hpolite : ∀ call ∈ calls, call.Polite) (hshots : shotCalls calls < 2 ^ 32) :
    let d := (frpMachine ft).run (spawn env) calls
    (∀ c ∈ d.connections, c.Orderly ∧ c.FirstIsCached ∧ c.UnreadyBeforeShots) ∧
      (∀ c, d.conn = some c → Traffic c.events) ∧
      ((d.connections.flatMap Connection.triggers).Pairwise fun k k' =>
        k.shotNumber < k'.shotNumber) ∧
      d.connections.Pairwise fun c c' => ∀ k ∈ c.keys, ∀ k' ∈ c'.keys,
        k.shotNumber < k'.shotNumber := by
  intro d
  have hzero : (spawn env).shotNumber = 0 := by
    rw [spawn_eq]
    exact memory_shotNumber (requested_memory unconnected env)
  have h : d.Inv := (inv_spawn env).run hpolite (by rw [hzero]; simpa using hshots)
  refine ⟨?_, fun c hc => (h.live c hc).1.traffic, h.history.increasing, ?_⟩
  · intro c hc
    have hgood := h.history.good c hc
    exact ⟨hgood.orderly, hgood.first, hgood.unready⟩
  · -- a group on a connection has its trigger there, so the order of the triggers is
    -- the order of the groups
    have hacross := (List.pairwise_flatMap.1 h.history.increasing).2
    apply (List.Pairwise.and_mem.1 hacross).imp
    rintro c c' ⟨hc, hc', hlt⟩ k hk k' hk'
    exact hlt k ((h.history.good c hc).orderly.keys_subset k hk) k'
      ((h.history.good c' hc').orderly.keys_subset k' hk')

/-- A connection lost at the second event of a shot, and the shot after it on the
next connection. -/
theorem connections_well_formed_cut :
    let works : FrpEnv := ⟨fun _ => .ok (), true, 0⟩
    let breaks : FrpEnv := ⟨fun e => if e.event.trigger.isNone ∧ e.event.IsShot then
      .error .closed else .ok (), true, 1⟩
    let ball : BallMetrics := ⟨0x37, 33 / 10, 32, 7, 627, -8, 621, -87⟩
    let d := (frpMachine ⟨false⟩).run (spawn works) [.pollConnection works true,
      .handleEvent works (.stateChanged .ready), .handleEvent breaks (.shot ball none),
      .pollConnection works true, .handleEvent works (.shot ball none)]
    d.connections.map (fun c => c.keys.map ShotKey.shotNumber) = [[1], [2, 2, 2]] ∧
      ∀ c ∈ d.connections, c.Orderly := by
  intro works breaks ball d
  have hworks (call : FrpCall) (h : call.send = fun _ => .ok ()) : call.Polite := by
    intro e
    rw [h]
    nofun
  have hbreaks : (FrpCall.handleEvent breaks (.shot ball none)).Polite := by
    intro e
    simp only [FrpCall.send, breaks]
    split <;> nofun
  refine ⟨by decide, ?_⟩
  intro c hc
  refine ((connections_well_formed ⟨false⟩ works _ ?_ (by decide)).1 c hc).1
  simp only [List.forall_mem_cons, List.not_mem_nil, false_implies, implies_true, and_true]
  exact ⟨hworks _ rfl, hworks _ rfl, hbreaks, hworks _ rfl, hworks _ rfl⟩

end AllSquare
