import AllSquare.Btleplug.Transport

/-! # The life of a btleplug transport

`TransportStep` lists what one step does to a transport, `Sound` is what holds of it
under every interleaving of pump and owner. From these:

* a transport that is down stays down, and nothing the owner begins then reaches the stack
  (`down_for_good`);
* the device is asked to disconnect at most once, and when the transport is gone it has
  been asked, or the stack had reported it disconnected (`released_once`).
-/

namespace AllSquare

namespace Btleplug

open Mpsc Reactive

/-! ## Reading the steps -/

namespace Transport

/-! ## The steps -/

/-- What one step does to a transport. -/
inductive TransportStep (t : Transport) : TransportOp → Transport → Prop
  | stays (op : TransportOp) : TransportStep t op t
  | forwarded (item : StreamItem) (value : List UInt8)
      (hitem : pumped t.id item = some (.data value)) (hrun : t.pump = .running)
      (hlistens : t.notifications.receiver = true) :
      TransportStep t (.arrive item) { t with notifications := t.notifications.send value }
  | orphaned (item : StreamItem) (value : List UInt8)
      (hitem : pumped t.id item = some (.data value)) (hrun : t.pump = .running)
      (hgone : t.notifications.receiver = false) : TransportStep t (.arrive item) t.endPump
  | closing (item : StreamItem) (released : Bool)
      (hitem : pumped t.id item = some (.closed released)) (hrun : t.pump = .running) :
      TransportStep t (.arrive item)
        { t with link := { t.link with released }, pump := .released }
  | downed (hpump : t.pump = .released) :
      TransportStep t .settle { t with link := { t.link with down := true }, pump := .returning }
  | returned (hpump : t.pump = .returning) : TransportStep t .settle t.endPump
  | cancelled (hasked : t.aborted = true) (hrun : t.pump = .running) :
      TransportStep t .cancel t.endPump
  | read (hcall : t.Callable) :
      TransportStep t .read { t with notifications := t.notifications.tryRecv.1 }
  | checked (stack : Stack) (data : List UInt8) (hcall : t.Callable) (hup : ¬t.Down) :
      TransportStep t (.write stack data) { t with writing := some data }
  | handed (stack : Stack) (data : List UInt8) (hwriting : t.writing = some data) :
      TransportStep t (.handOver stack) { t with writing := none, handed := t.handed ++ [data] }
  | disconnected (stack : Stack) (hcall : t.Callable) (hopen : t.closed = false) :
      TransportStep t (.disconnect stack)
        { t.release with closed := true, link := { t.link with down := true }, aborted := true }
  | dropped (hcall : t.Callable) : TransportStep t .drop t.drop

theorem arrive_step (t : Transport) (item : StreamItem) :
    TransportStep t (.arrive item) (t.arrive item) := by
  unfold arrive
  cases hitem : pumped t.id item with
  | none => exact .stays _
  | some p =>
    by_cases hrun : t.pump = .running
    · dsimp only
      rw [if_pos hrun]
      cases p with
      | closed released => exact .closing item released hitem hrun
      | data value =>
        unfold take
        cases hr : t.notifications.receiver with
        | true => exact .forwarded item value hitem hrun hr
        | false => exact .orphaned item value hitem hrun hr
    · dsimp only
      rw [if_neg hrun]
      exact .stays _

theorem settle_step (t : Transport) : TransportStep t .settle t.settle := by
  unfold settle
  cases hpump : t.pump with
  | released => exact .downed hpump
  | returning => exact .returned hpump
  | running | ended => exact .stays _

theorem cancel_step (t : Transport) : TransportStep t .cancel t.cancel := by
  unfold cancel
  split
  · rename_i h
    exact .cancelled h.1 h.2
  · exact .stays _

theorem checkWrite_down {t : Transport} (hdown : t.Down) (stack : Stack) :
    t.checkWrite stack = .error .notConnected := by
  have hup : t.ensureUp = .error .notConnected := if_pos hdown
  unfold checkWrite
  rw [hup]
  rfl

theorem call_step (len : ℕ) {t : Transport} (hcall : t.Callable) (op : TransportOp) :
    TransportStep t op (t.call len op).1 := by
  cases op with
  | read => exact .read hcall
  | drop => exact .dropped hcall
  | arrive | settle | cancel | handOver | readCharacteristic | isConnected => exact .stays _
  | write stack data =>
    show TransportStep t (.write stack data) (t.write stack data)
    unfold write
    cases hchecks : t.checkWrite stack with
    | error e => exact .stays _
    | ok _ =>
      refine .checked stack data hcall ?_
      intro hdown
      rw [checkWrite_down hdown] at hchecks
      cases hchecks
  | disconnect stack =>
    show TransportStep t (.disconnect stack) (t.disconnect stack).1
    unfold disconnect
    cases hopen : t.closed with
    | true => exact .stays _
    | false => exact .disconnected stack hcall hopen

theorem handOver_step (len : ℕ) (t : Transport) (stack : Stack) :
    TransportStep t (.handOver stack) ((machine len).next t (.handOver stack)) := by
  show TransportStep t (.handOver stack)
    (if t.writing.isSome then (t.handOver, TransportReply.written (ioOp stack.write))
      else (t, .none)).1
  cases hwriting : t.writing with
  | none => exact .stays _
  | some data =>
    have hhanded := TransportStep.handed stack data hwriting
    show TransportStep t (.handOver stack) t.handOver
    unfold handOver
    rw [hwriting]
    exact hhanded

/-- A step of a transport does one of the things `TransportStep` lists. -/
theorem transport_step (len : ℕ) (t : Transport) (op : TransportOp) :
    TransportStep t op ((machine len).next t op) := by
  have hcall : TransportStep t op (if t.Callable then t.call len op else (t, .none)).1 := by
    split
    · rename_i hcall
      exact call_step len hcall op
    · exact .stays op
  cases op with
  | arrive item => exact arrive_step t item
  | settle => exact settle_step t
  | cancel => exact cancel_step t
  | handOver stack => exact handOver_step len t stack
  | read | write | readCharacteristic | isConnected | disconnect | drop => exact hcall

/-! ## What always holds -/

/-- What holds of a transport under every interleaving. -/
structure Sound (t : Transport) : Prop where
  listens : t.notifications.receiver = true ↔ t.dropped = false
  speaks : t.notifications.sender = true ↔ t.pump ≠ .ended
  /-- The pump stores `released` once, when it stops running. -/
  unreported : t.pump = .running → t.link.released = false
  asked : t.aborted = true → t.closed = true ∨ t.dropped = true
  ended : t.pump = .ended → t.Down ∨ t.dropped = true
  returning : t.pump = .returning → t.Down
  unused : t.closed = false → t.dropped = false → t.disconnects = 0
  once : t.disconnects ≤ 1
  used : t.closed = true ∨ t.dropped = true → t.disconnects = 1 ∨ t.link.released = true

theorem opened_sound (id : PeripheralId) : (opened id).Sound where
  listens := by simp [opened, Channel.new]
  speaks := by simp [opened, Channel.new]
  unreported := fun _ => rfl
  asked := fun h => by cases h
  ended := fun h => by cases h
  returning := fun h => by cases h
  unused := fun _ _ => rfl
  once := Nat.zero_le 1
  used := fun h => by rcases h with h | h <;> cases h

section Preservation

variable {t t' : Transport}

/-- A pump may end once the owner can tell. -/
theorem Sound.endPump (h : t.Sound) (hend : t.Down ∨ t.dropped = true) : t.endPump.Sound where
  listens := h.listens
  speaks := by simp [Transport.endPump, Channel.dropSender]
  unreported := fun hrun => by cases hrun
  asked := h.asked
  ended := fun _ => hend
  returning := fun hpump => by cases hpump
  unused := h.unused
  once := h.once
  used := h.used

/-- Only the queue has changed. -/
theorem Sound.queue (h : t.Sound) {ch : Ble.Notifications}
    (hsender : ch.sender = t.notifications.sender)
    (hreceiver : ch.receiver = t.notifications.receiver) :
    Sound { t with notifications := ch } where
  listens := hreceiver ▸ h.listens
  speaks := hsender ▸ h.speaks
  unreported := h.unreported
  asked := h.asked
  ended := h.ended
  returning := h.returning
  unused := h.unused
  once := h.once
  used := h.used

/-- A transport that is still open asks for the first disconnect, or need not. -/
theorem Sound.release (h : t.Sound) (hclosed : t.closed = false) (halive : t.dropped = false) :
    t.release.disconnects ≤ 1 ∧ (t.release.disconnects = 1 ∨ t.link.released = true) := by
  have hunused := h.unused hclosed halive
  unfold Transport.release
  split
  · rename_i hreleased
    exact ⟨h.once, .inr hreleased⟩
  · exact ⟨by simp [hunused], .inl (by simp [hunused])⟩

/-- Releasing the device changes no more than the count. -/
theorem release_eq (t : Transport) :
    t.release = { t with disconnects := t.release.disconnects } := by
  unfold Transport.release
  split <;> rfl

/-- What dropping a transport changes. -/
theorem drop_eq (t : Transport) :
    t.drop = { t with
      aborted := true, dropped := true, notifications := t.notifications.dropReceiver,
      disconnects := t.drop.disconnects } := by
  unfold Transport.drop
  rw [release_eq]
  split <;> rfl

@[simp] theorem release_notifications : t.release.notifications = t.notifications := by
  rw [release_eq]

@[simp] theorem release_link : t.release.link = t.link := by
  rw [release_eq]

@[simp] theorem release_pump : t.release.pump = t.pump := by
  rw [release_eq]

@[simp] theorem release_dropped : t.release.dropped = t.dropped := by
  rw [release_eq]

@[simp] theorem release_handed : t.release.handed = t.handed := by
  rw [release_eq]

@[simp] theorem release_writing : t.release.writing = t.writing := by
  rw [release_eq]

@[simp] theorem release_id : t.release.id = t.id := by
  rw [release_eq]

@[simp] theorem drop_notifications : t.drop.notifications = t.notifications.dropReceiver := by
  rw [drop_eq]

@[simp] theorem drop_dropped : t.drop.dropped = true := by
  rw [drop_eq]

@[simp] theorem drop_link : t.drop.link = t.link := by
  rw [drop_eq]

@[simp] theorem drop_closed : t.drop.closed = t.closed := by
  rw [drop_eq]

@[simp] theorem drop_pump : t.drop.pump = t.pump := by
  rw [drop_eq]

@[simp] theorem drop_handed : t.drop.handed = t.handed := by
  rw [drop_eq]

@[simp] theorem drop_writing : t.drop.writing = t.writing := by
  rw [drop_eq]

@[simp] theorem drop_id : t.drop.id = t.id := by
  rw [drop_eq]

theorem Sound.drop (h : t.Sound) (halive : t.dropped = false) : t.drop.Sound := by
  -- an open transport asks to be released, a closed one has been
  have hused : t.drop.disconnects ≤ 1 ∧ (t.drop.disconnects = 1 ∨ t.drop.link.released = true) := by
    cases hclosed : t.closed with
    | true =>
      have hdrop : t.drop = { t with
          aborted := true, dropped := true, notifications := t.notifications.dropReceiver } := by
        unfold Transport.drop
        simp only [hclosed, if_true]
      rw [hdrop]
      exact ⟨h.once, h.used (.inl hclosed)⟩
    | false =>
      have hdrop : t.drop = { t.release with
          aborted := true, dropped := true,
          notifications := t.release.notifications.dropReceiver } := by
        unfold Transport.drop
        simp only [hclosed, Bool.false_eq_true, if_false]
      rw [hdrop]
      simpa using h.release hclosed halive
  refine ⟨?_, ?_, ?_, ?_, ?_, ?_, ?_, hused.1, fun _ => hused.2⟩
  · simp [Channel.dropReceiver]
  · rw [drop_notifications, drop_pump]
    exact h.speaks
  · rw [drop_pump, drop_link]
    exact h.unreported
  · intro _
    exact .inr drop_dropped
  · intro _
    exact .inr drop_dropped
  · intro hreturning
    rw [drop_pump] at hreturning
    have hdown := h.returning hreturning
    unfold Down at hdown ⊢
    rwa [drop_closed, drop_link]
  · intro _ halive'
    rw [drop_dropped] at halive'
    cases halive'

/-- Every step keeps a transport sound. -/
theorem TransportStep.sound {op : TransportOp} (h : t.Sound) (hstep : TransportStep t op t') :
    t'.Sound := by
  cases hstep with
  | stays => exact h
  | forwarded item value hitem hrun hlistens =>
    exact h.queue (Channel.send_sender _ _) (Channel.send_receiver _ _)
  | orphaned item value hitem hrun hgone =>
    refine h.endPump (.inr ?_)
    rw [← Bool.not_eq_false]
    intro halive
    rw [h.listens.2 halive] at hgone
    cases hgone
  | closing item released hitem hrun =>
    -- nothing was reported before, so what has been asked for stays asked for
    have hquiet := h.unreported hrun
    refine ⟨h.listens, ?_, nofun, h.asked, nofun, nofun, h.unused, h.once, ?_⟩
    · exact iff_of_true (h.speaks.2 (by simp [hrun])) nofun
    · intro hused
      rcases h.used hused with hasked | hreleased
      · exact .inl hasked
      · rw [hquiet] at hreleased
        cases hreleased
  | downed hpump =>
    refine ⟨h.listens, ?_, nofun, h.asked, nofun, fun _ => .inr rfl, h.unused, h.once, h.used⟩
    exact iff_of_true (h.speaks.2 (by simp [hpump])) nofun
  | returned hpump => exact h.endPump (.inl (h.returning hpump))
  | cancelled hasked hrun => exact h.endPump ((h.asked hasked).imp_left .inl)
  | read => exact h.queue (Channel.tryRecv_sender _) (Channel.tryRecv_receiver _)
  | checked | handed =>
    exact ⟨h.listens, h.speaks, h.unreported, h.asked, h.ended, h.returning, h.unused, h.once,
      h.used⟩
  | disconnected stack hcall hopen =>
    rcases h.release hopen hcall.1 with ⟨honce, hused⟩
    refine ⟨?_, ?_, ?_, fun _ => .inl rfl, fun _ => .inl (.inl rfl), fun _ => .inl rfl, nofun,
      honce, fun _ => hused⟩
    · simpa using h.listens
    · simpa using h.speaks
    · simpa using h.unreported
  | dropped hcall => exact h.drop hcall.1

end Preservation

theorem run_sound (len : ℕ) {t : Transport} (h : t.Sound) (ops : List TransportOp) :
    ((machine len).run t ops).Sound :=
  (machine len).run_invariant Sound (fun t op h => (transport_step len t op).sound h) ops h

/-- Only a drop drops the transport. -/
theorem run_dropped (len : ℕ) (t : Transport) {ops : List TransportOp}
    (h : ∀ op ∈ ops, op ≠ .drop) : ((machine len).run t ops).dropped = t.dropped := by
  refine (machine len).run_invariant_of_meets (fun t' => t'.dropped = t.dropped) ?_ rfl
    ((machine len).meets_of_forall h)
  intro t' op hsame hop
  refine Eq.trans ?_ hsame
  have hstep := transport_step len t' op
  generalize (machine len).next t' op = t'' at hstep
  cases hstep with
  | dropped => exact absurd rfl hop
  | disconnected => exact release_dropped
  | _ => rfl

/-- Only a disconnect closes it. -/
theorem run_closed (len : ℕ) (t : Transport) {ops : List TransportOp}
    (h : ∀ op ∈ ops, ∀ stack, op ≠ .disconnect stack) :
    ((machine len).run t ops).closed = t.closed := by
  refine (machine len).run_invariant_of_meets (fun t' => t'.closed = t.closed) ?_ rfl
    ((machine len).meets_of_forall h)
  intro t' op hsame hop
  refine Eq.trans ?_ hsame
  have hstep := transport_step len t' op
  generalize (machine len).next t' op = t'' at hstep
  cases hstep with
  | disconnected stack => exact absurd rfl (hop stack)
  | dropped => exact drop_closed
  | _ => rfl

/-- Only a write that is begun is on its way. -/
theorem run_writing (len : ℕ) {t : Transport} (hidle : t.writing = none) {ops : List TransportOp}
    (h : ∀ op ∈ ops, ∀ stack data, op ≠ .write stack data) :
    ((machine len).run t ops).writing = none := by
  refine (machine len).run_invariant_of_meets (fun t' => t'.writing = none) ?_ hidle
    ((machine len).meets_of_forall h)
  intro t' op hidle' hop
  have hstep := transport_step len t' op
  generalize (machine len).next t' op = t'' at hstep
  cases hstep with
  | checked stack data => exact absurd rfl (hop stack data)
  | handed => rfl
  | disconnected => exact release_writing.trans hidle'
  | dropped => exact drop_writing.trans hidle'
  | _ => exact hidle'

/-! ## The end of the link -/

theorem TransportStep.id {t t' : Transport} {op : TransportOp} (h : TransportStep t op t') :
    t'.id = t.id := by
  cases h with
  | dropped => exact drop_id
  | disconnected => exact release_id
  | _ => rfl

theorem run_id (len : ℕ) (t : Transport) (ops : List TransportOp) :
    ((machine len).run t ops).id = t.id :=
  (machine len).run_invariant (fun t' => t'.id = t.id)
    (fun t' op h => (transport_step len t' op).id.trans h) ops rfl

/-- The frames handed to the stack, and the one on its way to it. -/
def sent (t : Transport) : List (List UInt8) := t.handed ++ t.writing.toList

/-- A step does not bring a link up again, and without one no write gets past its checks. -/
theorem TransportStep.down {t t' : Transport} {op : TransportOp} (h : TransportStep t op t')
    (hdown : t.Down) : t'.Down ∧ t'.sent = t.sent ∧ t.handed <+: t'.handed := by
  cases h with
  | checked stack data hcall hup => exact absurd hdown hup
  | handed stack data hwriting =>
    refine ⟨hdown, ?_, List.prefix_append _ _⟩
    unfold sent
    rw [hwriting]
    exact List.append_nil _
  | downed => exact ⟨.inr rfl, rfl, List.prefix_rfl⟩
  | disconnected =>
    unfold sent
    rw [release_handed, release_writing]
    exact ⟨.inl rfl, rfl, List.prefix_rfl⟩
  | dropped =>
    unfold sent Down
    rw [drop_closed, drop_link, drop_handed, drop_writing]
    exact ⟨hdown, rfl, List.prefix_rfl⟩
  | _ => exact ⟨hdown, rfl, List.prefix_rfl⟩

/-- A transport that is down stays so, and hands no more over than what was on its way. -/
theorem run_down (len : ℕ) {t : Transport} (h : t.Down) (ops : List TransportOp) :
    ((machine len).run t ops).Down ∧ ((machine len).run t ops).sent = t.sent ∧
      t.handed <+: ((machine len).run t ops).handed := by
  refine (machine len).run_invariant
    (fun t' => t'.Down ∧ t'.sent = t.sent ∧ t.handed <+: t'.handed) ?_ ops
    ⟨h, rfl, List.prefix_rfl⟩
  rintro t' op ⟨hdown, hsent, hhanded⟩
  rcases (transport_step len t' op).down hdown with ⟨hdown', hsent', hhanded'⟩
  exact ⟨hdown', hsent'.trans hsent, hhanded.trans hhanded'⟩

theorem pumped_closed_true {id : PeripheralId} {item : StreamItem} :
    pumped id item = some (.closed true) ↔ item = .deviceDisconnected id := by
  cases item with
  | notification u value =>
    by_cases hu : u = uuid.evt
    · simp [pumped, hu]
    · simp [pumped, hu]
  | notificationsEnd | otherEvent => simp [pumped]
  | deviceDisconnected device =>
    by_cases hdevice : device = id
    · simp [pumped, hdevice]
    · simp [pumped, hdevice]

/-- Only the report of the device's disconnection to a running pump is noted as one. -/
theorem TransportStep.released {t t' : Transport} {op : TransportOp} (h : TransportStep t op t')
    (hreleased : t'.link.released = true) :
    t.link.released = true ∨ (op = .arrive (.deviceDisconnected t.id) ∧ t.pump = .running) := by
  cases h with
  | closing item released hitem hrun =>
    obtain rfl : released = true := hreleased
    rw [pumped_closed_true] at hitem
    exact .inr ⟨congrArg _ hitem, hrun⟩
  | dropped =>
    rw [drop_link] at hreleased
    exact .inl hreleased
  | _ => exact .inl hreleased

/-- A disconnection that is noted was reported to the running pump. -/
theorem exists_reported {len : ℕ} {id : PeripheralId} {ops : List TransportOp}
    (h : ((machine len).run (opened id) ops).link.released = true) :
    ∃ pre post, ops = pre ++ .arrive (.deviceDisconnected id) :: post ∧
      ((machine len).run (opened id) pre).pump = .running := by
  have hopened : ¬(opened id).link.released = true := nofun
  rcases (machine len).exists_change (fun t => t.link.released = true) hopened h with
    ⟨pre, op, post, rfl, hbefore, hafter⟩
  rcases (transport_step len _ op).released hafter with hold | ⟨rfl, hrun⟩
  · exact absurd hold hbefore
  · rw [run_id]
    exact ⟨pre, post, rfl, hrun⟩

/-- The device is asked to disconnect at most once, and not while its transport is in
use. When the transport has been closed or dropped it has been asked, or the stack has
reported it disconnected before. -/
theorem released_once (len : ℕ) (id : PeripheralId) (ops : List TransportOp) :
    let t := (machine len).run (opened id) ops
    t.disconnects ≤ 1 ∧ (t.closed = false → t.dropped = false → t.disconnects = 0) ∧
      (t.closed = true ∨ t.dropped = true → t.disconnects = 1 ∨
        ∃ pre post, ops = pre ++ .arrive (.deviceDisconnected id) :: post ∧
          ((machine len).run (opened id) pre).pump = .running) := by
  intro t
  have hsound : t.Sound := run_sound len (opened_sound id) ops
  refine ⟨hsound.once, hsound.unused, fun hused => ?_⟩
  exact (hsound.used hused).imp_right exists_reported

end Transport

end Btleplug

end AllSquare
