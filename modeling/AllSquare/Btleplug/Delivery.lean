import AllSquare.Btleplug.Lifecycle

/-! # What a btleplug transport delivers

A transport acts on its channel by the channel's operations (`refines_channel`), so the
notifications arrive in order, each once, and the stream's end comes last
(`notifications_delivered`). What it passes on is the first part of what the stack gives
to the pump (`prefix_passed`).
-/

namespace AllSquare

namespace Btleplug

open Mpsc Reactive

/-! ## Items and replies -/

/-- The payload of an item. -/
def Pumped.value : Pumped → Option (List UInt8)
  | .data value => some value
  | .closed _ => none

/-- What taking an item does to the channel; a send that finds nobody listening ends
the pump. -/
def Pumped.channelOp (listens : Bool) : Pumped → Option (Op (List UInt8))
  | .data value => some (if listens then .send value else .dropSender)
  | .closed _ => none

theorem Pumped.puts_channelOp (p : Pumped) {ch : Ble.Notifications} (hs : ch.sender = true) :
    (p.channelOp ch.receiver).bind ch.puts = if ch.receiver then p.value else none := by
  cases p with
  | closed released => simp [channelOp, value]
  | data value =>
    cases hr : ch.receiver with
    | true => exact if_pos ⟨hs, hr⟩
    | false => rfl

/-- The read that a reply is, if any. -/
def TransportReply.reads : TransportReply → List (IoResult (List UInt8))
  | .read r => [r]
  | _ => []

namespace Transport

/-! ## The channel -/

/-- The operation of the channel that a step is. -/
def channelOp (t : Transport) : TransportOp → Option (Op (List UInt8))
  | .arrive item =>
    if t.pump = .running then
      (pumped t.id item).bind (Pumped.channelOp t.notifications.receiver)
    else none
  | .settle => if t.pump = .returning then some .dropSender else none
  | .cancel => if t.aborted ∧ t.pump = .running then some .dropSender else none
  | .read => if t.Callable then some .tryRecv else none
  | .drop => if t.Callable then some .dropReceiver else none
  | _ => none

/-- What a step can be to the channel: the pump sends to an owner who is there or drops its
sender, and the owner receives and drops the receiver. -/
theorem channelOp_eq_some {t : Transport} {op : TransportOp} {o : Op (List UInt8)}
    (h : t.channelOp op = some o) :
    (∃ value, o = .send value ∧ t.notifications.receiver = true) ∨ o = .dropSender ∨
      (o = .tryRecv ∧ op = .read) ∨ (o = .dropReceiver ∧ op = .drop) := by
  cases op with
  | arrive item =>
    unfold channelOp at h
    dsimp only at h
    split at h
    · rcases Option.bind_eq_some_iff.1 h with ⟨p, -, hp⟩
      cases p with
      | closed released => cases hp
      | data value =>
        unfold Pumped.channelOp at hp
        dsimp only at hp
        split at hp
        · rename_i hlistens
          exact .inl ⟨value, (Option.some.inj hp).symm, hlistens⟩
        · exact .inr (.inl (Option.some.inj hp).symm)
    · cases h
  | settle | cancel =>
    unfold channelOp at h
    dsimp only at h
    split at h
    · exact .inr (.inl (Option.some.inj h).symm)
    · cases h
  | read =>
    unfold channelOp at h
    dsimp only at h
    split at h
    · exact .inr (.inr (.inl ⟨(Option.some.inj h).symm, rfl⟩))
    · cases h
  | drop =>
    unfold channelOp at h
    dsimp only at h
    split at h
    · exact .inr (.inr (.inr ⟨(Option.some.inj h).symm, rfl⟩))
    · cases h
  | write | handOver | readCharacteristic | isConnected | disconnect => cases h

/-- The notification that a step takes in: one of the device's EVT characteristic that
reaches a running pump while the transport is there. -/
def passesOn (t : Transport) : TransportOp → Option (List UInt8)
  | .arrive item =>
    if t.pump = .running ∧ t.dropped = false then (pumped t.id item).bind Pumped.value else none
  | _ => none

theorem arrive_notifications (t : Transport) (item : StreamItem) :
    (t.arrive item).notifications =
      (t.channelOp (.arrive item)).elim t.notifications fun o => (t.notifications.step o).1 := by
  unfold arrive channelOp
  dsimp only
  cases hitem : pumped t.id item with
  | none =>
    rw [Option.bind_none, ite_self]
    rfl
  | some p =>
    dsimp only
    rw [Option.bind_some]
    split
    · cases p with
      | closed released => rfl
      | data value =>
        unfold take Pumped.channelOp
        cases t.notifications.receiver <;> rfl
    · rfl

/-- A step moves the channel by the operation it is. -/
theorem next_notifications (len : ℕ) {t : Transport} (h : t.Sound) (op : TransportOp) :
    ((machine len).next t op).notifications =
      (t.channelOp op).elim t.notifications fun o => (t.notifications.step o).1 := by
  cases op with
  | arrive item => exact arrive_notifications t item
  | settle =>
    show t.settle.notifications = _
    unfold settle channelOp
    cases t.pump <;> rfl
  | cancel =>
    show t.cancel.notifications = _
    unfold cancel channelOp
    split <;> rfl
  | read =>
    show (if t.Callable then t.call len .read else (t, .none)).1.notifications = _
    unfold channelOp
    dsimp only
    split
    · rename_i hcall
      show t.notifications.tryRecv.1 = (t.notifications.step .tryRecv).1
      rw [Channel.step_tryRecv (h.listens.2 hcall.1)]
    · rfl
  | drop =>
    show (if t.Callable then t.call len .drop else (t, .none)).1.notifications = _
    unfold channelOp
    dsimp only
    split
    · exact drop_notifications
    · rfl
  | write stack data =>
    show (if t.Callable then t.call len (.write stack data)
      else (t, .none)).1.notifications = t.notifications
    unfold call write
    split
    · dsimp only
      split <;> rfl
    · rfl
  | handOver stack =>
    show (if t.writing.isSome then (t.handOver, TransportReply.written _)
      else (t, .none)).1.notifications = t.notifications
    split <;> rfl
  | disconnect stack =>
    show (if t.Callable then t.call len (.disconnect stack)
      else (t, .none)).1.notifications = t.notifications
    unfold call disconnect
    split
    · dsimp only
      split
      · rfl
      · exact release_notifications
    · rfl
  | readCharacteristic stack u | isConnected stack =>
    show (if t.Callable then t.call len _ else (t, .none)).1.notifications = t.notifications
    split <;> rfl

/-- Only a read answers with one. -/
theorem out_reads (len : ℕ) {t : Transport} (h : t.Sound) (op : TransportOp) :
    ((machine len).out t op).reads =
      (t.channelOp op).elim [] fun o =>
        ((t.notifications.step o).2.map (Ble.readFrom len)).toList := by
  cases op with
  | arrive item =>
    show [] = _
    unfold channelOp
    dsimp only
    split
    · cases pumped t.id item with
      | none => rfl
      | some p =>
        cases p with
        | closed released => rfl
        | data value => cases t.notifications.receiver <;> rfl
    · rfl
  | settle | cancel =>
    show [] = _
    unfold channelOp
    dsimp only
    split <;> rfl
  | read =>
    show (if t.Callable then t.call len .read else (t, .none)).2.reads = _
    unfold channelOp
    dsimp only
    split
    · rename_i hcall
      show [Ble.readFrom len t.notifications.tryRecv.2] =
        ((t.notifications.step .tryRecv).2.map (Ble.readFrom len)).toList
      rw [Channel.step_tryRecv (h.listens.2 hcall.1)]
      rfl
    · rfl
  | drop =>
    show (if t.Callable then t.call len .drop else (t, .none)).2.reads = _
    unfold channelOp
    dsimp only
    split <;> rfl
  | write stack data =>
    show (if t.Callable then t.call len (.write stack data) else (t, .none)).2.reads = []
    split
    · show (t.writeReply stack).reads = []
      unfold writeReply
      split <;> rfl
    · rfl
  | handOver stack =>
    show (if t.writing.isSome then (t.handOver, TransportReply.written _) else (t, .none)).2.reads
      = []
    split <;> rfl
  | readCharacteristic | isConnected | disconnect =>
    show (if t.Callable then t.call len _ else (t, .none)).2.reads = []
    split <;> rfl

/-- A transport acts on its channel as the steps' operations do. -/
theorem refines_channel (len : ℕ) :
    (machine len).Refines Mpsc.machine Sound (fun _ _ => True) notifications channelOp
      TransportReply.reads fun o => (o.map (Ble.readFrom len)).toList where
  inv := fun t op h _ => (transport_step len t op).sound h
  quiet := by
    intro t op h _ hnone
    rw [next_notifications len h, out_reads len h, hnone]
    exact ⟨rfl, rfl⟩
  heard := by
    intro t op o h _ hsome
    rw [next_notifications len h, out_reads len h, hsome]
    exact ⟨rfl, rfl⟩

/-- What the channel takes is what the transport passes on. -/
theorem puts_channelOp {t : Transport} (h : t.Sound) (op : TransportOp) :
    (t.channelOp op).bind t.notifications.puts = t.passesOn op := by
  cases op with
  | arrive item =>
    unfold channelOp passesOn
    dsimp only
    by_cases hrun : t.pump = .running
    · have hspeaks := h.speaks.2 (by simp [hrun])
      rw [if_pos hrun]
      cases pumped t.id item with
      | none => simp
      | some p =>
        rw [Option.bind_some, p.puts_channelOp hspeaks]
        simp [hrun, h.listens]
    · simp [hrun]
  | settle | cancel | read | drop =>
    unfold channelOp passesOn
    dsimp only
    split <;> rfl
  | write | handOver | readCharacteristic | isConnected | disconnect => rfl

/-- The pump runs, and the transport is there. -/
def Forwards (t : Transport) : Prop := t.pump = .running ∧ t.dropped = false

/-- What has stopped does not start again. -/
theorem TransportStep.forwards {t t' : Transport} {op : TransportOp} (h : TransportStep t op t')
    (hforwards : t'.Forwards) : t.Forwards := by
  cases h with
  | stays | forwarded | read | checked | handed => exact hforwards
  | orphaned | closing | downed | returned | cancelled => exact absurd hforwards.1 nofun
  | disconnected =>
    rcases hforwards with ⟨hrun, halive⟩
    exact ⟨release_pump.symm.trans hrun, release_dropped.symm.trans halive⟩
  | dropped =>
    have halive := hforwards.2
    rw [drop_dropped] at halive
    cases halive

theorem passed_of_stopped (len : ℕ) {t : Transport} (h : ¬t.Forwards) (ops : List TransportOp) :
    (machine len).heardAlong passesOn t ops = [] := by
  induction ops generalizing t with
  | nil => rfl
  | cons op ops ih =>
    have hnone : t.passesOn op = none := by
      cases op with
      | arrive item => exact if_neg h
      | _ => rfl
    rw [(machine len).heardAlong_cons_of_none hnone]
    exact ih fun hforwards => h ((transport_step len t op).forwards hforwards)

/-- The notification of the device's EVT characteristic that reaches the pump in a step. -/
def evtValue (id : PeripheralId) : TransportOp → Option (List UInt8)
  | .arrive item => (pumped id item).bind Pumped.value
  | _ => none

theorem passesOn_eq {t : Transport} (h : t.Forwards) (op : TransportOp) :
    t.passesOn op = evtValue t.id op := by
  cases op with
  | arrive item => exact if_pos h
  | _ => rfl

/-- What is passed on is the first part of what reaches the pump. -/
theorem prefix_passed (len : ℕ) (t : Transport) (ops : List TransportOp) :
    (machine len).heardAlong passesOn t ops <+: ops.filterMap (evtValue t.id) := by
  induction ops generalizing t with
  | nil => exact List.nil_prefix
  | cons op ops ih =>
    by_cases hforwards : t.Forwards
    · have hrest := ih ((machine len).next t op)
      rw [(transport_step len t op).id] at hrest
      have hpasses := passesOn_eq hforwards op
      cases hvalue : evtValue t.id op with
      | none =>
        rw [(machine len).heardAlong_cons_of_none (hpasses.trans hvalue),
          List.filterMap_cons_none hvalue]
        exact hrest
      | some value =>
        rw [(machine len).heardAlong_cons_of_some (hpasses.trans hvalue),
          List.filterMap_cons_some hvalue]
        exact List.cons_prefix_cons.2 ⟨rfl, hrest⟩
    · rw [passed_of_stopped len hforwards]
      exact List.nil_prefix

/-- A transport that still forwards has passed everything on. -/
theorem passed_of_forwards {len : ℕ} {t : Transport} {ops : List TransportOp}
    (h : ((machine len).run t ops).Forwards) :
    (machine len).heardAlong passesOn t ops = ops.filterMap (evtValue t.id) := by
  induction ops generalizing t with
  | nil => rfl
  | cons op ops ih =>
    have hrest := ih h
    rw [(transport_step len t op).id] at hrest
    have hforwards : t.Forwards := by
      by_contra hno
      refine (machine len).run_invariant (fun t => ¬t.Forwards) ?_ (op :: ops) hno h
      intro t op hstopped hnext
      exact hstopped ((transport_step len t op).forwards hnext)
    rw [(machine len).heardAlong_cons, passesOn_eq hforwards, hrest, List.filterMap_cons]
    cases evtValue t.id op <;> rfl

end Transport

end Btleplug

end AllSquare
