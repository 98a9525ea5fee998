import Mathlib.Order.Filter.AtTopBot.ModEq
import AllSquare.Client.Channel
import AllSquare.Reactive.Progress

/-! # A client that is polled gets through its notifications

`feed_follows_device` says what a client makes of the notifications it has taken from its
channel. When it is polled again and again, whatever else is called in between, it takes
all of them (`notifications_taken`), and it finds that the thread has ended
(`loss_reported`): what is left to take is a rank that each such poll lowers.
-/

namespace AllSquare

open Filter Mpsc

namespace Feed

variable {ft : Features} {now : ℕ} {sched : ℕ → FeedOp}

/-- A poll whose heartbeat is written, if one is due. -/
def Polls : FeedOp → Prop
  | .call (.poll env) => env.write .heartbeat = .ok ()
  | _ => False

/-- The notifications taken in the first steps of a schedule. -/
def tookBy (ft : Features) (now : ℕ) (sched : ℕ → FeedOp) (n : ℕ) : List (List UInt8) :=
  (machine ft).heardAlong takes (new now) (Reactive.first sched n)

/-- The notifications that have arrived in the first steps of a schedule. -/
def arrivedBy (sched : ℕ → FeedOp) (n : ℕ) : List (List UInt8) := arrived (Reactive.first sched n)

/-- Nothing that has arrived is lost again. -/
theorem prefix_arrived (ops ops' : List FeedOp) : arrived ops <+: arrived (ops ++ ops') := by
  induction ops with
  | nil => exact List.nil_prefix
  | cons i ops ih =>
    cases i with
    | notify value => exact List.cons_prefix_cons.2 ⟨rfl, ih⟩
    | threadEnds => exact List.prefix_rfl
    | call op => exact ih

/-- After the thread has ended nothing arrives. -/
theorem arrived_ended {ops : List FeedOp} (h : .threadEnds ∈ ops) (ops' : List FeedOp) :
    arrived (ops ++ ops') = arrived ops := by
  induction ops with
  | nil => cases h
  | cons i ops ih =>
    cases i with
    | notify value =>
      have hmem : FeedOp.threadEnds ∈ ops := by simpa using h
      exact congrArg (value :: ·) (ih hmem)
    | threadEnds => rfl
    | call op =>
      have hmem : FeedOp.threadEnds ∈ ops := by simpa using h
      exact ih hmem

theorem first_append {n m : ℕ} (h : n ≤ m) :
    ∃ ops, Reactive.first sched m = Reactive.first sched n ++ ops := by
  induction m, h using Nat.le_induction with
  | base => exact ⟨[], (List.append_nil _).symm⟩
  | succ m hm ih =>
    rcases ih with ⟨ops, hops⟩
    refine ⟨ops ++ [sched m], ?_⟩
    rw [Reactive.first_succ, hops, List.append_assoc]

theorem arrivedBy_le {n m : ℕ} (h : n ≤ m) :
    (arrivedBy sched n).length ≤ (arrivedBy sched m).length := by
  rcases @first_append sched n m h with ⟨ops, hops⟩
  unfold arrivedBy
  rw [hops]
  exact (prefix_arrived _ ops).length_le

theorem tookBy_append_queue (ft : Features) (now : ℕ) (sched : ℕ → FeedOp) (n : ℕ) :
    tookBy ft now sched n ++ ((machine ft).reach (new now) sched n).notifications.queue =
      arrivedBy sched n :=
  takes_append_queue ft now (Reactive.first sched n)

theorem prefix_tookBy {n m : ℕ} (h : n ≤ m) : tookBy ft now sched n <+: tookBy ft now sched m := by
  rcases @first_append sched n m h with ⟨ops, hops⟩
  unfold tookBy
  rw [hops, Reactive.Machine.heardAlong_append]
  exact List.prefix_append _ _

theorem reach_open (ft : Features) (now : ℕ) (sched : ℕ → FeedOp) (n : ℕ) :
    ((machine ft).reach (new now) sched n).Open :=
  (machine ft).run_invariant Open (fun _ i h => step_open h i) _ (new_open now)

/-- An active client stays active. -/
theorem reach_active {n m : ℕ} (hm : n ≤ m)
    (h : ((machine ft).reach (new now) sched n).client.phase = .active) :
    ((machine ft).reach (new now) sched m).client.phase = .active := by
  induction m, hm using Nat.le_induction with
  | base => exact h
  | succ m hm ih =>
    rw [(machine ft).reach_succ]
    exact step_phase (reach_open ft now sched m) ih (sched m)

/-- A poll of an active client takes the first notification of the channel. -/
theorem takes_of_polls {s : Feed} (h : s.Open) (hp : s.client.phase = .active) {i : FeedOp}
    (hpolls : Polls i) : s.takes i = s.notifications.queue.head? := by
  cases i with
  | notify | threadEnds => exact hpolls.elim
  | call op =>
    cases op with
    | poll env =>
      have hwritten : env.write .heartbeat = .ok () := hpolls
      have hlooks : ClientOp.Looks s.client (.poll env) := ⟨⟨h.queue, hp⟩, fun _ => hwritten⟩
      have hchannel : s.onChannel (.call (.poll env)) = some .tryRecv := if_pos hlooks
      unfold takes
      rw [hchannel]
      exact if_pos h.receiver
    | selectClub | setHanded | arm | disarm | setUnits | setGreenSpeed | setCarryAdjustment
    | setImpactCalibration => exact hpolls.elim

/-- A poll that finds its thread ended and the channel empty says so. -/
theorem out_of_polls {s : Feed} (h : s.Ended) (hq : s.notifications.queue = []) {i : FeedOp}
    (hpolls : Polls i) : (machine ft).out s i = some (.error .disconnected) := by
  cases i with
  | notify | threadEnds => exact hpolls.elim
  | call op =>
    cases op with
    | poll env =>
      have hwritten : env.write .heartbeat = .ok () := hpolls
      rcases @poll_of_drained ft s h hq env with hreply | ⟨e, hfails, -⟩
      · exact congrArg some hreply
      · rw [hwritten] at hfails
        cases hfails
    | selectClub | setHanded | arm | disarm | setUnits | setGreenSpeed | setCarryAdjustment
    | setImpactCalibration => exact hpolls.elim

/-- Everything that has arrived is taken some time. -/
theorem exists_taken (hpolls : ∃ᶠ n in atTop, Polls (sched n)) {n : ℕ}
    (hactive : ((machine ft).reach (new now) sched n).client.phase = .active) :
    ∃ m > n, (arrivedBy sched n).length ≤ (tookBy ft now sched m).length := by
  refine @Reactive.exists_of_rank Unit
    (fun m => (arrivedBy sched n).length ≤ (tookBy ft now sched m).length)
    (fun m => (arrivedBy sched n).length - (tookBy ft now sched m).length) (fun _ => ())
    (fun _ m => Polls (sched m)) (fun _ => hpolls) n ?_
  intro m hm
  have hgrows : tookBy ft now sched (m + 1) = tookBy ft now sched m ++
      (takes ((machine ft).reach (new now) sched m) (sched m)).toList :=
    (machine ft).heardAlong_first_succ takes (new now) sched m
  rw [hgrows, List.length_append]
  by_cases hdone : (arrivedBy sched n).length ≤ (tookBy ft now sched m).length
  · exact .inl (by omega)
  · right
    cases htakes : takes ((machine ft).reach (new now) sched m) (sched m) with
    | some v =>
      left
      simp only [Option.toList_some, List.length_singleton]
      omega
    | none =>
      refine .inr ⟨by simp, rfl, ?_⟩
      intro hpoll
      -- something waits in the channel, and the poll would have taken it
      have hqueue := congrArg List.length (tookBy_append_queue ft now sched m)
      have hmore := @arrivedBy_le sched _ _ hm
      rw [List.length_append] at hqueue
      rw [takes_of_polls (reach_open ft now sched m) (reach_active hm hactive) hpoll,
        List.head?_eq_none_iff] at htakes
      rw [htakes, List.length_nil] at hqueue
      omega

/-- On every schedule in which an active client is polled again and again with its
heartbeats written: all notifications that have arrived by some step are some time later
among those it has taken, in order, and told of as the receiver does. -/
theorem notifications_taken (ft : Features) (now : ℕ) (sched : ℕ → FeedOp)
    (hpolls : ∃ᶠ n in atTop, Polls (sched n)) (n : ℕ)
    (hactive : ((machine ft).reach (new now) sched n).client.phase = .active) :
    ∃ m > n, ∃ k ≥ (arrivedBy sched n).length,
      let s := (machine ft).reach (new now) sched m
      let N := Receiver.machine ft fun _ => none
      let frames := ((arrivedBy sched m).take k).filterMap frameOf
      s.notifications.queue = (arrivedBy sched m).drop k ∧
        ((machine ft).outs (new now) (Reactive.first sched m)).flatMap tells =
          (N.outs (Client.new now).asker frames).flatMap Option.toList ∧
        s.client.asker = N.run (Client.new now).asker frames := by
  rcases exists_taken hpolls hactive with ⟨m, hm, htaken⟩
  refine ⟨m, hm, (tookBy ft now sched m).length, htaken, ?_⟩
  intro s N frames
  have hsplit := tookBy_append_queue ft now sched m
  have hframes : frames = (tookBy ft now sched m).filterMap frameOf := by
    simp only [frames]
    rw [← hsplit, List.take_left]
  refine ⟨?_, ?_⟩
  · rw [← hsplit, List.drop_left]
  · rw [hframes]
    exact run_takes ft now (Reactive.first sched m)

/-- Every second step is a poll, and a frame arrives in between. -/
theorem notifications_taken_third :
    let sched : ℕ → FeedOp := fun n =>
      if n % 2 = 0 then .call (.poll (.empty 0)) else .notify [UInt8.ofNat n]
    ∃ m > 3, ∃ k ≥ (arrivedBy sched 3).length,
      ((machine ⟨false⟩).reach (new 0) sched m).notifications.queue =
        (arrivedBy sched m).drop k := by
  intro sched
  have hpolls : ∃ᶠ n in atTop, Polls (sched n) := by
    refine (Nat.frequently_mod_eq (d := 0) (n := 2) (by decide)).mono ?_
    intro n hn
    simp only [sched, hn, if_true]
    rfl
  rcases notifications_taken ⟨false⟩ 0 sched hpolls 3 rfl with ⟨m, hm, k, hk, hqueue, -⟩
  exact ⟨m, hm, k, hk, hqueue⟩

/-- On every schedule in which the thread ends and an active client is polled again and
again with its heartbeats written: some poll reports the device disconnected, and by then
the client has taken in all notifications that ever arrived. -/
theorem loss_reported (ft : Features) (now : ℕ) (sched : ℕ → FeedOp)
    (hpolls : ∃ᶠ n in atTop, Polls (sched n)) (n : ℕ) (hended : ∃ k < n, sched k = .threadEnds)
    (hactive : ((machine ft).reach (new now) sched n).client.phase = .active) :
    ∃ m > n, let s := (machine ft).reach (new now) sched m
      (machine ft).out s (sched m) = some (.error .disconnected) ∧
        (∀ m' ≥ n, arrivedBy sched m' = arrivedBy sched m) ∧
        s.client.asker = (Receiver.machine ft fun _ => none).run (Client.new now).asker
          ((arrivedBy sched m).filterMap frameOf) := by
  rcases exists_taken hpolls hactive with ⟨m, hm, htaken⟩
  -- the first poll after everything has been taken
  rcases frequently_atTop.1 hpolls m with ⟨p, hp, hpoll⟩
  have hmem : FeedOp.threadEnds ∈ Reactive.first sched n := by
    rcases hended with ⟨k, hk, hthread⟩
    exact List.mem_map.2 ⟨k, List.mem_range.2 hk, hthread⟩
  have hsame : ∀ m' ≥ n, arrivedBy sched m' = arrivedBy sched n := by
    intro m' hm'
    rcases @first_append sched n m' hm' with ⟨ops, hops⟩
    unfold arrivedBy
    rw [hops]
    exact arrived_ended hmem ops
  have hsplit := tookBy_append_queue ft now sched p
  have hqueue : ((machine ft).reach (new now) sched p).notifications.queue = [] := by
    have htook := (@prefix_tookBy ft now sched _ _ hp).length_le
    have hlength := congrArg List.length hsplit
    rw [List.length_append, hsame p (by omega)] at hlength
    exact List.eq_nil_of_length_eq_zero (by omega)
  have hs : ((machine ft).reach (new now) sched p).Ended := by
    refine run_ended ?_ (reach_active (by omega) hactive)
    rcases @first_append sched n p (by omega) with ⟨ops, hops⟩
    rw [hops]
    exact List.mem_append_left ops hmem
  refine ⟨p, by omega, ?_, ?_, ?_⟩
  · exact out_of_polls hs hqueue hpoll
  · intro m' hm'
    rw [hsame m' hm', hsame p (by omega)]
  · rw [hqueue, List.append_nil] at hsplit
    rw [← hsplit]
    exact (run_takes ft now (Reactive.first sched p)).2

/-- The thread ends with a notification left in the channel. -/
theorem loss_reported_after :
    let sched : ℕ → FeedOp := fun n =>
      if n = 1 then .notify sampleBall.bytes
      else if n = 2 then .threadEnds else .call (.poll (.empty 0))
    ∃ m > 3, (machine ⟨false⟩).out ((machine ⟨false⟩).reach (new 0) sched m) (sched m) =
      some (.error .disconnected) := by
  intro sched
  have hpolls : ∃ᶠ n in atTop, Polls (sched n) := by
    refine frequently_atTop.2 fun n => ⟨n + 3, by omega, ?_⟩
    simp only [sched, show ¬n + 3 = 1 by omega, show ¬n + 3 = 2 by omega, if_false]
    rfl
  rcases loss_reported ⟨false⟩ 0 sched hpolls 3 ⟨2, by decide, rfl⟩ rfl with ⟨m, hm, hlost, -⟩
  exact ⟨m, hm, hlost⟩

end Feed

end AllSquare
