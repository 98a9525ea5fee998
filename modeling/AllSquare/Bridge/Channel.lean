import AllSquare.Bridge.Controllers
import AllSquare.Client.Channel

/-! # From the device's notifications to the controllers

The program has a thread that receives the device's notifications and puts them into the
channel its client's transport reads from; thread and loop take their steps in any order.
The loop is then the one of `Bridge.machine`, each turn reading what the channel holds
(`run_bridge`), and its client is one of a `Feed` (`exists_feed_run`). The notifications the
program accepts are so those of the frames it has taken from the channel, a frame that
repeats the one before it not counted (`accepted_eq`), and what holds of the program in
terms of what it accepts holds in terms of what the device has sent:

* `flights_of_device` — the ball flights controllers are sent;
* `readiness_of_device` — what they are told of the device's state.

`loss_ends_program` says that the program does not outlive the thread for long.
-/

namespace AllSquare

open Mpsc Reactive
open Feed (acceptable)

/-! ## The model -/

/-- A turn whose poll looks into a channel. -/
def TurnEnv.over (env : TurnEnv) (ch : Ble.Notifications) : TurnEnv :=
  { env with poll := env.poll.over ch }

/-- The program, and the channel its client's transport reads from. -/
structure Program where
  bridge : Bridge
  notifications : Ble.Notifications

/-- A step of the thread that receives notifications, or a turn of the loop. What the
turn's poll reads is decided by the channel. -/
inductive ProgramOp where
  | notify (value : List UInt8)
  | threadEnds
  | turn (env : TurnEnv)

def ProgramOp.isTurn : ProgramOp → Bool
  | .turn _ => true
  | .notify _ | .threadEnds => false

namespace Program

/-- The program once it has connected to the device. -/
def start (now : ℕ) (env : FrpEnv) (deviceName : Text) (arg : Option Text) : Program :=
  ⟨.start now env deviceName arg, .new⟩

/-- The turn's poll reads from the transport. -/
def Looks (s : Program) (env : TurnEnv) : Prop :=
  s.bridge.running = true ∧ ClientOp.Looks s.bridge.client (.poll env.poll)

instance (s : Program) (env : TurnEnv) : Decidable (s.Looks env) :=
  inferInstanceAs (Decidable (_ ∧ _))

def step (ft : Features) (s : Program) : ProgramOp → Program
  | .notify value => { s with notifications := s.notifications.send value }
  | .threadEnds => { s with notifications := s.notifications.dropSender }
  | .turn env =>
    { bridge := s.bridge.iterate ft (env.over s.notifications)
      notifications := if s.Looks env then s.notifications.tryRecv.1 else s.notifications }

/-- The loop and the thread, under any interleaving. -/
def machine (ft : Features) : Machine Program ProgramOp Unit where
  step s i := (s.step ft i, ())

/-! ## The loop along a run -/

variable {ft : Features}

/-- The turn a step makes the loop take. -/
def turned (s : Program) : ProgramOp → Option TurnEnv
  | .turn env => some (env.over s.notifications)
  | .notify _ | .threadEnds => none

/-- The notification a step accepts. -/
def accepts (ft : Features) (s : Program) (i : ProgramOp) : Option Notification :=
  (s.turned i).bind (s.bridge.accepts ft)

theorem refines_bridge (ft : Features) :
    (machine ft).Refines (Bridge.machine ft) (fun _ => True) (fun _ _ => True) bridge turned
      (fun _ => ([] : List Unit)) fun _ => [] where
  inv := fun _ _ _ _ => trivial
  quiet := by
    rintro s i - - hnone
    cases i with
    | notify | threadEnds => exact ⟨rfl, rfl⟩
    | turn env => cases hnone
  heard := by
    rintro s i k - - hk
    cases i with
    | notify | threadEnds => cases hk
    | turn env =>
      obtain rfl := Option.some.inj hk
      exact ⟨rfl, rfl⟩

/-- The turns a run makes the loop take. -/
def turns (ft : Features) (s : Program) (ops : List ProgramOp) : List TurnEnv :=
  (machine ft).heardAlong turned s ops

theorem run_bridge (ft : Features) (s : Program) (ops : List ProgramOp) :
    ((machine ft).run s ops).bridge = (Bridge.machine ft).run s.bridge (turns ft s ops) :=
  (refines_bridge ft).run_eq trivial ((machine ft).meets_of_forall fun _ _ => trivial)

theorem accepted_bridge (ft : Features) (s : Program) (ops : List ProgramOp) :
    (Bridge.machine ft).heardAlong (Bridge.accepts ft) s.bridge (turns ft s ops) =
      (machine ft).heardAlong (accepts ft) s ops :=
  (refines_bridge ft).heardAlong_eq (Bridge.accepts ft) trivial
    ((machine ft).meets_of_forall fun _ _ => trivial)

/-! ## The client along a run -/

/-- The client of the program and its channel. -/
def feed (s : Program) : Feed := ⟨s.bridge.client, s.notifications⟩

/-- What a step hears is what its poll hears. -/
def polling {κ : Type} (hears : Feed → FeedOp → Option κ) (s : Program) : ProgramOp → Option κ
  | .turn env => if s.bridge.running then hears s.feed (.call (.poll env.poll)) else none
  | .notify _ | .threadEnds => none

/-- Only polls hear. -/
def PollsOnly {κ : Type} (hears : Feed → FeedOp → Option κ) : Prop :=
  ∀ f i, (∀ env, i ≠ .call (.poll env)) → hears f i = none

/-- The notifications put in before the thread has ended. -/
def arrived : List ProgramOp → List (List UInt8)
  | [] => []
  | .notify value :: ops => value :: arrived ops
  | .threadEnds :: _ => []
  | .turn _ :: ops => arrived ops

/-- Calls that are not polls leave the channel alone. -/
theorem run_calls (ft : Features) {calls : List ClientOp}
    (h : ∀ op ∈ calls, ∀ env, op ≠ .poll env) (f : Feed) :
    (Feed.machine ft).run f (calls.map .call) =
      ⟨(clientMachine ft).run f.client calls, f.notifications⟩ := by
  induction calls generalizing f with
  | nil => rfl
  | cons op calls ih =>
    have hop := h op (List.mem_cons_self ..)
    have hover : op.over f.notifications = op := by
      cases op with
      | poll env => exact absurd rfl (hop env)
      | _ => rfl
    have hlooks : ¬op.Looks f.client := by
      intro hlooks
      cases op with
      | poll env => exact absurd rfl (hop env)
      | _ => exact hlooks
    have hnext : (Feed.machine ft).next f (.call op) =
        ⟨(op.exec ft f.client).1, f.notifications⟩ := by
      show (f.call ft op).1 = _
      unfold Feed.call
      rw [hover, if_neg hlooks]
    rw [List.map_cons, Machine.run_cons, hnext]
    exact ih (fun op' h' => h op' (List.mem_cons_of_mem _ h')) _

theorem heardAlong_calls {κ : Type} {hears : Feed → FeedOp → Option κ} (hpolls : PollsOnly hears)
    {calls : List ClientOp} (h : ∀ op ∈ calls, ∀ env, op ≠ .poll env) (f : Feed) :
    (Feed.machine ft).heardAlong hears f (calls.map .call) = [] := by
  induction calls generalizing f with
  | nil => rfl
  | cons op calls ih =>
    have hop : ∀ env, FeedOp.call op ≠ .call (.poll env) := by
      intro env heq
      cases heq
      exact h _ (List.mem_cons_self ..) env rfl
    rw [List.map_cons, Machine.heardAlong_cons, hpolls f _ hop]
    exact ih (fun op' h' => h op' (List.mem_cons_of_mem _ h')) _

theorem arrived_calls (calls : List ClientOp) (fops : List FeedOp) :
    Feed.arrived (calls.map .call ++ fops) = Feed.arrived fops := by
  induction calls with
  | nil => rfl
  | cons op calls ih => exact ih

/-- A turn is a poll and then other calls of the client. -/
theorem turn_feed (ft : Features) (s : Program) (env : TurnEnv) :
    ∃ calls : List ClientOp,
      ((machine ft).next s (.turn env)).feed = (Feed.machine ft).run s.feed (calls.map .call) ∧
      ∀ {κ : Type} {hears : Feed → FeedOp → Option κ}, PollsOnly hears →
        (Feed.machine ft).heardAlong hears s.feed (calls.map .call) =
          (s.polling hears (.turn env)).toList := by
  by_cases hrun : s.bridge.running = true
  · rcases Bridge.iterate_calls ft hrun (env.over s.notifications) with ⟨calls, hcalls, hclient⟩
    let polled : Feed := (Feed.machine ft).next s.feed (.call (.poll env.poll))
    refine ⟨.poll env.poll :: calls, ?_, ?_⟩
    · rw [List.map_cons, Machine.run_cons]
      show _ = (Feed.machine ft).run polled (calls.map .call)
      rw [run_calls ft hcalls]
      have hnotifications : ((machine ft).next s (.turn env)).notifications =
          polled.notifications := by
        show (if s.Looks env then _ else _) =
          if ClientOp.Looks s.bridge.client (.poll env.poll) then _ else _
        by_cases hlooks : ClientOp.Looks s.bridge.client (.poll env.poll)
        · rw [if_pos hlooks, if_pos ⟨hrun, hlooks⟩]
          rfl
        · rw [if_neg hlooks, if_neg fun h : s.Looks env => hlooks h.2]
          rfl
      show Feed.mk _ ((machine ft).next s (.turn env)).notifications = _
      rw [hnotifications]
      exact congrArg (Feed.mk · polled.notifications) hclient.symm
    · intro κ hears hpolls
      rw [List.map_cons, Machine.heardAlong_cons, heardAlong_calls hpolls hcalls, List.append_nil]
      show _ = (if s.bridge.running = true then _ else _ : Option κ).toList
      rw [if_pos hrun]
  · refine ⟨[], ?_, ?_⟩
    · have hstop : s.bridge.iterate ft (env.over s.notifications) = s.bridge := if_neg hrun
      show Feed.mk (s.bridge.iterate ft (env.over s.notifications)).client
        (if s.Looks env then _ else _) = _
      rw [hstop, if_neg fun h : s.Looks env => hrun h.1]
      rfl
    · intro κ hears hpolls
      show [] = (if s.bridge.running = true then _ else _ : Option κ).toList
      rw [if_neg hrun]
      rfl

/-- The client of the program, with its channel, is one that a run of the client and the
thread reaches, with the same notifications and the same polls. -/
theorem exists_feed_run (ft : Features) (s : Program) (ops : List ProgramOp) :
    ∃ fops, ((machine ft).run s ops).feed = (Feed.machine ft).run s.feed fops ∧
      Feed.arrived fops = arrived ops ∧
      ∀ {κ : Type} {hears : Feed → FeedOp → Option κ}, PollsOnly hears →
        (Feed.machine ft).heardAlong hears s.feed fops =
          (machine ft).heardAlong (polling hears) s ops := by
  induction ops generalizing s with
  | nil => exact ⟨[], rfl, rfl, fun _ => rfl⟩
  | cons i ops ih =>
    rcases ih ((machine ft).next s i) with ⟨fops, hrun, harrived, hheard⟩
    rw [Machine.run_cons]
    cases i with
    | notify value =>
      refine ⟨.notify value :: fops, hrun, congrArg (value :: ·) harrived, ?_⟩
      intro κ hears hpolls
      rw [Machine.heardAlong_cons, Machine.heardAlong_cons, hpolls _ _ (by simp)]
      exact hheard hpolls
    | threadEnds =>
      refine ⟨.threadEnds :: fops, hrun, rfl, ?_⟩
      intro κ hears hpolls
      rw [Machine.heardAlong_cons, Machine.heardAlong_cons, hpolls _ _ (by simp)]
      exact hheard hpolls
    | turn env =>
      rcases turn_feed ft s env with ⟨calls, hnext, hcalls⟩
      rw [hnext] at hrun hheard
      refine ⟨calls.map .call ++ fops, ?_, ?_, ?_⟩
      · rw [Machine.run_append]
        exact hrun
      · rw [arrived_calls]
        exact harrived
      · intro κ hears hpolls
        rw [Machine.heardAlong_append, Machine.heardAlong_cons, hcalls hpolls]
        exact congrArg (_ ++ ·) (hheard hpolls)

/-! ## What the program accepts -/

theorem accepts_pollsOnly : PollsOnly (Feed.accepts ft) := by
  intro f i hno
  cases i with
  | notify | threadEnds => rfl
  | call op =>
    cases op with
    | poll env => exact absurd rfl (hno env)
    | _ => rfl

theorem accepts_eq_polling (ft : Features) (s : Program) (i : ProgramOp) :
    s.accepts ft i = s.polling (Feed.accepts ft) i := by
  cases i <;> rfl

/-- Of the notifications that have arrived the program has taken the first few, and the
others wait in the channel; what it has accepted is what these are accepted as. -/
theorem accepted_eq (ft : Features) (now : ℕ) (env : FrpEnv) (name : Text) (arg : Option Text)
    (ops : List ProgramOp) :
    let s := (machine ft).run (start now env name arg) ops
    ∃ n, s.notifications.queue = (arrived ops).drop n ∧
      (machine ft).heardAlong (accepts ft) (start now env name arg) ops =
        acceptable ft (((arrived ops).take n).filterMap Feed.frameOf) := by
  intro s
  rcases exists_feed_run ft (start now env name arg) ops with ⟨fops, hrun, harrived, hheard⟩
  have hstart : (start now env name arg).feed = .new now := rfl
  rw [hstart] at hrun hheard
  have hsplit := Feed.takes_append_queue ft now fops
  rw [harrived] at hsplit
  have hqueue : s.notifications = ((Feed.machine ft).run (.new now) fops).notifications :=
    congrArg Feed.notifications hrun
  refine ⟨((Feed.machine ft).heardAlong Feed.takes (.new now) fops).length, ?_, ?_⟩
  · rw [hqueue, ← hsplit, List.drop_left]
  · rw [← hsplit, List.take_left, ← Feed.accepts_eq_acceptable, hheard accepts_pollsOnly]
    exact congrArg (fun hears => (machine ft).heardAlong hears (start now env name arg) ops)
      (funext fun s => funext fun i => accepts_eq_polling ft s i)

/-- What the program has accepted is the first part of what can be. -/
theorem prefix_accepted (ft : Features) (now : ℕ) (env : FrpEnv) (name : Text)
    (arg : Option Text) (ops : List ProgramOp) :
    (Bridge.machine ft).heardAlong (Bridge.accepts ft) (.start now env name arg)
        (turns ft (start now env name arg) ops) <+:
      acceptable ft ((arrived ops).filterMap Feed.frameOf) := by
  rcases accepted_eq ft now env name arg ops with ⟨n, -, haccepted⟩
  have hheard : _ = (machine ft).heardAlong (accepts ft) (start now env name arg) ops :=
    accepted_bridge ft (start now env name arg) ops
  have hprefix : acceptable ft (((arrived ops).take n).filterMap Feed.frameOf) <+:
      acceptable ft ((arrived ops).filterMap Feed.frameOf) :=
    (prefix_destutter ((List.take_prefix n _).filterMap _)).filterMap _
  rw [← haccepted, ← hheard] at hprefix
  exact hprefix

/-! ## What controllers get -/

/-- In every interleaving of the thread that receives notifications with the turns of the
loop, whatever fails: the ball flights that all controllers together have been sent are
conversions of the balls in the frames the device has sent, in order and none twice, a
frame sent twice in a row being counted once. -/
theorem flights_of_device (ft : Features) (now : ℕ) (env : FrpEnv) (name : Text)
    (arg : Option Text) (ops : List ProgramOp) :
    (((machine ft).run (start now env name arg) ops).bridge.frp.published.filterMap
        FrpEvent.flight).Sublist
      (((acceptable ft ((arrived ops).filterMap Feed.frameOf)).flatMap Notification.ballData).map
        Convert.ballFlight) := by
  have hflights := Bridge.program_flights ft now env name arg
    (turns ft (start now env name arg) ops)
  rw [run_bridge]
  refine hflights.trans (List.Sublist.map Convert.ballFlight ?_)
  rcases prefix_accepted ft now env name arg ops with ⟨rest, hrest⟩
  rw [← hrest, List.flatMap_append]
  exact List.sublist_append_left _ _

/-- In every interleaving of the thread with the turns of the loop whose sends are all
taken or find the peer gone: the connected controller has last been told that the device is
ready exactly when, in the frames taken from the device, the last state acknowledged is
ready and no shot has been completed since the state changed to that. An acknowledgment that
repeats the state changes nothing, after a shot neither. -/
theorem readiness_of_device (ft : Features) (now : ℕ) (env : FrpEnv) (name : Text)
    (arg : Option Text) (ops : List ProgramOp)
    (hpolite : ∀ turn, ProgramOp.turn turn ∈ ops → turn.frp.Polite) :
    let s := (machine ft).run (start now env name arg) ops
    ∃ n, s.notifications.queue = (arrived ops).drop n ∧
      let frames := ((arrived ops).take n).filterMap Feed.frameOf
      let w := Watch.machine.run .init (acceptable ft frames)
      s.bridge.client.state = w.state ∧ ∀ c, s.bridge.frp.conn = some c →
        (c.told = some (readyText true) ↔ w.state = some .ready ∧ w.shot = false) := by
  intro s
  rcases accepted_eq ft now env name arg ops with ⟨n, hqueue, haccepted⟩
  have hturns : ∀ turn ∈ turns ft (start now env name arg) ops, turn.frp.Polite := by
    refine (machine ft).forall_mem_heardAlong ?_ (start now env name arg)
    intro s i hi turn hturn
    cases i with
    | notify | threadEnds => cases hturn
    | turn env =>
      obtain rfl := Option.some.inj hturn
      exact hpolite env hi
  have hready := Bridge.told_ready_iff ft now env name arg _ hturns
  have hheard : _ = (machine ft).heardAlong (accepts ft) (start now env name arg) ops :=
    accepted_bridge ft (start now env name arg) ops
  refine ⟨n, hqueue, ?_⟩
  intro frames w
  have hbridge : s.bridge = (Bridge.machine ft).run (.start now env name arg)
      (turns ft (start now env name arg) ops) := run_bridge ft (start now env name arg) ops
  have hw : w = Watch.machine.run .init ((Bridge.machine ft).heardAlong (Bridge.accepts ft)
      (.start now env name arg) (turns ft (start now env name arg) ops)) := by
    show Watch.machine.run .init (acceptable ft frames) = _
    rw [← haccepted, ← hheard]
    rfl
  rw [hbridge, hw]
  exact hready

/-- A controller connects, and is told that the device is ready. -/
theorem readiness_of_device_told :
    let ops : List ProgramOp := [.turn (Bridge.turn (.empty 0)),
      .turn { Bridge.turn (.empty 0) with incoming := true }, .notify Bridge.readyAck.bytes,
      .turn (Bridge.turn (.empty 0))]
    let s := (machine ⟨false⟩).run (start 0 ⟨fun _ => .ok (), true, 0⟩ [] none) ops
    ∃ c, s.bridge.frp.conn = some c ∧ c.told = some (readyText true) := by
  intro ops s
  have hpolite : ∀ turn, ProgramOp.turn turn ∈ ops → turn.frp.Polite := by
    intro t ht e
    simp only [ops, List.mem_cons, List.not_mem_nil, or_false, ProgramOp.turn.injEq,
      reduceCtorEq, false_or] at ht
    rcases ht with rfl | rfl | rfl <;> nofun
  have hconn : s.bridge.frp.conn.isSome = true := by decide
  rcases Option.isSome_iff_exists.1 hconn with ⟨c, hc⟩
  rcases readiness_of_device ⟨false⟩ 0 ⟨fun _ => .ok (), true, 0⟩ [] none ops hpolite with
    ⟨n, hqueue, -, htold⟩
  refine ⟨c, hc, (htold c hc).2 ?_⟩
  -- the acknowledgment is not in the channel any more
  have hempty : s.notifications.queue = [] := by decide
  have hall : (arrived ops).take n = [Bridge.readyAck.bytes] := by
    have hdrop := hqueue.symm.trans hempty
    have hsplit := List.take_append_drop n (arrived ops)
    rw [hdrop, List.append_nil] at hsplit
    exact hsplit
  rw [hall]
  decide

/-! ## A lost link ends the program -/

/-- The thread has ended. -/
structure Ended (s : Program) : Prop where
  isOpen : s.feed.Open
  sender : s.notifications.sender = false

/-- What the loop has left to take, and the identity step while that is to come. -/
def left (s : Program) : ℕ :=
  s.notifications.queue.length + (if s.bridge.client.phase = .connecting then 1 else 0)

/-- What every step of the client and the thread keeps, every step of the program keeps. -/
theorem next_of_feed {I : Feed → Prop} (hI : ∀ f i, I f → I ((Feed.machine ft).next f i))
    {s : Program} (h : I s.feed) (i : ProgramOp) : I ((machine ft).next s i).feed := by
  rcases exists_feed_run ft s [i] with ⟨fops, hrun, -⟩
  have hnext : ((machine ft).next s i).feed = (Feed.machine ft).run s.feed fops := hrun
  rw [hnext]
  exact (Feed.machine ft).run_invariant I hI fops h

theorem next_ended {s : Program} (h : s.Ended) (i : ProgramOp) : ((machine ft).next s i).Ended where
  isOpen := next_of_feed (I := Feed.Open) (fun _ i h => Feed.step_open h i) h.isOpen i
  sender :=
    next_of_feed (I := fun f => f.notifications.sender = false)
      (fun _ i h => Feed.step_sender h i) h.sender i

/-- A poll that fails ends the program. -/
theorem running_of_error {b : Bridge} {env : TurnEnv}
    (h : ((Client.poll ft env.poll).exec b.client).2.isOk = false) :
    (b.iterate ft env).running = false := by
  unfold Bridge.iterate
  split
  · generalize (Client.poll ft env.poll).exec b.client = out at h
    rcases out with ⟨c, r⟩
    cases r with
    | error e => rfl
    | ok ev => cases h
  · rename_i hrun
    exact Bool.eq_false_iff.2 hrun

/-- Once the thread has ended every turn ends the program or leaves less to do. -/
theorem turn_left (ft : Features) {s : Program} (h : s.Ended) (hrun : s.bridge.running = true)
    (env : TurnEnv) :
    ((machine ft).next s (.turn env)).bridge.running = false ∨
      ((machine ft).next s (.turn env)).left < s.left := by
  have hstays := Bridge.iterate_stays ft hrun (env.over s.notifications)
  cases hp : s.bridge.client.phase with
  | connecting =>
    -- nothing is read before the device is identified
    have hlooks : ¬s.Looks env := by
      rintro ⟨-, ⟨-, hactive⟩, -⟩
      rw [hp] at hactive
      cases hactive
    rcases (Client.poll_step ft (env.over s.notifications).poll s.bridge.client).connecting
      h.isOpen.queue hp with ⟨hidentified, -⟩ | ⟨e, hfails, -⟩
    · right
      have hactive : ((machine ft).next s (.turn env)).bridge.client.phase = .active :=
        hstays.phase.trans (congrArg Client.phase hidentified)
      have hqueue : ((machine ft).next s (.turn env)).notifications = s.notifications :=
        if_neg hlooks
      unfold left
      rw [hactive, hqueue, hp]
      simp
    · exact .inl (running_of_error (congrArg Except.isOk hfails))
  | active =>
    have hended : s.feed.Ended := ⟨h.isOpen, h.sender, hp⟩
    have hactive : ((machine ft).next s (.turn env)).bridge.client.phase = .active :=
      hstays.phase.trans ((Client.poll_step ft (env.over s.notifications).poll
        s.bridge.client).reads ⟨h.isOpen.queue, hp⟩).2
    by_cases hlooks : ClientOp.Looks s.bridge.client (.poll env.poll)
    · cases hq : s.notifications.queue with
      | nil =>
        left
        apply running_of_error
        rcases @Feed.poll_of_drained ft s.feed hended hq env.poll with hlost | ⟨e, -, hlost⟩
        · exact congrArg Except.isOk hlost
        · exact congrArg Except.isOk hlost
      | cons v rest =>
        right
        have hqueue : ((machine ft).next s (.turn env)).notifications = s.notifications.tryRecv.1 :=
          if_pos ⟨hrun, hlooks⟩
        unfold left
        rw [hactive, hqueue, Channel.tryRecv_of_cons hq, hq, hp]
        simp
    · exact .inl (running_of_error (@Feed.poll_of_not_looks ft s.feed hended env.poll hlooks))

/-- A program that has ended does not go on. -/
theorem running_of_run {s : Program} {ops : List ProgramOp}
    (h : ((machine ft).run s ops).bridge.running = true) : s.bridge.running = true := by
  by_contra hno
  have hstop := (machine ft).run_invariant (fun s => ¬s.bridge.running = true) ?_ ops hno
  · exact hstop h
  · intro s i hno
    cases i with
    | notify | threadEnds => exact hno
    | turn env =>
      have hsame : s.bridge.iterate ft (env.over s.notifications) = s.bridge := if_neg hno
      show ¬(s.bridge.iterate ft (env.over s.notifications)).running = true
      rwa [hsame]

/-- The turns of a run that leaves the program running are paid for by what was left. -/
theorem turns_add_left {s : Program} (h : s.Ended) {ops : List ProgramOp}
    (hrun : ((machine ft).run s ops).bridge.running = true) :
    ops.countP ProgramOp.isTurn + ((machine ft).run s ops).left ≤ s.left := by
  induction ops generalizing s with
  | nil => exact (Nat.zero_add _).le
  | cons i ops ih =>
    have hrest := ih (next_ended h i) hrun
    have hnext : ((machine ft).next s i).bridge.running = true := running_of_run hrun
    rw [List.countP_cons, Machine.run_cons]
    cases i with
    | notify value =>
      -- nobody takes what is put in
      have hno : ¬s.notifications.Takes := by
        rintro ⟨hsender, -⟩
        rw [h.sender] at hsender
        cases hsender
      have hsame : ((machine ft).next s (.notify value)).left = s.left := by
        show (s.notifications.send value).queue.length + _ = _
        rw [Channel.send_of_not_takes hno]
        rfl
      rw [hsame] at hrest
      exact hrest
    | threadEnds => exact hrest
    | turn env =>
      have hs : s.bridge.running = true := @running_of_run ft s (.turn env :: ops) hrun
      rcases turn_left ft h hs env with hstops | hless
      · rw [hstops] at hnext
        cases hnext
      · show ops.countP ProgramOp.isTurn + 1 + _ ≤ _
        omega

/-- Once the thread that receives notifications has ended, the program ends within as many
turns as there are notifications left and two more, whatever else happens in them. -/
theorem loss_ends_program (ft : Features) (now : ℕ) (env : FrpEnv) (name : Text)
    (arg : Option Text) (before after : List ProgramOp) (hended : .threadEnds ∈ before)
    (hturns : ((machine ft).run (start now env name arg) before).notifications.queue.length + 2 ≤
      after.countP ProgramOp.isTurn) :
    ((machine ft).run (start now env name arg) (before ++ after)).bridge.running = false := by
  generalize hs : (machine ft).run (start now env name arg) before = s at hturns
  have hinv : s.Ended := by
    rw [← hs]
    rcases List.append_of_mem hended with ⟨pre, post, rfl⟩
    rw [Machine.run_append]
    have hopen (s : Program) (i : ProgramOp) (h : s.feed.Open) :
        ((machine ft).next s i).feed.Open :=
      next_of_feed (I := Feed.Open) (fun _ i h => Feed.step_open h i) h i
    have hstart : (start now env name arg).feed.Open := Feed.new_open now
    have hpre := (machine ft).run_invariant (fun s => s.feed.Open) hopen pre hstart
    exact (machine ft).run_invariant Ended (fun _ i h => next_ended h i) post
      ⟨hopen _ .threadEnds hpre, rfl⟩
  rw [Machine.run_append, hs]
  by_contra hno
  have hleft := @turns_add_left ft _ hinv _ (Bool.not_eq_false _ ▸ hno)
  have hbound : s.left ≤ s.notifications.queue.length + 1 := by
    unfold left
    split <;> omega
  omega

/-- The thread ends with a frame left in the channel. -/
theorem loss_ends_program_after :
    let poll : ProgramOp := .turn (Bridge.turn (.empty 0))
    let before := [poll, .notify Bridge.readyAck.bytes, .threadEnds]
    ((machine ⟨false⟩).run (start 0 ⟨fun _ => .ok (), true, 0⟩ [] none)
      (before ++ [poll, poll, poll])).bridge.running = false := by
  intro poll before
  exact loss_ends_program ⟨false⟩ 0 ⟨fun _ => .ok (), true, 0⟩ [] none before [poll, poll, poll]
    (by simp [before]) (by decide)

end Program

end AllSquare
