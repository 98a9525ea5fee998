import AllSquare.Ble.Reading
import AllSquare.Client.Connecting
import AllSquare.Client.Dedup

/-! # A client over a channel of notifications

A client whose transport reads from a channel that another thread fills, as both
Bluetooth backends do it. The thread and the client's caller take steps in any order:
the thread puts in what the device sends, until it ends; the caller polls, arms, selects
clubs and so on, and any write may fail.

`feed_follows_device` says what comes of all this: the client takes the device's
notifications in once, in order, cut to its buffer, and its events, its device state, its
pending ball, its last frame and the club requests it has sent are those of the
`Receiver` on them. `loss_found` bounds how often it can be polled before it reports the
end of the thread.
-/

namespace AllSquare

open Mpsc

/-! ## The model -/

/-- What a poll's buffer holds of a notification. -/
def Payload.cut (v : List UInt8) : Payload := ⟨v.take 64, List.length_take_le 64 v⟩

/-- A poll whose read looks into a channel. -/
def PollEnv.over (env : PollEnv) (ch : Ble.Notifications) : PollEnv :=
  { env with read := (Ble.readFrom 64 ch.tryRecv.2).map Payload.cut }

/-- A call whose read, if it has one, looks into a channel. -/
def ClientOp.over (op : ClientOp) (ch : Ble.Notifications) : ClientOp :=
  match op with
  | .poll env => .poll (env.over ch)
  | op => op

/-- The call reads from the transport. -/
def ClientOp.Looks (c : Client) : ClientOp → Prop
  | .poll env => c.Reads ∧ c.Beats env
  | _ => False

instance (c : Client) (op : ClientOp) : Decidable (op.Looks c) := by
  cases op with
  | poll env => exact inferInstanceAs (Decidable (_ ∧ _))
  | _ => exact inferInstanceAs (Decidable False)

/-- A client, and the channel its transport reads from. -/
structure Feed where
  client : Client
  notifications : Ble.Notifications

/-- A step of the thread that receives notifications, or a call of the client. What a
poll reads is decided by the channel. -/
inductive FeedOp where
  | notify (value : List UInt8)
  | threadEnds
  | call (op : ClientOp)

namespace Feed

/-- A client has been made of a new transport. -/
def new (now : ℕ) : Feed := ⟨.new now, .new⟩

/-- A call of the client. -/
def call (ft : Features) (s : Feed) (op : ClientOp) : Feed × Reply :=
  let out := (op.over s.notifications).exec ft s.client
  ({ client := out.1
     notifications :=
      if op.Looks s.client then s.notifications.tryRecv.1 else s.notifications }, out.2)

def step (ft : Features) (s : Feed) : FeedOp → Feed × Option Reply
  | .notify value => ({ s with notifications := s.notifications.send value }, none)
  | .threadEnds => ({ s with notifications := s.notifications.dropSender }, none)
  | .call op => ((s.call ft op).1, some (s.call ft op).2)

/-- The client and the thread, under any interleaving. -/
def machine (ft : Features) : Reactive.Machine Feed FeedOp (Option Reply) where
  step := step ft

end Feed

/-! ## The client and its club requests -/

namespace Client

/-- A metrics request, without its number. -/
def clubRequest : List UInt8 := (Command.requestClubMetrics.encode 0).eraseIdx 2

end Client

open Client

/-- A receiver of whose commands only the club requests count. -/
def Receiver.requesting (r : Receiver) : Receiver :=
  { r with commands := r.commands.filter (· = clubRequest) }

theorem Notification.request_filter (n : Notification) :
    n.request.filter (· = clubRequest) = n.request := by
  cases n <;> rfl

theorem Receiver.take_requesting {ft : Features} (report : ClubMetrics → Option ClubMetrics)
    (r : Receiver) (data : List UInt8) :
    take ft report r.requesting data =
      ((take ft report r data).1.requesting, (take ft report r data).2) := by
  have hlast : r.requesting.lastRx = r.lastRx := rfl
  by_cases hnew : data = r.lastRx
  · rw [take_repeat hnew.symm, take_repeat (hlast.trans hnew.symm)]
  · have hnew' : data ≠ r.requesting.lastRx := hnew
    cases hparse : parse ft data with
    | error e => rw [take_malformed hnew hparse, take_malformed hnew' hparse]; rfl
    | ok n =>
      rw [take_accepted hnew hparse, take_accepted hnew' hparse]
      unfold requesting
      rw [List.filter_append, n.request_filter]

/-- An event without what the club tracking adds to a shot; the identity is none of the
notifications'. -/
def Event.plain : Event → Option Event
  | .connected .. => none
  | .shot ball _ => some (.shot ball none)
  | ev => some ev

/-- What a shot reports of a club packet does not matter otherwise. -/
theorem Tracker.hear_plain (report : ClubMetrics → Option ClubMetrics) (t : Tracker)
    (n : Notification) :
    (t.hear report n).1 = (t.hear (fun _ => none) n).1 ∧
      (t.hear report n).2.bind Event.plain = (t.hear (fun _ => none) n).2 := by
  cases n with
  | club m =>
    simp only [hear]
    split
    · refine ⟨rfl, ?_⟩
      cases t.pending <;> rfl
    · exact ⟨rfl, rfl⟩
  | heartbeatAck s =>
    by_cases hs : t.device = some s
    · simp [hear, hs]
    · simp [hear, hs, Event.plain]
  | ball _ | sensor _ | battery _ _ | clock _ | alignment _ | queryResponse _ => exact ⟨rfl, rfl⟩

theorem Receiver.take_plain {ft : Features} (report : ClubMetrics → Option ClubMetrics)
    (r : Receiver) (data : List UInt8) :
    (take ft report r data).1 = (take ft (fun _ => none) r data).1 ∧
      (take ft report r data).2.bind Event.plain = (take ft (fun _ => none) r data).2 := by
  by_cases hnew : data = r.lastRx
  · rw [take_repeat hnew.symm, take_repeat hnew.symm]
    exact ⟨rfl, rfl⟩
  · cases hparse : parse ft data with
    | error e =>
      rw [take_malformed hnew hparse, take_malformed hnew hparse]
      exact ⟨rfl, rfl⟩
    | ok n =>
      rcases r.tracker.hear_plain report n with ⟨htracker, hevent⟩
      rw [take_accepted hnew hparse, take_accepted hnew hparse, htracker]
      exact ⟨rfl, hevent⟩

namespace Client

variable {ft : Features}

/-- The client as a receiver, of whose commands only the club requests count. -/
def asker (c : Client) : Receiver := c.receiver.requesting

theorem asker_congr {c c' : Client} (hlast : c'.lastRx = c.lastRx)
    (htracker : c'.tracker = c.tracker)
    (hcommands : c'.commands.filter (· = clubRequest) = c.commands.filter (· = clubRequest)) :
    c'.asker = c.asker := by
  unfold asker receiver Receiver.requesting
  rw [hlast, htracker]
  exact congrArg (Receiver.mk _ _) hcommands

/-- Commands other than club requests do not count. -/
theorem wrote_asker {cmd : Command} (h : cmd ≠ .requestClubMetrics) (c : Client) (ok : Bool) :
    (c.wrote cmd ok).asker = c.asker := by
  refine asker_congr rfl rfl ?_
  unfold commands wrote
  rw [List.filterMap_append, List.filter_append, List.append_right_eq_self]
  cases cmd with
  | requestClubMetrics => exact absurd rfl h
  | _ => simp [Command.encode, Command.typeByteOf, Command.typeByte, clubRequest]

/-- The first command of the identity step has been taken. -/
def queried (c : Client) (env : PollEnv) : Client :=
  { c.wrote .query true with lastHeartbeat := env.clock.beat }

theorem queried_asker (c : Client) (env : PollEnv) : (c.queried env).asker = c.asker :=
  wrote_asker (by simp) c true

theorem IdentityFailed.asker {c c' : Client} {env : PollEnv} {e : IoError}
    (h : IdentityFailed c env c' e) : c'.asker = c.asker := by
  cases h with
  | characteristic u e hr => rfl
  | query e hw => exact wrote_asker (by simp) c false
  | heartbeat e hq hw =>
    exact (wrote_asker (by simp) (c.queried env) false).trans (queried_asker c env)

theorem identified_asker (c : Client) (env : PollEnv) : (c.identified env).asker = c.asker :=
  (wrote_asker (by simp) (c.queried env) true).trans (queried_asker c env)

end Client

namespace ClientOp

variable {ft : Features}

theorem CallStep.asker {c c' : Client} {op : ClientOp} {r : Reply} (h : CallStep c op c' r) :
    c'.asker = c.asker := by
  have hselect (c : Client) (club : Club) (ok : Bool) :
      (c.wrote (.selectClub club c.handed) ok).asker = c.asker := wrote_asker (by simp) c ok
  have hdetect (c : Client) (club : Club) (spin : SpinMode) (ok : Bool) :
      ((ClientOp.selected c club).wrote (.detectBall true spin) ok).asker = c.asker :=
    (wrote_asker (by simp) (ClientOp.selected c club) ok).trans (hselect c club true)
  have hcommand {op : ClientOp} {cmd : Command} (hcmd : op.command = some cmd) :
      cmd ≠ .requestClubMetrics := by
    rintro rfl
    cases op <;> cases hcmd
  cases h with
  | sent _ cmd hcmd hw => exact wrote_asker (hcommand hcmd) c true
  | refused _ cmd e hcmd hw => exact wrote_asker (hcommand hcmd) c false
  | selected write club hw => exact hselect c club true
  | unselected write club e hw => exact hselect c club false
  | armed write club spin hw hd => exact hdetect c club spin true
  | undetected write club spin e hw hd => exact hdetect c club spin false
  | unarmed write club spin e hw => exact hselect c club false
  | handed | calibrated => rfl

/-- The frame a call receives; only a poll receives any. -/
def receives (c : Client) : ClientOp → Option (List UInt8)
  | .poll env => c.receives env
  | _ => none

/-- A call does what the receiver does with the frame it receives, and nothing when it
receives none. -/
theorem exec_asker (ft : Features) {c : Client} (hq : c.queue = []) (op : ClientOp) :
    (op.receives c = none ∧ (op.exec ft c).1.asker = c.asker ∧
      (Reply.event (op.exec ft c).2).bind Event.plain = none) ∨
    ∃ data, op.receives c = some data ∧
      (op.exec ft c).1.asker = (Receiver.take ft (fun _ => none) c.asker data).1 ∧
      (Reply.event (op.exec ft c).2).bind Event.plain =
        (Receiver.take ft (fun _ => none) c.asker data).2 := by
  rcases op.other_or_poll with hop | ⟨env, rfl⟩
  · refine .inl ⟨?_, (call_step ft c op hop).asker, ?_⟩
    · cases op with
      | poll env => exact absurd rfl (hop env)
      | _ => rfl
    · rw [(exec_other ft c op hop).2.2]
      rfl
  · have hstep := poll_step ft env c
    by_cases hr : c.Reads
    · rcases hstep.receiver_receives hr with ⟨hnone, hrecv, hevent⟩ | ⟨data, hdata, htake⟩
      · refine .inl ⟨hnone, congrArg Receiver.requesting hrecv, ?_⟩
        exact congrArg (fun ev : Option Event => ev.bind Event.plain) hevent
      · refine .inr ⟨data, hdata, ?_⟩
        -- the requests are what is kept of the commands, and the club metrics are not
        rcases @Receiver.take_plain ft (c.reported ft) c.asker data with ⟨hfst, hsnd⟩
        have hasker : Receiver.take ft (c.reported ft) c.asker data = _ :=
          Receiver.take_requesting (c.reported ft) c.receiver data
        rw [← htake] at hasker
        rw [hasker] at hfst hsnd
        exact ⟨hfst, hsnd⟩
    · -- a client that is not active yet takes its identity step
      have hp : c.phase = .connecting := by
        cases hphase : c.phase with
        | connecting => rfl
        | active => exact absurd ⟨hq, hphase⟩ hr
      refine .inl ⟨receives_connecting hp env, ?_⟩
      show ((Client.poll ft env).exec c).1.asker = c.asker ∧
        (Reply.event ((Client.poll ft env).exec c).2).bind Event.plain = none
      generalize (Client.poll ft env).exec c = out at hstep
      rcases out with ⟨c', r⟩
      cases hstep with
      | queued ev rest hq' => simp [hq] at hq'
      | identified => exact ⟨identified_asker c env, rfl⟩
      | unidentified _ e _ _ hf => exact ⟨hf.asker, rfl⟩
      | beatFailed _ hr' | readFailed _ hr' | closed _ hr' | silent hr' | idle hr'
      | duplicate _ hr' | malformed _ _ hr' | accepted _ _ _ _ hr' => exact absurd hr' hr

end ClientOp

/-! ## The channel and the client along a run -/

namespace Feed

variable {ft : Features}

/-- What a step does to the channel. -/
def onChannel (s : Feed) : FeedOp → Option (Op (List UInt8))
  | .notify value => some (.send value)
  | .threadEnds => some .dropSender
  | .call op => if op.Looks s.client then some .tryRecv else none

/-- The notification a step takes from the channel. -/
def takes (s : Feed) (i : FeedOp) : Option (List UInt8) :=
  (s.onChannel i).bind s.notifications.takes

/-- The frame a step receives. -/
def receives (s : Feed) : FeedOp → Option (List UInt8)
  | .call op => (op.over s.notifications).receives s.client
  | .notify _ | .threadEnds => none

/-- The frame a poll makes of a notification; an empty one reads as the end of the link. -/
def frameOf (value : List UInt8) : Option (List UInt8) :=
  if value = [] then none else some (value.take 64)

theorem receives_cut (v : List UInt8) :
    (if (Payload.cut (v.take 64)).bytes = [] then none
      else some (Payload.cut (v.take 64)).bytes) = frameOf v := by
  have hcut : (Payload.cut (v.take 64)).bytes = v.take 64 := by simp [Payload.cut]
  rw [hcut]
  unfold frameOf
  cases v with
  | nil => rfl
  | cons b v => rfl

/-- What every state of a run has: the transport is there, and nothing is queued. -/
structure Open (s : Feed) : Prop where
  receiver : s.notifications.receiver = true
  queue : s.client.queue = []

theorem new_open (now : ℕ) : (new now).Open := ⟨rfl, rfl⟩

theorem step_open {s : Feed} (h : s.Open) (i : FeedOp) : ((machine ft).next s i).Open := by
  cases i with
  | notify value => exact ⟨(Channel.send_receiver _ value).trans h.receiver, h.queue⟩
  | threadEnds => exact ⟨h.receiver, h.queue⟩
  | call op =>
    refine ⟨?_, ClientOp.exec_queue _ (op.over s.notifications) h.queue⟩
    show (if op.Looks s.client then s.notifications.tryRecv.1 else s.notifications).receiver = true
    split
    · exact (Channel.tryRecv_receiver _).trans h.receiver
    · exact h.receiver

theorem refines_channel (ft : Features) :
    (machine ft).Refines (Mpsc.machine (α := List UInt8)) Open (fun _ _ => True) notifications
      onChannel (fun _ => ([] : List Unit)) fun _ => [] where
  inv := fun s i h _ => step_open h i
  quiet := by
    rintro s i - - hnone
    cases i with
    | notify | threadEnds => cases hnone
    | call op =>
      have hlooks : ¬op.Looks s.client := by
        intro hlooks
        rw [onChannel, if_pos hlooks] at hnone
        cases hnone
      exact ⟨if_neg hlooks, rfl⟩
  heard := by
    rintro s i k h - hk
    refine ⟨?_, rfl⟩
    cases i with
    | notify | threadEnds =>
      obtain rfl := Option.some.inj hk
      rfl
    | call op =>
      by_cases hlooks : op.Looks s.client
      · rw [onChannel, if_pos hlooks] at hk
        obtain rfl := Option.some.inj hk
        have htake : Mpsc.machine.next s.notifications .tryRecv = s.notifications.tryRecv.1 :=
          congrArg Prod.fst (Channel.step_tryRecv h.receiver)
        rw [htake]
        exact if_pos hlooks
      · rw [onChannel, if_neg hlooks] at hk
        cases hk

/-- What a step receives is made of what it takes from the channel. -/
theorem receives_eq {s : Feed} (h : s.Open) (i : FeedOp) :
    s.receives i = (s.takes i).bind frameOf := by
  unfold takes
  cases i with
  | notify | threadEnds => rfl
  | call op =>
    by_cases hlooks : op.Looks s.client
    · have htakes : s.notifications.takes .tryRecv = s.notifications.queue.head? :=
        if_pos h.receiver
      rw [onChannel, if_pos hlooks, Option.bind_some, htakes]
      cases op with
      | poll env =>
        have hlooks' : s.client.Reads ∧ s.client.Beats (env.over s.notifications) := hlooks
        show s.client.receives (env.over s.notifications) = _
        unfold Client.receives
        rw [if_pos hlooks']
        unfold PollEnv.over
        dsimp only
        cases hq : s.notifications.queue with
        | nil =>
          rw [Channel.tryRecv_of_nil hq]
          cases s.notifications.sender <;> rfl
        | cons v rest =>
          rw [Channel.tryRecv_of_cons hq]
          exact receives_cut v
      | _ => exact hlooks.elim
    · rw [onChannel, if_neg hlooks]
      cases op with
      | poll env =>
        have hlooks' : ¬(s.client.Reads ∧ s.client.Beats (env.over s.notifications)) := hlooks
        exact if_neg hlooks'
      | _ => rfl

theorem call_sender (s : Feed) (op : ClientOp) :
    (s.call ft op).1.notifications.sender = s.notifications.sender := by
  show (if op.Looks s.client then s.notifications.tryRecv.1 else s.notifications).sender = _
  split
  · exact Channel.tryRecv_sender _
  · rfl

/-- The notifications put in before the thread has ended. -/
def arrived : List FeedOp → List (List UInt8)
  | [] => []
  | .notify value :: ops => value :: arrived ops
  | .threadEnds :: _ => []
  | .call _ :: ops => arrived ops

theorem puts_eq_arrived {s : Feed} (h : s.Open) (ops : List FeedOp) :
    (machine ft).heardAlong (fun s i => (s.onChannel i).bind s.notifications.puts) s ops =
      if s.notifications.sender then arrived ops else [] := by
  induction ops generalizing s with
  | nil => exact (ite_self []).symm
  | cons i ops ih =>
    have hopen := @step_open ft s h i
    rw [Reactive.Machine.heardAlong_cons, ih hopen]
    cases i with
    | notify value =>
      show (s.notifications.puts (.send value)).toList ++
        (if (s.notifications.send value).sender then arrived ops else []) = _
      rw [Channel.send_sender, Channel.puts_send h.receiver]
      cases s.notifications.sender <;> rfl
    | threadEnds =>
      show [] ++ (if false = true then arrived ops else []) = _
      cases s.notifications.sender <;> rfl
    | call op =>
      have hsender : ((machine ft).next s (.call op)).notifications.sender =
        s.notifications.sender := call_sender s op
      rw [hsender]
      by_cases hlooks : op.Looks s.client
      · rw [onChannel, if_pos hlooks]
        rfl
      · rw [onChannel, if_neg hlooks]
        rfl

/-- What a step tells of the device's notifications. -/
def tells (o : Option Reply) : List Event := (o.bind fun r => r.event.bind Event.plain).toList

theorem refines_asker (ft : Features) :
    (machine ft).Refines (Receiver.machine ft fun _ => none) Open (fun _ _ => True)
      (fun s => s.client.asker) receives tells Option.toList where
  inv := fun s i h _ => step_open h i
  quiet := by
    rintro s i h - hnone
    cases i with
    | notify | threadEnds => exact ⟨rfl, rfl⟩
    | call op =>
      rcases (op.over s.notifications).exec_asker ft h.queue with
        ⟨-, hasker, hevent⟩ | ⟨data, hdata, -⟩
      · exact ⟨hasker, congrArg Option.toList hevent⟩
      · rw [receives, hdata] at hnone
        cases hnone
  heard := by
    rintro s i data h - hdata
    cases i with
    | notify | threadEnds => cases hdata
    | call op =>
      rcases (op.over s.notifications).exec_asker ft h.queue with
        ⟨hnone, -⟩ | ⟨data', hdata', hasker, hevent⟩
      · rw [receives, hnone] at hdata
        cases hdata
      · obtain rfl : data = data' := Option.some.inj (hdata.symm.trans hdata')
        exact ⟨hasker, congrArg Option.toList hevent⟩

/-- What has been taken and what waits in the channel is what has arrived. -/
theorem takes_append_queue (ft : Features) (now : ℕ) (ops : List FeedOp) :
    (machine ft).heardAlong takes (new now) ops ++
      ((machine ft).run (new now) ops).notifications.queue = arrived ops := by
  have hmeets : (machine ft).Meets (fun _ _ => True) (new now) ops :=
    (machine ft).meets_of_forall fun _ _ => trivial
  have hchannel := refines_channel ft
  have htakes : _ = (machine ft).heardAlong takes (new now) ops :=
    hchannel.heardAlong_eq Channel.takes (new_open now) hmeets
  have hputs := hchannel.heardAlong_eq Channel.puts (new_open now) hmeets
  have hqueue := hchannel.run_eq (new_open now) hmeets
  have hopen : ((machine ft).run (new now) ops).Open :=
    (machine ft).run_invariant Open (fun s i h => step_open h i) ops (new_open now)
  have hreceiver := hopen.receiver
  rw [puts_eq_arrived (new_open now)] at hputs
  rw [hqueue] at hreceiver ⊢
  rw [← htakes]
  exact (taken_append_queue hreceiver).trans hputs

/-- What a client has told, and what it is, by what it has taken from the channel. -/
theorem run_takes (ft : Features) (now : ℕ) (ops : List FeedOp) :
    let N := Receiver.machine ft fun _ => none
    let frames := ((machine ft).heardAlong takes (new now) ops).filterMap frameOf
    ((machine ft).outs (new now) ops).flatMap tells =
        (N.outs (Client.new now).asker frames).flatMap Option.toList ∧
      ((machine ft).run (new now) ops).client.asker = N.run (Client.new now).asker frames := by
  intro N frames
  have hmeets : (machine ft).Meets (fun _ _ => True) (new now) ops :=
    (machine ft).meets_of_forall fun _ _ => trivial
  have hframes : (machine ft).heardAlong receives (new now) ops = frames := by
    rw [(machine ft).heardAlong_congr Open (fun s i h => step_open h i)
      (fun s i h => receives_eq h i) (new_open now), Reactive.Machine.heardAlong_bind]
  have hasker := refines_asker ft
  rw [← hframes]
  exact ⟨hasker.outs_eq (new_open now) hmeets, hasker.run_eq (new_open now) hmeets⟩

/-- The notification a step accepts. -/
def accepts (ft : Features) (s : Feed) (i : FeedOp) : Option Notification :=
  (s.receives i).bind fun data => if data = s.client.lastRx then none else (parse ft data).toOption

/-- The notifications that frames are accepted as, a frame that repeats the one before it
not counted. -/
def acceptable (ft : Features) (frames : List (List UInt8)) : List Notification :=
  (frames.destutter (· ≠ ·)).filterMap fun data => (parse ft data).toOption

/-- What a run accepts of the frames it receives, by the frame remembered at its start. -/
theorem accepts_eq_destutter {s : Feed} (h : s.Open) (ops : List FeedOp) :
    (machine ft).heardAlong (accepts ft) s ops =
      (((machine ft).heardAlong receives s ops).destutter' (· ≠ ·) s.client.lastRx).tail.filterMap
        fun data => (parse ft data).toOption := by
  induction ops generalizing s with
  | nil => rfl
  | cons i ops ih =>
    have hopen := @step_open ft s h i
    rw [Reactive.Machine.heardAlong_cons, Reactive.Machine.heardAlong_cons, ih hopen]
    unfold accepts
    cases hr : s.receives i with
    | none =>
      have hasker := ((refines_asker ft).quiet s i h trivial hr).1
      have hlast : ((machine ft).next s i).client.lastRx = s.client.lastRx :=
        congrArg Receiver.lastRx hasker
      rw [hlast]
      rfl
    | some data =>
      have hasker := ((refines_asker ft).heard s i data h trivial hr).1
      have hlast : ((machine ft).next s i).client.lastRx = data :=
        (congrArg Receiver.lastRx hasker).trans (Receiver.take_lastRx _ data)
      rw [hlast, Option.bind_some, Option.toList_some, List.singleton_append]
      generalize (machine ft).heardAlong receives ((machine ft).next s i) ops = frames
      by_cases hsame : data = s.client.lastRx
      · rw [if_pos hsame, List.destutter'_cons_neg _ (by simp [hsame]), hsame]
        rfl
      · rw [if_neg hsame, List.destutter'_cons_pos _ (Ne.symm hsame), List.tail_cons]
        have hhead := Reactive.destutter'_eq_cons data frames
        rw [hhead, List.filterMap_cons]
        cases (parse ft data).toOption <;> rfl

/-- A client accepts what its frames are accepted as. -/
theorem accepts_eq_acceptable (ft : Features) (now : ℕ) (ops : List FeedOp) :
    (machine ft).heardAlong (accepts ft) (new now) ops =
      acceptable ft (((machine ft).heardAlong takes (new now) ops).filterMap frameOf) := by
  have hframes : (machine ft).heardAlong receives (new now) ops =
      ((machine ft).heardAlong takes (new now) ops).filterMap frameOf := by
    rw [(machine ft).heardAlong_congr Open (fun s i h => step_open h i)
      (fun s i h => receives_eq h i) (new_open now), Reactive.Machine.heardAlong_bind]
  rw [accepts_eq_destutter (new_open now), ← hframes]
  unfold acceptable
  have hstart : (new now).client.lastRx = [] := rfl
  rw [hstart]
  cases (machine ft).heardAlong receives (new now) ops with
  | nil => rfl
  | cons data frames =>
    rw [List.destutter_cons']
    by_cases hempty : data = []
    · -- an empty frame is none of a notification
      subst hempty
      rw [List.destutter'_cons_neg _ (by simp), Reactive.destutter'_eq_cons [] frames]
      rfl
    · rw [List.destutter'_cons_pos _ (Ne.symm hempty), List.tail_cons]

/-- For every interleaving of the thread that receives notifications with the calls of
the client, whatever fails: the client has taken the first few of the notifications that
arrived, each once and in order, and the others wait in the channel; and what it has told
of them, up to club metrics, its device state, pending ball, last frame and club requests
are the receiver's on the frames it made of these, one request for each ball it accepted. -/
theorem feed_follows_device (ft : Features) (now : ℕ) (ops : List FeedOp) :
    let s := (machine ft).run (new now) ops
    let N := Receiver.machine ft fun _ => none
    ∃ n, s.notifications.queue = (arrived ops).drop n ∧
      let frames := ((arrived ops).take n).filterMap frameOf
      ((machine ft).outs (new now) ops).flatMap tells =
          (N.outs (Client.new now).asker frames).flatMap Option.toList ∧
        s.client.asker = N.run (Client.new now).asker frames := by
  intro s N
  refine ⟨((machine ft).heardAlong takes (new now) ops).length, ?_, ?_⟩
  · rw [← takes_append_queue ft, List.drop_left]
  · rw [← takes_append_queue ft, List.take_left]
    exact run_takes ft now ops

/-! ## The end of the thread is found -/

/-- One if the step is a poll that succeeds. -/
def succeeds (ft : Features) (s : Feed) : FeedOp → ℕ
  | .call (.poll env) => if (s.call ft (.poll env)).2.isOk then 1 else 0
  | _ => 0

/-- The thread has ended, and the client is active. -/
structure Ended (s : Feed) : Prop where
  isOpen : s.Open
  sender : s.notifications.sender = false
  phase : s.client.phase = .active

/-- A thread that has ended does not come back. -/
theorem step_sender {s : Feed} (h : s.notifications.sender = false) (i : FeedOp) :
    ((machine ft).next s i).notifications.sender = false := by
  cases i with
  | notify value => exact (Channel.send_sender _ value).trans h
  | threadEnds => rfl
  | call op => exact (call_sender s op).trans h

theorem step_phase {s : Feed} (h : s.Open) (hp : s.client.phase = .active) (i : FeedOp) :
    ((machine ft).next s i).client.phase = .active := by
  cases i with
  | notify | threadEnds => exact hp
  | call op =>
    rcases (op.over s.notifications).other_or_poll with hop | ⟨env, hop⟩
    · exact (ClientOp.call_step ft s.client _ hop).phase.trans hp
    · show ((op.over s.notifications).exec ft s.client).1.phase = .active
      rw [hop]
      exact ((poll_step ft env s.client).reads ⟨h.queue, hp⟩).2

theorem step_ended {s : Feed} (h : s.Ended) (i : FeedOp) : ((machine ft).next s i).Ended :=
  ⟨step_open h.isOpen i, step_sender h.sender i, step_phase h.isOpen h.phase i⟩

theorem run_ended {now : ℕ} {ops : List FeedOp} (hended : FeedOp.threadEnds ∈ ops)
    (hactive : ((machine ft).run (new now) ops).client.phase = .active) :
    ((machine ft).run (new now) ops).Ended := by
  refine ⟨?_, ?_, hactive⟩
  · exact (machine ft).run_invariant Open (fun s i h => step_open h i) ops (new_open now)
  · rcases List.append_of_mem hended with ⟨pre, post, rfl⟩
    have hgone := (machine ft).run_invariant (fun s => s.notifications.sender = false)
      (fun s i h => step_sender h i) post (s := (machine ft).next ((machine ft).run (new now) pre)
        .threadEnds) rfl
    rw [(machine ft).run_append]
    exact hgone

/-- A poll that finds the end of its thread fails. -/
theorem poll_of_drained {s : Feed} (h : s.Ended) (hq : s.notifications.queue = []) (env : PollEnv) :
    (s.call ft (.poll env)).2 = .error .disconnected ∨
      ∃ e, env.write .heartbeat = .error e ∧ (s.call ft (.poll env)).2 = .error (.transport e) := by
  have hread : (env.over s.notifications).read = .ok (.cut []) := by
    unfold PollEnv.over
    rw [Channel.tryRecv_of_nil hq, h.sender]
    rfl
  have hstep := poll_step ft (env.over s.notifications) s.client
  show ((Client.poll ft (env.over s.notifications)).exec s.client).2 = _ ∨ ∃ e, _ ∧
    ((Client.poll ft (env.over s.notifications)).exec s.client).2 = _
  generalize (Client.poll ft (env.over s.notifications)).exec s.client = out at hstep ⊢
  rcases out with ⟨c', r⟩
  cases hstep with
  | queued ev rest hq' => simp [h.isOpen.queue] at hq'
  | identified _ _ _ _ _ hp => simp [h.phase] at hp
  | unidentified _ _ _ hp => simp [h.phase] at hp
  | beatFailed e _ _ hw => exact .inr ⟨e, hw, rfl⟩
  | closed => exact .inl rfl
  | readFailed _ _ _ _ hread' => simp [hread] at hread'
  | silent _ _ hread' => simp [hread] at hread'
  | idle _ _ hread' => simp [hread] at hread'
  | duplicate p _ _ hread' hne =>
    rw [hread] at hread'
    cases hread'
    exact absurd rfl hne
  | malformed p _ _ _ hread' hne =>
    rw [hread] at hread'
    cases hread'
    exact absurd rfl hne
  | accepted p _ _ _ _ _ hread' _ hparse =>
    rw [hread] at hread'
    cases hread'
    exact absurd rfl (ne_nil_of_parse hparse)

/-- A poll of an active client that does not get to its read fails. -/
theorem poll_of_not_looks {s : Feed} (h : s.Ended) {env : PollEnv}
    (hlooks : ¬ClientOp.Looks s.client (.poll env)) :
    (s.call ft (.poll env)).2.isOk = false := by
  have hr : s.client.Reads := ⟨h.isOpen.queue, h.phase⟩
  have hbeats : ¬s.client.Beats (env.over s.notifications) := fun hb => hlooks ⟨hr, hb⟩
  have hstep := poll_step ft (env.over s.notifications) s.client
  show ((Client.poll ft (env.over s.notifications)).exec s.client).2.isOk = false
  generalize (Client.poll ft (env.over s.notifications)).exec s.client = out at hstep ⊢
  rcases out with ⟨c', r⟩
  cases hstep with
  | queued ev rest hq => simp [h.isOpen.queue] at hq
  | identified _ _ _ _ _ hp => simp [h.phase] at hp
  | unidentified | beatFailed | readFailed | closed | silent => rfl
  | idle _ hb | duplicate _ _ hb | malformed _ _ _ hb | accepted _ _ _ _ _ hb =>
    exact absurd hb hbeats

/-- After the thread has ended, a poll that succeeds has taken a notification. -/
theorem succeeds_add_queue {s : Feed} (h : s.Ended) (i : FeedOp) :
    succeeds ft s i + ((machine ft).next s i).notifications.queue.length ≤
      s.notifications.queue.length := by
  cases i with
  | notify value =>
    have htakes : ¬s.notifications.Takes := by
      rintro ⟨hsender, -⟩
      rw [h.sender] at hsender
      cases hsender
    show 0 + (s.notifications.send value).queue.length ≤ _
    rw [Channel.send_of_not_takes htakes, Nat.zero_add]
  | threadEnds => exact (Nat.zero_add _).le
  | call op =>
    show _ + (if op.Looks s.client then s.notifications.tryRecv.1
      else s.notifications).queue.length ≤ _
    cases op with
    | poll env =>
      by_cases hlooks : ClientOp.Looks s.client (.poll env)
      · rw [if_pos hlooks]
        cases hq : s.notifications.queue with
        | nil =>
          -- nothing is left, so the poll fails
          have hfails : (s.call ft (.poll env)).2.isOk = false := by
            rcases @poll_of_drained ft s h hq env with hr | ⟨e, -, hr⟩ <;> rw [hr] <;> rfl
          rw [succeeds, hfails, Channel.tryRecv_of_nil hq, hq]
          rfl
        | cons v rest =>
          rw [Channel.tryRecv_of_cons hq, succeeds, List.length_cons]
          show _ + rest.length ≤ _
          split <;> omega
      · rw [if_neg hlooks, succeeds, poll_of_not_looks h hlooks]
        exact (Nat.zero_add _).le
    | _ =>
      rw [if_neg (by exact fun hlooks => hlooks)]
      exact (Nat.zero_add _).le

/-- Once the thread has ended, at most as many polls of an active client succeed as there
are notifications left, whatever else is called in between; and when none is left, a
poll that does not fail on its heartbeat reports the device disconnected. -/
theorem loss_found (ft : Features) (now : ℕ) (before after : List FeedOp)
    (hended : FeedOp.threadEnds ∈ before)
    (hactive : ((machine ft).run (new now) before).client.phase = .active) :
    let s := (machine ft).run (new now) before
    let s' := (machine ft).run s after
    ((machine ft).trace (succeeds ft) s after).sum + s'.notifications.queue.length ≤
        s.notifications.queue.length ∧
      (s'.notifications.queue = [] → ∀ env, (s'.call ft (.poll env)).2 = .error .disconnected ∨
        ∃ e, env.write .heartbeat = .error e ∧
          (s'.call ft (.poll env)).2 = .error (.transport e)) := by
  intro s s'
  have hs : s.Ended := run_ended hended hactive
  have hs' : s'.Ended := (machine ft).run_invariant Ended (fun s i h => step_ended h i) after hs
  refine ⟨?_, fun hq env => poll_of_drained hs' hq env⟩
  exact (machine ft).sum_trace_le Ended (fun s i h => step_ended h i)
    (fun s => s.notifications.queue.length) (succeeds ft)
    (fun s i h => succeeds_add_queue h i) hs after

/-- Two notifications are left, one of them a repeat: the third poll finds the end. -/
theorem loss_found_third :
    let poll : FeedOp := .call (.poll (.empty 0))
    let before := [poll, .notify sampleBall.bytes, .notify sampleBall.bytes, .threadEnds]
    let s := (machine ⟨false⟩).run (new 0) before
    let s' := (machine ⟨false⟩).run s [poll, poll]
    ((machine ⟨false⟩).trace (succeeds ⟨false⟩) s [poll, poll]).sum = 2 ∧
      (s'.call ⟨false⟩ (.poll (.empty 0))).2 = .error .disconnected := by
  intro poll before s s'
  have hphase : s.client.phase = .active := rfl
  have hqueue : s'.notifications.queue = [] := rfl
  have h := loss_found ⟨false⟩ 0 before [poll, poll] (by simp [before]) hphase
  refine ⟨rfl, ?_⟩
  rcases h.2 hqueue (.empty 0) with hlost | ⟨e, hbeat, -⟩
  · exact hlost
  · cases hbeat

end Feed

end AllSquare
