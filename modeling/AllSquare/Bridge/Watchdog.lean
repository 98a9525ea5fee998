import AllSquare.Bridge.Channel
import AllSquare.Client.Watchdog

/-! # The program on a live link

A poll that fails ends the program, and a poll fails when the watchdog finds the link
silent. `Watched` is the program with its channel and a mark that says whether the last
heartbeat has been acknowledged; notifications also arrive in the middle of a turn. While the
transport takes what is written and every heartbeat is acknowledged before the next is due
(`Live`), the client with the frames in its channel is a live `Link`, whatever controllers ask
for between its polls; so no poll fails, and the program keeps running
(`program_keeps_running`).
-/

namespace AllSquare

open Client Mpsc Reactive

variable {ft : Features}

/-! ## Calls and the link -/

/-- What the watchdog looks at. -/
def Client.watch (c : Client) : Timers × ℕ × ℕ := (c.timers, c.heartbeatInterval, c.linkTimeout)

theorem ClientOp.CallStep.watch {c c' : Client} {op : ClientOp} {r : Reply}
    (h : CallStep c op c' r) : c'.watch = c.watch := by
  -- a command other than a heartbeat moves nothing of it
  have hwrote {cmd : Command} (hcmd : cmd ≠ .heartbeat) (c : Client) (ok : Bool) :
      (c.wrote cmd ok).watch = c.watch := by
    unfold Client.watch
    rw [wrote_timers hcmd]
    rfl
  have hselect (club : Club) (ok : Bool) :
      (c.wrote (.selectClub club c.handed) ok).watch = c.watch := hwrote (by simp) c ok
  have hdetect (club : Club) (spin : SpinMode) (ok : Bool) :
      ((ClientOp.selected c club).wrote (.detectBall true spin) ok).watch = c.watch :=
    (hwrote (by simp) (ClientOp.selected c club) ok).trans (hselect club true)
  have hcommand {op : ClientOp} {cmd : Command} (hcmd : op.command = some cmd) :
      cmd ≠ .heartbeat := by
    rintro rfl
    cases op <;> cases hcmd
  cases h with
  | sent _ cmd hcmd hw => exact hwrote (hcommand hcmd) c true
  | refused _ cmd e hcmd hw => exact hwrote (hcommand hcmd) c false
  | selected write club hw => exact hselect club true
  | unselected write club e hw => exact hselect club false
  | armed write club spin hw hd => exact hdetect club spin true
  | undetected write club spin e hw hd => exact hdetect club spin false
  | unarmed write club spin e hw => exact hselect club false
  | handed | calibrated => rfl

/-- Calls other than polls leave alone what the watchdog looks at. -/
theorem Bridge.Calls.watch {c c' : Client} (h : Bridge.Calls ft c c') : c'.watch = c.watch :=
  h.eq Client.watch fun c op hop => (ClientOp.call_step ft c op hop).watch

theorem Bridge.Calls.timed {c c' : Client} (h : Bridge.Calls ft c c') (hc : c.Timed) :
    c'.Timed := by
  rcases hc with ⟨hempty, hinterval, htimeout⟩
  exact ⟨h.stays.queue.trans hempty, (congrArg (·.2.1) h.watch).trans hinterval,
    (congrArg (·.2.2) h.watch).trans htimeout⟩

/-- Calls other than polls keep what is known of a link. -/
theorem Bridge.Calls.link {c c' : Client} (h : Bridge.Calls ft c c') {inbox : List Payload}
    {acked : Bool} (hlink : Link.Inv ⟨c, inbox, acked⟩) :
    c'.heartbeats = c.heartbeats ∧ Link.Inv ⟨c', inbox, acked⟩ := by
  have hwatch := h.watch
  have htimers : c'.timers = c.timers := congrArg Prod.fst hwatch
  have hphase : c'.phase = c.phase := congrArg Timers.phase htimers
  have hunanswered : c'.unanswered = c.unanswered := congrArg Timers.unanswered htimers
  refine ⟨congrArg Timers.heartbeats htimers, h.timed hlink.timed, hlink.frames, ?_, ?_⟩
  · intro hp
    exact hunanswered.trans_le (hlink.unanswered (hphase.symm.trans hp))
  · intro hp hone
    exact hlink.acked (hphase.symm.trans hp) (hunanswered.symm.trans hone)

/-! ## Polls that do not fail -/

/-- An identity step succeeds when what it needs can be read and written. -/
theorem Client.poll_identifies {c : Client} {env : PollEnv} (hq : c.queue = [])
    (hp : c.phase = .connecting) (hw : ∀ cmd, env.write cmd = .ok ())
    (hreads : ∀ u ∈ identityReads, (env.readCharacteristic u).isOk = true) :
    ((poll ft env).exec c).2.isOk = true := by
  unfold poll
  simp only [Stateful.exec_bind, Stateful.exec_get, hq, hp]
  rcases readIdentity_reads env c with ⟨u, hu, e, he, -⟩ | ⟨-, fw, hw', id, hexec⟩
  · have hok := hreads u hu
    rw [he] at hok
    cases hok
  · rw [hexec, hw, hw]
    rfl

/-- A poll of an active client fails only for what it reads when writes are taken. -/
theorem Client.PollStep.isOk {c c' : Client} {env : PollEnv} {r : Reply}
    (h : PollStep ft c env c' r) (hp : c.phase = .active) (hw : ∀ cmd, env.write cmd = .ok ())
    (hread : ∀ e, env.read = .error e → e = .wouldBlock) (hlost : r ≠ .error .disconnected) :
    r.isOk = true := by
  cases h with
  | queued | identified | idle | duplicate | malformed => rfl
  | unidentified _ e _ hconnecting =>
    rw [hp] at hconnecting
    cases hconnecting
  | beatFailed e hr hd hwb => simp [hw] at hwb
  | readFailed e hr hb he hfails => exact absurd (hread e hfails) he
  | closed | silent => exact absurd rfl hlost
  | accepted p n _ _ hr hb hok hnew hparse hstep =>
    cases hstep with
    | ballFailed b e hwc => simp [hw] at hwc
    | _ => rfl

/-! ## Turns that do not end the program -/

namespace Bridge

theorem attend_running (ft : Features) (b : Bridge) (env : TurnEnv) :
    (b.attend ft env).running = b.running := by
  unfold attend
  dsimp only
  split
  · unfold applyControllerCommand
    dsimp only
    split <;> rfl
  · rfl

theorem handle_running (ft : Features) (b : Bridge) (env : TurnEnv)
    (hw : ∀ cmd, env.write cmd = .ok ()) (ev : Event) :
    (b.handle ft env ev).running = b.running := by
  cases ev with
  | connected fw hwv id model =>
    have harm := arm_ok hw ft b.client b.club .advanced
    have hconnected : (b.connected ft env fw model).running = b.running := by
      unfold connected
      generalize ClientOp.exec ft b.client (.arm env.write b.club .advanced) = out at harm ⊢
      rcases out with ⟨c, r⟩
      dsimp only at harm
      rw [harm]
    unfold handle
    dsimp only
    split
    · exact hconnected
    · exact hconnected
  | stateChanged _ | sensor _ | shot _ _ | battery _ _ | clock _ | alignment _ => rfl

/-- The program goes on after a poll that does not fail. -/
theorem iterate_running (ft : Features) {b : Bridge} (hrun : b.running = true) (env : TurnEnv)
    (hw : ∀ cmd, env.write cmd = .ok ())
    (hpoll : ((Client.poll ft env.poll).exec b.client).2.isOk = true) :
    (b.iterate ft env).running = true := by
  unfold iterate
  rw [if_pos hrun]
  generalize (Client.poll ft env.poll).exec b.client = out at hpoll ⊢
  rcases out with ⟨c, r⟩
  cases r with
  | error e => cases hpoll
  | ok ev =>
    cases ev with
    | none => exact (attend_running ft { b with client := c } env).trans hrun
    | some ev => exact (handle_running ft { b with client := c } env hw ev).trans hrun

end Bridge

/-! ## The program, watched -/

/-- The program, and what is known of its last heartbeat. -/
structure Watched where
  program : Program
  /-- An acknowledgment of the last heartbeat written has arrived. -/
  acked : Bool

/-- A notification arrives, which may be the acknowledgment of the last heartbeat, or the
program takes a turn; the notifications of `during` arrive after the turn has written its
heartbeat, if any, and before it reads. -/
inductive WatchedOp where
  | notify (value : List UInt8) (ack : Bool)
  | turn (env : TurnEnv) (during : List (List UInt8 × Bool))

namespace Watched

def start (now : ℕ) (env : FrpEnv) (deviceName : Text) (arg : Option Text) : Watched :=
  ⟨.start now env deviceName arg, false⟩

/-- The notifications of `during` have arrived. -/
def joined (ft : Features) (s : Watched) (during : List (List UInt8 × Bool)) : Watched :=
  { s with program := (Program.machine ft).run s.program (during.map fun f => .notify f.1) }

/-- A heartbeat that a turn writes is not acknowledged before it is written. -/
def step (ft : Features) (s : Watched) : WatchedOp → Watched
  | .notify value ack => ⟨s.program.step ft (.notify value), s.acked || ack⟩
  | .turn env during =>
    let program := (s.joined ft during).program.step ft (.turn env)
    { program := program
      acked :=
        (if s.program.bridge.client.heartbeats < program.bridge.client.heartbeats then false
          else s.acked) || during.any Prod.snd }

/-- The watched program, under any interleaving of arrivals and turns. -/
def machine (ft : Features) : Machine Watched WatchedOp Unit where
  step s i := (s.step ft i, ())

/-- What a live link grants: frames are not empty, what is written is taken, the identity
can be read, and when an active client is about to write a heartbeat the one before has
been acknowledged. -/
def Live (s : Watched) : WatchedOp → Prop
  | .notify value _ => value ≠ []
  | .turn env during =>
    (∀ f ∈ during, f.1 ≠ []) ∧
    ((∀ cmd, env.poll.write cmd = .ok ()) ∧ ∀ cmd, env.write cmd = .ok ()) ∧
    (∀ u ∈ identityReads, (env.poll.readCharacteristic u).isOk = true) ∧
    (s.program.bridge.client.Reads → s.program.bridge.client.HeartbeatDue env.poll →
      s.acked = true)

/-- What a read makes of a notification. -/
def payload (value : List UInt8) : Payload := .cut (value.take 64)

theorem payload_ne_nil {value : List UInt8} (h : value ≠ []) : (payload value).bytes ≠ [] := by
  cases value with
  | nil => exact absurd rfl h
  | cons b value => simp [payload, Payload.cut]

/-- The client with the frames in its channel. -/
def link (s : Watched) : Link :=
  ⟨s.program.bridge.client, s.program.notifications.queue.map payload, s.acked⟩

/-- The program runs on a live link. -/
structure Inv (s : Watched) : Prop where
  running : s.program.bridge.running = true
  sender : s.program.notifications.sender = true
  receiver : s.program.notifications.receiver = true
  link : s.link.Inv

/-- A turn's poll is one of the link. -/
theorem poll_eq {s : Watched} (h : s.Inv) {env : TurnEnv}
    (hw : ∀ cmd, env.poll.write cmd = .ok ()) :
    env.poll.over s.program.notifications =
      s.link.env env.poll.clock env.poll.readCharacteristic env.poll.modelHint := by
  have hwrite : env.poll.write = fun _ => .ok () := funext hw
  unfold PollEnv.over Link.env Watched.link
  rw [hwrite]
  cases hq : s.program.notifications.queue with
  | nil =>
    rw [Channel.tryRecv_of_nil hq, h.sender]
    rfl
  | cons v rest =>
    rw [Channel.tryRecv_of_cons hq]
    rfl

/-- A channel that takes what is put in has it all. -/
theorem run_notify {p : Program} (h : p.notifications.Takes) (values : List (List UInt8)) :
    (Program.machine ft).run p (values.map .notify) =
      { p with notifications :=
          { p.notifications with queue := p.notifications.queue ++ values } } := by
  induction values generalizing p with
  | nil =>
    rw [List.append_nil]
    rfl
  | cons v values ih =>
    have hsend : p.notifications.send v =
        { p.notifications with queue := p.notifications.queue ++ [v] } := if_pos h
    have hrest := @ih { p with notifications := p.notifications.send v }
      ⟨(Channel.send_sender _ v).trans h.1, (Channel.send_receiver _ v).trans h.2⟩
    rw [List.map_cons, Machine.run_cons]
    refine hrest.trans ?_
    rw [hsend]
    dsimp only
    rw [List.append_assoc, List.singleton_append]

theorem joined_eq {s : Watched} (h : s.Inv) (during : List (List UInt8 × Bool)) :
    s.joined ft during = { s with program := { s.program with notifications :=
      { s.program.notifications with
        queue := s.program.notifications.queue ++ during.map Prod.fst } } } := by
  have hrun := @run_notify ft s.program ⟨h.sender, h.receiver⟩ (during.map Prod.fst)
  rw [List.map_map] at hrun
  unfold joined
  exact congrArg (Watched.mk · s.acked) hrun

/-- What has arrived in the middle of a turn can be read from the link. -/
theorem link_joined {s : Watched} (h : s.Inv) (during : List (List UInt8 × Bool)) :
    (s.joined ft during).link = s.link.joined (during.map fun f => (payload f.1, f.2)) := by
  rw [joined_eq h]
  unfold link Link.joined
  rw [List.map_append, List.map_map, List.map_map]
  rfl

theorem payload_during {during : List (List UInt8 × Bool)} (h : ∀ f ∈ during, f.1 ≠ []) :
    ∀ p ∈ (during.map fun f => (payload f.1, f.2)).map Prod.fst, p.bytes ≠ [] := by
  intro p hp
  rw [List.map_map] at hp
  rcases List.mem_map.1 hp with ⟨f, hf, rfl⟩
  exact payload_ne_nil (h f hf)

theorem joined_inv {s : Watched} (h : s.Inv) {during : List (List UInt8 × Bool)}
    (hframes : ∀ f ∈ during, f.1 ≠ []) : (s.joined ft during).Inv := by
  have hlink : (s.joined ft during).link.Inv := by
    rw [link_joined h]
    exact Link.joined_inv h.link (payload_during hframes)
  rw [joined_eq h] at hlink ⊢
  exact ⟨h.running, h.sender, h.receiver, hlink⟩

theorem next_inv {s : Watched} (h : s.Inv) {i : WatchedOp} (hlive : s.Live i) :
    ((machine ft).next s i).Inv := by
  cases i with
  | notify value ack =>
    have htakes : s.program.notifications.Takes := ⟨h.sender, h.receiver⟩
    have harrive := @Link.arrive_inv ft s.link h.link (payload value) (payload_ne_nil hlive) ack
    refine ⟨h.running, ?_, ?_, ?_⟩
    · exact (Channel.send_sender _ value).trans h.sender
    · exact (Channel.send_receiver _ value).trans h.receiver
    · have hlink : ((machine ft).next s (.notify value ack)).link =
          (Link.machine ft).next s.link (.arrive (payload value) ack) := by
        show Link.mk _ ((s.program.notifications.send value).queue.map payload) _ = Link.mk _ _ _
        unfold Channel.send
        rw [if_pos htakes, List.map_append]
        rfl
      rw [hlink]
      exact harrive
  | turn env during =>
    rcases hlive with ⟨hframes, ⟨hpoll, hwrite⟩, hreads, hdue⟩
    have h₁ : (s.joined ft during).Inv := joined_inv h hframes
    have hlink₁ := @link_joined ft s h during
    have hbridge : (s.joined ft during).program.bridge = s.program.bridge := by rw [joined_eq h]
    have hlinked := @Link.poll_inv ft s.link h.link env.poll.clock env.poll.readCharacteristic
      env.poll.modelHint (during.map fun f => (payload f.1, f.2)) ⟨payload_during hframes, hdue⟩
    let s' : Watched := (machine ft).next s (.turn env during)
    have hs' : s' = ⟨(s.joined ft during).program.step ft (.turn env),
        (if s.program.bridge.client.heartbeats <
          ((s.joined ft during).program.step ft (.turn env)).bridge.client.heartbeats then false
          else s.acked) || during.any Prod.snd⟩ := rfl
    show s'.Inv
    rw [← hbridge] at hs'
    -- the turn is one of the program that has the notifications in its channel
    generalize s.joined ft during = s₁ at h₁ hlink₁ hbridge hs'
    let polled : PollEnv := (env.over s₁.program.notifications).poll
    let out := (Client.poll ft polled).exec s₁.program.bridge.client
    have henv : polled = s₁.link.env env.poll.clock env.poll.readCharacteristic
        env.poll.modelHint := poll_eq h₁ hpoll
    have hout : out = (Client.poll ft polled).exec s.link.client :=
      congrArg (fun b => (Client.poll ft polled).exec (Bridge.client b)) hbridge
    have hlink : (Link.machine ft).step s.link (.poll env.poll.clock env.poll.readCharacteristic
        env.poll.modelHint (during.map fun f => (payload f.1, f.2))) = (⟨out.1,
          if s₁.program.bridge.client.Reads then s₁.link.inbox.tail else s₁.link.inbox,
          (if s₁.program.bridge.client.heartbeats < out.1.heartbeats then false else s.acked) ||
            during.any Prod.snd⟩, some out.2) := by
      unfold Link.machine Link.step
      dsimp only
      rw [← hlink₁, ← henv, List.any_map, hbridge, hout]
      rfl
    unfold Machine.out Machine.next at hlinked
    rw [hlink] at hlinked
    -- the poll is one of a live link, so it does not fail
    have hok : out.2.isOk = true := by
      cases hp : s₁.program.bridge.client.phase with
      | connecting => exact poll_identifies h₁.link.timed.1 hp hpoll hreads
      | active =>
        have hread : ∀ e, polled.read = .error e → e = .wouldBlock := by
          intro e he
          rw [henv] at he
          unfold Link.env at he
          dsimp only at he
          split at he
          · exact (Except.error.inj he).symm
          · cases he
        have hlost : out.2 ≠ .error .disconnected := fun hlost => hlinked.1 (congrArg some hlost)
        exact (poll_step ft polled s₁.program.bridge.client).isOk hp hpoll hread hlost
    have hcalls := Bridge.iterate_calls ft h₁.running (env.over s₁.program.notifications)
    rcases hcalls.link hlinked.2 with ⟨hbeats, hinv⟩
    -- the turn takes from the channel what the poll takes from the link
    have hlooks : s₁.program.Looks env ↔ s₁.program.bridge.client.Reads := by
      constructor
      · intro hlooks
        exact hlooks.2.1
      · intro hr
        exact ⟨h₁.running, hr, fun _ => hpoll _⟩
    have hchannel : (s₁.program.step ft (.turn env)).notifications =
        if s₁.program.bridge.client.Reads then s₁.program.notifications.tryRecv.1
        else s₁.program.notifications := if_congr hlooks rfl rfl
    have hinbox : (if s₁.program.bridge.client.Reads then s₁.link.inbox.tail
        else s₁.link.inbox) = (s₁.program.step ft (.turn env)).notifications.queue.map payload := by
      rw [hchannel]
      split
      · rw [Channel.tryRecv_queue, List.map_tail]
        rfl
      · rfl
    rw [hs']
    refine ⟨Bridge.iterate_running ft h₁.running _ hwrite hok, ?_, ?_, ?_⟩
    · rw [hchannel]
      split
      · exact (Channel.tryRecv_sender _).trans h₁.sender
      · exact h₁.sender
    · rw [hchannel]
      split
      · exact (Channel.tryRecv_receiver _).trans h₁.receiver
      · exact h₁.receiver
    · rw [hinbox, ← hbeats] at hinv
      exact hinv

/-- On a live link the program keeps running: in every interleaving of what arrives with the
turns of the loop, also within a turn, however controllers come and go, whatever they ask for
and however sends to them fail. -/
theorem program_keeps_running (ft : Features) (now : ℕ) (env : FrpEnv) (name : Text)
    (arg : Option Text) (ops : List WatchedOp)
    (h : (machine ft).Meets Live (start now env name arg) ops) :
    ((machine ft).run (start now env name arg) ops).program.bridge.running = true := by
  have hstart : (start now env name arg).Inv := ⟨rfl, rfl, rfl, Link.init_inv now⟩
  exact ((machine ft).run_invariant_of_meets Inv (fun _ _ hs hi => next_inv hs hi) hstart h).running

/-- The loop is held up for a minute; the acknowledgment is there when it goes on, and the
next one comes before the heartbeat's turn reads. -/
theorem program_keeps_running_pause :
    let poll (t : ℕ) (during : List (List UInt8 × Bool)) : WatchedOp :=
      .turn (Bridge.turn (.empty t)) during
    ((machine ⟨false⟩).run (start 0 ⟨fun _ => .ok (), true, 0⟩ [] none)
      [poll 0 [], .notify Bridge.readyAck.bytes true, poll (secs 1) [],
        poll (secs 60) [(Bridge.readyAck.bytes, true)],
        poll (secs 120) []]).program.bridge.running = true := by
  intro poll
  have hwrites : (∀ cmd : Command, (fun _ => .ok () : Command → IoResult Unit) cmd = .ok ()) ∧
      ∀ cmd : Command, (fun _ => .ok () : Command → IoResult Unit) cmd = .ok () :=
    ⟨fun _ => rfl, fun _ => rfl⟩
  have hframes : ∀ f ∈ [(Bridge.readyAck.bytes, true)], f.1 ≠ [] := by
    intro f hf
    rw [List.mem_singleton.1 hf]
    exact List.cons_ne_nil _ _
  exact program_keeps_running ⟨false⟩ 0 ⟨fun _ => .ok (), true, 0⟩ [] none
    [poll 0 [], .notify Bridge.readyAck.bytes true, poll (secs 1) [],
      poll (secs 60) [(Bridge.readyAck.bytes, true)], poll (secs 120) []]
    ⟨⟨nofun, hwrites, fun _ _ => rfl, fun hr => nomatch hr.2⟩, List.cons_ne_nil _ _,
      ⟨nofun, hwrites, fun _ _ => rfl, fun _ hd => absurd hd (by decide)⟩,
      ⟨hframes, hwrites, fun _ _ => rfl, fun _ _ => rfl⟩,
      ⟨nofun, hwrites, fun _ _ => rfl, fun _ _ => rfl⟩, trivial⟩

end Watched

end AllSquare
