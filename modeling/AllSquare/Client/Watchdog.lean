import AllSquare.Client.Timers

/-! # The watchdog on a live link

`Link` is a client with the frames it can read, in order. Its steps are a frame
becoming readable and a poll, at any instants and in any order; a caller that
pauses is one that takes no poll step for a while. A poll takes time, so frames may
also become readable between its heartbeat and its read, the acknowledgment of that
heartbeat among them. A link is live when every heartbeat is acknowledged by a frame
that is readable by the time the next heartbeat is written (`Live`).

The invariant is about the acknowledgment of the last heartbeat: while that
heartbeat is unanswered, its acknowledgment is still on its way or waiting to be
read (`Inv`). So no poll of a live link finds two heartbeats unanswered and
nothing to read, and none reports the loss of the link (`live_link_kept`).
-/

namespace AllSquare

structure Link where
  client : Client
  /-- The frames that can be read, in order. -/
  inbox : List Payload
  /-- An acknowledgment of the last heartbeat written has become readable. -/
  acked : Bool

inductive LinkStep where
  /-- A frame becomes readable; it may be the acknowledgment of the last
  heartbeat. -/
  | arrive (p : Payload) (ack : Bool)
  /-- A poll; the frames of `during` become readable after it has written its heartbeat,
  if any, and before it reads. -/
  | poll (clock : Clock) (characteristic : Uuid → IoResult (List UInt8)) (hint : Option Text)
    (during : List (Payload × Bool))

namespace Link

variable {ft : Features}

/-- Nothing has arrived at a new client. -/
def init (now : ℕ) : Link := ⟨.new now, [], false⟩

/-- The environment of a poll: every write is taken, and the read gives the
first readable frame. -/
def env (s : Link) (clock : Clock) (characteristic : Uuid → IoResult (List UInt8))
    (hint : Option Text) : PollEnv where
  clock := clock
  read :=
    match s.inbox with
    | [] => .error .wouldBlock
    | p :: _ => .ok p
  write := fun _ => .ok ()
  readCharacteristic := characteristic
  modelHint := hint

/-- The frames of `during` have become readable. -/
def joined (s : Link) (during : List (Payload × Bool)) : Link :=
  { s with inbox := s.inbox ++ during.map Prod.fst }

/-- A poll of an active client reads; a heartbeat it writes is not acknowledged before it
is written. -/
def step (ft : Features) (s : Link) : LinkStep → Link × Option Reply
  | .arrive p ack => ({ s with inbox := s.inbox ++ [p], acked := s.acked || ack }, none)
  | .poll clock characteristic hint during =>
    let inbox := (s.joined during).inbox
    let (c, r) := (Client.poll ft ((s.joined during).env clock characteristic hint)).exec s.client
    ({ client := c
       inbox := if s.client.Reads then inbox.tail else inbox
       acked := (if s.client.heartbeats < c.heartbeats then false else s.acked) ||
         during.any Prod.snd }, some r)

def machine (ft : Features) : Reactive.Machine Link LinkStep (Option Reply) where
  step := step ft

/-- What a live link grants: frames are not empty, and when an active client is
about to write a heartbeat, the one before has been acknowledged. -/
def Live (s : Link) : LinkStep → Prop
  | .arrive p _ => p.bytes ≠ []
  | .poll clock characteristic hint during =>
    (∀ p ∈ during.map Prod.fst, p.bytes ≠ []) ∧
      (s.client.Reads → s.client.HeartbeatDue (s.env clock characteristic hint) → s.acked = true)

/-- At most one heartbeat is unanswered, and if it has been acknowledged there
is a frame to read. -/
structure Inv (s : Link) : Prop where
  timed : s.client.Timed
  frames : ∀ p ∈ s.inbox, p.bytes ≠ []
  unanswered : s.client.phase = .active → s.client.unanswered ≤ 1
  acked : s.client.phase = .active → s.client.unanswered = 1 → s.acked = true → s.inbox ≠ []

theorem init_inv (now : ℕ) : (init now).Inv :=
  ⟨Client.timed_new now, by simp [init], nofun, nofun⟩

/-- What an active client receives is the first readable frame. -/
theorem receives_env {s : Link} (h : s.Inv) (hr : s.client.Reads) (clock : Clock)
    (characteristic : Uuid → IoResult (List UInt8)) (hint : Option Text) :
    s.client.receives (s.env clock characteristic hint) = s.inbox.head?.map Payload.bytes := by
  have hb : s.client.Beats (s.env clock characteristic hint) := fun _ => rfl
  unfold Client.receives env
  rw [if_pos ⟨hr, hb⟩]
  have hframes := h.frames
  cases hin : s.inbox with
  | nil => rfl
  | cons p rest =>
    rw [hin] at hframes
    exact if_neg (hframes p (by simp))

theorem joined_inv {s : Link} (h : s.Inv) {during : List (Payload × Bool)}
    (hframes : ∀ p ∈ during.map Prod.fst, p.bytes ≠ []) : (s.joined during).Inv where
  timed := h.timed
  frames := by
    intro p hp
    rcases List.mem_append.1 hp with hp | hp
    · exact h.frames p hp
    · exact hframes p hp
  unanswered := h.unanswered
  acked := by
    intro hp hone hacked
    exact List.append_ne_nil_of_left_ne_nil (h.acked hp hone hacked) _

/-- With nothing to read nothing has become readable. -/
theorem joined_nil {s : Link} {during : List (Payload × Bool)} (h : (s.joined during).inbox = []) :
    s.inbox = [] ∧ during = [] := by
  rcases List.append_eq_nil_iff.1 h with ⟨hinbox, hduring⟩
  exact ⟨hinbox, List.map_eq_nil_iff.1 hduring⟩

theorem poll_inv {s : Link} (h : s.Inv) (clock : Clock)
    (characteristic : Uuid → IoResult (List UInt8)) (hint : Option Text)
    (during : List (Payload × Bool)) (hlive : s.Live (.poll clock characteristic hint during)) :
    (machine ft).out s (.poll clock characteristic hint during) ≠ some (.error .disconnected) ∧
      ((machine ft).next s (.poll clock characteristic hint during)).Inv := by
  rcases hlive with ⟨hduring, hlive⟩
  have hjoined := joined_inv h hduring
  have hstep := Client.poll_step ft ((s.joined during).env clock characteristic hint) s.client
  have htimers := hstep.timers h.timed fun _ => rfl
  have htimed' := hstep.timed h.timed
  have hrecv := receives_env hjoined
  have hdue : s.client.HeartbeatDue (s.env clock characteristic hint) ↔
      secs heartbeatSecs ≤ clock.start - s.client.timers.lastHeartbeat := by
    unfold Client.HeartbeatDue
    rw [h.timed.2.1]
    rfl
  have hout : (machine ft).out s (.poll clock characteristic hint during) = some
      ((Client.poll ft ((s.joined during).env clock characteristic hint)).exec s.client).2 := rfl
  have hnext : (machine ft).next s (.poll clock characteristic hint during) =
      { client :=
          ((Client.poll ft ((s.joined during).env clock characteristic hint)).exec s.client).1
        inbox :=
          if s.client.Reads then (s.joined during).inbox.tail else (s.joined during).inbox
        acked := (if s.client.heartbeats < ((Client.poll ft
            ((s.joined during).env clock characteristic hint)).exec s.client).1.heartbeats
          then false else s.acked) || during.any Prod.snd } := rfl
  rw [hout, hnext]
  generalize ((Client.poll ft ((s.joined during).env clock characteristic hint)).exec
    s.client).1 = c' at *
  generalize ((Client.poll ft ((s.joined during).env clock characteristic hint)).exec
    s.client).2 = r at *
  have hframes : ∀ p ∈ if s.client.Reads then (s.joined during).inbox.tail
      else (s.joined during).inbox, p.bytes ≠ [] := by
    intro p hp
    split at hp
    · exact hjoined.frames p (List.mem_of_mem_tail hp)
    · exact hjoined.frames p hp
  rcases htimers with ⟨hp, hsame, hr⟩ | ⟨hp, hid, hr⟩ | ⟨hp, hnone, hbeat, hsilent⟩ |
    ⟨hp, hsome, hheard, hr⟩
  · -- still connecting
    have hp' : c'.phase = .connecting := (congrArg Timers.phase hsame).trans hp
    exact ⟨by simpa using hr, htimed', hframes, by simp [hp'], by simp [hp']⟩
  · -- the identity step's heartbeat is the one unanswered; what acknowledges it comes after it
    rw [Client.identified_timers] at hid
    have hone : c'.unanswered = 1 := congrArg Timers.unanswered hid
    have hcount : c'.heartbeats = s.client.heartbeats + 1 := congrArg Timers.heartbeats hid
    have hreads : ¬s.client.Reads := by
      rintro ⟨-, hactive⟩
      rw [hp] at hactive
      cases hactive
    refine ⟨by simpa using hr, htimed', hframes, fun _ => hone.le, ?_⟩
    intro _ _ hacked hempty
    rw [if_neg hreads] at hempty
    rw [(joined_nil hempty).2] at hacked
    simp [hcount] at hacked
  · -- nothing to read: the last heartbeat is not acknowledged, so none is due
    have hempty : (s.joined during).inbox = [] := by
      have hhead := (hrecv ⟨h.timed.1, hp⟩ clock characteristic hint).symm.trans hnone
      simpa using hhead
    rcases joined_nil hempty with ⟨hin, rfl⟩
    have hblock : ((s.joined []).env clock characteristic hint).read = .error .wouldBlock := by
      unfold env
      dsimp only
      rw [hempty]
    have hle := h.unanswered hp
    have hack := h.acked hp
    change c'.timers = s.client.timers.beat clock.start clock.beat at hbeat
    have hloss : r = .error .disconnected → 2 ≤ c'.unanswered := fun hlost =>
      (((hsilent hblock).1 hlost).1).trans_eq (congrArg Timers.unanswered hbeat).symm
    have hbeaten : c'.unanswered ≤ 1 ∧
        (c'.unanswered = 1 → s.acked = true → s.client.heartbeats < c'.heartbeats) := by
      by_cases hd : secs heartbeatSecs ≤ clock.start - s.client.timers.lastHeartbeat
      · -- it is due, so its predecessor was acknowledged, and hence answered
        have hacked := hlive ⟨h.timed.1, hp⟩ (hdue.2 hd)
        have hne : s.client.unanswered ≠ 1 := fun hone => hack hone hacked hin
        have hzero : s.client.timers.unanswered = 0 := by
          show s.client.unanswered = 0
          omega
        rw [Timers.beat_due hd, hzero] at hbeat
        have hcount : c'.heartbeats = s.client.heartbeats + 1 := congrArg Timers.heartbeats hbeat
        have hone : c'.unanswered = min 1 u32Max := congrArg Timers.unanswered hbeat
        exact ⟨hone.trans_le (Nat.min_le_left _ _), fun _ _ => by simp [hcount]⟩
      · rw [Timers.beat_not_due hd] at hbeat
        have hsame : c'.unanswered = s.client.unanswered := congrArg Timers.unanswered hbeat
        exact ⟨hsame.trans_le hle,
          fun hone hacked => absurd hin (hack (hsame.symm.trans hone) hacked)⟩
    refine ⟨?_, htimed', hframes, fun _ => hbeaten.1, ?_⟩
    · intro hlost
      exact absurd hbeaten.1 (Nat.not_le_of_lt (hloss (Option.some.inj hlost)))
    · intro _ hone
      cases hacked : s.acked with
      | false => simp
      | true => simp [hbeaten.2 hone hacked]
  · -- a frame is read: no heartbeat is unanswered
    have hzero : c'.unanswered = 0 := congrArg Timers.unanswered hheard
    exact ⟨by simpa using hr, htimed', hframes, by simp [hzero], by simp [hzero]⟩

theorem arrive_inv {s : Link} (h : s.Inv) {p : Payload} (hp : p.bytes ≠ []) (ack : Bool) :
    ((machine ft).next s (.arrive p ack)).Inv where
  timed := h.timed
  frames := by
    intro q hq
    rcases List.mem_append.1 hq with hq | hq
    · exact h.frames q hq
    · rw [List.mem_singleton.1 hq]
      exact hp
  unanswered := h.unanswered
  acked := fun _ _ _ => List.append_ne_nil_of_right_ne_nil _ (List.cons_ne_nil _ _)

/-- No poll of a live link reports its loss, whatever arrives and whenever the
polls come. -/
theorem live_link_kept (ft : Features) (now : ℕ) (steps : List LinkStep)
    (h : (machine ft).Meets Live (init now) steps) :
    ∀ reply ∈ (machine ft).outs (init now) steps, reply ≠ some (.error .disconnected) := by
  -- `Inv` carries the run: a step of a live link keeps it and reports no loss
  refine (machine ft).forall_mem_outs
    ((machine ft).meets_of_invariant Inv (fun s i hs hi => ?_) (init_inv now) h)
  cases i with
  | arrive p ack => exact ⟨nofun, arrive_inv hs hi ack⟩
  | poll clock characteristic hint during =>
    exact poll_inv hs clock characteristic hint during hi

/-- A caller that pauses for a minute at a time. The heartbeat it writes when it comes back
is acknowledged before that poll reads, and three polls later the link is still up. -/
theorem live_link_kept_pause :
    let ack : Payload := ⟨[0x11, 0x03, 0x16, 0x03, 0x03, 0, 0, 0, 0], by decide⟩
    let poll (t : ℕ) (during : List (Payload × Bool)) : LinkStep :=
      .poll (.at t) (fun _ => .ok []) none during
    ∀ reply ∈ (machine ⟨false⟩).outs (init 0)
        [poll 0 [], .arrive ack true, poll (secs 1) [], poll (secs 60) [(ack, true)],
          poll (secs 120) [], poll (secs 121) [], poll (secs 122) []],
      reply ≠ some (.error .disconnected) := by
  intro ack poll
  have hframes : ∀ p ∈ [(ack, true)].map Prod.fst, p.bytes ≠ [] := by
    intro p hp
    rw [List.mem_singleton.1 hp]
    exact List.cons_ne_nil _ _
  exact live_link_kept ⟨false⟩ 0 _ ⟨⟨nofun, fun hr => nomatch hr.2⟩, List.cons_ne_nil _ _,
    ⟨nofun, fun _ hd => absurd hd (by decide)⟩, ⟨hframes, fun _ _ => rfl⟩,
    ⟨nofun, fun _ _ => rfl⟩, ⟨nofun, fun _ hd => absurd hd (by decide)⟩,
    ⟨nofun, fun _ hd => absurd hd (by decide)⟩, trivial⟩

end Link

end AllSquare
