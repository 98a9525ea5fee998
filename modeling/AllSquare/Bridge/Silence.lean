import AllSquare.Bridge.Watchdog
import AllSquare.Client.Cadence

/-! # The program on a silent link

A transport need not report that its link is lost; the watchdog then finds it silent. When
from some instant on nothing arrives any more and the turns of the loop are at most `g`
apart, the program first takes what is left in its channel, each turn one notification, and
then lets two heartbeats go unanswered; so it ends by a deadline, whatever becomes of its
writes and whatever controllers ask for (`silence_ends_program`). `Quiet` is what holds of
the client's timers from that instant on.
-/

namespace AllSquare

open Client Mpsc Reactive

variable {ft : Features}

/-! ## Polls that succeed -/

namespace Client

/-- How a poll that succeeds moves the timers. -/
theorem PollStep.timers_of_isOk {c c' : Client} {env : PollEnv} {r : Reply}
    (h : PollStep ft c env c' r) (hc : c.Timed) (hok : r.isOk = true) :
    (c.phase = .connecting ∧ c'.timers = (c.identified env).timers) ∨
    (ClientOp.Looks c (.poll env) ∧ env.read = .error .wouldBlock ∧
      c'.timers = c.timers.beat env.clock.start env.clock.beat ∧
      ¬(c.timers.beat env.clock.start env.clock.beat).Silent env.clock.recv) ∨
    (ClientOp.Looks c (.poll env) ∧ (∃ p, env.read = .ok p ∧ p.bytes ≠ []) ∧
      c'.timers = (c.timers.beat env.clock.start env.clock.beat).hear env.clock.recv) := by
  have hbeaten := beaten_timers hc env
  have htook (p : Payload) : ((c.beaten env).took env p.bytes).timers =
      (c.timers.beat env.clock.start env.clock.beat).hear env.clock.recv := by
    rw [← hbeaten]
    rfl
  cases h with
  | queued ev rest hq => simp [hc.1] at hq
  | identified fw hwv id model hq hp => exact .inl ⟨hp, rfl⟩
  | unidentified | beatFailed | readFailed | closed | silent => cases hok
  | idle hr hb hread hs =>
    refine .inr (.inl ⟨⟨hr, hb⟩, hread, hbeaten, ?_⟩)
    intro hsilent
    apply hs
    have htimeout : (c.beaten env).linkTimeout = AllSquare.linkTimeout :=
      (congrArg Config.linkTimeout (beaten_config c env)).trans hc.2.2
    unfold LinkSilent
    rw [htimeout]
    rw [← hbeaten] at hsilent
    exact hsilent
  | duplicate p hr hb hread hne => exact .inr (.inr ⟨⟨hr, hb⟩, ⟨p, hread, hne⟩, htook p⟩)
  | malformed p e hr hb hread hne => exact .inr (.inr ⟨⟨hr, hb⟩, ⟨p, hread, hne⟩, htook p⟩)
  | accepted p n _ _ hr hb hread hnew hparse hstep =>
    exact .inr (.inr ⟨⟨hr, hb⟩, ⟨p, hread, ne_nil_of_parse hparse⟩,
      hstep.timers.1.trans (htook p)⟩)

end Client

/-! ## The timers on a silent link -/

/-- One turn's poll comes after another's, and within `g` of its start. -/
def Clock.Follows (g : ℕ) (k k' : Clock) : Prop := k.recv ≤ k'.start ∧ k'.recv ≤ k.start + g

/-- The timers after a poll at `k`, with `left` turns to come before nothing is left to
read; `heard` bounds the instants at which something is heard. -/
structure Quiet (g heard : ℕ) (k : Clock) (left : ℕ) (t : Timers) : Prop where
  past : t.lastHeartbeat ≤ k.recv
  data : t.lastData ≤ heard
  left : 0 < left → k.start + left * g ≤ heard
  none : t.unanswered = 0 → t.lastHeartbeat ≤ heard ∧ k.start < heard + secs 5
  one : t.unanswered = 1 →
    t.lastHeartbeat ≤ heard + secs 5 + g ∧ k.start < heard + secs 10 + g
  more : 2 ≤ t.unanswered → k.start < heard + secs 15

namespace Quiet

variable {g heard : ℕ} {k k' : Clock} {left : ℕ} {t : Timers}

/-- No poll comes later than that. -/
theorem start_lt (h : Quiet g heard k left t) :
    k.start < heard + max (secs 15) (secs 10 + g) := by
  have hten := secs_ten
  have hle := Nat.le_max_left (secs 15) (secs 10 + g)
  have hle' := Nat.le_max_right (secs 15) (secs 10 + g)
  rcases Nat.lt_trichotomy t.unanswered 1 with hlt | heq | hgt
  · have hstart := (h.none (Nat.lt_one_iff.1 hlt)).2
    omega
  · have hstart := (h.one heq).2
    omega
  · have hstart := h.more hgt
    omega

/-- What a poll does that hears something, or identifies the device. -/
theorem hears (h : Quiet g heard k (left + 1) t) (hk : Clock.Follows g k k') {t' : Timers}
    (hbeat : t'.lastHeartbeat ≤ k'.recv) (hdata : t'.lastData = k'.recv)
    (hone : t'.unanswered ≤ 1) : Quiet g heard k' left t' := by
  rcases hk with ⟨-, hgap⟩
  have hleft := h.left (Nat.succ_pos left)
  rw [Nat.succ_mul] at hleft
  have hstart : k'.start ≤ k'.recv := k'.start_le.trans k'.beat_le
  have hfive := secs_five_pos
  have hten := secs_ten
  constructor
  · exact hbeat
  · rw [hdata]
    omega
  · intro hpos
    omega
  · intro hzero
    omega
  · intro h1
    omega
  · intro h2
    omega

/-- What a poll does that finds nothing to read and does not report the link silent. -/
theorem waits (h : Quiet g heard k 0 t) (hk : Clock.Follows g k k')
    (hwaits : ¬(t.beat k'.start k'.beat).Silent k'.recv) :
    Quiet g heard k' 0 (t.beat k'.start k'.beat) := by
  rcases hk with ⟨hafter, hgap⟩
  have hstart := k'.start_le
  have hrecv := k'.beat_le
  have hten := secs_ten
  have hpast := h.past
  have hdata := h.data
  -- with two heartbeats unanswered the last thing heard is not long ago
  have hmore (hdata' : (t.beat k'.start k'.beat).lastData = t.lastData)
      (h2 : 2 ≤ (t.beat k'.start k'.beat).unanswered) : k'.start < heard + secs 15 := by
    have hrecent : ¬secs 15 ≤ k'.recv - (t.beat k'.start k'.beat).lastData :=
      fun hlong => hwaits ⟨h2, hlong⟩
    omega
  by_cases hdue : secs 5 ≤ k'.start - t.lastHeartbeat
  · have hbeat : t.beat k'.start k'.beat = { t with
        lastHeartbeat := k'.beat
        unanswered := min (t.unanswered + 1) u32Max
        heartbeats := t.heartbeats + 1 } := Timers.beat_due hdue
    rw [hbeat] at hmore ⊢
    rcases saturating_succ t.unanswered with ⟨hpos, hone⟩
    constructor
    · exact hrecv
    · exact hdata
    · intro h0
      cases h0
    · intro h0
      exact absurd h0 hpos
    · intro h1
      have hnone := (h.none (hone h1)).2
      show k'.beat ≤ heard + secs 5 + g ∧ _
      omega
    · exact hmore rfl
  · have hbeat : t.beat k'.start k'.beat = t := Timers.beat_not_due hdue
    rw [hbeat] at hmore ⊢
    constructor
    · omega
    · exact hdata
    · intro h0
      cases h0
    · intro h0
      have hnone := (h.none h0).1
      omega
    · intro h1
      have hone := (h.one h1).1
      omega
    · exact hmore rfl

end Quiet

/-! ## Turns on a silent link -/

/-- The clock of a turn. -/
def ProgramOp.clock : ProgramOp → Option Clock
  | .turn env => some env.poll.clock
  | .notify _ | .threadEnds => none

namespace Program

/-- The clocks of a run's turns, in order. -/
def clocks (ops : List ProgramOp) : List Clock := ops.filterMap ProgramOp.clock

/-- What a read gives that looks into the channel. -/
theorem over_read (env : PollEnv) (ch : Ble.Notifications) :
    ((env.over ch).read = .error .wouldBlock → ch.queue = []) ∧
      ∀ p, (env.over ch).read = .ok p → p.bytes ≠ [] → ch.queue ≠ [] := by
  unfold PollEnv.over
  cases hq : ch.queue with
  | nil =>
    rw [Channel.tryRecv_of_nil hq]
    refine ⟨fun _ => rfl, ?_⟩
    intro p hp hne
    cases hsender : ch.sender with
    | true =>
      rw [hsender] at hp
      cases hp
    | false =>
      -- the thread has ended, and the read gives zero bytes
      rw [hsender] at hp
      have hnil : Payload.cut [] = p := Except.ok.inj hp
      exact absurd (congrArg Payload.bytes hnil).symm hne
  | cons v rest =>
    rw [Channel.tryRecv_of_cons hq]
    refine ⟨?_, fun _ _ _ => List.cons_ne_nil v rest⟩
    intro hp
    cases hp

/-- What a turn does that leaves the program running: it hears something and leaves less to
do, or finds nothing to read and does not report the link silent. -/
theorem turn_timers {s : Program} (hs : s.bridge.client.Timed) {env : TurnEnv}
    (hrun : ((machine ft).next s (.turn env)).bridge.running = true) :
    let s' := (machine ft).next s (.turn env)
    let k := env.poll.clock
    let t := s.bridge.client.timers
    let t' := s'.bridge.client.timers
    s'.bridge.client.Timed ∧
      ((s.left = s'.left + 1 ∧ (t'.lastHeartbeat = t.lastHeartbeat ∨ t'.lastHeartbeat = k.beat) ∧
          t'.lastData = k.recv ∧ t'.unanswered ≤ 1) ∨
        (s.left = 0 ∧ s'.left = 0 ∧ t' = t.beat k.start k.beat ∧
          ¬(t.beat k.start k.beat).Silent k.recv)) := by
  intro s' k t t'
  have hruns : s.bridge.running = true := @running_of_run ft s [.turn env] hrun
  have hstep := Client.poll_step ft (env.over s.notifications).poll s.bridge.client
  have hcalls := Bridge.iterate_calls ft hruns (env.over s.notifications)
  have hok : ((Client.poll ft (env.over s.notifications).poll).exec s.bridge.client).2.isOk =
      true := by
    by_contra hfails
    have hends := running_of_error (Bool.not_eq_true _ ▸ hfails)
    change s'.bridge.running = false at hends
    rw [hrun] at hends
    cases hends
  have htimers : t' = ((Client.poll ft (env.over s.notifications).poll).exec
      s.bridge.client).1.timers := congrArg Prod.fst hcalls.watch
  have hphase : s'.bridge.client.phase = _ := hcalls.stays.phase
  refine ⟨hcalls.timed (hstep.timed hs), ?_⟩
  rcases hstep.timers_of_isOk hs hok with ⟨hp, hid⟩ | ⟨hlooks, hread, hbeat, hwaits⟩ |
    ⟨hlooks, ⟨p, hread, hne⟩, hheard⟩
  · -- the device is identified, and nothing is read
    have hno : ¬s.Looks env := by
      rintro ⟨-, ⟨-, hactive⟩, -⟩
      rw [hp] at hactive
      cases hactive
    have hsame : s'.notifications = s.notifications := if_neg hno
    have hactive : s'.bridge.client.phase = .active :=
      hphase.trans (congrArg Timers.phase hid)
    rw [htimers, hid, identified_timers]
    refine .inl ⟨?_, .inr rfl, rfl, Nat.le_refl 1⟩
    unfold left
    rw [hsame, hactive, hp]
    simp
  · -- nothing is there to read
    have hempty := (over_read env.poll s.notifications).1 hread
    have hactive : s'.bridge.client.phase = .active := hphase.trans (hstep.reads hlooks.1).2
    have htaken : s'.notifications = s.notifications.tryRecv.1 := if_pos ⟨hruns, hlooks⟩
    refine .inr ⟨?_, ?_, htimers.trans hbeat, hwaits⟩
    · unfold left
      rw [hempty, hlooks.1.2]
      simp
    · unfold left
      rw [htaken, Channel.tryRecv_queue, hempty, hactive]
      simp
  · -- a notification is taken
    have hqueue := (over_read env.poll s.notifications).2 p hread hne
    have hactive : s'.bridge.client.phase = .active := hphase.trans (hstep.reads hlooks.1).2
    have htaken : s'.notifications = s.notifications.tryRecv.1 := if_pos ⟨hruns, hlooks⟩
    rw [htimers, hheard]
    refine .inl ⟨?_, ?_, rfl, Nat.zero_le 1⟩
    · unfold left
      rw [htaken, Channel.tryRecv_queue, hactive, hlooks.1.2]
      rcases List.exists_cons_of_ne_nil hqueue with ⟨v, rest, hq⟩
      rw [hq]
      simp
    · show (t.beat k.start k.beat).lastHeartbeat = _ ∨ (t.beat k.start k.beat).lastHeartbeat = _
      unfold Timers.beat
      split
      · exact .inr rfl
      · exact .inl rfl

/-- The timers of a program whose turns have all come by `since`. -/
structure By (since : ℕ) (s : Program) : Prop where
  timed : s.bridge.client.Timed
  beat : s.bridge.client.lastHeartbeat ≤ since
  data : s.bridge.client.lastData ≤ since

theorem next_by {since : ℕ} {s : Program} (h : s.By since) {i : ProgramOp}
    (hi : ∀ k, i.clock = some k → k.recv ≤ since)
    (hrun : ((machine ft).next s i).bridge.running = true) : ((machine ft).next s i).By since := by
  cases i with
  | notify | threadEnds => exact ⟨h.timed, h.beat, h.data⟩
  | turn env =>
    have hk := hi env.poll.clock rfl
    have hbeat := env.poll.clock.beat_le
    rcases turn_timers h.timed hrun with ⟨htimed, ⟨-, hlast, hdata, -⟩ | ⟨-, -, htimers, -⟩⟩
    · refine ⟨htimed, ?_, hdata.trans_le hk⟩
      rcases hlast with hsame | hnew
      · exact hsame.trans_le h.beat
      · exact hnew.trans_le (hbeat.trans hk)
    · constructor
      · exact htimed
      · show ((machine ft).next s (.turn env)).bridge.client.timers.lastHeartbeat ≤ since
        rw [htimers]
        unfold Timers.beat
        split
        · exact hbeat.trans hk
        · exact h.beat
      · show ((machine ft).next s (.turn env)).bridge.client.timers.lastData ≤ since
        rw [htimers]
        unfold Timers.beat
        split <;> exact h.data

/-- On a silent link the turns of a program that keeps running all come before the deadline. -/
theorem quiet_run {g heard : ℕ} {k : Clock} {s : Program} (hs : s.bridge.client.Timed)
    (h : Quiet g heard k s.left s.bridge.client.timers) {ops : List ProgramOp}
    (hchain : (k :: clocks ops).IsChain (Clock.Follows g)) (hsilent : ∀ v, .notify v ∉ ops)
    (hrun : ((machine ft).run s ops).bridge.running = true) :
    ∀ k' ∈ clocks ops, k'.start < heard + max (secs 15) (secs 10 + g) := by
  induction ops generalizing k s with
  | nil => nofun
  | cons i ops ih =>
    have hrest : ∀ v, .notify v ∉ ops := fun v hv => hsilent v (List.mem_cons_of_mem _ hv)
    have hnext : ((machine ft).next s i).bridge.running = true := running_of_run hrun
    cases i with
    | notify v => exact absurd (List.mem_cons_self ..) (hsilent v)
    | threadEnds => exact ih (s := (machine ft).next s .threadEnds) hs h hchain hrest hrun
    | turn env =>
      rcases List.isChain_cons_cons.1 hchain with ⟨hfollows, htail⟩
      rcases turn_timers hs hnext with ⟨htimed, hmoves⟩
      have hquiet : Quiet g heard env.poll.clock ((machine ft).next s (.turn env)).left
          ((machine ft).next s (.turn env)).bridge.client.timers := by
        rcases hmoves with ⟨hleft, hlast, hdata, hone⟩ | ⟨hleft, hleft', htimers, hwaits⟩
        · rw [hleft] at h
          refine h.hears hfollows ?_ hdata hone
          rcases hlast with hsame | hnew
          · rw [hsame]
            exact h.past.trans (hfollows.1.trans
              (env.poll.clock.start_le.trans env.poll.clock.beat_le))
          · rw [hnew]
            exact env.poll.clock.beat_le
        · rw [hleft] at h
          rw [hleft', htimers]
          exact h.waits hfollows hwaits
      intro k' hk'
      rcases List.mem_cons.1 hk' with rfl | hk'
      · exact hquiet.start_lt
      · exact ih htimed hquiet htail hrest hrun k' hk'

/-- When from `since` on nothing arrives any more and the turns are at most `g` apart, the
program ends, whatever becomes of its writes: no turn later than `max (15 s) (10 s + g)`
after what is left in the channel could be taken leaves it running. -/
theorem silence_ends_program (ft : Features) (now : ℕ) (env : FrpEnv) (name : Text)
    (arg : Option Text) (before after : List ProgramOp) {since g : ℕ} (hnow : now ≤ since)
    (hbefore : ∀ k ∈ clocks before, k.recv ≤ since)
    (hafter : (Clock.at since :: clocks after).IsChain (Clock.Follows g))
    (hsilent : ∀ v, .notify v ∉ after)
    (hlate : ∃ k ∈ clocks after,
      since + ((machine ft).run (start now env name arg) before).left * g +
        max (secs 15) (secs 10 + g) ≤ k.start) :
    ((machine ft).run (start now env name arg) (before ++ after)).bridge.running = false := by
  rw [Machine.run_append, ← Bool.not_eq_true]
  intro hrun
  rcases hlate with ⟨k, hk, hlate⟩
  have hby : ((machine ft).run (start now env name arg) before).By since := by
    have hclocks : (machine ft).Meets (fun _ i => ∀ k, i.clock = some k → k.recv ≤ since)
        (start now env name arg) before :=
      (machine ft).meets_of_forall fun i hi k hk =>
        hbefore k (List.mem_filterMap.2 ⟨i, hi, hk⟩)
    refine (machine ft).run_invariant_of_meets (fun s => s.bridge.running = true → s.By since)
      ?_ (fun _ => ⟨timed_new now, hnow, hnow⟩) hclocks (running_of_run hrun)
    intro s i hs hi hnext
    exact next_by (hs (@running_of_run ft s [i] hnext)) hi hnext
  have hfive := secs_five_pos
  have hten := secs_ten
  have hfifteen := secs_fifteen
  have hquiet : Quiet g
      (since + ((machine ft).run (start now env name arg) before).left * g) (Clock.at since)
      ((machine ft).run (start now env name arg) before).left
      ((machine ft).run (start now env name arg) before).bridge.client.timers := by
    generalize (machine ft).run (start now env name arg) before = s at hby
    have hbeat : s.bridge.client.timers.lastHeartbeat ≤ since := hby.beat
    have hdata : s.bridge.client.timers.lastData ≤ since := hby.data
    generalize hspent : s.left * g = spent
    constructor
    · exact hbeat
    · omega
    · intro _
      exact Nat.add_le_add_left hspent.le since
    · intro _
      show _ ∧ since < _
      omega
    · intro _
      show _ ∧ since < _
      omega
    · intro _
      show since < _
      omega
  exact absurd (quiet_run hby.timed hquiet hafter hsilent hrun k hk) (Nat.not_lt.2 hlate)

/-- An acknowledgment is left in the channel when the device falls silent; turns come every
five seconds, and the one 20 s later ends the program. -/
theorem silence_ends_program_after :
    let poll (t : ℕ) : ProgramOp := .turn (Bridge.turn (.empty t))
    ((machine ⟨false⟩).run (start 0 ⟨fun _ => .ok (), true, 0⟩ [] none)
      ([poll 0, .notify Bridge.readyAck.bytes] ++
        [poll (secs 5), poll (secs 10), poll (secs 15), poll (secs 20)])).bridge.running =
          false := by
  intro poll
  have hchain : (Clock.at 0 :: clocks [poll (secs 5), poll (secs 10), poll (secs 15),
      poll (secs 20)]).IsChain (Clock.Follows (secs 5)) := by
    simp [clocks, poll, ProgramOp.clock, Bridge.turn, PollEnv.empty, Clock.Follows, Clock.at, secs]
  refine silence_ends_program ⟨false⟩ 0 ⟨fun _ => .ok (), true, 0⟩ [] none
    [poll 0, .notify Bridge.readyAck.bytes] [poll (secs 5), poll (secs 10), poll (secs 15),
      poll (secs 20)] (Nat.le_refl 0) ?_ hchain ?_ ?_
  · intro k hk
    rw [List.mem_singleton.1 hk]
    exact Nat.le_refl 0
  · intro v hv
    simp [poll] at hv
  · exact ⟨Clock.at (secs 20), by simp [clocks, poll, ProgramOp.clock, Bridge.turn, PollEnv.empty],
      by decide⟩

end Program

end AllSquare
