import AllSquare.Client.Tracker

/-! # Duplicate deliveries are invisible

The device sends every notification twice. The client remembers the last frame
it took in, of whatever kind and whether or not it parsed, and drops a frame
equal to it. `Receiver` is the client as a function of the frames it reads:
its memory, its tracker and the commands it has sent on their account.

A receiver that takes a frame in has it as its memory, and a frame it has as its
memory changes nothing, so by `Reactive.Machine.run_destutter` it sees only the
collapsed sequence; and polling an active client refines it, empty reads and
heartbeats being silent (`refines_receiver`).
-/

namespace AllSquare

/-- The command a notification makes the client send, without its number. -/
def Notification.request : Notification → List (List UInt8)
  | .ball _ => [(Command.requestClubMetrics.encode 0).eraseIdx 2]
  | _ => []

structure Receiver where
  lastRx : List UInt8
  tracker : Tracker
  /-- The commands sent so far other than heartbeats, without their numbers. -/
  commands : List (List UInt8)

namespace Receiver

/-- Take in one frame. -/
def take (ft : Features) (report : ClubMetrics → Option ClubMetrics) (r : Receiver)
    (data : List UInt8) : Receiver × Option Event :=
  if data = r.lastRx then (r, none)
  else
    match parse ft data with
    | .ok n =>
      ({ lastRx := data
         tracker := (r.tracker.hear report n).1
         commands := r.commands ++ n.request }, (r.tracker.hear report n).2)
    | .error _ => ({ r with lastRx := data }, none)

/-- The receiver driven by frames. -/
def machine (ft : Features) (report : ClubMetrics → Option ClubMetrics) :
    Reactive.Machine Receiver (List UInt8) (Option Event) where
  step := take ft report

variable {ft : Features} {report : ClubMetrics → Option ClubMetrics}

theorem take_lastRx (r : Receiver) (data : List UInt8) :
    (take ft report r data).1.lastRx = data := by
  unfold take
  split
  · exact Eq.symm ‹_›
  · split <;> rfl

theorem take_repeat {r : Receiver} {data : List UInt8} (h : r.lastRx = data) :
    take ft report r data = (r, none) :=
  if_pos h.symm

theorem take_malformed {r : Receiver} {data : List UInt8} {e : Error} (hnew : data ≠ r.lastRx)
    (hparse : parse ft data = .error e) :
    take ft report r data = ({ r with lastRx := data }, none) := by
  unfold take
  rw [if_neg hnew, hparse]

theorem take_accepted {r : Receiver} {data : List UInt8} {n : Notification}
    (hnew : data ≠ r.lastRx) (hparse : parse ft data = .ok n) :
    take ft report r data =
      ({ lastRx := data
         tracker := (r.tracker.hear report n).1
         commands := r.commands ++ n.request }, (r.tracker.hear report n).2) := by
  unfold take
  rw [if_neg hnew, hparse]

end Receiver

namespace Client

variable {ft : Features}

/-! ## The client as a receiver -/

/-- The commands handed to the transport other than heartbeats, without their
sequence numbers. -/
def commands (c : Client) : List (List UInt8) :=
  c.written.filterMap fun w =>
    if Command.typeByteOf w.frame = some Command.heartbeat.typeByte then none
    else some (w.frame.eraseIdx 2)

def receiver (c : Client) : Receiver where
  lastRx := c.lastRx
  tracker := c.tracker
  commands := c.commands

theorem commands_wrote_heartbeat (c : Client) (ok : Bool) :
    (c.wrote .heartbeat ok).commands = c.commands := by
  simp [commands, wrote]

theorem commands_wrote_request (c : Client) (ok : Bool) :
    (c.wrote .requestClubMetrics ok).commands =
      c.commands ++ [(Command.requestClubMetrics.encode 0).eraseIdx 2] := by
  simp [commands, wrote, Command.encode, Command.typeByteOf, Command.typeByte, Command.payload]

@[simp] theorem beaten_commands (c : Client) (env : PollEnv) :
    (c.beaten env).commands = c.commands := by
  unfold beaten
  split
  · exact commands_wrote_heartbeat c true
  · rfl

theorem HandleStep.commands {write : Command → IoResult Unit} {c c' : Client} {n : Notification}
    {r : Reply} (h : HandleStep ft write c n c' r) : c'.commands = c.commands ++ n.request := by
  cases h with
  | ball b hw => exact commands_wrote_request _ true
  | ballFailed b e hw => exact commands_wrote_request _ false
  | passed _ ev hn =>
    cases n with
    | sensor _ | battery _ _ | clock _ | alignment _ => exact (List.append_nil _).symm
    | ball _ | heartbeatAck _ | queryResponse _ | club _ => cases hn
  | staleClub | strayClub | shot | sameState | newState | query => exact (List.append_nil _).symm

theorem took_receiver (c : Client) (env : PollEnv) (data : List UInt8) :
    (c.took env data).receiver = { c.receiver with lastRx := data } := rfl

theorem HandleStep.lastRx {write : Command → IoResult Unit} {c c' : Client} {n : Notification}
    {r : Reply} (h : HandleStep ft write c n c' r) : c'.lastRx = c.lastRx := by
  cases h <;> rfl

end Client

/-! ## Polling refines the receiver -/

/-- Every write is taken, and the read gives a frame or nothing yet. -/
structure PollEnv.Listening (env : PollEnv) : Prop where
  write : ∀ cmd, env.write cmd = .ok ()
  read : env.read = .error .wouldBlock ∨ ∃ p : Payload, env.read = .ok p ∧ p.bytes ≠ []

theorem PollEnv.empty_listening (t : ℕ) : (PollEnv.empty t).Listening :=
  ⟨fun _ => rfl, .inl rfl⟩

theorem PollEnv.reading_listening {t : ℕ} {p : Payload} (h : p.bytes ≠ []) :
    (PollEnv.reading t p).Listening :=
  ⟨fun _ => rfl, .inr ⟨p, rfl, h⟩⟩

/-- The frame a poll reads. -/
def PollEnv.frame (env : PollEnv) : Option (List UInt8) :=
  match env.read with
  | .ok p => some p.bytes
  | .error _ => none

namespace Client

variable {ft : Features}

/-- A poll of an active client does what the receiver does with the frame it receives,
and nothing when it receives none, whatever fails. -/
theorem PollStep.receiver_receives {c c' : Client} {env : PollEnv} {r : Reply}
    (h : PollStep ft c env c' r) (hr : c.Reads) :
    (c.receives env = none ∧ c'.receiver = c.receiver ∧ r.event = none) ∨
    ∃ data, c.receives env = some data ∧
      (c'.receiver, r.event) = Receiver.take ft (c.reported ft) c.receiver data := by
  have hbeaten : (c.beaten env).receiver = c.receiver := by simp [Client.receiver]
  cases h with
  | queued ev rest hq => simp [hr.1] at hq
  | identified _ _ _ _ _ hp => simp [hr.2] at hp
  | unidentified _ e _ hp hf => simp [hr.2] at hp
  | beatFailed e _ hd hw =>
    refine .inl ⟨if_neg fun h => by simp [Beats, hd, hw] at h, ?_, rfl⟩
    exact congrArg (Receiver.mk _ _) (commands_wrote_heartbeat c false)
  | readFailed e _ hb hne hread => exact .inl ⟨receives_of_error hread c, hbeaten, rfl⟩
  | silent _ hb hread hs => exact .inl ⟨receives_of_error hread c, hbeaten, rfl⟩
  | idle _ hb hread hs => exact .inl ⟨receives_of_error hread c, hbeaten, rfl⟩
  | closed p _ hb hread hnil =>
    exact .inl ⟨(receives_eq hr hb hread).trans (if_pos hnil), hbeaten, rfl⟩
  | duplicate p _ hb hread hne hdup =>
    refine .inr ⟨p.bytes, (receives_eq hr hb hread).trans (if_neg hne), ?_⟩
    rw [Receiver.take_repeat hdup.symm, took_receiver, hbeaten, hdup]
    rfl
  | malformed p e _ hb hread hne hnew hparse =>
    refine .inr ⟨p.bytes, (receives_eq hr hb hread).trans (if_neg hne), ?_⟩
    have hnew' : p.bytes ≠ c.receiver.lastRx := hnew
    rw [Receiver.take_malformed hnew' hparse, took_receiver, hbeaten]
    rfl
  | accepted p n _ _ _ hb hread hnew hparse hstep =>
    have hne : p.bytes ≠ [] := ne_nil_of_parse hparse
    refine .inr ⟨p.bytes, (receives_eq hr hb hread).trans (if_neg hne), ?_⟩
    have hcommands : ((c.beaten env).took env p.bytes).commands = c.commands :=
      beaten_commands c env
    have hnew' : p.bytes ≠ c.receiver.lastRx := hnew
    rcases hstep.tracker with ⟨ht, hev⟩
    have hsent := hstep.commands
    rw [took_reported, took_tracker] at ht hev
    rw [hcommands] at hsent
    rw [Receiver.take_accepted hnew' hparse, hev]
    apply congrArg (·, _)
    unfold Client.receiver
    rw [hstep.lastRx, ht, hsent]
    rfl

/-- A listening client receives the frame it reads. -/
theorem receives_of_listening {c : Client} {env : PollEnv} (hr : c.Reads) (he : env.Listening) :
    c.receives env = env.frame := by
  unfold receives PollEnv.frame
  rw [if_pos ⟨hr, fun _ => he.write _⟩]
  rcases he.read with hblock | ⟨p, hread, hne⟩
  · rw [hblock]
  · rw [hread]
    exact if_neg hne

/-- A poll of an active client does what the receiver does with the frame it
reads, and nothing when it reads none. -/
theorem PollStep.receiver {c c' : Client} {env : PollEnv} {r : Reply}
    (h : PollStep ft c env c' r) (hr : c.Reads) (he : env.Listening) :
    (env.frame = none ∧ c'.receiver = c.receiver ∧ r.event = none) ∨
    ∃ data, env.frame = some data ∧
      (c'.receiver, r.event) = Receiver.take ft (c.reported ft) c.receiver data := by
  rw [← receives_of_listening hr he]
  exact h.receiver_receives hr

theorem refines_receiver (ft : Features) (report : ClubMetrics → Option ClubMetrics) :
    (pollMachine ft).Refines (Receiver.machine ft report)
      (fun c => c.Reads ∧ c.reported ft = report) (fun _ env => env.Listening) receiver
      (fun _ env => env.frame) (fun r => r.event.toList) Option.toList where
  inv := by
    rintro c env ⟨hr, hrep⟩ -
    have hstep := poll_step ft env c
    exact ⟨hstep.reads hr, hrep ▸ funext (reported_congr hstep.config)⟩
  quiet := by
    rintro c env ⟨hr, -⟩ he hnone
    rcases (poll_step ft env c).receiver hr he with ⟨-, hrecv, hev⟩ | ⟨data, hdata, -⟩
    · exact ⟨hrecv, congrArg Option.toList hev⟩
    · simp [hnone] at hdata
  heard := by
    rintro c env data ⟨hr, hrep⟩ he hdata
    rcases (poll_step ft env c).receiver hr he with ⟨hnone, -⟩ | ⟨data', hdata', htake⟩
    · simp [hnone] at hdata
    · obtain rfl : data = data' := Option.some.inj (hdata.symm.trans hdata')
      rw [hrep] at htake
      exact ⟨congrArg Prod.fst htake, congrArg (fun x => Option.toList x.2) htake⟩

/-! ## Two runs over the same frames, however often repeated -/

/-- A client some run of operations leads to. -/
def Reachable (ft : Features) (c : Client) : Prop :=
  ∃ now ops, c = (clientMachine ft).run (new now) ops

theorem Reachable.queue {c : Client} (h : Reachable ft c) : c.queue = [] := by
  rcases h with ⟨now, ops, rfl⟩
  exact (clientMachine ft).run_invariant (fun c => c.queue = [])
    (fun c op hq => ClientOp.exec_queue c op hq) ops rfl

/-- The frames a run of polls reads. -/
def framesRead (envs : List PollEnv) : List (List UInt8) := envs.filterMap PollEnv.frame

/-- A run of polls of an active client emits what the receiver emits on the
collapsed frames, and ends in the state the receiver reaches on them. -/
theorem receiver_run {c : Client} {envs : List PollEnv} (hr : c.Reads)
    (henvs : ∀ env ∈ envs, env.Listening) :
    let N := Receiver.machine ft (c.reported ft)
    let frames := (framesRead envs).destutter (· ≠ ·)
    ((pollMachine ft).run c envs).receiver = N.run c.receiver frames ∧
      ((pollMachine ft).outs c envs).flatMap (fun r => r.event.toList) =
        (N.outs c.receiver frames).flatMap Option.toList := by
  have href := refines_receiver ft (c.reported ft)
  have hmeets : (pollMachine ft).Meets (fun _ env => env.Listening) c envs :=
    (pollMachine ft).meets_of_forall henvs
  have hheard : (pollMachine ft).heardAlong (fun _ env => env.frame) c envs = framesRead envs :=
    (pollMachine ft).heardAlong_eq_filterMap PollEnv.frame c envs
  have hlast (r : Receiver) (data : List UInt8) :
      some ((Receiver.machine ft (c.reported ft)).next r data).lastRx = some data :=
    congrArg some (Receiver.take_lastRx r data)
  have hrep (r : Receiver) (data : List UInt8) (h : some r.lastRx = some data) :
      (Receiver.machine ft (c.reported ft)).step r data = (r, none) :=
    Receiver.take_repeat (Option.some.inj h)
  -- the receiver cannot tell the frames read from the collapsed ones, and the client
  -- runs as the receiver does
  constructor
  · rw [Reactive.Machine.run_destutter _ hlast hrep, href.run_eq ⟨hr, rfl⟩ hmeets, hheard]
  · rw [Reactive.Machine.outs_destutter _ hlast hrep rfl, href.outs_eq ⟨hr, rfl⟩ hmeets, hheard]

/-- Two runs of polls from one active client that read the same frames up to
adjacent repeats return the same events, send the same commands other than
heartbeats, and end with the same device state, pending ball, club guard and
last frame. -/
theorem duplicates_invisible (ft : Features) (c : Client) (hc : Reachable ft c)
    (hp : c.phase = .active) (envs₁ envs₂ : List PollEnv)
    (h₁ : ∀ env ∈ envs₁, env.Listening) (h₂ : ∀ env ∈ envs₂, env.Listening)
    (hsame : (framesRead envs₁).destutter (· ≠ ·) = (framesRead envs₂).destutter (· ≠ ·)) :
    let end₁ := (pollMachine ft).run c envs₁
    let end₂ := (pollMachine ft).run c envs₂
    ((pollMachine ft).outs c envs₁).flatMap (fun r => r.event.toList) =
        ((pollMachine ft).outs c envs₂).flatMap (fun r => r.event.toList) ∧
      end₁.commands = end₂.commands ∧ end₁.state = end₂.state ∧
      end₁.pendingShot = end₂.pendingShot ∧ end₁.awaitingClub = end₂.awaitingClub ∧
      end₁.lastRx = end₂.lastRx := by
  intro end₁ end₂
  have hr : c.Reads := ⟨hc.queue, hp⟩
  rcases receiver_run hr h₁ with ⟨hend₁, hevs₁⟩
  rcases receiver_run hr h₂ with ⟨hend₂, hevs₂⟩
  rw [hsame] at hend₁ hevs₁
  have hend : end₁.receiver = end₂.receiver := hend₁.trans hend₂.symm
  have htracker : end₁.tracker = end₂.tracker := congrArg Receiver.tracker hend
  exact ⟨hevs₁.trans hevs₂.symm, congrArg Receiver.commands hend,
    congrArg Tracker.device htracker, congrArg Tracker.pending htracker,
    congrArg Tracker.awaiting htracker, congrArg Receiver.lastRx hend⟩

/-- A shot delivered twice over, with a pause, against the same shot once. -/
theorem duplicates_invisible_doubled :
    let c := (clientMachine ⟨false⟩).run (new 0) [.poll (.empty 0)]
    let once : List PollEnv := [.reading 1 sampleBall, .reading 2 sampleClub]
    let twice : List PollEnv := [.reading 1 sampleBall, .reading 1 sampleBall, .empty 2,
      .reading 3 sampleClub, .reading 4 sampleClub]
    ((pollMachine ⟨false⟩).outs c once).flatMap (fun r => r.event.toList) =
        ((pollMachine ⟨false⟩).outs c twice).flatMap (fun r => r.event.toList) ∧
      ((pollMachine ⟨false⟩).run c once).commands =
        ((pollMachine ⟨false⟩).run c twice).commands := by
  intro c once twice
  have hball : sampleBall.bytes ≠ [] := by decide
  have hclub : sampleClub.bytes ≠ [] := by decide
  have h := duplicates_invisible ⟨false⟩ c ⟨0, _, rfl⟩ rfl once twice
    (by simp [once, PollEnv.reading_listening, hball, hclub])
    (by simp [twice, PollEnv.reading_listening, PollEnv.empty_listening, hball, hclub])
    (by decide)
  exact ⟨h.1, h.2.1⟩

end Client

end AllSquare
