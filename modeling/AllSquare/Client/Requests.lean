import AllSquare.Client.Calibration
import AllSquare.Client.Journal

/-! # Is a club packet asked for before it is awaited?

A ball makes the client await a club packet and ask the device for it. The
client starts to wait before the request is handed to the transport, and keeps
waiting when the transport refuses it. `awaitsOnlyAsked_iff` says that a club
packet is awaited only after it was asked for exactly on the runs in which no
ball's request is refused.
-/

namespace AllSquare

theorem mem_numbered_requests {seq : UInt8} {cs : List (Command × Bool)} :
    (∃ w ∈ numbered seq cs, w.ok = true ∧ w.IsRequest) ↔
      (Command.requestClubMetrics, true) ∈ cs := by
  induction cs generalizing seq with
  | nil => simp [numbered]
  | cons p cs ih =>
    rcases p with ⟨cmd, ok⟩
    simp only [numbered, List.mem_cons, exists_eq_or_imp, ih, isRequest_encode_iff,
      Prod.mk.injEq]
    constructor
    · rintro (⟨rfl, rfl⟩ | hmem)
      · exact .inl ⟨rfl, rfl⟩
      · exact .inr hmem
    · rintro (⟨rfl, rfl⟩ | hmem)
      · exact .inl ⟨rfl, rfl⟩
      · exact .inr hmem

namespace Client

open Reactive

variable {ft : Features}

/-- An operation accepts a ball. -/
def AcceptsBall (ft : Features) (c : Client) (op : ClientOp) : Prop :=
  ∃ b, op.accepts ft c = some (.ball b)

/-- The request an accepted ball makes is taken by the transport. -/
def RequestTaken (ft : Features) (c : Client) (op : ClientOp) : Prop :=
  c.AcceptsBall ft op → op.write .requestClubMetrics = .ok ()

/-- The ball held is the last one accepted, and among the frames written since it
came there is a request that the transport took. -/
def AskedForClub (ft : Features) (now : ℕ) (ops : List ClientOp) : Prop :=
  ∃ pre op b, (clientMachine ft).LastStep (AcceptsBall ft) (.new now) ops pre op ∧
    op.accepts ft ((clientMachine ft).run (.new now) pre) = some (.ball b) ∧
    ((clientMachine ft).run (.new now) ops).pendingShot = some b ∧
    ∃ w ∈ ((clientMachine ft).run (.new now) ops).written.drop
        ((clientMachine ft).run (.new now) pre).written.length, w.ok = true ∧ w.IsRequest

/-- In every state of the run, a club packet that is awaited has been asked for;
and so has every one that makes a shot. -/
structure AwaitsOnlyAsked (ft : Features) (now : ℕ) (ops : List ClientOp) : Prop where
  awaited : ∀ pre post, ops = pre ++ post →
    ((clientMachine ft).run (.new now) pre).awaitingClub = true → AskedForClub ft now pre
  attributed : ∀ pre op post b m, ops = pre ++ op :: post →
    Reply.event ((clientMachine ft).out ((clientMachine ft).run (.new now) pre) op) =
      some (.shot b m) → AskedForClub ft now pre

/-! ## What one operation asks for -/

/-- A request is taken in an operation exactly when the operation accepts a ball
and the transport takes the request. -/
theorem exec_asks (ft : Features) (c : Client) (op : ClientOp) :
    ∃ l, (op.exec ft c).1.written = c.written ++ l ∧
      ((∃ w ∈ l, w.ok = true ∧ w.IsRequest) ↔
        c.AcceptsBall ft op ∧ op.write .requestClubMetrics = .ok ()) := by
  rcases op.other_or_poll with hop | ⟨env, rfl⟩
  · -- no operation of the caller asks for anything
    have hissues := ClientOp.exec_issues_of_not_poll ft c op hop
    refine ⟨_, hissues.written, ?_⟩
    rw [mem_numbered_requests]
    apply iff_of_false
    · intro hmem
      have hcmd := mem_of_mem_attempts hmem
      cases op with
      | poll env => exact hop env rfl
      | arm | disarm | selectClub | setUnits | setGreenSpeed | setCarryAdjustment | setHanded
      | setImpactCalibration => simp [ClientOp.issuable] at hcmd
    · rintro ⟨⟨b, hb⟩, -⟩
      rw [ClientOp.accepts_other c op hop] at hb
      cases hb
  · refine ⟨_, (poll_issues ft env c).written, ?_⟩
    have hupkeep : (Command.requestClubMetrics, true) ∉ attempts env.write (c.upkeepOf env) := by
      intro hmem
      have hcmd := (c.upkeepOf_sublist env).subset (mem_of_mem_attempts hmem)
      simp [upkeep] at hcmd
    rw [mem_numbered_requests, pollIssued, List.mem_append, or_iff_right hupkeep]
    unfold AcceptsBall pollAsks
    show _ ↔ (∃ b, c.accepts ft env = some (.ball b)) ∧ env.write .requestClubMetrics = .ok ()
    cases hn : c.accepts ft env with
    | none => simp [attempts]
    | some n =>
      cases n with
      | ball b =>
        cases hw : env.write .requestClubMetrics with
        | ok _ => simp [asks, attempts, hw]
        | error e => simp [asks, attempts, hw]
      | sensor | heartbeatAck | alignment | queryResponse | club | battery | clock =>
        simp [asks, attempts]

/-! ## The ball held -/

/-- A waiting ball is the one accepted last. -/
theorem lastStep_of_pending (ft : Features) (now : ℕ) (ops : List ClientOp) {b : BallMetrics}
    (hb : ((clientMachine ft).run (.new now) ops).pendingShot = some b) :
    ∃ pre op, (clientMachine ft).LastStep (AcceptsBall ft) (.new now) ops pre op ∧
      op.accepts ft ((clientMachine ft).run (.new now) pre) = some (.ball b) := by
  induction ops using List.reverseRecOn with
  | nil => cases hb
  | append_singleton ops op ih =>
    have hsettled := run_settled ft now ops
    -- a step that accepts no ball keeps the last one
    have hkeep (hno : ∀ b', op.accepts ft ((clientMachine ft).run (.new now) ops) ≠
        some (.ball b')) (hpend : ((clientMachine ft).run (.new now) ops).pendingShot = some b) :
        ∃ pre op', (clientMachine ft).LastStep (AcceptsBall ft) (.new now) (ops ++ [op]) pre op' ∧
          op'.accepts ft ((clientMachine ft).run (.new now) pre) = some (.ball b) := by
      rcases ih hpend with ⟨pre, op', hlast, haccepts⟩
      refine ⟨pre, op', (clientMachine ft).lastStep_concat.2 (.inr ⟨?_, hlast⟩), haccepts⟩
      rintro ⟨b', hb'⟩
      exact hno b' hb'
    rw [Machine.run_concat] at hb
    rcases ClientOp.exec_tracker ft _ op hsettled.queue with ⟨hn, ht, -⟩ | ⟨n, hn, ht, -⟩
    · exact hkeep (by simp [hn]) ((congrArg Tracker.pending ht).symm.trans hb)
    · have hpend := (congrArg Tracker.pending ht).symm.trans hb
      rw [Tracker.hear_pending hsettled.paired] at hpend
      cases n with
      | ball b' =>
        obtain rfl : b' = b := Option.some.inj hpend
        exact ⟨ops, op, (clientMachine ft).lastStep_concat.2 (.inl ⟨⟨b', hn⟩, rfl, rfl⟩), hn⟩
      | club m => cases hpend
      | sensor | heartbeatAck | alignment | queryResponse | battery | clock =>
        exact hkeep (by simp [hn]) hpend

/-- A request has been taken since the last ball exactly when the one made for
that ball was. -/
theorem asked_iff_of_lastStep {now : ℕ} {ops pre : List ClientOp} {op : ClientOp}
    (h : (clientMachine ft).LastStep (AcceptsBall ft) (.new now) ops pre op) :
    (∃ w ∈ ((clientMachine ft).run (.new now) ops).written.drop
        ((clientMachine ft).run (.new now) pre).written.length, w.ok = true ∧ w.IsRequest) ↔
      op.write .requestClubMetrics = .ok () := by
  induction ops using List.reverseRecOn with
  | nil =>
    rcases h with ⟨post, heq, -⟩
    simp at heq
  | append_singleton ops op' ih =>
    rw [Machine.run_concat]
    show (∃ w ∈ (op'.exec ft _).1.written.drop _, _) ↔ _
    rcases exec_asks ft ((clientMachine ft).run (.new now) ops) op' with ⟨l, hl, hasked⟩
    rw [hl]
    rcases (clientMachine ft).lastStep_concat.1 h with ⟨hball, rfl, rfl⟩ | ⟨hno, hlast⟩
    · rw [List.drop_left, hasked, and_iff_right hball]
    · have hpre : ((clientMachine ft).run (.new now) pre).written.length ≤
          ((clientMachine ft).run (.new now) ops).written.length := by
        rcases hlast with ⟨post, rfl, -⟩
        rw [Machine.run_append]
        exact ((clientMachine ft).log_prefix_run Client.written (ClientOp.written_prefix ft) _
          (op :: post)).length_le
      -- what this step writes has no request that was taken
      have hnone : ¬∃ w ∈ l, w.ok = true ∧ w.IsRequest := fun hw => hno (hasked.1 hw).1
      rw [List.drop_append_of_le_length hpre, ← ih hlast]
      constructor
      · rintro ⟨w, hmem, hw⟩
        rcases List.mem_append.1 hmem with hmem | hmem
        · exact ⟨w, hmem, hw⟩
        · exact absurd ⟨w, hmem, hw⟩ hnone
      · rintro ⟨w, hmem, hw⟩
        exact ⟨w, List.mem_append_left _ hmem, hw⟩

/-! ## Which runs await only what was asked for -/

/-- After a ball a club packet is awaited. -/
theorem awaitingClub_of_acceptsBall {c : Client} {op : ClientOp} (hq : c.queue = [])
    (h : c.AcceptsBall ft op) : (op.exec ft c).1.awaitingClub = true := by
  rcases h with ⟨b, hb⟩
  rcases ClientOp.exec_tracker ft c op hq with ⟨hn, -⟩ | ⟨n, hn, ht, -⟩
  · rw [hb] at hn
    cases hn
  · rw [hb] at hn
    cases hn
    exact congrArg Tracker.awaiting ht

/-- Where every ball's request is taken, a held ball has had its club packet asked
for. -/
theorem askedForClub_of_meets {now : ℕ} {pre post : List ClientOp}
    (h : (clientMachine ft).Meets (RequestTaken ft) (.new now) (pre ++ post)) {b : BallMetrics}
    (hb : ((clientMachine ft).run (.new now) pre).pendingShot = some b) :
    AskedForClub ft now pre := by
  rcases lastStep_of_pending ft now pre hb with ⟨pre', op, hlast, haccepts⟩
  refine ⟨pre', op, b, hlast, haccepts, hb, (asked_iff_of_lastStep hlast).2 ?_⟩
  rcases hlast with ⟨post', rfl, hball, -⟩
  rw [Machine.meets_iff] at h
  exact h pre' op (post' ++ post) (by simp) hball

/-- A run awaits only club packets it has asked for exactly when the transport
takes the request of every ball the run accepts. -/
theorem awaitsOnlyAsked_iff (ft : Features) (now : ℕ) (ops : List ClientOp) :
    AwaitsOnlyAsked ft now ops ↔
      (clientMachine ft).Meets (RequestTaken ft) (.new now) ops := by
  constructor
  · intro h
    rw [Machine.meets_iff]
    rintro pre op post rfl hball
    -- right after the ball a packet is awaited, and the ball's request is the only one since
    have hawait : ((clientMachine ft).run (.new now) (pre ++ [op])).awaitingClub = true := by
      rw [Machine.run_concat]
      exact awaitingClub_of_acceptsBall (run_settled ft now pre).queue hball
    rcases h.awaited (pre ++ [op]) post (by simp) hawait with ⟨pre', op', b, hlast, -, -, hasked⟩
    rw [asked_iff_of_lastStep hlast] at hasked
    rcases (clientMachine ft).lastStep_concat.1 hlast with ⟨-, -, rfl⟩ | ⟨hno, -⟩
    · exact hasked
    · exact absurd hball hno
  · intro h
    constructor
    · rintro pre post rfl hawait
      -- awaiting means holding a ball
      have hpending : ((clientMachine ft).run (.new now) pre).pendingShot.isSome :=
        (run_settled ft now pre).paired.symm.trans hawait
      rcases Option.isSome_iff_exists.1 hpending with ⟨b, hb⟩
      exact askedForClub_of_meets h hb
    · rintro pre op post b m rfl hshot
      have hsettled := run_settled ft now pre
      rcases (event_eq_shot_iff hsettled.queue hsettled.paired).1 hshot with ⟨w, -, hb, -⟩
      exact askedForClub_of_meets h hb

/-- The transport refuses the request of the only ball, and the client awaits a
club packet all the same. -/
theorem awaitsOnlyAsked_fails :
    ¬∀ (ft : Features) (now : ℕ) (ops : List ClientOp), AwaitsOnlyAsked ft now ops := by
  intro h
  let refused : PollEnv :=
    { PollEnv.reading 0 sampleBall with
      write := fun cmd => if cmd = .requestClubMetrics then .error .other else .ok () }
  have hmeets := (awaitsOnlyAsked_iff ⟨false⟩ 0 [.poll (.empty 0), .poll refused]).1 (h _ _ _)
  have htaken := hmeets.2.1 ⟨ballOf sampleBall.bytes (by decide), rfl⟩
  cases htaken

end Client

end AllSquare
