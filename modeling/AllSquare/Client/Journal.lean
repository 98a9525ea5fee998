import AllSquare.Client.Tracker

/-! # What an operation writes

An operation hands its commands to the transport one after another, numbering
each, and stops at the first that is refused. `attempts` is the list of those
handed over with the transport's answers, `Issues` says that a client has been
reached by handing them over. `poll_issues` says what a poll issues, and
`ClientOp.exec_issues` what any operation may.
-/

namespace AllSquare

/-! ## Commands handed over -/

/-- The commands of a list that are handed over: those up to the first that the
transport refuses, which is the last. -/
def attempts (write : Command → IoResult Unit) : List Command → List (Command × Bool)
  | [] => []
  | cmd :: rest =>
    match write cmd with
    | .ok () => (cmd, true) :: attempts write rest
    | .error _ => [(cmd, false)]

theorem attempts_ok {write : Command → IoResult Unit} {cmd : Command} (h : write cmd = .ok ())
    (rest : List Command) : attempts write (cmd :: rest) = (cmd, true) :: attempts write rest := by
  simp [attempts, h]

theorem attempts_error {write : Command → IoResult Unit} {cmd : Command} {e : IoError}
    (h : write cmd = .error e) (rest : List Command) :
    attempts write (cmd :: rest) = [(cmd, false)] := by
  simp [attempts, h]

theorem mem_of_mem_attempts {write : Command → IoResult Unit} {cmds : List Command}
    {cmd : Command} {ok : Bool} (h : (cmd, ok) ∈ attempts write cmds) : cmd ∈ cmds := by
  induction cmds with
  | nil => cases h
  | cons cmd' rest ih =>
    cases hw : write cmd' with
    | ok _ =>
      rw [attempts_ok hw] at h
      rcases List.mem_cons.1 h with heq | h
      · exact List.mem_cons.2 (.inl (congrArg Prod.fst heq))
      · exact List.mem_cons_of_mem _ (ih h)
    | error e =>
      rw [attempts_error hw, List.mem_singleton] at h
      exact List.mem_cons.2 (.inl (congrArg Prod.fst h))

/-- A command that has been taken was answered so. -/
theorem ok_of_mem_attempts {write : Command → IoResult Unit} {cmds : List Command}
    {cmd : Command} (h : (cmd, true) ∈ attempts write cmds) : write cmd = .ok () := by
  induction cmds with
  | nil => cases h
  | cons cmd' rest ih =>
    cases hw : write cmd' with
    | ok _ =>
      rw [attempts_ok hw] at h
      rcases List.mem_cons.1 h with heq | h
      · obtain rfl : cmd = cmd' := congrArg Prod.fst heq
        exact hw
      · exact ih h
    | error e =>
      rw [attempts_error hw, List.mem_singleton] at h
      cases congrArg Prod.snd h

/-- The frames of commands numbered after `seq`. -/
def numbered : UInt8 → List (Command × Bool) → List Write
  | _, [] => []
  | seq, (cmd, ok) :: rest => ⟨cmd.encode (seq + 1), ok⟩ :: numbered (seq + 1) rest

theorem add_one_add_ofNat (seq : UInt8) (n : ℕ) :
    seq + 1 + UInt8.ofNat n = seq + UInt8.ofNat (n + 1) := by
  rw [UInt8.ofNat_add, UInt8.add_assoc, UInt8.add_comm 1]
  rfl

theorem numbered_append (seq : UInt8) (cs ds : List (Command × Bool)) :
    numbered seq (cs ++ ds) = numbered seq cs ++ numbered (seq + UInt8.ofNat cs.length) ds := by
  induction cs generalizing seq with
  | nil => simp [numbered]
  | cons p cs ih =>
    simp only [List.cons_append, numbered, ih, List.length_cons, add_one_add_ofNat]

theorem exists_of_mem_numbered {seq : UInt8} {cs : List (Command × Bool)} {w : Write}
    (h : w ∈ numbered seq cs) : ∃ cmd s, (cmd, w.ok) ∈ cs ∧ w.frame = cmd.encode s := by
  induction cs generalizing seq with
  | nil => cases h
  | cons p cs ih =>
    rcases List.mem_cons.1 h with rfl | h
    · exact ⟨p.1, seq + 1, List.mem_cons_self, rfl⟩
    · rcases ih h with ⟨cmd, s, hmem, hframe⟩
      exact ⟨cmd, s, List.mem_cons_of_mem _ hmem, hframe⟩

/-- A metrics request among the frames written. -/
def Write.IsRequest (w : Write) : Prop :=
  Command.typeByteOf w.frame = some Command.requestClubMetrics.typeByte

instance (w : Write) : Decidable w.IsRequest := inferInstanceAs (Decidable (_ = _))

/-- The command is recognized in the frame the client writes for it. -/
theorem isRequest_encode_iff {cmd : Command} {seq : UInt8} {ok : Bool} :
    Write.IsRequest ⟨cmd.encode seq, ok⟩ ↔ cmd = .requestClubMetrics := by
  unfold Write.IsRequest
  rw [Command.typeByteOf_encode, Option.some_inj, Command.typeByte_eq_request]

namespace Client

open Stateful

variable {ft : Features}

/-- `c'` is reached from `c` by handing over the commands `cs`. -/
structure Issues (c : Client) (cs : List (Command × Bool)) (c' : Client) : Prop where
  written : c'.written = c.written ++ numbered c.seq cs
  seq : c'.seq = c.seq + UInt8.ofNat cs.length

theorem issues_nil {c c' : Client} (hw : c'.written = c.written) (hs : c'.seq = c.seq) :
    c.Issues [] c' where
  written := by
    rw [hw]
    exact (List.append_nil _).symm
  seq := by
    rw [hs]
    exact (UInt8.add_zero _).symm

theorem issues_wrote (c : Client) (cmd : Command) (ok : Bool) :
    c.Issues [(cmd, ok)] (c.wrote cmd ok) :=
  ⟨rfl, rfl⟩

theorem Issues.trans {c c' c'' : Client} {cs ds : List (Command × Bool)} (h : c.Issues cs c')
    (h' : c'.Issues ds c'') : c.Issues (cs ++ ds) c'' where
  written := by
    rw [h'.written, h.written, h.seq, List.append_assoc, numbered_append]
  seq := by
    rw [h'.seq, h.seq, List.length_append, UInt8.ofNat_add, UInt8.add_assoc]

/-- Only the transport and the counter matter. -/
theorem Issues.congr {c c' c'' : Client} {cs : List (Command × Bool)} (h : c.Issues cs c')
    (hw : c''.written = c'.written) (hs : c''.seq = c'.seq) : c.Issues cs c'' :=
  ⟨hw.trans h.written, hs.trans h.seq⟩

/-! ## Polls -/

/-- What the client asks the device for on a notification. -/
def asks : Notification → List Command
  | .ball _ => [.requestClubMetrics]
  | _ => []

/-- What a poll asks for on the notification it accepts. -/
def pollAsks (ft : Features) (c : Client) (env : PollEnv) : List Command :=
  (c.accepts ft env).elim [] asks

/-- The commands a poll may issue by itself, in order. -/
def upkeep : List Command := [.query, .heartbeat]

/-- The commands of an identity step, which issues none before it has read them all. -/
def identityAsks (env : PollEnv) : List Command :=
  if ∀ u ∈ identityReads, (env.readCharacteristic u).isOk then upkeep else []

/-- What a poll issues by itself. -/
def upkeepOf (c : Client) (env : PollEnv) : List Command :=
  match c.queue with
  | _ :: _ => []
  | [] =>
    match c.phase with
    | .connecting => identityAsks env
    | .active => if c.HeartbeatDue env then [.heartbeat] else []

/-- The commands a poll hands over, with the transport's answers. -/
def pollIssued (ft : Features) (c : Client) (env : PollEnv) : List (Command × Bool) :=
  attempts env.write (c.upkeepOf env) ++ attempts env.write (c.pollAsks ft env)

theorem upkeepOf_active {c : Client} (hr : c.Reads) (env : PollEnv) :
    c.upkeepOf env = if c.HeartbeatDue env then [.heartbeat] else [] := by
  unfold upkeepOf
  rw [hr.1, hr.2]

theorem upkeepOf_sublist (c : Client) (env : PollEnv) : (c.upkeepOf env).Sublist upkeep := by
  unfold upkeepOf identityAsks
  split
  · exact List.nil_sublist _
  · split
    · split
      · exact List.Sublist.refl _
      · exact List.nil_sublist _
    · split
      · decide
      · exact List.nil_sublist _

theorem beaten_issues {c : Client} {env : PollEnv} (hr : c.Reads) (hb : c.Beats env) :
    c.Issues (attempts env.write (c.upkeepOf env)) (c.beaten env) := by
  rw [upkeepOf_active hr]
  unfold beaten
  by_cases hd : c.HeartbeatDue env
  · rw [if_pos hd, if_pos hd, attempts_ok (hb hd)]
    exact (issues_wrote c .heartbeat true).congr rfl rfl
  · rw [if_neg hd, if_neg hd]
    exact issues_nil rfl rfl

theorem HandleStep.issues {write : Command → IoResult Unit} {c c' : Client} {n : Notification}
    {r : Reply} (h : HandleStep ft write c n c' r) : c.Issues (attempts write (asks n)) c' := by
  cases h with
  | ball b hw =>
    unfold asks
    rw [attempts_ok hw]
    exact ⟨rfl, rfl⟩
  | ballFailed b e hw =>
    unfold asks
    rw [attempts_error hw]
    exact ⟨rfl, rfl⟩
  | staleClub | strayClub | shot | sameState | newState | query => exact issues_nil rfl rfl
  | passed _ ev hn =>
    cases n with
    | ball b => cases hn
    | sensor | heartbeatAck | alignment | queryResponse | club | battery | clock =>
      exact issues_nil rfl rfl

/-- An identity step issues its commands once it has read the characteristics. -/
theorem readIdentity_issues (env : PollEnv) (c : Client) :
    c.Issues (attempts env.write (identityAsks env)) ((readIdentity env).exec c).1 := by
  unfold identityAsks
  rcases readIdentity_reads env c with ⟨u, hmem, e, hu, hexec⟩ | ⟨hreads, fw, hw, id, hexec⟩
  · have hfails : ¬∀ u ∈ identityReads, (env.readCharacteristic u).isOk = true := by
      intro hall
      have hok := hall u hmem
      rw [hu] at hok
      cases hok
    rw [hexec, if_neg hfails]
    exact issues_nil rfl rfl
  · rw [hexec, if_pos hreads]
    unfold upkeep
    cases hq : env.write .query with
    | error e =>
      rw [attempts_error hq]
      exact issues_wrote c .query false
    | ok _ =>
      rw [attempts_ok hq]
      cases hb : env.write .heartbeat with
      | error e =>
        rw [attempts_error hb]
        exact (issues_wrote c .query true).trans ⟨rfl, rfl⟩
      | ok _ =>
        rw [attempts_ok hb]
        exact (issues_wrote c .query true).trans ⟨rfl, rfl⟩

/-- The poll of an active client issues its heartbeat, and then what it asks for. -/
theorem PollStep.issues {c c' : Client} {env : PollEnv} {r : Reply}
    (h : PollStep ft c env c' r) (hr : c.Reads) : c.Issues (c.pollIssued ft env) c' := by
  unfold pollIssued pollAsks
  rcases h.accepts_or with hnone | ⟨p, n, hsome, hb, hstep⟩
  · rw [hnone, Option.elim_none, attempts, List.append_nil]
    -- a poll that reads has written its heartbeat, if any, before
    cases h with
    | queued _ _ hq => rw [hr.1] at hq; cases hq
    | identified _ _ _ _ _ hp => rw [hr.2] at hp; cases hp
    | unidentified _ _ _ hp => rw [hr.2] at hp; cases hp
    | beatFailed e _ hd hw =>
      rw [upkeepOf_active hr, if_pos hd, attempts_error hw]
      exact issues_wrote c .heartbeat false
    | readFailed _ _ hb | closed _ _ hb | silent _ hb | idle _ hb => exact beaten_issues hr hb
    | duplicate _ _ hb | malformed _ _ _ hb => exact (beaten_issues hr hb).congr rfl rfl
    | accepted p n _ _ _ hb hread hnew hparse =>
      rw [accepts_eq_some hr hb hread hnew hparse] at hnone
      cases hnone
  · rw [hsome, Option.elim_some]
    exact (beaten_issues hr hb).trans ⟨hstep.issues.written, hstep.issues.seq⟩

/-- A poll that does not read asks for nothing. -/
theorem pollAsks_of_not_reads {c : Client} (hr : ¬c.Reads) (env : PollEnv) :
    c.pollAsks ft env = [] := by
  unfold pollAsks
  rw [accepts_eq_none (if_neg fun h => hr h.1)]
  rfl

/-- A poll issues its upkeep, and then what it asks for. -/
theorem poll_issues (ft : Features) (env : PollEnv) (c : Client) :
    c.Issues (c.pollIssued ft env) ((poll ft env).exec c).1 := by
  by_cases hr : c.Reads
  · exact (poll_step ft env c).issues hr
  · unfold pollIssued
    rw [pollAsks_of_not_reads hr, attempts, List.append_nil]
    unfold poll upkeepOf
    simp only [exec_bind, exec_get]
    cases hq : c.queue with
    | cons ev rest => exact issues_nil rfl rfl
    | nil =>
      cases hp : c.phase with
      | active => exact absurd ⟨hq, hp⟩ hr
      | connecting =>
        have hissues := readIdentity_issues env c
        simp only [exec_bind, exec_modify, exec_pure]
        generalize (readIdentity env).exec c = out at hissues ⊢
        rcases out with ⟨c', r⟩
        cases r with
        | ok ev => exact hissues.congr rfl rfl
        | error e => exact hissues

end Client

/-! ## Operations -/

namespace ClientOp

open Client

variable {ft : Features}

/-- The commands an operation may issue, in order. -/
def issuable (ft : Features) (c : Client) : ClientOp → List Command
  | .poll env => upkeep ++ c.pollAsks ft env
  | .arm _ club spin => [.selectClub club c.handed, .detectBall true spin]
  | .disarm _ => [.detectBall false .advanced]
  | .selectClub _ club => [.selectClub club c.handed]
  | .setUnits _ speed distance => [.setUnits speed distance]
  | .setGreenSpeed _ v => [.setGreenSpeed (min v 5)]
  | .setCarryAdjustment _ v => [.setCarryAdjustment v]
  | .setHanded _ | .setImpactCalibration _ => []

/-- An operation that sends one command may issue just that. -/
theorem issuable_of_command {c : Client} {op : ClientOp} {cmd : Command}
    (h : op.command = some cmd) : op.issuable ft c = [cmd] := by
  cases op with
  | poll | arm | selectClub | setHanded | setImpactCalibration => cases h
  | disarm | setUnits | setGreenSpeed | setCarryAdjustment =>
    cases h
    rfl

theorem CallStep.issues {c c' : Client} {op : ClientOp} {r : Reply} (h : CallStep c op c' r) :
    c.Issues (attempts op.write (op.issuable ft c)) c' := by
  cases h with
  | sent _ cmd hcmd hw =>
    rw [issuable_of_command hcmd, attempts_ok hw]
    exact issues_wrote c cmd true
  | refused _ cmd e hcmd hw =>
    rw [issuable_of_command hcmd, attempts_error hw]
    exact issues_wrote c cmd false
  | selected write club hw =>
    unfold issuable ClientOp.write
    rw [attempts_ok hw]
    exact ⟨rfl, rfl⟩
  | unselected write club e hw =>
    unfold issuable ClientOp.write
    rw [attempts_error hw]
    exact ⟨rfl, rfl⟩
  | armed write club spin hw hd =>
    unfold issuable ClientOp.write
    rw [attempts_ok hw, attempts_ok hd]
    exact (issues_wrote c _ true).trans ⟨rfl, rfl⟩
  | undetected write club spin e hw hd =>
    unfold issuable ClientOp.write
    rw [attempts_ok hw, attempts_error hd]
    exact (issues_wrote c _ true).trans ⟨rfl, rfl⟩
  | unarmed write club spin e hw =>
    unfold issuable ClientOp.write
    rw [attempts_error hw]
    exact ⟨rfl, rfl⟩
  | handed | calibrated => exact issues_nil rfl rfl

/-- An operation other than a poll issues all it may, up to a refusal. -/
theorem exec_issues_of_not_poll (ft : Features) (c : Client) (op : ClientOp)
    (hop : ∀ env, op ≠ .poll env) :
    c.Issues (attempts op.write (op.issuable ft c)) (op.exec ft c).1 :=
  (call_step ft c op hop).issues

/-- Every operation issues only commands it may. -/
theorem exec_issues (ft : Features) (c : Client) (op : ClientOp) :
    ∃ cs, (∀ cmd ok, (cmd, ok) ∈ cs → cmd ∈ op.issuable ft c) ∧ c.Issues cs (op.exec ft c).1 := by
  rcases op.other_or_poll with hop | ⟨env, rfl⟩
  · refine ⟨_, ?_, exec_issues_of_not_poll ft c op hop⟩
    intro cmd ok hmem
    exact mem_of_mem_attempts hmem
  · refine ⟨_, ?_, poll_issues ft env c⟩
    intro cmd ok hmem
    rcases List.mem_append.1 hmem with hmem | hmem
    · exact List.mem_append_left _ ((c.upkeepOf_sublist env).subset (mem_of_mem_attempts hmem))
    · exact List.mem_append_right _ (mem_of_mem_attempts hmem)

theorem written_prefix (ft : Features) (c : Client) (op : ClientOp) :
    c.written <+: (op.exec ft c).1.written := by
  rcases exec_issues ft c op with ⟨cs, -, hissues⟩
  rw [hissues.written]
  exact List.prefix_append _ _

/-- A frame an operation writes is of a command the operation may issue. -/
theorem exists_issuable_of_written {ft : Features} {c : Client} {op : ClientOp} {l : List Write}
    (h : (op.exec ft c).1.written = c.written ++ l) {w : Write} (hw : w ∈ l) :
    ∃ cmd ∈ op.issuable ft c, ∃ seq, w.frame = cmd.encode seq := by
  rcases exec_issues ft c op with ⟨cs, hcs, hissues⟩
  rw [hissues.written, List.append_cancel_left_eq] at h
  rw [← h] at hw
  rcases exists_of_mem_numbered hw with ⟨cmd, seq, hmem, hframe⟩
  exact ⟨cmd, hcs cmd w.ok hmem, seq, hframe⟩

end ClientOp

end AllSquare
