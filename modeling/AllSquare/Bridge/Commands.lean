import AllSquare.Bridge.Program
import AllSquare.Client.Stream

/-! # What the program tells the device

Of the client's operations the program uses four, and it arms the device once
(`exists_program_run`). So of the commands there are only those of an armed session ever
reach the device, and detection is turned on once at most, right after a club has been
selected, and never off (`program_commands`).
-/

namespace AllSquare

/-! ## The program's commands and operations -/

/-- The commands of an armed session. -/
def Command.OfSession : Command → Prop
  | .query | .heartbeat | .requestClubMetrics | .selectClub _ _ => True
  | .detectBall on spin => on = true ∧ spin = .advanced
  | _ => False

/-- A detection command. -/
def Command.detects : Command → Bool
  | .detectBall _ _ => true
  | _ => false

/-- The operations the program uses. -/
def ClientOp.OfProgram : ClientOp → Prop
  | .poll _ | .selectClub _ _ | .setHanded _ => True
  | .arm _ _ spin => spin = .advanced
  | _ => False

def ClientOp.isArm : ClientOp → Bool
  | .arm _ _ _ => true
  | _ => false

namespace ClientOp

open Client

variable {ft : Features}

/-- Every detection command comes right after a club selection that was taken. -/
def SelectedFirst (cs : List (Command × Bool)) : Prop :=
  ∀ pre p post, cs = pre ++ p :: post → p.1.detects = true →
    ∃ pre' club handed, pre = pre' ++ [(.selectClub club handed, true)]

theorem selectedFirst_of_none {cs : List (Command × Bool)} (h : ∀ p ∈ cs, p.1.detects = false) :
    SelectedFirst cs := by
  rintro pre p post rfl hp
  have hno := h p (by simp)
  rw [hno] at hp
  cases hp

theorem SelectedFirst.append {cs ds : List (Command × Bool)} (hcs : SelectedFirst cs)
    (hds : SelectedFirst ds) : SelectedFirst (cs ++ ds) := by
  intro pre p post heq hp
  rcases List.append_eq_append_iff.1 heq with ⟨as, rfl, hsplit⟩ | ⟨bs, hsplit, hpost⟩
  · -- the detection command is among the second ones, and so is its selection
    rcases hds as p post hsplit hp with ⟨pre', club, handed, rfl⟩
    exact ⟨cs ++ pre', club, handed, (List.append_assoc _ _ _).symm⟩
  · cases bs with
    | nil =>
      rw [List.append_nil] at hsplit
      rcases hds [] p post hpost.symm hp with ⟨pre', club, handed, hnil⟩
      cases pre' <;> cases hnil
    | cons q bs =>
      rcases List.cons.inj hpost with ⟨rfl, -⟩
      exact hcs pre p bs hsplit hp

/-- What a poll issues belongs to a session and detects nothing. -/
theorem pollIssued_ofSession (c : Client) (env : PollEnv) :
    ∀ p ∈ c.pollIssued ft env, p.1.OfSession ∧ p.1.detects = false := by
  rintro ⟨cmd, ok⟩ hmem
  rcases List.mem_append.1 hmem with hmem | hmem
  · have hupkeep := (c.upkeepOf_sublist env).subset (mem_of_mem_attempts hmem)
    simp only [upkeep, List.mem_cons, List.not_mem_nil, or_false] at hupkeep
    rcases hupkeep with rfl | rfl <;> exact ⟨trivial, rfl⟩
  · have hasks := mem_of_mem_attempts hmem
    unfold pollAsks at hasks
    cases hn : c.accepts ft env with
    | none => simp [hn] at hasks
    | some n =>
      rw [hn] at hasks
      cases n <;> simp [asks] at hasks
      rw [hasks]
      exact ⟨trivial, rfl⟩

/-- What detects nothing belongs to no arming. -/
theorem detects_nothing {cs : List (Command × Bool)}
    (h : ∀ p ∈ cs, p.1.OfSession ∧ p.1.detects = false) :
    (∀ p ∈ cs, p.1.OfSession) ∧ cs.countP (fun p => p.1.detects) = 0 ∧ SelectedFirst cs := by
  refine ⟨fun p hp => (h p hp).1, ?_, selectedFirst_of_none fun p hp => (h p hp).2⟩
  refine List.countP_eq_zero.2 fun p hp => ?_
  simp [(h p hp).2]

/-- An arming whose selection was taken. -/
theorem selectedFirst_armed (club : Club) (handed : Handed) (spin : SpinMode) (ok : Bool) :
    SelectedFirst [(.selectClub club handed, true), (.detectBall true spin, ok)] := by
  intro pre p post heq hp
  cases pre with
  | nil =>
    obtain rfl := (List.cons.inj heq).1
    cases hp
  | cons q pre =>
    rcases List.cons.inj heq with ⟨rfl, hrest⟩
    cases pre with
    | nil => exact ⟨[], club, handed, rfl⟩
    | cons q' pre =>
      have hnil := (List.cons.inj hrest).2
      cases pre <;> cases hnil

/-- What an operation of the program issues belongs to a session; only arming detects,
once at most and right after it has selected its club. -/
theorem issued_ofProgram (c : Client) {op : ClientOp} (h : op.OfProgram) :
    (∀ p ∈ op.issued ft c, p.1.OfSession) ∧
      (op.issued ft c).countP (fun p => p.1.detects) ≤ op.isArm.toNat ∧
      SelectedFirst (op.issued ft c) := by
  cases op with
  | poll env =>
    have hnothing := detects_nothing (@pollIssued_ofSession ft c env)
    exact ⟨hnothing.1, hnothing.2.1.le, hnothing.2.2⟩
  | selectClub write club =>
    have hnothing : ∀ p ∈ (ClientOp.selectClub write club).issued ft c,
        p.1.OfSession ∧ p.1.detects = false := by
      rintro ⟨cmd, ok⟩ hmem
      obtain rfl : cmd = .selectClub club c.handed :=
        List.mem_singleton.1 (mem_of_mem_attempts hmem)
      exact ⟨trivial, rfl⟩
    exact ⟨(detects_nothing hnothing).1, (detects_nothing hnothing).2.1.le,
      (detects_nothing hnothing).2.2⟩
  | setHanded handed => exact ⟨by simp [issued, issuable, attempts], le_rfl,
      selectedFirst_of_none (by simp [issued, issuable, attempts])⟩
  | arm write club spin =>
    obtain rfl : spin = .advanced := h
    show (∀ p ∈ attempts write [.selectClub club c.handed, .detectBall true .advanced],
        p.1.OfSession) ∧
      (attempts write [.selectClub club c.handed, .detectBall true .advanced]).countP
        (fun p => p.1.detects) ≤ 1 ∧
      SelectedFirst (attempts write [.selectClub club c.handed, .detectBall true .advanced])
    cases hs : write (.selectClub club c.handed) with
    | error e =>
      rw [attempts_error hs]
      have hnothing := @detects_nothing [(.selectClub club c.handed, false)]
        (by simp [Command.OfSession, Command.detects])
      exact ⟨hnothing.1, hnothing.2.1.le.trans (Nat.zero_le 1), hnothing.2.2⟩
    | ok _ =>
      have hdetect : ∃ ok, attempts write [.detectBall true .advanced] =
          [(.detectBall true .advanced, ok)] := by
        cases hd : write (.detectBall true .advanced) with
        | error e => exact ⟨false, attempts_error hd []⟩
        | ok _ => exact ⟨true, attempts_ok hd []⟩
      rcases hdetect with ⟨ok, hdetect⟩
      rw [attempts_ok hs, hdetect]
      exact ⟨by simp [Command.OfSession], le_rfl, selectedFirst_armed club c.handed _ ok⟩
  | disarm | setUnits | setGreenSpeed | setCarryAdjustment | setImpactCalibration => exact h.elim

end ClientOp

/-! ## Along a run -/

open ClientOp

/-- What a run of the program's operations issues. -/
theorem run_issued_ofProgram (ft : Features) (c : Client) {ops : List ClientOp}
    (h : ∀ op ∈ ops, op.OfProgram) :
    (∀ p ∈ Client.issued ft c ops, p.1.OfSession) ∧
      (Client.issued ft c ops).countP (fun p => p.1.detects) ≤ ops.countP ClientOp.isArm ∧
      SelectedFirst (Client.issued ft c ops) := by
  induction ops generalizing c with
  | nil => exact ⟨by simp [Client.issued], le_rfl, selectedFirst_of_none (by simp [Client.issued])⟩
  | cons op ops ih =>
    have hcons : Client.issued ft c (op :: ops) =
        op.issued ft c ++ Client.issued ft (op.exec ft c).1 ops := rfl
    rcases @issued_ofProgram ft c op (h op (List.mem_cons_self ..)) with
      ⟨hsession, hcount, hselected⟩
    rcases ih (op.exec ft c).1 (fun op' h' => h op' (List.mem_cons_of_mem _ h')) with
      ⟨hsession', hcount', hselected'⟩
    rw [hcons, List.countP_append, List.countP_cons]
    refine ⟨?_, ?_, hselected.append hselected'⟩
    · intro p hp
      rcases List.mem_append.1 hp with hp | hp
      · exact hsession p hp
      · exact hsession' p hp
    · have hone : op.isArm.toNat = if op.isArm = true then 1 else 0 := by
        cases op.isArm <;> rfl
      omega

namespace Bridge

variable {ft : Features}

/-- The client comes from `c` to `c'` by operations of the program, `n` armings among
them at most. -/
def Drives (ft : Features) (n : ℕ) (c c' : Client) : Prop :=
  ∃ ops : List ClientOp, (∀ op ∈ ops, op.OfProgram) ∧ ops.countP ClientOp.isArm ≤ n ∧
    (clientMachine ft).run c ops = c'

theorem Drives.refl (n : ℕ) (c : Client) : Drives ft n c c := ⟨[], by simp, Nat.zero_le n, rfl⟩

theorem Drives.trans {m n : ℕ} {c c' c'' : Client} (h : Drives ft m c c')
    (h' : Drives ft n c' c'') : Drives ft (m + n) c c'' := by
  rcases h with ⟨ops, hops, hcount, rfl⟩
  rcases h' with ⟨ops', hops', hcount', rfl⟩
  refine ⟨ops ++ ops', ?_, ?_, (clientMachine ft).run_append c ops ops'⟩
  · intro op hop
    rcases List.mem_append.1 hop with hop | hop
    · exact hops op hop
    · exact hops' op hop
  · rw [List.countP_append]
    omega

theorem drives_exec (c : Client) {op : ClientOp} (hop : op.OfProgram) :
    Drives ft op.isArm.toNat c (op.exec ft c).1 := by
  refine ⟨[op], ?_, ?_, rfl⟩
  · intro op' hmem
    rwa [List.mem_singleton.1 hmem]
  · cases h : op.isArm <;> simp [h]

/-- Handling an event arms the device when it is the connected one. -/
theorem handle_drives (ft : Features) (b : Bridge) (env : TurnEnv) (ev : Event) :
    Drives ft 1 b.client (b.handle ft env ev).client := by
  cases ev with
  | connected fw hw id model =>
    have harm := @drives_exec ft b.client (.arm env.write b.club .advanced) rfl
    have hconnected : Drives ft 1 b.client (b.connected ft env fw model).client := by
      unfold connected
      generalize ClientOp.exec ft b.client (.arm env.write b.club .advanced) = out at harm ⊢
      rcases out with ⟨c, r⟩
      cases r <;> exact harm
    simp only [handle]
    split <;> exact hconnected
  | stateChanged _ | sensor _ | shot _ _ | battery _ _ | clock _ | alignment _ =>
    exact Drives.refl 1 _

theorem handle_drives_of_not_connected (ft : Features) (b : Bridge) (env : TurnEnv) {ev : Event}
    (hev : ¬Client.IsConnected (some ev)) : Drives ft 0 b.client (b.handle ft env ev).client := by
  cases ev with
  | connected fw hw id model => exact absurd trivial hev
  | stateChanged _ | sensor _ | shot _ _ | battery _ _ | clock _ | alignment _ =>
    exact Drives.refl 0 _

theorem applyControllerCommand_drives (ft : Features) (b : Bridge) (env : TurnEnv)
    (cmd : ControllerCommand) :
    Drives ft 0 b.client (b.applyControllerCommand ft env cmd).client := by
  have htold (c : Client) (hc : Drives ft 0 b.client c) (club : Club) :
      Drives ft 0 b.client (ClientOp.exec ft c (.selectClub env.write club)).1 :=
    hc.trans (@drives_exec ft c (.selectClub env.write club) trivial)
  unfold applyControllerCommand
  cases cmd.handed with
  | none =>
    dsimp only
    split
    · exact htold b.client (Drives.refl 0 _) _
    · exact Drives.refl 0 _
  | some handed =>
    have hhand : Drives ft 0 b.client (b.client.setHanded (handedFromFrp handed)) :=
      @drives_exec ft b.client (.setHanded (handedFromFrp handed)) trivial
    dsimp only
    split
    · exact htold _ hhand _
    · exact hhand

theorem attend_drives (ft : Features) (b : Bridge) (env : TurnEnv) :
    Drives ft 0 b.client (b.attend ft env).client := by
  unfold attend
  dsimp only
  split
  · rename_i frp cmd _
    exact applyControllerCommand_drives ft { b with frp := frp } env cmd
  · exact Drives.refl 0 _

/-- A turn polls the client and arms it only when it hears that it has connected. -/
theorem iterate_drives (ft : Features) {b : Bridge} (hrun : b.running = true) (env : TurnEnv) :
    Drives ft 1 ((Client.poll ft env.poll).exec b.client).1 (b.iterate ft env).client ∧
      (¬Client.IsConnected (Reply.event ((Client.poll ft env.poll).exec b.client).2) →
        Drives ft 0 ((Client.poll ft env.poll).exec b.client).1 (b.iterate ft env).client) := by
  unfold iterate
  rw [if_pos hrun]
  generalize (Client.poll ft env.poll).exec b.client = out
  rcases out with ⟨c, r⟩
  cases r with
  | error e => exact ⟨Drives.refl 1 c, fun _ => Drives.refl 0 c⟩
  | ok ev =>
    cases ev with
    | none =>
      have hattend := attend_drives ft { b with client := c } env
      exact ⟨hattend.trans (Drives.refl 1 _), fun _ => hattend⟩
    | some ev =>
      refine ⟨handle_drives ft { b with client := c } env ev, ?_⟩
      intro hev
      exact handle_drives_of_not_connected ft { b with client := c } env hev

/-- The client of the program is reached by operations of the program; it is armed only
when the device has been identified, and once at most. -/
theorem exists_program_run (ft : Features) (now : ℕ) (env : FrpEnv) (name : Text)
    (arg : Option Text) (turns : List TurnEnv) :
    Drives ft 1 (.new now) ((machine ft).run (start now env name arg) turns).client := by
  have hinv : ∃ n ≤ 1, Drives ft n (.new now)
      ((machine ft).run (start now env name arg) turns).client ∧
      ((machine ft).run (start now env name arg) turns).client.queue = [] ∧
      (((machine ft).run (start now env name arg) turns).client.phase = .connecting → n = 0) := by
    refine (machine ft).run_invariant (fun b => ∃ n ≤ 1, Drives ft n (.new now) b.client ∧
      b.client.queue = [] ∧ (b.client.phase = .connecting → n = 0)) ?_ turns
      ⟨0, Nat.zero_le 1, Drives.refl 0 _, rfl, fun _ => rfl⟩
    rintro b turn ⟨n, hn, hdrives, hq, hzero⟩
    show ∃ n ≤ 1, Drives ft n (.new now) (b.iterate ft turn).client ∧
      (b.iterate ft turn).client.queue = [] ∧
      ((b.iterate ft turn).client.phase = .connecting → n = 0)
    by_cases hrun : b.running = true
    · have hpoll := hdrives.trans (@drives_exec ft b.client (.poll turn.poll) trivial)
      have hstays := iterate_stays ft hrun turn
      rcases iterate_drives ft hrun turn with ⟨hone, hnone⟩
      have hqueue := queue_iterate ft hq turn
      cases hp : b.client.phase with
      | connecting =>
        obtain rfl := hzero hp
        rcases @ClientOp.exec_connecting ft b.client hq hp (.poll turn.poll) with
          ⟨hevent, -⟩ | ⟨-, hactive⟩
        · have hevent : Reply.event ((Client.poll ft turn.poll).exec b.client).2 = none := hevent
          refine ⟨0, Nat.zero_le 1, hpoll.trans (hnone ?_), hqueue, fun _ => rfl⟩
          rw [hevent]
          exact id
        · refine ⟨1, le_rfl, hpoll.trans hone, hqueue, ?_⟩
          intro hconnecting
          rw [hstays.phase.trans hactive] at hconnecting
          cases hconnecting
      | active =>
        have hactive := @ClientOp.exec_active ft b.client ⟨hq, hp⟩ (.poll turn.poll)
        refine ⟨n, hn, hpoll.trans (hnone hactive.1), hqueue, ?_⟩
        intro hconnecting
        rw [hstays.phase.trans hactive.2.2] at hconnecting
        cases hconnecting
    · have hstop : b.iterate ft turn = b := if_neg hrun
      rw [hstop]
      exact ⟨n, hn, hdrives, hq, hzero⟩
  rcases hinv with ⟨n, hn, ⟨ops, hops, hcount, hrun⟩, -⟩
  exact ⟨ops, hops, hcount.trans hn, hrun⟩

/-- In every run of the program, whatever fails and whatever controllers ask for: the
frames handed to the device are queries, heartbeats, metrics requests, club selections and
at most one detection command, which turns detection on with advanced spin and comes right
after a club selection that the device's transport has taken. -/
theorem program_commands (ft : Features) (now : ℕ) (env : FrpEnv) (name : Text)
    (arg : Option Text) (turns : List TurnEnv) :
    ∃ cs, ((machine ft).run (start now env name arg) turns).client.written = numbered 0 cs ∧
      (∀ p ∈ cs, p.1.OfSession) ∧ cs.countP (fun p => p.1.detects) ≤ 1 ∧ SelectedFirst cs := by
  rcases exists_program_run ft now env name arg turns with ⟨ops, hops, hcount, hrun⟩
  rcases run_issued_ofProgram ft (.new now) hops with ⟨hsession, hdetects, hselected⟩
  refine ⟨_, ?_, hsession, hdetects.trans hcount, hselected⟩
  rw [← hrun]
  exact Client.run_written ft now ops

end Bridge

end AllSquare
