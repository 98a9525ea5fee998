import AllSquare.Client.Journal

/-! # The active club is the selected club

The client remembers the club it last armed or selected; the device plays the
club of the last selection it got. `activeClub_eq_selected` says that the two
agree in every state of every run, whatever the transport refuses: the client
remembers a club exactly when its selection has been taken. It also says whose
hand a selection names, the one set when it is written.
-/

namespace AllSquare

namespace Command

/-- Only a club selection carries the selection's type byte. -/
theorem typeByte_eq_select {cmd : Command} :
    cmd.typeByte = 0x82 ↔ ∃ club handed, cmd = .selectClub club handed := by
  cases cmd <;> simp [typeByte]

end Command

/-! ## Selections among the frames written -/

namespace Write

/-- A club selection, taken by the transport or not. -/
def IsSelection (w : Write) : Prop := Command.typeByteOf w.frame = some 0x82

instance (w : Write) : Decidable w.IsSelection := inferInstanceAs (Decidable (_ = _))

/-- A club selection the transport took. -/
def Selects (w : Write) : Prop := w.ok = true ∧ w.IsSelection

instance (w : Write) : Decidable w.Selects := inferInstanceAs (Decidable (_ ∧ _))

/-- The club that bytes 3 and 4 name. -/
def club (w : Write) : Option Club := do
  let number ← w.frame[3]?
  let category ← w.frame[4]?
  Club.fromCode number category

/-- The selection's type byte is recognized in the frame of the command. -/
theorem isSelection_iff {w : Write} {cmd : Command} {seq : UInt8} (h : w.frame = cmd.encode seq) :
    w.IsSelection ↔ ∃ club handed, cmd = .selectClub club handed := by
  unfold IsSelection
  rw [h, Command.typeByteOf_encode, Option.some_inj, Command.typeByte_eq_select]

/-- The club code survives its way through a frame. -/
theorem club_selectClub (c : Club) (handed : Handed) (seq : UInt8) (ok : Bool) :
    club ⟨(Command.selectClub c handed).encode seq, ok⟩ = some c :=
  Club.fromCode_code c

end Write

/-- Without a selection that is taken no frame selects a club. -/
theorem filter_numbered_eq_nil {cs : List (Command × Bool)}
    (h : ∀ club handed, (Command.selectClub club handed, true) ∉ cs) (seq : UInt8) :
    (numbered seq cs).filter Write.Selects = [] := by
  rw [List.filter_eq_nil_iff]
  intro w hw hselects
  rcases exists_of_mem_numbered hw with ⟨cmd, s, hmem, hframe⟩
  rcases of_decide_eq_true hselects with ⟨hok, hselection⟩
  rcases (Write.isSelection_iff hframe).1 hselection with ⟨club, handed, rfl⟩
  rw [hok] at hmem
  exact h club handed hmem

namespace Client

/-- The last selection the transport took. -/
def selection (c : Client) : Option Write := (c.written.filter Write.Selects).getLast?

/-- The active club is the one the last selection names, and there is none
before the first. -/
def SelectionAgrees (c : Client) : Prop :=
  match c.selection with
  | none => c.activeClub = none
  | some w => ∃ club, w.club = some club ∧ c.activeClub = some club

theorem selection_eq_or {c c' : Client} {l : List Write} (h : c'.written = c.written ++ l) :
    c'.selection = (l.filter Write.Selects).getLast?.or c.selection := by
  unfold selection
  rw [h, List.filter_append, List.getLast?_append]

/-- Without a selection that is taken the agreement stays as it was. -/
theorem SelectionAgrees.of_issues {c c' : Client} (h : c.SelectionAgrees)
    {cs : List (Command × Bool)} (hcs : c.Issues cs c')
    (hnot : ∀ club handed, (Command.selectClub club handed, true) ∉ cs)
    (hactive : c'.activeClub = c.activeClub) : c'.SelectionAgrees := by
  unfold SelectionAgrees
  rw [selection_eq_or hcs.written, filter_numbered_eq_nil hnot, hactive]
  exact h

/-- A selection that is taken, whatever else follows it, brings the active club
with it. -/
theorem selectionAgrees_of_selected {c c' : Client} {club : Club} {handed : Handed}
    {cs : List (Command × Bool)} (hcs : c.Issues ((.selectClub club handed, true) :: cs) c')
    (hnot : ∀ club handed, (Command.selectClub club handed, true) ∉ cs)
    (hactive : c'.activeClub = some club) : c'.SelectionAgrees := by
  have hselects : Write.Selects
      ⟨(Command.selectClub club handed).encode (c.seq + 1), true⟩ := ⟨rfl, rfl⟩
  unfold SelectionAgrees
  rw [selection_eq_or hcs.written, numbered, List.filter_cons_of_pos (by simpa using hselects),
    filter_numbered_eq_nil hnot]
  exact ⟨club, Write.club_selectClub club handed _ true, hactive⟩

end Client

namespace ClientOp

open Client Stateful

variable {ft : Features}

/-- A poll selects no club. -/
theorem not_mem_issuable_poll {c : Client} {env : PollEnv} (club : Club) (handed : Handed) :
    Command.selectClub club handed ∉ (ClientOp.poll env).issuable ft c := by
  have hasks (n : Notification) : Command.selectClub club handed ∉ asks n := by
    cases n <;> simp [asks]
  unfold issuable pollAsks upkeep
  cases hn : Client.accepts ft c env with
  | none => simp [hn]
  | some n => simp [hn, hasks n]

/-- Every call keeps the agreement. -/
theorem CallStep.selectionAgrees {c c' : Client} {op : ClientOp} {r : Reply}
    (hstep : CallStep c op c' r) (h : c.SelectionAgrees) : c'.SelectionAgrees := by
  -- detection after a selection that is taken, whatever becomes of it
  have harmed (club : Club) (spin : SpinMode) (ok : Bool) :
      ((ClientOp.selected c club).wrote (.detectBall true spin) ok).SelectionAgrees := by
    have hissues : c.Issues
        ([(.selectClub club c.handed, true)] ++ [(.detectBall true spin, ok)])
        ((ClientOp.selected c club).wrote (.detectBall true spin) ok) :=
      (issues_wrote c _ true).trans ⟨rfl, rfl⟩
    exact selectionAgrees_of_selected hissues (by simp) rfl
  cases hstep with
  | sent _ cmd hcmd =>
    refine h.of_issues (issues_wrote c cmd true) ?_ rfl
    intro club handed hmem
    -- none of the commands sent on their own is a selection
    obtain rfl : Command.selectClub club handed = cmd := by simpa using hmem
    cases op <;> cases hcmd
  | refused _ cmd => exact h.of_issues (issues_wrote c cmd false) (by simp) rfl
  | selected write club hw =>
    exact selectionAgrees_of_selected ((issues_wrote c _ true).congr rfl rfl) (by simp) rfl
  | unselected write club => exact h.of_issues (issues_wrote c _ false) (by simp) rfl
  | armed write club spin => exact harmed club spin true
  | undetected write club spin => exact harmed club spin false
  | unarmed write club => exact h.of_issues (issues_wrote c _ false) (by simp) rfl
  | handed | calibrated => exact h

/-- Every operation keeps the agreement. -/
theorem exec_selectionAgrees (c : Client) (op : ClientOp) (h : c.SelectionAgrees) :
    (op.exec ft c).1.SelectionAgrees := by
  rcases op.other_or_poll with hop | ⟨env, rfl⟩
  · exact (call_step ft c op hop).selectionAgrees h
  · rcases exec_issues ft c (.poll env) with ⟨cs, hcs, hissues⟩
    refine h.of_issues hissues ?_ (congrArg Config.activeClub (poll_step ft env c).config)
    intro club handed hmem
    exact not_mem_issuable_poll club handed (hcs _ _ hmem)

/-- A selection an operation writes names the hand set at that time. -/
theorem hand_of_written {c : Client} {op : ClientOp} {l : List Write}
    (h : (op.exec ft c).1.written = c.written ++ l) {w : Write} (hw : w ∈ l)
    (hselection : w.IsSelection) : w.frame[5]? = some c.handed.code := by
  rcases exists_issuable_of_written h hw with ⟨cmd, hmem, seq, hframe⟩
  rcases (Write.isSelection_iff hframe).1 hselection with ⟨club, handed, rfl⟩
  -- only arming and selecting issue a selection, and both with the client's hand
  have hhanded : handed = c.handed := by
    cases op with
    | poll env => exact absurd hmem (not_mem_issuable_poll club handed)
    | arm | disarm | selectClub | setUnits | setGreenSpeed | setCarryAdjustment | setHanded
    | setImpactCalibration => simp_all [issuable]
  rw [hframe, hhanded]
  rfl

/-- The hand an operation sets. -/
def hand : ClientOp → Option Handed
  | .setHanded handed => some handed
  | _ => none

theorem exec_handed (c : Client) (op : ClientOp) :
    (op.exec ft c).1.handed = op.hand.getD c.handed := by
  rcases op.other_or_poll with hop | ⟨env, rfl⟩
  · have h := call_step ft c op hop
    generalize op.exec ft c = out at h ⊢
    rcases out with ⟨c', r⟩
    cases h with
    | sent _ cmd hcmd | refused _ cmd _ hcmd => cases op <;> cases hcmd <;> rfl
    | selected | unselected | armed | undetected | unarmed | handed | calibrated => rfl
  · exact congrArg Config.handed (poll_step ft env c).config

end ClientOp

namespace Client

variable {ft : Features}

/-- The hand last set, right-handed before that. -/
def lastHand (ops : List ClientOp) : Handed := (ops.filterMap ClientOp.hand).getLast?.getD .right

theorem run_handed (ft : Features) (now : ℕ) (ops : List ClientOp) :
    ((clientMachine ft).run (.new now) ops).handed = lastHand ops :=
  (clientMachine ft).run_eq_lastSet Client.handed ClientOp.hand ClientOp.exec_handed (.new now) ops

/-- In every state of every run the active club is the club of the last selection
the transport took; and every selection names the hand set when it was written. -/
theorem activeClub_eq_selected (ft : Features) (now : ℕ) (ops : List ClientOp) :
    ((clientMachine ft).run (.new now) ops).SelectionAgrees ∧
    ∀ l₁ w l₂, ((clientMachine ft).run (.new now) ops).written = l₁ ++ w :: l₂ →
      w.IsSelection →
      ∃ pre op post,
        ops = pre ++ op :: post ∧
        ((clientMachine ft).run (.new now) pre).written.length ≤ l₁.length ∧
        l₁.length < ((clientMachine ft).run (.new now) (pre ++ [op])).written.length ∧
        w.frame[5]? = some (lastHand pre).code := by
  constructor
  · refine (clientMachine ft).run_invariant SelectionAgrees ?_ ops rfl
    intro c op h
    exact ClientOp.exec_selectionAgrees c op h
  · intro l₁ w l₂ hwritten hselection
    rcases (clientMachine ft).exists_step_of_log Client.written (ClientOp.written_prefix ft)
      hwritten (Nat.zero_le _) with ⟨pre, op, post, l, l', rfl, hl, hop⟩
    refine ⟨pre, op, post, rfl, ?_, ?_, ?_⟩
    · rw [hl, List.length_append]
      omega
    · rw [hop, List.length_append, List.length_cons]
      omega
    · rw [← run_handed ft now pre]
      rw [Reactive.Machine.run_concat, hl, List.append_assoc] at hop
      exact ClientOp.hand_of_written hop (by simp) hselection

/-- A left-handed 5-wood, after a 5-iron that the transport refused. -/
theorem activeClub_eq_selected_wood5 :
    let ops : List ClientOp :=
      [.setHanded .left, .selectClub (fun _ => .error .other) .iron5,
        .selectClub (fun _ => .ok ()) .wood5]
    ∃ pre op post, ops = pre ++ op :: post ∧
      ((clientMachine ⟨false⟩).run (.new 0) pre).written.length ≤ 1 ∧
      1 < ((clientMachine ⟨false⟩).run (.new 0) (pre ++ [op])).written.length ∧
      some 1 = some (lastHand pre).code :=
  (activeClub_eq_selected ⟨false⟩ 0
    [.setHanded .left, .selectClub (fun _ => .error .other) .iron5,
      .selectClub (fun _ => .ok ()) .wood5]).2
    [⟨(Command.selectClub .iron5 .left).encode 1, false⟩]
    ⟨(Command.selectClub .wood5 .left).encode 2, true⟩ [] rfl rfl

end Client

end AllSquare
