import AllSquare.Client.Journal
import AllSquare.Protocol.Decoding

/-! # The command stream

`issued` lists the commands a run hands to the transport, with the transport's
answers, in order. The frames written are the encodings of these, numbered from one
and modulo 256 (`run_issues`, `command_stream`), refused ones included, and each
frame gives back its command.
-/

namespace AllSquare

/-! ## Numbered frames -/

@[simp] theorem length_numbered (seq : UInt8) (cs : List (Command × Bool)) :
    (numbered seq cs).length = cs.length := by
  induction cs generalizing seq with
  | nil => rfl
  | cons p cs ih => exact congrArg (· + 1) (ih (seq + 1))

/-- The place of a command in the list is the distance of its number. -/
theorem getElem?_numbered (seq : UInt8) (cs : List (Command × Bool)) (n : ℕ) :
    (numbered seq cs)[n]? =
      cs[n]?.map fun p => ⟨p.1.encode (seq + UInt8.ofNat (n + 1)), p.2⟩ := by
  induction cs generalizing seq n with
  | nil => rfl
  | cons p cs ih =>
    cases n with
    | zero => rfl
    | succ n =>
      rw [numbered, List.getElem?_cons_succ, List.getElem?_cons_succ, ih, add_one_add_ofNat]

/-! ## Commands along a run -/

namespace ClientOp

open Client

/-- The commands an operation hands over, with the transport's answers. -/
def issued (ft : Features) (c : Client) : ClientOp → List (Command × Bool)
  | .poll env => c.pollIssued ft env
  | op => attempts op.write (op.issuable ft c)

theorem exec_issued (ft : Features) (c : Client) (op : ClientOp) :
    c.Issues (op.issued ft c) (op.exec ft c).1 := by
  cases op with
  | poll env => exact poll_issues ft env c
  | _ => exact exec_issues_of_not_poll ft c _ (by simp)

end ClientOp

namespace Client

open Reactive

variable {ft : Features}

/-- The commands a run hands over, with the transport's answers. -/
def issued (ft : Features) (c : Client) (ops : List ClientOp) : List (Command × Bool) :=
  ((clientMachine ft).trace (fun c op => op.issued ft c) c ops).flatten

theorem run_issues (ft : Features) (c : Client) (ops : List ClientOp) :
    c.Issues (issued ft c ops) ((clientMachine ft).run c ops) := by
  induction ops generalizing c with
  | nil => exact issues_nil rfl rfl
  | cons op ops ih => exact (op.exec_issued ft c).trans (ih _)

/-- A run has written just the frames of the commands it has handed over. -/
theorem run_written (ft : Features) (now : ℕ) (ops : List ClientOp) :
    ((clientMachine ft).run (.new now) ops).written = numbered 0 (issued ft (.new now) ops) :=
  (run_issues ft (.new now) ops).written

/-- In every run the frames handed to the transport, refused ones included, are those
of the commands issued, in order: the n-th has nine bytes, begins with zero, carries
n modulo 256 and is decoded to the n-th command. Two commands that share byte 1 and
bytes 3 to 8 are the same. -/
theorem command_stream (ft : Features) (now : ℕ) (ops : List ClientOp) :
    let written := ((clientMachine ft).run (.new now) ops).written
    let commands := issued ft (.new now) ops
    written.length = commands.length ∧
    (∀ n w, written[n]? = some w →
      w.frame.length = 9 ∧ w.frame[0]? = some 0x00 ∧
      w.frame[2]?.map UInt8.toNat = some ((n + 1) % 256) ∧
      ∃ cmd, commands[n]? = some (cmd, w.ok) ∧ Command.decode w.frame = some cmd) ∧
    ∀ (cmd cmd' : Command) (seq seq' : UInt8),
      (∀ i, i = 1 ∨ (3 ≤ i ∧ i ≤ 8) → (cmd.encode seq)[i]? = (cmd'.encode seq')[i]?) →
      cmd = cmd' := by
  intro written commands
  have hwritten : written = numbered 0 commands := run_written ft now ops
  refine ⟨?_, ?_, fun _ _ _ _ => Command.eq_of_bytes⟩
  · rw [hwritten, length_numbered]
  · intro n w hw
    rw [hwritten, getElem?_numbered, Option.map_eq_some_iff] at hw
    rcases hw with ⟨⟨cmd, ok⟩, hcmd, rfl⟩
    refine ⟨Command.length_encode cmd _, rfl, ?_, cmd, hcmd, Command.decode_encode cmd _⟩
    show some (0 + UInt8.ofNat (n + 1)).toNat = _
    rw [UInt8.zero_add, UInt8.toNat_ofNat']

/-- The transport refuses to turn detection on; the next command has number three. -/
theorem command_stream_refused :
    let refused : Command → IoResult Unit :=
      fun cmd => if cmd = .detectBall true .advanced then .error .other else .ok ()
    let c := (clientMachine ⟨false⟩).run (.new 0)
      [.arm refused .putter .advanced, .setCarryAdjustment refused 90]
    ∃ w, c.written[2]? = some w ∧ w.frame[2]?.map UInt8.toNat = some 3 ∧
      Command.decode w.frame = some (.setCarryAdjustment 90) := by
  intro refused c
  rcases (command_stream ⟨false⟩ 0
    [.arm refused .putter .advanced, .setCarryAdjustment refused 90]).2.1 2 _ rfl with
    ⟨-, -, hseq, cmd, hcmd, hdecode⟩
  have heq : some (Command.setCarryAdjustment 90, true) = some (cmd, true) := hcmd
  cases heq
  exact ⟨_, rfl, hseq, hdecode⟩

end Client

end AllSquare
