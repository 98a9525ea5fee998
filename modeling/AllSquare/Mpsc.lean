import AllSquare.Reactive

/-! # Channels between threads

An unbounded first-in-first-out channel with one receiving end, as a machine that
takes its operations one at a time. A send is taken while both ends are there; a
receive gives the oldest value, or says that there is none yet, or that there never
will be one.

* `taken_append_queue` — what has been received, followed by what is queued, is what
  has been put in: nothing is lost, repeated or reordered;
* `taken_prefix` — whatever becomes of the receiving end, what was received is the
  beginning of what was put in;
* `founds_eq` — the receives that found a value or the end found the values received,
  in order, and then only ends, which come once the sender is gone and everything put
  in has been received.
-/

namespace Mpsc

variable {α : Type*}

structure Channel (α : Type*) where
  queue : List α
  /-- The sending end is there. -/
  sender : Bool
  /-- The receiving end is there. -/
  receiver : Bool
deriving DecidableEq

/-- Why a receive has no value: none has arrived yet, or none will. -/
inductive TryRecvError where
  | empty
  | disconnected
deriving DecidableEq

inductive Op (α : Type*) where
  | send (a : α)
  | tryRecv
  | dropSender
  | dropReceiver

namespace Channel

/-- A new channel. -/
def new : Channel α := ⟨[], true, true⟩

/-- A value put in is taken while both ends are there. -/
def Takes (ch : Channel α) : Prop := ch.sender = true ∧ ch.receiver = true

instance (ch : Channel α) : Decidable ch.Takes := inferInstanceAs (Decidable (_ ∧ _))

def send (ch : Channel α) (a : α) : Channel α :=
  if ch.Takes then { ch with queue := ch.queue ++ [a] } else ch

/-- Receive without waiting. -/
def tryRecv (ch : Channel α) : Channel α × Except TryRecvError α :=
  match ch.queue with
  | a :: rest => ({ ch with queue := rest }, .ok a)
  | [] => (ch, .error (if ch.sender then .empty else .disconnected))

def dropSender (ch : Channel α) : Channel α := { ch with sender := false }

/-- What was queued goes with the receiving end. -/
def dropReceiver (ch : Channel α) : Channel α := { ch with queue := [], receiver := false }

/-- No value is left and none will come. -/
def Drained (ch : Channel α) : Prop := ch.queue = [] ∧ ch.sender = false

/-- The receiving end is gone, with what was queued. -/
def Gone (ch : Channel α) : Prop := ch.queue = [] ∧ ch.receiver = false

/-- One operation. Nobody receives when the receiving end is gone. -/
def step (ch : Channel α) : Op α → Channel α × Option (Except TryRecvError α)
  | .send a => (ch.send a, none)
  | .tryRecv => if ch.receiver then (ch.tryRecv.1, some ch.tryRecv.2) else (ch, none)
  | .dropSender => (ch.dropSender, none)
  | .dropReceiver => (ch.dropReceiver, none)

/-- The value an operation puts in. -/
def puts (ch : Channel α) : Op α → Option α
  | .send a => if ch.Takes then some a else none
  | _ => none

/-- The value an operation receives. -/
def takes (ch : Channel α) : Op α → Option α
  | .tryRecv => if ch.receiver then ch.queue.head? else none
  | _ => none

theorem tryRecv_of_cons {ch : Channel α} {a : α} {rest : List α} (h : ch.queue = a :: rest) :
    ch.tryRecv = ({ ch with queue := rest }, .ok a) := by
  unfold tryRecv
  rw [h]

theorem tryRecv_of_nil {ch : Channel α} (h : ch.queue = []) :
    ch.tryRecv = (ch, .error (if ch.sender then .empty else .disconnected)) := by
  unfold tryRecv
  rw [h]

@[simp] theorem send_sender (ch : Channel α) (a : α) : (ch.send a).sender = ch.sender := by
  unfold send
  split <;> rfl

@[simp] theorem send_receiver (ch : Channel α) (a : α) : (ch.send a).receiver = ch.receiver := by
  unfold send
  split <;> rfl

@[simp] theorem tryRecv_sender (ch : Channel α) : ch.tryRecv.1.sender = ch.sender := by
  unfold tryRecv
  split <;> rfl

@[simp] theorem tryRecv_queue (ch : Channel α) : ch.tryRecv.1.queue = ch.queue.tail := by
  unfold tryRecv
  split
  · rename_i h
    rw [h]
    rfl
  · rename_i h
    rw [h]
    rfl

@[simp] theorem tryRecv_receiver (ch : Channel α) : ch.tryRecv.1.receiver = ch.receiver := by
  unfold tryRecv
  split <;> rfl

/-- While the receiving end is there, a send is taken from a sender that is. -/
theorem puts_send {ch : Channel α} (h : ch.receiver = true) (a : α) :
    ch.puts (.send a) = if ch.sender then some a else none := by
  show (if ch.Takes then some a else none) = _
  cases hs : ch.sender <;> simp [Takes, h, hs]

theorem send_of_not_takes {ch : Channel α} (h : ¬ch.Takes) (a : α) : ch.send a = ch := if_neg h

theorem Gone.not_takes {ch : Channel α} (h : ch.Gone) : ¬ch.Takes := by
  rintro ⟨-, hr⟩
  rw [h.2] at hr
  cases hr

theorem Drained.not_takes {ch : Channel α} (h : ch.Drained) : ¬ch.Takes := by
  rintro ⟨hs, -⟩
  rw [h.2] at hs
  cases hs

theorem step_tryRecv {ch : Channel α} (h : ch.receiver = true) :
    ch.step .tryRecv = (ch.tryRecv.1, some ch.tryRecv.2) := if_pos h

/-- A drained channel stays drained. -/
theorem step_drained {ch : Channel α} (h : ch.Drained) (op : Op α) : (ch.step op).1.Drained := by
  cases op with
  | send a =>
    show (ch.send a).Drained
    rwa [send_of_not_takes h.not_takes]
  | tryRecv =>
    unfold step
    dsimp only
    split
    · rwa [tryRecv_of_nil h.1]
    · exact h
  | dropSender => exact ⟨h.1, rfl⟩
  | dropReceiver => exact ⟨rfl, h.2⟩

/-- So does one whose receiving end is gone. -/
theorem step_gone {ch : Channel α} (h : ch.Gone) (op : Op α) : (ch.step op).1.Gone := by
  cases op with
  | send a =>
    show (ch.send a).Gone
    rwa [send_of_not_takes h.not_takes]
  | tryRecv =>
    unfold step
    simp only [h.2]
    exact h
  | dropSender => exact h
  | dropReceiver => exact ⟨rfl, rfl⟩

/-- One operation moves values from the end of the queue to its front, unless it drops
the receiving end. -/
theorem step_balance (ch : Channel α) {op : Op α} (hop : op ≠ .dropReceiver) :
    ch.queue ++ (ch.puts op).toList = (ch.takes op).toList ++ (ch.step op).1.queue := by
  cases op with
  | dropReceiver => exact absurd rfl hop
  | dropSender => exact List.append_nil _
  | send a =>
    show ch.queue ++ (if ch.Takes then some a else none).toList = (ch.send a).queue
    unfold send
    by_cases htakes : ch.Takes
    · rw [if_pos htakes, if_pos htakes]
      rfl
    · rw [if_neg htakes, if_neg htakes]
      exact List.append_nil _
  | tryRecv =>
    unfold puts takes step
    dsimp only
    by_cases hr : ch.receiver = true
    · rw [if_pos hr, if_pos hr, Option.toList_none, List.append_nil]
      cases hq : ch.queue with
      | nil =>
        rw [tryRecv_of_nil hq]
        exact hq.symm
      | cons a rest => rw [tryRecv_of_cons hq, List.head?_cons, Option.toList_some,
          List.singleton_append]
    · rw [if_neg hr, if_neg hr]
      exact List.append_nil _

end Channel

/-! ## Runs -/

/-- The channel driven by its operations. -/
def machine : Reactive.Machine (Channel α) (Op α) (Option (Except TryRecvError α)) where
  step := Channel.step

/-- The values put in along a run. -/
def put (ch : Channel α) (ops : List (Op α)) : List α := machine.heardAlong Channel.puts ch ops

/-- The values received along a run. -/
def taken (ch : Channel α) (ops : List (Op α)) : List α := machine.heardAlong Channel.takes ch ops

theorem put_cons (ch : Channel α) (op : Op α) (ops : List (Op α)) :
    put ch (op :: ops) = (ch.puts op).toList ++ put (machine.next ch op) ops :=
  machine.heardAlong_cons _ ch op ops

theorem taken_cons (ch : Channel α) (op : Op α) (ops : List (Op α)) :
    taken ch (op :: ops) = (ch.takes op).toList ++ taken (machine.next ch op) ops :=
  machine.heardAlong_cons _ ch op ops

/-- Nothing is put in that is not taken. -/
theorem put_eq_nil {ch : Channel α} (I : Channel α → Prop) (hno : ∀ ch, I ch → ¬ch.Takes)
    (hstep : ∀ ch op, I ch → I (machine.next ch op)) (h : I ch) (ops : List (Op α)) :
    put ch ops = [] := by
  induction ops generalizing ch with
  | nil => rfl
  | cons op ops ih =>
    have hputs : ch.puts op = none := by
      cases op with
      | send a => exact if_neg (hno ch h)
      | tryRecv | dropSender | dropReceiver => rfl
    rw [put_cons, hputs, ih (hstep ch op h)]
    rfl

/-- Nothing is received from a queue that is empty and stays so. -/
theorem taken_eq_nil {ch : Channel α} (I : Channel α → Prop) (hq : ∀ ch, I ch → ch.queue = [])
    (hstep : ∀ ch op, I ch → I (machine.next ch op)) (h : I ch) (ops : List (Op α)) :
    taken ch ops = [] := by
  induction ops generalizing ch with
  | nil => rfl
  | cons op ops ih =>
    have htakes : ch.takes op = none := by
      cases op with
      | tryRecv => simp [Channel.takes, hq ch h]
      | send _ | dropSender | dropReceiver => rfl
    rw [taken_cons, htakes, ih (hstep ch op h)]
    rfl

theorem taken_of_gone {ch : Channel α} (h : ch.Gone) (ops : List (Op α)) : taken ch ops = [] :=
  taken_eq_nil Channel.Gone (fun _ h => h.1) (fun _ op h => Channel.step_gone h op) h ops

/-- A receiving end that is there at the end of a run was not dropped by its first
operation. -/
theorem not_dropped {ch : Channel α} {op : Op α} {ops : List (Op α)}
    (h : (machine.run ch (op :: ops)).receiver = true) : op ≠ .dropReceiver := by
  rintro rfl
  have hgone := machine.run_invariant Channel.Gone (fun _ op h => Channel.step_gone h op) ops
    (s := machine.next ch .dropReceiver) ⟨rfl, rfl⟩
  rw [Reactive.Machine.run_cons, hgone.2] at h
  cases h

/-- Nothing is lost, repeated or reordered while the receiving end is there. -/
theorem taken_append_queue {ch : Channel α} {ops : List (Op α)}
    (h : (machine.run ch ops).receiver = true) :
    taken ch ops ++ (machine.run ch ops).queue = ch.queue ++ put ch ops := by
  induction ops generalizing ch with
  | nil => exact (List.append_nil _).symm
  | cons op ops ih =>
    have hbalance := ch.step_balance (not_dropped h)
    have hrest := ih h
    calc taken ch (op :: ops) ++ (machine.run ch (op :: ops)).queue
        = (ch.takes op).toList ++
            (taken (machine.next ch op) ops ++ (machine.run (machine.next ch op) ops).queue) := by
          rw [taken_cons, List.append_assoc, Reactive.Machine.run_cons]
      _ = (ch.takes op).toList ++ (machine.next ch op).queue ++ put (machine.next ch op) ops := by
          rw [hrest, List.append_assoc]
      _ = ch.queue ++ put ch (op :: ops) := by
          rw [put_cons, ← List.append_assoc, hbalance]
          rfl

/-- What was received is the beginning of what was put in. -/
theorem taken_prefix (ch : Channel α) (ops : List (Op α)) :
    taken ch ops <+: ch.queue ++ put ch ops := by
  induction ops generalizing ch with
  | nil => exact List.nil_prefix
  | cons op ops ih =>
    by_cases hop : op = .dropReceiver
    · subst hop
      rw [taken_cons, taken_of_gone ⟨rfl, rfl⟩]
      exact List.nil_prefix
    · have hbalance := ch.step_balance hop
      rw [taken_cons, put_cons, ← List.append_assoc, hbalance, List.append_assoc]
      exact (List.prefix_append_right_inj _).2 (ih (machine.next ch op))

/-! ## The end of the stream -/

/-- What a receive found: a value, or `none` for the end. -/
def found : Except TryRecvError α → Option (Option α)
  | .ok a => some (some a)
  | .error .disconnected => some none
  | .error .empty => none

/-- What an operation found. -/
def finds (o : Option (Except TryRecvError α)) : List (Option α) := (o.bind found).toList

/-- What the receives of a run found, in order. -/
def founds (ch : Channel α) (ops : List (Op α)) : List (Option α) :=
  (machine.outs ch ops).flatMap finds

theorem founds_cons (ch : Channel α) (op : Op α) (ops : List (Op α)) :
    founds ch (op :: ops) = finds (ch.step op).2 ++ founds (machine.next ch op) ops := rfl

theorem run_drained {ch : Channel α} (h : ch.Drained) (ops : List (Op α)) :
    (machine.run ch ops).Drained :=
  machine.run_invariant Channel.Drained (fun _ op h => Channel.step_drained h op) ops h

/-- An operation finds what it takes, or the end of a drained channel. -/
theorem step_found (ch : Channel α) (op : Op α) :
    finds (ch.step op).2 = ((ch.takes op).map some).toList ∨
      (finds (ch.step op).2 = [none] ∧ ch.takes op = none ∧ ch.Drained) := by
  cases op with
  | send _ | dropSender | dropReceiver => exact .inl rfl
  | tryRecv =>
    by_cases hr : ch.receiver = true
    · have htakes : ch.takes .tryRecv = ch.queue.head? := if_pos hr
      rw [Channel.step_tryRecv hr, htakes]
      cases hq : ch.queue with
      | cons a rest =>
        rw [Channel.tryRecv_of_cons hq]
        exact .inl rfl
      | nil =>
        rw [Channel.tryRecv_of_nil hq]
        cases hs : ch.sender with
        | true => exact .inl rfl
        | false => exact .inr ⟨rfl, rfl, hq, hs⟩
    · have htakes : ch.takes .tryRecv = none := if_neg hr
      have hstep : ch.step .tryRecv = (ch, none) := if_neg hr
      rw [hstep, htakes]
      exact .inl rfl

/-- A drained channel gives only ends. -/
theorem founds_of_drained {ch : Channel α} (h : ch.Drained) (ops : List (Op α)) :
    ∃ k, founds ch ops = List.replicate k none := by
  induction ops generalizing ch with
  | nil => exact ⟨0, rfl⟩
  | cons op ops ih =>
    rcases ih (Channel.step_drained h op) with ⟨k, hk⟩
    have htakes : ch.takes op = none := by
      cases op with
      | tryRecv => simp [Channel.takes, h.1]
      | send _ | dropSender | dropReceiver => rfl
    rw [founds_cons]
    rcases step_found ch op with hsame | ⟨hend, -⟩
    · refine ⟨k, ?_⟩
      rw [hsame, htakes]
      exact hk
    · refine ⟨k + 1, ?_⟩
      rw [hend, List.replicate_succ]
      exact congrArg (none :: ·) hk

/-- Nothing is found when the receiving end is gone. -/
theorem founds_of_gone {ch : Channel α} (h : ch.Gone) (ops : List (Op α)) :
    founds ch ops = [] := by
  induction ops generalizing ch with
  | nil => rfl
  | cons op ops ih =>
    have hfinds : finds (ch.step op).2 = [] := by
      cases op with
      | tryRecv =>
        have hr : ¬ch.receiver = true := by simp [h.2]
        have hstep : ch.step .tryRecv = (ch, none) := if_neg hr
        rw [hstep]
        rfl
      | send _ | dropSender | dropReceiver => rfl
    rw [founds_cons, hfinds]
    exact ih (Channel.step_gone h op)

/-- The receives that found something found the values received, in order, and then
only ends, which come once the channel is drained and all that was put in has been
received. -/
theorem founds_eq (ch : Channel α) (ops : List (Op α)) :
    ∃ k, founds ch ops = (taken ch ops).map some ++ List.replicate k none ∧
      (0 < k → (machine.run ch ops).Drained ∧ taken ch ops = ch.queue ++ put ch ops) := by
  induction ops generalizing ch with
  | nil => exact ⟨0, rfl, fun h => absurd h (Nat.lt_irrefl 0)⟩
  | cons op ops ih =>
    rcases step_found ch op with hsame | ⟨hend, htakes, hdrained⟩
    · by_cases hop : op = .dropReceiver
      · subst hop
        have hgone : (machine.next ch .dropReceiver).Gone := ⟨rfl, rfl⟩
        refine ⟨0, ?_, fun h => absurd h (Nat.lt_irrefl 0)⟩
        rw [founds_cons, taken_cons, founds_of_gone hgone, taken_of_gone hgone]
        rfl
      · rcases ih (machine.next ch op) with ⟨k, hk, hlast⟩
        refine ⟨k, ?_, fun hpos => ⟨(hlast hpos).1, ?_⟩⟩
        · rw [founds_cons, taken_cons, hsame, hk, List.map_append, List.append_assoc]
          cases ch.takes op <;> rfl
        · have hbalance := ch.step_balance hop
          rw [taken_cons, put_cons, (hlast hpos).2, ← List.append_assoc, ← List.append_assoc,
            hbalance]
          rfl
    · -- the first end: nothing is received or put in after it
      have hnext : (machine.next ch op).Drained := Channel.step_drained hdrained op
      have hstep (ch : Channel α) (op : Op α) (h : ch.Drained) : (machine.next ch op).Drained :=
        Channel.step_drained h op
      have htaken : taken (machine.next ch op) ops = [] :=
        taken_eq_nil Channel.Drained (fun _ h => h.1) hstep hnext ops
      have hput : put ch (op :: ops) = [] :=
        put_eq_nil Channel.Drained (fun _ h => h.not_takes) hstep hdrained (op :: ops)
      rcases founds_of_drained hnext ops with ⟨k, hk⟩
      refine ⟨k + 1, ?_, fun _ => ⟨run_drained hnext ops, ?_⟩⟩
      · rw [founds_cons, taken_cons, hend, hk, htakes, htaken]
        rfl
      · rw [taken_cons, htakes, htaken, hput, hdrained.1]
        rfl

end Mpsc
