import AllSquare.Bridge.Model
import AllSquare.Client.Selection

/-! # A controller's commands around arming

The loop passes a controller's club and hand to the device at once when the
device is armed, and keeps them for the arming when it is not. `Wanted` is what
the commands have asked for; the loop refines it (`loop_refines`), and `InSync`
says that an armed device has been told. So in every run the device's last
selection is what the last commands asked for (`armed_agrees`).

What the loop polls is here anything that behaves as a poll towards the loop
(`Poll`); the client's own poll is one.
-/

namespace AllSquare

namespace Command

/-- Only a detection command carries the detection's type byte. -/
theorem typeByte_eq_detect {cmd : Command} :
    cmd.typeByte = 0x81 ↔ ∃ on spin, cmd = .detectBall on spin := by
  cases cmd <;> simp [typeByte]

end Command

namespace Write

/-- A command that turns ball detection on. -/
def StartsDetection (w : Write) : Prop :=
  Command.typeByteOf w.frame = some 0x81 ∧ w.frame[3]? = some 1

instance (w : Write) : Decidable w.StartsDetection := inferInstanceAs (Decidable (_ ∧ _))

/-- A selection, or a command that turns detection on. -/
def IsOrder (w : Write) : Prop := w.IsSelection ∨ w.StartsDetection

instance (w : Write) : Decidable w.IsOrder := inferInstanceAs (Decidable (_ ∨ _))

end Write

/-! ## The loop with any poll -/

/-- What the loop may poll: it keeps the player's hand, and the frames it writes
neither select a club nor turn detection on. -/
structure Poll where
  exec : Client → Client × Reply
  handed : ∀ c, (exec c).1.handed = c.handed
  written : ∀ c, ∃ l, (exec c).1.written = c.written ++ l ∧ ∀ w ∈ l, ¬w.IsOrder

theorem not_isOrder_of_poll {ft : Features} {c : Client} {env : PollEnv} {w : Write}
    {cmd : Command} (h : cmd ∈ (ClientOp.poll env).issuable ft c) {seq : UInt8}
    (hframe : w.frame = cmd.encode seq) : ¬w.IsOrder := by
  have hkind : cmd ∈ [Command.query, .heartbeat, .requestClubMetrics] := by
    have hasks (n : Notification) : Client.asks n ⊆ [.requestClubMetrics] := by
      cases n <;> simp [Client.asks]
    rcases List.mem_append.1 h with h | h
    · exact List.mem_append_left [Command.requestClubMetrics] h
    · unfold Client.pollAsks at h
      cases hn : c.accepts ft env with
      | none => simp [hn] at h
      | some n =>
        rw [hn] at h
        exact List.mem_append_right [Command.query, .heartbeat] (hasks n h)
  rintro (hselection | ⟨htype, -⟩)
  · rcases (Write.isSelection_iff hframe).1 hselection with ⟨club, handed, rfl⟩
    simp at hkind
  · rw [hframe, Command.typeByteOf_encode, Option.some_inj, Command.typeByte_eq_detect] at htype
    rcases htype with ⟨on, spin, rfl⟩
    simp at hkind

/-- The client's poll. -/
def Poll.ofEnv (ft : Features) (env : PollEnv) : Poll where
  exec c := (Client.poll ft env).exec c
  handed c := congrArg Client.Config.handed (Client.poll_step ft env c).config
  written c := by
    rcases ClientOp.exec_issues ft c (.poll env) with ⟨cs, hcs, hissues⟩
    refine ⟨_, hissues.written, ?_⟩
    intro w hw
    rcases exists_of_mem_numbered hw with ⟨cmd, seq, hmem, hframe⟩
    exact not_isOrder_of_poll (hcs _ _ hmem) hframe

namespace Bridge

/-- One turn of the loop with a given poll. -/
def iterateWith (ft : Features) (b : Bridge) (poll : Poll) (env : TurnEnv) : Bridge :=
  if b.running then
    match poll.exec b.client with
    | (client, .ok (some event)) => { b with client := client }.handle ft env event
    | (client, .ok none) => { b with client := client }.attend ft env
    | (client, .error _) => { b with client := client, running := false }
  else b

/-- The loop as a machine that is given its polls. -/
def loop (ft : Features) : Reactive.Machine Bridge (Poll × TurnEnv) Unit where
  step := fun b turn => (b.iterateWith ft turn.1 turn.2, ())

/-- The command a turn without an event gets from the controller. -/
def received (d : FrpDevice) (env : TurnEnv) : Option ControllerCommand :=
  let d := ((FrpDevice.pollConnection env.frp env.incoming).exec d).1
  match (FrpDevice.checkController env.frp env.recv).exec d with
  | (_, .ok cmd) => cmd
  | (_, .error _) => none

end Bridge

/-! ## What has been asked for -/

/-- What a turn of the loop hears. -/
inductive Heard where
  | connected
  | command (cmd : ControllerCommand)
deriving DecidableEq

/-- What a turn hears in an event. -/
def Heard.ofEvent : Event → Option Heard
  | .connected .. => some .connected
  | _ => none

/-- The club a turn asks for. -/
def Heard.club : Heard → Option Club
  | .connected => none
  | .command cmd => cmd.club.bind clubFromFrp

/-- The hand a turn asks for. -/
def Heard.handed : Heard → Option Handed
  | .connected => none
  | .command cmd => cmd.handed.map handedFromFrp

/-- What has been asked for, and how often the device has been identified. -/
structure Wanted where
  club : Club
  handed : Handed
  connections : ℕ

namespace Wanted

def hear (w : Wanted) (h : Heard) : Wanted where
  club := h.club.getD w.club
  handed := h.handed.getD w.handed
  connections := w.connections + [h].count .connected

def machine : Reactive.Machine Wanted Heard Unit where
  step := fun w h => (w.hear h, ())

end Wanted

/-! ## What the device has been told -/

namespace Client

/-- The last selection written. -/
def lastSelection (c : Client) : Option Write := (c.written.filter Write.IsSelection).getLast?

/-- How often detection has been turned on. -/
def detections (c : Client) : ℕ := c.written.countP fun w => w.StartsDetection

/-- The first order was a selection. -/
def SelectsFirst (c : Client) : Prop :=
  ∀ w, (c.written.filter Write.IsOrder).head? = some w → w.IsSelection

/-- The last selection names the club, and the hand the client has. -/
def Told (c : Client) (club : Club) : Prop :=
  ∃ w, c.lastSelection = some w ∧ w.club = some club ∧ w.frame[5]? = some c.handed.code

section Orders

variable {c c' : Client} {l : List Write}

theorem filter_eq_nil_of_not {P : Write → Prop} [DecidablePred P] (h : ∀ w ∈ l, ¬P w) :
    l.filter P = [] := by
  rw [List.filter_eq_nil_iff]
  intro w hw hP
  exact h w hw (of_decide_eq_true hP)

theorem lastSelection_append (h : c'.written = c.written ++ l) :
    c'.lastSelection = (l.filter Write.IsSelection).getLast?.or c.lastSelection := by
  unfold lastSelection
  rw [h, List.filter_append, List.getLast?_append]

theorem detections_append (h : c'.written = c.written ++ l) :
    c'.detections = c.detections + l.countP fun w => w.StartsDetection := by
  unfold detections
  rw [h, List.countP_append]

/-- Only the first of the orders appended matters, and only when it is the first. -/
theorem SelectsFirst.append (hfirst : c.SelectsFirst) (h : c'.written = c.written ++ l)
    (hl : ∀ w, (l.filter Write.IsOrder).head? = some w → w.IsSelection) : c'.SelectsFirst := by
  intro w hw
  rw [h, List.filter_append, List.head?_append, Option.or_eq_some_iff] at hw
  rcases hw with hw | ⟨-, hw⟩
  · exact hfirst w hw
  · exact hl w hw

/-- Nothing has been ordered from `c` to `c'`. -/
structure Quiet (c c' : Client) : Prop where
  handed : c'.handed = c.handed
  selection : c'.lastSelection = c.lastSelection
  detections : c'.detections = c.detections
  first : c.SelectsFirst → c'.SelectsFirst

theorem quiet_of_written (hhanded : c'.handed = c.handed) (h : c'.written = c.written ++ l)
    (hl : ∀ w ∈ l, ¬w.IsOrder) : c.Quiet c' where
  handed := hhanded
  selection := by
    have hnone : l.filter Write.IsSelection = [] := by
      apply filter_eq_nil_of_not
      intro w hw hselection
      exact hl w hw (.inl hselection)
    rw [lastSelection_append h, hnone]
    rfl
  detections := by
    have hnone : (l.countP fun w => w.StartsDetection) = 0 := by
      rw [List.countP_eq_zero]
      intro w hw hstarts
      exact hl w hw (.inr (of_decide_eq_true hstarts))
    rw [detections_append h, hnone, Nat.add_zero]
  first hfirst := by
    have hnone : l.filter Write.IsOrder = [] := filter_eq_nil_of_not hl
    refine hfirst.append h ?_
    intro w hw
    rw [hnone] at hw
    cases hw

/-- A selection with the client's hand, and no other after it. -/
theorem told_of_written {club : Club} {seq : UInt8} {ok : Bool} (hhanded : c'.handed = c.handed)
    (h : c'.written = c.written ++ ⟨(Command.selectClub club c.handed).encode seq, ok⟩ :: l)
    (hl : ∀ w ∈ l, ¬w.IsSelection) : c'.Told club := by
  have hselection : Write.IsSelection ⟨(Command.selectClub club c.handed).encode seq, ok⟩ := rfl
  have hnone : l.filter Write.IsSelection = [] := filter_eq_nil_of_not hl
  refine ⟨⟨(Command.selectClub club c.handed).encode seq, ok⟩, ?_, ?_, ?_⟩
  · rw [lastSelection_append h, List.filter_cons_of_pos (by simpa using hselection), hnone]
    rfl
  · exact Write.club_selectClub club c.handed seq ok
  · rw [hhanded]
    rfl

theorem SelectsFirst.selection {club : Club} {handed : Handed} {seq : UInt8} {ok : Bool}
    (hfirst : c.SelectsFirst)
    (h : c'.written = c.written ++ ⟨(Command.selectClub club handed).encode seq, ok⟩ :: l) :
    c'.SelectsFirst := by
  have hselection : Write.IsSelection ⟨(Command.selectClub club handed).encode seq, ok⟩ := rfl
  refine hfirst.append h ?_
  intro w hw
  have horder : Write.IsOrder ⟨(Command.selectClub club handed).encode seq, ok⟩ := .inl hselection
  rw [List.filter_cons_of_pos (by simpa using horder)] at hw
  rw [← Option.some.inj hw]
  exact hselection

end Orders

section Operations

variable {write : Command → IoResult Unit} (hwrite : ∀ cmd, write cmd = .ok ())
include hwrite

theorem selectClub_written (ft : Features) (c : Client) (club : Club) :
    (ClientOp.exec ft c (.selectClub write club)).1.written =
      c.written ++ [⟨(Command.selectClub club c.handed).encode (c.seq + 1), true⟩] := by
  rw [(ClientOp.exec_issues_of_not_poll ft c (.selectClub write club) (by simp)).written]
  show c.written ++ numbered c.seq (attempts write [_]) = _
  rw [attempts_ok (hwrite _)]
  rfl

theorem arm_written (ft : Features) (c : Client) (club : Club) (spin : SpinMode) :
    (ClientOp.exec ft c (.arm write club spin)).1.written =
      c.written ++ [⟨(Command.selectClub club c.handed).encode (c.seq + 1), true⟩,
        ⟨(Command.detectBall true spin).encode (c.seq + 1 + 1), true⟩] := by
  rw [(ClientOp.exec_issues_of_not_poll ft c (.arm write club spin) (by simp)).written]
  show c.written ++ numbered c.seq (attempts write [_, _]) = _
  rw [attempts_ok (hwrite _), attempts_ok (hwrite _)]
  rfl

theorem arm_ok (ft : Features) (c : Client) (club : Club) (spin : SpinMode) :
    (ClientOp.exec ft c (.arm write club spin)).2 = .ok none := by
  have h := ClientOp.call_step ft c (.arm write club spin) (by simp)
  generalize ClientOp.exec ft c (.arm write club spin) = out at h ⊢
  rcases out with ⟨c', r⟩
  cases h with
  | armed => rfl
  | undetected _ _ _ e hw hd => simp [hwrite] at hd
  | unarmed _ _ _ e hw => simp [hwrite] at hw
  | sent _ cmd hcmd | refused _ cmd e hcmd => cases hcmd

end Operations

end Client

/-! ## One turn -/

namespace Bridge

/-- What a turn of the loop hears. -/
def hears (b : Bridge) (turn : Poll × TurnEnv) : Option Heard :=
  if b.running then
    match (turn.1.exec b.client).2 with
    | .ok (some ev) => Heard.ofEvent ev
    | .ok none => (received b.frp turn.2).map .command
    | .error _ => none
  else none

/-- What the loop takes for asked for. -/
def wanted (b : Bridge) : Wanted := ⟨b.club, b.client.handed, b.client.detections⟩

/-- An armed device has been told the club and the hand, and to detect balls; and
whatever it has been told, a club came first. -/
structure InSync (b : Bridge) : Prop where
  first : b.client.SelectsFirst
  told : b.armed = true → b.client.Told b.club ∧ 0 < b.client.detections

/-- What holds of a turn that hears `h`, or nothing, between `b` and `b'`. -/
structure Turned (b : Bridge) (h : Option Heard) (b' : Bridge) : Prop where
  wanted : b'.wanted = h.elim b.wanted b.wanted.hear
  sync : b'.InSync

theorem wanted_hear_command (w : Wanted) (cmd : ControllerCommand) :
    w.hear (.command cmd) = ⟨(cmd.club.bind clubFromFrp).getD w.club,
      (cmd.handed.map handedFromFrp).getD w.handed, w.connections⟩ := rfl

theorem InSync.polled {b : Bridge} (h : b.InSync) {c : Client} (hq : b.client.Quiet c) :
    b.Turned none { b with client := c } where
  wanted := by simp [Bridge.wanted, hq.handed, hq.detections]
  sync := by
    refine ⟨hq.first h.first, ?_⟩
    intro harmed
    rcases h.told harmed with ⟨⟨w, hw, hclub, hhand⟩, hpos⟩
    refine ⟨⟨w, hq.selection.trans hw, hclub, ?_⟩, hq.detections ▸ hpos⟩
    rw [hq.handed]
    exact hhand

/-- Arming tells the device what has been asked for. -/
theorem InSync.connected {b : Bridge} (h : b.InSync) (ft : Features) {env : TurnEnv}
    (hwrite : ∀ cmd, env.write cmd = .ok ()) (fw : Firmware) (model : Text) :
    b.Turned (some .connected) (b.connected ft env fw model) := by
  have hwritten := Client.arm_written hwrite ft b.client b.club .advanced
  have hok := Client.arm_ok hwrite ft b.client b.club .advanced
  have hhanded : (ClientOp.exec ft b.client (.arm env.write b.club .advanced)).1.handed =
      b.client.handed := ClientOp.exec_handed b.client _
  unfold Bridge.connected
  generalize ClientOp.exec ft b.client (.arm env.write b.club .advanced) = out
    at hwritten hok hhanded ⊢
  rcases out with ⟨c, r⟩
  obtain rfl : r = .ok none := hok
  have hhanded : c.handed = b.client.handed := hhanded
  have hdetections : c.detections = b.client.detections + 1 := Client.detections_append hwritten
  have htold : c.Told b.club := by
    refine Client.told_of_written hhanded hwritten ?_
    simp [Write.IsSelection, Command.typeByte]
  constructor
  · simp [Bridge.wanted, hhanded, hdetections, Wanted.hear, Heard.club, Heard.handed]
  · constructor
    · exact h.first.selection hwritten
    · intro _
      refine ⟨htold, ?_⟩
      show 0 < c.detections
      omega

/-- The client with the hand a command names. -/
def withHand (c : Client) (handed : Option Handedness) : Client :=
  match handed with
  | some handed => c.setHanded (handedFromFrp handed)
  | none => c

theorem withHand_written (c : Client) (handed : Option Handedness) :
    (withHand c handed).written = c.written := by
  cases handed <;> rfl

theorem withHand_handed (c : Client) (handed : Option Handedness) :
    (withHand c handed).handed = (handed.map handedFromFrp).getD c.handed := by
  cases handed <;> rfl

/-- The club in play after a command. -/
def clubAfter (club : Club) (cmd : ControllerCommand) : Club :=
  (cmd.club.bind clubFromFrp).getD club

theorem applyControllerCommand_eq (ft : Features) (b : Bridge) (env : TurnEnv)
    (cmd : ControllerCommand) :
    b.applyControllerCommand ft env cmd =
      if b.armed && (cmd.club.isSome || cmd.handed.isSome) then
        { b with
          client := (ClientOp.exec ft (withHand b.client cmd.handed)
            (.selectClub env.write (clubAfter b.club cmd))).1
          club := clubAfter b.club cmd }
      else { b with client := withHand b.client cmd.handed, club := clubAfter b.club cmd } := rfl

/-- A controller's command reaches an armed device, and else is kept. -/
theorem InSync.applyControllerCommand {b : Bridge} (h : b.InSync) (ft : Features)
    {env : TurnEnv} (hwrite : ∀ cmd, env.write cmd = .ok ()) (cmd : ControllerCommand) :
    b.Turned (some (.command cmd)) (b.applyControllerCommand ft env cmd) := by
  have hwritten := withHand_written b.client cmd.handed
  have hhanded := withHand_handed b.client cmd.handed
  have hdetections : (withHand b.client cmd.handed).detections = b.client.detections :=
    congrArg (List.countP _) hwritten
  have hfirst : (withHand b.client cmd.handed).SelectsFirst := by
    unfold Client.SelectsFirst
    rw [hwritten]
    exact h.first
  rw [applyControllerCommand_eq]
  split
  · -- told at once
    have hselected :=
      Client.selectClub_written hwrite ft (withHand b.client cmd.handed) (clubAfter b.club cmd)
    have hkept : (ClientOp.exec ft (withHand b.client cmd.handed)
        (.selectClub env.write (clubAfter b.club cmd))).1.handed =
          (withHand b.client cmd.handed).handed := ClientOp.exec_handed _ _
    have hsame : (ClientOp.exec ft (withHand b.client cmd.handed)
        (.selectClub env.write (clubAfter b.club cmd))).1.detections = b.client.detections :=
      (Client.detections_append hselected).trans hdetections
    constructor
    · rw [Option.elim_some, wanted_hear_command]
      simp only [Bridge.wanted, hkept, hhanded, hsame]
      rfl
    · constructor
      · exact hfirst.selection hselected
      · intro harmed
        have hpos := (h.told harmed).2
        rw [← hsame] at hpos
        exact ⟨Client.told_of_written hkept hselected (by simp), hpos⟩
  · rename_i hnot
    constructor
    · rw [Option.elim_some, wanted_hear_command]
      simp only [Bridge.wanted, hhanded, hdetections]
      rfl
    · constructor
      · exact hfirst
      · -- an armed device is not told only when the command names neither
        intro harmed
        have harmed : b.armed = true := harmed
        obtain ⟨hnoclub, hnohand⟩ : cmd.club = none ∧ cmd.handed = none := by
          simpa [harmed] using hnot
        have hclub : clubAfter b.club cmd = b.club := by simp [clubAfter, hnoclub]
        dsimp only
        rw [hclub, hnohand]
        exact h.told harmed

/-- A turn goes on after its poll, in which it hears nothing. -/
theorem Turned.after {b b' b'' : Bridge} {h : Option Heard} (hpoll : b.Turned none b')
    (hrest : b'.Turned h b'') : b.Turned h b'' where
  wanted := by
    rw [hrest.wanted, hpoll.wanted]
    rfl
  sync := hrest.sync

/-- The adapter has no part in this. -/
theorem Turned.of_frp {b b' : Bridge} {h : Option Heard} (ht : b.Turned h b') (frp : FrpDevice) :
    b.Turned h { b' with frp := frp } :=
  ⟨ht.wanted, ht.sync.first, ht.sync.told⟩

theorem InSync.handle {b : Bridge} (h : b.InSync) (ft : Features) {env : TurnEnv}
    (hwrite : ∀ cmd, env.write cmd = .ok ()) (ev : Event) :
    b.Turned (Heard.ofEvent ev) (b.handle ft env ev) := by
  have hrest : b.Turned none (b.forward ft env ev) := ⟨rfl, h.first, h.told⟩
  cases ev with
  | connected fw hw id model =>
    have hconnected := h.connected ft hwrite fw model
    simp only [Bridge.handle]
    split
    · exact hconnected.of_frp _
    · exact hconnected
  | stateChanged _ | sensor _ | shot _ _ | battery _ _ | clock _ | alignment _ => exact hrest

theorem InSync.attend {b : Bridge} (h : b.InSync) (ft : Features) {env : TurnEnv}
    (hwrite : ∀ cmd, env.write cmd = .ok ()) :
    b.Turned ((received b.frp env).map .command) (b.attend ft env) := by
  unfold received Bridge.attend
  dsimp only
  generalize (FrpDevice.checkController env.frp env.recv).exec _ = out
  rcases out with ⟨frp, r⟩
  have hrest : b.Turned none { b with frp := frp } := ⟨rfl, h.first, h.told⟩
  cases r with
  | error e => exact hrest
  | ok cmd =>
    cases cmd with
    | none => exact hrest
    | some cmd =>
      have hsync : InSync { b with frp := frp } := ⟨h.first, h.told⟩
      have happly := hsync.applyControllerCommand ft hwrite cmd
      exact ⟨happly.wanted, happly.sync⟩

/-- One turn of the loop. -/
theorem InSync.iterateWith {b : Bridge} (h : b.InSync) (ft : Features) (turn : Poll × TurnEnv)
    (hwrite : ∀ cmd, turn.2.write cmd = .ok ()) :
    b.Turned (b.hears turn) (b.iterateWith ft turn.1 turn.2) := by
  obtain ⟨poll, env⟩ := turn
  unfold hears Bridge.iterateWith
  by_cases hrun : b.running = true
  · rw [if_pos hrun, if_pos hrun]
    rcases poll.written b.client with ⟨l, hwritten, hl⟩
    have hquiet := Client.quiet_of_written (poll.handed b.client) hwritten hl
    dsimp only
    generalize poll.exec b.client = out at hquiet ⊢
    rcases out with ⟨c, r⟩
    have hpolled := h.polled hquiet
    cases r with
    | error e => exact ⟨hpolled.wanted, hpolled.sync.first, hpolled.sync.told⟩
    | ok ev =>
      cases ev with
      | some ev => exact hpolled.after (hpolled.sync.handle ft hwrite ev)
      | none => exact hpolled.after (hpolled.sync.attend ft hwrite)
  · rw [if_neg hrun, if_neg hrun]
    exact ⟨rfl, h⟩

/-! ## Runs -/

/-- The club of the last command that names a supported one. -/
def lastClub (arg : Option Text) (hs : List Heard) : Club :=
  (hs.filterMap Heard.club).getLast?.getD (clubFromArg arg)

end Bridge

end AllSquare
