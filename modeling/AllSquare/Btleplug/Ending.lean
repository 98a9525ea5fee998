import AllSquare.Btleplug.Host

/-! # How the program on a btleplug transport ends

A turn of the loop has no command taken that its write has not answered so
(`Bridge.iterate_gives`), and a transport that is down answers no write so. When the pump has
ended, the program takes what is left in the channel and then ends:

* `link_loss_ends_program` — a command is taken only if the transport was up when its write
  came, so none in the turns after it has gone down, and when the pump has ended the program
  ends;
* `device_released` — a program that has ended has asked for the device to be disconnected,
  once, unless the stack had reported it disconnected.
-/

namespace AllSquare

open Client Mpsc Reactive

/-! ## What the transport takes -/

namespace Client

variable {c c' c'' : Client} {P Q : Command → Prop}

/-- What the transport has taken of what was written. -/
def taken (c : Client) : List Write := c.written.filter Write.ok

/-- `c'` is reached from `c` by handing over commands of which only those in `P` have been
taken. -/
def Gives (P : Command → Prop) (c c' : Client) : Prop :=
  ∃ cs, c.Issues cs c' ∧ ∀ cmd, (cmd, true) ∈ cs → P cmd

theorem Gives.of_same (hw : c'.written = c.written) (hs : c'.seq = c.seq) : Gives P c c' :=
  ⟨[], issues_nil hw hs, nofun⟩

theorem Gives.trans (h : Gives P c c') (h' : Gives P c' c'') : Gives P c c'' := by
  rcases h with ⟨cs, hcs, hP⟩
  rcases h' with ⟨ds, hds, hP'⟩
  refine ⟨cs ++ ds, hcs.trans hds, ?_⟩
  intro cmd hmem
  rcases List.mem_append.1 hmem with hmem | hmem
  · exact hP cmd hmem
  · exact hP' cmd hmem

theorem Gives.mono (h : Gives P c c') (hPQ : ∀ cmd, P cmd → Q cmd) : Gives Q c c' := by
  rcases h with ⟨cs, hcs, hP⟩
  exact ⟨cs, hcs, fun cmd hmem => hPQ cmd (hP cmd hmem)⟩

/-- The frames taken are those of commands in `P`. -/
theorem Gives.taken (h : Gives P c c') :
    ∃ ws, c'.taken = c.taken ++ ws ∧ ∀ w ∈ ws, ∃ cmd seq, w.frame = cmd.encode seq ∧ P cmd := by
  rcases h with ⟨cs, hcs, hP⟩
  refine ⟨(numbered c.seq cs).filter Write.ok, ?_, ?_⟩
  · unfold Client.taken
    rw [hcs.written, List.filter_append]
  · intro w hw
    rcases List.mem_filter.1 hw with ⟨hmem, hok⟩
    rcases exists_of_mem_numbered hmem with ⟨cmd, seq, hcmd, hframe⟩
    rw [hok] at hcmd
    exact ⟨cmd, seq, hframe, hP cmd hcmd⟩

/-- A poll has no command taken that its write has not answered so. -/
theorem poll_gives (ft : Features) (env : PollEnv) (c : Client) :
    Gives (fun cmd => env.write cmd = .ok ()) c ((poll ft env).exec c).1 := by
  refine ⟨_, poll_issues ft env c, ?_⟩
  intro cmd hmem
  rcases List.mem_append.1 hmem with hmem | hmem
  · exact ok_of_mem_attempts hmem
  · exact ok_of_mem_attempts hmem

end Client

theorem ClientOp.exec_gives (ft : Features) (c : Client) {op : ClientOp}
    (hop : ∀ env, op ≠ .poll env) :
    Gives (fun cmd => op.write cmd = .ok ()) c (op.exec ft c).1 :=
  ⟨_, exec_issues_of_not_poll ft c op hop, fun _ hmem => ok_of_mem_attempts hmem⟩

namespace Bridge

variable (ft : Features) (b : Bridge) (env : TurnEnv)

theorem applyControllerCommand_gives (cmd : ControllerCommand) :
    Gives (fun cmd => env.write cmd = .ok ()) b.client
      (b.applyControllerCommand ft env cmd).client := by
  -- the hand is set first, and an armed device is then told
  have htold (c : Client) (hc : Gives (fun cmd => env.write cmd = .ok ()) b.client c)
      (club : Club) : Gives (fun cmd => env.write cmd = .ok ()) b.client
        (ClientOp.exec ft c (.selectClub env.write club)).1 :=
    hc.trans (@ClientOp.exec_gives ft c (.selectClub env.write club) (by simp))
  unfold applyControllerCommand
  cases cmd.handed with
  | none =>
    dsimp only
    split
    · exact htold b.client (.of_same rfl rfl) _
    · exact .of_same rfl rfl
  | some handed =>
    dsimp only
    split
    · exact htold (b.client.setHanded (handedFromFrp handed)) (.of_same rfl rfl) _
    · exact .of_same rfl rfl

theorem handle_gives (ev : Event) :
    Gives (fun cmd => env.write cmd = .ok ()) b.client (b.handle ft env ev).client := by
  cases ev with
  | connected fw hw id model =>
    have harm := @ClientOp.exec_gives ft b.client (.arm env.write b.club .advanced) (by simp)
    have hconnected : Gives (fun cmd => env.write cmd = .ok ()) b.client
        (b.connected ft env fw model).client := by
      unfold connected
      generalize ClientOp.exec ft b.client (.arm env.write b.club .advanced) = out at harm ⊢
      rcases out with ⟨c, r⟩
      cases r <;> exact harm
    unfold handle
    dsimp only
    split <;> exact hconnected
  | stateChanged _ | sensor _ | shot _ _ | battery _ _ | clock _ | alignment _ =>
    exact .of_same rfl rfl

/-- A turn has no command taken that neither its poll's write nor its own has answered so. -/
theorem iterate_gives :
    Gives (fun cmd => env.poll.write cmd = .ok () ∨ env.write cmd = .ok ()) b.client
      (b.iterate ft env).client := by
  unfold iterate
  split
  · have hpolled := (poll_gives ft env.poll b.client).mono fun cmd hcmd =>
      (.inl hcmd : env.poll.write cmd = .ok () ∨ env.write cmd = .ok ())
    generalize (Client.poll ft env.poll).exec b.client = out at hpolled ⊢
    rcases out with ⟨c, r⟩
    cases r with
    | error e => exact hpolled
    | ok ev =>
      cases ev with
      | some ev =>
        exact hpolled.trans ((handle_gives ft { b with client := c } env ev).mono fun _ => .inr)
      | none =>
        refine hpolled.trans ?_
        show Gives _ c (attend ft { b with client := c } env).client
        unfold attend
        dsimp only
        split
        · rename_i frp cmd _
          exact (applyControllerCommand_gives ft { b with client := c, frp := frp } env cmd).mono
            fun _ => .inr
        · exact .of_same rfl rfl
  · exact .of_same rfl rfl

end Bridge

namespace Btleplug

namespace Host

variable {ft : Features}

/-! ## The end of the link -/

theorem up_of_ensured {α : Type} {t : Transport} {r : IoResult α} {a : α}
    (h : (do t.ensureUp; r : IoResult α) = .ok a) : ¬t.Down := by
  intro hdown
  have hup : t.ensureUp = .error .notConnected := if_pos hdown
  rw [hup] at h
  cases h

/-- In a turn a command is taken only if the transport is up when its write comes. -/
theorem turn_gives (ft : Features) (s : Host) (env : TurnEnv) (pumps : Pumping) :
    Gives (fun cmd => ¬(s.transport.reached pumps (writePlace cmd)).Down) s.bridge.client
      ((machine ft).next s (.turn env pumps)).bridge.client := by
  refine (s.bridge.iterate_gives ft (s.turned env pumps)).mono ?_
  rintro cmd (hpoll | hwrite)
  · exact up_of_ensured hpoll
  · exact up_of_ensured hwrite

/-- A turn on a transport that is down has nothing taken. -/
theorem next_down {s : Host} (hdown : s.transport.Down) (i : HostOp) :
    ((machine ft).next s i).transport.Down ∧
      ((machine ft).next s i).bridge.client.taken = s.bridge.client.taken := by
  refine ⟨(Transport.run_down 64 hdown (s.transportOps ft i)).1, ?_⟩
  cases i with
  | pump op => rfl
  | turn env pumps =>
    rcases (turn_gives ft s env pumps).taken with ⟨ws, htaken, hws⟩
    have hnone : ws = [] := by
      refine List.eq_nil_iff_forall_not_mem.2 ?_
      intro w hw
      rcases hws w hw with ⟨cmd, seq, -, hup⟩
      exact hup (Transport.run_down 64 hdown _).1
    rw [htaken, hnone, List.append_nil]

/-- A command is taken only if the transport was up when its write came, so none in the turns
after it has gone down; and once the pump has ended, the program ends within as many turns as
there are notifications left and two more, whatever else happens. -/
theorem link_loss_ends_program (ft : Features) (now : ℕ) (env : FrpEnv) (name : Text)
    (arg : Option Text) (id : PeripheralId) (before after : List HostOp) :
    let s := (machine ft).run (start now env name arg id) before
    let s' := (machine ft).run s after
    (∀ turn pumps, ∃ ws,
      ((machine ft).next s (.turn turn pumps)).bridge.client.taken = s.bridge.client.taken ++ ws ∧
        ∀ w ∈ ws, ∃ cmd seq, w.frame = cmd.encode seq ∧
          ¬(s.transport.reached pumps (writePlace cmd)).Down) ∧
      (s.transport.Down → s'.bridge.client.taken = s.bridge.client.taken) ∧
      (s.transport.pump = .ended →
        s.transport.notifications.queue.length + 2 ≤ after.countP HostOp.isTurn →
        s'.bridge.running = false) := by
  intro s s'
  refine ⟨fun turn pumps => (turn_gives ft s turn pumps).taken, ?_, ?_⟩
  · intro hdown
    exact ((machine ft).run_invariant
      (fun s' => s'.transport.Down ∧ s'.bridge.client.taken = s.bridge.client.taken)
      (fun s' i h => (next_down h.1 i).imp_right (·.trans h.2)) after ⟨hdown, rfl⟩).2
  · intro hended hturns
    rw [← Bool.not_eq_true]
    intro hruns
    rcases run_follows ft (start_sound now env name arg id) before with ⟨hsound, hfollows⟩
    have hrun : s.bridge.running = true := running_of_run hruns
    -- the program the host has reached, with its channel
    have hprogram : s.program = (Program.machine ft).run (Program.start now env name arg)
        (allProgramOps ft (start now env name arg id) before) := by
      show Program.mk s.bridge s.transport.notifications = _
      rw [← hfollows.notifications hrun, ← hfollows.bridge]
      rfl
    have hopen : s.program.feed.Open := by
      rw [hprogram]
      exact (Program.machine ft).run_invariant (fun p => p.feed.Open)
        (fun p i h => Program.next_of_feed (I := Feed.Open) (fun _ i h => Feed.step_open h i) h i) _
        (Feed.new_open now)
    have hsender : s.transport.notifications.sender = false := by
      rw [← Bool.not_eq_true]
      exact fun h => hsound.transport.speaks.1 h hended
    have hends : s.program.Ended := ⟨hopen, hsender⟩
    rcases run_follows ft hsound after with ⟨-, hafter⟩
    have hruns' : ((Program.machine ft).run s.program
        (allProgramOps ft s after)).bridge.running = true := by
      rw [hafter.bridge]
      exact hruns
    have hleft := Program.turns_add_left hends hruns'
    rw [countP_turns hruns] at hleft
    have hbound : s.program.left ≤ s.transport.notifications.queue.length + 1 := by
      unfold Program.left
      split <;> exact Nat.add_le_add_left (by decide) _
    omega

/-- The stack reports the device disconnected while a frame is left in the channel. -/
theorem link_loss_ends_program_after :
    let poll : HostOp := .turn (Bridge.turn (.empty 0)) fun _ => []
    let before : List HostOp := [poll,
      .pump (.arrive (.notification uuid.evt Bridge.readyAck.bytes)),
      .pump (.arrive (.deviceDisconnected 0)), .pump .settle, .pump .settle]
    ((machine ⟨false⟩).run ((machine ⟨false⟩).run
      (start 0 ⟨fun _ => .ok (), true, 0⟩ [] none 0) before)
        [poll, poll, poll]).bridge.running = false := by
  intro poll before
  exact (link_loss_ends_program ⟨false⟩ 0 ⟨fun _ => .ok (), true, 0⟩ [] none 0 before
    [poll, poll, poll]).2.2 (by decide) (by decide)

theorem mem_allTransportOps {s : Host} {ops : List HostOp} {item : StreamItem}
    (h : .arrive item ∈ allTransportOps ft s ops) :
    .arrive item ∈ ops.flatMap HostOp.pumpOps := by
  rcases (machine ft).exists_of_mem_unrolled h with ⟨s', i, hi, hop⟩
  refine List.mem_flatMap.2 ⟨i, hi, ?_⟩
  rcases mem_transportOps hop with ⟨pump, hpump, hop⟩ | hop | hop
  · cases pump with
    | arrive item' =>
      obtain rfl : item' = item := TransportOp.arrive.inj hop
      exact hpump
    | settle | cancel => cases hop
  · cases hop
  · cases hop

/-- While the program runs it has not asked for the device to be disconnected. When it has
ended it has asked once, or the stack had reported the device disconnected. -/
theorem device_released (ft : Features) (now : ℕ) (env : FrpEnv) (name : Text)
    (arg : Option Text) (id : PeripheralId) (ops : List HostOp) :
    let s := (machine ft).run (start now env name arg id) ops
    (s.bridge.running = true → s.transport.disconnects = 0) ∧
      (s.bridge.running = false → s.transport.disconnects = 1 ∨
        (s.transport.disconnects = 0 ∧
          .arrive (.deviceDisconnected id) ∈ ops.flatMap HostOp.pumpOps)) := by
  intro s
  have hsound : s.Sound := (run_follows ft (start_sound now env name arg id) ops).1
  constructor
  · intro hrun
    exact hsound.transport.unused hsound.closed (by rw [hsound.dropped, hrun]; rfl)
  · intro hended
    have hdropped : s.transport.dropped = true := by
      rw [hsound.dropped, hended]
      rfl
    have honce := hsound.transport.once
    rcases Nat.le_one_iff_eq_zero_or_eq_one.1 honce with hzero | hone
    · right
      refine ⟨hzero, ?_⟩
      rcases hsound.transport.used (.inr hdropped) with hone | hreleased
      · rw [hzero] at hone
        cases hone
      · have htransport : s.transport = (Transport.machine 64).run (.opened id)
            (allTransportOps ft (start now env name arg id) ops) :=
          run_transport ft (start now env name arg id) ops
        rw [htransport] at hreleased
        rcases Transport.exists_reported hreleased with ⟨pre, post, hops, -⟩
        refine @mem_allTransportOps ft (start now env name arg id) ops _ ?_
        rw [hops]
        simp
    · exact .inl hone

end Host

end Btleplug

end AllSquare
