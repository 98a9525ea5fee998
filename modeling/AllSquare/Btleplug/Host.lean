import AllSquare.Bridge.Channel
import AllSquare.Btleplug.Delivery

/-! # The program on a btleplug transport

`Host` is the program together with the transport it runs on, and the pump of that
transport between and during the turns of the loop. Every run of it is a run of the
transport (`run_transport`) and, while the program runs, a run of the program with the
transport's channel (`run_follows`), in which there arrives what the transport passes on
(`arrived_eq`). So the ball flights that controllers are sent come from the device's EVT
notifications (`flights_of_evt`).
-/

namespace AllSquare

open Client Mpsc Reactive

namespace Btleplug

/-! ## The model -/

/-- A step of the pump's task. -/
inductive PumpOp where
  | arrive (item : StreamItem)
  | settle
  | cancel

def PumpOp.op : PumpOp → TransportOp
  | .arrive item => .arrive item
  | .settle => .settle
  | .cancel => .cancel

/-! ### A turn's calls

A turn calls its transport in one order: its poll reads the characteristics and writes the
query and a heartbeat, or it writes a heartbeat when one is due, reads, and asks for the club
metrics of a ball; what the loop itself writes comes last. So the calls have places, and the
pump's steps in a turn are given by the place they come before. -/

/-- The place at which a characteristic is read. -/
def characteristicPlace (u : Uuid) : ℕ :=
  if u = uuid.fwVersion then 0
  else if u = uuid.hwVersion then 1
  else if u = uuid.deviceId then 2
  else 3

/-- The place at which a command is written. -/
def writePlace : Command → ℕ
  | .query => 4
  | .heartbeat => 5
  | .requestClubMetrics => 7
  | .selectClub _ _ => 8
  | _ => 9

/-- The place of the poll's read. -/
def readPlace : ℕ := 6

/-- The places of a turn; at the last its calls are over. -/
def places : ℕ := 10

/-- The steps of the pump before each place of a turn. -/
abbrev Pumping := ℕ → List PumpOp

namespace Pumping

/-- Those before a call. -/
def upTo (pumps : Pumping) (place : ℕ) : List PumpOp :=
  (List.range (place + 1)).flatMap pumps

/-- Those before the poll's read. -/
def before (pumps : Pumping) : List PumpOp := pumps.upTo readPlace

/-- Those after the poll's read, at the next `n` places. -/
def next (pumps : Pumping) (n : ℕ) : List PumpOp :=
  (List.range' (readPlace + 1) n).flatMap pumps

/-- Those after the poll's read. -/
def after (pumps : Pumping) : List PumpOp := pumps.next (places - readPlace)

theorem upTo_read (pumps : Pumping) (n : ℕ) :
    pumps.upTo (readPlace + n) = pumps.before ++ pumps.next n := by
  unfold before upTo next
  rw [← List.flatMap_append, List.range_eq_range', List.range_eq_range', Nat.add_right_comm,
    ← List.range'_append_1, Nat.zero_add]

end Pumping

/-- The transport when a call of the turn comes, but for what the poll may have read. -/
def Transport.reached (t : Transport) (pumps : Pumping) (place : ℕ) : Transport :=
  (machine 64).run t ((pumps.upTo place).map PumpOp.op)

/-- What a turn is told on a transport: a write, or the read of a characteristic, first
ensures that the transport is up when its call comes. The rest is the stack's answer, and the
pump may go on before that. The poll's read leaves the link as it is
(`Host.ensureUp_reached`). -/
def Transport.answering (t : Transport) (pumps : Pumping) (env : TurnEnv) : TurnEnv :=
  { env with
    poll :=
      { env.poll with
        write := fun cmd => do
          (t.reached pumps (writePlace cmd)).ensureUp
          env.poll.write cmd
        readCharacteristic := fun u => do
          (t.reached pumps (characteristicPlace u)).ensureUp
          env.poll.readCharacteristic u }
    write := fun cmd => do
      (t.reached pumps (writePlace cmd)).ensureUp
      env.write cmd }

/-- The program, and the transport it runs on. -/
structure Host where
  bridge : Bridge
  transport : Transport

/-- A step of the pump, or a turn of the loop, with the steps that the pump takes before
each of the turn's calls. -/
inductive HostOp where
  | pump (op : PumpOp)
  | turn (env : TurnEnv) (pumps : Pumping)

def HostOp.isTurn : HostOp → Bool
  | .turn _ _ => true
  | .pump _ => false

/-- The steps of the pump in a step of the host. -/
def HostOp.pumpOps : HostOp → List PumpOp
  | .pump op => [op]
  | .turn _ pumps => pumps.before ++ pumps.after

namespace Host

/-- The program once it has connected to the device. -/
def start (now : ℕ) (env : FrpEnv) (deviceName : Text) (arg : Option Text) (id : PeripheralId) :
    Host :=
  ⟨.start now env deviceName arg, .opened id⟩

/-- The turn of the loop, when its poll comes. -/
def turned (s : Host) (env : TurnEnv) (pumps : Pumping) : TurnEnv :=
  (s.transport.answering pumps env).over (s.transport.reached pumps readPlace).notifications

/-- The read of the turn's poll, if it comes to that. -/
def reads (s : Host) (env : TurnEnv) (pumps : Pumping) : List TransportOp :=
  if ClientOp.Looks s.bridge.client (.poll (s.transport.answering pumps env).poll) then [.read]
  else []

/-- The steps of the transport in a step of the host. When `main` returns, the transport
is dropped. -/
def transportOps (ft : Features) (s : Host) : HostOp → List TransportOp
  | .pump op => [op.op]
  | .turn env pumps =>
    if s.bridge.running then
      pumps.before.map PumpOp.op ++ s.reads env pumps ++ pumps.after.map PumpOp.op ++
        if (s.bridge.iterate ft (s.turned env pumps)).running then [] else [.drop]
    else []

def step (ft : Features) (s : Host) (i : HostOp) : Host where
  bridge :=
    match i with
    | .pump _ => s.bridge
    | .turn env pumps => s.bridge.iterate ft (s.turned env pumps)
  transport := (Transport.machine 64).run s.transport (s.transportOps ft i)

/-- The program and its transport, under any interleaving. -/
def machine (ft : Features) : Machine Host HostOp Unit where
  step s i := (s.step ft i, ())

/-! ## The transport along a run -/

variable {ft : Features}

/-- The steps of the transport in a run. -/
def allTransportOps (ft : Features) (s : Host) (ops : List HostOp) : List TransportOp :=
  (machine ft).unrolled (transportOps ft) s ops

theorem run_transport (ft : Features) (s : Host) (ops : List HostOp) :
    ((machine ft).run s ops).transport =
      (Transport.machine 64).run s.transport (allTransportOps ft s ops) := by
  refine (machine ft).run_unrolled (fun s t => s.transport = t) ?_ rfl ops
  rintro s _ i rfl
  rfl

/-! ## The program along a run -/

/-- The step of the program that an operation of its channel is. -/
def ofChannel : Op (List UInt8) → Option ProgramOp
  | .send value => some (.notify value)
  | .dropSender => some .threadEnds
  | .tryRecv | .dropReceiver => none

/-- What the program sees of steps of the transport. -/
def told (t : Transport) (ops : List TransportOp) : List ProgramOp :=
  (Transport.machine 64).heardAlong (fun t op => (t.channelOp op).bind ofChannel) t ops

/-- The program with its transport's channel. -/
def program (s : Host) : Program := ⟨s.bridge, s.transport.notifications⟩

/-- The steps of the program in a step of the host. -/
def programOps (s : Host) : HostOp → List ProgramOp
  | .pump op => told s.transport [op.op]
  | .turn env pumps =>
    if s.bridge.running then
      told s.transport (pumps.before.map PumpOp.op) ++ .turn (s.transport.answering pumps env) ::
        told ((Transport.machine 64).run s.transport
          (pumps.before.map PumpOp.op ++ s.reads env pumps)) (pumps.after.map PumpOp.op)
    else []

/-- The steps of the program in a run. -/
def allProgramOps (ft : Features) (s : Host) (ops : List HostOp) : List ProgramOp :=
  (machine ft).unrolled programOps s ops

/-- What the program sees of the pump moves its channel as the pump does. -/
theorem run_told (ft : Features) (b : Bridge) {t : Transport} (h : t.Sound) (ops : List PumpOp) :
    (Program.machine ft).run ⟨b, t.notifications⟩ (told t (ops.map PumpOp.op)) =
      ⟨b, ((Transport.machine 64).run t (ops.map PumpOp.op)).notifications⟩ := by
  induction ops generalizing t with
  | nil => rfl
  | cons op ops ih =>
    have hnext := Transport.next_notifications 64 h op.op
    have hrest := ih ((Transport.transport_step 64 t op.op).sound h)
    have hstep : (Program.machine ft).run ⟨b, t.notifications⟩
        ((t.channelOp op.op).bind ofChannel).toList =
          ⟨b, ((Transport.machine 64).next t op.op).notifications⟩ := by
      rw [hnext]
      cases hop : t.channelOp op.op with
      | none => rfl
      | some o =>
        rcases Transport.channelOp_eq_some hop with ⟨value, rfl, -⟩ | rfl | ⟨-, hread⟩ | ⟨-, hdrop⟩
        · rfl
        · rfl
        · cases op <;> cases hread
        · cases op <;> cases hdrop
    have hsplit : told t ((op :: ops).map PumpOp.op) =
        ((t.channelOp op.op).bind ofChannel).toList ++
          told ((Transport.machine 64).next t op.op) (ops.map PumpOp.op) :=
      (Transport.machine 64).heardAlong_cons _ t op.op _
    rw [hsplit, Machine.run_append, hstep]
    exact hrest

/-- The program's loop takes no turn by what the program sees of the transport. -/
theorem told_bridge (ft : Features) (p : Program) (t : Transport) (ops : List TransportOp) :
    ((Program.machine ft).run p (told t ops)).bridge = p.bridge ∧
      (told t ops).countP ProgramOp.isTurn = 0 := by
  have hno : ∀ i ∈ told t ops, i.isTurn = false := by
    refine (Transport.machine 64).forall_mem_heardAlong ?_ t
    intro t op _ i hi
    rcases Option.bind_eq_some_iff.1 hi with ⟨o, -, ho⟩
    cases o <;> cases ho <;> rfl
  refine ⟨?_, List.countP_eq_zero.2 fun i hi => by simp [hno i hi]⟩
  generalize told t ops = pops at hno
  refine (Program.machine ft).run_invariant_of_meets (fun p' => p'.bridge = p.bridge) ?_ rfl
    ((Program.machine ft).meets_of_forall hno)
  intro p' i hp hi
  cases i with
  | notify | threadEnds => exact hp
  | turn env => cases hi

/-! ## The link at a call -/

/-- The transports differ at most in the notifications that are left. -/
def Alike (t t' : Transport) : Prop :=
  ∃ ch : Ble.Notifications, t' = { t with notifications := ch } ∧
    ch.receiver = t.notifications.receiver

/-- The pump does not look at the notifications that are left. -/
theorem Alike.next {t t' : Transport} (h : Alike t t') (op : PumpOp) :
    Alike ((Transport.machine 64).next t op.op) ((Transport.machine 64).next t' op.op) := by
  rcases h with ⟨ch, rfl, hch⟩
  cases op with
  | arrive item =>
    show Alike (t.arrive item) ({ t with notifications := ch }.arrive item)
    unfold Transport.arrive
    dsimp only
    cases pumped t.id item with
    | none => exact ⟨ch, rfl, hch⟩
    | some p =>
      dsimp only
      by_cases hrun : t.pump = .running
      · rw [if_pos hrun, if_pos hrun]
        cases p with
        | closed released => exact ⟨ch, rfl, hch⟩
        | data value =>
          unfold Transport.take
          dsimp only
          rw [hch]
          split
          · refine ⟨_, rfl, ?_⟩
            rw [Channel.send_receiver, Channel.send_receiver, hch]
          · exact ⟨_, rfl, hch⟩
      · rw [if_neg hrun, if_neg hrun]
        exact ⟨ch, rfl, hch⟩
  | settle =>
    show Alike t.settle { t with notifications := ch }.settle
    rcases t with ⟨id, notifications, link, pump⟩
    cases pump <;> exact ⟨_, rfl, hch⟩
  | cancel =>
    show Alike t.cancel { t with notifications := ch }.cancel
    unfold Transport.cancel
    dsimp only
    split
    · exact ⟨_, rfl, hch⟩
    · exact ⟨ch, rfl, hch⟩

theorem Alike.run {t t' : Transport} (h : Alike t t') (ops : List PumpOp) :
    Alike ((Transport.machine 64).run t (ops.map PumpOp.op))
      ((Transport.machine 64).run t' (ops.map PumpOp.op)) := by
  induction ops generalizing t t' with
  | nil => exact h
  | cons op ops ih => exact ih (h.next op)

/-- A call after the poll's read finds the link as it is without it. -/
theorem ensureUp_reached (s : Host) (env : TurnEnv) (pumps : Pumping) (n : ℕ) :
    ((Transport.machine 64).run s.transport (pumps.before.map PumpOp.op ++ s.reads env pumps ++
      (pumps.next n).map PumpOp.op)).ensureUp =
        (s.transport.reached pumps (readPlace + n)).ensureUp := by
  unfold Transport.reached
  rw [pumps.upTo_read, List.map_append, Machine.run_append, Machine.run_append,
    Machine.run_append]
  generalize (Transport.machine 64).run s.transport _ = t
  have hread : Alike t ((Transport.machine 64).run t (s.reads env pumps)) := by
    unfold reads
    split
    · show Alike t (if t.Callable then ((t.read 64).1, TransportReply.read (t.read 64).2)
        else (t, .none)).1
      split
      · exact ⟨_, rfl, Channel.tryRecv_receiver _⟩
      · exact ⟨_, rfl, rfl⟩
    · exact ⟨_, rfl, rfl⟩
  rcases hread.run (pumps.next n) with ⟨ch, heq, -⟩
  rw [heq]
  rfl

/-! ## What holds of every state -/

/-- The transport is there as long as the program runs, and the program never closes it. No
write is left on its way. -/
structure Sound (s : Host) : Prop where
  transport : s.transport.Sound
  dropped : s.transport.dropped = !s.bridge.running
  closed : s.transport.closed = false
  idle : s.transport.writing = none

theorem start_sound (now : ℕ) (env : FrpEnv) (name : Text) (arg : Option Text)
    (id : PeripheralId) : (start now env name arg id).Sound :=
  ⟨Transport.opened_sound id, rfl, rfl, rfl⟩

/-- During a turn the pump takes steps and the poll may read. -/
theorem mem_during {s : Host} {env : TurnEnv} {pumps : Pumping} {op : TransportOp}
    (h : op ∈ pumps.before.map PumpOp.op ++ s.reads env pumps ++ pumps.after.map PumpOp.op) :
    (∃ pump ∈ pumps.before ++ pumps.after, pump.op = op) ∨ op = .read := by
  rcases List.mem_append.1 h with h | h
  · rcases List.mem_append.1 h with h | h
    · rcases List.mem_map.1 h with ⟨pump, hpump, hop⟩
      exact .inl ⟨pump, List.mem_append_left _ hpump, hop⟩
    · unfold reads at h
      split at h
      · exact .inr (List.mem_singleton.1 h)
      · cases h
  · rcases List.mem_map.1 h with ⟨pump, hpump, hop⟩
    exact .inl ⟨pump, List.mem_append_right _ hpump, hop⟩

/-- A step of the transport is one of the pump, the read of a poll, or the drop. -/
theorem mem_transportOps {s : Host} {i : HostOp} {op : TransportOp}
    (h : op ∈ s.transportOps ft i) :
    (∃ pump ∈ i.pumpOps, pump.op = op) ∨ op = .read ∨ op = .drop := by
  cases i with
  | pump pump => exact .inl ⟨pump, List.mem_singleton_self _, (List.mem_singleton.1 h).symm⟩
  | turn env pumps =>
    change op ∈ if s.bridge.running = true then _ else [] at h
    split at h
    · rcases List.mem_append.1 h with h | h
      · exact (mem_during h).imp_right .inl
      · split at h
        · cases h
        · exact .inr (.inr (List.mem_singleton.1 h))
    · cases h

theorem not_drop (s : Host) (env : TurnEnv) (pumps : Pumping) :
    ∀ op ∈ pumps.before.map PumpOp.op ++ s.reads env pumps ++ pumps.after.map PumpOp.op,
      op ≠ .drop ∧ ∀ stack data, op ≠ .write stack data := by
  intro op hop
  rcases mem_during hop with ⟨pump, -, rfl⟩ | rfl
  · cases pump <;> exact ⟨nofun, nofun⟩
  · exact ⟨nofun, nofun⟩

/-- The host disconnects nothing and begins no write of its own. -/
theorem not_disconnect (s : Host) (i : HostOp) :
    ∀ op ∈ s.transportOps ft i,
      (∀ stack, op ≠ .disconnect stack) ∧ ∀ stack data, op ≠ .write stack data := by
  intro op hop
  rcases mem_transportOps hop with ⟨pump, -, rfl⟩ | rfl | rfl
  · cases pump <;> exact ⟨nofun, nofun⟩
  · exact ⟨nofun, nofun⟩
  · exact ⟨nofun, nofun⟩

/-- While the program runs its transport can be called. -/
theorem Sound.callable {s : Host} (h : s.Sound) (hrun : s.bridge.running = true)
    {ops : List TransportOp}
    (hops : ∀ op ∈ ops, op ≠ .drop ∧ ∀ stack data, op ≠ .write stack data) :
    ((Transport.machine 64).run s.transport ops).Callable := by
  refine ⟨?_, Transport.run_writing 64 h.idle fun op hop => (hops op hop).2⟩
  rw [Transport.run_dropped 64 s.transport fun op hop => (hops op hop).1, h.dropped, hrun]
  rfl

theorem next_sound {s : Host} (h : s.Sound) (i : HostOp) : ((machine ft).next s i).Sound := by
  have hclosed := Transport.run_closed 64 s.transport fun op hop =>
    (@not_disconnect ft s i op hop).1
  refine ⟨Transport.run_sound 64 h.transport _, ?_, hclosed.trans h.closed,
    Transport.run_writing 64 h.idle fun op hop => (s.not_disconnect i op hop).2⟩
  cases i with
  | pump op =>
    have hop : ∀ op' ∈ [op.op], op' ≠ .drop := by
      intro op' hmem
      rw [List.mem_singleton.1 hmem]
      cases op <;> nofun
    exact (Transport.run_dropped 64 s.transport hop).trans h.dropped
  | turn env pumps =>
    show ((Transport.machine 64).run s.transport
      (s.transportOps ft (.turn env pumps))).dropped =
        !(s.bridge.iterate ft (s.turned env pumps)).running
    unfold transportOps
    dsimp only
    split
    · rename_i hrun
      have hcall := h.callable hrun (s.not_drop env pumps)
      rw [Machine.run_append]
      generalize (Transport.machine 64).run s.transport _ = t at hcall ⊢
      split
      · rename_i hgoes
        rw [hgoes]
        exact hcall.1
      · rename_i hstops
        rw [Bool.not_eq_true] at hstops
        rw [hstops]
        show (if t.Callable then (t.drop, TransportReply.none) else (t, .none)).1.dropped = true
        rw [if_pos hcall]
        exact Transport.drop_dropped
    · rename_i hrun
      have hsame : s.bridge.iterate ft (s.turned env pumps) = s.bridge := if_neg hrun
      rw [hsame]
      exact h.dropped

/-! ## A run of the host is a run of the program -/

/-- The program is the host's, and sees the channel of its transport while it runs. -/
structure Follows (s : Host) (p : Program) : Prop where
  bridge : p.bridge = s.bridge
  notifications : s.bridge.running = true → p.notifications = s.transport.notifications

/-- The turn's poll takes from the channel what the read of the transport takes. -/
theorem read_notifications {s : Host} (h : s.Sound) (hrun : s.bridge.running = true)
    (env : TurnEnv) (pumps : Pumping) :
    ((Transport.machine 64).run s.transport
        (pumps.before.map PumpOp.op ++ s.reads env pumps)).notifications =
      if ClientOp.Looks s.bridge.client (.poll (s.transport.answering pumps env).poll) then
        (s.transport.reached pumps readPlace).notifications.tryRecv.1
      else (s.transport.reached pumps readPlace).notifications := by
  have hcall : (s.transport.reached pumps readPlace).Callable := by
    refine h.callable hrun ?_
    intro op hop
    exact s.not_drop env pumps op (List.mem_append_left _ (List.mem_append_left _ hop))
  rw [Machine.run_append]
  unfold reads
  split
  · show (if (s.transport.reached pumps readPlace).Callable then _
      else _ : Transport × TransportReply).1.notifications = _
    rw [if_pos hcall]
    rfl
  · rfl

theorem next_follows {s : Host} (h : s.Sound) {p : Program} (hp : s.Follows p) (i : HostOp) :
    ((machine ft).next s i).Follows ((Program.machine ft).run p (s.programOps i)) := by
  by_cases hrun : s.bridge.running = true
  · have hchannel := hp.notifications hrun
    obtain rfl : p = ⟨s.bridge, s.transport.notifications⟩ := by
      rw [← hchannel, ← hp.bridge]
    cases i with
    | pump op =>
      have htold : (Program.machine ft).run ⟨s.bridge, s.transport.notifications⟩
          (s.programOps (.pump op)) = _ := run_told ft s.bridge h.transport [op]
      rw [htold]
      exact ⟨rfl, fun _ => rfl⟩
    | turn env pumps =>
      let t := (Transport.machine 64).run s.transport (pumps.before.map PumpOp.op)
      let t' := (Transport.machine 64).run s.transport
        (pumps.before.map PumpOp.op ++ s.reads env pumps)
      have hturn : (Program.machine ft).next ⟨s.bridge, t.notifications⟩
          (.turn (s.transport.answering pumps env)) =
            ⟨s.bridge.iterate ft (s.turned env pumps), t'.notifications⟩ := by
        show Program.mk _ (if Program.Looks _ _ then _ else _) = _
        rw [read_notifications h hrun]
        exact congrArg _ (if_congr (and_iff_right hrun) rfl rfl)
      have hrest := run_told ft (s.bridge.iterate ft (s.turned env pumps))
        (Transport.run_sound 64 h.transport (pumps.before.map PumpOp.op ++ s.reads env pumps))
        pumps.after
      have hsplit : s.programOps (.turn env pumps) =
          told s.transport (pumps.before.map PumpOp.op) ++
            .turn (s.transport.answering pumps env) :: told t' (pumps.after.map PumpOp.op) :=
        if_pos hrun
      rw [hsplit, Machine.run_append, run_told ft s.bridge h.transport, Machine.run_cons, hturn,
        hrest]
      refine ⟨rfl, ?_⟩
      intro hgoes
      have hgoes' : (s.bridge.iterate ft (s.turned env pumps)).running = true := hgoes
      have hops : s.transportOps ft (.turn env pumps) =
          pumps.before.map PumpOp.op ++ s.reads env pumps ++ pumps.after.map PumpOp.op := by
        unfold transportOps
        dsimp only
        rw [if_pos hrun, if_pos hgoes', List.append_nil]
      show _ = ((Transport.machine 64).run s.transport _).notifications
      rw [hops]
      exact congrArg Transport.notifications ((Transport.machine 64).run_append _ _ _).symm
  · cases i with
    | pump op =>
      have hbridge := (told_bridge ft p s.transport [op.op]).1
      exact ⟨hbridge.trans hp.bridge, fun h => absurd h hrun⟩
    | turn env pumps =>
      have hnone : s.programOps (.turn env pumps) = [] := if_neg hrun
      have hsame : s.bridge.iterate ft (s.turned env pumps) = s.bridge := if_neg hrun
      rw [hnone]
      refine ⟨hp.bridge.trans hsame.symm, ?_⟩
      intro hgoes
      have hgoes' : (s.bridge.iterate ft (s.turned env pumps)).running = true := hgoes
      rw [hsame] at hgoes'
      exact absurd hgoes' hrun

/-- A run of the host is a run of the program. -/
theorem run_follows (ft : Features) {s : Host} (h : s.Sound) (ops : List HostOp) :
    ((machine ft).run s ops).Sound ∧
      ((machine ft).run s ops).Follows
        ((Program.machine ft).run s.program (allProgramOps ft s ops)) := by
  refine (machine ft).run_unrolled (fun s p => s.Sound ∧ s.Follows p) ?_
    ⟨h, rfl, fun _ => rfl⟩ ops
  rintro s p i ⟨hs, hp⟩
  exact ⟨next_sound hs i, next_follows hs hp i⟩

/-- A program that has ended does not go on. -/
theorem running_of_run {s : Host} {ops : List HostOp}
    (h : ((machine ft).run s ops).bridge.running = true) : s.bridge.running = true := by
  by_contra hno
  have hstop := (machine ft).run_invariant (fun s => ¬s.bridge.running = true) ?_ ops hno
  · exact hstop h
  · intro s i hno
    cases i with
    | pump op => exact hno
    | turn env pumps =>
      have hsame : s.bridge.iterate ft (s.turned env pumps) = s.bridge := if_neg hno
      show ¬(s.bridge.iterate ft (s.turned env pumps)).running = true
      rwa [hsame]

/-- While the program runs it takes the turns of the host. -/
theorem countP_turns {s : Host} {ops : List HostOp}
    (h : ((machine ft).run s ops).bridge.running = true) :
    (allProgramOps ft s ops).countP ProgramOp.isTurn = ops.countP HostOp.isTurn := by
  induction ops generalizing s with
  | nil => rfl
  | cons i ops ih =>
    have hrest := ih (s := (machine ft).next s i) h
    have hrun : s.bridge.running = true := @running_of_run ft s (i :: ops) h
    have hsplit : allProgramOps ft s (i :: ops) =
        s.programOps i ++ allProgramOps ft ((machine ft).next s i) ops := rfl
    have hnone (t : Transport) (ops : List TransportOp) :
        (told t ops).countP ProgramOp.isTurn = 0 := (told_bridge ft s.program t ops).2
    have hone : (s.programOps i).countP ProgramOp.isTurn = if i.isTurn then 1 else 0 := by
      cases i with
      | pump op => exact hnone s.transport _
      | turn env pumps =>
        unfold programOps
        dsimp only
        rw [if_pos hrun, List.countP_append, List.countP_cons, hnone, hnone]
        rfl
    rw [hsplit, List.countP_append, List.countP_cons, hrest, hone, Nat.add_comm]

/-! ## What arrives -/

/-- What arrives by steps that come after those of a transport, if anything still can. -/
def later (t : Transport) (values : List (List UInt8)) : List (List UInt8) :=
  if t.notifications.sender then values else []

/-- What arrives at the program is what the transport passes on. -/
theorem arrived_told {t : Transport} (h : t.Sound) (ops : List TransportOp)
    (rest : List ProgramOp) :
    later t (Program.arrived (told t ops ++ rest)) =
      (Transport.machine 64).heardAlong Transport.passesOn t ops ++
        later ((Transport.machine 64).run t ops) (Program.arrived rest) := by
  induction ops generalizing t with
  | nil => rfl
  | cons op ops ih =>
    have hrest := ih ((Transport.transport_step 64 t op).sound h)
    have hsplit : told t (op :: ops) = ((t.channelOp op).bind ofChannel).toList ++
        told ((Transport.machine 64).next t op) ops :=
      (Transport.machine 64).heardAlong_cons _ t op ops
    rw [hsplit, Machine.heardAlong_cons, Machine.run_cons, List.append_assoc, List.append_assoc,
      ← hrest]
    have hputs := Transport.puts_channelOp h op
    have hnext := Transport.next_notifications 64 h op
    rw [← hputs]
    cases hop : t.channelOp op with
    | none =>
      rw [hop] at hnext
      unfold later
      rw [hnext]
      rfl
    | some o =>
      rw [hop] at hnext
      unfold later
      rw [hnext]
      show (if t.notifications.sender = true then
          Program.arrived ((ofChannel o).toList ++ _) else []) =
        (t.notifications.puts o).toList ++
          if (t.notifications.step o).1.sender = true then _ else []
      rcases Transport.channelOp_eq_some hop with
        ⟨value, rfl, hlistens⟩ | rfl | ⟨rfl, -⟩ | ⟨rfl, -⟩
      · have hsender : (t.notifications.step (.send value)).1.sender = t.notifications.sender :=
          Channel.send_sender _ value
        rw [hsender, Channel.puts_send hlistens]
        cases t.notifications.sender <;> rfl
      · exact ite_self []
      · have hsender : (t.notifications.step .tryRecv).1.sender = t.notifications.sender := by
          unfold Channel.step
          dsimp only
          split
          · exact Channel.tryRecv_sender _
          · rfl
        rw [hsender]
        rfl
      · rfl

/-- The program sees nothing of the owner's calls. -/
theorem told_call (t : Transport) {op : TransportOp} (h : op = .read ∨ op = .drop) :
    told t [op] = [] := by
  have hnone : (t.channelOp op).bind ofChannel = none := by
    rcases h with rfl | rfl
    · unfold Transport.channelOp
      dsimp only
      split <;> rfl
    · unfold Transport.channelOp
      dsimp only
      split <;> rfl
  exact (Transport.machine 64).heardAlong_cons_of_none hnone []

theorem next_arrived (ft : Features) {s : Host} (h : s.Sound) (i : HostOp)
    (rest : List ProgramOp) :
    later s.transport (Program.arrived (s.programOps i ++ rest)) =
      (Transport.machine 64).heardAlong Transport.passesOn s.transport (s.transportOps ft i) ++
        later ((machine ft).next s i).transport (Program.arrived rest) := by
  cases i with
  | pump op => exact arrived_told h.transport [op.op] rest
  | turn env pumps =>
    show _ = _ ++ later ((Transport.machine 64).run s.transport _) _
    unfold programOps transportOps
    dsimp only
    split
    · have hreads (t : Transport) : told t (s.reads env pumps) = [] := by
        unfold reads
        split
        · exact told_call t (.inl rfl)
        · rfl
      have hdrops (t : Transport) : told t
          (if (s.bridge.iterate ft (s.turned env pumps)).running = true then [] else [.drop]) =
            [] := by
        split
        · rfl
        · exact told_call t (.inr rfl)
      generalize (if (s.bridge.iterate ft (s.turned env pumps)).running = true then []
        else [TransportOp.drop]) = drops at hdrops ⊢
      -- the pump's steps, the read, the pump's steps again, and the drop
      let t := (Transport.machine 64).run s.transport (pumps.before.map PumpOp.op)
      let t' := (Transport.machine 64).run t (s.reads env pumps)
      let t'' := (Transport.machine 64).run t' (pumps.after.map PumpOp.op)
      have hsound : t.Sound := Transport.run_sound 64 h.transport _
      have hsound' : t'.Sound := Transport.run_sound 64 hsound _
      have hsound'' : t''.Sound := Transport.run_sound 64 hsound' _
      have hread := arrived_told hsound (s.reads env pumps)
        (told t' (pumps.after.map PumpOp.op) ++ rest)
      have hdrop := arrived_told hsound'' drops rest
      rw [hreads, List.nil_append, arrived_told hsound'] at hread
      rw [hdrops, List.nil_append] at hdrop
      rw [List.append_assoc, arrived_told h.transport]
      simp only [Machine.heardAlong_append, Machine.run_append, List.append_assoc]
      rw [← hdrop]
      exact congrArg _ hread
    · rfl

/-- What arrives at the program in a run is what its transport passes on. -/
theorem arrived_eq (ft : Features) {s : Host} (h : s.Sound) (ops : List HostOp) :
    later s.transport (Program.arrived (allProgramOps ft s ops)) =
      (Transport.machine 64).heardAlong Transport.passesOn s.transport
        (allTransportOps ft s ops) := by
  induction ops generalizing s with
  | nil => exact ite_self []
  | cons i ops ih =>
    have hprogram : allProgramOps ft s (i :: ops) =
        s.programOps i ++ allProgramOps ft ((machine ft).next s i) ops := rfl
    have htransport : allTransportOps ft s (i :: ops) =
        s.transportOps ft i ++ allTransportOps ft ((machine ft).next s i) ops := rfl
    rw [hprogram, htransport, next_arrived ft h, ih (next_sound h i),
      Machine.heardAlong_append]
    rfl

/-! ## What the device has sent -/

/-- The payloads of the device's EVT notifications that the stack gives to the pump. -/
def evtValues (id : PeripheralId) (ops : List HostOp) : List (List UInt8) :=
  (ops.flatMap HostOp.pumpOps).filterMap fun op => Transport.evtValue id op.op

/-- In a running program's step the pump is given what the stack gives. -/
theorem evtValues_step {s : Host} (hrun : s.bridge.running = true) (id : PeripheralId)
    (i : HostOp) :
    (s.transportOps ft i).filterMap (Transport.evtValue id) = evtValues id [i] := by
  have hpumps (ops : List PumpOp) : (ops.map PumpOp.op).filterMap (Transport.evtValue id) =
      ops.filterMap fun op => Transport.evtValue id op.op := by
    rw [List.filterMap_map]
    rfl
  cases i with
  | pump op => exact hpumps [op]
  | turn env pumps =>
    have hreads : (s.reads env pumps).filterMap (Transport.evtValue id) = [] := by
      unfold reads
      split <;> rfl
    have hdrops : (if (s.bridge.iterate ft (s.turned env pumps)).running = true then []
        else [TransportOp.drop]).filterMap (Transport.evtValue id) = [] := by
      split <;> rfl
    have hops : s.transportOps ft (.turn env pumps) = _ := if_pos hrun
    have hboth : evtValues id [.turn env pumps] =
        (pumps.before ++ pumps.after).filterMap fun op => Transport.evtValue id op.op :=
      congrArg (List.filterMap _) (List.append_nil _)
    rw [hops, hboth, List.filterMap_append, List.filterMap_append, List.filterMap_append, hpumps,
      hpumps, hreads, hdrops, List.append_nil, List.append_nil, List.filterMap_append]

/-- The transport passes on the first of what the stack gives. -/
theorem prefix_passed (ft : Features) {s : Host} (h : s.Sound) (ops : List HostOp) :
    (Transport.machine 64).heardAlong Transport.passesOn s.transport (allTransportOps ft s ops) <+:
      evtValues s.transport.id ops := by
  induction ops generalizing s with
  | nil => exact List.prefix_rfl
  | cons i ops ih =>
    by_cases hrun : s.bridge.running = true
    · have hrest := @ih ((machine ft).next s i) (next_sound h i)
      have hid : ((machine ft).next s i).transport.id = s.transport.id :=
        Transport.run_id 64 s.transport (s.transportOps ft i)
      have htransport : allTransportOps ft s (i :: ops) =
          s.transportOps ft i ++ allTransportOps ft ((machine ft).next s i) ops := rfl
      have hvalues : evtValues s.transport.id (i :: ops) =
          evtValues s.transport.id [i] ++ evtValues s.transport.id ops := by
        unfold evtValues
        rw [← List.filterMap_append, List.flatMap_cons, List.flatMap_singleton]
      have hfirst := Transport.prefix_passed 64 s.transport (s.transportOps ft i)
      rw [evtValues_step hrun] at hfirst
      rw [htransport, Machine.heardAlong_append, hvalues]
      by_cases hforwards : ((machine ft).next s i).transport.Forwards
      · -- while it forwards nothing has been left out
        rw [Transport.passed_of_forwards hforwards, evtValues_step hrun]
        rw [hid] at hrest
        exact (List.prefix_append_right_inj _).2 hrest
      · have hnone := Transport.passed_of_stopped 64 hforwards
          (allTransportOps ft ((machine ft).next s i) ops)
        have hall := hfirst.trans (List.prefix_append _ (evtValues s.transport.id ops))
        rw [← List.append_nil (Machine.heardAlong _ _ _ _)] at hall
        rwa [← hnone] at hall
    · have hstopped : ¬s.transport.Forwards := by
        rintro ⟨-, halive⟩
        rw [h.dropped, Bool.not_eq_false'] at halive
        exact hrun halive
      rw [Transport.passed_of_stopped 64 hstopped]
      exact List.nil_prefix

/-- In every interleaving of the pump with the turns of the loop, whatever fails: the ball
flights that all controllers together have been sent are conversions of the balls in the
device's EVT notifications, in order and none twice, a frame sent twice in a row being
counted once. -/
theorem flights_of_evt (ft : Features) (now : ℕ) (env : FrpEnv) (name : Text)
    (arg : Option Text) (id : PeripheralId) (ops : List HostOp) :
    (((machine ft).run (start now env name arg id) ops).bridge.frp.published.filterMap
        FrpEvent.flight).Sublist
      (((Feed.acceptable ft ((evtValues id ops).filterMap Feed.frameOf)).flatMap
        Notification.ballData).map Convert.ballFlight) := by
  have hstart := start_sound now env name arg id
  let pops := allProgramOps ft (start now env name arg id) ops
  have hbridge : ((Program.machine ft).run (Program.start now env name arg) pops).bridge = _ :=
    (run_follows ft hstart ops).2.bridge
  have harrived : Program.arrived pops <+: evtValues id ops := by
    have hpassed : Program.arrived pops = _ := arrived_eq ft hstart ops
    rw [hpassed]
    exact prefix_passed ft hstart ops
  have hflights := Bridge.program_flights ft now env name arg
    (Program.turns ft (Program.start now env name arg) pops)
  rw [← hbridge, Program.run_bridge]
  refine hflights.trans (List.Sublist.map Convert.ballFlight ?_)
  -- what is accepted comes from the first of the notifications
  have hframes : Feed.acceptable ft ((Program.arrived pops).filterMap Feed.frameOf) <+:
      Feed.acceptable ft ((evtValues id ops).filterMap Feed.frameOf) :=
    (prefix_destutter (harrived.filterMap _)).filterMap _
  rcases (Program.prefix_accepted ft now env name arg pops).trans hframes with ⟨rest, hrest⟩
  rw [← hrest, List.flatMap_append]
  exact List.sublist_append_left _ _

end Host

end Btleplug

end AllSquare
