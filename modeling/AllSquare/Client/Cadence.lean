import AllSquare.Client.Timers

/-! # Heartbeat cadence and dead-link detection

Runs of polls from a new client in which every write is taken, each poll is one
instant, instants never decrease and consecutive polls are at most `g` apart;
what is read is arbitrary. Main result: `watchdog_timing`, in three parts.

* `Cadence` — consecutive heartbeats are at least 5 s and at most 5 s + `g` apart;
* `Detects` — when nothing is received after `T`, every poll from
  `T + max (15 s) (10 s + 2 g)` on reports the loss of the link;
* `Justified` — a poll that finds nothing to read reports the loss only after
  15 s of silence during which two heartbeats were written.
-/

namespace AllSquare

/-- The instant of a poll. -/
def PollEnv.time (env : PollEnv) : ℕ := env.clock.start

/-- Polls that each take no time, at most `g` apart, whose writes are taken. -/
structure Schedule (g : ℕ) (envs : List PollEnv) : Prop where
  write : ∀ env ∈ envs, ∀ cmd, env.write cmd = .ok ()
  instant : ∀ env ∈ envs, env.clock = Clock.at env.time
  spaced : envs.IsChain fun a b => a.time ≤ b.time ∧ b.time ≤ a.time + g

theorem Schedule.left {g : ℕ} {envs envs' : List PollEnv} (h : Schedule g (envs ++ envs')) :
    Schedule g envs :=
  ⟨fun env henv => h.write env (List.mem_append_left _ henv),
    fun env henv => h.instant env (List.mem_append_left _ henv), h.spaced.left_of_append⟩

theorem Schedule.tail {g : ℕ} {env : PollEnv} {envs : List PollEnv}
    (h : Schedule g (env :: envs)) : Schedule g envs :=
  ⟨fun env henv => h.write env (List.mem_cons_of_mem _ henv),
    fun env henv => h.instant env (List.mem_cons_of_mem _ henv), h.spaced.tail⟩

/-- Earlier polls of a schedule come earlier. -/
theorem Schedule.time_le {g : ℕ} {pre post : List PollEnv} {env env' : PollEnv}
    (h : Schedule g (pre ++ env' :: post)) (hmem : env ∈ pre) : env.time ≤ env'.time := by
  have hchain : (pre ++ env' :: post).IsChain fun a b => a.time ≤ b.time :=
    h.spaced.imp fun _ _ hab => hab.1
  have htrans : IsTrans PollEnv fun a b => a.time ≤ b.time := ⟨fun _ _ _ => Nat.le_trans⟩
  exact (List.pairwise_append.1 hchain.pairwise).2.2 env hmem env' (by simp)

/-- The part of a schedule from one poll to a later one. -/
theorem Schedule.window {g : ℕ} {pre mid post : List PollEnv} {e₁ e₂ : PollEnv}
    (h : Schedule g (pre ++ e₁ :: (mid ++ e₂ :: post))) : Schedule g (e₁ :: (mid ++ [e₂])) := by
  have hmem {env : PollEnv} (henv : env ∈ e₁ :: (mid ++ [e₂])) :
      env ∈ pre ++ e₁ :: (mid ++ e₂ :: post) := by
    simp only [List.mem_append, List.mem_cons, List.not_mem_nil, or_false] at henv ⊢
    tauto
  refine ⟨fun env henv => h.write env (hmem henv), fun env henv => h.instant env (hmem henv), ?_⟩
  have hchain := h.spaced.right_of_append
  rw [show e₁ :: (mid ++ e₂ :: post) = (e₁ :: (mid ++ [e₂])) ++ post by simp] at hchain
  exact hchain.left_of_append

namespace Client

variable {ft : Features}

/-- The poll writes a heartbeat. -/
def WritesHeartbeat (ft : Features) (c : Client) (env : PollEnv) : Prop :=
  c.heartbeats < ((pollMachine ft).next c env).heartbeats

/-- The poll hears from the device: it receives a frame, or reads the identity. -/
def Contact (ft : Features) (c : Client) (env : PollEnv) : Prop :=
  (c.receives env).isSome ∨
    (c.phase = .connecting ∧ ((pollMachine ft).next c env).phase = .active)

/-- The heartbeats written up to a contact: those of an identity step count as
written after it, those of any other poll as written before. -/
def heartbeatsAtContact (ft : Features) (c : Client) (env : PollEnv) : ℕ :=
  if c.phase = .connecting then c.heartbeats else ((pollMachine ft).next c env).heartbeats

/-- Consecutive heartbeats are between 5 s and 5 s + `g` apart. -/
def Cadence (ft : Features) (g : ℕ) (c : Client) (envs : List PollEnv) : Prop :=
  ∀ pre e₁ mid e₂ post, envs = pre ++ e₁ :: (mid ++ e₂ :: post) →
    let M := pollMachine ft
    let c₁ := M.run c pre
    WritesHeartbeat ft c₁ e₁ →
    M.Meets (fun c e => ¬WritesHeartbeat ft c e) (M.next c₁ e₁) mid →
    WritesHeartbeat ft (M.run (M.next c₁ e₁) mid) e₂ →
    e₁.time + secs 5 ≤ e₂.time ∧ e₂.time ≤ e₁.time + secs 5 + g

/-- After a contact at `T` followed by nothing but empty reads, every poll from
`T + max (15 s) (10 s + 2 g)` on reports the loss of the link. -/
def Detects (ft : Features) (g : ℕ) (c : Client) (envs : List PollEnv) : Prop :=
  ∀ pre e₀ mid e post, envs = pre ++ e₀ :: (mid ++ e :: post) →
    let M := pollMachine ft
    let c₀ := M.run c pre
    Contact ft c₀ e₀ → (∀ m ∈ mid, m.read = .error .wouldBlock) → e.read = .error .wouldBlock →
    e₀.time + max (secs 15) (secs 10 + 2 * g) ≤ e.time →
    M.out (M.run (M.next c₀ e₀) mid) e = .error .disconnected

/-- A poll that finds nothing to read reports the loss of the link only when
the last contact is 15 s old and two heartbeats have been written since. -/
def Justified (ft : Features) (c : Client) (envs : List PollEnv) : Prop :=
  ∀ pre e post, envs = pre ++ e :: post →
    let M := pollMachine ft
    e.read = .error .wouldBlock → M.out (M.run c pre) e = .error .disconnected →
    ∃ pre₀ e₀ mid, pre = pre₀ ++ e₀ :: mid ∧ Contact ft (M.run c pre₀) e₀ ∧
      M.Meets (fun c e => ¬Contact ft c e) (M.next (M.run c pre₀) e₀) mid ∧
      e₀.time + secs 15 ≤ e.time ∧
      heartbeatsAtContact ft (M.run c pre₀) e₀ + 2 ≤ (M.next (M.run c pre) e).heartbeats

/-! ## One instant -/

theorem secs_five_pos : 0 < secs 5 := by
  decide

theorem secs_ten : secs 10 = secs 5 + secs 5 := by
  decide

theorem secs_fifteen : secs 15 = secs 10 + secs 5 := by
  decide

/-- The unanswered counter after a heartbeat: never 0, and 1 only from 0. -/
theorem saturating_succ (n : ℕ) :
    min (n + 1) u32Max ≠ 0 ∧ (min (n + 1) u32Max = 1 → n = 0) := by
  have hmax : 1 < u32Max := by decide
  generalize u32Max = m at *
  omega

/-- A poll of an active client at instant `t`, in its timers. -/
theorem active_tick (ft : Features) {c : Client} {env : PollEnv} (hc : c.Timed)
    (hp : c.phase = .active)
    (hw : ∀ cmd, env.write cmd = .ok ()) (ht : env.clock = Clock.at env.time) :
    let c' := (pollMachine ft).next c env
    let beaten := c.timers.beat env.time env.time
    c'.Timed ∧ c'.phase = .active ∧
      ((c.receives env = none ∧ c'.timers = beaten ∧
          (env.read = .error .wouldBlock →
            ((pollMachine ft).out c env = .error .disconnected ↔ beaten.Silent env.time))) ∨
        ((c.receives env).isSome ∧ c'.timers = beaten.hear env.time ∧
          (pollMachine ft).out c env ≠ .error .disconnected)) := by
  intro c' beaten
  have hstep := poll_step ft env c
  have hreads : c'.Reads := hstep.reads ⟨hc.1, hp⟩
  refine ⟨hstep.timed hc, hreads.2, ?_⟩
  have hcases := hstep.timers hc hw
  rw [ht] at hcases
  rcases hcases with
    ⟨hconn, -⟩ | ⟨hconn, -⟩ | ⟨-, hnone, htimers, hsilent⟩ | ⟨-, hsome, htimers, hr⟩
  · simp [hp] at hconn
  · simp [hp] at hconn
  · exact .inl ⟨hnone, htimers, hsilent⟩
  · exact .inr ⟨hsome, htimers, hr⟩

/-- A poll of a client still connecting: it stays as it was in its timers, or
the identity step starts them. -/
theorem connecting_tick (ft : Features) {c : Client} {env : PollEnv} (hc : c.Timed)
    (hp : c.phase = .connecting)
    (hw : ∀ cmd, env.write cmd = .ok ()) (ht : env.clock = Clock.at env.time) :
    let c' := (pollMachine ft).next c env
    c'.Timed ∧ (pollMachine ft).out c env ≠ .error .disconnected ∧
      (c'.timers = c.timers ∨
        c'.timers = ⟨.active, env.time, env.time, 1, c.heartbeats + 1⟩) := by
  intro c'
  have hstep := poll_step ft env c
  refine ⟨hstep.timed hc, ?_⟩
  rcases hstep.timers hc hw with ⟨-, htimers, hr⟩ | ⟨-, htimers, hr⟩ | ⟨hact, -⟩ | ⟨hact, -⟩
  · exact ⟨hr, .inl htimers⟩
  · rw [identified_timers, ht] at htimers
    exact ⟨hr, .inr htimers⟩
  · simp [hp] at hact
  · simp [hp] at hact

/-- An active client writes a heartbeat exactly when 5 s have passed since the
last one, and then the instant is the last heartbeat. -/
theorem heartbeat_tick (ft : Features) {c : Client} {env : PollEnv} (hc : c.Timed)
    (hp : c.phase = .active)
    (hw : ∀ cmd, env.write cmd = .ok ()) (ht : env.clock = Clock.at env.time) :
    (secs 5 ≤ env.time - c.lastHeartbeat ∧ WritesHeartbeat ft c env ∧
        ((pollMachine ft).next c env).lastHeartbeat = env.time) ∨
      (env.time - c.lastHeartbeat < secs 5 ∧ ¬WritesHeartbeat ft c env ∧
        ((pollMachine ft).next c env).lastHeartbeat = c.lastHeartbeat) := by
  rcases active_tick ft hc hp hw ht with ⟨-, -, htick⟩
  have hbeat : ((pollMachine ft).next c env).lastHeartbeat =
        (c.timers.beat env.time env.time).lastHeartbeat ∧
      ((pollMachine ft).next c env).heartbeats =
        (c.timers.beat env.time env.time).heartbeats := by
    rcases htick with ⟨-, htimers, -⟩ | ⟨-, htimers, -⟩
    · exact ⟨congrArg Timers.lastHeartbeat htimers, congrArg Timers.heartbeats htimers⟩
    · exact ⟨congrArg Timers.lastHeartbeat htimers, congrArg Timers.heartbeats htimers⟩
  unfold WritesHeartbeat
  rw [hbeat.1, hbeat.2]
  by_cases hd : secs heartbeatSecs ≤ env.time - c.timers.lastHeartbeat
  · rw [Timers.beat_due hd]
    exact .inl ⟨hd, Nat.lt_succ_self _, rfl⟩
  · rw [Timers.beat_not_due hd]
    exact .inr ⟨Nat.lt_of_not_le hd, Nat.lt_irrefl _, rfl⟩

/-- A poll that writes a heartbeat leaves an active client, and is its last
heartbeat. -/
theorem after_heartbeat {c : Client} {env : PollEnv} (hc : c.Timed)
    (hw : ∀ cmd, env.write cmd = .ok ()) (ht : env.clock = Clock.at env.time)
    (hbeat : WritesHeartbeat ft c env) :
    let c' := (pollMachine ft).next c env
    c'.Timed ∧ c'.phase = .active ∧ c'.lastHeartbeat = env.time := by
  intro c'
  cases hp : c.phase with
  | active =>
    rcases active_tick ft hc hp hw ht with ⟨htimed, hact, -⟩
    rcases heartbeat_tick ft hc hp hw ht with ⟨-, -, hlast⟩ | ⟨-, hno, -⟩
    · exact ⟨htimed, hact, hlast⟩
    · exact absurd hbeat hno
  | connecting =>
    rcases connecting_tick ft hc hp hw ht with ⟨htimed, -, htimers | htimers⟩
    · -- nothing was written
      have hcount : c'.heartbeats = c.heartbeats := congrArg Timers.heartbeats htimers
      unfold WritesHeartbeat at hbeat
      exact absurd hcount hbeat.ne'
    · exact ⟨htimed, congrArg Timers.phase htimers, congrArg Timers.lastHeartbeat htimers⟩

/-! ## Cadence -/

/-- Polls that write no heartbeat keep the last one, and each comes less than
5 s after it; so the poll that follows them is not later than 5 s + `g`. -/
theorem quiet_polls {g T : ℕ} {e₂ : PollEnv} {mid : List PollEnv} {e : PollEnv} {c : Client}
    (hc : c.Timed) (hp : c.phase = .active) (hT : c.lastHeartbeat = T)
    (he : e.time < T + secs 5)
    (hw : ∀ m ∈ mid, ∀ cmd, m.write cmd = .ok ()) (ht : ∀ m ∈ mid, m.clock = Clock.at m.time)
    (hchain : (e :: (mid ++ [e₂])).IsChain fun a b => a.time ≤ b.time ∧ b.time ≤ a.time + g)
    (hquiet : (pollMachine ft).Meets (fun c e => ¬WritesHeartbeat ft c e) c mid) :
    let c' := (pollMachine ft).run c mid
    c'.Timed ∧ c'.phase = .active ∧ c'.lastHeartbeat = T ∧ e₂.time ≤ T + secs 5 + g := by
  -- induction on the quiet polls, `e` being the poll before the next one
  induction mid generalizing e c with
  | nil =>
    rcases List.isChain_cons_cons.1 hchain with ⟨⟨-, hgap⟩, -⟩
    exact ⟨hc, hp, hT, by omega⟩
  | cons m mid ih =>
    rcases List.isChain_cons_cons.1 hchain with ⟨-, hrest⟩
    have hwm := hw m (by simp)
    have htm := ht m (by simp)
    rcases active_tick ft hc hp hwm htm with ⟨htimed, hact, -⟩
    rcases heartbeat_tick ft hc hp hwm htm with ⟨-, hyes, -⟩ | ⟨hlt, -, hlast⟩
    · exact absurd hyes hquiet.1
    · refine ih htimed hact (hlast.trans hT) (by omega) (fun m' hm' => hw m' (by simp [hm']))
        (fun m' hm' => ht m' (by simp [hm'])) hrest hquiet.2

theorem timed_run (ft : Features) (now : ℕ) (envs : List PollEnv) :
    ((pollMachine ft).run (new now) envs).Timed :=
  (pollMachine ft).run_invariant Timed (fun c env hc => (poll_step ft env c).timed hc) envs
    (timed_new now)

theorem heartbeat_cadence (ft : Features) {g : ℕ} (now : ℕ) {envs : List PollEnv}
    (h : Schedule g envs) : Cadence ft g (new now) envs := by
  rintro pre e₁ mid e₂ post rfl M c₁ hbeat₁ hquiet hbeat₂
  have hwin := h.window
  obtain ⟨htimed, hact, hlast⟩ := after_heartbeat (timed_run ft now pre) (hwin.write e₁ (by simp))
    (hwin.instant e₁ (by simp)) hbeat₁
  have h5 := secs_five_pos
  obtain ⟨htimed', hact', hlast', hle⟩ := quiet_polls htimed hact hlast (by omega)
    (fun m hm => hwin.write m (by simp [hm])) (fun m hm => hwin.instant m (by simp [hm]))
    hwin.spaced hquiet
  -- the second heartbeat was due, so it is not early
  refine ⟨?_, hle⟩
  rcases heartbeat_tick ft htimed' hact' (hwin.write e₂ (by simp))
      (hwin.instant e₂ (by simp)) with ⟨hdue, -, -⟩ | ⟨-, hno, -⟩
  · rw [hlast'] at hdue
    omega
  · exact absurd hbeat₂ hno

/-! ## Detection -/

/-- The last heartbeat of an active client was sent at one of its polls. -/
theorem lastHeartbeat_mem (ft : Features) {g : ℕ} (now : ℕ) {envs : List PollEnv}
    (h : Schedule g envs) (hp : ((pollMachine ft).run (new now) envs).phase = .active) :
    ∃ env ∈ envs, ((pollMachine ft).run (new now) envs).lastHeartbeat = env.time := by
  -- the last poll wrote it, or it was the last one before
  induction envs using List.reverseRecOn with
  | nil => cases hp
  | append_singleton envs env ih =>
    have hrun := (pollMachine ft).run_concat (new now) envs env
    have hc := timed_run ft now envs
    have hw := h.write env (by simp)
    have ht := h.instant env (by simp)
    rw [hrun] at hp ⊢
    cases hphase : ((pollMachine ft).run (new now) envs).phase with
    | connecting =>
      rcases connecting_tick ft hc hphase hw ht with ⟨-, -, htimers | htimers⟩
      · have hsame := congrArg Timers.phase htimers
        simp [Client.timers, hp, hphase] at hsame
      · exact ⟨env, by simp, congrArg Timers.lastHeartbeat htimers⟩
    | active =>
      rcases heartbeat_tick ft hc hphase hw ht with ⟨-, -, hlast⟩ | ⟨-, -, hlast⟩
      · exact ⟨env, by simp, hlast⟩
      · rcases ih h.left hphase with ⟨env', hmem, heq⟩
        exact ⟨env', List.mem_append_left _ hmem, hlast.trans heq⟩

/-- Silence since `T`: what the timers and the time of the last poll satisfy
while every poll after `T` finds nothing to read. With no heartbeat unanswered
the last one is not later than `T`, with one it is the first after `T`. -/
structure SilentSince (T g t : ℕ) (c : Client) : Prop where
  timed : c.Timed
  active : c.phase = .active
  lastData : c.lastData = T
  recent : t < c.lastHeartbeat + secs 5
  none : c.unanswered = 0 → c.lastHeartbeat ≤ T
  one : c.unanswered = 1 → c.lastHeartbeat ≤ T + secs 5 + g

theorem silentSince_step (ft : Features) {T g t : ℕ} {c : Client} {env : PollEnv}
    (h : SilentSince T g t c) (hw : ∀ cmd, env.write cmd = .ok ())
    (ht : env.clock = Clock.at env.time)
    (hread : env.read = .error .wouldBlock) (hgap : env.time ≤ t + g) :
    SilentSince T g env.time ((pollMachine ft).next c env) ∧
      ((pollMachine ft).out c env = .error .disconnected ↔
        ((pollMachine ft).next c env).timers.Silent env.time) := by
  rcases active_tick ft h.timed h.active hw ht with ⟨htimed, hact, htick⟩
  have hnone : c.receives env = none := receives_of_error hread c
  rcases htick with ⟨-, htimers, hsilent⟩ | ⟨hsome, -⟩
  swap
  · simp [hnone] at hsome
  have hdata := congrArg Timers.lastData htimers
  have hlast := congrArg Timers.lastHeartbeat htimers
  have hunanswered := congrArg Timers.unanswered htimers
  have hrecent := h.recent
  have h5 : secs heartbeatSecs = secs 5 := rfl
  refine ⟨?_, by rw [htimers]; exact hsilent hread⟩
  generalize (pollMachine ft).next c env = c' at *
  simp only [Client.timers, Timers.beat] at hdata hlast hunanswered
  by_cases hd : secs heartbeatSecs ≤ env.time - c.lastHeartbeat
  · -- the heartbeat is due: one more is unanswered
    simp only [hd, if_true] at hdata hlast hunanswered
    have hpos := secs_five_pos
    refine ⟨htimed, hact, hdata.trans h.lastData, by omega, ?_, ?_⟩
    · intro hzero
      exact absurd (hunanswered.symm.trans hzero) (saturating_succ c.unanswered).1
    · intro hone
      have hle := h.none ((saturating_succ c.unanswered).2 (hunanswered.symm.trans hone))
      omega
  · -- no heartbeat: the counter and the last one stay
    simp only [hd, if_false] at hdata hlast hunanswered
    refine ⟨htimed, hact, hdata.trans h.lastData, by omega, ?_, ?_⟩
    · intro hzero
      rw [hlast]
      exact h.none (hunanswered.symm.trans hzero)
    · intro hone
      rw [hlast]
      exact h.one (hunanswered.symm.trans hone)

/-- A contact at `T` starts a silence. -/
theorem silentSince_contact {g now : ℕ} {pre post : List PollEnv} {e₀ : PollEnv}
    (h : Schedule g (pre ++ e₀ :: post))
    (hcontact : Contact ft ((pollMachine ft).run (new now) pre) e₀) :
    SilentSince e₀.time g e₀.time
      ((pollMachine ft).next ((pollMachine ft).run (new now) pre) e₀) := by
  have hc := timed_run ft now pre
  have hw := h.write e₀ (by simp)
  have ht := h.instant e₀ (by simp)
  have h5 := secs_five_pos
  have hlastmem := lastHeartbeat_mem ft now h.left
  generalize (pollMachine ft).run (new now) pre = c at hc hcontact hlastmem ⊢
  cases hp : c.phase with
  | connecting =>
    rcases connecting_tick ft hc hp hw ht with ⟨htimed, -, hcases⟩
    -- a connecting client reads nothing, so the contact is the identity
    have hact : ((pollMachine ft).next c e₀).phase = .active := by
      rcases hcontact with hrecv | ⟨-, hact⟩
      · rw [receives_connecting hp] at hrecv
        cases hrecv
      · exact hact
    rcases hcases with htimers | htimers
    · have hsame := congrArg Timers.phase htimers
      simp [Client.timers, hp, hact] at hsame
    · have hlast := congrArg Timers.lastHeartbeat htimers
      have hone := congrArg Timers.unanswered htimers
      generalize (pollMachine ft).next c e₀ = c' at *
      simp only [Client.timers] at hlast hone
      refine ⟨htimed, hact, congrArg Timers.lastData htimers, ?_, ?_, ?_⟩
      · omega
      · omega
      · omega
  | active =>
    rcases active_tick ft hc hp hw ht with ⟨htimed, hact, ⟨hnone, -⟩ | ⟨-, htimers, -⟩⟩
    · rcases hcontact with hrecv | ⟨hconn, -⟩
      · simp [hnone] at hrecv
      · simp [hp] at hconn
    · -- a frame: the counter is 0, and the last heartbeat is of this poll or an earlier one
      rcases hlastmem hp with ⟨env, hmem, hlast⟩
      have hle := h.time_le hmem
      have hzero := congrArg Timers.unanswered htimers
      have hdata := congrArg Timers.lastData htimers
      have hbeat := heartbeat_tick ft hc hp hw ht
      generalize (pollMachine ft).next c e₀ = c' at *
      simp only [Client.timers, Timers.hear] at hzero hdata
      refine ⟨htimed, hact, hdata, ?_, ?_, ?_⟩
      · rcases hbeat with ⟨-, -, hb⟩ | ⟨hlt, -, hb⟩ <;> omega
      · rcases hbeat with ⟨-, -, hb⟩ | ⟨hlt, -, hb⟩ <;> omega
      · omega

/-- A silence goes on over polls that find nothing to read, and the poll after
them reports the loss of the link if it is late enough. -/
theorem silent_polls {g T : ℕ} {e₂ : PollEnv} {mid : List PollEnv} {e : PollEnv} {c : Client}
    (h : SilentSince T g e.time c) (hsched : Schedule g (e :: (mid ++ [e₂])))
    (hmid : ∀ m ∈ mid, m.read = .error .wouldBlock) (he₂ : e₂.read = .error .wouldBlock)
    (hlate : T + max (secs 15) (secs 10 + 2 * g) ≤ e₂.time) :
    (pollMachine ft).out ((pollMachine ft).run c mid) e₂ = .error .disconnected := by
  induction mid generalizing e c with
  | nil =>
    rcases List.isChain_cons_cons.1 hsched.spaced with ⟨⟨-, hgap⟩, -⟩
    obtain ⟨hend, hout⟩ := silentSince_step ft h (hsched.write e₂ (by simp))
      (hsched.instant e₂ (by simp)) he₂ hgap
    refine hout.2 ⟨?_, ?_⟩
    · -- fewer than two unanswered heartbeats would put this poll earlier
      have hrecent := hend.recent
      have hnone := hend.none
      have hone := hend.one
      have h10 := secs_ten
      have h15 := secs_fifteen
      show 2 ≤ ((pollMachine ft).next c e₂).unanswered
      omega
    · show secs 15 ≤ e₂.time - ((pollMachine ft).next c e₂).lastData
      rw [hend.lastData]
      omega
  | cons m mid ih =>
    rcases List.isChain_cons_cons.1 hsched.spaced with ⟨⟨-, hgap⟩, -⟩
    obtain ⟨hnext, -⟩ := silentSince_step ft h (hsched.write m (by simp))
      (hsched.instant m (by simp)) (hmid m (by simp)) hgap
    exact ih hnext hsched.tail fun m' hm' => hmid m' (by simp [hm'])

theorem silence_detected (ft : Features) {g : ℕ} (now : ℕ) {envs : List PollEnv}
    (h : Schedule g envs) : Detects ft g (new now) envs := by
  rintro pre e₀ mid e post rfl M c₀ hcontact hmid he hlate
  exact silent_polls (silentSince_contact h hcontact) h.window hmid he hlate

/-! ## Justification -/

/-- The timers of a run against its last contact. -/
def SinceContact (ft : Features) (c₀ : Client) (envs : List PollEnv) (c : Client) : Prop :=
  ∃ pre e₀ mid, envs = pre ++ e₀ :: mid ∧ Contact ft ((pollMachine ft).run c₀ pre) e₀ ∧
    (pollMachine ft).Meets (fun c e => ¬Contact ft c e)
      ((pollMachine ft).next ((pollMachine ft).run c₀ pre) e₀) mid ∧
    c.lastData = e₀.time ∧
    heartbeatsAtContact ft ((pollMachine ft).run c₀ pre) e₀ + c.unanswered ≤ c.heartbeats

/-- A poll that is itself a contact is the last one. -/
theorem sinceContact_here {c₀ : Client} {envs : List PollEnv} {env : PollEnv}
    (hcontact : Contact ft ((pollMachine ft).run c₀ envs) env)
    (hdata : ((pollMachine ft).run c₀ (envs ++ [env])).lastData = env.time)
    (hcount : heartbeatsAtContact ft ((pollMachine ft).run c₀ envs) env +
        ((pollMachine ft).run c₀ (envs ++ [env])).unanswered ≤
      ((pollMachine ft).run c₀ (envs ++ [env])).heartbeats) :
    SinceContact ft c₀ (envs ++ [env]) ((pollMachine ft).run c₀ (envs ++ [env])) :=
  ⟨envs, env, [], rfl, hcontact, trivial, hdata, hcount⟩

/-- The heartbeat step adds as much to the unanswered count as to the
heartbeats written, or less. -/
theorem beat_count (t : Timers) (now : ℕ) :
    (t.beat now now).unanswered + t.heartbeats ≤ t.unanswered + (t.beat now now).heartbeats ∧
      (t.beat now now).lastData = t.lastData := by
  unfold Timers.beat
  split
  · have hmin := Nat.min_le_left (t.unanswered + 1) u32Max
    refine ⟨?_, rfl⟩
    show min (t.unanswered + 1) u32Max + t.heartbeats ≤ t.unanswered + (t.heartbeats + 1)
    generalize min (t.unanswered + 1) u32Max = n at *
    omega
  · exact ⟨Nat.le_refl _, rfl⟩

theorem sinceContact {g : ℕ} (now : ℕ) {envs : List PollEnv} (h : Schedule g envs)
    (hp : ((pollMachine ft).run (new now) envs).phase = .active) :
    SinceContact ft (new now) envs ((pollMachine ft).run (new now) envs) := by
  induction envs using List.reverseRecOn with
  | nil => cases hp
  | append_singleton envs env ih =>
    have hc := timed_run ft now envs
    have hw := h.write env (by simp)
    have ht := h.instant env (by simp)
    have hrun := (pollMachine ft).run_concat (new now) envs env
    cases hphase : ((pollMachine ft).run (new now) envs).phase with
    | connecting =>
      rcases connecting_tick ft hc hphase hw ht with ⟨-, -, htimers | htimers⟩
      · rw [hrun] at hp
        have hsame := congrArg Timers.phase htimers
        simp [Client.timers, hp, hphase] at hsame
      · -- the identity step is a contact, its own heartbeat the one unanswered
        refine sinceContact_here (.inr ⟨hphase, congrArg Timers.phase htimers⟩) ?_ ?_
        · rw [hrun]
          exact congrArg Timers.lastData htimers
        · rw [hrun, heartbeatsAtContact, if_pos hphase]
          have hone := congrArg Timers.unanswered htimers
          have hcount := congrArg Timers.heartbeats htimers
          simp only [Client.timers] at hone hcount
          omega
    | active =>
      obtain ⟨-, -, ⟨hnone, htimers, -⟩ | ⟨hsome, htimers, -⟩⟩ :=
        active_tick ft hc hphase hw ht
      · -- not a contact: the last one stays
        rcases ih h.left hphase with ⟨pre, e₀, mid, rfl, hcontact, hmid, hdata, hcount⟩
        have hno : ¬Contact ft ((pollMachine ft).run (new now) (pre ++ e₀ :: mid)) env := by
          rintro (hrecv | ⟨hconn, -⟩)
          · simp [hnone] at hrecv
          · simp [hphase] at hconn
        refine ⟨pre, e₀, mid ++ [env], by simp, hcontact, ?_, ?_, ?_⟩
        · refine (pollMachine ft).meets_append.2 ⟨hmid, ?_, trivial⟩
          rw [Reactive.Machine.run_append, Reactive.Machine.run_cons] at hno
          exact hno
        · rw [hrun]
          exact (congrArg Timers.lastData htimers).trans ((beat_count _ _).2.trans hdata)
        · rw [hrun]
          have hbeat := (beat_count ((pollMachine ft).run (new now) (pre ++ e₀ :: mid)).timers
            env.time).1
          rw [← htimers] at hbeat
          simp only [Client.timers] at hbeat
          omega
      · -- a frame is a contact, and nothing is unanswered after it
        refine sinceContact_here (.inl hsome) ?_ ?_
        · rw [hrun]
          exact congrArg Timers.lastData htimers
        · rw [hrun, heartbeatsAtContact, if_neg (by simp [hphase])]
          have hzero := congrArg Timers.unanswered htimers
          simp only [Client.timers, Timers.hear] at hzero
          omega

theorem loss_justified (ft : Features) {g : ℕ} (now : ℕ) {envs : List PollEnv}
    (h : Schedule g envs) : Justified ft (new now) envs := by
  rintro pre e post rfl M hread hlost
  have hc := timed_run ft now pre
  have hw := h.write e (by simp)
  have ht := h.instant e (by simp)
  cases hp : (M.run (new now) pre).phase with
  | connecting => exact absurd hlost (connecting_tick ft hc hp hw ht).2.1
  | active =>
    rcases sinceContact now h.left hp with ⟨pre₀, e₀, mid, rfl, hcontact, hmid, hdata, hcount⟩
    refine ⟨pre₀, e₀, mid, rfl, hcontact, hmid, ?_⟩
    rcases active_tick ft hc hp hw ht with ⟨-, -, ⟨-, htimers, hsilent⟩ | ⟨-, -, hno⟩⟩
    · rcases (hsilent hread).1 hlost with ⟨htwo, hlong⟩
      rcases beat_count (M.run (new now) (pre₀ ++ e₀ :: mid)).timers e.time with ⟨hbeat, hsame⟩
      have hheart := congrArg Timers.heartbeats htimers
      rw [hsame] at hlong
      -- names for the states, so that `omega` sees only their fields
      generalize ((M.run (new now) (pre₀ ++ e₀ :: mid)).timers.beat e.time e.time) = t at *
      generalize M.next (M.run (new now) (pre₀ ++ e₀ :: mid)) e = c' at *
      generalize heartbeatsAtContact ft (M.run (new now) pre₀) e₀ = base at *
      generalize M.run (new now) (pre₀ ++ e₀ :: mid) = c at *
      simp only [Client.timers] at hbeat hheart hlong
      have hpos : 0 < secs 15 := by decide
      change 2 ≤ t.unanswered at htwo
      change secs 15 ≤ e.time - c.lastData at hlong
      constructor <;> omega
    · exact absurd hlost hno

/-! ## The watchdog's timing -/

/-- Heartbeats keep their cadence, a silent link is reported in time, and no
link is reported lost before its time. -/
theorem watchdog_timing (ft : Features) (g now : ℕ) (envs : List PollEnv)
    (h : Schedule g envs) :
    Cadence ft g (new now) envs ∧ Detects ft g (new now) envs ∧ Justified ft (new now) envs :=
  ⟨heartbeat_cadence ft now h, silence_detected ft now h, loss_justified ft now h⟩

/-- Polls every 5 s that read nothing: the one 20 s after the identity reports
the loss of the link. -/
theorem watchdog_timing_silent :
    let polls : List PollEnv := [.empty (secs 5), .empty (secs 10), .empty (secs 15)]
    (pollMachine ⟨false⟩).out ((pollMachine ⟨false⟩).run (new 0) (.empty 0 :: polls))
      (.empty (secs 20)) = .error .disconnected := by
  have hsched : Schedule (secs 5) [.empty 0, .empty (secs 5), .empty (secs 10), .empty (secs 15),
      .empty (secs 20)] := by
    refine ⟨?_, ?_, ?_⟩
    · simp [PollEnv.empty]
    · simp [PollEnv.empty, PollEnv.time, Clock.at]
    · simp [PollEnv.empty, PollEnv.time, Clock.at, secs]
  have hdetects := (watchdog_timing ⟨false⟩ (secs 5) 0 _ hsched).2.1
  intro polls
  rw [Reactive.Machine.run_cons]
  exact hdetects [] (.empty 0) polls (.empty (secs 20)) [] rfl (.inr ⟨rfl, rfl⟩)
    (by simp [polls, PollEnv.empty]) rfl (by decide)

end Client

end AllSquare
