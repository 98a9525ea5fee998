import AllSquare.Btleplug.Model

/-! # Session hygiene

`ConnectStep` lists what one step of an attempt does. From it follow that no
adapter ever has two holders, that the slot keeps only adapters that can still
scan, and, for attempts one after the other, that a session is opened only when
every earlier one has been used up.
-/

namespace AllSquare

namespace Btleplug

/-! ## The steps of an attempt -/

/-- What one step does to the backend, and the attempt's next stage. -/
inductive ConnectStep (b : Backend) : Attempt → Backend → Option Attempt → Prop
  | cached (a : Adapter) (hscanner : b.scanner = some a) :
      ConnectStep b .called { b with scanner := none } (some (.waiting a))
  | empty (hscanner : b.scanner = none) : ConnectStep b .called b (some .opening)
  | opened : ConnectStep b .opening { b with opened := b.opened + 1 } (some (.waiting b.opened))
  | unopened : ConnectStep b .opening b none
  | unknown (a : Adapter) : ConnectStep b (.waiting a) b (some (.waiting a))
  | poweredOn (a : Adapter) : ConnectStep b (.waiting a) b (some (.scanning a))
  | poweredOff (a : Adapter) : ConnectStep b (.waiting a) { b with off := b.off ++ [a] } none
  | unread (a : Adapter) : ConnectStep b (.waiting a) b (some (.parking a))
  | found (a : Adapter) : ConnectStep b (.scanning a) b (some (.connecting a))
  | missed (a : Adapter) : ConnectStep b (.scanning a) b (some (.parking a))
  | linked (a : Adapter) :
      ConnectStep b (.connecting a) { b with held := b.held ++ [a] } (some (.subscribing a))
  | unlinked (a : Adapter) : ConnectStep b (.connecting a) b (some (.parking a))
  | subscribed (a : Adapter) :
      ConnectStep b (.subscribing a) { b with transports := b.transports ++ [a] } none
  | unsubscribed (a : Adapter) : ConnectStep b (.subscribing a) b none
  | parked (a : Adapter) (hscanner : b.scanner = none) :
      ConnectStep b (.parking a) { b with scanner := some a } none
  | crowded (a : Adapter) (hscanner : b.scanner.isSome) : ConnectStep b (.parking a) b none

theorem connect_step (b : Backend) (env : AttemptEnv) (x : Attempt) :
    ConnectStep b x (connect b env x).1 (connect b env x).2 := by
  cases x with
  | called =>
    unfold connect
    cases hscanner : b.scanner with
    | some a => exact .cached a hscanner
    | none => exact .empty hscanner
  | opening =>
    unfold connect
    cases env.adapter with
    | true => exact .opened
    | false => exact .unopened
  | waiting a =>
    unfold connect waitPowered Backend.note
    cases env.adapterState with
    | none => exact .unread a
    | some state =>
      cases state with
      | poweredOn => exact .poweredOn a
      | poweredOff => exact .poweredOff a
      | unknown =>
        cases env.late with
        | true => exact .poweredOn a
        | false => exact .unknown a
  | scanning a =>
    unfold connect scan
    cases env.startScan && env.found with
    | true => exact .found a
    | false => exact .missed a
  | connecting a =>
    unfold connect
    cases env.events && env.connect with
    | true => exact .linked a
    | false => exact .unlinked a
  | subscribing a =>
    unfold connect
    cases env.subscribe with
    | true => exact .subscribed a
    | false => exact .unsubscribed a
  | parking a =>
    unfold connect Backend.park
    cases hscanner : b.scanner with
    | none => exact .parked a hscanner
    | some a' => exact .crowded a (by simp [hscanner])

/-! ## The moves of a system -/

/-- What one move does to a system. -/
inductive SystemStep (s : System) : Move → System → Prop
  | call : SystemStep s .call ⟨s.backend, s.attempts ++ [.called]⟩
  | idle (i : ℕ) (env : AttemptEnv) : SystemStep s (.go i env) s
  | go (i : ℕ) (env : AttemptEnv) (before after : List Attempt) (x : Attempt) (b : Backend)
      (next : Option Attempt) (hattempts : s.attempts = before ++ x :: after)
      (hstep : ConnectStep s.backend x b next) :
      SystemStep s (.go i env) ⟨b, before ++ next.toList ++ after⟩
  | drop (i : ℕ) (transports : List Adapter) (hdrop : transports.Sublist s.backend.transports) :
      SystemStep s (.drop i) ⟨{ s.backend with transports }, s.attempts⟩

theorem system_step (s : System) (m : Move) : SystemStep s m (machine.next s m) := by
  cases m with
  | call => exact .call
  | go i env =>
    show SystemStep s (.go i env) (s.step (.go i env))
    cases hx : s.attempts[i]? with
    | none =>
      have heq : s.step (.go i env) = s := by simp only [System.step, hx]
      rw [heq]
      exact .idle i env
    | some x =>
      have heq : s.step (.go i env) = ⟨(connect s.backend env x).1,
          s.attempts.take i ++ (connect s.backend env x).2.toList ++ s.attempts.drop (i + 1)⟩ := by
        simp only [System.step, hx]
      have hattempts : s.attempts = s.attempts.take i ++ x :: s.attempts.drop (i + 1) := by
        obtain ⟨hlt, hget⟩ := List.getElem?_eq_some_iff.1 hx
        rw [← hget, List.getElem_cons_drop, List.take_append_drop]
      rw [heq]
      exact .go i env _ _ x _ _ hattempts (connect_step s.backend env x)
  | drop i => exact .drop i _ (List.eraseIdx_sublist _ i)

/-! ## Holders -/

/-- The adapter of an attempt whose link has not been established. -/
def Attempt.unused : Attempt → Option Adapter
  | .called | .opening | .subscribing _ => none
  | .waiting a | .scanning a | .connecting a | .parking a => some a

/-- The adapter of an attempt whose link has been established. -/
def Attempt.used : Attempt → Option Adapter
  | .subscribing a => some a
  | _ => none

/-- The adapters that may scan again: in the slot, or with a running attempt. -/
def System.unused (s : System) : List Adapter :=
  s.backend.scanner.toList ++ s.attempts.filterMap Attempt.unused

/-- The adapters that have held a connection: with a running attempt, or with a
live transport. -/
def System.used (s : System) : List Adapter :=
  s.attempts.filterMap Attempt.used ++ s.backend.transports

/-- The adapter of every holder: the slot, the running attempts and the live
transports. -/
def System.holders (s : System) : List Adapter := s.unused ++ s.used

section Exchange

variable (p : Adapter → Bool)

/-- How one move changes the numbers of adapters that satisfy `p`. -/
inductive Exchange (s s' : System) : Prop
  | kept (hopened : s'.backend.opened = s.backend.opened)
      (hunused : s'.unused.countP p = s.unused.countP p)
      (hused : s'.used.countP p ≤ s.used.countP p)
      (hheld : s'.backend.held.countP p = s.backend.held.countP p)
      (hoff : s'.backend.off.countP p = s.backend.off.countP p)
  | crowded (a : Adapter) (hparking : .parking a ∈ s.attempts) (hscanner : s.backend.scanner.isSome)
      (hopened : s'.backend.opened = s.backend.opened)
      (hunused : s'.unused.countP p ≤ s.unused.countP p)
      (hused : s'.used.countP p = s.used.countP p)
      (hheld : s'.backend.held.countP p = s.backend.held.countP p)
      (hoff : s'.backend.off.countP p = s.backend.off.countP p)
  | opened (hopened : s'.backend.opened = s.backend.opened + 1)
      (hunused : s'.unused.countP p = s.unused.countP p + [s.backend.opened].countP p)
      (hused : s'.used.countP p = s.used.countP p)
      (hheld : s'.backend.held.countP p = s.backend.held.countP p)
      (hoff : s'.backend.off.countP p = s.backend.off.countP p)
  | off (a : Adapter) (hopened : s'.backend.opened = s.backend.opened)
      (hunused : s'.unused.countP p + [a].countP p = s.unused.countP p)
      (hused : s'.used.countP p = s.used.countP p)
      (hheld : s'.backend.held.countP p = s.backend.held.countP p)
      (hoff : s'.backend.off.countP p = s.backend.off.countP p + [a].countP p)
  | linked (a : Adapter) (hopened : s'.backend.opened = s.backend.opened)
      (hunused : s'.unused.countP p + [a].countP p = s.unused.countP p)
      (hused : s'.used.countP p = s.used.countP p + [a].countP p)
      (hheld : s'.backend.held.countP p = s.backend.held.countP p + [a].countP p)
      (hoff : s'.backend.off.countP p = s.backend.off.countP p)

variable {p}

/-- One attempt's share and the slot's, and the rest. -/
theorem countP_unused (b : Backend) (before : List Attempt) (x : Option Attempt)
    (after : List Attempt) :
    (System.unused ⟨b, before ++ x.toList ++ after⟩).countP p =
      (System.unused ⟨b, x.toList⟩).countP p +
        ((before ++ after).filterMap Attempt.unused).countP p := by
  simp only [System.unused, List.filterMap_append, List.countP_append]
  omega

theorem countP_used (b : Backend) (before : List Attempt) (x : Option Attempt)
    (after : List Attempt) :
    (System.used ⟨b, before ++ x.toList ++ after⟩).countP p =
      (System.used ⟨b, x.toList⟩).countP p +
        ((before ++ after).filterMap Attempt.used).countP p := by
  simp only [System.used, List.filterMap_append, List.countP_append]
  omega

/-- The other attempts keep what they have. -/
theorem Exchange.frame {b b' : Backend} {x next : Option Attempt}
    (h : Exchange p ⟨b, x.toList⟩ ⟨b', next.toList⟩) (before after : List Attempt) :
    Exchange p ⟨b, before ++ x.toList ++ after⟩ ⟨b', before ++ next.toList ++ after⟩ := by
  cases h with
  | kept hopened hunused hused hheld hoff =>
    refine .kept hopened ?_ ?_ hheld hoff
    · rw [countP_unused, countP_unused, hunused]
    · rw [countP_used, countP_used]
      exact Nat.add_le_add_right hused _
  | crowded a hparking hscanner hopened hunused hused hheld hoff =>
    have hmem : .parking a ∈ before ++ x.toList ++ after :=
      List.mem_append_left _ (List.mem_append_right _ hparking)
    refine .crowded a hmem hscanner hopened ?_ ?_ hheld hoff
    · rw [countP_unused, countP_unused]
      exact Nat.add_le_add_right hunused _
    · rw [countP_used, countP_used, hused]
  | opened hopened hunused hused hheld hoff =>
    refine .opened hopened ?_ ?_ hheld hoff
    · rw [countP_unused, countP_unused, hunused, Nat.add_right_comm]
    · rw [countP_used, countP_used, hused]
  | off a hopened hunused hused hheld hoff =>
    refine .off a hopened ?_ ?_ hheld hoff
    · rw [countP_unused, countP_unused, ← hunused, Nat.add_right_comm]
    · rw [countP_used, countP_used, hused]
  | linked a hopened hunused hused hheld hoff =>
    refine .linked a hopened ?_ ?_ hheld hoff
    · rw [countP_unused, countP_unused, ← hunused, Nat.add_right_comm]
    · rw [countP_used, countP_used, hused, Nat.add_right_comm]

theorem ConnectStep.exchange {b b' : Backend} {x : Attempt} {next : Option Attempt}
    (hstep : ConnectStep b x b' next) : Exchange p ⟨b, [x]⟩ ⟨b', next.toList⟩ := by
  cases hstep with
  | cached a hscanner =>
    refine .kept rfl ?_ le_rfl rfl rfl
    show [a].countP p = (b.scanner.toList ++ []).countP p
    rw [hscanner]
    rfl
  | empty => exact .kept rfl rfl le_rfl rfl rfl
  | opened =>
    refine .opened rfl ?_ rfl rfl rfl
    show (b.scanner.toList ++ [b.opened]).countP p =
      (b.scanner.toList ++ []).countP p + [b.opened].countP p
    rw [List.append_nil, List.countP_append]
  | unopened => exact .kept rfl rfl le_rfl rfl rfl
  | unknown a => exact .kept rfl rfl le_rfl rfl rfl
  | poweredOn a => exact .kept rfl rfl le_rfl rfl rfl
  | poweredOff a =>
    refine .off a rfl ?_ rfl rfl List.countP_append
    show (b.scanner.toList ++ []).countP p + [a].countP p = (b.scanner.toList ++ [a]).countP p
    rw [List.append_nil, List.countP_append]
  | unread a => exact .kept rfl rfl le_rfl rfl rfl
  | found a => exact .kept rfl rfl le_rfl rfl rfl
  | missed a => exact .kept rfl rfl le_rfl rfl rfl
  | linked a =>
    refine .linked a rfl ?_ ?_ List.countP_append rfl
    · show (b.scanner.toList ++ []).countP p + [a].countP p = (b.scanner.toList ++ [a]).countP p
      rw [List.append_nil, List.countP_append]
    · show ([a] ++ b.transports).countP p = b.transports.countP p + [a].countP p
      rw [List.countP_append, Nat.add_comm]
  | unlinked a => exact .kept rfl rfl le_rfl rfl rfl
  | subscribed a =>
    refine .kept rfl rfl ?_ rfl rfl
    show (b.transports ++ [a]).countP p ≤ ([a] ++ b.transports).countP p
    rw [List.countP_append, List.countP_append, Nat.add_comm]
  | unsubscribed a =>
    refine .kept rfl rfl ?_ rfl rfl
    exact (List.sublist_append_right [a] b.transports).countP_le
  | parked a hscanner =>
    refine .kept rfl ?_ le_rfl rfl rfl
    show [a].countP p = (b.scanner.toList ++ [a]).countP p
    rw [hscanner]
    rfl
  | crowded a hscanner =>
    refine .crowded a List.mem_cons_self hscanner rfl ?_ rfl rfl rfl
    show (b.scanner.toList ++ []).countP p ≤ (b.scanner.toList ++ [a]).countP p
    rw [List.append_nil]
    exact (List.sublist_append_left _ _).countP_le

theorem SystemStep.exchange {s s' : System} {m : Move} (hstep : SystemStep s m s') :
    Exchange p s s' := by
  cases hstep with
  | call =>
    have hcall : Exchange p ⟨s.backend, (none : Option Attempt).toList⟩
        ⟨s.backend, (some .called : Option Attempt).toList⟩ := .kept rfl rfl le_rfl rfl rfl
    simpa using hcall.frame s.attempts []
  | idle i env => exact .kept rfl rfl le_rfl rfl rfl
  | go i env before after x b next hattempts hstep =>
    have hs : s = ⟨s.backend, before ++ (some x).toList ++ after⟩ := by
      obtain ⟨backend, attempts⟩ := s
      simpa using hattempts
    rw [hs]
    exact Exchange.frame hstep.exchange before after
  | drop i transports hdrop =>
    refine .kept rfl rfl ?_ rfl rfl
    exact (hdrop.append_left _).countP_le

end Exchange

/-! ## Each adapter has one holder -/

/-- What holds of one adapter throughout. -/
structure System.Sound (s : System) (a : Adapter) : Prop where
  once : s.unused.count a + s.used.count a ≤ 1
  /-- An adapter that has not been opened is nowhere. -/
  unopened : s.backend.opened ≤ a → s.unused.count a + s.used.count a = 0 ∧
    s.backend.held.count a = 0 ∧ s.backend.off.count a = 0
  clean : 0 < s.unused.count a → s.backend.held.count a = 0 ∧ s.backend.off.count a = 0

theorem sound_new (a : Adapter) : ({} : System).Sound a where
  once := Nat.zero_le 1
  unopened _ := ⟨rfl, rfl, rfl⟩
  clean _ := ⟨rfl, rfl⟩

theorem sound_next (s : System) (m : Move) (a : Adapter) (h : s.Sound a) :
    (machine.next s m).Sound a := by
  have hstep : Exchange (· == a) s (machine.next s m) := (system_step s m).exchange
  obtain ⟨honce, hunopened, hclean⟩ := h
  simp only [List.count] at honce hunopened hclean
  cases hstep with
  | kept hopened hunused hused hheld hoff =>
    constructor <;> simp only [List.count] <;> omega
  | crowded a' hparking hscanner hopened hunused hused hheld hoff =>
    constructor <;> simp only [List.count] <;> omega
  | opened hopened hunused hused hheld hoff =>
    by_cases ha : s.backend.opened = a
    · -- the new adapter was nowhere before
      have hnew : [s.backend.opened].countP (· == a) = 1 := by simp [ha]
      constructor <;> simp only [List.count] <;> omega
    · have hold : [s.backend.opened].countP (· == a) = 0 := by simp [ha]
      constructor <;> simp only [List.count] <;> omega
  | off a' hopened hunused hused hheld hoff =>
    -- it leaves the unused adapters as it enters the record
    constructor <;> simp only [List.count] <;> omega
  | linked a' hopened hunused hused hheld hoff =>
    constructor <;> simp only [List.count] <;> omega

/-! ## Attempts that do not overlap -/

/-- No attempt is running when one is called. -/
def NonOverlapping (s : System) : Move → Prop
  | .call => s.attempts = []
  | _ => True

/-- At most one attempt is running, and while it has passed the slot, the slot is
empty. -/
structure System.Alone (s : System) : Prop where
  one : s.attempts.length ≤ 1
  empty : ∀ x ∈ s.attempts, x ≠ .called → s.backend.scanner = none

/-- Of the only attempt: it is over, or the slot is empty. -/
theorem alone_of_option {b : Backend} {next : Option Attempt}
    (h : next = none ∨ b.scanner = none) : System.Alone ⟨b, [] ++ next.toList ++ []⟩ := by
  cases next with
  | none => exact ⟨Nat.zero_le 1, by simp⟩
  | some x =>
    rcases h with h | h
    · cases h
    · constructor
      · exact le_rfl
      · intro _ _ _
        exact h

theorem alone_next {s : System} {m : Move} (hone : NonOverlapping s m) (h : s.Alone) :
    (machine.next s m).Alone := by
  have hstep := system_step s m
  generalize machine.next s m = s' at hstep ⊢
  cases hstep with
  | call =>
    have hnil : s.attempts = [] := hone
    constructor
    · simp [hnil]
    · simp [hnil]
  | idle i env => exact h
  | go i env before after x b next hattempts hstep =>
    obtain ⟨hlen, hempty⟩ := h
    have hsum : s.attempts.length = before.length + (after.length + 1) := by simp [hattempts]
    obtain rfl : before = [] := List.length_eq_zero_iff.1 (by omega)
    obtain rfl : after = [] := List.length_eq_zero_iff.1 (by omega)
    have hx : x ≠ .called → s.backend.scanner = none := hempty x (by simp [hattempts])
    apply alone_of_option
    cases hstep with
    | cached a hscanner => exact .inr rfl
    | empty hscanner => exact .inr hscanner
    | opened => exact .inr (hx (by simp))
    | unopened => exact .inl rfl
    | unknown a => exact .inr (hx (by simp))
    | poweredOn a => exact .inr (hx (by simp))
    | poweredOff a => exact .inl rfl
    | unread a => exact .inr (hx (by simp))
    | found a => exact .inr (hx (by simp))
    | missed a => exact .inr (hx (by simp))
    | linked a => exact .inr (hx (by simp))
    | unlinked a => exact .inr (hx (by simp))
    | subscribed a => exact .inl rfl
    | unsubscribed a => exact .inl rfl
    | parked a hscanner => exact .inl rfl
    | crowded a hscanner => exact .inl rfl
  | drop i transports hdrop => exact ⟨h.one, h.empty⟩

/-- One adapter at most waits in the slot or with the running attempt. -/
theorem System.Alone.unused_le {s : System} (h : s.Alone) : s.unused.length ≤ 1 := by
  have hslot : s.backend.scanner.toList.length ≤ 1 := by cases s.backend.scanner <;> simp
  have hattempts := List.length_filterMap_le Attempt.unused s.attempts
  rw [System.unused, List.length_append]
  by_cases hempty : s.backend.scanner = none
  · have hnone : s.backend.scanner.toList.length = 0 := by simp [hempty]
    have hone := h.one
    omega
  · -- the attempt, if any, has not looked at the slot
    have hcalled : s.attempts.filterMap Attempt.unused = [] := by
      rw [List.filterMap_eq_nil_iff]
      intro x hx
      have hcall : x = .called := by_contra fun hne => hempty (h.empty x hx hne)
      rw [hcall]
      rfl
    rw [hcalled, List.length_nil]
    omega

/-- Every session opened is unused, or has ended an attempt's search for one. -/
structure System.Thrifty (s : System) : Prop where
  alone : s.Alone
  opened : s.backend.opened ≤ s.unused.length + s.backend.held.length + s.backend.off.length

theorem thrifty_new : ({} : System).Thrifty where
  alone := ⟨Nat.zero_le 1, by simp⟩
  opened := Nat.zero_le _

theorem thrifty_next {s : System} {m : Move} (hone : NonOverlapping s m) (h : s.Thrifty) :
    (machine.next s m).Thrifty := by
  have hstep : Exchange (fun _ => true) s (machine.next s m) := (system_step s m).exchange
  obtain ⟨halone, hopen⟩ := h
  refine ⟨alone_next hone halone, ?_⟩
  cases hstep with
  | kept hopened hunused hused hheld hoff =>
    simp only [List.countP_true] at hunused hheld hoff
    omega
  | crowded a hparking hscanner hopened hunused hused hheld hoff =>
    -- nobody else can have filled the slot
    have hempty := halone.empty _ hparking (by simp)
    simp [hempty] at hscanner
  | opened hopened hunused hused hheld hoff =>
    simp only [List.countP_true, List.length_singleton] at hunused hheld hoff
    omega
  | off a hopened hunused hused hheld hoff =>
    simp only [List.countP_true, List.length_singleton] at hunused hheld hoff
    omega
  | linked a hopened hunused hused hheld hoff =>
    simp only [List.countP_true, List.length_singleton] at hunused hheld hoff
    omega

/-! ## Runs -/

/-- Whatever the attempts do, in any interleaving: each adapter has one holder at
most, and one in the slot has neither held a connection nor been found powered
off. When no two attempts overlap, each session opened beyond the first is paid
for by a link established or by Bluetooth found off. -/
theorem session_hygiene (ms : List Move) :
    (machine.run {} ms).holders.Nodup ∧
      (∀ a, (machine.run {} ms).backend.scanner = some a →
        a ∉ (machine.run {} ms).backend.held ∧ a ∉ (machine.run {} ms).backend.off) ∧
      (machine.Meets NonOverlapping {} ms →
        (machine.run {} ms).backend.opened ≤
          1 + (machine.run {} ms).backend.held.length +
            (machine.run {} ms).backend.off.length) := by
  have hsound (a : Adapter) : (machine.run {} ms).Sound a :=
    machine.run_invariant (System.Sound · a) (fun s m => sound_next s m a) ms (sound_new a)
  refine ⟨?_, ?_, ?_⟩
  · rw [List.nodup_iff_count_le_one]
    intro a
    rw [System.holders, List.count_append]
    exact (hsound a).once
  · intro a hscanner
    have hmem : a ∈ (machine.run {} ms).unused := by simp [System.unused, hscanner]
    obtain ⟨hheld, hoff⟩ := (hsound a).clean (List.count_pos_iff.2 hmem)
    exact ⟨List.count_eq_zero.1 hheld, List.count_eq_zero.1 hoff⟩
  · intro hone
    have hthrifty : (machine.run {} ms).Thrifty :=
      machine.run_invariant_of_meets System.Thrifty (fun _ _ h hm => thrifty_next hm h)
        thrifty_new hone
    have hunused := hthrifty.alone.unused_le
    have hopened := hthrifty.opened
    omega

/-- A scan that misses, a connect that fails and one that succeeds, on one session. -/
theorem session_hygiene_retry :
    let absent : AttemptEnv := { found := false }
    let unreachable : AttemptEnv := { connect := false }
    let ms : List Move :=
      [.call, .go 0 {}, .go 0 {}, .go 0 {}, .go 0 absent, .go 0 {},
        .call, .go 0 {}, .go 0 {}, .go 0 {}, .go 0 unreachable, .go 0 {},
        .call, .go 0 {}, .go 0 {}, .go 0 {}, .go 0 {}, .go 0 {}]
    (machine.run {} ms).backend.opened = 1 ∧ (machine.run {} ms).backend.held.length = 1 ∧
      (machine.run {} ms).backend.opened ≤
        1 + (machine.run {} ms).backend.held.length + (machine.run {} ms).backend.off.length := by
  intro absent unreachable ms
  have hone : machine.Meets NonOverlapping {} ms := by
    simp only [ms, Reactive.Machine.meets_cons]
    refine ⟨rfl, trivial, trivial, trivial, trivial, trivial, rfl, ?_⟩
    exact ⟨trivial, trivial, trivial, trivial, trivial, rfl, trivial, trivial, trivial, trivial,
      trivial, trivial⟩
  exact ⟨by decide, by decide, (session_hygiene ms).2.2 hone⟩

end Btleplug

end AllSquare
