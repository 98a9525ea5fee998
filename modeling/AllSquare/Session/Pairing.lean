import AllSquare.Session.Model

/-! # Shots and clubs stay paired

Every shot the client reports in a session is a shot of the session: the ball of
some shot with the club of that same shot, later shots later, none twice; and
once both channels are quiet the device's last shot has been reported
(`session_shots_paired`).

The argument follows the stream of frames. A club frame says the index of the
last ball pair before it, because the device answers with its last shot
(`Stream`). So what the client knows at any moment (`Knows`) is about the index
`cur` of the last ball frame it has taken in: if it awaits a club it holds the
ball of shot `cur`, which has not been reported, and the next club frame in the
stream before the next pair is the club of shot `cur`; otherwise shot `cur` is
the last one reported.
-/

namespace AllSquare

/-! ## What has been told -/

/-- What a shot event says. -/
abbrev ShotData := BallMetrics × Option ClubMetrics

/-- The shot an event reports. -/
def shotOf : Option Event → List ShotData
  | some (.shot b m) => [(b, m)]
  | _ => []

/-- What the event for a shot of the session has to say. -/
def SessionShot.data {ft : Features} (report : ClubMetrics → Option ClubMetrics)
    (shot : SessionShot ft) : ShotData :=
  (shot.ball.ball, report shot.club.club)

namespace Session

variable {ft : Features}

/-- The shots among the outputs of a session. -/
def shotsTold (outs : List (Option Reply)) : List ShotData :=
  outs.flatMap fun o => shotOf (o.bind Reply.event)

/-- Shot `i` of the session, counting from 1. -/
def shotAt (shots : List (SessionShot ft)) : ℕ → Option (SessionShot ft)
  | 0 => none
  | i + 1 => shots[i]?

/-- The club data the device keeps after shot `i`. -/
def clubAt (shots : List (SessionShot ft)) (stale : ClubFrame ft) : ℕ → Option (ClubFrame ft)
  | 0 => some stale
  | i + 1 => shots[i]?.map SessionShot.club

/-- `t` is what the event for shot `i` says. -/
def Tells (report : ClubMetrics → Option ClubMetrics) (shots : List (SessionShot ft))
    (t : ShotData) (i : ℕ) : Prop :=
  ∃ shot, shotAt shots i = some shot ∧ t = shot.data report

/-- The events told are those of the shots of strictly increasing indices `is`. -/
structure Attributed (report : ClubMetrics → Option ClubMetrics) (shots : List (SessionShot ft))
    (told : List ShotData) (is : List ℕ) : Prop where
  increasing : is.Pairwise (· < ·)
  tells : List.Forall₂ (Tells report shots) told is

/-! ## The stream of frames -/

/-- The frames that take a client from shot `i` to shot `j`: ball pairs in
order, club frames of the last pair before them, and other frames. -/
inductive Stream (shots : List (SessionShot ft)) (stale : ClubFrame ft) :
    ℕ → List (Flight ft) → ℕ → Prop
  | nil (i : ℕ) : Stream shots stale i [] i
  | pair {i j : ℕ} {rest : List (Flight ft)} (shot : SessionShot ft)
      (h : shots[i]? = some shot) (hrest : Stream shots stale (i + 1) rest j) :
      Stream shots stale i (.ball (i + 1) shot.ball :: .ball (i + 1) shot.ball :: rest) j
  | club {i j : ℕ} {rest : List (Flight ft)} (f : ClubFrame ft)
      (h : clubAt shots stale i = some f) (hrest : Stream shots stale i rest j) :
      Stream shots stale i (.club i f :: rest) j
  | other {i j : ℕ} {rest : List (Flight ft)} (f : OtherFrame ft)
      (hrest : Stream shots stale i rest j) : Stream shots stale i (.other f :: rest) j

theorem Stream.append {shots : List (SessionShot ft)} {stale : ClubFrame ft} {i j k : ℕ}
    {l l' : List (Flight ft)} (h : Stream shots stale i l j) (h' : Stream shots stale j l' k) :
    Stream shots stale i (l ++ l') k := by
  induction h with
  | nil => exact h'
  | pair shot hs _ ih => exact .pair shot hs (ih h')
  | club f hf _ ih => exact .club f hf (ih h')
  | other f _ ih => exact .other f (ih h')

theorem shotAt_append {shots : List (SessionShot ft)} {i : ℕ} {shot new : SessionShot ft}
    (h : shotAt shots i = some shot) : shotAt (shots ++ [new]) i = some shot := by
  cases i with
  | zero => cases h
  | succ i => exact (List.getElem?_append_left (List.getElem?_eq_some_iff.1 h).1).trans h

theorem clubAt_append {shots : List (SessionShot ft)} {stale : ClubFrame ft} {i : ℕ}
    {f : ClubFrame ft} {new : SessionShot ft} (h : clubAt shots stale i = some f) :
    clubAt (shots ++ [new]) stale i = some f := by
  cases i with
  | zero => exact h
  | succ i =>
    rcases Option.map_eq_some_iff.1 h with ⟨shot, hs, rfl⟩
    have hs' : (shots ++ [new])[i]? = some shot := shotAt_append (i := i + 1) hs
    simp [clubAt, hs']

/-- A shot leaves what was in the stream before it valid. -/
theorem Stream.shot {shots : List (SessionShot ft)} {stale : ClubFrame ft} {i j : ℕ}
    {l : List (Flight ft)} (h : Stream shots stale i l j) (new : SessionShot ft) :
    Stream (shots ++ [new]) stale i l j := by
  induction h with
  | nil => exact .nil _
  | pair shot hs _ ih => exact .pair shot (shotAt_append (i := _ + 1) hs) ih
  | club f hf _ ih => exact .club f (clubAt_append hf) ih
  | other f _ ih => exact .other f ih

/-! ## What the client knows -/

/-- The client's memory against the index `cur` of the last ball frame it has
taken in and the indices `is` of the shots reported. -/
structure Knows (shots : List (SessionShot ft)) (cur : ℕ) (is : List ℕ) (lastRx : List UInt8)
    (t : Tracker) : Prop where
  paired : t.Paired
  le : ∀ i ∈ is, i ≤ cur
  /-- While it awaits a club it holds the ball of shot `cur`, not yet reported. -/
  held : t.awaiting = true →
    (∃ shot, shotAt shots cur = some shot ∧ t.pending = some shot.ball.ball) ∧ ∀ i ∈ is, i < cur
  /-- Otherwise shot `cur` is the last one reported. -/
  free : t.awaiting = false → cur ≠ 0 → is.getLast? = some cur
  /-- A ball frame just taken in is held. -/
  ball : ∀ b, parse ft lastRx = .ok (.ball b) → t.awaiting = true ∧ t.pending = some b
  /-- After a club frame nothing is awaited. -/
  club : ∀ m, parse ft lastRx = .ok (.club m) → t.awaiting = false

theorem knows_init : @Knows ft [] 0 [] [] Tracker.fresh where
  paired := rfl
  le := by simp
  held := nofun
  free := fun _ h => absurd rfl h
  ball := fun b hb => by cases hb
  club := fun m hm => by cases hm

theorem Knows.shot {shots : List (SessionShot ft)} {cur : ℕ} {is : List ℕ} {lastRx : List UInt8}
    {t : Tracker} (h : Knows shots cur is lastRx t) (new : SessionShot ft) :
    Knows (shots ++ [new]) cur is lastRx t where
  paired := h.paired
  le := h.le
  held := fun ha => by
    rcases h.held ha with ⟨⟨shot, hshot, hp⟩, hlt⟩
    exact ⟨⟨shot, shotAt_append hshot, hp⟩, hlt⟩
  free := h.free
  ball := h.ball
  club := h.club

/-- The frames ahead of a client that has taken in ball frames up to shot `cur`:
a stream, or what is left of it after the first frame of a pair. -/
inductive Ahead (shots : List (SessionShot ft)) (stale : ClubFrame ft) (cur : ℕ)
    (lastRx : List UInt8) : List (Flight ft) → ℕ → Prop
  | stream {l : List (Flight ft)} {j : ℕ} (h : Stream shots stale cur l j) :
      Ahead shots stale cur lastRx l j
  | second {l : List (Flight ft)} {j : ℕ} (f : BallFrame ft) (hlast : lastRx = f.payload.bytes)
      (h : Stream shots stale cur l j) : Ahead shots stale cur lastRx (.ball cur f :: l) j

theorem Ahead.append {shots : List (SessionShot ft)} {stale : ClubFrame ft} {cur j k : ℕ}
    {lastRx : List UInt8} {l l' : List (Flight ft)} (h : Ahead shots stale cur lastRx l j)
    (h' : Stream shots stale j l' k) : Ahead shots stale cur lastRx (l ++ l') k := by
  cases h with
  | stream h => exact .stream (h.append h')
  | second f hlast h => exact .second f hlast (h.append h')

theorem Ahead.shot {shots : List (SessionShot ft)} {stale : ClubFrame ft} {cur j : ℕ}
    {lastRx : List UInt8} {l : List (Flight ft)} (h : Ahead shots stale cur lastRx l j)
    (new : SessionShot ft) : Ahead (shots ++ [new]) stale cur lastRx l j := by
  cases h with
  | stream h => exact .stream (h.shot new)
  | second f hlast h => exact .second f hlast (h.shot new)

/-! ## One frame taken in -/

section Taking

variable {report : ClubMetrics → Option ClubMetrics} {shots : List (SessionShot ft)}
  {stale : ClubFrame ft} {cur : ℕ} {is : List ℕ} {r : Receiver}

/-- A ball frame, dropped as a duplicate or not, is held afterwards. -/
theorem Knows.take_ball (h : Knows shots cur is r.lastRx r.tracker) {shot : SessionShot ft}
    (hshot : shots[cur]? = some shot) :
    Knows shots (cur + 1) is (Receiver.take ft report r shot.ball.payload.bytes).1.lastRx
        (Receiver.take ft report r shot.ball.payload.bytes).1.tracker ∧
      (Receiver.take ft report r shot.ball.payload.bytes).2 = none := by
  have hparse := shot.ball.parses
  obtain ⟨ha, hp, hpaired, hev⟩ :
      (Receiver.take ft report r shot.ball.payload.bytes).1.tracker.awaiting = true ∧
      (Receiver.take ft report r shot.ball.payload.bytes).1.tracker.pending =
        some shot.ball.ball ∧
      (Receiver.take ft report r shot.ball.payload.bytes).1.tracker.Paired ∧
      (Receiver.take ft report r shot.ball.payload.bytes).2 = none := by
    -- a duplicate of the last frame is itself a ball frame, so its ball is held already
    by_cases hdup : r.lastRx = shot.ball.payload.bytes
    · rw [Receiver.take_repeat hdup]
      rcases h.ball _ (hdup ▸ hparse) with ⟨ha, hp⟩
      exact ⟨ha, hp, h.paired, rfl⟩
    · rw [Receiver.take_accepted (Ne.symm hdup) hparse]
      exact ⟨rfl, rfl, rfl, rfl⟩
  rw [Receiver.take_lastRx]
  refine ⟨⟨hpaired, fun i hi => Nat.le_succ_of_le (h.le i hi), fun _ => ?_, ?_, ?_, ?_⟩, hev⟩
  · exact ⟨⟨shot, hshot, hp⟩, fun i hi => Nat.lt_succ_of_le (h.le i hi)⟩
  · simp [ha]
  · intro b hb
    cases hparse.symm.trans hb
    exact ⟨ha, hp⟩
  · intro m hm
    cases hparse.symm.trans hm

/-- A club frame completes the shot held, if one is; nothing is awaited after. -/
theorem Knows.take_club (h : Knows shots cur is r.lastRx r.tracker) {f : ClubFrame ft}
    (hf : clubAt shots stale cur = some f) (hinc : is.Pairwise (· < ·)) :
    ∃ new, Knows shots cur (is ++ new) (Receiver.take ft report r f.payload.bytes).1.lastRx
        (Receiver.take ft report r f.payload.bytes).1.tracker ∧
      List.Forall₂ (Tells report shots)
        (shotOf (Receiver.take ft report r f.payload.bytes).2) new ∧
      (is ++ new).Pairwise (· < ·) ∧
      (Receiver.take ft report r f.payload.bytes).1.tracker.awaiting = false := by
  have hparse := f.parses
  have hnotball {b : BallMetrics} (hb : parse ft f.payload.bytes = .ok (.ball b)) : False := by
    cases hparse.symm.trans hb
  -- a duplicate of the last frame is itself a club frame: nothing is awaited
  by_cases hdup : r.lastRx = f.payload.bytes
  · rw [Receiver.take_repeat hdup]
    refine ⟨[], ?_, .nil, ?_, h.club _ (hdup ▸ hparse)⟩
    · rwa [List.append_nil]
    · rwa [List.append_nil]
  · rw [Receiver.take_accepted (Ne.symm hdup) hparse]
    cases ha : r.tracker.awaiting with
    | false =>
      -- nothing is held: the second answer to a request, or one from before the session
      have hhear : r.tracker.hear report (.club f.club) = (r.tracker, none) := by
        simp [Tracker.hear, ha]
      rw [hhear]
      refine ⟨[], ?_, .nil, ?_, ha⟩
      · rw [List.append_nil]
        exact ⟨h.paired, h.le, h.held, h.free, fun b hb => (hnotball hb).elim, fun _ _ => ha⟩
      · rwa [List.append_nil]
    | true =>
      -- the shot held is shot `cur`, and the device answered with its club
      rcases h.held ha with ⟨⟨shot, hshot, hp⟩, hlt⟩
      have hclub : f = shot.club := by
        cases cur with
        | zero => cases hshot
        | succ i =>
          have hshot' : shots[i]? = some shot := hshot
          simp only [clubAt, hshot', Option.map_some, Option.some.injEq] at hf
          exact hf.symm
      have hhear : r.tracker.hear report (.club f.club) =
          ({ r.tracker with pending := none, awaiting := false },
            some (.shot shot.ball.ball (report f.club))) := by
        simp [Tracker.hear, ha, hp]
      rw [hhear]
      refine ⟨[cur], ?_, ?_, ?_, rfl⟩
      · refine ⟨rfl, ?_, fun h => (Bool.false_ne_true h).elim, fun _ _ => by simp,
          fun b hb => (hnotball hb).elim, fun _ _ => rfl⟩
        intro i hi
        rcases List.mem_append.1 hi with hi | hi
        · exact h.le i hi
        · exact (List.mem_singleton.1 hi).le
      · exact .cons ⟨shot, hshot, by rw [hclub]; rfl⟩ .nil
      · exact List.pairwise_append.2
          ⟨hinc, List.pairwise_singleton _ _, fun i hi k hk => List.mem_singleton.1 hk ▸ hlt i hi⟩

/-- Any other frame leaves what the client knows as it was. -/
theorem Knows.take_other (h : Knows shots cur is r.lastRx r.tracker) (f : OtherFrame ft) :
    Knows shots cur is (Receiver.take ft report r f.payload.bytes).1.lastRx
        (Receiver.take ft report r f.payload.bytes).1.tracker ∧
      shotOf (Receiver.take ft report r f.payload.bytes).2 = [] := by
  by_cases hdup : r.lastRx = f.payload.bytes
  · rw [Receiver.take_repeat hdup]
    exact ⟨h, rfl⟩
  · have hkeep {t : Tracker} (hp : t.pending = r.tracker.pending)
        (ha : t.awaiting = r.tracker.awaiting) : Knows shots cur is f.payload.bytes t := by
      refine ⟨?_, h.le, ?_, ?_, fun b hb => (f.not_ball b hb).elim,
        fun m hm => (f.not_club m hm).elim⟩
      · unfold Tracker.Paired
        rw [hp, ha]
        exact h.paired
      · rw [hp, ha]
        exact h.held
      · rw [ha]
        exact h.free
    cases hparse : parse ft f.payload.bytes with
    | error e =>
      rw [Receiver.take_malformed (Ne.symm hdup) hparse]
      exact ⟨hkeep rfl rfl, rfl⟩
    | ok n =>
      rw [Receiver.take_accepted (Ne.symm hdup) hparse]
      cases n with
      | ball b => exact (f.not_ball b hparse).elim
      | club m => exact (f.not_club m hparse).elim
      | heartbeatAck s =>
        simp only [Tracker.hear]
        split
        · exact ⟨hkeep rfl rfl, rfl⟩
        · exact ⟨hkeep rfl rfl, rfl⟩
      | sensor _ | alignment _ | queryResponse _ | battery _ _ | clock _ =>
        exact ⟨hkeep rfl rfl, rfl⟩

def Flight.IsClub : Flight ft → Prop
  | .club _ _ => True
  | _ => False

/-- Taking in the frame ahead keeps what the client knows about the rest. -/
theorem Ahead.take (report : ClubMetrics → Option ClubMetrics) {fl : Flight ft}
    {rest : List (Flight ft)} {j : ℕ}
    (ha : Ahead shots stale cur r.lastRx (fl :: rest) j)
    (hk : Knows shots cur is r.lastRx r.tracker) (hinc : is.Pairwise (· < ·)) :
    ∃ cur' new,
      Ahead shots stale cur' (Receiver.take ft report r fl.payload.bytes).1.lastRx rest j ∧
      Knows shots cur' (is ++ new) (Receiver.take ft report r fl.payload.bytes).1.lastRx
        (Receiver.take ft report r fl.payload.bytes).1.tracker ∧
      List.Forall₂ (Tells report shots)
        (shotOf (Receiver.take ft report r fl.payload.bytes).2) new ∧
      (is ++ new).Pairwise (· < ·) ∧
      (Flight.IsClub fl →
        (Receiver.take ft report r fl.payload.bytes).1.tracker.awaiting = false) := by
  cases ha with
  | second f hlast hrest =>
    -- the second frame of a pair right after its first is dropped
    have htake : Receiver.take ft report r (Flight.ball cur f).payload.bytes = (r, none) :=
      Receiver.take_repeat hlast
    rw [htake]
    refine ⟨cur, [], .stream hrest, ?_, .nil, ?_, False.elim⟩
    · rwa [List.append_nil]
    · rwa [List.append_nil]
  | stream hs =>
    cases hs with
    | pair shot hshot hrest =>
      rcases Knows.take_ball hk hshot with ⟨hk', hev⟩
      -- the first frame of the next pair: the client moves on to that shot, and the one
      -- before it, if held, is never reported
      refine ⟨cur + 1, [], ?_, ?_, ?_, ?_, False.elim⟩
      · exact .second _ (Receiver.take_lastRx _ _) hrest
      · rwa [List.append_nil]
      · show List.Forall₂ _ (shotOf (Receiver.take ft report r shot.ball.payload.bytes).2) []
        rw [hev]
        exact .nil
      · rwa [List.append_nil]
    | club f hf hrest =>
      rcases Knows.take_club hk hf hinc with ⟨new, hk', htells, hinc', hfree⟩
      exact ⟨cur, new, .stream hrest, hk', htells, hinc', fun _ => hfree⟩
    | other f hrest =>
      rcases Knows.take_other hk f with ⟨hk', hev⟩
      refine ⟨cur, [], .stream hrest, ?_, ?_, ?_, False.elim⟩
      · rwa [List.append_nil]
      · show List.Forall₂ _ (shotOf (Receiver.take ft report r f.payload.bytes).2) []
        rw [hev]
        exact .nil
      · rwa [List.append_nil]

end Taking

end Session

/-! ## Requests -/

namespace Client

variable {ft : Features}

/-- The client has handed more frames to the transport, a metrics request among
them if it awaits a club and did not before. -/
def Asked (c c' : Client) : Prop :=
  ∃ sent, c'.written = c.written ++ sent ∧
    (c'.tracker.awaiting = true → c.tracker.awaiting = true ∨ ∃ w ∈ sent, w.IsRequest)

theorem asked_wrote {c c' : Client} {cmd : Command} {ok : Bool}
    (hw : c'.written = (c.wrote cmd ok).written) (ha : c'.awaitingClub = c.awaitingClub) :
    c.Asked c' :=
  ⟨_, hw, fun h => .inl (ha.symm.trans h)⟩

theorem asked_of_eq {c c' : Client} (hw : c'.written = c.written)
    (ha : c'.awaitingClub = true → c.awaitingClub = true) : c.Asked c' :=
  ⟨[], hw.trans (List.append_nil _).symm, fun h => .inl (ha h)⟩

theorem Asked.trans {a b c : Client} (h : a.Asked b) (h' : b.Asked c) : a.Asked c := by
  rcases h with ⟨sent, hw, ha⟩
  rcases h' with ⟨sent', hw', ha'⟩
  refine ⟨sent ++ sent', by rw [hw', hw, List.append_assoc], ?_⟩
  intro hc
  rcases ha' hc with hb | ⟨w, hw, hr⟩
  · rcases ha hb with haw | ⟨w, hw, hr⟩
    · exact .inl haw
    · exact .inr ⟨w, List.mem_append_left _ hw, hr⟩
  · exact .inr ⟨w, List.mem_append_right _ hw, hr⟩

theorem beaten_asked (c : Client) (env : PollEnv) : c.Asked (c.beaten env) := by
  unfold beaten
  split
  · exact asked_wrote rfl rfl
  · exact asked_of_eq rfl id

theorem HandleStep.asked {write : Command → IoResult Unit} {c c' : Client} {n : Notification}
    {r : Reply} (h : HandleStep ft write c n c' r) : c.Asked c' := by
  cases h with
  | ball b hw | ballFailed b e hw =>
    exact ⟨_, rfl, fun _ => .inr ⟨_, List.mem_singleton_self _, isRequest_encode_iff.2 rfl⟩⟩
  | strayClub | shot => exact asked_of_eq rfl nofun
  | staleClub | sameState | newState | passed | query => exact asked_of_eq rfl id

theorem IdentityFailed.asked {c c' : Client} {env : PollEnv} {e : IoError}
    (h : IdentityFailed c env c' e) : c.Asked c' := by
  cases h with
  | characteristic u e hr => exact asked_of_eq rfl id
  | query e hw => exact asked_wrote rfl rfl
  | heartbeat e hq hw => exact (asked_wrote rfl rfl).trans (asked_wrote rfl rfl)

/-- A poll that comes to await a club has written a request. -/
theorem PollStep.asked {c c' : Client} {env : PollEnv} {r : Reply}
    (h : PollStep ft c env c' r) : c.Asked c' := by
  cases h with
  | queued => exact asked_of_eq rfl id
  | identified => exact (asked_wrote rfl rfl).trans (asked_wrote rfl rfl)
  | unidentified _ e _ hp hf => exact hf.asked
  | beatFailed => exact asked_wrote rfl rfl
  | readFailed | closed | silent | idle => exact beaten_asked c env
  | duplicate | malformed => exact (beaten_asked c env).trans (asked_of_eq rfl id)
  | accepted p n _ _ hr hb hread hnew hparse hstep =>
    exact ((beaten_asked c env).trans (asked_of_eq rfl id)).trans hstep.asked

/-- A poll that does not read takes in nothing. -/
theorem PollStep.receiver_of_not_reads {c c' : Client} {env : PollEnv} {r : Reply}
    (h : PollStep ft c env c' r) (hq : c.queue = []) (hr : ¬c.Reads) :
    c'.lastRx = c.lastRx ∧ c'.tracker = c.tracker ∧ shotOf r.event = [] := by
  cases h with
  | queued ev rest hq' => simp [hq] at hq'
  | identified => exact ⟨rfl, rfl, rfl⟩
  | unidentified _ e _ hp hf => cases hf <;> exact ⟨rfl, rfl, rfl⟩
  | beatFailed _ h | readFailed _ h | closed _ h | silent h | idle h | duplicate _ h
  | malformed _ _ h | accepted _ _ _ _ h => exact absurd h hr

end Client

namespace Session

variable {ft : Features}

/-! ## The invariant of a session -/

/-- The invariant: `told` is what has been reported so far. -/
structure Inv (report : ClubMetrics → Option ClubMetrics) (s : Session ft)
    (told : List ShotData) (cur : ℕ) (is : List ℕ) : Prop where
  queue : s.client.queue = []
  reported : s.client.reported ft = report
  served_le : s.served ≤ s.client.written.length
  attributed : Attributed report s.shots told is
  knows : Knows s.shots cur is s.client.lastRx s.client.tracker
  ahead : Ahead s.shots s.stale cur s.client.lastRx s.inbox s.shots.length
  /-- While a club is awaited, the request or its answer is under way. -/
  asked : s.client.tracker.awaiting = true →
    (∃ w ∈ s.commandsInFlight, w.IsRequest) ∨ ∃ fl ∈ s.inbox, Flight.IsClub fl

theorem inv_init (now : ℕ) (stale : ClubFrame ft) :
    Inv ((Client.new now).reported ft) (init now stale) [] 0 [] where
  queue := rfl
  reported := rfl
  served_le := Nat.le_refl 0
  attributed := ⟨List.Pairwise.nil, .nil⟩
  knows := knows_init
  ahead := .stream (.nil 0)
  asked := nofun

section Steps

variable {report : ClubMetrics → Option ClubMetrics} {s : Session ft} {told : List ShotData}
  {cur : ℕ} {is : List ℕ}

/-- What is under way stays so when the device sends more. -/
theorem Inv.asked_append (h : Inv report s told cur is) (more : List (Flight ft))
    (ha : s.client.tracker.awaiting = true) :
    (∃ w ∈ s.commandsInFlight, w.IsRequest) ∨ ∃ fl ∈ s.inbox ++ more, Flight.IsClub fl := by
  rcases h.asked ha with hreq | ⟨fl, hfl, hclub⟩
  · exact .inl hreq
  · exact .inr ⟨fl, List.mem_append_left more hfl, hclub⟩

theorem Inv.shot (h : Inv report s told cur is) (shot : SessionShot ft) :
    Inv report (step ft s (.shot shot)).1 told cur is where
  queue := h.queue
  reported := h.reported
  served_le := h.served_le
  attributed := by
    refine ⟨h.attributed.increasing, h.attributed.tells.imp fun t i ⟨old, hold, ht⟩ => ?_⟩
    exact ⟨old, shotAt_append hold, ht⟩
  knows := h.knows.shot shot
  ahead := by
    have hnew : (s.shots ++ [shot])[s.shots.length]? = some shot := List.getElem?_concat_length
    have hlen : (s.shots ++ [shot]).length = s.shots.length + 1 := by simp
    refine (h.ahead.shot shot).append (.pair shot hnew ?_)
    show Stream _ _ _ _ (s.shots ++ [shot]).length
    rw [hlen]
    exact .nil _
  asked := h.asked_append _

theorem Inv.emit (h : Inv report s told cur is) (f : OtherFrame ft) :
    Inv report (step ft s (.emit f)).1 told cur is where
  queue := h.queue
  reported := h.reported
  served_le := h.served_le
  attributed := h.attributed
  knows := h.knows
  ahead := h.ahead.append (.other f (.nil _))
  asked := h.asked_append _

/-- The club data the device keeps is that of its last shot. -/
theorem clubAt_length (s : Session ft) :
    clubAt s.shots s.stale s.shots.length = some s.lastClub := by
  unfold lastClub
  cases hlast : s.shots.getLast? with
  | none =>
    rw [List.getLast?_eq_none_iff.1 hlast]
    rfl
  | some shot =>
    rcases List.getLast?_eq_some_iff.1 hlast with ⟨ys, hys⟩
    rw [hys]
    simp [clubAt]

theorem Inv.serve (h : Inv report s told cur is) :
    Inv report (step ft s .serve).1 told cur is := by
  unfold step
  cases hflight : s.commandsInFlight with
  | nil => exact h
  | cons w rest =>
    have hdrop : s.client.written.drop s.served = w :: rest := hflight
    have hrest : s.client.written.drop (s.served + 1) = rest := by
      rw [← List.tail_drop, hdrop, List.tail_cons]
    refine ⟨h.queue, h.reported, ?_, h.attributed, h.knows, h.ahead.append ?_, fun ha => ?_⟩
    · have hlen := congrArg List.length hdrop
      rw [List.length_drop, List.length_cons] at hlen
      show s.served + 1 ≤ s.client.written.length
      omega
    · unfold answer
      split
      -- the answer is two club frames of the last shot, which is where the stream ends
      · exact .club _ (clubAt_length s) (.club _ (clubAt_length s) (.nil _))
      · exact .nil _
    · rcases h.asked ha with ⟨w', hw', hreq⟩ | ⟨fl, hfl, hclub⟩
      · rw [hflight] at hw'
        rcases List.mem_cons.1 hw' with rfl | hw'
        · -- the request is answered
          have hmem : Flight.club s.shots.length s.lastClub ∈ s.answer w' := by
            simp [answer, hreq]
          exact .inr ⟨_, List.mem_append_right _ hmem, trivial⟩
        · exact .inl ⟨w', (hrest ▸ hw' : w' ∈ s.client.written.drop (s.served + 1)), hreq⟩
      · exact .inr ⟨fl, List.mem_append_left _ hfl, hclub⟩

theorem env_listening (s : Session ft) (arrived : Bool) (clock : Clock)
    (characteristic : Uuid → IoResult (List UInt8)) (hint : Option Text) :
    (s.env arrived clock characteristic hint).Listening := by
  refine ⟨fun _ => rfl, ?_⟩
  cases arrived with
  | false => exact .inl rfl
  | true =>
    cases hin : s.inbox with
    | nil => exact .inl (by simp [env, hin])
    | cons fl rest =>
      refine .inr ⟨fl.payload, by simp [env, hin], ?_⟩
      cases fl with
      | ball i f => exact Client.ne_nil_of_parse f.parses
      | club i f => exact Client.ne_nil_of_parse f.parses
      | other f => exact f.ne_nil

/-- A poll reads the first frame of the inbox or nothing. -/
theorem env_frame (s : Session ft) (arrived : Bool) (clock : Clock)
    (characteristic : Uuid → IoResult (List UInt8)) (hint : Option Text) :
    ((s.env arrived clock characteristic hint).frame = none ∧
      (if arrived then s.inbox.tail else s.inbox) = s.inbox) ∨
    ∃ fl rest, arrived = true ∧ s.inbox = fl :: rest ∧
      (s.env arrived clock characteristic hint).frame = some fl.payload.bytes := by
  cases arrived with
  | false => exact .inl ⟨rfl, rfl⟩
  | true =>
    cases hin : s.inbox with
    | nil => exact .inl ⟨by simp [PollEnv.frame, env, hin], rfl⟩
    | cons fl rest => exact .inr ⟨fl, rest, rfl, rfl, by simp [PollEnv.frame, env, hin]⟩

/-- What is asked for stays under way when the client moves on and the inbox
loses only club frames that were taken in. -/
theorem Inv.asked_of (h : Inv report s told cur is) {c' : Client} (hc : s.client.Asked c')
    {inbox : List (Flight ft)} (hin : ∀ fl ∈ s.inbox, Flight.IsClub fl →
      c'.tracker.awaiting = true → fl ∈ inbox) (ha : c'.tracker.awaiting = true) :
    (∃ w ∈ c'.written.drop s.served, w.IsRequest) ∨ ∃ fl ∈ inbox, Flight.IsClub fl := by
  rcases hc with ⟨sent, hw, hasked⟩
  rw [hw, List.drop_append_of_le_length h.served_le]
  rcases hasked ha with hbefore | ⟨w, hsent, hreq⟩
  · rcases h.asked hbefore with ⟨w, hflight, hreq⟩ | ⟨fl, hfl, hclub⟩
    · exact .inl ⟨w, List.mem_append_left _ hflight, hreq⟩
    · exact .inr ⟨fl, hin fl hfl hclub ha, hclub⟩
  · exact .inl ⟨w, List.mem_append_right _ hsent, hreq⟩

/-- The indices of the shots a poll reports come after those reported before. -/
theorem Inv.poll_append (h : Inv report s told cur is) (arrived : Bool) (clock : Clock)
    (characteristic : Uuid → IoResult (List UInt8)) (hint : Option Text) :
    let out := Session.step ft s (.poll arrived clock characteristic hint)
    ∃ cur' new, Inv report out.1 (told ++ shotOf (out.2.bind Reply.event)) cur' (is ++ new) ∧
      List.Forall₂ (Tells report s.shots) (shotOf (out.2.bind Reply.event)) new := by
  have hpoll := Client.poll_step ft (s.env arrived clock characteristic hint) s.client
  simp only [Session.step]
  generalize ((Client.poll ft (s.env arrived clock characteristic hint)).exec s.client) = out
    at hpoll ⊢
  rcases out with ⟨c', r⟩
  have hqueue : c'.queue = [] := hpoll.queue h.queue
  have hreported : c'.reported ft = report :=
    (funext (Client.reported_congr hpoll.config)).trans h.reported
  have hserved : s.served ≤ c'.written.length := by
    rcases hpoll.asked with ⟨sent, hw, -⟩
    rw [hw, List.length_append]
    exact Nat.le_add_right_of_le h.served_le
  by_cases hr : s.client.Reads
  · simp only [Option.bind_some, hr, and_true]
    rcases env_frame s arrived clock characteristic hint with
      ⟨hnone, hinbox⟩ | ⟨fl, rest, rfl, hin, hframe⟩
    · -- nothing is read
      rw [hinbox]
      rcases hpoll.receiver hr (env_listening s arrived clock characteristic hint) with
        ⟨-, hrecv, hev⟩ | ⟨data, hdata, -⟩
      · have hrx : c'.lastRx = s.client.lastRx := congrArg Receiver.lastRx hrecv
        have htracker : c'.tracker = s.client.tracker := congrArg Receiver.tracker hrecv
        rw [hev]
        refine ⟨cur, [], ?_, .nil⟩
        rw [List.append_nil]
        refine ⟨hqueue, hreported, hserved, ?_, ?_, ?_, ?_⟩
        · simpa [shotOf] using h.attributed
        · simpa [hrx, htracker] using h.knows
        · simpa [hrx] using h.ahead
        · exact h.asked_of hpoll.asked fun fl hfl _ _ => hfl
      · simp [hnone] at hdata
    · -- the first frame is taken in
      rw [if_pos rfl, hin, List.tail_cons]
      rcases hpoll.receiver hr (env_listening s true clock characteristic hint) with
        ⟨hnone, -, -⟩ | ⟨data, hdata, htake⟩
      · simp [hframe] at hnone
      · obtain rfl : fl.payload.bytes = data := Option.some.inj (hframe.symm.trans hdata)
        rw [h.reported] at htake
        obtain ⟨cur', new, hahead, hknows, htells, hinc, hfree⟩ :=
          Ahead.take report (r := s.client.receiver) (hin ▸ h.ahead) h.knows
            h.attributed.increasing
        rw [← htake] at hahead hknows htells hfree
        refine ⟨cur', new, ⟨hqueue, hreported, hserved, ⟨hinc, ?_⟩, hknows, hahead, ?_⟩, htells⟩
        · exact List.rel_append h.attributed.tells htells
        · apply h.asked_of hpoll.asked
          intro fl' hfl' hclub ha
          rw [hin] at hfl'
          -- taking in a club frame ends the waiting, so what is asked for is behind it
          rcases List.mem_cons.1 hfl' with rfl | hfl'
          · have hfalse : c'.tracker.awaiting = false := hfree hclub
            rw [ha] at hfalse
            cases hfalse
          · exact hfl'
  · -- the identity step
    simp only [Option.bind_some, hr, and_false, if_false]
    rcases hpoll.receiver_of_not_reads h.queue hr with ⟨hrx, htracker, hev⟩
    rw [hev, List.append_nil]
    refine ⟨cur, [], ?_, .nil⟩
    rw [List.append_nil]
    refine ⟨hqueue, hreported, hserved, h.attributed, ?_, ?_, ?_⟩
    · rw [hrx, htracker]
      exact h.knows
    · rw [hrx]
      exact h.ahead
    · exact h.asked_of hpoll.asked fun fl hfl _ _ => hfl

theorem Inv.poll (h : Inv report s told cur is) (arrived : Bool) (clock : Clock)
    (characteristic : Uuid → IoResult (List UInt8)) (hint : Option Text) :
    let out := Session.step ft s (.poll arrived clock characteristic hint)
    ∃ cur' is', Inv report out.1 (told ++ shotOf (out.2.bind Reply.event)) cur' is' := by
  rcases h.poll_append arrived clock characteristic hint with ⟨cur', new, hinv, -⟩
  exact ⟨cur', _, hinv⟩

/-- One step of the session. -/
theorem Inv.step (h : Inv report s told cur is) (i : SessionStep ft) :
    let out := Session.step ft s i
    ∃ cur' is', Inv report out.1 (told ++ shotOf (out.2.bind Reply.event)) cur' is' := by
  have hsilent {s' : Session ft} (h' : Inv report s' told cur is) :
      ∃ cur' is', Inv report s' (told ++ shotOf none) cur' is' :=
    ⟨cur, is, (List.append_nil told).symm ▸ h'⟩
  cases i with
  | shot new => exact hsilent (h.shot new)
  | serve =>
    have hout : (Session.step ft s .serve).2 = none := by
      simp only [Session.step]
      split <;> rfl
    intro out
    rw [hout]
    exact hsilent h.serve
  | emit f => exact hsilent (h.emit f)
  | poll arrived clock characteristic hint => exact h.poll arrived clock characteristic hint

end Steps

/-- A whole session. -/
theorem Inv.run {report : ClubMetrics → Option ClubMetrics} {s : Session ft}
    {told : List ShotData} {cur : ℕ} {is : List ℕ} (h : Inv report s told cur is)
    (steps : List (SessionStep ft)) :
    ∃ cur' is', Inv report ((machine ft).run s steps)
      (told ++ shotsTold ((machine ft).outs s steps)) cur' is' := by
  induction steps generalizing s told cur is with
  | nil => exact ⟨cur, is, (List.append_nil told).symm ▸ h⟩
  | cons i steps ih =>
    rcases h.step i with ⟨cur', is', h'⟩
    rcases ih h' with ⟨cur'', is'', h''⟩
    rw [List.append_assoc] at h''
    exact ⟨cur'', is'', h''⟩

/-! ## Pairing -/

theorem exists_tells_getLast? {report : ClubMetrics → Option ClubMetrics}
    {shots : List (SessionShot ft)} {told : List ShotData} {is : List ℕ} {i : ℕ}
    (h : List.Forall₂ (Tells report shots) told is) (hi : is.getLast? = some i) :
    ∃ t, told.getLast? = some t ∧ Tells report shots t i := by
  rcases List.getLast?_eq_some_iff.1 hi with ⟨is, rfl⟩
  have hrev := List.forall₂_reverse_iff.2 h
  rw [List.reverse_append, List.reverse_singleton, List.singleton_append] at hrev
  rcases List.forall₂_cons_right_iff.1 hrev with ⟨t, rest, ht, -, heq⟩
  refine ⟨t, ?_, ht⟩
  rw [← List.head?_reverse, heq, List.head?_cons]

/-- When both channels are quiet no shot is pending, and the last shot of the
session is the last one reported. -/
theorem Inv.quiet {report : ClubMetrics → Option ClubMetrics} {s : Session ft}
    {told : List ShotData} {cur : ℕ} {is : List ℕ} (h : Inv report s told cur is)
    (hin : s.inbox = []) (hflight : ∀ w ∈ s.commandsInFlight, ¬w.IsRequest) :
    s.client.pendingShot = none ∧
      ∀ shot, s.shots.getLast? = some shot → told.getLast? = some (shot.data report) := by
  -- an empty inbox means the client has taken in every ball frame
  have hcur : cur = s.shots.length := by
    have hahead := h.ahead
    rw [hin] at hahead
    cases hahead with
    | stream hs =>
      cases hs
      rfl
  -- a club awaited would have its request or its answer on the way
  have hawait : s.client.tracker.awaiting = false := by
    by_contra ha
    rcases h.asked (Bool.not_eq_false _ ▸ ha) with ⟨w, hw, hreq⟩ | ⟨fl, hfl, -⟩
    · exact hflight w hw hreq
    · simp [hin] at hfl
  constructor
  · have hpaired : s.client.tracker.awaiting = s.client.pendingShot.isSome := h.knows.paired
    rw [hawait] at hpaired
    exact Option.isNone_iff_eq_none.1 (Option.isSome_eq_false_iff.1 hpaired.symm)
  · intro shot hlast
    rcases List.getLast?_eq_some_iff.1 hlast with ⟨ys, hys⟩
    have hlen : cur = ys.length + 1 := by simp [hcur, hys]
    have hgone := h.knows.free hawait (by omega)
    rcases exists_tells_getLast? h.attributed.tells hgone with ⟨t, ht, old, hold, rfl⟩
    have hshot : shotAt s.shots cur = some shot := by
      rw [hlen, hys]
      exact List.getElem?_concat_length
    rw [ht, Option.some.inj (hold.symm.trans hshot)]

/-- The shots reported in a session, whatever the interleaving, are shots of the
session with their own clubs, in order and none twice; and when no request and
no frame is on its way, no shot is pending and the last shot of the session is
the last one reported. -/
theorem session_shots_paired (ft : Features) (now : ℕ) (stale : ClubFrame ft)
    (steps : List (SessionStep ft)) :
    let s := (machine ft).run (init now stale) steps
    let told := shotsTold ((machine ft).outs (init now stale) steps)
    let report := (Client.new now).reported ft
    (∃ is, Attributed report s.shots told is) ∧
      (s.inbox = [] → (∀ w ∈ s.commandsInFlight, ¬w.IsRequest) →
        s.client.pendingShot = none ∧
          ∀ shot, s.shots.getLast? = some shot → told.getLast? = some (shot.data report)) := by
  intro s told report
  rcases (inv_init now stale).run steps with ⟨cur, is, h⟩
  rw [List.nil_append] at h
  exact ⟨⟨is, h.attributed⟩, h.quiet⟩

end Session

end AllSquare
