import AllSquare.Client.Tracker

/-! # Whose calibration a shot gets

A shot's vertical impact is the wire value plus an offset per club. The client
adds the offset of the club that is active when the club packet arrives; the
ball was hit with the club that was active when the ball notification arrived.
`ballClubs` keeps that second club as history, and `verticalFollowsBall_iff`
says on which runs the two readings agree.
-/

namespace AllSquare

/-- Vertical impact as the calibration gives it for a club. -/
def verticalFor (cal : ImpactCalibration) (club : Option Club) (wire : Option ℚ) : Option ℚ :=
  (club.bind cal.dotBottomToFaceCenterMm).bind fun offset => wire.map fun v => v + offset

/-- Two clubs give a wire value the same reading exactly when there is no wire
value or they have the same offset. -/
theorem verticalFor_eq_iff (cal : ImpactCalibration) (club club' : Option Club)
    (wire : Option ℚ) :
    verticalFor cal club wire = verticalFor cal club' wire ↔
      wire = none ∨
        club.bind cal.dotBottomToFaceCenterMm = club'.bind cal.dotBottomToFaceCenterMm := by
  unfold verticalFor
  cases wire with
  | none =>
    simp only [Option.map_none, true_or, iff_true]
    cases club.bind cal.dotBottomToFaceCenterMm <;>
      cases club'.bind cal.dotBottomToFaceCenterMm <;> rfl
  | some v =>
    cases club.bind cal.dotBottomToFaceCenterMm <;>
      cases club'.bind cal.dotBottomToFaceCenterMm <;> simp

namespace Client

variable {ft : Features}

/-- The ball an operation accepts, with the club active at that moment. -/
def ballClub (ft : Features) (c : Client) (op : ClientOp) : Option (BallMetrics × Option Club) :=
  match op.accepts ft c with
  | some (.ball b) => some (b, c.activeClub)
  | _ => none

/-- The balls accepted along a run, each with its club. -/
def ballClubs (ft : Features) (c : Client) (ops : List ClientOp) :
    List (BallMetrics × Option Club) :=
  (clientMachine ft).heardAlong (ballClub ft) c ops

/-- Every shot with club metrics reports the wire value with the offset of the
club that was active when its ball, the last one accepted, was accepted. -/
def VerticalFollowsBall (ft : Features) (c : Client) (ops : List ClientOp) : Prop :=
  ∀ pre op post b m, ops = pre ++ op :: post →
    Reply.event ((clientMachine ft).out ((clientMachine ft).run c pre) op) =
      some (.shot b (some m)) →
    ∃ club w, (ballClubs ft c pre).getLast? = some (b, club) ∧
      op.accepts ft ((clientMachine ft).run c pre) = some (.club w) ∧
      m.impactVertical = verticalFor c.impactCalibration club w.impactVertical

/-- Whenever a club packet that measured something meets a waiting ball, it has
no vertical impact or the active club has the offset of the ball's club. -/
def OffsetKept (ft : Features) (c : Client) (ops : List ClientOp) : Prop :=
  ∀ pre op post b club w, ops = pre ++ op :: post →
    ((clientMachine ft).run c pre).pendingShot.isSome →
    (ballClubs ft c pre).getLast? = some (b, club) →
    op.accepts ft ((clientMachine ft).run c pre) = some (.club w) → w.isEmpty = false →
    w.impactVertical = none ∨
      club.bind c.impactCalibration.dotBottomToFaceCenterMm =
        ((clientMachine ft).run c pre).activeClub.bind c.impactCalibration.dotBottomToFaceCenterMm

/-! ## History -/

theorem ballClubs_append (c : Client) (ops : List ClientOp) (op : ClientOp) :
    ballClubs ft c (ops ++ [op]) =
      ballClubs ft c ops ++ (ballClub ft ((clientMachine ft).run c ops) op).toList := by
  exact (clientMachine ft).heardAlong_append (ballClub ft) c ops [op]

/-- An operation that does not set the calibration leaves it alone. -/
theorem impactCalibration_exec (c : Client) (op : ClientOp)
    (hop : ∀ cal, op ≠ .setImpactCalibration cal) :
    (op.exec ft c).1.impactCalibration = c.impactCalibration := by
  by_cases hpoll : ∀ env, op ≠ .poll env
  · have h := ClientOp.call_step ft c op hpoll
    generalize op.exec ft c = out at h ⊢
    rcases out with ⟨c', r⟩
    cases h with
    | calibrated cal => exact absurd rfl (hop cal)
    | sent | refused | selected | unselected | armed | undetected | unarmed | handed => rfl
  · push Not at hpoll
    rcases hpoll with ⟨env, rfl⟩
    exact congrArg Config.impactCalibration (poll_step ft env c).config

/-- The state of a run against its history. -/
structure History (ft : Features) (c₀ : Client) (ops : List ClientOp) (c : Client) : Prop where
  queue : c.queue = []
  paired : c.tracker.Paired
  calibration : c.impactCalibration = c₀.impactCalibration
  /-- A waiting ball is the last one accepted. -/
  origin : ∀ b, c.pendingShot = some b → ∃ club, (ballClubs ft c₀ ops).getLast? = some (b, club)

theorem history_step {c₀ : Client} {ops : List ClientOp} {op : ClientOp}
    (h : History ft c₀ ops ((clientMachine ft).run c₀ ops))
    (hop : ∀ cal, op ≠ .setImpactCalibration cal) :
    History ft c₀ (ops ++ [op]) ((clientMachine ft).run c₀ (ops ++ [op])) := by
  have hrun : (clientMachine ft).run c₀ (ops ++ [op]) =
      (op.exec ft ((clientMachine ft).run c₀ ops)).1 :=
    (clientMachine ft).run_concat c₀ ops op
  generalize hc : (clientMachine ft).run c₀ ops = c at h hrun
  rw [hrun]
  have hlist : ballClubs ft c₀ (ops ++ [op]) =
      ballClubs ft c₀ ops ++ (ballClub ft c op).toList := by
    rw [ballClubs_append, hc]
  refine ⟨ClientOp.exec_queue c op h.queue, ?_,
    (impactCalibration_exec c op hop).trans h.calibration, ?_⟩
  · rcases ClientOp.exec_tracker ft c op h.queue with ⟨-, ht, -⟩ | ⟨n, -, ht, -⟩
    · rw [ht]
      exact h.paired
    · rw [ht]
      exact Tracker.hear_paired h.paired n
  · intro b hb
    rcases ClientOp.exec_tracker ft c op h.queue with ⟨hn, ht, -⟩ | ⟨n, hn, ht, -⟩
    · -- nothing accepted: the same ball waits, the same is last
      have hsame : c.pendingShot = some b := (congrArg Tracker.pending ht).symm.trans hb
      have hnone : ballClub ft c op = none := by
        unfold ballClub
        rw [hn]
      rw [hlist, hnone, Option.toList_none, List.append_nil]
      exact h.origin b hsame
    · have hpend : (c.tracker.hear (c.reported ft) n).1.pending = some b :=
        (congrArg Tracker.pending ht).symm.trans hb
      rw [Tracker.hear_pending h.paired] at hpend
      rw [hlist]
      unfold ballClub
      rw [hn]
      cases n with
      | ball b' =>
        -- the ball just accepted is the one that waits, and is now last
        obtain rfl : b' = b := Option.some.inj hpend
        exact ⟨c.activeClub, List.getLast?_concat⟩
      -- after a club packet no ball waits
      | club m => cases hpend
      | sensor _ | heartbeatAck _ | alignment _ | queryResponse _ | battery _ _ | clock _ =>
        rw [Option.toList_none, List.append_nil]
        exact h.origin b hpend

theorem history {c₀ : Client} {ops : List ClientOp} (h : History ft c₀ [] c₀)
    (hops : ∀ op ∈ ops, ∀ cal, op ≠ .setImpactCalibration cal) :
    History ft c₀ ops ((clientMachine ft).run c₀ ops) := by
  induction ops using List.reverseRecOn with
  | nil => exact h
  | append_singleton ops op ih =>
    apply history_step (ih fun op' hop' => hops op' (List.mem_append_left _ hop'))
    exact hops op (by simp)

/-! ## The shots of a run -/

/-- A shot is a club packet accepted while a ball waits. -/
theorem event_eq_shot_iff {c : Client} {op : ClientOp} (hq : c.queue = [])
    (hpaired : c.tracker.Paired) {b : BallMetrics} {club : Option ClubMetrics} :
    Reply.event (op.exec ft c).2 = some (.shot b club) ↔
      ∃ w, op.accepts ft c = some (.club w) ∧ c.pendingShot = some b ∧
        club = c.reported ft w := by
  rcases ClientOp.exec_tracker ft c op hq with ⟨hn, -, hev⟩ | ⟨n, hn, -, hev⟩
  · rw [hn]
    refine iff_of_false ?_ (by simp)
    intro hshot
    rw [hshot] at hev
    rcases hev with hev | hev
    · cases hev
    · exact hev
  · rw [hn, hev]
    cases n with
    | club w =>
      simp only [Tracker.hear]
      by_cases ha : c.tracker.awaiting
      · rw [if_pos ha, Option.map_eq_some_iff]
        constructor
        · rintro ⟨b', hb, heq⟩
          rcases Event.shot.inj heq with ⟨rfl, rfl⟩
          exact ⟨w, rfl, hb, rfl⟩
        · rintro ⟨w', hw, hb, rfl⟩
          obtain rfl : w = w' := Notification.club.inj (Option.some.inj hw)
          exact ⟨b, hb, rfl⟩
      · have hnone : c.pendingShot = none :=
          Option.not_isSome_iff_eq_none.1 fun hp => ha (hpaired.trans hp)
        rw [if_neg ha, hnone]
        simp
    | ball _ => simp [Tracker.hear]
    | heartbeatAck s =>
      simp only [Tracker.hear]
      split <;> simp
    | sensor _ | alignment _ | queryResponse _ | battery _ _ | clock _ =>
      simp [Tracker.hear, passThrough]

/-- Without the raw feature, a shot reports club metrics when the packet
measured something, with the vertical impact of the active club. -/
theorem reported_eq_some_iff (hft : ft.rawFaceImpact = false) {c : Client} {w m : ClubMetrics} :
    c.reported ft w = some m ↔
      w.isEmpty = false ∧
        m = { w with
          impactVertical := verticalFor c.impactCalibration c.activeClub w.impactVertical } := by
  have hcal : calibrated ft c w = { w with
      impactVertical := verticalFor c.impactCalibration c.activeClub w.impactVertical } := by
    unfold calibrated applyImpactVerticalOffset verticalFor
    rw [hft]
    cases c.activeClub.bind c.impactCalibration.dotBottomToFaceCenterMm <;> rfl
  have hempty : (calibrated ft c w).isEmpty = w.isEmpty := by
    rw [hcal]
    rfl
  unfold reported
  rw [hempty, hcal]
  cases w.isEmpty <;> simp [eq_comm]

/-! ## When the two clubs agree -/

/-- A run from a new client with the given calibration, which no operation of
the run sets, against its history. -/
theorem history_new (ft : Features) (now : ℕ) (cal : ImpactCalibration)
    {ops pre post : List ClientOp} {op : ClientOp}
    (hops : ∀ op ∈ ops, ∀ cal', op ≠ .setImpactCalibration cal')
    (heq : ops = pre ++ op :: post) :
    History ft ((new now).setImpactCalibration cal) pre
      ((clientMachine ft).run ((new now).setImpactCalibration cal) pre) :=
  history ⟨rfl, rfl, rfl, fun _ hb => nomatch hb⟩ fun op' hop' => hops op' (by simp [heq, hop'])

theorem offsetKept_of_verticalFollowsBall (hft : ft.rawFaceImpact = false) {now : ℕ}
    {cal : ImpactCalibration} {ops : List ClientOp}
    (hops : ∀ op ∈ ops, ∀ cal', op ≠ .setImpactCalibration cal')
    (h : VerticalFollowsBall ft ((new now).setImpactCalibration cal) ops) :
    OffsetKept ft ((new now).setImpactCalibration cal) ops := by
  intro pre op post b club w heq hpend hlast hop hne
  have hh := history_new ft now cal hops heq
  rcases Option.isSome_iff_exists.1 hpend with ⟨b', hb'⟩
  rcases hh.origin b' hb' with ⟨club', hlast'⟩
  obtain ⟨rfl, rfl⟩ : b' = b ∧ club' = club := by simpa [hlast] using hlast'.symm
  -- the packet makes a shot, of which `h` says what it reports
  have hev := (event_eq_shot_iff hh.queue hh.paired).2
    ⟨w, hop, hb', ((reported_eq_some_iff hft).2 ⟨hne, rfl⟩).symm⟩
  rcases h pre op post b' _ heq hev with ⟨club₁, w₁, hlast₁, hop₁, hv⟩
  obtain rfl : club' = club₁ := by simpa [hlast] using hlast₁
  obtain rfl : w = w₁ := by simpa [hop] using hop₁
  rw [hh.calibration] at hv
  exact (verticalFor_eq_iff _ _ _ _).1 hv.symm

theorem verticalFollowsBall_of_offsetKept (hft : ft.rawFaceImpact = false) {now : ℕ}
    {cal : ImpactCalibration} {ops : List ClientOp}
    (hops : ∀ op ∈ ops, ∀ cal', op ≠ .setImpactCalibration cal')
    (h : OffsetKept ft ((new now).setImpactCalibration cal) ops) :
    VerticalFollowsBall ft ((new now).setImpactCalibration cal) ops := by
  intro pre op post b m heq hev
  have hh := history_new ft now cal hops heq
  rcases (event_eq_shot_iff hh.queue hh.paired).1 hev with ⟨w, hop, hb, hm⟩
  rcases (reported_eq_some_iff hft).1 hm.symm with ⟨hne, rfl⟩
  rcases hh.origin b hb with ⟨club, hlast⟩
  -- the shot is a club packet meeting a waiting ball, so the offsets agree
  have hoff := h pre op post b club w heq (Option.isSome_iff_exists.2 ⟨b, hb⟩) hlast hop hne
  refine ⟨club, w, hlast, hop, ?_⟩
  rw [hh.calibration]
  exact ((verticalFor_eq_iff _ _ _ _).2 hoff).symm

/-- Without the raw feature and with the calibration left alone, every shot of
a run has the vertical impact of its ball's club exactly when no club packet
with a vertical impact meets a waiting ball under a club of another offset. -/
theorem verticalFollowsBall_iff (ft : Features) (hft : ft.rawFaceImpact = false) (now : ℕ)
    (cal : ImpactCalibration) (ops : List ClientOp)
    (hops : ∀ op ∈ ops, ∀ cal', op ≠ .setImpactCalibration cal') :
    VerticalFollowsBall ft ((new now).setImpactCalibration cal) ops ↔
      OffsetKept ft ((new now).setImpactCalibration cal) ops :=
  ⟨offsetKept_of_verticalFollowsBall hft hops, verticalFollowsBall_of_offsetKept hft hops⟩

/-- Arm a club, poll for the identity and the ball, select another club, and
poll for the club packet. -/
def changeAfterBall (armed selected : Club) : List ClientOp :=
  [.poll (.empty 0), .arm (fun _ => .ok ()) armed .advanced, .poll (.reading 0 sampleBall),
    .selectClub (fun _ => .ok ()) selected, .poll (.reading 0 sampleClub)]

/-- Changing from the driver to the lob wedge between the ball and its club
packet reports the driver's impact with the lob wedge's offset. -/
theorem verticalFollowsBall_fails :
    ¬∀ (ft : Features) (now : ℕ) (cal : ImpactCalibration) (ops : List ClientOp),
      ft.rawFaceImpact = false →
      (∀ op ∈ ops, match op with
        | .poll env => env.Healthy
        | .arm write _ _ | .selectClub write _ => ∀ cmd, write cmd = .ok ()
        | _ => False) →
      VerticalFollowsBall ft ((new now).setImpactCalibration cal) ops := by
  intro h
  have hplay := h ⟨false⟩ 0 .default (changeAfterBall .driver .lobWedge) rfl (by
    simp [changeAfterBall, PollEnv.empty_healthy, PollEnv.reading_healthy])
  have hkept := offsetKept_of_verticalFollowsBall rfl (by simp [changeAfterBall]) hplay
  -- the offsets of the two clubs differ, as evaluation shows
  have hoff := hkept
    [.poll (.empty 0), .arm (fun _ => .ok ()) .driver .advanced, .poll (.reading 0 sampleBall),
      .selectClub (fun _ => .ok ()) .lobWedge]
    (.poll (.reading 0 sampleClub)) []
    (ballOf sampleBall.bytes (by decide)) (some .driver) (clubOf ⟨false⟩ 0xff sampleClubBody)
    rfl rfl rfl rfl (by decide)
  revert hoff
  decide

/-- The same run under two clubs of one offset. -/
theorem verticalFollowsBall_iff_irons :
    VerticalFollowsBall ⟨false⟩ ((new 0).setImpactCalibration .default)
        (changeAfterBall .iron7 .iron8) ↔
      OffsetKept ⟨false⟩ ((new 0).setImpactCalibration .default)
        (changeAfterBall .iron7 .iron8) :=
  verticalFollowsBall_iff ⟨false⟩ rfl 0 .default (changeAfterBall .iron7 .iron8)
    (by simp [changeAfterBall])

end Client

end AllSquare
