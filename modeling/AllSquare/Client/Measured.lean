import AllSquare.Client.Calibration

/-! # Does a shot report what was measured?

A shot leaves out the club metrics when the device measured nothing. The test
for that looks at three of the eight fields, so a packet with a value only in
the other five is left out as well. `reportsMeasured_iff` says that a shot
reports what was measured exactly when the three fields decide the matter.
-/

namespace AllSquare

/-- None of the eight fields has a value. -/
structure ClubMetrics.Unmeasured (m : ClubMetrics) : Prop where
  path : m.path = none
  faceAngle : m.faceAngle = none
  attackAngle : m.attackAngle = none
  dynamicLoft : m.dynamicLoft = none
  impactHorizontal : m.impactHorizontal = none
  impactVertical : m.impactVertical = none
  clubSpeed : m.clubSpeed = none
  smashFactor : m.smashFactor = none

/-- The emptiness test passes when the three fields it looks at have no value. -/
theorem ClubMetrics.isEmpty_iff {m : ClubMetrics} :
    m.isEmpty = true ↔ m.clubSpeed = none ∧ m.path = none ∧ m.faceAngle = none := by
  unfold isEmpty
  simp [and_assoc]

namespace Client

variable {ft : Features}

/-- The vertical offset step leaves no value. -/
def VerticalCleared (ft : Features) (c : Client) (m : ClubMetrics) : Prop :=
  m.impactVertical = none ∨
    (ft.rawFaceImpact = false ∧
      c.activeClub.bind c.impactCalibration.dotBottomToFaceCenterMm = none)

/-- What a shot says of a club packet: nothing exactly when no field has a value
after the vertical offset step, and otherwise the packet's fields apart from the
vertical impact. -/
structure ReportsMeasured (ft : Features) (c : Client) (m : ClubMetrics)
    (club : Option ClubMetrics) : Prop where
  none_iff : club = none ↔ (calibrated ft c m).Unmeasured
  fields : ∀ r, club = some r → { r with impactVertical := m.impactVertical } = m

/-- The three fields of the emptiness test decide whether anything was measured:
one of them has a value, or none of the other five has. -/
def ThreeFieldsDecide (ft : Features) (c : Client) (m : ClubMetrics) : Prop :=
  m.clubSpeed ≠ none ∨ m.path ≠ none ∨ m.faceAngle ≠ none ∨
    (m.attackAngle = none ∧ m.dynamicLoft = none ∧ m.impactHorizontal = none ∧
      m.smashFactor = none ∧ c.VerticalCleared ft m)

/-- The offset step touches the vertical impact only. -/
theorem calibrated_eq (ft : Features) (c : Client) (m : ClubMetrics) :
    calibrated ft c m = { m with impactVertical := (calibrated ft c m).impactVertical } := by
  unfold calibrated applyImpactVerticalOffset
  split <;> rfl

theorem calibrated_impactVertical_eq_none (c : Client) (m : ClubMetrics) :
    (calibrated ft c m).impactVertical = none ↔ c.VerticalCleared ft m := by
  unfold calibrated applyImpactVerticalOffset VerticalCleared
  cases ft.rawFaceImpact with
  | true => simp
  | false =>
    cases hoffset : c.activeClub.bind c.impactCalibration.dotBottomToFaceCenterMm with
    | none => simp
    | some offset => simp

/-- The offset step does not change the emptiness test. -/
theorem calibrated_isEmpty (c : Client) (m : ClubMetrics) :
    (calibrated ft c m).isEmpty = m.isEmpty := by
  rw [calibrated_eq]
  rfl

theorem calibrated_unmeasured_iff (c : Client) (m : ClubMetrics) :
    (calibrated ft c m).Unmeasured ↔
      m.isEmpty = true ∧ m.attackAngle = none ∧ m.dynamicLoft = none ∧
        m.impactHorizontal = none ∧ m.smashFactor = none ∧ c.VerticalCleared ft m := by
  rw [ClubMetrics.isEmpty_iff, ← calibrated_impactVertical_eq_none]
  have heq := calibrated_eq ft c m
  generalize (calibrated ft c m).impactVertical = v at heq ⊢
  rw [heq]
  constructor
  · intro h
    exact ⟨⟨h.clubSpeed, h.path, h.faceAngle⟩, h.attackAngle, h.dynamicLoft, h.impactHorizontal,
      h.smashFactor, h.impactVertical⟩
  · rintro ⟨⟨hspeed, hpath, hface⟩, hattack, hloft, hhorizontal, hsmash, hvertical⟩
    exact ⟨hpath, hface, hattack, hloft, hhorizontal, hvertical, hspeed, hsmash⟩

/-- The report of a packet against what was measured. -/
theorem reportsMeasured_reported_iff (c : Client) (m : ClubMetrics) :
    c.ReportsMeasured ft m (c.reported ft m) ↔ c.ThreeFieldsDecide ft m := by
  have hfields : ∀ r, some (calibrated ft c m) = some r →
      { r with impactVertical := m.impactVertical } = m := by
    intro r hr
    rw [← Option.some.inj hr, calibrated_eq]
  unfold reported ThreeFieldsDecide
  rw [calibrated_isEmpty]
  by_cases hempty : m.isEmpty = true
  · -- the test passes: nothing is reported, which is right if nothing else was measured
    rcases ClubMetrics.isEmpty_iff.1 hempty with ⟨hspeed, hpath, hface⟩
    rw [if_pos hempty]
    constructor
    · intro h
      have hall := (calibrated_unmeasured_iff c m).1 (h.none_iff.1 rfl)
      exact .inr (.inr (.inr hall.2))
    · intro h
      have hrest := (h.resolve_left (absurd hspeed)).resolve_left (absurd hpath)
      have hrest := hrest.resolve_left (absurd hface)
      refine ⟨iff_of_true rfl ((calibrated_unmeasured_iff c m).2 ⟨hempty, hrest⟩), ?_⟩
      intro r hr
      cases hr
  · -- the test fails: the packet is reported, and one of the three fields has a value
    rw [if_neg hempty]
    apply iff_of_true
    · refine ⟨iff_of_false (Option.some_ne_none _) ?_, hfields⟩
      intro h
      exact hempty ((calibrated_unmeasured_iff c m).1 h).1
    · rw [ClubMetrics.isEmpty_iff] at hempty
      by_contra hno
      push Not at hno
      exact hempty ⟨hno.1, hno.2.1, hno.2.2.1⟩

/-- A club packet accepted while a ball is pending makes a shot of that ball, and
the shot reports what the packet measured exactly when the three fields of the
emptiness test decide whether it measured anything. -/
theorem reportsMeasured_iff (ft : Features) (now : ℕ) (ops : List ClientOp) (env : PollEnv)
    (b : BallMetrics) (m : ClubMetrics)
    (hball : ((clientMachine ft).run (.new now) ops).pendingShot = some b)
    (hclub : ((clientMachine ft).run (.new now) ops).accepts ft env = some (.club m)) :
    ∃ club,
      Reply.event ((clientMachine ft).out ((clientMachine ft).run (.new now) ops) (.poll env)) =
        some (.shot b club) ∧
      (ReportsMeasured ft ((clientMachine ft).run (.new now) ops) m club ↔
        ThreeFieldsDecide ft ((clientMachine ft).run (.new now) ops) m) := by
  have hsettled := run_settled ft now ops
  refine ⟨reported ft ((clientMachine ft).run (.new now) ops) m, ?_,
    reportsMeasured_reported_iff _ m⟩
  exact (event_eq_shot_iff hsettled.queue hsettled.paired).2 ⟨m, hclub, hball, rfl⟩

/-- A club packet that measured only an attack angle. -/
def attackOnly : Payload :=
  ⟨0x11 :: 0x07 :: 0x04 ::
    [0xff, 0xff, 0xff, 0xff, 0xd6, 0x00, 0xff, 0xff, 0xff, 0xff, 0xff, 0xff, 0xff, 0xff, 0xff,
      0xff], by decide⟩

/-- The attack angle of such a packet is not reported. -/
theorem reportsMeasured_fails :
    ¬∀ (ft : Features) (now : ℕ) (ops : List ClientOp) (env : PollEnv) (b : BallMetrics)
      (m : ClubMetrics) (club : Option ClubMetrics),
      ((clientMachine ft).run (.new now) ops).pendingShot = some b →
      ((clientMachine ft).run (.new now) ops).accepts ft env = some (.club m) →
      Reply.event ((clientMachine ft).out ((clientMachine ft).run (.new now) ops) (.poll env)) =
        some (.shot b club) →
      ReportsMeasured ft ((clientMachine ft).run (.new now) ops) m club := by
  intro h
  let ops : List ClientOp := [.poll (.empty 0), .poll (.reading 0 sampleBall)]
  have hreport := h ⟨false⟩ 0 ops (.reading 0 attackOnly) (ballOf sampleBall.bytes (by decide))
    (clubOf ⟨false⟩ 0x04 (attackOnly.bytes.drop 3)) none rfl rfl rfl
  have hattack := (hreport.none_iff.1 rfl).attackAngle
  revert hattack
  decide

/-- The club packet of the tests measured all of the three. -/
theorem reportsMeasured_iff_sample :
    let c := (clientMachine ⟨false⟩).run (.new 0) [.poll (.empty 0), .poll (.reading 0 sampleBall)]
    ∃ club,
      Reply.event ((clientMachine ⟨false⟩).out c (.poll (.reading 0 sampleClub))) =
        some (.shot (ballOf sampleBall.bytes (by decide)) club) ∧
      (ReportsMeasured ⟨false⟩ c (clubOf ⟨false⟩ 0xff sampleClubBody) club ↔
        ThreeFieldsDecide ⟨false⟩ c (clubOf ⟨false⟩ 0xff sampleClubBody)) :=
  reportsMeasured_iff ⟨false⟩ 0 [.poll (.empty 0), .poll (.reading 0 sampleBall)]
    (.reading 0 sampleClub) _ _ rfl rfl

end Client

end AllSquare
