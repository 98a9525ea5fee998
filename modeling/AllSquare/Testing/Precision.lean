import AllSquare.Protocol.Acceptance
import AllSquare.Testing

/-! # What encoding loses

The encoders round to the wire's resolution and clamp to its range, so parsing
what was encoded gives the nearest value the wire can hold (`onWire`). A club
value that rounds to the sentinel comes back as unmeasured. Main results:

* `parse_ballNotification_eq`, `parse_clubNotification_eq` — what comes back;
* `encoding_precision` — how far that is from what was encoded.
-/

namespace AllSquare

open LittleEndian FixedPoint

/-! ## Values -/

/-- A value as it comes back from the wire. -/
def onWire (scale x : ℚ) : ℚ := quantize (-32768) 32767 scale x / scale

/-- A club field as it comes back: unmeasured when it was, or when its value
rounds to the sentinel. -/
def fieldOnWire (scale : ℚ) (field : Option ℚ) : Option ℚ :=
  field.bind fun v =>
    if -3 / 2 < v * scale ∧ v * scale ≤ -1 / 2 then none else some (onWire scale v)

theorem wire_toInt (x scale : ℚ) :
    (wire x scale).toInt = quantize (-32768) 32767 scale x := by
  have hlo := le_clamp (-32768) 32767 (roundAway (x * scale))
  have hhi : clamp (-32768) 32767 (roundAway (x * scale)) ≤ 32767 := clamp_le (by decide) _
  exact Int16.toInt_ofInt_of_le hlo (Int.lt_of_le_of_lt hhi (by decide))

theorem wire_toInt_div (x scale : ℚ) : ((wire x scale).toInt : ℚ) / scale = onWire scale x := by
  rw [wire_toInt]
  rfl

/-- Which values are written as the sentinel. -/
theorem wire_eq_sentinel_iff (x scale : ℚ) :
    wire x scale = clubSentinel ↔ -3 / 2 < x * scale ∧ x * scale ≤ -1 / 2 := by
  have hround := roundAway_eq_neg_iff (show (-1 : ℤ) < 0 by decide) (x * scale)
  rw [← Int16.toInt_inj, wire_toInt]
  -- the sentinel lies inside the range, so clamping neither makes nor hides it
  have hclamp : quantize (-32768) 32767 scale x = -1 ↔ roundAway (x * scale) = -1 := by
    unfold quantize clamp
    omega
  show quantize (-32768) 32767 scale x = -1 ↔ _
  rw [hclamp, hround]
  norm_num

/-! ## Balls -/

theorem parse_ballNotification_eq (ft : Features) (b : BallMetrics) :
    parse ft (ballNotification b) =
      .ok (.ball
        { b with
          speed := onWire 100 b.speed
          launchAngle := onWire 100 b.launchAngle
          direction := onWire 100 b.direction
          spinAxis := onWire 100 b.spinAxis }) := by
  have hfield (x : ℚ) : hundredths (wire x 100) = onWire 100 x := wire_toInt_div x 100
  have h := @Decodes.ball ft b.shotType (lowByte (wire b.speed 100)) (highByte (wire b.speed 100))
    (lowByte (wire b.launchAngle 100)) (highByte (wire b.launchAngle 100))
    (lowByte (wire b.direction 100)) (highByte (wire b.direction 100))
    (lowByte b.totalSpin) (highByte b.totalSpin)
    (lowByte (wire b.spinAxis 100)) (highByte (wire b.spinAxis 100))
    (lowByte b.backSpin) (highByte b.backSpin) (lowByte b.sideSpin) (highByte b.sideSpin) []
  simp only [i16OfLe_bytes, hfield] at h
  exact h.parse_eq

/-! ## Masks -/

/-- The widened mask has the bits of the mask and of the fields that have a value. -/
theorem testBit_widenMask {mask : UInt8} {k : ℕ} {fs : List (Option ℚ × ℚ)}
    (h : k + fs.length ≤ 8) (j : ℕ) :
    (widenMask mask k fs).toNat.testBit j = true ↔
      mask.toNat.testBit j = true ∨ ∃ f, k ≤ j ∧ fs[j - k]? = some f ∧ f.1.isSome := by
  induction fs generalizing mask k with
  | nil => simp [widenMask]
  | cons f fs ih =>
    rw [List.length_cons] at h
    have hbit : (if f.1.isSome then mask ||| (1 <<< UInt8.ofNat k) else mask).toNat.testBit j =
        true ↔ mask.toNat.testBit j = true ∨ (f.1.isSome ∧ k = j) := by
      split
      · rw [UInt8.toNat_or, one_shift_toNat (by omega), Nat.testBit_or, Nat.testBit_two_pow]
        simp [*]
      · simp [*]
    unfold widenMask
    rw [ih (by omega), hbit, or_assoc]
    apply or_congr_right
    -- bit `k` is this field's, the bits above it are the others'
    rcases Nat.lt_trichotomy j k with hlt | rfl | hgt
    · apply iff_of_false
      · rintro (⟨-, rfl⟩ | ⟨g, hle, -⟩) <;> omega
      · rintro ⟨g, hle, -⟩
        omega
    · have hno : ¬j + 1 ≤ j := by omega
      simp [hno]
    · have hidx : j - k = j - (k + 1) + 1 := by omega
      have hne : k ≠ j := by omega
      have hle : k ≤ j := by omega
      simp [hidx, hne, hle, Nat.succ_le_of_lt hgt]

/-! ## Clubs -/

/-- A field parsed from its encoding, under a mask that has its bit if it has a
value. -/
theorem clubField_fieldRaw_eq {mask bit : UInt8} {field : Option ℚ} (scale : ℚ)
    (hbit : field.isSome → mask &&& (1 <<< bit) ≠ 0) :
    clubField (fieldRaw (field, scale)) mask bit scale = fieldOnWire scale field := by
  unfold clubField fieldOnWire
  cases field with
  | none => exact if_pos (.inl rfl)
  | some v =>
    have hset : mask &&& (1 <<< bit) ≠ 0 := hbit rfl
    simp only [fieldRaw, hset, or_false, wire_eq_sentinel_iff, wire_toInt_div, Option.bind_some]

/-- Field `i` of an encoded club. -/
theorem getScaled_encoded {mask : UInt8} {body : List UInt8} {field : Option ℚ} {i : ℕ}
    (hi : i < 8) (scale : ℚ) (h : i * 2 + 2 ≤ body.length)
    (hraw : i16At body (i * 2) h = fieldRaw (field, scale))
    (hbit : field.isSome → mask.toNat.testBit i = true) :
    getScaled mask body i (UInt8.ofNat i) scale = fieldOnWire scale field := by
  unfold getScaled
  rw [dif_neg (by omega), hraw]
  apply clubField_fieldRaw_eq
  intro hf hzero
  rw [and_shift_eq_zero hi, hbit hf] at hzero
  cases hzero

/-- A club as it comes back from the wire. -/
def clubOnWire (ft : Features) (c : ClubMetrics) : ClubMetrics where
  mask := widenMask c.mask 0 (clubFields ft c)
  path := fieldOnWire clubScale c.path
  faceAngle := fieldOnWire clubScale c.faceAngle
  attackAngle := fieldOnWire clubScale c.attackAngle
  dynamicLoft := fieldOnWire clubScale c.dynamicLoft
  impactHorizontal := fieldOnWire (impactScale ft) c.impactHorizontal
  impactVertical := fieldOnWire (impactScale ft) c.impactVertical
  clubSpeed := fieldOnWire clubScale c.clubSpeed
  smashFactor := fieldOnWire clubScale c.smashFactor

theorem testBit_clubOnWire (ft : Features) (c : ClubMetrics) (i : ℕ) :
    (clubOnWire ft c).mask.toNat.testBit i = true ↔
      c.mask.toNat.testBit i = true ∨ ∃ f, (clubFields ft c)[i]? = some f ∧ f.1.isSome := by
  show (widenMask c.mask 0 (clubFields ft c)).toNat.testBit i = true ↔ _
  rw [testBit_widenMask (by simp [clubFields])]
  simp only [Nat.zero_le, true_and, Nat.sub_zero]

theorem clubOf_encoding (ft : Features) (c : ClubMetrics) :
    clubOf ft (clubOnWire ft c).mask ((clubFields ft c).flatMap fun f => i16ToLe (fieldRaw f)) =
      clubOnWire ft c := by
  have hbit (i : ℕ) {f : Option ℚ × ℚ} (hf : (clubFields ft c)[i]? = some f)
      (hsome : f.1.isSome) : (clubOnWire ft c).mask.toNat.testBit i = true :=
    (testBit_clubOnWire ft c i).2 (.inr ⟨f, hf, hsome⟩)
  have hlen {i : ℕ} (hi : i < 8) : i * 2 + 2 ≤
      ((clubFields ft c).flatMap fun f => i16ToLe (fieldRaw f)).length := by
    simp [clubFields, i16ToLe]
    omega
  rw [clubOf, clubOnWire, ClubMetrics.mk.injEq]
  refine ⟨rfl, ?_, ?_, ?_, ?_, ?_, ?_, ?_, ?_⟩
  · exact getScaled_encoded (by decide) _ (hlen (by decide)) (i16OfLe_bytes _) (hbit 0 rfl)
  · exact getScaled_encoded (by decide) _ (hlen (by decide)) (i16OfLe_bytes _) (hbit 1 rfl)
  · exact getScaled_encoded (by decide) _ (hlen (by decide)) (i16OfLe_bytes _) (hbit 2 rfl)
  · exact getScaled_encoded (by decide) _ (hlen (by decide)) (i16OfLe_bytes _) (hbit 3 rfl)
  · exact getScaled_encoded (by decide) _ (hlen (by decide)) (i16OfLe_bytes _) (hbit 4 rfl)
  · exact getScaled_encoded (by decide) _ (hlen (by decide)) (i16OfLe_bytes _) (hbit 5 rfl)
  · exact getScaled_encoded (by decide) _ (hlen (by decide)) (i16OfLe_bytes _) (hbit 6 rfl)
  · exact getScaled_encoded (by decide) _ (hlen (by decide)) (i16OfLe_bytes _) (hbit 7 rfl)

theorem parse_clubNotification_eq (ft : Features) (c : ClubMetrics) :
    parse ft (clubNotification ft c) = .ok (.club (clubOnWire ft c)) := by
  have h := (@Decodes.club ft (clubOnWire ft c).mask
    ((clubFields ft c).flatMap fun f => i16ToLe (fieldRaw f))).parse_eq
  rw [clubOf_encoding] at h
  exact h

/-- Each field comes back by itself. -/
theorem clubFields_clubOnWire (ft : Features) (c : ClubMetrics) :
    clubFields ft (clubOnWire ft c) =
      (clubFields ft c).map fun f => (fieldOnWire f.2 f.1, f.2) := rfl

/-! ## How much is lost -/

theorem fieldOnWire_eq_none_iff (scale : ℚ) (field : Option ℚ) :
    fieldOnWire scale field = none ↔
      field = none ∨ ∃ v, field = some v ∧ -3 / 2 < v * scale ∧ v * scale ≤ -1 / 2 := by
  cases field with
  | none => simp [fieldOnWire]
  | some v => simp [fieldOnWire]

theorem fieldOnWire_some {scale v : ℚ} (h : ¬(-3 / 2 < v * scale ∧ v * scale ≤ -1 / 2)) :
    fieldOnWire scale (some v) = some (onWire scale v) :=
  if_neg h

/-- Within the range of hundredths, what comes back is at most half a hundredth
away. -/
theorem abs_onWire_sub_le {x : ℚ} (hlo : -32768 / 100 ≤ x) (hhi : x ≤ 32767 / 100) :
    |onWire 100 x - x| ≤ 1 / 200 := by
  have hlo' : ((-32768 : ℤ) : ℚ) ≤ x * 100 := by
    push_cast
    linarith
  have hhi' : x * 100 ≤ ((32767 : ℤ) : ℚ) := by
    push_cast
    linarith
  have h := abs_quantize_div_sub_le (show (0 : ℚ) < 100 by norm_num) hlo' hhi'
  norm_num at h
  exact h

/-- Below it, the lower end comes back. -/
theorem onWire_of_le {x : ℚ} (h : x ≤ -32768 / 100) : onWire 100 x = -32768 / 100 := by
  unfold onWire
  rw [quantize_of_le]
  · norm_num
  · push_cast
    linarith

/-- Above it, the upper end comes back. -/
theorem onWire_of_ge {x : ℚ} (h : 32767 / 100 ≤ x) : onWire 100 x = 32767 / 100 := by
  unfold onWire
  rw [quantize_of_ge (by decide)]
  · norm_num
  · push_cast
    linarith

theorem onWire_mono : Monotone (onWire 100) := by
  intro x y hxy
  have h : quantize (-32768) 32767 (100 : ℚ) x ≤ quantize (-32768) 32767 100 y :=
    quantize_mono (by norm_num) hxy
  apply div_le_div_of_nonneg_right _ (by norm_num)
  exact_mod_cast h

theorem onWire_idem (x : ℚ) : onWire 100 (onWire 100 x) = onWire 100 x := by
  unfold onWire
  rw [quantize_idem (by decide) (by norm_num)]

/-- For every ball, parsing its encoding gives the clamped and rounded value of
each scaled field, at most half a hundredth from it within the range and the
nearer end outside, monotonically and idempotently; and for every club, its mask
with the bits of its values, and each value clamped and rounded, unless it rounds
to the sentinel. -/
theorem encoding_precision (ft : Features) :
    (∀ b, parse ft (ballNotification b) =
      .ok (.ball
        { b with
          speed := onWire 100 b.speed
          launchAngle := onWire 100 b.launchAngle
          direction := onWire 100 b.direction
          spinAxis := onWire 100 b.spinAxis })) ∧
    (∀ x, onWire 100 x = (clamp (-32768) 32767 (roundAway (100 * x)) : ℚ) / 100) ∧
    (∀ x, -32768 / 100 ≤ x → x ≤ 32767 / 100 → |onWire 100 x - x| ≤ 1 / 200) ∧
    (∀ x, x ≤ -32768 / 100 → onWire 100 x = -32768 / 100) ∧
    (∀ x, 32767 / 100 ≤ x → onWire 100 x = 32767 / 100) ∧
    Monotone (onWire 100) ∧
    (∀ x, onWire 100 (onWire 100 x) = onWire 100 x) ∧
    (∀ c, ∃ c', parse ft (clubNotification ft c) = .ok (.club c') ∧
      (∀ i, c'.mask.toNat.testBit i = true ↔
        c.mask.toNat.testBit i = true ∨ ∃ f, (clubFields ft c)[i]? = some f ∧ f.1.isSome) ∧
      ∀ (i : ℕ) field scale, (clubFields ft c)[i]? = some (field, scale) →
        ∃ field', (clubFields ft c')[i]? = some (field', scale) ∧
          (field' = none ↔
            field = none ∨ ∃ v, field = some v ∧ -3 / 2 < v * scale ∧ v * scale ≤ -1 / 2) ∧
          ∀ v, field = some v → ¬(-3 / 2 < v * scale ∧ v * scale ≤ -1 / 2) →
            field' = some ((clamp (-32768) 32767 (roundAway (v * scale)) : ℚ) / scale)) := by
  refine ⟨parse_ballNotification_eq ft, ?_, ?_, ?_, ?_, onWire_mono, onWire_idem, ?_⟩
  · intro x
    rw [mul_comm]
    rfl
  · intro x hlo hhi
    exact abs_onWire_sub_le hlo hhi
  · intro x h
    exact onWire_of_le h
  · intro x h
    exact onWire_of_ge h
  · intro c
    refine ⟨clubOnWire ft c, parse_clubNotification_eq ft c, testBit_clubOnWire ft c, ?_⟩
    intro i field scale hfield
    refine ⟨fieldOnWire scale field, ?_, fieldOnWire_eq_none_iff scale field, ?_⟩
    · rw [clubFields_clubOnWire, List.getElem?_map, hfield]
      rfl
    · rintro v rfl hv
      exact fieldOnWire_some hv

/-- A third of a metre per second is rounded, and 400 is clamped. -/
theorem encoding_precision_third :
    |onWire 100 (1 / 3) - 1 / 3| ≤ 1 / 200 ∧ onWire 100 (-400) = -32768 / 100 ∧
      onWire 100 400 = 32767 / 100 :=
  ⟨(encoding_precision ⟨false⟩).2.2.1 (1 / 3) (by norm_num) (by norm_num),
    (encoding_precision ⟨false⟩).2.2.2.1 (-400) (by norm_num),
    (encoding_precision ⟨false⟩).2.2.2.2.1 400 (by norm_num)⟩

end AllSquare
