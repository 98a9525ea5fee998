import Mathlib.Data.Nat.Bitwise
import Mathlib.Tactic.IntervalCases
import AllSquare.Protocol.Grammar
import AllSquare.Protocol.Indexing

/-! # What the parser accepts

`parse_case` sorts every payload by what the parser does with it: the families
and types it knows have a minimum length each (`needs`), a frame that has it is
accepted, and a shorter one is reported as truncated. `documented_of_parse`
reads the fields of an accepted frame off the documented offsets, and
`parse_accepts_grammar` puts the two together.
-/

namespace AllSquare

open LittleEndian

/-! ## Minimum lengths -/

/-- The minimum length of a `0x11` frame by its type. -/
def typeNeeds : UInt8 → Option ℕ
  | 0x01 => some 17
  | 0x02 => some 17
  | 0x03 => some 4
  | 0x04 => some 7
  | 0x06 => some 2
  | 0x07 => some 3
  | _ => none

/-- The minimum length of a frame by its first bytes, where these are known; a
bare `0x11` lacks its type. -/
def needs : List UInt8 → Option ℕ
  | 0x91 :: _ => some 3
  | 0x71 :: _ => some 9
  | [0x11] => some 2
  | 0x11 :: type :: _ => typeNeeds type
  | _ => none

/-- The families the parser knows. -/
def families : List UInt8 := [0x11, 0x71, 0x91]

/-- The types of the `0x11` family it knows. -/
def types : List UInt8 := [0x01, 0x02, 0x03, 0x04, 0x06, 0x07]

theorem needs_eq_none_of_family {f : UInt8} (hf : f ∉ families) (rest : List UInt8) :
    needs (f :: rest) = none := by
  unfold needs
  split <;> simp_all [families]

theorem needs_eq_none_of_type {t : UInt8} (ht : t ∉ types) (rest : List UInt8) :
    needs (0x11 :: t :: rest) = none := by
  show typeNeeds t = none
  unfold typeNeeds
  split <;> simp_all [types]

/-! ## What the parser does with a payload -/

/-- The cases of the parser, with its answer in each. -/
inductive ParseCase : List UInt8 → Except Error Notification → Prop
  | disconnected : ParseCase [] (.error .disconnected)
  | unknownFamily (f : UInt8) (rest : List UInt8) (hf : f ∉ families) :
      ParseCase (f :: rest) (.error (.unknownFamily f))
  | unknownNotification (t : UInt8) (rest : List UInt8) (ht : t ∉ types) :
      ParseCase (0x11 :: t :: rest) (.error (.unknownNotification t))
  | truncated (d : List UInt8) (kind : String) (m : ℕ) (hm : needs d = some m)
      (hlen : d.length < m) : ParseCase d (.error (.truncated kind d.length m))
  | accepted (d : List UInt8) (n : Notification) (m : ℕ) (hm : needs d = some m)
      (hlen : m ≤ d.length) : ParseCase d (.ok n)

theorem need_bind_of_le {α : Type} (kind : String) {d : List UInt8} {m : ℕ} (hn : m ≤ d.length)
    (k : PLift (m ≤ d.length) → Except Error α) : (need kind d m >>= k) = k ⟨hn⟩ := by
  unfold need
  rw [dif_pos hn]
  rfl

/-- A branch that checks the length its frame needs and then always succeeds. -/
theorem parseCase_of_need {kind : String} {d : List UInt8} {m : ℕ} (hm : needs d = some m)
    {k : PLift (m ≤ d.length) → Except Error Notification}
    (hk : ∀ hn : m ≤ d.length, ∃ n, k ⟨hn⟩ = .ok n) :
    ParseCase d (need kind d m >>= k) := by
  by_cases hn : m ≤ d.length
  · rcases hk hn with ⟨n, heq⟩
    rw [need_bind_of_le kind hn, heq]
    exact .accepted d n m hm hn
  · unfold need
    rw [dif_neg hn]
    exact .truncated d kind m hm (by omega)

theorem parse11_case (ft : Features) (rest : List UInt8) :
    ParseCase (0x11 :: rest) (parse11 ft (0x11 :: rest)) := by
  rcases rest with _ | ⟨t, rest⟩
  · exact .truncated [0x11] "notification" 2 rfl (by decide)
  · have h2 : 2 ≤ (0x11 :: t :: rest : List UInt8).length := by simp
    unfold parse11
    rw [need_bind_of_le _ h2]
    simp only [List.getElem_cons_succ, List.getElem_cons_zero]
    split
    · exact parseCase_of_need rfl fun hn => ⟨_, rfl⟩
    · exact parseCase_of_need rfl fun hn => ⟨_, rfl⟩
    · exact parseCase_of_need rfl fun hn => ⟨_, rfl⟩
    · exact parseCase_of_need rfl fun hn => ⟨_, rfl⟩
    · exact .accepted _ _ 2 rfl h2
    · exact parseCase_of_need rfl fun hn => ⟨_, rfl⟩
    · refine .unknownNotification t rest ?_
      simp_all [types]

theorem parse_case (ft : Features) (d : List UInt8) : ParseCase d (parse ft d) := by
  rcases d with _ | ⟨f, rest⟩
  · exact .disconnected
  · unfold parse
    rw [dif_neg (List.cons_ne_nil f rest)]
    simp only [List.getElem_cons_zero]
    split
    · exact parseCase_of_need rfl fun hn => ⟨_, rfl⟩
    · exact parseCase_of_need rfl fun hn => ⟨_, rfl⟩
    · exact parse11_case ft rest
    · refine .unknownFamily f rest ?_
      simp_all [families]

/-! ## Which payloads get which answer -/

theorem ParseCase.eq_disconnected_iff {d : List UInt8} {r : Except Error Notification}
    (h : ParseCase d r) : r = .error .disconnected ↔ d = [] := by
  cases h with
  | disconnected => simp
  | unknownFamily | unknownNotification => simp
  | truncated _ kind m hm | accepted _ n m hm =>
    simp only [Except.error.injEq, reduceCtorEq, false_iff]
    rintro rfl
    cases hm

theorem ParseCase.eq_unknownFamily_iff {d : List UInt8} {r : Except Error Notification}
    (h : ParseCase d r) (f : UInt8) :
    r = .error (.unknownFamily f) ↔ ∃ rest, d = f :: rest ∧ f ∉ families := by
  cases h with
  | disconnected => simp
  | unknownFamily f' rest hf =>
    constructor
    · intro heq
      obtain rfl : f' = f := by simpa using heq
      exact ⟨rest, rfl, hf⟩
    · rintro ⟨rest', heq, -⟩
      rw [(List.cons.inj heq).1]
  | unknownNotification t rest =>
    simp only [Except.error.injEq, reduceCtorEq, false_iff]
    rintro ⟨rest', heq, hf⟩
    rw [← (List.cons.inj heq).1] at hf
    exact hf (by decide)
  | truncated _ kind m hm | accepted _ n m hm =>
    simp only [Except.error.injEq, reduceCtorEq, false_iff]
    rintro ⟨rest, rfl, hf⟩
    rw [needs_eq_none_of_family hf] at hm
    cases hm

theorem ParseCase.eq_unknownNotification_iff {d : List UInt8} {r : Except Error Notification}
    (h : ParseCase d r) (t : UInt8) :
    r = .error (.unknownNotification t) ↔ ∃ rest, d = 0x11 :: t :: rest ∧ t ∉ types := by
  cases h with
  | disconnected => simp
  | unknownFamily f rest hf =>
    simp only [Except.error.injEq, reduceCtorEq, false_iff]
    rintro ⟨rest', heq, -⟩
    rw [(List.cons.inj heq).1] at hf
    exact hf (by decide)
  | unknownNotification t' rest ht =>
    constructor
    · intro heq
      obtain rfl : t' = t := by simpa using heq
      exact ⟨rest, rfl, ht⟩
    · rintro ⟨rest', heq, -⟩
      rw [(List.cons.inj (List.cons.inj heq).2).1]
  | truncated _ kind m hm | accepted _ n m hm =>
    simp only [Except.error.injEq, reduceCtorEq, false_iff]
    rintro ⟨rest, rfl, ht⟩
    rw [needs_eq_none_of_type ht] at hm
    cases hm

theorem ParseCase.exists_ok_iff {d : List UInt8} {r : Except Error Notification}
    (h : ParseCase d r) : (∃ n, r = .ok n) ↔ ∃ m, needs d = some m ∧ m ≤ d.length := by
  cases h with
  | disconnected => simp [needs]
  | unknownFamily f rest hf => simp [needs_eq_none_of_family hf]
  | unknownNotification t rest ht => simp [needs_eq_none_of_type ht]
  | truncated _ kind m hm hlen => simp [hm, hlen]
  | accepted _ n m hm hlen => simp [hm, hlen]

theorem ParseCase.exists_truncated_iff {d : List UInt8} {r : Except Error Notification}
    (h : ParseCase d r) (len m : ℕ) :
    (∃ kind, r = .error (.truncated kind len m)) ↔
      needs d = some m ∧ len = d.length ∧ len < m := by
  cases h with
  | disconnected => simp [needs]
  | unknownFamily f rest hf => simp [needs_eq_none_of_family hf]
  | unknownNotification t rest ht => simp [needs_eq_none_of_type ht]
  | truncated _ kind m' hm hlen =>
    simp only [hm, Except.error.injEq, Error.truncated.injEq, Option.some.injEq]
    constructor
    · rintro ⟨kind', -, rfl, rfl⟩
      exact ⟨rfl, rfl, hlen⟩
    · rintro ⟨rfl, rfl, -⟩
      exact ⟨kind, rfl, rfl, rfl⟩
  | accepted _ n m' hm hlen =>
    simp only [hm, reduceCtorEq, exists_false, Option.some.injEq, false_iff]
    rintro ⟨rfl, rfl, hlt⟩
    omega

/-! ## What an accepted frame says -/

/-- The 16-bit two's-complement integer at offset `off`, least significant byte
first. -/
def wordAt (d : List UInt8) (off : ℕ) : ℤ := (natOfLe ((d.drop off).take 2) : ℤ).bmod (2 ^ 16)

/-- The 32-bit one. -/
def longAt (d : List UInt8) (off : ℕ) : ℤ := (natOfLe ((d.drop off).take 4) : ℤ).bmod (2 ^ 32)

/-- Club field `i` of a frame: there is one when the body holds its two bytes, the
mask has its bit, and the raw value is not the sentinel. -/
def clubValue (d : List UInt8) (mask : UInt8) (i : ℕ) (scale : ℚ) : Option ℚ :=
  if 2 * (i + 1) ≤ (d.drop 3).length ∧ mask.toNat.testBit i = true ∧ wordAt d (3 + 2 * i) ≠ -1 then
    some (wordAt d (3 + 2 * i) / scale)
  else none

/-- A frame reads as the documentation of its layout says. -/
def Documented (ft : Features) (d : List UInt8) : Notification → Prop
  | .battery percent state =>
    d[0]? = some 0x91 ∧ d[1]? = some percent ∧ d[2]?.map ChargingState.ofByte = some state
  | .clock seconds => d[0]? = some 0x71 ∧ seconds.toNat = natOfBe ((d.drop 1).take 8)
  | .sensor s =>
    [0x11, 0x01] <+: d ∧ (s.ready = true ↔ d[3]? = some 0x01 ∨ d[3]? = some 0x02) ∧
      (s.detected = true ↔ d[4]? = some 0x01) ∧ s.position.1.toInt = longAt d 5 ∧
      s.position.2.1.toInt = longAt d 9 ∧ s.position.2.2.toInt = longAt d 13
  | .ball b =>
    [0x11, 0x02] <+: d ∧ d[2]? = some b.shotType ∧ b.speed = wordAt d 3 / 100 ∧
      b.launchAngle = wordAt d 5 / 100 ∧ b.direction = wordAt d 7 / 100 ∧
      b.totalSpin.toInt = wordAt d 9 ∧ b.spinAxis = wordAt d 11 / 100 ∧
      b.backSpin.toInt = wordAt d 13 ∧ b.sideSpin.toInt = wordAt d 15
  | .heartbeatAck state =>
    [0x11, 0x03] <+: d ∧ d[3]?.map DeviceState.ofByte = some state
  | .alignment angle => [0x11, 0x04] <+: d ∧ angle = wordAt d 5 / 100
  | .queryResponse payload => d = 0x11 :: 0x06 :: payload
  | .club c =>
    [0x11, 0x07] <+: d ∧ d[2]? = some c.mask ∧
      c =
        { mask := c.mask
          path := clubValue d c.mask 0 clubScale
          faceAngle := clubValue d c.mask 1 clubScale
          attackAngle := clubValue d c.mask 2 clubScale
          dynamicLoft := clubValue d c.mask 3 clubScale
          impactHorizontal := clubValue d c.mask 4 (impactScale ft)
          impactVertical := clubValue d c.mask 5 (impactScale ft)
          clubSpeed := clubValue d c.mask 6 clubScale
          smashFactor := clubValue d c.mask 7 clubScale }

theorem one_shift_toNat {i : ℕ} (hi : i < 8) : (1 <<< UInt8.ofNat i : UInt8).toNat = 2 ^ i := by
  interval_cases i <;> rfl

/-- Testing a mask bit with a shifted one is testing it by its number. -/
theorem and_shift_eq_zero {mask : UInt8} {i : ℕ} (hi : i < 8) :
    mask &&& (1 <<< UInt8.ofNat i) = 0 ↔ mask.toNat.testBit i = false := by
  rw [← UInt8.toNat_inj, UInt8.toNat_and, one_shift_toNat hi, Nat.and_two_pow]
  cases mask.toNat.testBit i <;> simp

theorem take_two_drop {d : List UInt8} {off : ℕ} (h : off < d.length) (h' : off + 1 < d.length) :
    (d.drop off).take 2 = [d[off], d[off + 1]] := by
  rw [List.drop_eq_getElem_cons (by omega), List.drop_eq_getElem_cons (by omega)]
  rfl

theorem getScaled_eq_clubValue (mask : UInt8) (body : List UInt8) {i : ℕ} (hi : i < 8) (scale : ℚ) :
    getScaled mask body i (UInt8.ofNat i) scale =
      clubValue (0x11 :: 0x07 :: mask :: body) mask i scale := by
  unfold getScaled clubValue
  by_cases hlen : body.length < (i + 1) * 2
  · rw [dif_pos hlen, if_neg]
    rintro ⟨h, -⟩
    rw [List.drop_succ_cons, List.drop_succ_cons, List.drop_succ_cons, List.drop_zero] at h
    omega
  · -- the field's two bytes are there, and their integer is the word at its offset
    have hword : (i16At body (i * 2) (by omega)).toInt =
        wordAt (0x11 :: 0x07 :: mask :: body) (3 + 2 * i) := by
      have hdrop : (0x11 :: 0x07 :: mask :: body).drop (3 + 2 * i) = body.drop (i * 2) := by
        rw [show 3 + 2 * i = i * 2 + 1 + 1 + 1 by omega]
        rfl
      unfold wordAt i16At
      rw [toInt_i16OfLe, hdrop, take_two_drop (by omega) (by omega)]
    have hsentinel : i16At body (i * 2) (by omega) = clubSentinel ↔
        wordAt (0x11 :: 0x07 :: mask :: body) (3 + 2 * i) = -1 := by
      rw [← hword, ← Int16.toInt_inj]
      rfl
    have hbody : 2 * (i + 1) ≤ ((0x11 :: 0x07 :: mask :: body).drop 3).length := by
      show 2 * (i + 1) ≤ body.length
      omega
    rw [dif_neg hlen]
    unfold clubField
    simp only [and_shift_eq_zero hi, hsentinel, hword, hbody, true_and]
    by_cases hs : wordAt (0x11 :: 0x07 :: mask :: body) (3 + 2 * i) = -1
    · rw [if_pos (.inl hs), if_neg fun h => h.2 hs]
    · cases hbit : mask.toNat.testBit i with
      | false => simp
      | true => simp [hs]

theorem hundredths_ofLe (lo hi : UInt8) :
    hundredths (i16OfLe lo hi) = ((natOfLe [lo, hi] : ℤ).bmod (2 ^ 16) : ℤ) / 100 := by
  unfold hundredths
  rw [toInt_i16OfLe]

theorem documented_of_parse {ft : Features} {d : List UInt8} {n : Notification}
    (h : parse ft d = .ok n) : Documented ft d n := by
  cases decodes_of_parse h with
  | battery percent state rest => exact ⟨rfl, rfl, rfl⟩
  | clock b₀ b₁ b₂ b₃ b₄ b₅ b₆ b₇ rest =>
    have hlt : natOfBe [b₀, b₁, b₂, b₃, b₄, b₅, b₆, b₇] < 2 ^ 64 := natOfBe_lt _
    refine ⟨rfl, ?_⟩
    rw [UInt64.toNat_ofNat', Nat.mod_eq_of_lt hlt]
    rfl
  | sensor counter ready detected x₀ x₁ x₂ x₃ y₀ y₁ y₂ y₃ z₀ z₁ z₂ z₃ rest =>
    exact ⟨⟨_, rfl⟩, by simp, by simp, toInt_i32OfLe .., toInt_i32OfLe .., toInt_i32OfLe ..⟩
  | ball shotType s₀ s₁ l₀ l₁ d₀ d₁ t₀ t₁ a₀ a₁ b₀ b₁ c₀ c₁ rest =>
    exact ⟨⟨_, rfl⟩, rfl, hundredths_ofLe .., hundredths_ofLe .., hundredths_ofLe ..,
      toInt_i16OfLe .., hundredths_ofLe .., toInt_i16OfLe .., toInt_i16OfLe ..⟩
  | heartbeatAck counter state rest => exact ⟨⟨_, rfl⟩, rfl⟩
  | alignment counter u v a₀ a₁ rest => exact ⟨⟨_, rfl⟩, hundredths_ofLe ..⟩
  | queryResponse payload => rfl
  | club mask body =>
    refine ⟨⟨_, rfl⟩, rfl, ?_⟩
    have hfield {i : ℕ} (hi : i < 8) (scale : ℚ) := getScaled_eq_clubValue mask body hi scale
    show clubOf ft mask body = _
    unfold clubOf
    rw [← hfield (show 0 < 8 by decide), ← hfield (show 1 < 8 by decide),
      ← hfield (show 2 < 8 by decide), ← hfield (show 3 < 8 by decide),
      ← hfield (show 4 < 8 by decide), ← hfield (show 5 < 8 by decide),
      ← hfield (show 6 < 8 by decide), ← hfield (show 7 < 8 by decide)]
    rfl

/-! ## Trailing bytes -/

/-- A club frame shorter than its eight fields. -/
def ShortClub (d : List UInt8) (n : Notification) : Prop := (∃ c, n = .club c) ∧ d.length < 19

/-- Bytes past the fields of a club frame change nothing. -/
theorem getScaled_append {mask : UInt8} {body : List UInt8} {i : ℕ} (h : (i + 1) * 2 ≤ body.length)
    (bit : UInt8) (scale : ℚ) (more : List UInt8) :
    getScaled mask (body ++ more) i bit scale = getScaled mask body i bit scale := by
  unfold getScaled i16At
  rw [dif_neg (by rw [List.length_append]; omega), dif_neg (by omega),
    List.getElem_append_left, List.getElem_append_left]

/-- Bytes after an accepted frame change nothing, except for a query response and
a short club frame. -/
theorem parse_append {ft : Features} {d : List UInt8} {n : Notification} (h : parse ft d = .ok n)
    (hquery : ∀ p, n ≠ .queryResponse p) (hclub : ¬ShortClub d n) (more : List UInt8) :
    parse ft (d ++ more) = .ok n := by
  cases decodes_of_parse h with
  | battery percent state rest => exact (Decodes.battery percent state (rest ++ more)).parse_eq
  | clock b₀ b₁ b₂ b₃ b₄ b₅ b₆ b₇ rest =>
    exact (Decodes.clock b₀ b₁ b₂ b₃ b₄ b₅ b₆ b₇ (rest ++ more)).parse_eq
  | sensor counter ready detected x₀ x₁ x₂ x₃ y₀ y₁ y₂ y₃ z₀ z₁ z₂ z₃ rest =>
    exact (Decodes.sensor counter ready detected x₀ x₁ x₂ x₃ y₀ y₁ y₂ y₃ z₀ z₁ z₂ z₃
      (rest ++ more)).parse_eq
  | ball shotType s₀ s₁ l₀ l₁ d₀ d₁ t₀ t₁ a₀ a₁ b₀ b₁ c₀ c₁ rest =>
    exact (Decodes.ball shotType s₀ s₁ l₀ l₁ d₀ d₁ t₀ t₁ a₀ a₁ b₀ b₁ c₀ c₁ (rest ++ more)).parse_eq
  | heartbeatAck counter state rest =>
    exact (Decodes.heartbeatAck counter state (rest ++ more)).parse_eq
  | alignment counter u v a₀ a₁ rest =>
    exact (Decodes.alignment counter u v a₀ a₁ (rest ++ more)).parse_eq
  | queryResponse payload => exact absurd rfl (hquery payload)
  | club mask body =>
    have hlen : 16 ≤ body.length := by
      by_contra hshort
      apply hclub
      refine ⟨⟨_, rfl⟩, ?_⟩
      simp only [List.length_cons]
      omega
    -- all eight fields lie within the frame
    have hbody : clubOf ft mask (body ++ more) = clubOf ft mask body := by
      unfold clubOf
      rw [getScaled_append (by omega), getScaled_append (by omega), getScaled_append (by omega),
        getScaled_append (by omega), getScaled_append (by omega), getScaled_append (by omega),
        getScaled_append (by omega), getScaled_append (by omega)]
    rw [← hbody]
    exact (Decodes.club mask (body ++ more)).parse_eq

/-! ## The frame grammar -/

/-- For every payload: the parser as the source has it indexes nothing outside it;
which answer the parser gives; and on success the documented reading, which
bytes after the frame do not change. -/
theorem parse_accepts_grammar (ft : Features) (d : List UInt8) :
    (Indexed.parse ft d).run = some (parse ft d) ∧
    (parse ft d = .error .disconnected ↔ d = []) ∧
    (∀ f, parse ft d = .error (.unknownFamily f) ↔
      ∃ rest, d = f :: rest ∧ f ∉ ([0x11, 0x71, 0x91] : List UInt8)) ∧
    (∀ t, parse ft d = .error (.unknownNotification t) ↔
      ∃ rest, d = 0x11 :: t :: rest ∧
        t ∉ ([0x01, 0x02, 0x03, 0x04, 0x06, 0x07] : List UInt8)) ∧
    ((∃ n, parse ft d = .ok n) ↔ ∃ m, needs d = some m ∧ m ≤ d.length) ∧
    (∀ len m, (∃ kind, parse ft d = .error (.truncated kind len m)) ↔
      needs d = some m ∧ len = d.length ∧ len < m) ∧
    (∀ n, parse ft d = .ok n →
      Documented ft d n ∧
      ((∀ p, n ≠ .queryResponse p) → ¬ShortClub d n →
        ∀ more, parse ft (d ++ more) = .ok n)) := by
  have hcase := parse_case ft d
  refine ⟨Indexed.parse_run ft d, hcase.eq_disconnected_iff, hcase.eq_unknownFamily_iff,
    hcase.eq_unknownNotification_iff, hcase.exists_ok_iff, hcase.exists_truncated_iff, ?_⟩
  intro n h
  constructor
  · exact documented_of_parse h
  · intro hquery hclub more
    exact parse_append h hquery hclub more

/-- An acknowledgment followed by two more bytes. -/
theorem parse_accepts_grammar_trailing :
    parse ⟨false⟩ (0x11 :: 0x03 :: [0x85, 0x04] ++ [0x00, 0x00]) =
      .ok (.heartbeatAck .ready) :=
  ((parse_accepts_grammar ⟨false⟩ [0x11, 0x03, 0x85, 0x04]).2.2.2.2.2.2 (.heartbeatAck .ready)
    rfl).2 (by simp) (by simp [ShortClub]) [0x00, 0x00]

end AllSquare
