import Mathlib.Data.Rat.Floor
import Mathlib.Tactic.IntervalCases
import AllSquare.FixedPoint
import AllSquare.Protocol.Grammar

/-! # Notification encoders

The encoders go the other way from `parse`: they build the frame of a ball, a
club, an acknowledgment or a query reply. Main results:

* `wire_div` — a value read off the wire encodes to the integer it came from;
* `clubOf_encoded` — a parsed club re-encodes to a frame with the same reading,
  whatever the mask and however short the body was;
* `encoding_inverts_parse` — encoding a parsed notification and parsing again
  gives it back, and on full-length frames the encoding is the frame itself.
-/

namespace AllSquare

open LittleEndian

/-- A wire value: `value * scale`, rounded and clamped to `i16`. -/
def wire (value scale : ℚ) : Int16 :=
  Int16.ofInt (FixedPoint.quantize (-32768) 32767 scale value)

/-- Encode a ball notification (17 bytes). -/
def ballNotification (ball : BallMetrics) : List UInt8 :=
  [0x11, 0x02, ball.shotType] ++ i16ToLe (wire ball.speed 100) ++
    i16ToLe (wire ball.launchAngle 100) ++ i16ToLe (wire ball.direction 100) ++
    i16ToLe ball.totalSpin ++ i16ToLe (wire ball.spinAxis 100) ++
    i16ToLe ball.backSpin ++ i16ToLe ball.sideSpin

/-- The eight fields of a club notification with their scales, in wire order. -/
def clubFields (ft : Features) (club : ClubMetrics) : List (Option ℚ × ℚ) :=
  [(club.path, clubScale), (club.faceAngle, clubScale), (club.attackAngle, clubScale),
    (club.dynamicLoft, clubScale), (club.impactHorizontal, impactScale ft),
    (club.impactVertical, impactScale ft), (club.clubSpeed, clubScale),
    (club.smashFactor, clubScale)]

/-- The wire value of one field; the sentinel when there is none. -/
def fieldRaw : Option ℚ × ℚ → Int16
  | (some v, scale) => wire v scale
  | (none, _) => clubSentinel

/-- Widen the mask by the bit of every measured field, from bit `i` on. -/
def widenMask (mask : UInt8) (i : ℕ) : List (Option ℚ × ℚ) → UInt8
  | [] => mask
  | f :: fs =>
    widenMask (if f.1.isSome then mask ||| (1 <<< UInt8.ofNat i) else mask) (i + 1) fs

/-- Encode a club notification in the full form (19 bytes). -/
def clubNotification (ft : Features) (club : ClubMetrics) : List UInt8 :=
  [0x11, 0x07, widenMask club.mask 0 (clubFields ft club)] ++
    (clubFields ft club).flatMap fun f => i16ToLe (fieldRaw f)

def stateByte : DeviceState → UInt8
  | .none => 0
  | .idle => 1
  | .init => 2
  | .detect => 3
  | .ready => 4
  | .shot => 5
  | .done => 6
  | .unknown v => v

/-- Encode a heartbeat acknowledgment (9 bytes). -/
def heartbeatAck (state : DeviceState) : List UInt8 :=
  [0x11, 0x03, 0x85, stateByte state, 0x04, 0x03, 0x00, 0x00, 0x00]

/-- Encode a query reply with the given payload. -/
def queryResponse (payload : List UInt8) : List UInt8 := [0x11, 0x06] ++ payload

/-! ## Wire values -/

theorem impactScale_ne_zero (ft : Features) : impactScale ft ≠ 0 := by
  unfold impactScale clubScale
  split <;> norm_num

theorem clubScale_ne_zero : clubScale ≠ 0 := by
  unfold clubScale
  norm_num

/-- A value read off the wire encodes to the integer it came from. -/
theorem wire_div (raw : Int16) {scale : ℚ} (hs : scale ≠ 0) :
    wire (raw.toInt / scale) scale = raw := by
  have hlo := raw.le_toInt
  have hhi := raw.toInt_lt
  unfold wire
  rw [FixedPoint.quantize_grid hs (by omega) (by omega), Int16.ofInt_toInt]

@[simp] theorem wire_hundredths (raw : Int16) : wire (hundredths raw) 100 = raw :=
  wire_div raw (by norm_num)

/-- Club field `i` is marked unmeasured by the mask. -/
def MaskClear (mask : UInt8) (i : ℕ) : Prop := mask &&& (1 <<< UInt8.ofNat i) = 0

instance (mask : UInt8) (i : ℕ) : Decidable (MaskClear mask i) :=
  inferInstanceAs (Decidable (_ = _))

/-- A club frame with both bytes of every mask-clear field set to `0xff`. -/
def clearMasked (mask : UInt8) (f : List UInt8) : List UInt8 :=
  f.mapIdx fun j b => if 3 ≤ j ∧ MaskClear mask ((j - 3) / 2) then 0xff else b

/-- What a parsed field encodes to: the sentinel behind a clear mask bit, the
wire value otherwise (a wire value equal to the sentinel included). -/
theorem fieldRaw_getScaled {mask bit : UInt8} {body : List UInt8} {i : ℕ} {scale : ℚ}
    (hs : scale ≠ 0) (h : i * 2 + 2 ≤ body.length) :
    fieldRaw (getScaled mask body i bit scale, scale) =
      if mask &&& (1 <<< bit) = 0 then clubSentinel else i16At body (i * 2) h := by
  unfold getScaled clubField
  rw [dif_neg (by omega)]
  by_cases hm : mask &&& (1 <<< bit) = 0
  · simp [hm, fieldRaw]
  · -- a wire value equal to the sentinel is read as unmeasured and written back as it was
    by_cases hr : i16At body (i * 2) h = clubSentinel
    · simp [hm, hr, fieldRaw]
    · simp [hm, hr, fieldRaw, wire_div _ hs]

/-- A field re-parsed from its encoding is the field that was encoded. -/
theorem clubField_fieldRaw {mask bit : UInt8} {body : List UInt8} {i : ℕ} {scale : ℚ}
    (hs : scale ≠ 0) :
    clubField (fieldRaw (getScaled mask body i bit scale, scale)) mask bit scale =
      getScaled mask body i bit scale := by
  by_cases h : i * 2 + 2 ≤ body.length
  · rw [fieldRaw_getScaled hs h]
    unfold getScaled
    rw [dif_neg (by omega)]
    split
    · simp [clubField, *]
    · rfl
  · -- past the end of the body the field is unmeasured and encodes to the sentinel
    have hn : getScaled mask body i bit scale = none := dif_pos (by omega)
    rw [hn]
    simp [fieldRaw, clubField]

/-! ## The mask of a parsed club frame covers its measured fields -/

theorem or_shift_of_and {w : ℕ} {x : BitVec w} {s : ℕ} (h : x &&& (1#w <<< s) ≠ 0) :
    x ||| (1#w <<< s) = x := by
  have hbit : x.getLsbD s = true := by
    by_contra hn
    apply h
    ext i hi
    simp
    intro hx
    grind
  ext i hi
  simp
  grind

theorem or_of_bit {mask bit : UInt8} (h : mask &&& (1 <<< bit) ≠ 0) :
    mask ||| (1 <<< bit) = mask := by
  rw [← UInt8.toBitVec_inj]
  refine or_shift_of_and fun hz => h ?_
  rw [← UInt8.toBitVec_inj]
  exact hz

/-- A measured field's mask bit is set. -/
theorem getScaled_bit {mask bit : UInt8} {body : List UInt8} {i : ℕ} {scale : ℚ}
    (h : (getScaled mask body i bit scale).isSome) : mask ||| (1 <<< bit) = mask := by
  apply or_of_bit
  intro hz
  unfold getScaled clubField at h
  split at h
  · cases h
  · simp [hz] at h

/-- Widening by a field whose bit the mask has leaves the mask alone. -/
theorem widenMask_cons {mask : UInt8} {i : ℕ} {f : Option ℚ × ℚ} {fs : List (Option ℚ × ℚ)}
    (h : f.1.isSome → mask ||| (1 <<< UInt8.ofNat i) = mask) :
    widenMask mask i (f :: fs) = widenMask mask (i + 1) fs := by
  unfold widenMask
  split
  · rw [h ‹_›]
    cases fs <;> rfl
  · cases fs <;> rfl

theorem widenMask_clubOf (ft : Features) (mask : UInt8) (body : List UInt8) :
    widenMask mask 0 (clubFields ft (clubOf ft mask body)) = mask := by
  unfold clubFields clubOf
  rw [widenMask_cons getScaled_bit, widenMask_cons getScaled_bit, widenMask_cons getScaled_bit,
    widenMask_cons getScaled_bit, widenMask_cons getScaled_bit, widenMask_cons getScaled_bit,
    widenMask_cons getScaled_bit, widenMask_cons getScaled_bit]
  rfl

/-! ## Parsing what was encoded -/

theorem parse_ballNotification {ft : Features} {f : List UInt8} {b : BallMetrics}
    (h : parse ft f = .ok (.ball b)) : parse ft (ballNotification b) = .ok (.ball b) := by
  cases decodes_of_parse h with
  | ball t s₀ s₁ l₀ l₁ d₀ d₁ t₀ t₁ a₀ a₁ b₀ b₁ c₀ c₁ rest =>
    have henc := @Decodes.ball ft t s₀ s₁ l₀ l₁ d₀ d₁ t₀ t₁ a₀ a₁ b₀ b₁ c₀ c₁ []
    simpa [ballNotification, i16ToLe_ofLe] using henc.parse_eq

/-- A body holding the encoding of a parsed field at its place parses to that
field again. -/
theorem getScaled_of_raw {mask bit : UInt8} {body body' : List UInt8} {i : ℕ} {scale : ℚ}
    (hs : scale ≠ 0) (h : i * 2 + 2 ≤ body'.length)
    (hraw : i16At body' (i * 2) h = fieldRaw (getScaled mask body i bit scale, scale)) :
    getScaled mask body' i bit scale = getScaled mask body i bit scale := by
  conv_lhs => unfold getScaled
  rw [dif_neg (by omega), hraw, clubField_fieldRaw hs]

theorem clubOf_encoded (ft : Features) (mask : UInt8) (body : List UInt8) :
    clubOf ft mask ((clubFields ft (clubOf ft mask body)).flatMap fun f => i16ToLe (fieldRaw f)) =
      clubOf ft mask body := by
  have hcs := clubScale_ne_zero
  have his := impactScale_ne_zero ft
  rw [clubOf, clubOf, ClubMetrics.mk.injEq]
  refine ⟨rfl, ?_, ?_, ?_, ?_, ?_, ?_, ?_, ?_⟩
  · exact getScaled_of_raw hcs (by simp [clubFields, i16ToLe]) (i16OfLe_bytes _)
  · exact getScaled_of_raw hcs (by simp [clubFields, i16ToLe]) (i16OfLe_bytes _)
  · exact getScaled_of_raw hcs (by simp [clubFields, i16ToLe]) (i16OfLe_bytes _)
  · exact getScaled_of_raw hcs (by simp [clubFields, i16ToLe]) (i16OfLe_bytes _)
  -- the two impact fields have the feature's scale
  · exact getScaled_of_raw his (by simp [clubFields, i16ToLe]) (i16OfLe_bytes _)
  · exact getScaled_of_raw his (by simp [clubFields, i16ToLe]) (i16OfLe_bytes _)
  · exact getScaled_of_raw hcs (by simp [clubFields, i16ToLe]) (i16OfLe_bytes _)
  · exact getScaled_of_raw hcs (by simp [clubFields, i16ToLe]) (i16OfLe_bytes _)

theorem parse_clubNotification {ft : Features} {f : List UInt8} {c : ClubMetrics}
    (h : parse ft f = .ok (.club c)) : parse ft (clubNotification ft c) = .ok (.club c) := by
  cases decodes_of_parse h with
  | club mask body =>
    unfold clubNotification
    rw [show (clubOf ft mask body).mask = mask from rfl, widenMask_clubOf]
    conv_rhs => rw [← clubOf_encoded]
    exact (Decodes.club mask _).parse_eq

theorem stateByte_ofByte (v : UInt8) : stateByte (DeviceState.ofByte v) = v := by
  unfold DeviceState.ofByte
  split <;> rfl

theorem parse_heartbeatAck {ft : Features} {f : List UInt8} {s : DeviceState}
    (h : parse ft f = .ok (.heartbeatAck s)) :
    parse ft (heartbeatAck s) = .ok (.heartbeatAck s) := by
  cases decodes_of_parse h with
  | heartbeatAck counter v rest =>
    have henc := @Decodes.heartbeatAck ft 0x85 v [0x04, 0x03, 0x00, 0x00, 0x00]
    simpa [heartbeatAck, stateByte_ofByte] using henc.parse_eq

/-! ## Encoding what was parsed -/

theorem ballNotification_of_parse {ft : Features} {f : List UInt8} {b : BallMetrics}
    (h : parse ft f = .ok (.ball b)) (hlen : f.length = 17) : ballNotification b = f := by
  cases decodes_of_parse h with
  | ball t s₀ s₁ l₀ l₁ d₀ d₁ t₀ t₁ a₀ a₁ b₀ b₁ c₀ c₁ rest =>
    have hrest : rest = [] := by simpa using hlen
    simp [ballNotification, i16ToLe_ofLe, hrest]

theorem queryResponse_of_parse {ft : Features} {f p : List UInt8}
    (h : parse ft f = .ok (.queryResponse p)) : queryResponse p = f := by
  cases decodes_of_parse h with
  | queryResponse payload => rfl

/-- The two bytes a parsed field encodes to. -/
theorem fieldBytes {mask bit : UInt8} {body : List UInt8} {i : ℕ} {scale : ℚ}
    (hs : scale ≠ 0) (h : i * 2 + 2 ≤ body.length) :
    i16ToLe (fieldRaw (getScaled mask body i bit scale, scale)) =
      [if mask &&& (1 <<< bit) = 0 then 0xff else body[i * 2],
        if mask &&& (1 <<< bit) = 0 then 0xff else body[i * 2 + 1]] := by
  rw [fieldRaw_getScaled hs h]
  split
  · rfl
  · exact i16ToLe_ofLe _ _

/-- A 19-byte club frame re-encodes to itself, except that a field whose mask
bit is clear comes back as the sentinel. -/
theorem clubNotification_of_parse {ft : Features} {f : List UInt8} {c : ClubMetrics}
    (h : parse ft f = .ok (.club c)) (hlen : f.length = 19) :
    clubNotification ft c = clearMasked c.mask f := by
  -- the eight fields as the source lists them, two bytes each, after the header
  have hcs := clubScale_ne_zero
  have his := impactScale_ne_zero ft
  cases decodes_of_parse h with
  | club mask body =>
    have hbody : body.length = 16 := by simpa using hlen
    have henc : clubNotification ft (clubOf ft mask body) = 0x11 :: 0x07 :: mask ::
        (i16ToLe (fieldRaw (getScaled mask body 0 0 clubScale, clubScale)) ++
          i16ToLe (fieldRaw (getScaled mask body 1 1 clubScale, clubScale)) ++
          i16ToLe (fieldRaw (getScaled mask body 2 2 clubScale, clubScale)) ++
          i16ToLe (fieldRaw (getScaled mask body 3 3 clubScale, clubScale)) ++
          i16ToLe (fieldRaw (getScaled mask body 4 4 (impactScale ft), impactScale ft)) ++
          i16ToLe (fieldRaw (getScaled mask body 5 5 (impactScale ft), impactScale ft)) ++
          i16ToLe (fieldRaw (getScaled mask body 6 6 clubScale, clubScale)) ++
          i16ToLe (fieldRaw (getScaled mask body 7 7 clubScale, clubScale))) := by
      unfold clubNotification
      rw [show (clubOf ft mask body).mask = mask from rfl, widenMask_clubOf]
      rfl
    rw [henc, fieldBytes hcs (by omega), fieldBytes hcs (by omega), fieldBytes hcs (by omega),
      fieldBytes hcs (by omega), fieldBytes his (by omega), fieldBytes his (by omega),
      fieldBytes hcs (by omega), fieldBytes hcs (by omega)]
    -- both sides have 19 bytes; byte `j ≥ 3` belongs to field `(j - 3) / 2`
    apply List.ext_getElem (by simp [clearMasked, hbody])
    intro j hj hj'
    have hj : j < 19 := by simpa using hj
    simp only [clearMasked, List.getElem_mapIdx]
    interval_cases j <;> simp [MaskClear, clubOf]

/-- A 19-byte club frame whose mask-clear fields all hold the sentinel is left
alone by `clearMasked`. -/
theorem clearMasked_eq_self {mask : UInt8} {f : List UInt8} (hlen : f.length = 19)
    (h : ∀ i < 8, MaskClear mask i →
      f[3 + 2 * i]? = some 0xff ∧ f[4 + 2 * i]? = some 0xff) :
    clearMasked mask f = f := by
  apply List.ext_getElem (by simp [clearMasked])
  intro j hj hj'
  simp only [clearMasked, List.getElem_mapIdx]
  split
  · rename_i hc
    rcases hc with ⟨h3, hclear⟩
    rcases h ((j - 3) / 2) (by omega) hclear with ⟨hlow, hhigh⟩
    -- `j` is the low or the high byte of its field
    rcases Nat.even_or_odd' (j - 3) with ⟨k, hk | hk⟩
    · rw [show 3 + 2 * ((j - 3) / 2) = j by omega, List.getElem?_eq_getElem hj'] at hlow
      exact (Option.some.inj hlow).symm
    · rw [show 4 + 2 * ((j - 3) / 2) = j by omega, List.getElem?_eq_getElem hj'] at hhigh
      exact (Option.some.inj hhigh).symm
  · rfl

/-! ## The encoders invert the parser -/

/-- The encoder for each notification that has one. -/
def encoding (ft : Features) : Notification → Option (List UInt8)
  | .ball b => some (ballNotification b)
  | .club c => some (clubNotification ft c)
  | .heartbeatAck s => some (heartbeatAck s)
  | .queryResponse p => some (queryResponse p)
  | .sensor _ | .alignment _ | .battery _ _ | .clock _ => none

/-- Encoding a parsed notification and parsing again gives it back, whatever
frame it came from; and the encoding is that frame byte for byte for a 17-byte
ball frame, a query response and a 19-byte club frame, up to the mask-clear
fields of the last. -/
theorem encoding_inverts_parse (ft : Features) (f : List UInt8) (n : Notification)
    (h : parse ft f = .ok n) :
    (∀ e, encoding ft n = some e → parse ft e = .ok n) ∧
    (∀ b, n = .ball b → f.length = 17 → ballNotification b = f) ∧
    (∀ p, n = .queryResponse p → queryResponse p = f) ∧
    (∀ c mask, n = .club c → f.length = 19 → f[2]? = some mask →
      clubNotification ft c = clearMasked mask f ∧
      ((∀ i < 8, MaskClear mask i →
          f[3 + 2 * i]? = some 0xff ∧ f[4 + 2 * i]? = some 0xff) →
        clubNotification ft c = f)) := by
  refine ⟨?_, ?_, ?_, ?_⟩
  · intro e he
    cases n with
    | ball b =>
      cases he
      exact parse_ballNotification h
    | club c =>
      cases he
      exact parse_clubNotification h
    | heartbeatAck s =>
      cases he
      exact parse_heartbeatAck h
    | queryResponse p =>
      cases he
      -- a query response is written back byte for byte, so its parse is the given one
      rw [queryResponse_of_parse h]
      exact h
    | sensor _ | alignment _ | battery _ _ | clock _ => cases he
  · rintro b rfl hlen
    exact ballNotification_of_parse h hlen
  · rintro p rfl
    exact queryResponse_of_parse h
  · rintro c mask rfl hlen hmask
    have hm : c.mask = mask := by
      cases decodes_of_parse h with
      | club m body => simpa [clubOf] using hmask
    have henc : clubNotification ft c = clearMasked mask f := by
      rw [← hm]
      exact clubNotification_of_parse h hlen
    exact ⟨henc, fun hs => henc.trans (clearMasked_eq_self hlen hs)⟩

/-- A club frame with two mask bits clear over fields that hold wire values:
it re-encodes with those two fields cleared. -/
theorem encoding_inverts_parse_masked_club :
    clubNotification ⟨false⟩
        (clubOf ⟨false⟩ 0x5f [189, 1, 45, 3, 214, 0, 233, 15, 109, 243, 49, 249, 70, 1, 101, 0]) =
      [17, 7, 0x5f, 189, 1, 45, 3, 214, 0, 233, 15, 109, 243, 0xff, 0xff, 70, 1, 0xff, 0xff] :=
  ((encoding_inverts_parse ⟨false⟩
      [17, 7, 0x5f, 189, 1, 45, 3, 214, 0, 233, 15, 109, 243, 49, 249, 70, 1, 101, 0] _
      (Decodes.club 0x5f _).parse_eq).2.2.2 _ 0x5f rfl rfl rfl).1.trans (by decide)

end AllSquare
