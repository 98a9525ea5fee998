import Mathlib.Tactic.Common
import AllSquare.Protocol.Notification

/-! # The frame grammar

`Decodes ft d n` lists the frames the wire protocol has and the notification
each stands for, one constructor per layout, with every byte named. It is the
abstract reading of the protocol; `parse_ok_iff` says the parser accepts
exactly these frames, with exactly these readings. Later modules reason about
accepted frames by cases on `Decodes` and never unfold the parser.
-/

namespace AllSquare

open LittleEndian

/-- The frames of the protocol and what they say. Bytes past the fixed layout
are ignored, except by a query response and a club body. -/
inductive Decodes (ft : Features) : List UInt8 → Notification → Prop
  | battery (percent state : UInt8) (rest : List UInt8) :
      Decodes ft (0x91 :: percent :: state :: rest)
        (.battery percent (ChargingState.ofByte state))
  | clock (b₀ b₁ b₂ b₃ b₄ b₅ b₆ b₇ : UInt8) (rest : List UInt8) :
      Decodes ft (0x71 :: b₀ :: b₁ :: b₂ :: b₃ :: b₄ :: b₅ :: b₆ :: b₇ :: rest)
        (.clock (UInt64.ofNat (natOfBe [b₀, b₁, b₂, b₃, b₄, b₅, b₆, b₇])))
  | sensor (counter ready detected x₀ x₁ x₂ x₃ y₀ y₁ y₂ y₃ z₀ z₁ z₂ z₃ : UInt8)
      (rest : List UInt8) :
      Decodes ft
        (0x11 :: 0x01 :: counter :: ready :: detected :: x₀ :: x₁ :: x₂ :: x₃ ::
          y₀ :: y₁ :: y₂ :: y₃ :: z₀ :: z₁ :: z₂ :: z₃ :: rest)
        (.sensor
          { ready := ready == 0x01 || ready == 0x02
            detected := detected == 0x01
            position := (i32OfLe x₀ x₁ x₂ x₃, i32OfLe y₀ y₁ y₂ y₃, i32OfLe z₀ z₁ z₂ z₃) })
  | ball (shotType s₀ s₁ l₀ l₁ d₀ d₁ t₀ t₁ a₀ a₁ b₀ b₁ c₀ c₁ : UInt8) (rest : List UInt8) :
      Decodes ft
        (0x11 :: 0x02 :: shotType :: s₀ :: s₁ :: l₀ :: l₁ :: d₀ :: d₁ ::
          t₀ :: t₁ :: a₀ :: a₁ :: b₀ :: b₁ :: c₀ :: c₁ :: rest)
        (.ball
          { shotType := shotType
            speed := hundredths (i16OfLe s₀ s₁)
            launchAngle := hundredths (i16OfLe l₀ l₁)
            direction := hundredths (i16OfLe d₀ d₁)
            totalSpin := i16OfLe t₀ t₁
            spinAxis := hundredths (i16OfLe a₀ a₁)
            backSpin := i16OfLe b₀ b₁
            sideSpin := i16OfLe c₀ c₁ })
  | heartbeatAck (counter state : UInt8) (rest : List UInt8) :
      Decodes ft (0x11 :: 0x03 :: counter :: state :: rest)
        (.heartbeatAck (DeviceState.ofByte state))
  | alignment (counter u v a₀ a₁ : UInt8) (rest : List UInt8) :
      Decodes ft (0x11 :: 0x04 :: counter :: u :: v :: a₀ :: a₁ :: rest)
        (.alignment (hundredths (i16OfLe a₀ a₁)))
  | queryResponse (payload : List UInt8) :
      Decodes ft (0x11 :: 0x06 :: payload) (.queryResponse payload)
  | club (mask : UInt8) (body : List UInt8) :
      Decodes ft (0x11 :: 0x07 :: mask :: body) (.club (clubOf ft mask body))

/-- Every frame of the grammar parses to its reading. -/
theorem Decodes.parse_eq {ft : Features} {d : List UInt8} {n : Notification}
    (h : Decodes ft d n) : parse ft d = .ok n := by
  cases h <;>
    simp [parse, parse11, need, ballOf, i16At, i32At, bind, Except.bind, pure, Except.pure]

/-- A computation behind a length check succeeds only when the check does. -/
theorem need_bind_ok {α : Type} {kind : String} {data : List UInt8} {n : ℕ}
    {k : PLift (n ≤ data.length) → Except Error α} {a : α}
    (h : need kind data n >>= k = .ok a) : ∃ hn : n ≤ data.length, k ⟨hn⟩ = .ok a := by
  -- past the check the continuation ran; before it there is only its error
  unfold need at h
  split at h
  · exact ⟨‹_›, h⟩
  · cases h

/-- Inversion for the `0x11` family: each branch's length check leaves enough
bytes to name every byte it reads. -/
theorem decodes_of_parse11 {ft : Features} {rest : List UInt8} {n : Notification}
    (h : parse11 ft (0x11 :: rest) = .ok n) : Decodes ft (0x11 :: rest) n := by
  unfold parse11 at h
  rcases need_bind_ok h with ⟨h2, h⟩
  rcases rest with _ | ⟨b, rest⟩
  · simp at h2
  simp only [List.getElem_cons_succ, List.getElem_cons_zero] at h
  split at h
  · -- sensor
    rcases need_bind_ok h with ⟨hl, h⟩
    rcases rest with _ | ⟨c, _ | ⟨r, _ | ⟨d, _ | ⟨x₀, _ | ⟨x₁, _ | ⟨x₂, _ | ⟨x₃, _ | ⟨y₀, _ | ⟨y₁,
      _ | ⟨y₂, _ | ⟨y₃, _ | ⟨z₀, _ | ⟨z₁, _ | ⟨z₂, _ | ⟨z₃, rest⟩⟩⟩⟩⟩⟩⟩⟩⟩⟩⟩⟩⟩⟩⟩
    case cons =>
      cases h
      exact .sensor c r d x₀ x₁ x₂ x₃ y₀ y₁ y₂ y₃ z₀ z₁ z₂ z₃ rest
    all_goals simp at hl
  · -- ball
    rcases need_bind_ok h with ⟨hl, h⟩
    rcases rest with _ | ⟨t, _ | ⟨s₀, _ | ⟨s₁, _ | ⟨l₀, _ | ⟨l₁, _ | ⟨d₀, _ | ⟨d₁, _ | ⟨t₀, _ | ⟨t₁,
      _ | ⟨a₀, _ | ⟨a₁, _ | ⟨b₀, _ | ⟨b₁, _ | ⟨c₀, _ | ⟨c₁, rest⟩⟩⟩⟩⟩⟩⟩⟩⟩⟩⟩⟩⟩⟩⟩
    case cons =>
      cases h
      exact .ball t s₀ s₁ l₀ l₁ d₀ d₁ t₀ t₁ a₀ a₁ b₀ b₁ c₀ c₁ rest
    all_goals simp at hl
  · -- heartbeat ack
    rcases need_bind_ok h with ⟨hl, h⟩
    rcases rest with _ | ⟨c, _ | ⟨s, rest⟩⟩
    case cons =>
      cases h
      exact .heartbeatAck c s rest
    all_goals simp at hl
  · -- alignment
    rcases need_bind_ok h with ⟨hl, h⟩
    rcases rest with _ | ⟨c, _ | ⟨u, _ | ⟨v, _ | ⟨a₀, _ | ⟨a₁, rest⟩⟩⟩⟩⟩
    case cons =>
      cases h
      exact .alignment c u v a₀ a₁ rest
    all_goals simp at hl
  · -- query response
    cases h
    exact .queryResponse rest
  · -- club
    rcases need_bind_ok h with ⟨hl, h⟩
    rcases rest with _ | ⟨mask, body⟩
    · simp at hl
    · cases h
      exact .club mask body
  · cases h

/-- Inversion for the whole parser. -/
theorem decodes_of_parse {ft : Features} {d : List UInt8} {n : Notification}
    (h : parse ft d = .ok n) : Decodes ft d n := by
  rcases d with _ | ⟨b, rest⟩
  · cases h
  unfold parse at h
  rw [dif_neg (List.cons_ne_nil b rest)] at h
  simp only [List.getElem_cons_zero] at h
  split at h
  · -- battery
    rcases need_bind_ok h with ⟨hl, h⟩
    rcases rest with _ | ⟨p, _ | ⟨s, rest⟩⟩
    case cons =>
      cases h
      exact .battery p s rest
    all_goals simp at hl
  · -- clock
    rcases need_bind_ok h with ⟨hl, h⟩
    rcases rest with _ | ⟨b₀, _ | ⟨b₁, _ | ⟨b₂, _ | ⟨b₃, _ | ⟨b₄, _ | ⟨b₅, _ | ⟨b₆, _ | ⟨b₇,
      rest⟩⟩⟩⟩⟩⟩⟩⟩
    case cons =>
      cases h
      exact .clock b₀ b₁ b₂ b₃ b₄ b₅ b₆ b₇ rest
    all_goals simp at hl
  · exact decodes_of_parse11 h
  · cases h

/-- A computation behind a length check reports an empty payload only past it. -/
theorem need_bind_disconnected {α : Type} {kind : String} {data : List UInt8} {n : ℕ}
    {k : PLift (n ≤ data.length) → Except Error α}
    (h : need kind data n >>= k = .error .disconnected) :
    ∃ hn : n ≤ data.length, k ⟨hn⟩ = .error .disconnected := by
  unfold need at h
  split at h
  · exact ⟨‹_›, h⟩
  · cases h

/-- Only an empty payload parses to the error of a closed link. -/
theorem parse_ne_disconnected {ft : Features} {d : List UInt8} (hne : d ≠ []) :
    parse ft d ≠ .error .disconnected := by
  intro h
  unfold parse at h
  rw [dif_neg hne] at h
  dsimp only at h
  split at h
  · rcases need_bind_disconnected h with ⟨_, h⟩
    cases h
  · rcases need_bind_disconnected h with ⟨_, h⟩
    cases h
  · unfold parse11 at h
    rcases need_bind_disconnected h with ⟨_, h⟩
    dsimp only at h
    split at h
    all_goals first
      -- a failed length check reports a truncation, and past it every branch succeeds
      | (obtain ⟨_, h⟩ := need_bind_disconnected h
         cases h)
      | cases h
  · cases h

/-- The parser accepts exactly the frame grammar. -/
theorem parse_ok_iff {ft : Features} {d : List UInt8} {n : Notification} :
    parse ft d = .ok n ↔ Decodes ft d n :=
  ⟨decodes_of_parse, Decodes.parse_eq⟩

end AllSquare
