import Mathlib.Data.List.Basic
import Mathlib.Data.Option.NAry
import Mathlib.Logic.Function.Basic
import Mathlib.Tactic.Common

/-! # Codes that can be read back

A `Coding` writes values as code words and reads them back: what it reads from a
word is the one value that has this word. So no two values share a word
(`encode_injective`). `ofReader` makes a coding of a code and any way to read it back,
`ofTable` of an injective code and a table of all values.
-/

/-- A code with a decoder that accepts just the code words. -/
structure Coding (α β : Type*) where
  encode : α → β
  decode : β → Option α
  decode_eq_some_iff : ∀ {b a}, decode b = some a ↔ b = encode a

namespace Coding

variable {α β : Type*}

theorem decode_encode (C : Coding α β) (a : α) : C.decode (C.encode a) = some a :=
  C.decode_eq_some_iff.2 rfl

theorem encode_injective (C : Coding α β) : Function.Injective C.encode := by
  intro a a' h
  have hdecode := C.decode_encode a
  rw [h, C.decode_encode] at hdecode
  exact (Option.some.inj hdecode).symm

/-- Two parts that are read back give the value made of them. -/
theorem map₂_decode_encode {γ δ ε : Type*} (C : Coding α β) (D : Coding γ δ) (f : α → γ → ε)
    (a : α) (c : γ) :
    Option.map₂ f (C.decode (C.encode a)) (D.decode (D.encode c)) = some (f a c) := by
  rw [C.decode_encode, D.decode_encode, Option.map₂_some_some]

section Constructions

variable [DecidableEq β]

/-- The coding of a code with a reader that may accept too much: what it reads is kept
if it has the word. -/
def ofReader (encode : α → β) (read : β → Option α) (hread : ∀ a, read (encode a) = some a) :
    Coding α β where
  encode := encode
  decode b := (read b).filter fun a => b = encode a
  decode_eq_some_iff := by
    intro b a
    rw [Option.filter_eq_some_iff, decide_eq_true_eq]
    constructor
    · rintro ⟨-, heq⟩
      exact heq
    · rintro rfl
      exact ⟨hread a, rfl⟩

/-- The coding of an injective code whose values are all in a table. -/
def ofTable (table : List α) (encode : α → β) (hall : ∀ a, a ∈ table)
    (hinj : Function.Injective encode) : Coding α β :=
  .ofReader encode (fun b => table.find? fun a => b = encode a) <| by
    intro a
    have hfound : (table.find? fun a' => encode a = encode a').isSome := by
      rw [List.find?_isSome]
      exact ⟨a, hall a, by simp⟩
    rcases Option.isSome_iff_exists.1 hfound with ⟨a', ha'⟩
    -- what is found has the word of `a`, and no other value does
    have heq : encode a = encode a' := by simpa using List.find?_some ha'
    rw [ha', hinj heq]

end Constructions

end Coding
