import AllSquare.Firmware
import Mathlib.Data.List.Nodup

/-! # Flat JSON objects of strings

`JsonObject` is a JSON object whose members are strings, with the whitespace
between its tokens, and `text` writes it down. The parser of the firmware
versions looks for a quoted key and does not tell keys from values or from what
stands between two strings. `parse_object` says that it still reads every such
object right: between two strings there is always a colon or a comma, and no
value is one of the three keys.
-/

namespace AllSquare

/-- The whitespace JSON allows between tokens. -/
def isJsonSpace (c : Char) : Bool := c == ' ' || c == '\t' || c == '\n' || c == '\r'

/-- Whitespace between two tokens. -/
structure Gap where
  text : Text
  space : ∀ c ∈ text, isJsonSpace c = true

/-- The text of a string without quotes and backslashes, written as it is. -/
structure PlainText where
  text : Text
  no_quote : '"' ∉ text
  no_backslash : '\\' ∉ text

/-- A member, with the whitespace before and after each of its tokens. -/
structure JsonMember where
  beforeKey : Gap
  key : PlainText
  afterKey : Gap
  beforeValue : Gap
  value : PlainText
  afterValue : Gap

structure JsonObject where
  beforeObject : Gap
  /-- Whitespace after the opening brace. -/
  inside : Gap
  members : List JsonMember
  afterObject : Gap

/-- A quoted string and what follows it. -/
def quoted (s : PlainText) (rest : Text) : Text := '"' :: (s.text ++ '"' :: rest)

namespace JsonMember

/-- What stands between the key and the value. -/
def colon (m : JsonMember) : Text := m.afterKey.text ++ ':' :: m.beforeValue.text

/-- The member from its key on, and what follows it. -/
def fromKey (m : JsonMember) (rest : Text) : Text :=
  quoted m.key (m.colon ++ quoted m.value (m.afterValue.text ++ rest))

end JsonMember

namespace JsonObject

/-- The members after the first, each behind its comma. -/
def others : List JsonMember → Text → Text
  | [], rest => rest
  | m :: ms, rest => ',' :: (m.beforeKey.text ++ m.fromKey (others ms rest))

/-- The text of the object. -/
def text (o : JsonObject) : Text :=
  let close : Text := '}' :: o.afterObject.text
  o.beforeObject.text ++ '{' :: (o.inside.text ++
    match o.members with
    | [] => close
    | m :: ms => m.beforeKey.text ++ m.fromKey (others ms close))

/-- `v` is the value of the member `k`, and empty when there is none. -/
structure Has (o : JsonObject) (k v : Text) : Prop where
  value : ∀ m ∈ o.members, m.key.text = k → v = m.value.text
  missing : (∀ m ∈ o.members, m.key.text ≠ k) → v = []

end JsonObject

namespace Firmware

open Text

/-! ## What the gaps lack -/

theorem not_mem_gap (g : Gap) {c : Char} (hc : isJsonSpace c = false) : c ∉ g.text := by
  intro hmem
  have hspace := g.space c hmem
  rw [hc] at hspace
  cases hspace

theorem quote_not_mem_gap (g : Gap) : '"' ∉ g.text := not_mem_gap g (by decide)

theorem colon_not_mem_gap (g : Gap) : ':' ∉ g.text := not_mem_gap g (by decide)

theorem quote_not_mem_colon (m : JsonMember) : '"' ∉ m.colon := by
  have hkey := quote_not_mem_gap m.afterKey
  have hvalue := quote_not_mem_gap m.beforeValue
  simp [JsonMember.colon, hkey, hvalue]

/-! ## Searching a key -/

/-- The value that follows a key. -/
def valueAfter (s : Text) : Option Text :=
  (after [':'] s).bind fun rest => (after ['"'] rest).bind (before '"')

/-- Past its key, a member's value is found. -/
theorem valueAfter_colon (m : JsonMember) (rest : Text) :
    valueAfter (m.colon ++ quoted m.value rest) = some m.value.text := by
  have hcolon : after [':'] (m.colon ++ quoted m.value rest) =
      some (m.beforeValue.text ++ quoted m.value rest) := by
    unfold JsonMember.colon
    rw [List.append_assoc, List.cons_append]
    exact after_char (colon_not_mem_gap m.afterKey) _
  have hquote : after ['"'] (m.beforeValue.text ++ quoted m.value rest) =
      some (m.value.text ++ '"' :: rest) :=
    after_char (quote_not_mem_gap m.beforeValue) _
  unfold valueAfter
  rw [hcolon, Option.bind_some, hquote, Option.bind_some]
  exact before_append m.value.no_quote rest

section Search

variable {k : Text}

/-- The value the search for `k` gives. -/
def search (k s : Text) : Option Text := (after ('"' :: (k ++ ['"'])) s).bind valueAfter

theorem field_eq (s : Text) : field s k = (search k s).getD [] := rfl

/-- The search passes text without quotes. -/
theorem search_append {g : Text} (hg : '"' ∉ g) (s : Text) : search k (g ++ s) = search k s := by
  unfold search
  rw [after_append_of_not_mem hg]

/-- At a quote the search passes what is not the key. -/
theorem search_quote (hk : '"' ∉ k) {x : Text} (hx : '"' ∉ x) (hne : x ≠ k) (s : Text) :
    search k ('"' :: (x ++ '"' :: s)) = search k ('"' :: s) := by
  unfold search
  rw [after_delimited hk hx, if_neg hne]

/-- The search at a member's key: the member's value if it is the key, and else
the search goes on from the value's closing quote. -/
theorem search_fromKey (hk : '"' ∉ k) (hcolon : ':' ∉ k) {m : JsonMember}
    (hvalue : m.value.text ≠ k) (rest : Text) :
    search k (m.fromKey rest) =
      if m.key.text = k then some m.value.text
      else search k ('"' :: (m.afterValue.text ++ rest)) := by
  unfold JsonMember.fromKey
  by_cases hkey : m.key.text = k
  · unfold search
    rw [if_pos hkey, quoted, after_delimited hk m.key.no_quote, if_pos hkey, Option.bind_some]
    exact valueAfter_colon m _
  · have hgap : m.colon ≠ k := by
      rintro rfl
      exact hcolon (by simp [JsonMember.colon])
    -- past the key's opening quote, its closing one, and the value's opening one
    rw [if_neg hkey, quoted, search_quote hk m.key.no_quote hkey, quoted,
      search_quote hk (quote_not_mem_colon m) hgap, search_quote hk m.value.no_quote hvalue]

/-- The member the search finds. -/
def find (k : Text) (ms : List JsonMember) : Option Text :=
  (ms.find? fun m => m.key.text = k).map fun m => m.value.text

theorem search_fromKey_find (hk : '"' ∉ k) (hcolon : ':' ∉ k) {m : JsonMember}
    {ms : List JsonMember} (hvalue : m.value.text ≠ k) {rest : Text}
    (hrest : search k ('"' :: (m.afterValue.text ++ rest)) = find k ms) :
    search k (m.fromKey rest) = find k (m :: ms) := by
  rw [search_fromKey hk hcolon hvalue, hrest]
  unfold find
  by_cases hkey : m.key.text = k
  · simp [hkey]
  · simp [hkey]

/-- Behind a closed string: the search goes through the members that follow. -/
theorem search_others (hk : '"' ∉ k) (hcolon : ':' ∉ k) (hcomma : ',' ∉ k)
    {ms : List JsonMember} (hvalues : ∀ m ∈ ms, m.value.text ≠ k) {g : Text} (hg : '"' ∉ g)
    {close : Text} (hclose : '"' ∉ close) :
    search k ('"' :: (g ++ JsonObject.others ms close)) = find k ms := by
  induction ms generalizing g with
  | nil =>
    -- no quote is left
    have hnone : '"' ∉ g ++ close := by simp [hg, hclose]
    unfold search
    rw [JsonObject.others, after_last_delimiter hnone]
    rfl
  | cons m ms ih =>
    have hbefore := quote_not_mem_gap m.beforeKey
    have hgap : '"' ∉ g ++ ',' :: m.beforeKey.text := by simp [hg, hbefore]
    have hne : g ++ ',' :: m.beforeKey.text ≠ k := by
      rintro rfl
      exact hcomma (by simp)
    have hrest := ih (fun m' hm' => hvalues m' (List.mem_cons_of_mem _ hm'))
      (quote_not_mem_gap m.afterValue)
    have hfrom := search_fromKey_find hk hcolon (hvalues m List.mem_cons_self) hrest
    have htext : g ++ JsonObject.others (m :: ms) close =
        (g ++ ',' :: m.beforeKey.text) ++ m.fromKey (JsonObject.others ms close) := by
      simp [JsonObject.others]
    rw [htext, ← hfrom, JsonMember.fromKey, quoted]
    exact search_quote hk hgap hne _

/-- The search over the whole object. -/
theorem search_text (hk : '"' ∉ k) (hcolon : ':' ∉ k) (hcomma : ',' ∉ k) {o : JsonObject}
    (hvalues : ∀ m ∈ o.members, m.value.text ≠ k) : search k o.text = find k o.members := by
  have hopen : '"' ∉ o.beforeObject.text ++ '{' :: o.inside.text := by
    have hbefore := quote_not_mem_gap o.beforeObject
    have hinside := quote_not_mem_gap o.inside
    simp [hbefore, hinside]
  have hclose : '"' ∉ '}' :: o.afterObject.text := by
    have hafter := quote_not_mem_gap o.afterObject
    simp [hafter]
  cases hms : o.members with
  | nil =>
    have htext : o.text =
        (o.beforeObject.text ++ '{' :: o.inside.text) ++ '}' :: o.afterObject.text := by
      simp [JsonObject.text, hms]
    rw [htext, search_append hopen]
    unfold search
    rw [after_eq_none_of_not_mem hclose]
    rfl
  | cons m ms =>
    rw [hms] at hvalues
    have hvalue := hvalues m List.mem_cons_self
    have hrest := search_others hk hcolon hcomma
      (fun m' hm' => hvalues m' (List.mem_cons_of_mem _ hm')) (quote_not_mem_gap m.afterValue)
      hclose
    have htext : o.text = (o.beforeObject.text ++ '{' :: o.inside.text) ++
        (m.beforeKey.text ++ m.fromKey (JsonObject.others ms ('}' :: o.afterObject.text))) := by
      simp [JsonObject.text, hms]
    rw [htext, search_append hopen, search_append (quote_not_mem_gap m.beforeKey)]
    exact search_fromKey_find hk hcolon hvalue hrest

/-- Under distinct keys the member the search finds is the only one. -/
theorem has_find {o : JsonObject} (hkeys : (o.members.map fun m => m.key.text).Nodup) :
    o.Has k ((find k o.members).getD []) := by
  constructor
  · intro m hm hkey
    have hsome : (o.members.find? fun m => m.key.text = k).isSome := by
      rw [List.find?_isSome]
      exact ⟨m, hm, by simpa using hkey⟩
    obtain ⟨m', hfind⟩ := Option.isSome_iff_exists.1 hsome
    have hkey' : m'.key.text = k := by simpa using List.find?_some hfind
    have hsame : m' = m :=
      List.inj_on_of_nodup_map hkeys (List.mem_of_find?_eq_some hfind) hm (hkey'.trans hkey.symm)
    rw [find, hfind, hsame]
    rfl
  · intro hnone
    have hfind : o.members.find? (fun m => m.key.text = k) = none := by
      simpa [List.find?_eq_none] using hnone
    rw [find, hfind]
    rfl

/-- A key without quote, colon and comma is read from every object in which it
is nobody's value. -/
theorem has_field (hk : '"' ∉ k) (hcolon : ':' ∉ k) (hcomma : ',' ∉ k) {o : JsonObject}
    (hkeys : (o.members.map fun m => m.key.text).Nodup)
    (hvalues : ∀ m ∈ o.members, m.value.text ≠ k) : o.Has k (field o.text k) := by
  rw [field_eq, search_text hk hcolon hcomma hvalues]
  exact has_find hkeys

end Search

/-- The keys the parser looks for. -/
def keys : List Text := ["launcher".toList, "mmi".toList, "lm".toList]

/-- Every flat object of strings with distinct keys, none of its values one of
the keys looked for, is read right. -/
theorem parse_object (o : JsonObject) (hkeys : (o.members.map fun m => m.key.text).Nodup)
    (hvalues : ∀ m ∈ o.members, m.value.text ∉ keys) :
    o.Has "launcher".toList (parse o.text).launcher ∧
      o.Has "mmi".toList (parse o.text).mmi ∧ o.Has "lm".toList (parse o.text).lm := by
  have hfield : ∀ k ∈ keys, o.Has k (field o.text k) := by
    intro k hk
    have hplain : '"' ∉ k ∧ ':' ∉ k ∧ ',' ∉ k := by
      revert k
      decide
    obtain ⟨hquote, hcolon, hcomma⟩ := hplain
    apply has_field hquote hcolon hcomma hkeys
    intro m hm heq
    apply hvalues m hm
    rw [heq]
    exact hk
  exact ⟨hfield _ (by decide), hfield _ (by decide), hfield _ (by decide)⟩

/-- A key that extends another, values with colons and commas, a key missing. -/
theorem parse_object_extended :
    let none : Gap := ⟨[], by simp⟩
    let space : Gap := ⟨[' '], by simp [isJsonSpace]⟩
    let member (key value : Text) (hk : '"' ∉ key ∧ '\\' ∉ key) (hv : '"' ∉ value ∧ '\\' ∉ value) :
        JsonMember :=
      ⟨none, ⟨key, hk.1, hk.2⟩, space, none, ⟨value, hv.1, hv.2⟩, none⟩
    let o : JsonObject :=
      ⟨none, space, [member "lm2".toList "a:b,c".toList (by decide) (by decide),
        member "mmi".toList "\x7b1.0".toList (by decide) (by decide)], none⟩
    o.Has "launcher".toList (parse o.text).launcher ∧
      o.Has "mmi".toList (parse o.text).mmi ∧ o.Has "lm".toList (parse o.text).lm :=
  parse_object _ (by decide) (by decide)

example :
    parse "\x7b\"launcher\":\"1.0.0\",\"mmi\":\"1.2.0\",\"lm\":\"1.9.27\"\x7d".toList =
      ⟨"1.0.0".toList, "1.2.0".toList, "1.9.27".toList⟩ := by decide

end Firmware

end AllSquare
