import AllSquare.Client.Model
import AllSquare.Mpsc

/-! # Reading notifications from a channel

Both Bluetooth backends receive notifications on a thread of their own and pass them
on over a channel, which the transport's `read` looks into. `Delivers` says what reads
of a channel give: the notifications that arrived, each once, in order and cut to the
buffer, and behind the last of them zero bytes. A read gives zero bytes for an empty
notification as well, wherever that stands (`Delivers.zero_bytes`). A transport whose
steps are operations of the channel delivers (`delivers_of_refines`).
-/

namespace AllSquare

namespace Ble

open Mpsc Reactive

/-- The channel of notification payloads. -/
abbrev Notifications := Channel (List UInt8)

/-- What a read into a buffer of `len` bytes makes of a receive: what does not fit is
lost, and a thread that has ended shows as zero bytes. -/
def readFrom (len : ℕ) : Except TryRecvError (List UInt8) → IoResult (List UInt8)
  | .ok v => .ok (v.take len)
  | .error .empty => .error .wouldBlock
  | .error .disconnected => .ok []

/-- Each read that gave something gave the notification in its place among those that
`arrived`, cut to the buffer, which is zero bytes if the notification is empty; or it gave
zero bytes behind all of them, when none was left and none can come. Notifications that
were not read wait in the channel. -/
structure Delivers (len : ℕ) (arrived reads : List (List UInt8)) (ch : Notifications) : Prop where
  gave : ∀ i v, reads[i]? = some v →
    (∃ a, arrived[i]? = some a ∧ v = a.take len) ∨ (v = [] ∧ arrived.length ≤ i ∧ ch.Drained)
  waits : ch.receiver = true → arrived.drop reads.length = ch.queue

/-- Zero bytes come for an empty notification, or behind the last one. -/
theorem Delivers.zero_bytes {len : ℕ} {arrived reads : List (List UInt8)} {ch : Notifications}
    (h : Delivers len arrived reads ch) (hlen : 0 < len) {i : ℕ} (hzero : reads[i]? = some []) :
    arrived[i]? = some [] ∨ (arrived.length ≤ i ∧ ch.Drained) := by
  rcases h.gave i [] hzero with ⟨a, ha, hcut⟩ | ⟨-, hlast, hdrained⟩
  · left
    rcases List.take_eq_nil_iff.1 hcut.symm with hnone | hempty
    · omega
    · rwa [hempty] at ha
  · exact .inr ⟨hlast, hdrained⟩

/-- Reads deliver when they give the first few of the notifications and then zero bytes. -/
theorem delivers_of_split {len n k : ℕ} {arrived reads : List (List UInt8)} {ch : Notifications}
    (hreads : reads = (arrived.take n).map (·.take len) ++ List.replicate k [])
    (hn : n ≤ arrived.length) (hend : 0 < k → n = arrived.length ∧ ch.Drained)
    (hwaits : ch.receiver = true → arrived.drop n = ch.queue) : Delivers len arrived reads ch where
  gave := by
    intro i v hv
    rw [hreads] at hv
    rcases Nat.lt_or_ge i n with hi | hi
    · left
      have hlength : i < ((arrived.take n).map (·.take len)).length := by
        rw [List.length_map, List.length_take]
        omega
      rw [List.getElem?_append_left hlength, List.getElem?_map, List.getElem?_take_of_lt hi] at hv
      rcases Option.map_eq_some_iff.1 hv with ⟨a, ha, rfl⟩
      exact ⟨a, ha, rfl⟩
    · right
      have hlength : ((arrived.take n).map (·.take len)).length ≤ i := by
        rw [List.length_map, List.length_take]
        omega
      rw [List.getElem?_append_right hlength, List.getElem?_replicate] at hv
      split at hv
      · rename_i hk
        rcases hend (by omega) with ⟨hall, hdrained⟩
        exact ⟨(Option.some.inj hv).symm, hall ▸ hi, hdrained⟩
      · cases hv
  waits := by
    intro hr
    have hlength : reads.length = n + k := by
      rw [hreads, List.length_append, List.length_map, List.length_take, List.length_replicate,
        Nat.min_eq_left hn]
    rw [hlength, ← hwaits hr]
    rcases Nat.eq_zero_or_pos k with rfl | hpos
    · rfl
    · -- nothing was left to read when the end was
      rw [(hend hpos).1, List.drop_length, List.drop_eq_nil_of_le (Nat.le_add_right _ k)]

/-- What the reads of a run of the channel gave is what its receives found. -/
theorem gave_eq_founds (len : ℕ) (ch : Notifications) (ops : List (Op (List UInt8))) :
    ((machine.outs ch ops).flatMap fun o => (o.map (readFrom len)).toList).filterMap
        Except.toOption =
      (founds ch ops).map fun v => (v.map (·.take len)).getD [] := by
  induction ops generalizing ch with
  | nil => rfl
  | cons op ops ih =>
    rw [Machine.outs_cons, List.flatMap_cons, List.filterMap_append, ih, founds_cons,
      List.map_append]
    apply congrArg (· ++ _)
    show ((ch.step op).2.map (readFrom len)).toList.filterMap Except.toOption =
      (finds (ch.step op).2).map _
    cases (ch.step op).2 with
    | none => rfl
    | some r =>
      rcases r with e | v
      · cases e <;> rfl
      · rfl

/-- A machine that acts on a new channel by its operations, and whose reads are those
of the channel, delivers what it puts in. -/
theorem delivers_of_refines {σ ι ο : Type} {M : Machine σ ι ο} {len : ℕ} {I : σ → Prop}
    {abs : σ → Notifications} {hears : σ → ι → Option (Op (List UInt8))}
    {emit : ο → List (IoResult (List UInt8))}
    (h : M.Refines machine I (fun _ _ => True) abs hears emit
      fun o => (o.map (readFrom len)).toList)
    {s : σ} (hs : I s) (hnew : abs s = .new) (is : List ι) :
    Delivers len (M.heardAlong (fun s i => (hears s i).bind (abs s).puts) s is)
      (((M.outs s is).flatMap emit).filterMap Except.toOption) (abs (M.run s is)) := by
  have hmeets : M.Meets (fun _ _ => True) s is := M.meets_of_forall fun _ _ => trivial
  have harrived := h.heardAlong_eq Channel.puts hs hmeets
  have houts := h.outs_eq hs hmeets
  rw [hnew] at harrived houts
  rw [houts, h.run_eq hs hmeets, hnew, gave_eq_founds, ← harrived]
  generalize M.heardAlong hears s is = ops
  have hall : (Channel.new : Notifications).queue ++ put .new ops = put .new ops := rfl
  have hprefix := taken_prefix (Channel.new : Notifications) ops
  rw [hall] at hprefix
  rcases founds_eq (Channel.new : Notifications) ops with ⟨k, hk, hend⟩
  rw [hall] at hend
  refine @delivers_of_split len (taken .new ops).length k _ _ _ ?_ hprefix.length_le ?_ ?_
  · rw [hk, List.map_append, List.map_map, List.map_replicate]
    show (taken .new ops).map (·.take len) ++ _ = ((put .new ops).take _).map _ ++ _
    rw [← List.prefix_iff_eq_take.1 hprefix]
    rfl
  · intro hpos
    exact ⟨congrArg List.length (hend hpos).2, (hend hpos).1⟩
  · intro hr
    have hsplit := taken_append_queue hr
    rw [hall] at hsplit
    show (put .new ops).drop _ = _
    rw [← hsplit, List.drop_left]

end Ble

end AllSquare
