import AllSquare.Frp.Steps

/-! # What a connection may have accepted

Telemetry and groups of shot events, each group complete but for one that the
end of the connection cut short (`Orderly`); the cached telemetry first
(`FirstIsCached`); and no trigger before the controller has been told that the
device is not ready (`UnreadyBeforeShots`).

The device offers a connection either one telemetry envelope or the events of
one shot. `Good.telemetry` and `Good.group` say that a good connection stays
good when it takes them, and `Good.refuse` and `Good.cut` that it is good when
its peer is found gone on the way.
-/

namespace AllSquare

/-! ## Groups and traffic -/

/-- The events of one complete shot. -/
inductive Group (k : ShotKey) : List FrpEvent → Prop
  | ball (b : BallFlight) : Group k [.shotTrigger k, .ballFlight k b, .shotFinished k]
  | club (b : BallFlight) (m : FrpClubData) :
      Group k [.shotTrigger k, .ballFlight k b, .clubPath k m, .shotFinished k]
  | impact (b : BallFlight) (m : FrpClubData) (i : FaceImpact) :
      Group k [.shotTrigger k, .ballFlight k b, .clubPath k m, .faceImpact k i, .shotFinished k]

/-- Telemetry and complete groups. -/
inductive Traffic : List FrpEvent → Prop
  | nil : Traffic []
  | telemetry {evs : List FrpEvent} {ev : FrpEvent} (h : Traffic evs) (hev : ¬ev.IsShot) :
      Traffic (evs ++ [ev])
  | group {evs g : List FrpEvent} {k : ShotKey} (h : Traffic evs) (hg : Group k g) :
      Traffic (evs ++ g)

/-- The shot an event belongs to. -/
def FrpEvent.key : FrpEvent → Option ShotKey
  | .shotTrigger k | .ballFlight k _ | .clubPath k _ | .faceImpact k _ | .shotFinished k => some k
  | .deviceTelemetry .. => none

/-- The shot an event begins. -/
def FrpEvent.trigger : FrpEvent → Option ShotKey
  | .shotTrigger k => some k
  | _ => none

namespace Connection

/-- The events a connection has accepted. -/
def events (c : Connection) : List FrpEvent := c.accepted.map Envelope.event

/-- The shots begun on a connection. -/
def triggers (c : Connection) : List ShotKey := c.events.filterMap FrpEvent.trigger

/-- The shots that have an event on a connection. -/
def keys (c : Connection) : List ShotKey := c.events.filterMap FrpEvent.key

/-- What a connection has accepted is telemetry and groups, all complete but for
the last, which may end where the peer was found gone. -/
inductive Orderly (c : Connection) : Prop
  | whole (h : Traffic c.events)
  | cut {evs pre post : List FrpEvent} {k : ShotKey} {ev : FrpEvent} (h : Traffic evs)
      (hg : Group k (pre ++ ev :: post)) (hc : c.events = evs ++ pre)
      (hr : c.refused.map Envelope.event = some ev)

/-- A connection adopted with telemetry cached accepts that first. -/
def FirstIsCached (c : Connection) : Prop :=
  ∀ t, c.cached = some t → ∀ e, c.accepted.head? = some e → e = t

/-- Before each trigger the controller has last been told `ready=false`. -/
def UnreadyBeforeShots (c : Connection) : Prop :=
  ∀ pre e post, c.accepted = pre ++ e :: post → e.event.trigger.isSome →
    ∃ t, Envelope.lastTelemetry pre = some t ∧ t.ready = some (readyText false)

/-- What holds of every connection, live or gone. -/
structure Good (c : Connection) : Prop where
  orderly : c.Orderly
  first : c.FirstIsCached
  unready : c.UnreadyBeforeShots

/-- A connection takes envelopes one after another. -/
def acceptAll (c : Connection) (es : List Envelope) : Connection :=
  { c with accepted := c.accepted ++ es }

end Connection

/-! ## Groups -/

theorem Group.isShot {k : ShotKey} {g : List FrpEvent} (h : Group k g) :
    ∀ ev ∈ g, ev.IsShot ∧ ev.key = some k := by
  cases h <;> simp [FrpEvent.IsShot, FrpEvent.key]

/-- A group begins with its trigger and has no other. -/
theorem Group.eq_cons {k : ShotKey} {g : List FrpEvent} (h : Group k g) :
    ∃ rest, g = .shotTrigger k :: rest ∧ ∀ e ∈ rest, e.trigger = none := by
  cases h <;> exact ⟨_, rfl, by simp [FrpEvent.trigger]⟩

/-- So does any part of it from its start. -/
theorem Group.triggers_start {k : ShotKey} {pre post : List FrpEvent}
    (h : Group k (pre ++ post)) (hpre : pre ≠ []) : pre.filterMap FrpEvent.trigger = [k] := by
  rcases List.exists_cons_of_ne_nil hpre with ⟨ev, pre, rfl⟩
  rcases h.eq_cons with ⟨rest, heq, hrest⟩
  rcases List.cons.inj heq with ⟨rfl, rfl⟩
  have hnone : pre.filterMap FrpEvent.trigger = [] :=
    List.filterMap_eq_nil_iff.2 fun e he => hrest e (List.mem_append_left _ he)
  simp only [List.filterMap_cons, FrpEvent.trigger, hnone]

theorem shotEvents_group (ft : Features) (k : ShotKey) (b : BallMetrics)
    (m : Option ClubMetrics) : Group k (FrpDevice.shotEvents ft k b m) := by
  cases m with
  | none => exact .ball _
  | some m =>
    cases hi : Convert.faceImpact ft m with
    | none =>
      have heq : FrpDevice.shotEvents ft k b (some m) = [.shotTrigger k,
          .ballFlight k (Convert.ballFlight b), .clubPath k (Convert.clubData m),
          .shotFinished k] := by
        simp [FrpDevice.shotEvents, hi]
      exact heq ▸ .club _ _
    | some i =>
      have heq : FrpDevice.shotEvents ft k b (some m) = [.shotTrigger k,
          .ballFlight k (Convert.ballFlight b), .clubPath k (Convert.clubData m),
          .faceImpact k i, .shotFinished k] := by
        simp [FrpDevice.shotEvents, hi]
      exact heq ▸ .impact _ _ i

/-- Every event of traffic belongs to a shot begun in it. -/
theorem Traffic.key_mem_triggers {evs : List FrpEvent} (h : Traffic evs) {ev : FrpEvent}
    (hev : ev ∈ evs) {k : ShotKey} (hk : ev.key = some k) :
    k ∈ evs.filterMap FrpEvent.trigger := by
  induction h with
  | nil => cases hev
  | telemetry _ htel ih =>
    rw [List.filterMap_append]
    rcases List.mem_append.1 hev with hev | hev
    · exact List.mem_append_left _ (ih hev)
    · obtain rfl := List.mem_singleton.1 hev
      cases ev with
      | deviceTelemetry => cases hk
      | shotTrigger | ballFlight | clubPath | faceImpact | shotFinished => exact (htel trivial).elim
  | @group evs g k' _ hg ih =>
    rw [List.filterMap_append]
    rcases List.mem_append.1 hev with hev | hev
    · exact List.mem_append_left _ (ih hev)
    · obtain rfl : k' = k := Option.some.inj (((hg.isShot ev hev).2).symm.trans hk)
      have hg' : Group k' (g ++ []) := by rwa [List.append_nil]
      rw [hg'.triggers_start (List.ne_nil_of_mem hev)]
      exact List.mem_append_right _ (List.mem_singleton_self k')

namespace Connection

/-- Every event of a connection belongs to a shot begun on it. -/
theorem Orderly.keys_subset {c : Connection} (h : c.Orderly) : ∀ k ∈ c.keys, k ∈ c.triggers := by
  intro k hk
  rcases List.mem_filterMap.1 hk with ⟨ev, hev, hkey⟩
  cases h with
  | whole h => exact h.key_mem_triggers hev hkey
  | @cut evs pre post k' ev' h hg hc hr =>
    unfold triggers
    rw [hc, List.filterMap_append]
    rw [hc] at hev
    rcases List.mem_append.1 hev with hev | hev
    · exact List.mem_append_left _ (h.key_mem_triggers hev hkey)
    · -- in the group cut short: its trigger is the first event of what was taken
      have hkey' := (hg.isShot ev (List.mem_append_left _ hev)).2
      obtain rfl : k' = k := Option.some.inj (hkey'.symm.trans hkey)
      rw [hg.triggers_start (List.ne_nil_of_mem hev)]
      exact List.mem_append_right _ (List.mem_singleton_self k')

/-! ## Envelopes taken -/

theorem accept_eq_acceptAll (c : Connection) (e : Envelope) : c.accept e = c.acceptAll [e] := rfl

@[simp] theorem acceptAll_nil (c : Connection) : c.acceptAll [] = c := by
  simp [acceptAll]

theorem accept_acceptAll (c : Connection) (e : Envelope) (es : List Envelope) :
    (c.accept e).acceptAll es = c.acceptAll (e :: es) := by
  simp [accept, acceptAll]

theorem acceptAll_events (c : Connection) (es : List Envelope) :
    (c.acceptAll es).events = c.events ++ es.map Envelope.event :=
  List.map_append ..

theorem acceptAll_triggers (c : Connection) (es : List Envelope) :
    (c.acceptAll es).triggers =
      c.triggers ++ (es.map Envelope.event).filterMap FrpEvent.trigger := by
  unfold triggers
  rw [acceptAll_events, List.filterMap_append]

theorem acceptAll_lastTelemetry {es : List Envelope} (hes : ∀ e ∈ es, e.event.IsShot)
    (c : Connection) : (c.acceptAll es).lastTelemetry = c.lastTelemetry := by
  have hnil : es.filter (fun e => ¬e.event.IsShot) = [] :=
    List.filter_eq_nil_iff.2 fun e he => by simp [hes e he]
  unfold lastTelemetry Envelope.lastTelemetry acceptAll
  rw [List.filter_append, hnil, List.append_nil]

theorem FirstIsCached.acceptAll {c : Connection} (h : c.FirstIsCached) {es : List Envelope}
    (hes : c.accepted = [] → ∀ t, c.cached = some t → ∀ e, es.head? = some e → e = t) :
    (c.acceptAll es).FirstIsCached := by
  intro t ht e he
  cases hacc : c.accepted with
  | nil =>
    unfold Connection.acceptAll at he
    rw [hacc, List.nil_append] at he
    exact hes hacc t ht e he
  | cons a rest =>
    unfold Connection.acceptAll at he
    rw [hacc, List.cons_append, List.head?_cons] at he
    exact h t ht e (by rw [hacc, List.head?_cons, he])

/-- More envelopes keep the rule about triggers when the first may be one and
the rest are none. -/
theorem UnreadyBeforeShots.acceptAll {c : Connection} (h : c.UnreadyBeforeShots)
    {es : List Envelope} (hrest : ∀ e ∈ es.tail, e.event.trigger = none)
    (hfirst : ∀ e, es.head? = some e → e.event.trigger.isSome →
      ∃ t, c.lastTelemetry = some t ∧ t.ready = some (readyText false)) :
    (c.acceptAll es).UnreadyBeforeShots := by
  intro pre e post heq htrigger
  have heq' : c.accepted ++ es = pre ++ e :: post := heq
  rcases List.append_eq_append_iff.1 heq' with ⟨as, rfl, hes⟩ | ⟨bs, hacc, hbs⟩
  · -- the trigger in question is among the new envelopes: it is the first of them
    cases as with
    | nil =>
      rw [List.nil_append] at hes
      rw [List.append_nil]
      exact hfirst e (by rw [hes, List.head?_cons]) htrigger
    | cons a as =>
      have hmem : e ∈ es.tail := by simp [hes]
      simp [hrest e hmem] at htrigger
  · -- or it is the old connection's own
    cases bs with
    | nil =>
      rw [List.append_nil] at hacc
      rw [← hacc]
      exact hfirst e (by rw [← List.nil_append es, ← hbs, List.head?_cons]) htrigger
    | cons b bs =>
      rcases List.cons.inj hbs with ⟨rfl, -⟩
      exact h pre e bs hacc htrigger

/-! ## Good connections stay good -/

/-- A connection that a device could be sending on. -/
structure Live (c : Connection) : Prop where
  good : c.Good
  traffic : Traffic c.events
  /-- Telemetry cached at the adoption has been accepted. -/
  cached : c.accepted = [] → c.cached = none

theorem Good.fresh (t : Option Envelope) : Good ⟨t, [], none⟩ where
  orderly := .whole .nil
  first := fun _ _ e he => by cases he
  unready := fun pre e post heq => by simp at heq

/-- A refused envelope changes nothing in what has been accepted. -/
theorem Good.refuse {c : Connection} (h : c.Good) (ht : Traffic c.events) (e : Envelope) :
    (c.refuse e).Good where
  orderly := .whole ht
  first := h.first
  unready := h.unready

/-- Telemetry is taken; a connection with telemetry cached takes that first. -/
theorem Good.telemetry {c : Connection} (h : c.Good) (ht : Traffic c.events) {e : Envelope}
    (he : ¬e.event.IsShot) (hcached : c.accepted = [] → ∀ t, c.cached = some t → e = t) :
    (c.accept e).Live := by
  have htraffic : Traffic (c.accept e).events := by
    rw [accept_eq_acceptAll, acceptAll_events]
    exact .telemetry ht he
  have hnot : e.event.trigger = none := by
    revert he
    cases e.event <;> simp [FrpEvent.trigger, FrpEvent.IsShot]
  refine ⟨⟨.whole htraffic, ?_, ?_⟩, htraffic, fun hnil => by simp [accept] at hnil⟩
  · apply h.first.acceptAll
    intro hnil t ht e' he'
    obtain rfl : e = e' := Option.some.inj he'
    exact hcached hnil t ht
  · apply h.unready.acceptAll (by simp)
    intro e' he' htrigger
    obtain rfl : e = e' := Option.some.inj he'
    simp [hnot] at htrigger

section Groups

variable {c : Connection} {k : ShotKey} {pre post : List Envelope}

/-- The start of a group, told to a controller that knows the device unready. -/
theorem Live.group_start (h : c.Live)
    (hunready : ∃ t, c.lastTelemetry = some t ∧ t.ready = some (readyText false))
    (hg : Group k (pre.map Envelope.event ++ post.map Envelope.event)) :
    (c.acceptAll pre).FirstIsCached ∧ (c.acceptAll pre).UnreadyBeforeShots := by
  refine ⟨h.good.first.acceptAll fun hnil => ?_, h.good.unready.acceptAll ?_ fun _ _ _ => hunready⟩
  · rcases hunready with ⟨t, ht, -⟩
    simp [lastTelemetry, Envelope.lastTelemetry, hnil] at ht
  · intro e he
    rcases hg.eq_cons with ⟨rest, heq, hrest⟩
    cases pre with
    | nil => cases he
    | cons e' pre =>
      rcases List.cons.inj heq with ⟨-, rfl⟩
      exact hrest _ (List.mem_append_left _ (List.mem_map_of_mem he))

/-- A whole group is taken. -/
theorem Live.group (h : c.Live)
    (hunready : ∃ t, c.lastTelemetry = some t ∧ t.ready = some (readyText false))
    {es : List Envelope} (hg : Group k (es.map Envelope.event)) :
    (c.acceptAll es).Live ∧ (c.acceptAll es).lastTelemetry = c.lastTelemetry ∧
      (c.acceptAll es).triggers = c.triggers ++ [k] := by
  have hg' : Group k (es.map Envelope.event ++ [].map Envelope.event) := by simpa using hg
  have htraffic : Traffic (c.acceptAll es).events := by
    rw [acceptAll_events]
    exact .group h.traffic hg
  rcases h.group_start hunready hg' with ⟨hfirst, hbefore⟩
  refine ⟨⟨⟨.whole htraffic, hfirst, hbefore⟩, htraffic, fun hnil => ?_⟩, ?_, ?_⟩
  · have hacc : c.accepted ++ es = [] := hnil
    exact h.cached (List.append_eq_nil_iff.1 hacc).1
  · refine acceptAll_lastTelemetry (fun e he => ?_) c
    exact (hg.isShot _ (List.mem_map_of_mem he)).1
  · rcases hg.eq_cons with ⟨rest, heq, -⟩
    rw [acceptAll_triggers, Group.triggers_start hg' (by simp [heq])]

/-- A group is cut short: the peer is found gone at one of its events. -/
theorem Live.cut (h : c.Live)
    (hunready : ∃ t, c.lastTelemetry = some t ∧ t.ready = some (readyText false))
    {e : Envelope} (hg : Group k ((pre ++ e :: post).map Envelope.event)) :
    ((c.acceptAll pre).refuse e).Good ∧
      (((c.acceptAll pre).refuse e).triggers = c.triggers ∨
        ((c.acceptAll pre).refuse e).triggers = c.triggers ++ [k]) := by
  rw [List.map_append] at hg
  rcases h.group_start hunready hg with ⟨hfirst, hbefore⟩
  refine ⟨⟨.cut h.traffic hg (acceptAll_events c pre) rfl, hfirst, hbefore⟩, ?_⟩
  have htriggers : ((c.acceptAll pre).refuse e).triggers =
      c.triggers ++ (pre.map Envelope.event).filterMap FrpEvent.trigger :=
    acceptAll_triggers c pre
  rw [htriggers]
  -- cut at the trigger, or later: the shot has been begun or not
  cases pre with
  | nil => exact .inl (List.append_nil _)
  | cons e' pre => exact .inr (by rw [hg.triggers_start (by simp)])

end Groups

end Connection

end AllSquare
