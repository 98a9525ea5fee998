import AllSquare.Client.Tracker

/-! # Every ball is a shot

The client holds a ball until its club packet and reports the two as one shot.
The account of a run is the balls accepted and the balls of the shots reported:
`NoShotLost` asks that at every moment the second are the first, save possibly
the last one.

The tracker overwrites a ball that is still waiting when the next one comes, so
the account balances exactly on runs in which a club packet is accepted between
any two balls (`noShotLost_iff`); otherwise the earlier ball is never reported.
-/

namespace AllSquare

/-- The ball data of a ball notification. -/
def Notification.ballData : Notification → List BallMetrics
  | .ball b => [b]
  | _ => []

/-- The ball data of a shot. -/
def Event.shotBall : Event → List BallMetrics
  | .shot b _ => [b]
  | _ => []

/-- Between any two balls there is a club packet. -/
def ClubBetweenBalls (ns : List Notification) : Prop :=
  ∀ l₁ b₁ l₂ b₂ l₃, ns = l₁ ++ .ball b₁ :: (l₂ ++ .ball b₂ :: l₃) → ∃ m, .club m ∈ l₂

namespace Tracker

variable (report : ClubMetrics → Option ClubMetrics)

/-- The balls of the shots among a tracker's events. -/
def shotBalls (evs : List (Option Event)) : List BallMetrics :=
  evs.flatMap fun ev => ev.toList.flatMap Event.shotBall

/-! ## The account of one notification -/

/-- Hearing `n` drops no ball that is still waiting. -/
def Keeps (t : Tracker) (n : Notification) : Prop := ∀ b, n = .ball b → t.pending = none

/-- Balls heard and not yet reported are the pending one; a notification that
drops none keeps it so. -/
theorem hear_account {t : Tracker} (ht : t.Paired) {n : Notification} (hk : t.Keeps n) :
    t.pending.toList ++ n.ballData =
      (t.hear report n).2.toList.flatMap Event.shotBall ++ (t.hear report n).1.pending.toList := by
  cases n with
  | ball b => simp [hk b rfl, hear, Notification.ballData]
  | club m =>
    simp only [hear, Notification.ballData, List.append_nil]
    unfold Paired at ht
    cases hp : t.pending with
    | none => simp [ht, hp]
    | some b => simp [ht, hp, Event.shotBall]
  | heartbeatAck s =>
    simp only [hear, Notification.ballData]
    split <;> simp [Event.shotBall]
  | sensor _ | alignment _ | queryResponse _ | battery _ _ | clock _ =>
    simp [hear, Client.passThrough, Event.shotBall, Notification.ballData]

/-! ## The account of a run -/

theorem run_paired (ns : List Notification) : ((machine report).run fresh ns).Paired :=
  (machine report).run_invariant Paired (fun _ n h => hear_paired h n) ns fresh_paired

/-- As long as no waiting ball is dropped, the balls heard are the ones
reported and then the pending one. -/
theorem run_account {ns : List Notification} (h : (machine report).Meets Keeps fresh ns) :
    ns.flatMap Notification.ballData =
      shotBalls ((machine report).outs fresh ns) ++
        ((machine report).run fresh ns).pending.toList := by
  induction ns using List.reverseRecOn with
  | nil => rfl
  | append_singleton ns n ih =>
    rcases (machine report).meets_append.1 h with ⟨hns, hn, -⟩
    have hstep := hear_account report (run_paired report ns) hn
    calc (ns ++ [n]).flatMap Notification.ballData
        = shotBalls ((machine report).outs fresh ns) ++
            (((machine report).run fresh ns).pending.toList ++ n.ballData) := by
          simp [ih hns]
      _ = _ := by
          rw [hstep, Reactive.Machine.outs_append, Reactive.Machine.run_concat]
          simp [shotBalls, Reactive.Machine.out, Reactive.Machine.next, machine]

/-- A ball that drops the waiting one: from there the dropped ball is heard and
not reported, and it is not the last. -/
theorem account_of_dropped {ns : List Notification} (b : BallMetrics)
    (h : (machine report).Meets Keeps fresh ns)
    (hp : ((machine report).run fresh ns).pending ≠ none) :
    let heard := (ns ++ [Notification.ball b]).flatMap Notification.ballData
    let told := shotBalls ((machine report).outs fresh (ns ++ [.ball b]))
    told ≠ heard ∧ told ≠ heard.dropLast := by
  rcases Option.ne_none_iff_exists'.1 hp with ⟨b₀, hb₀⟩
  -- the second ball reports nothing, so what was told is `ns`'s account, two balls
  -- short of what was heard
  have htold : shotBalls ((machine report).outs fresh (ns ++ [.ball b])) =
      shotBalls ((machine report).outs fresh ns) := by
    rw [Reactive.Machine.outs_append]
    simp [shotBalls, Reactive.Machine.out, machine, hear]
  have hheard : (ns ++ [Notification.ball b]).flatMap Notification.ballData =
      shotBalls ((machine report).outs fresh ns) ++ [b₀] ++ [b] := by
    rw [List.flatMap_append, run_account report h, hb₀]
    simp [Notification.ballData]
  simp only [htold, hheard, List.dropLast_concat]
  constructor <;> simp

/-! ## Which runs keep every ball -/

/-- Where a list ending in `n` can be split. -/
theorem append_singleton_split {α : Type} {l l₁ l₂ : List α} {n x : α}
    (h : l ++ [n] = l₁ ++ x :: l₂) :
    (l = l₁ ∧ n = x ∧ l₂ = []) ∨ ∃ l₂', l = l₁ ++ x :: l₂' ∧ l₂ = l₂' ++ [n] := by
  rcases List.eq_nil_or_concat' l₂ with rfl | ⟨l₂', y, rfl⟩
  · rcases List.append_inj' h rfl with ⟨rfl, hn⟩
    exact .inl ⟨rfl, List.singleton_inj.1 hn, rfl⟩
  · have h' : l ++ [n] = (l₁ ++ x :: l₂') ++ [y] := by simpa using h
    rcases List.append_inj' h' rfl with ⟨rfl, hn⟩
    exact .inr ⟨l₂', rfl, by rw [List.singleton_inj.1 hn]⟩

/-- A notification that is neither ball nor club changes nothing about the last
ball without a club packet. -/
theorem split_append_neither {ns : List Notification} {n : Notification}
    (hball : ∀ b, n ≠ .ball b) (hclub : ∀ m, n ≠ .club m) :
    (∃ l₁ b l₂, ns ++ [n] = l₁ ++ .ball b :: l₂ ∧ ∀ m, .club m ∉ l₂) ↔
      ∃ l₁ b l₂, ns = l₁ ++ .ball b :: l₂ ∧ ∀ m, .club m ∉ l₂ := by
  constructor
  · rintro ⟨l₁, b, l₂, heq, hno⟩
    rcases append_singleton_split heq with ⟨-, hn, -⟩ | ⟨l₂', hns, rfl⟩
    · exact absurd hn (hball b)
    · exact ⟨l₁, b, l₂', hns, fun m hm => hno m (List.mem_append_left _ hm)⟩
  · rintro ⟨l₁, b, l₂, rfl, hno⟩
    refine ⟨l₁, b, l₂ ++ [n], by simp, ?_⟩
    intro m hm
    rcases List.mem_append.1 hm with hm | hm
    · exact hno m hm
    · exact hclub m (List.mem_singleton.1 hm).symm

/-- A ball is pending exactly when no club packet has come since some ball. -/
theorem pending_isSome_iff (ns : List Notification) :
    ((machine report).run fresh ns).pending.isSome ↔
      ∃ l₁ b l₂, ns = l₁ ++ .ball b :: l₂ ∧ ∀ m, .club m ∉ l₂ := by
  induction ns using List.reverseRecOn with
  | nil => simp [fresh]
  | append_singleton ns n ih =>
    have hlast : ((machine report).run fresh (ns ++ [n])).pending =
        (((machine report).run fresh ns).hear report n).1.pending :=
      congrArg Tracker.pending ((machine report).run_concat fresh ns n)
    rw [hlast]
    cases n with
    -- a ball is the split itself; a club packet ends every split; anything else
    -- moves neither side
    | ball b => exact iff_of_true rfl ⟨ns, b, [], rfl, by simp⟩
    | club m =>
      rw [hear_pending (run_paired report ns)]
      apply iff_of_false (by simp)
      rintro ⟨l₁, b, l₂, heq, hno⟩
      rcases append_singleton_split heq with ⟨-, hn, -⟩ | ⟨l₂', -, rfl⟩
      · cases hn
      · exact hno m (by simp)
    | sensor _ | heartbeatAck _ | alignment _ | queryResponse _ | battery _ _ | clock _ =>
      rw [hear_pending (run_paired report ns)]
      exact ih.trans (split_append_neither (by simp) (by simp)).symm

theorem meets_keeps_iff (ns : List Notification) :
    (machine report).Meets Keeps fresh ns ↔ ClubBetweenBalls ns := by
  rw [Reactive.Machine.meets_iff]
  constructor
  · rintro h l₁ b₁ l₂ b₂ l₃ rfl
    -- without a club packet the first ball still waits when the second comes
    by_contra hno
    push Not at hno
    have hpend : ((machine report).run fresh (l₁ ++ .ball b₁ :: l₂)).pending.isSome :=
      (pending_isSome_iff report _).2 ⟨l₁, b₁, l₂, rfl, hno⟩
    have hkeep := h (l₁ ++ .ball b₁ :: l₂) (.ball b₂) l₃ (by simp) b₂ rfl
    rw [hkeep] at hpend
    cases hpend
  · rintro h pre n post rfl b rfl
    by_contra hpend
    obtain ⟨l₁, b₁, l₂, rfl, hno⟩ :=
      (pending_isSome_iff report _).1 (Option.isSome_iff_ne_none.2 hpend)
    rcases h l₁ b₁ l₂ b post (by simp) with ⟨m, hm⟩
    exact hno m hm

/-- At every moment the balls reported are those heard, save possibly the last. -/
def Balanced (ns : List Notification) : Prop :=
  let told := shotBalls ((machine report).outs fresh ns)
  let heard := ns.flatMap Notification.ballData
  told = heard ∨ told = heard.dropLast

theorem balanced_iff (ns : List Notification) :
    (∀ pre post, ns = pre ++ post → Balanced report pre) ↔ ClubBetweenBalls ns := by
  rw [← meets_keeps_iff report]
  constructor
  · intro h
    induction ns using List.reverseRecOn with
    | nil => trivial
    | append_singleton ns n ih =>
      have hns : (machine report).Meets Keeps fresh ns :=
        ih fun pre post heq => h pre (post ++ [n]) (by rw [heq, List.append_assoc])
      refine (machine report).meets_append.2 ⟨hns, ?_, trivial⟩
      rintro b rfl
      -- the first dropped ball already unbalances the account
      by_contra hp
      rcases account_of_dropped report b hns hp with ⟨hne, hne'⟩
      rcases h (ns ++ [.ball b]) [] (by simp) with heq | heq
      · exact hne heq
      · exact hne' heq
  · rintro h pre post rfl
    have hacc := run_account report ((machine report).meets_append.1 h).1
    unfold Balanced
    rw [hacc]
    cases ((machine report).run fresh pre).pending with
    | none => exact .inl (by simp)
    | some b => exact .inr (by simp)

end Tracker

/-! ## Polling -/

namespace Client

/-- The balls of the shots among the replies to polls. -/
def shotBalls (replies : List Reply) : List BallMetrics :=
  replies.flatMap fun r => r.event.toList.flatMap Event.shotBall

/-- At every moment of a run the balls reported are the balls accepted, save
possibly the last one: each is reported exactly once, in order, and no later
than the next one is accepted. -/
def NoShotLost (ft : Features) (c : Client) (envs : List PollEnv) : Prop :=
  ∀ pre post, envs = pre ++ post →
    let told := shotBalls ((pollMachine ft).outs c pre)
    let heard := (accepted ft c pre).flatMap Notification.ballData
    told = heard ∨ told = heard.dropLast

/-- The account of a run of polls is the tracker's account of what it accepted. -/
theorem shotBalls_eq (ft : Features) (now : ℕ) (envs : List PollEnv) :
    shotBalls ((pollMachine ft).outs (new now) envs) =
      Tracker.shotBalls ((Tracker.machine ((new now).reported ft)).outs Tracker.fresh
        (accepted ft (new now) envs)) :=
  (refines_tracker ft _ Event.shotBall fun _ _ _ _ => rfl).outs_eq ⟨rfl, rfl⟩
    ((pollMachine ft).meets_of_forall fun _ _ => trivial)

/-- No shot of a run is lost exactly when a club packet is accepted between any
two balls. -/
theorem noShotLost_iff (ft : Features) (now : ℕ) (envs : List PollEnv) :
    NoShotLost ft (new now) envs ↔ ClubBetweenBalls (accepted ft (new now) envs) := by
  rw [← Tracker.balanced_iff ((new now).reported ft)]
  constructor
  · intro h ks ls heq
    rcases (pollMachine ft).exists_heardAlong_eq (accepts ft) heq with ⟨pre, post, hsplit, hpre⟩
    have hacc := h pre post hsplit
    rw [shotBalls_eq] at hacc
    unfold Tracker.Balanced
    rw [← hpre]
    exact hacc
  · rintro h pre post rfl
    have hsplit : accepted ft (new now) (pre ++ post) = accepted ft (new now) pre ++
        accepted ft ((pollMachine ft).run (new now) pre) post :=
      (pollMachine ft).heardAlong_append _ _ pre post
    have hbal := h _ _ hsplit
    rw [shotBalls_eq]
    exact hbal

/-- Two different ball frames, no club packet between them: neither ball has
been reported when the second is accepted. -/
theorem noShotLost_fails :
    ¬∀ (ft : Features) (now : ℕ) (envs : List PollEnv), (∀ env ∈ envs, env.Healthy) →
      NoShotLost ft (new now) envs := by
  intro h
  let envs := [PollEnv.empty 0, PollEnv.reading 0 sampleBall, PollEnv.reading 0
      ⟨[0x11, 0x02, 0x37, 0xa6, 0, 0x39, 0, 0x2e, 0, 0, 0, 0, 0, 0, 0, 0, 0], by decide⟩]
  have hhealthy : ∀ env ∈ envs, env.Healthy := by
    simp [envs, PollEnv.empty_healthy, PollEnv.reading_healthy]
  have hlost := h ⟨false⟩ 0 envs hhealthy envs [] (by simp)
  have htold : (shotBalls ((pollMachine ⟨false⟩).outs (new 0) envs)).length = 0 := by decide
  have hheard : ((accepted ⟨false⟩ (new 0) envs).flatMap Notification.ballData).length = 2 := by
    decide
  rcases hlost with heq | heq
  · rw [heq, hheard] at htold
    cases htold
  · rw [heq, List.length_dropLast, hheard] at htold
    cases htold

end Client

end AllSquare
