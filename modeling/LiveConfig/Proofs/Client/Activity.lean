import LiveConfig.Simulation.Activity

/-!
# What activities do to their world

An activity is within a relation between worlds if each of its changes leads from any world to a
related one. Activities that are within a relation compose, and if time and the clock keep to the
relation as well, so does every run of them, however they alternate.

## Main statements

- `Activity.Within.bind`, `Activity.Within.loop`: activities compose.
- `within_of_run`: a run of activities that are within a relation leads to a related world.
-/

namespace LiveConfig.Simulation

/-! ## §1 Activities -/

namespace Activity

variable {W α β : Type} {R : W → W → Prop}

/-- **Every change of an activity leads to a related world**, whatever it has learnt before. -/
inductive Within (R : W → W → Prop) : Activity W α → Prop
  | done (a : α) : Within R (.done a)
  | act {change : W → W} {next : W → Activity W α} (hchange : ∀ w, R w (change w))
      (hnext : ∀ w, Within R (next w)) : Within R (.act change next)
  | await {deadline : Option Nat} {ready : W → Bool} {next : Activity W α}
      (hnext : Within R next) : Within R (.await deadline ready next)
  | fail (reason : String) : Within R (.fail reason)

namespace Within

theorem pure (a : α) : (Pure.pure a : Activity W α).Within R := .done a

/-- One activity after another. -/
theorem bind {a : Activity W α} {next : α → Activity W β} (ha : a.Within R)
    (hnext : ∀ x, (next x).Within R) : (a >>= next).Within R := by
  show (a.bind next).Within R
  induction ha with
  | done a => exact hnext a
  | act hchange _ ih => exact .act hchange ih
  | await _ ih => exact .await ih
  | fail reason => exact .fail reason

theorem change {f : W → W} (hf : ∀ w, R w (f w)) : (Activity.change f).Within R :=
  .act hf fun _ => .done _

theorem look (hrefl : ∀ w, R w w) (f : W → α) : (Activity.look f).Within R :=
  .act hrefl fun _ => .done _

theorem update {f : W → α × W} (hf : ∀ w, R w (f w).2) : (Activity.update f).Within R :=
  .act hf fun _ => .done _

theorem waitFor (ready : W → Bool) : (Activity.waitFor ready).Within R := .await (.done _)

theorem waitUntil (moment : Nat) : (Activity.waitUntil (W := W) moment).Within R :=
  .await (.done _)

theorem loop {body : Activity W Bool} (hbody : body.Within R) (fuel : Nat) :
    (Activity.loop fuel body).Within R := by
  induction fuel with
  | zero => exact .done _
  | succ fuel ih =>
    refine hbody.bind fun finished => ?_
    split
    · exact .done _
    · exact ih

end Within

/-- A step of an activity leads to a related world, and what is left is within the relation. -/
theorem Within.of_step {a a' : Activity W α} {w w' : W} (ha : a.Within R) (hrefl : ∀ w, R w w)
    (h : a.step w = .next w' a') : R w w' ∧ a'.Within R := by
  cases ha with
  | done | fail => cases h
  | act hchange hnext =>
    cases h
    exact ⟨hchange w, hnext w⟩
  | await hnext =>
    cases h
    exact ⟨hrefl w, hnext⟩

/-- An activity that ends changes nothing any more. -/
theorem world_of_ended {a : Activity W α} {w w' : W} {result : α}
    (h : a.step w = .ended w' result) : w' = w := by
  cases a with
  | done => cases h; rfl
  | act | await | fail => cases h

/-- Who cannot go on now waits for a later moment, if for any. -/
theorem lt_deadline {a : Activity W α} {w : W} {now moment : Nat}
    (hwaits : a.runnable now w = false) (hmoment : a.deadline? = some moment) : now < moment := by
  cases a with
  | await deadline ready next =>
    obtain rfl : deadline = some moment := hmoment
    simp only [runnable, Option.any_some, Bool.or_eq_false_iff, decide_eq_false_iff_not] at hwaits
    exact Nat.lt_of_not_le hwaits.2
  | done | act | fail => cases hmoment

end Activity

/-! ## §2 The clock -/

section Clock

variable {W N α : Type} {R : W → W → Prop} {host : Host W N}

/-- What surrounds the activities keeps to a relation, and so do all activities that it starts. -/
structure Host.Within (host : Host W N) (R : W → W → Prop) : Prop where
  refl : ∀ w, R w w
  trans : ∀ {w w' w''}, R w w' → R w' w'' → R w w''
  started : ∀ w, R w (host.started w).2
  onDrop : ∀ n w, R w (host.onDrop n w)
  onEnd : ∀ n w, R w (host.onEnd n w)
  passed : ∀ moment w, host.now w ≤ moment → R w (host.setNow moment w)
  program : ∀ n, (host.program n).Within R

theorem splitRunnable?_eq_some {now : Nat} {w : W} {t : Thread W N}
    {ts before behind : List (Thread W N)}
    (h : splitRunnable? now w ts = some (before, t, behind)) : ts = before ++ t :: behind := by
  induction ts generalizing before with
  | nil => cases h
  | cons u ts ih =>
    unfold splitRunnable? at h
    split at h
    · cases h
      rfl
    · obtain ⟨⟨before', u', behind'⟩, hrest, hsplit⟩ := Option.map_eq_some_iff.1 h
      cases hsplit
      rw [ih hrest, List.cons_append]

theorem splitRunnable?_eq_none {now : Nat} {w : W} {ts : List (Thread W N)}
    (h : splitRunnable? now w ts = none) : ∀ t ∈ ts, t.state.runnable now w = false := by
  induction ts with
  | nil => exact fun t ht => absurd ht List.not_mem_nil
  | cons u ts ih =>
    unfold splitRunnable? at h
    split at h
    · cases h
    · next hu =>
      intro t ht
      rcases List.mem_cons.1 ht with rfl | ht
      · exact Bool.not_eq_true _ ▸ hu
      · exact ih (Option.map_eq_none_iff.1 h) t ht

/-- To start and to drop activities leads to a related world. -/
theorem within_of_settle (hhost : host.Within R) (w : W) {ts : List (Thread W N)}
    (hts : ∀ t ∈ ts, t.state.Within R) :
    R w (settle host w ts).1 ∧ ∀ t ∈ (settle host w ts).2, t.state.Within R := by
  have hdrop (gone : List (Thread W N)) (w : W) :
      R w (gone.foldl (fun w t => host.onDrop t.name w) w) := by
    induction gone generalizing w with
    | nil => exact hhost.refl w
    | cons t gone ih => exact hhost.trans (hhost.onDrop t.name w) (ih _)
  refine ⟨hhost.trans (hhost.started w) (hdrop _ _), fun t ht => ?_⟩
  rcases List.mem_append.1 (List.mem_filter.1 ht).1 with ht | ht
  · exact hts t ht
  · obtain ⟨n, -, rfl⟩ := List.mem_map.1 ht
    exact hhost.program n

/-- **A run of activities leads to a related world**, however they alternate. -/
theorem within_of_run (hhost : host.Within R) {fuel : Nat} {w w' : W} {main : Activity W α}
    {ts : List (Thread W N)} {result : α} (hmain : main.Within R)
    (hts : ∀ t ∈ ts, t.state.Within R) (h : run host fuel w main ts = .finished w' result) :
    R w w' := by
  -- By induction on the steps that are left: each is one of the main activity, one of another
  -- activity, or a jump of the clock to a later moment.
  induction fuel generalizing w main ts with
  | zero => cases h
  | succ fuel ih =>
    obtain ⟨hsettled, hrest⟩ := within_of_settle hhost w hts
    unfold run at h
    generalize settle host w ts = settled at h hsettled hrest
    obtain ⟨w, ts⟩ := settled
    dsimp only at h hsettled hrest
    refine hhost.trans hsettled ?_
    split at h
    · split at h
      · next hstep =>
        obtain ⟨hchange, hmain⟩ := hmain.of_step hhost.refl hstep
        exact hhost.trans hchange (ih hmain hrest h)
      · next hstep =>
        cases h
        rw [Activity.world_of_ended hstep]
        exact hhost.refl w
      · cases h
    next hwaits =>
    split at h
    · next before t behind hsplit =>
      have hts : ts = before ++ t :: behind := splitRunnable?_eq_some hsplit
      have ht : t.state.Within R := hrest t (by simp [hts])
      have hothers : ∀ u ∈ before ++ behind, u.state.Within R := by
        intro u hu
        apply hrest u
        rw [hts]
        exact List.mem_append.2 ((List.mem_append.1 hu).imp_right (List.mem_cons_of_mem t))
      split at h
      · next state hstep =>
        obtain ⟨hchange, hstate⟩ := ht.of_step hhost.refl hstep
        refine hhost.trans hchange (ih hmain (fun u hu => ?_) h)
        rcases List.mem_append.1 hu with hu | hu
        · exact hothers u (List.mem_append_left _ hu)
        rcases List.mem_cons.1 hu with rfl | hu
        · exact hstate
        · exact hothers u (List.mem_append_right _ hu)
      · next hstep =>
        rw [Activity.world_of_ended hstep] at h
        exact hhost.trans (hhost.onEnd t.name w) (ih hmain hothers h)
      · exact hhost.trans (hhost.onDrop t.name w) (ih hmain hothers h)
    · next hnone =>
      split at h
      · cases h
      next moment hmin =>
      -- Nobody can go on, so everybody waits for a later moment.
      refine hhost.trans (hhost.passed moment w ?_) (ih hmain hrest h)
      apply Nat.le_of_lt
      rcases List.mem_append.1 (List.min?_mem hmin) with hmem | hmem
      · exact Activity.lt_deadline (Bool.not_eq_true _ ▸ hwaits) (Option.mem_toList.1 hmem)
      · obtain ⟨t, ht, hdeadline⟩ := List.mem_filterMap.1 hmem
        exact Activity.lt_deadline (splitRunnable?_eq_none hnone t ht) hdeadline

end Clock

end LiveConfig.Simulation
