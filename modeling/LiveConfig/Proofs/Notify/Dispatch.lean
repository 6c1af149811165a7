import LiveConfig.Notify.Calls

/-!
# One dispatch

What a dispatch does to each namespace, notification by notification.

## Main statements

- `Channel.get?_dispatchOne`, `Channel.fired_dispatchOne`: all that a single notification does.
- `Channel.dispatch_flatten`: it does not matter how notifications are split over dispatches.
- `Channel.dispatch_again`: what has been dispatched once does nothing when it comes again.
-/

namespace LiveConfig

variable {T : Type}

/-- A subscription after a notification of its namespace. -/
def Subscription.hear (n : Notification) (s : Subscription T) : Subscription T :=
  if n.id ≤ s.id then s
  else { s with id := n.id, messages := Channel.announced s.messages n.messages }

@[simp] theorem Subscription.trigger_hear (n : Notification) (s : Subscription T) :
    (s.hear n).trigger = s.trigger := by
  unfold hear
  split <;> rfl

theorem Subscription.id_hear (n : Notification) (s : Subscription T) :
    (s.hear n).id = max s.id n.id := by
  unfold hear
  split
  · next hle => exact (Int.max_eq_left hle).symm
  · next hlt => exact (Int.max_eq_right (Int.le_of_lt (Int.not_le.1 hlt))).symm

namespace Channel

variable {c : Channel T} {n : Notification} {l : List Notification}

/-! ## §1 One notification -/

/-- **A notification reaches the subscription of its namespace** and no other. -/
theorem get?_dispatchOne (n : Notification) (c : Channel T) (ns : String) :
    (c.dispatchOne n).1.get? ns
      = if ns = n.ns then (c.get? ns).map (Subscription.hear n) else c.get? ns := by
  unfold dispatchOne
  split
  · next hnone => split <;> simp_all
  · next s hs =>
    split
    · next hle => split <;> simp_all [Subscription.hear]
    · next hlt =>
      show (Sorted.insert n.ns _ c.subscriptions).lookup ns = _
      rw [Sorted.lookup_insert]
      split
      · next hns =>
        subst hns
        simp [hs, Subscription.hear, hlt]
      · rfl

/-- A notification fires the trigger of its namespace if it is newer than what was heard before. -/
theorem fired_dispatchOne (n : Notification) (c : Channel T) :
    (c.dispatchOne n).2.1 = (c.get? n.ns).bind fun s =>
      if n.id ≤ s.id then none else some ⟨n.ns, s.trigger, (s.hear n).messages⟩ := by
  unfold dispatchOne
  split
  · next hnone => simp [hnone]
  · next s hs => split <;> simp_all [Subscription.hear]

/-! ## §2 One after the other -/

@[simp] theorem dispatch_nil (c : Channel T) : c.dispatch [] = (c, [], []) := rfl

/-- A dispatch collects what its notifications fire. -/
theorem dispatch_append (l l' : List Notification) (c : Channel T) :
    c.dispatch (l ++ l')
      = (((c.dispatch l).1.dispatch l').1, (c.dispatch l).2.1 ++ ((c.dispatch l).1.dispatch l').2.1,
          (c.dispatch l).2.2 ++ ((c.dispatch l).1.dispatch l').2.2) := by
  -- Whatever has been collected before stands in front.
  have collect : ∀ (l : List Notification) (c : Channel T) (fired : List (Fired T))
      (heard : List Heard),
      l.foldl (fun acc n => ((acc.1.dispatchOne n).1, acc.2.1 ++ (acc.1.dispatchOne n).2.1.toList,
        acc.2.2 ++ [(acc.1.dispatchOne n).2.2])) (c, fired, heard)
        = ((c.dispatch l).1, fired ++ (c.dispatch l).2.1, heard ++ (c.dispatch l).2.2) := by
    intro l
    induction l with
    | nil => intro c fired heard; simp
    | cons n rest ih =>
      intro c fired heard
      simp only [dispatch, List.foldl_cons]
      rw [ih, ih _ ([] ++ _)]
      simp
  show (l ++ l').foldl _ _ = _
  rw [List.foldl_append]
  exact collect l' ..

theorem dispatch_cons (n : Notification) (l : List Notification) (c : Channel T) :
    c.dispatch (n :: l)
      = (((c.dispatchOne n).1.dispatch l).1,
          (c.dispatchOne n).2.1.toList ++ ((c.dispatchOne n).1.dispatch l).2.1,
          (c.dispatchOne n).2.2 :: ((c.dispatchOne n).1.dispatch l).2.2) :=
  dispatch_append [n] l c

/-- **How notifications are split over dispatches** does not matter. -/
theorem dispatch_flatten (lists : List (List Notification)) (c : Channel T) :
    (c.dispatch lists.flatten).1 = (c.play (lists.map .dispatch)).1
      ∧ (c.dispatch lists.flatten).2.1 = (c.play (lists.map .dispatch)).2.flatten := by
  induction lists generalizing c with
  | nil => exact ⟨rfl, rfl⟩
  | cons l rest ih =>
    obtain ⟨hchannel, hfired⟩ := ih (c.dispatch l).1
    rw [List.flatten_cons, dispatch_append]
    exact ⟨hchannel, congrArg ((c.dispatch l).2.1 ++ ·) hfired⟩

theorem map_trigger_dispatch (l : List Notification) (c : Channel T) (ns : String) :
    ((c.dispatch l).1.get? ns).map Subscription.trigger
      = (c.get? ns).map Subscription.trigger := by
  induction l generalizing c with
  | nil => rfl
  | cons n rest ih =>
    rw [dispatch_cons]
    refine (ih _).trans ?_
    rw [get?_dispatchOne]
    split
    · rw [Option.map_map]
      congr 1
      exact funext fun s => s.trigger_hear n
    · rfl

/-- What a dispatch fires are triggers that namespaces had before it. -/
theorem trigger_of_mem_dispatch (l : List Notification) (c : Channel T) :
    ∀ f ∈ (c.dispatch l).2.1, (c.get? f.ns).map Subscription.trigger = some f.trigger := by
  induction l generalizing c with
  | nil => exact fun _ hf => absurd hf List.not_mem_nil
  | cons n rest ih =>
    intro f hf
    rw [dispatch_cons] at hf
    rcases List.mem_append.1 hf with hf | hf
    · rw [Option.mem_toList, fired_dispatchOne] at hf
      obtain ⟨s, hs, hf⟩ := Option.bind_eq_some_iff.1 hf
      split at hf
      · cases hf
      · obtain rfl := Option.some.inj hf
        rw [hs]
        rfl
    · -- It is fired later, and the first notification changes no trigger.
      have hone := map_trigger_dispatch [n] c f.ns
      exact hone.symm.trans (ih _ f hf)

/-! ## §3 Once more -/

/-- The channel has heard a notification or a newer one, or does not care for its namespace. -/
def Settled (c : Channel T) (n : Notification) : Prop :=
  ∀ s, c.get? n.ns = some s → n.id ≤ s.id

theorem settled_dispatchOne (n : Notification) (c : Channel T) : (c.dispatchOne n).1.Settled n := by
  intro s hs
  rw [get?_dispatchOne, if_pos rfl, Option.map_eq_some_iff] at hs
  obtain ⟨old, -, rfl⟩ := hs
  rw [Subscription.id_hear]
  exact Int.le_max_right ..

theorem Settled.dispatchOne (h : c.Settled n) (other : Notification) :
    (c.dispatchOne other).1.Settled n := by
  intro s hs
  rw [get?_dispatchOne] at hs
  split at hs
  · obtain ⟨old, hold, rfl⟩ := Option.map_eq_some_iff.1 hs
    rw [Subscription.id_hear]
    exact Int.le_trans (h old hold) (Int.le_max_left ..)
  · exact h s hs

theorem Settled.dispatch (h : c.Settled n) (l : List Notification) :
    (c.dispatch l).1.Settled n := by
  induction l generalizing c with
  | nil => exact h
  | cons other rest ih =>
    rw [dispatch_cons]
    exact ih (h.dispatchOne other)

theorem settled_dispatch (l : List Notification) (c : Channel T) :
    ∀ n ∈ l, (c.dispatch l).1.Settled n := by
  induction l generalizing c with
  | nil => exact fun _ hn => absurd hn List.not_mem_nil
  | cons first rest ih =>
    intro n hn
    rw [dispatch_cons]
    rcases List.mem_cons.1 hn with rfl | hn
    · -- It is settled at once, and stays so.
      exact (settled_dispatchOne n c).dispatch rest
    · exact ih _ n hn

theorem Settled.dispatchOne_eq (h : c.Settled n) :
    (c.dispatchOne n).1 = c ∧ (c.dispatchOne n).2.1 = none := by
  unfold Channel.dispatchOne
  split
  · exact ⟨rfl, rfl⟩
  · next s hs =>
    rw [if_pos (h s hs)]
    exact ⟨rfl, rfl⟩

/-- Notifications that are all settled change nothing and fire nothing. -/
theorem dispatch_of_settled (h : ∀ n ∈ l, c.Settled n) :
    (c.dispatch l).1 = c ∧ (c.dispatch l).2.1 = [] := by
  induction l with
  | nil => exact ⟨rfl, rfl⟩
  | cons n rest ih =>
    -- The first one changes nothing, so the others find the channel as it was.
    obtain ⟨hchannel, hfired⟩ := (h n (List.mem_cons_self ..)).dispatchOne_eq
    have hrest := ih fun other hother => h other (List.mem_cons_of_mem _ hother)
    rw [dispatch_cons]
    simp only [hchannel, hfired]
    exact ⟨hrest.1, by simp [hrest.2]⟩

/-- **What has been dispatched** does nothing when it comes again right away. -/
theorem dispatch_again (l : List Notification) (c : Channel T) :
    ((c.dispatch l).1.dispatch l).1 = (c.dispatch l).1 ∧ ((c.dispatch l).1.dispatch l).2.1 = [] :=
  dispatch_of_settled (settled_dispatch l c)

end Channel

end LiveConfig
