import Mathlib.Algebra.Ring.Nat
import LiveConfig.Proofs.Notify.Dispatch
import LiveConfig.Proofs.Notify.Polls
import LiveConfig.Proofs.Notify.Requests

/-!
# Every newer notification fires once

Whatever is called on the channel and in whichever order, a namespace is refreshed for exactly those
notifications that are newer than all it has heard since its first subscription.

## The invariant

`Channel.Tracks` holds the channel against the calls alone: the number it remembers of a namespace
is the latest one brought for it, and what it has handed to triggers are the messages gathered from
the new notifications, one by one. Every notification and every subscription keeps it, also for the
namespaces they are not about.

## Main statements

- `Channel.Tracks.dispatchOne`, `Channel.Tracks.subscribe`: what one notification and one
  subscription keep.
- `Channel.tracks_play`: the invariant, for all calls.
- `Channel.trigger_of_fired`: a repeated subscription swaps the trigger.
- `Channel.readList?_stateText?`: what a poll tells can be read again.
- `Channel.fires_once_per_new`: what follows from it about numbers, triggers, messages and polls.
-/

namespace LiveConfig

open Messages

variable {T : Type}

/-! ## §1 What is new -/

namespace Notification

variable {n : Notification} {l : List Notification}

@[simp] theorem latest_concat (l : List Notification) (n : Notification) :
    latest (l ++ [n]) = max (latest l) n.id := by
  simp [latest]

private theorem foldl_max_lt {a x : Int} :
    (l.map (·.id)).foldl max a < x ↔ a < x ∧ ∀ n ∈ l, n.id < x := by
  induction l generalizing a with
  | nil => simp
  | cons n rest ih =>
    rw [List.map_cons, List.foldl_cons, ih, Int.max_lt, and_assoc]
    simp only [List.mem_cons, forall_eq_or_imp]

/-- To be newer than all others is to be newer than the latest of them. -/
theorem isNew_iff : n.isNew l = true ↔ latest l < n.id := by
  simp [isNew, latest, foldl_max_lt]

theorem newAfter_append (before l l' : List Notification) :
    newAfter before (l ++ l') = newAfter before l ++ newAfter (before ++ l) l' := by
  induction l generalizing before with
  | nil => simp [newAfter]
  | cons n rest ih =>
    simp only [List.cons_append, newAfter, ih]
    split <;> simp

theorem new_concat_of_lt (h : latest l < n.id) : new (l ++ [n]) = new l ++ [n] := by
  unfold new
  rw [newAfter_append]
  simp [newAfter, isNew_iff.2 h]

theorem new_concat_of_le (h : n.id ≤ latest l) : new (l ++ [n]) = new l := by
  have hold : n.isNew l = false := Bool.eq_false_iff.2 fun hnew =>
    Int.not_lt.2 h (isNew_iff.1 hnew)
  unfold new
  rw [newAfter_append]
  simp [newAfter, hold]

theorem upToEach_concat (l : List Notification) (n : Notification) :
    upToEach (l ++ [n]) = upToEach l ++ [l ++ [n]] := by
  have hbefore : ∀ i ∈ List.range l.length, (l ++ [n]).take (i + 1) = l.take (i + 1) := by
    intro i hi
    exact List.take_append_of_le_length (List.mem_range.1 hi)
  have hlast : (l ++ [n]).take (l.length + 1) = l ++ [n] := List.take_of_length_le (by simp)
  unfold upToEach
  rw [List.length_append, List.length_singleton, List.range_succ, List.map_append,
    List.map_congr_left hbefore, List.map_singleton, hlast]

@[simp] theorem length_upToEach (l : List Notification) : (upToEach l).length = l.length := by
  simp [upToEach]

/-- All that notifications announce. -/
def gathered (l : List Notification) : Option Messages :=
  l.foldl (fun messages n => Channel.announced messages n.messages) none

theorem gathered_concat (l : List Notification) (n : Notification) :
    gathered (l ++ [n]) = Channel.announced (gathered l) n.messages := by
  simp [gathered]

end Notification

open Notification

theorem Channel.get?_announced (old new : Option Messages) (k : String) :
    (announced old new).bind (·.get? k)
      = max (old.bind (·.get? k)) (new.bind (·.get? k)) := by
  cases new with
  | none => simp [announced]
  | some m => cases old <;> simp [announced, mergeInto, get?_merge]

/-- What notifications announce of a key is the highest number that one of them has for it. -/
theorem Notification.get?_gathered (l : List Notification) (k : String) :
    (gathered l).bind (·.get? k) = highest? k (l.filterMap (·.messages)) := by
  have raised : ∀ (l : List Notification) (m : Option Messages),
      (l.foldl (fun messages n => Channel.announced messages n.messages) m).bind (·.get? k)
        = max (m.bind (·.get? k)) (highest? k (l.filterMap (·.messages))) := by
    intro l
    induction l with
    | nil => simp
    | cons n rest ih =>
      intro m
      rw [List.foldl_cons, ih, Channel.get?_announced]
      cases hn : n.messages with
      | none => simp [hn]
      | some new =>
        rw [List.filterMap_cons_some hn, highest?_cons]
        exact Std.Associative.assoc ..
  simpa [gathered] using raised l none

theorem Notification.isSome_gathered (l : List Notification) :
    (gathered l).isSome = l.any (·.messages.isSome) := by
  have kept : ∀ (l : List Notification) (m : Option Messages),
      (l.foldl (fun messages n => Channel.announced messages n.messages) m).isSome
        = (m.isSome || l.any (·.messages.isSome)) := by
    intro l
    induction l with
    | nil => simp
    | cons n rest ih =>
      intro m
      rw [List.foldl_cons, ih, List.any_cons, ← Bool.or_assoc]
      cases n.messages <;> simp [Channel.announced, mergeInto]
  simpa [gathered] using kept l none

namespace Channel

/-! ## §2 What calls bring -/

/-- What a namespace has heard since its first subscription; none before it. -/
def heard? (ns : String) (calls : List (ChannelCall T)) : Option (List Notification) :=
  if subscribed ns calls then some (heardSince ns calls) else none

section Calls

variable {ns : String} {calls : List (ChannelCall T)}

@[simp] theorem subscribed_append (calls more : List (ChannelCall T)) :
    subscribed ns (calls ++ more) = (subscribed ns calls || subscribed ns more) :=
  List.any_append

theorem heardSince_cons (call : ChannelCall T) (calls : List (ChannelCall T)) :
    heardSince ns (call :: calls)
      = if call.subscribes ns then call.brings ns ++ calls.flatMap (·.brings ns)
        else heardSince ns calls := by
  unfold heardSince
  cases h : call.subscribes ns <;> simp [h]

theorem heardSince_append (calls more : List (ChannelCall T)) :
    heardSince ns (calls ++ more)
      = if subscribed ns calls then heardSince ns calls ++ more.flatMap (·.brings ns)
        else heardSince ns more := by
  induction calls with
  | nil => rfl
  | cons call rest ih =>
    rw [List.cons_append, heardSince_cons, heardSince_cons, ih]
    cases h : call.subscribes ns <;> simp [subscribed, h]

theorem heardSince_of_not_subscribed (h : subscribed ns calls = false) :
    heardSince ns calls = [] := by
  induction calls with
  | nil => rfl
  | cons call rest ih =>
    simp only [subscribed, List.any_cons, Bool.or_eq_false_iff] at h
    rw [heardSince_cons, if_neg (Bool.eq_false_iff.1 h.1)]
    exact ih h.2

theorem getD_heard? : (heard? ns calls).getD [] = heardSince ns calls := by
  unfold heard?
  split
  · rfl
  · next h => exact (heardSince_of_not_subscribed (Bool.eq_false_iff.2 h)).symm

theorem heard?_subscribe (name : String) (trigger : T) :
    heard? ns (calls ++ [.subscribe name trigger])
      = if name = ns then some ((heard? ns calls).getD []) else heard? ns calls := by
  have hlast : subscribed ns [ChannelCall.subscribe name trigger] = decide (name = ns) :=
    Bool.or_false _
  have hbrings : heardSince ns (calls ++ [.subscribe name trigger]) = heardSince ns calls := by
    rw [heardSince_append]
    cases h : subscribed ns calls with
    | true => simp [ChannelCall.brings]
    | false =>
      -- The subscription itself brings nothing.
      rw [heardSince_of_not_subscribed h, heardSince_cons]
      simp [ChannelCall.brings, heardSince]
  rw [getD_heard?, heard?, heard?, subscribed_append, hbrings, hlast]
  by_cases hname : name = ns <;> simp [hname]

theorem heard?_dispatch (notifications : List Notification) :
    heard? ns (calls ++ [.dispatch notifications])
      = (heard? ns calls).map (· ++ notifications.filter (·.ns = ns)) := by
  have hlast : subscribed ns [ChannelCall.dispatch (T := T) notifications] = false := rfl
  rw [heard?, heard?, subscribed_append, hlast, Bool.or_false, heardSince_append]
  cases subscribed ns calls <;> simp [ChannelCall.brings]

end Calls

/-! ## §3 What the channel remembers and fires -/

/-- What the channel remembers of a namespace and has fired for it, as far as the namespace was
heard of: the latest number, and for each new notification the messages gathered up to it. -/
structure Tracks (ns : String) (heard : Option (List Notification)) (c : Channel T)
    (fired : List (Fired T)) : Prop where
  remembered : (c.get? ns).map (fun s => (s.id, s.messages))
    = heard.map fun l => (latest l, gathered (new l))
  handed : (fired.filter (·.ns = ns)).map Fired.messages
    = (upToEach (new (heard.getD []))).map gathered

theorem get?_subscribe (name : String) (trigger : T) (c : Channel T) (ns : String) :
    (c.subscribe name trigger).get? ns
      = if ns = name then some { (c.get? ns).getD { trigger } with trigger } else c.get? ns := by
  simp only [get?, subscribe, Sorted.lookup_insert]
  split
  · next h =>
    subst h
    cases c.subscriptions.lookup ns <;> rfl
  · rfl

section Steps

variable {ns : String} {heard : Option (List Notification)} {c : Channel T}
  {fired : List (Fired T)}

/-- A namespace is either unknown and unheard of, or remembered as it was heard. -/
theorem Tracks.get?_cases (h : Tracks ns heard c fired) :
    c.get? ns = none ∧ heard = none
      ∨ ∃ s l, c.get? ns = some s ∧ heard = some l
        ∧ latest l = s.id ∧ gathered (new l) = s.messages := by
  have hremembered := h.remembered
  cases hs : c.get? ns with
  | none =>
    rw [hs, Option.map_none, eq_comm, Option.map_eq_none_iff] at hremembered
    exact .inl ⟨rfl, hremembered⟩
  | some s =>
    rw [hs, Option.map_some, eq_comm, Option.map_eq_some_iff] at hremembered
    obtain ⟨l, hl, hpair⟩ := hremembered
    obtain ⟨hid, hmessages⟩ := Prod.mk.inj hpair
    exact .inr ⟨s, l, rfl, hl, hid, hmessages⟩

/-- A namespace is heard of from its first subscription on; later ones forget nothing. -/
theorem Tracks.subscribe (h : Tracks ns heard c fired) (name : String) (trigger : T) :
    Tracks ns (if name = ns then some (heard.getD []) else heard) (c.subscribe name trigger)
      fired := by
  by_cases hname : name = ns
  · subst hname
    rw [if_pos rfl]
    constructor
    case remembered =>
      rw [get?_subscribe, if_pos rfl]
      rcases h.get?_cases with ⟨hs, rfl⟩ | ⟨s, l, hs, rfl, hid, hmessages⟩
      · -- It has heard nothing, and is remembered with nothing.
        rw [hs]
        rfl
      · rw [hs, Option.getD_some, Option.getD_some, Option.map_some, Option.map_some, hid,
          hmessages]
    case handed => simpa using h.handed
  · rw [if_neg hname]
    constructor
    case remembered =>
      rw [get?_subscribe, if_neg (Ne.symm hname)]
      exact h.remembered
    case handed => exact h.handed

theorem Tracks.dispatchOne_other {n : Notification} (h : Tracks ns heard c fired)
    (hns : n.ns ≠ ns) :
    Tracks ns heard (c.dispatchOne n).1 (fired ++ (c.dispatchOne n).2.1.toList) := by
  constructor
  case remembered =>
    rw [get?_dispatchOne, if_neg (Ne.symm hns)]
    exact h.remembered
  case handed =>
    have hother : (c.dispatchOne n).2.1.toList.filter (·.ns = ns) = [] := by
      rw [fired_dispatchOne]
      cases c.get? n.ns with
      | none => rfl
      | some s =>
        rw [Option.bind_some]
        split <;> simp [hns]
    rw [List.filter_append, hother, List.append_nil]
    exact h.handed

/-- **A notification is remembered and fires if it is new**, and is nothing otherwise. -/
theorem Tracks.dispatchOne_same {n : Notification} (h : Tracks n.ns heard c fired) :
    Tracks n.ns (heard.map (· ++ [n])) (c.dispatchOne n).1
      (fired ++ (c.dispatchOne n).2.1.toList) := by
  have hhanded := h.handed
  rw [fired_dispatchOne]
  rcases h.get?_cases with ⟨hs, rfl⟩ | ⟨s, l, hs, rfl, hid, hmessages⟩
  · -- Without a subscription nothing counts as heard.
    rw [hs]
    constructor
    case remembered => simp [get?_dispatchOne, hs]
    case handed => simpa using hhanded
  rw [hs]
  -- What the channel compares with is the latest number that was heard.
  by_cases hle : n.id ≤ s.id
  · have hold : new (l ++ [n]) = new l := new_concat_of_le (hid ▸ hle)
    have hlatest : latest (l ++ [n]) = s.id := by
      rw [latest_concat, hid, Int.max_eq_left hle]
    constructor
    case remembered =>
      simp [get?_dispatchOne, hs, Subscription.hear, hle, hold, hlatest, hmessages]
    case handed => simpa [hle, hold] using hhanded
  · have hlt : latest l < n.id := hid ▸ Int.not_le.1 hle
    have hnew : new (l ++ [n]) = new l ++ [n] := new_concat_of_lt hlt
    have hlatest : latest (l ++ [n]) = n.id := by
      rw [latest_concat, Int.max_eq_right (Int.le_of_lt hlt)]
    have hgathered : gathered (new (l ++ [n])) = announced s.messages n.messages := by
      rw [hnew, gathered_concat, hmessages]
    constructor
    case remembered =>
      simp [get?_dispatchOne, hs, Subscription.hear, hle, hlatest, hgathered]
    case handed =>
      -- It is handed all that was gathered so far, itself included.
      rw [Option.map_some, Option.getD_some, hnew, upToEach_concat, ← hnew, List.map_append,
        List.map_singleton, hgathered, List.filter_append, List.map_append, hhanded]
      simp [hle, Subscription.hear]

theorem Tracks.dispatchOne (h : Tracks ns heard c fired) (n : Notification) :
    Tracks ns (heard.map (· ++ [n].filter (·.ns = ns))) (c.dispatchOne n).1
      (fired ++ (c.dispatchOne n).2.1.toList) := by
  by_cases hns : n.ns = ns
  · subst hns
    simpa using h.dispatchOne_same
  · simpa [hns] using h.dispatchOne_other hns

theorem Tracks.dispatch (h : Tracks ns heard c fired) (l : List Notification) :
    Tracks ns (heard.map (· ++ l.filter (·.ns = ns))) (c.dispatch l).1
      (fired ++ (c.dispatch l).2.1) := by
  induction l generalizing heard c fired with
  | nil => simpa using h
  | cons n rest ih =>
    have hrest := ih (h.dispatchOne n)
    rw [Option.map_map, List.append_assoc] at hrest
    rw [dispatch_cons, ← List.singleton_append, List.filter_append]
    simpa only [Function.comp_def, List.append_assoc] using hrest

theorem Tracks.play {before : List (ChannelCall T)} (h : Tracks ns (heard? ns before) c fired)
    (calls : List (ChannelCall T)) :
    Tracks ns (heard? ns (before ++ calls)) (c.play calls).1
      (fired ++ (c.play calls).2.flatten) := by
  -- What came before the calls is carried along, since it decides what is new among them.
  induction calls generalizing before c fired with
  | nil => simpa [Channel.play] using h
  | cons call rest ih =>
    have hcall : Tracks ns (heard? ns (before ++ [call])) (c.call call).1
        (fired ++ (c.call call).2) := by
      cases call with
      | subscribe name trigger =>
        rw [heard?_subscribe, call, List.append_nil]
        exact h.subscribe name trigger
      | dispatch l =>
        rw [heard?_dispatch]
        exact h.dispatch l
    have hrest := ih hcall
    simpa [Channel.play] using hrest

/-- **The channel keeps track** of every namespace, whatever is called. -/
theorem tracks_play (calls : List (ChannelCall T)) (ns : String) :
    Tracks ns (heard? ns calls) (Channel.play {} calls).1 (Channel.play {} calls).2.flatten := by
  have hstart : Tracks ns (heard? ns ([] : List (ChannelCall T))) ({} : Channel T) [] := ⟨rfl, rfl⟩
  exact hstart.play calls

/-- The trigger of a namespace is the one it was given last. -/
theorem map_trigger_call {before : List (ChannelCall T)}
    (h : (c.get? ns).map Subscription.trigger = trigger? ns before) (call : ChannelCall T) :
    ((c.call call).1.get? ns).map Subscription.trigger = trigger? ns (before ++ [call]) := by
  cases call with
  | subscribe name trigger =>
    rw [Channel.call, get?_subscribe]
    by_cases hname : ns = name
    · simp [trigger?, ChannelCall.gives?, hname]
    · simpa [trigger?, ChannelCall.gives?, hname, Ne.symm hname] using h
  | dispatch l =>
    refine (map_trigger_dispatch l c ns).trans (h.trans ?_)
    simp [trigger?, ChannelCall.gives?]

/-- Whatever a call fires is the trigger that the namespace was given last before. -/
theorem trigger_of_fired {before : List (ChannelCall T)}
    (h : ∀ ns, (c.get? ns).map Subscription.trigger = trigger? ns before)
    (calls : List (ChannelCall T)) {i : Nat} {now : List (Fired T)}
    (hnow : (c.play calls).2[i]? = some now) :
    ∀ f ∈ now, trigger? f.ns (before ++ calls.take i) = some f.trigger := by
  induction calls generalizing before c i with
  | nil => simp [Channel.play] at hnow
  | cons call rest ih =>
    cases i with
    | zero =>
      obtain rfl : (c.call call).2 = now := by simpa [Channel.play] using hnow
      intro f hf
      rw [List.take_zero, List.append_nil, ← h f.ns]
      cases call with
      | subscribe name trigger => exact absurd hf List.not_mem_nil
      | dispatch l => exact trigger_of_mem_dispatch l c f hf
    | succ i =>
      have hlater : ((c.call call).1.play rest).2[i]? = some now := by
        simpa [Channel.play] using hnow
      have hrest := ih (fun ns => map_trigger_call (h ns) call) hlater
      simpa using hrest

end Steps

/-! ## §4 What follows -/

section Results

variable {ns : String} {c : Channel T}

theorem id?_play (calls : List (ChannelCall T)) (ns : String) :
    (play {} calls).1.id? ns
      = if subscribed ns calls then some (latest (heardSince ns calls)) else none := by
  have hid := congrArg (Option.map Prod.fst) (tracks_play calls ns).remembered
  rw [Option.map_map, Option.map_map] at hid
  refine hid.trans ?_
  unfold heard?
  split <;> rfl

/-- **A repeated subscription swaps the trigger**: each call fires the triggers that its namespaces
were given last before it. -/
theorem trigger_of_fired_play (calls : List (ChannelCall T)) (i : Nat) (now : List (Fired T))
    (hnow : (play {} calls).2[i]? = some now) :
    ∀ f ∈ now, trigger? f.ns (calls.take i) = some f.trigger := by
  have hempty (ns : String) :
      (({} : Channel T).get? ns).map Subscription.trigger = trigger? ns [] := rfl
  exact trigger_of_fired hempty calls hnow

/-- What is handed to the triggers of a namespace, in the order of its new notifications. -/
theorem messages_firedFor_play (calls : List (ChannelCall T)) (ns : String) :
    (firedFor ns (play {} calls).2).map Fired.messages
      = (upToEach (new (heardSince ns calls))).map gathered := by
  rw [← getD_heard?]
  exact (tracks_play calls ns).handed

theorem length_firedFor_play (calls : List (ChannelCall T)) (ns : String) :
    (firedFor ns (play {} calls).2).length = (new (heardSince ns calls)).length := by
  simpa using congrArg List.length (messages_firedFor_play calls ns)

theorem mem_names_iff : ns ∈ c.names ↔ (c.id? ns).isSome := by
  rw [id?, Option.isSome_map, Option.isSome_iff_exists]
  simp only [names, get?, Sorted.lookup_eq_some_iff c.ordered, List.mem_map, Prod.exists,
    exists_and_right, exists_eq_right]

theorem mem_names_play (calls : List (ChannelCall T)) (ns : String) :
    ns ∈ (play {} calls).1.names ↔ subscribed ns calls = true := by
  rw [mem_names_iff, id?_play]
  split <;> simp_all

theorem nodup_names (c : Channel T) : c.names.Nodup :=
  List.Pairwise.imp String.ne_of_lt c.ordered

/-- What is fired can be counted by namespace. -/
theorem sum_length_filter {names : List String} (hnodup : names.Nodup) {fired : List (Fired T)}
    (hall : ∀ f ∈ fired, f.ns ∈ names) :
    (names.map fun ns => (fired.filter (·.ns = ns)).length).sum = fired.length := by
  induction names generalizing fired with
  | nil =>
    obtain rfl := List.eq_nil_iff_forall_not_mem.2 fun f hf => List.not_mem_nil (hall f hf)
    rfl
  | cons name rest ih =>
    obtain ⟨hfresh, hrest⟩ := List.nodup_cons.1 hnodup
    have hothers : ∀ f ∈ fired.filter (·.ns ≠ name), f.ns ∈ rest := by
      intro f hf
      obtain ⟨hf, hne⟩ := List.mem_filter.1 hf
      exact (List.mem_cons.1 (hall f hf)).resolve_left (of_decide_eq_true hne)
    -- Setting the first namespace aside changes nothing for the others.
    have hsame : ∀ ns ∈ rest, ((fired.filter (·.ns ≠ name)).filter (·.ns = ns)).length
        = (fired.filter (·.ns = ns)).length := by
      intro ns hns
      rw [List.filter_filter]
      congr 1
      refine List.filter_congr fun f _ => ?_
      by_cases hf : f.ns = ns
      · have hne : ns ≠ name := fun heq => hfresh (heq ▸ hns)
        simp [hf, hne]
      · simp [hf]
    rw [List.map_cons, List.sum_cons, ← List.map_congr_left hsame, ih hrest hothers,
      ← List.countP_eq_length_filter, ← List.countP_eq_length_filter,
      List.length_eq_countP_add_countP (·.ns = name)]
    simp

theorem fired_subscribed (calls : List (ChannelCall T)) :
    ∀ f ∈ (play {} calls).2.flatten, f.ns ∈ (play {} calls).1.names := by
  intro f hf
  refine (mem_names_play calls f.ns).2 (Decidable.byContradiction fun hnot => ?_)
  -- It would have heard nothing, so it would not be among what was fired for its namespace.
  have hlength := length_firedFor_play calls f.ns
  rw [heardSince_of_not_subscribed (Bool.eq_false_iff.2 hnot)] at hlength
  have hmem : f ∈ firedFor f.ns (play {} calls).2 := List.mem_filter.2 ⟨hf, by simp⟩
  rw [List.eq_nil_of_length_eq_zero hlength] at hmem
  exact absurd hmem List.not_mem_nil

/-- The counts that the calls return sum up those of the namespaces. -/
theorem sum_length_play (calls : List (ChannelCall T)) :
    ((play {} calls).2.map List.length).sum
      = ((play {} calls).1.names.map fun ns => (new (heardSince ns calls)).length).sum := by
  rw [← List.length_flatten, ← sum_length_filter (nodup_names _) (fired_subscribed calls)]
  exact congrArg List.sum (List.map_congr_left fun ns _ => length_firedFor_play calls ns)

/-- A poll tells the number that is remembered of each subscribed namespace. -/
theorem stateText?_play (calls : List (ChannelCall T)) :
    (play {} calls).1.stateText?
      = if (play {} calls).1.names.isEmpty then none
        else some (Json.compactText (Notification.listToJson ((play {} calls).1.names.map fun ns =>
          { ns, id := latest (heardSince ns calls) }))) := by
  have hlist : ∀ p ∈ (play {} calls).1.subscriptions,
      ({ ns := p.1, id := p.2.id } : Notification)
        = { ns := p.1, id := latest (heardSince p.1 calls) } := by
    rintro ⟨ns, s⟩ hp
    have hget := (Sorted.lookup_eq_some_iff (play {} calls).1.ordered ns s).2 hp
    have hid : (play {} calls).1.id? ns = some s.id := congrArg (Option.map Subscription.id) hget
    rw [id?_play] at hid
    split at hid
    · rw [Option.some.inj hid]
    · cases hid
  rw [stateText?, names, List.isEmpty_map, List.map_congr_left hlist, List.map_map]
  rfl

theorem fits_latest {l : List Notification} (h : ∀ n ∈ l, Number.Fits 64 n.id) :
    Number.Fits 64 (latest l) := by
  induction l using List.reverseRecOn with
  | nil => decide
  | append_singleton l n ih =>
    have hn := h n (by simp)
    have hl := ih fun m hm => h m (List.mem_append_left _ hm)
    rw [latest_concat]
    rcases Int.le_total (latest l) n.id with hle | hle
    · rwa [Int.max_eq_right hle]
    · rwa [Int.max_eq_left hle]

theorem exists_dispatch_of_mem_heardSince {calls : List (ChannelCall T)} {n : Notification}
    (h : n ∈ heardSince ns calls) : ∃ l, .dispatch l ∈ calls ∧ n ∈ l := by
  obtain ⟨call, hcall, hn⟩ := List.mem_flatMap.1 h
  have hmem := (List.dropWhile_sublist _).subset hcall
  cases call with
  | subscribe name trigger => exact absurd hn List.not_mem_nil
  | dispatch l => exact ⟨l, hmem, (List.mem_filter.1 hn).1⟩

/-- **What a poll tells can be read again**: each subscribed namespace with its number, in the order
of the names. -/
theorem readList?_stateText? (calls : List (ChannelCall T))
    (h : ∀ l, .dispatch l ∈ calls → ∀ n ∈ l, Number.Fits 64 n.id) :
    (play {} calls).1.stateText?.bind readList?
      = if (play {} calls).1.names.isEmpty then none
        else some ((play {} calls).1.names.map fun ns =>
          { ns, id := latest (heardSince ns calls) }) := by
  have hplain : ∀ n ∈ (play {} calls).1.names.map fun ns =>
      ({ ns, id := latest (heardSince ns calls) } : Notification), n.Plain := by
    intro n hn
    obtain ⟨ns, -, rfl⟩ := List.mem_map.1 hn
    refine ⟨rfl, fits_latest fun n hn => ?_⟩
    obtain ⟨l, hl, hmem⟩ := exists_dispatch_of_mem_heardSince hn
    exact h l hl n hmem
  rw [stateText?_play]
  split
  · rfl
  · exact readList?_listToJson hplain

/-- **Every newer notification fires once.** After any calls, of whatever namespaces and in
whichever order: the number remembered of a subscribed namespace is the highest that it was notified
of since its first subscription; its triggers have been fired once for each notification that was
newer than all before it, each time with the highest numbers that these notifications announce, and
the counts that the calls have returned are made up of these. Each call fires the triggers that the
namespaces were given last before it. A list that comes again right away does nothing, and it does
not matter over how many dispatches a list is split. The next poll tells the number of every
subscribed namespace in one parameter of its query: as long as all numbers have 64 bits, that is what
its text is read as. -/
theorem fires_once_per_new (calls : List (ChannelCall T)) :
    let c := (play {} calls).1
    let fired := (play {} calls).2
    -- what is remembered, and how often triggers were fired
    (∀ ns, c.id? ns = if subscribed ns calls then some (latest (heardSince ns calls)) else none)
      ∧ (∀ ns, (firedFor ns fired).length = (new (heardSince ns calls)).length)
      ∧ (fired.map List.length).sum
          = (c.names.map fun ns => (new (heardSince ns calls)).length).sum
      -- what the triggers were handed
      ∧ (∀ ns, (firedFor ns fired).map (·.messages.isSome)
          = (upToEach (new (heardSince ns calls))).map fun l => l.any (·.messages.isSome))
      ∧ (∀ ns k, ((firedFor ns fired).map fun f => f.messages.bind (·.get? k))
          = (upToEach (new (heardSince ns calls))).map fun l =>
              highest? k (l.filterMap (·.messages)))
      -- which triggers they were
      ∧ (∀ i now, fired[i]? = some now →
          ∀ f ∈ now, trigger? f.ns (calls.take i) = some f.trigger)
      -- what comes next
      ∧ (∀ l, ((c.dispatch l).1.dispatch l).1 = (c.dispatch l).1
          ∧ ((c.dispatch l).1.dispatch l).2.1 = [])
      ∧ (∀ lists : List (List Notification),
          (c.dispatch lists.flatten).1 = (c.play (lists.map .dispatch)).1
            ∧ (c.dispatch lists.flatten).2.1 = (c.play (lists.map .dispatch)).2.flatten)
      -- what the next poll tells
      ∧ c.names.Pairwise (· < ·)
      ∧ (∀ ns, ns ∈ c.names ↔ subscribed ns calls = true)
      ∧ (c.stateText? = if c.names.isEmpty then none
          else some (Json.compactText (Notification.listToJson (c.names.map fun ns =>
            { ns, id := latest (heardSince ns calls) }))))
      ∧ ((∀ l, .dispatch l ∈ calls → ∀ n ∈ l, Number.Fits 64 n.id) →
          c.stateText?.bind Notification.readList? = if c.names.isEmpty then none
            else some (c.names.map fun ns => { ns, id := latest (heardSince ns calls) }))
      ∧ (∀ config base state u, c.stateText? = some state → address config base state = .ok u →
          ∃ u₀ pairs, Http.address base ["notifications", "v2"] = .ok u₀ ∧ u = u₀.withPairs pairs
            ∧ Url.named "notifications" pairs = [state]) := by
  intro c fired
  have hhanded := messages_firedFor_play calls
  refine ⟨id?_play calls, length_firedFor_play calls, sum_length_play calls, fun ns => ?_,
    fun ns k => ?_, trigger_of_fired_play calls, fun l => dispatch_again l c,
    fun lists => dispatch_flatten lists c, c.ordered, mem_names_play calls, stateText?_play calls,
    readList?_stateText? calls, fun _ _ _ _ _ haddress => exists_pairs_of_address haddress⟩
  · have hsome := congrArg (List.map Option.isSome) (hhanded ns)
    rw [List.map_map, List.map_map] at hsome
    exact hsome.trans (List.map_congr_left fun l _ => isSome_gathered l)
  · have hkey := congrArg (List.map (·.bind (·.get? k))) (hhanded ns)
    rw [List.map_map, List.map_map] at hkey
    exact hkey.trans (List.map_congr_left fun l _ => get?_gathered l k)

/-- A namespace is notified, given another trigger, and notified again beside a new one. -/
def swapping : List (ChannelCall Nat) :=
  [.subscribe "b" 1, .dispatch [⟨"b", 5, none⟩, ⟨"c", 9, none⟩], .subscribe "b" 2,
    .subscribe "a" 3, .dispatch [⟨"b", 7, none⟩, ⟨"b", 6, none⟩, ⟨"a", 2, none⟩]]

/-- The first trigger is fired once, and then the second one; the poll tells both names. -/
theorem fires_once_per_new_swapping :
    (∀ l, .dispatch l ∈ swapping → ∀ n ∈ l, Number.Fits 64 n.id)
      ∧ (play {} swapping).2.map (·.map fun f => (f.ns, f.trigger))
        = [[], [("b", 1)], [], [], [("b", 2), ("a", 3)]]
      ∧ (firedFor "b" (play {} swapping).2).length = 2
      ∧ (play {} swapping).1.stateText?.bind Notification.readList?
        = some [⟨"a", 2, none⟩, ⟨"b", 7, none⟩] := by
  have hfits : ∀ l, .dispatch l ∈ swapping → ∀ n ∈ l, Number.Fits 64 n.id := by
    intro l hl
    simp only [swapping, List.mem_cons, List.not_mem_nil, reduceCtorEq, ChannelCall.dispatch.injEq,
      false_or, or_false] at hl
    rcases hl with rfl | rfl <;> decide
  obtain ⟨-, hcount, -, -, -, -, -, -, -, -, -, hread, -⟩ := fires_once_per_new swapping
  refine ⟨hfits, by decide +kernel, ?_, ?_⟩
  · rw [hcount]
    decide +kernel
  · rw [hread hfits]
    decide +kernel

end Results

end Channel

end LiveConfig
