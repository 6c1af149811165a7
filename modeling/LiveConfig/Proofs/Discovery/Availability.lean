import LiveConfig.Proofs.Client.Discovery
import LiveConfig.Proofs.Discovery.Lists
import LiveConfig.Proofs.Discovery.Step

/-!
# The list of instances stays available

The list that a locator shows is the last one that the meta server has delivered, however long ago
that was: no failure touches it. With fixed instances the meta server is never asked.

## Main statements

- `DiscoveryRun.endpoints_eq`: the list is the one that the last answer with a list has brought.
- `DiscoveryRun.idle_of_fixed`: with fixed instances nothing ever happens.
- `Selector.candidates_of_untried`: the candidates are those that have not been tried.
- `Selector.exists_pickBy`: one of them is picked.
- `Client.readReply_eq_body_iff`: which replies bring a list.
- `DiscoveryRun.stale_but_available`: all of it, for every run.
-/

namespace LiveConfig

open Simulation

/-! ## §1 The list -/

namespace DiscoveryRun

variable {d₀ d : Discovery} {h : List DiscoveryStep}

/-- **The list** is the one that the last answer with a list has brought, or the first one if there
was none. -/
theorem endpoints_eq (run : DiscoveryRun d₀ h d) :
    d.locator.endpoints
      = (h.filterMap DiscoveryStep.list?).getLast?.getD d₀.locator.endpoints := by
  induction run with
  | nil => rfl
  | @snoc h d d' now move effect _ _ hstep ih =>
    rw [Discovery.endpoints_of_step (Discovery.step_of_step? hstep), List.filterMap_append, ih]
    cases hlist : DiscoveryStep.list? ⟨now, move, d, d', effect⟩ <;> simp [hlist]

/-- A list that changes is replaced by the one that this step brings. -/
theorem list?_of_changed {s : DiscoveryStep} (run : DiscoveryRun d₀ h d) (hs : s ∈ h)
    (hchanged : s.after.locator.endpoints ≠ s.before.locator.endpoints) :
    s.list? = some s.after.locator.endpoints := by
  obtain ⟨h₁, h₂, rfl⟩ := List.append_of_mem hs
  obtain ⟨-, hstep, -, -⟩ := run.cut
  have hafter : s.after.locator.endpoints = s.list?.getD s.before.locator.endpoints :=
    Discovery.endpoints_of_step (Discovery.step_of_step? hstep)
  cases hlist : s.list? with
  | none =>
    rw [hlist] at hafter
    exact absurd hafter hchanged
  | some list =>
    rw [hlist] at hafter
    rw [hafter, Option.getD_some]

/-- **With fixed instances nothing ever happens**: no call waits for anything, and nothing is
sent. -/
theorem idle_of_fixed (run : DiscoveryRun d₀ h d) (hfixed : d₀.locator.isFixed = true)
    (hnone : d₀.calls = []) :
    d.locator = d₀.locator ∧ d.calls = [] ∧ ∀ s ∈ h, s.sender? = none := by
  induction run with
  | nil => exact ⟨rfl, hnone, fun s hs => absurd hs List.not_mem_nil⟩
  | @snoc h d d' now move effect _ _ hstep ih =>
    obtain ⟨hlocator, hcalls, hquiet⟩ := ih
    have hcall (id : Nat) : d.call? id = none := by
      rw [Discovery.call?, hcalls]
      rfl
    have hsnoc (hlast : DiscoveryStep.sender? ⟨now, move, d, d', effect⟩ = none) :
        ∀ s ∈ h ++ [⟨now, move, d, d', effect⟩], s.sender? = none := by
      intro s hs
      rcases List.mem_append.1 hs with hs | hs
      · exact hquiet s hs
      · obtain rfl := List.mem_singleton.1 hs
        exact hlast
    cases Discovery.step_of_step? hstep with
    | fixed => exact ⟨hlocator, hcalls, hsnoc rfl⟩
    | direct _ hfree | failed _ hfree =>
      rw [hlocator, hfixed] at hfree
      cases hfree
    | abandoned =>
      refine ⟨hlocator, ?_, hsnoc rfl⟩
      simp [Discovery.leave, hcalls]
    | fresh hown | stale hown | sent hown | nowhere hown | answered hown =>
      rw [hcall] at hown
      cases hown

end DiscoveryRun

/-! ## §2 The choice -/

/-- **While there is an endpoint that has not been tried**, those are the candidates. -/
theorem Selector.candidates_of_untried {tried : List String} {endpoints : List Endpoint}
    (hu : ∃ u ∈ endpoints, u.id ∉ tried) :
    candidates tried endpoints = endpoints.filter fun e => !tried.contains e.id := by
  obtain ⟨u, hu, hn⟩ := hu
  have hmem : u ∈ endpoints.filter fun e => !tried.contains e.id :=
    List.mem_filter.2 ⟨hu, by simpa using hn⟩
  unfold candidates
  exact if_neg fun hempty => List.ne_nil_of_mem hmem (List.isEmpty_iff.1 hempty)

/-- **An endpoint that has not been tried is picked**, if there is one and any candidate is
chosen. -/
theorem Selector.exists_pickBy {choose : List Endpoint → Option Endpoint} {tried : List String}
    {endpoints : List Endpoint} (hu : ∃ u ∈ endpoints, u.id ∉ tried)
    (hchosen : ∃ e ∈ candidates tried endpoints, choose (candidates tried endpoints) = some e) :
    ∃ e ∈ endpoints, pickBy choose tried endpoints = some e ∧ e.id ∉ tried := by
  obtain ⟨e, hcandidate, he⟩ := hchosen
  exact ⟨e, mem_of_mem_candidates hcandidate, he, not_tried_of_mem_candidates hcandidate hu⟩

/-! ## §3 Replies -/

theorem Http.classify_eq_success_iff (status : Nat) :
    classify status = .ok .success ↔ 200 ≤ status ∧ status < 300 := by
  unfold classify
  repeat' split
  all_goals simp_all

namespace Simulation.Client

/-- **A reply brings a document** exactly if its status is one of success, its body arrives as a
whole and can be read. -/
theorem readReply_eq_body_iff {α : Type} (read? : String → Option α) (deadline : Nat)
    (limit : Duration) (r : Reply) (a : α) :
    readReply read? deadline limit r = pure (.ok (.body a)) ↔
      (200 ≤ r.status ∧ r.status < 300) ∧ r.delivery ≠ .cut ∧ r.delivery ≠ .stall
        ∧ r.body.bind read? = some a := by
  have hpure (x : Except Http.CallError (Http.Outcome α)) :
      (pure x : Client (Except Http.CallError (Http.Outcome α))) = pure (.ok (.body a))
        ↔ x = .ok (.body a) :=
    ⟨Activity.done.inj, congrArg _⟩
  rw [← Http.classify_eq_success_iff]
  unfold readReply
  cases hclass : Http.classify r.status with
  | error e => simp [hpure]
  | ok verdict =>
    cases verdict with
    | notModified | notFound => simp [hpure]
    | success =>
      -- What counts now is whether the body arrives as a whole.
      simp only [readBody, true_and]
      cases hdelivery : r.delivery with
      | cut => simp [hpure]
      | stall =>
        simp only [ne_eq, not_true_eq_false, false_and, and_false, iff_false]
        exact fun hwaits => nomatch hwaits
      | complete | refused | hang | reset =>
        simp only [hpure]
        cases r.body.bind read? <;> simp

end Simulation.Client

/-! ## §4 Availability -/

/-- **The list of a locator is stale but available**: what it is after a history. -/
structure Discovery.Available (c : LocatorConfig) (h : List DiscoveryStep) (d : Discovery) :
    Prop where
  /-- Fixed instances are the list, and nothing is sent. -/
  fixed : c.fixed ≠ [] →
    d.locator.endpoints = Endpoint.fixed c.fixed ∧ ∀ s ∈ h, s.sender? = none
  /-- Otherwise it is the last list that an answer has brought; at first it is empty. -/
  last : c.fixed = [] →
    d.locator.endpoints = (h.filterMap DiscoveryStep.list?).getLast?.getD []
  /-- It changes only with an answer that brings the new one. -/
  brought : ∀ s ∈ h, s.after.locator.endpoints ≠ s.before.locator.endpoints →
    s.list? = some s.after.locator.endpoints
  /-- While there is an endpoint that has not been tried, no other is a candidate. -/
  candidates : ∀ tried, (∃ u ∈ d.locator.endpoints, u.id ∉ tried) →
    Selector.candidates tried d.locator.endpoints
      = d.locator.endpoints.filter fun e => !tried.contains e.id
  /-- So one that has not been tried is picked, however one of the candidates is chosen. -/
  untried : ∀ tried (choose : List Endpoint → Option Endpoint),
    (∃ u ∈ d.locator.endpoints, u.id ∉ tried) →
    (∃ e ∈ Selector.candidates tried d.locator.endpoints,
      choose (Selector.candidates tried d.locator.endpoints) = some e) →
    ∃ e ∈ d.locator.endpoints,
      Selector.pickBy choose tried d.locator.endpoints = some e ∧ e.id ∉ tried

/-- The list is available after every run. -/
theorem DiscoveryRun.available {c : LocatorConfig} {h : List DiscoveryStep} {d : Discovery}
    (run : DiscoveryRun { locator := .ofConfig c } h d) : d.Available c h where
  fixed hfixed := by
    have hisFixed : (Locator.ofConfig c).isFixed = true := by
      simpa [Locator.isFixed, Locator.ofConfig] using hfixed
    obtain ⟨hlocator, -, hquiet⟩ := run.idle_of_fixed hisFixed rfl
    exact ⟨congrArg Locator.endpoints hlocator, hquiet⟩
  last hfixed := by
    have hempty : (Locator.ofConfig c).endpoints = [] := by
      simp [Locator.ofConfig, hfixed, Endpoint.fixed]
    rw [run.endpoints_eq]
    exact congrArg _ hempty
  brought _ hs := run.list?_of_changed hs
  candidates _ hu := Selector.candidates_of_untried hu
  untried _ _ hu hchosen := Selector.exists_pickBy hu hchosen

/-- **The list of instances is stale but available.** However discoveries, discoveries after
failures, picks and the loop alternate: the list after a run is the last one that was delivered, and
fixed instances are never replaced. All that the client does to a locator is such a run, and only a
reply of success with a readable body delivers a list. A body that is a printed list can be read;
one that can be read is an array of instances, and that of the empty list holds two brackets and
nothing but blanks besides. -/
theorem DiscoveryRun.stale_but_available {c : LocatorConfig} {h : List DiscoveryStep}
    {d : Discovery} (run : DiscoveryRun { locator := .ofConfig c } h d) :
    d.Available c h
      ∧ (∀ (role : Role) (tried : List String), Client.Discovers (Client.refresh role)
        ∧ Client.Discovers (Client.refreshOnFailure role)
        ∧ Client.Discovers (Client.pickOrDiscover role tried)
        ∧ Client.Discovers Client.discoveryLoop)
      ∧ (∀ (α : Type) (w w' : World) (script : Client α) (result : α),
        w.discovery = { locator := .ofConfig c } → Client.Discovers script →
        runScript w script = .finished w' result →
        ∃ h', DiscoveryRun { locator := .ofConfig c } h' w'.discovery
          ∧ w'.discovery.Available c h')
      ∧ (∀ (deadline : Nat) (limit : Duration) (r : Reply) (list : List Endpoint),
        Client.readReply Endpoint.readList? deadline limit r = pure (.ok (.body list)) ↔
          (200 ≤ r.status ∧ r.status < 300) ∧ r.delivery ≠ .cut ∧ r.delivery ≠ .stall
            ∧ r.body.bind Endpoint.readList? = some list)
      ∧ (∀ list, Endpoint.readList? (Json.compactText (Endpoint.listToJson list)) = some list)
      ∧ ∀ text,
        (∀ list, Endpoint.readList? text = some list ↔ ∃ ts,
          Json.readTree? text.toList = some (.array ts)
            ∧ ts.map Endpoint.ofTree? = list.map some)
          ∧ ((Json.skipBlanks text.toList).head? ≠ some '[' → Endpoint.readList? text = none)
          ∧ (Endpoint.readList? text = some [] ↔ Json.dense text.toList = ['[', ']']) := by
  refine ⟨run.available, fun role tried => ?_, ?_, ?_, Endpoint.readList?_listToJson,
    fun text => ⟨fun list => Endpoint.readList?_eq_some_iff, Endpoint.readList?_eq_none,
      Endpoint.readList?_eq_nil_iff⟩⟩
  · exact ⟨Client.refresh_within role, Client.refreshOnFailure_within role,
      Client.pickOrDiscover_within role tried, Client.discoveryLoop_within⟩
  · intro α w w' script result hstart hscript hrun
    obtain ⟨h', run'⟩ := exists_discoveryRun hscript hrun
    rw [hstart] at run'
    exact ⟨h', run', run'.available⟩
  · exact Client.readReply_eq_body_iff _

/-- A list is delivered, then a discovery takes too long, and then the meta server knows nothing. -/
def DiscoveryMove.failingLater : List (Instant × DiscoveryMove) :=
  [(0, .call 1 .direct), (0, .ask 1), (1000000, .answer 1 (.ok (.body [⟨"a", "http://a/"⟩]))),
    (2000000000, .call 2 .afterFailure), (2000000000, .look 2), (2000000000, .ask 2),
    (3000000000, .answer 2 (.error (.timeout (.ofSecs 1)))), (4000000000, .call 3 .direct),
    (4000000000, .ask 3), (4000000000, .answer 3 (.ok .notFound))]

/-- The list outlives both failures. -/
theorem DiscoveryRun.stale_but_available_failing_later :
    ∃ (h : List DiscoveryStep) (d : Discovery), DiscoveryRun Discovery.untouched h d
      ∧ h.map (fun s => (s.moment, s.move)) = DiscoveryMove.failingLater
      ∧ d.locator.endpoints = [⟨"a", "http://a/"⟩]
      ∧ Selector.first.pick 0 [] d.locator.endpoints = some ⟨"a", "http://a/"⟩ := by
  obtain ⟨h, d, run, hmoves, hseen⟩ := exists_of_play? Discovery.untouched
    DiscoveryMove.failingLater
    (fun p => p.1.filterMap DiscoveryStep.list? == [[⟨"a", "http://a/"⟩]])
    (by decide +kernel) (by decide)
  obtain ⟨havailable, -⟩ := stale_but_available run
  have hlist : d.locator.endpoints = [⟨"a", "http://a/"⟩] := by
    rw [havailable.last rfl, beq_iff_eq.1 hseen]
    rfl
  have hchosen : ∃ e ∈ Selector.candidates [] d.locator.endpoints,
      Selector.first.choose 0 (Selector.candidates [] d.locator.endpoints) = some e := by
    rw [hlist]
    exact ⟨⟨"a", "http://a/"⟩, by decide, rfl⟩
  obtain ⟨e, he, hpick, -⟩ := havailable.untried [] _ (by simp [hlist]) hchosen
  rw [hlist, List.mem_singleton] at he
  exact ⟨h, d, run, hmoves, hlist, he ▸ hpick⟩

end LiveConfig
