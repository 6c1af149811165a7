import LiveConfig.Config.Basic
import LiveConfig.Proofs.Number.Order

/-!
# Corrected configurations

A configuration is valid if nothing in it needs a correction. Correcting leads to a valid one and
leaves valid ones alone, so that it is a projection onto them.

## Layout

A correction of one value is described by what it makes valid (`Corrects`); the two corrections of a
back-off are put together (`Corrects.andThen`), and the whole configuration is taken apart into
these once (`sanitise_eq`).

## Main statements

- `valid_of_sanitise`, `withNamed_of_sanitise`, `mends_of_sanitise`: what a corrected configuration
  is like, and what of the given one it keeps.
- `sanitise_of_valid`: a valid configuration stays, without a warning.
- `valid_of_unwarned`: what is not warned about was valid.
- `sanitise_eq_error_iff`: when there is no corrected configuration.
- `sanitise_projection`: all of it.
-/

namespace LiveConfig

/-- A back-off that does not shrink and whose cap is not below its base. -/
structure BackoffConfig.Valid (b : BackoffConfig) : Prop where
  base_le_cap : b.base ≤ b.cap
  one_le_factor : 1.0 ≤ b.factor
  factor_isNumber : b.factor.isNaN = false

namespace SyncConfig

/-- A rate that is zero, which is no limit, or not too low. -/
structure ValidRate (rate : Float) : Prop where
  isFinite : rate.isFinite = true
  zero_or_ge : (rate == 0.0) = true ∨ minRate ≤ rate

/-- An expiry that is not shorter than the interval between refreshes. -/
def ValidFallback (interval : Duration) : FallbackPolicy → Prop
  | .serveStale => True
  | .expireAfter ttl => interval ≤ ttl

/-- **A configuration that needs no correction.** -/
structure Valid (c : SyncConfig) : Prop where
  cluster : Text.allBlank c.cluster = false
  refreshInterval : .ofSecs 1 ≤ c.refreshInterval
  discoveryInterval : .ofSecs 1 ≤ c.discoveryInterval
  discoveryTimeout : .zero < c.discoveryTimeout
  fetchTimeout : .zero < c.fetchTimeout
  pollHold : .zero < c.pollHold
  shutdownGrace : .zero < c.shutdownGrace
  pollTimeout : c.pollHold < c.pollTimeout
  maxAttempts : 1 ≤ c.maxAttempts
  poolSize : 1 ≤ c.poolSize
  fetchBackoff : c.fetchBackoff.Valid
  pollBackoff : c.pollBackoff.Valid
  fetchRate : ValidRate c.fetchRate
  pollRate : ValidRate c.pollRate
  fallback : ValidFallback c.refreshInterval c.fallback

/-- A configuration with all values of another one that may be corrected. -/
def withNamed (c d : SyncConfig) : SyncConfig :=
  { c with
    cluster := d.cluster
    refreshInterval := d.refreshInterval
    discoveryInterval := d.discoveryInterval
    discoveryTimeout := d.discoveryTimeout
    fetchTimeout := d.fetchTimeout
    pollHold := d.pollHold
    shutdownGrace := d.shutdownGrace
    pollTimeout := d.pollTimeout
    maxAttempts := d.maxAttempts
    poolSize := d.poolSize
    fetchBackoff :=
      { c.fetchBackoff with cap := d.fetchBackoff.cap, factor := d.fetchBackoff.factor }
    pollBackoff := { c.pollBackoff with cap := d.pollBackoff.cap, factor := d.pollBackoff.factor }
    fetchRate := d.fetchRate
    pollRate := d.pollRate
    fallback := d.fallback }

/-- Whatever needs no correction in a configuration is the same in another one. What depends on
another value is looked at beside the value that is used. -/
structure Mends (c d : SyncConfig) : Prop where
  cluster : Text.allBlank c.cluster = false → d.cluster = c.cluster
  refreshInterval : .ofSecs 1 ≤ c.refreshInterval → d.refreshInterval = c.refreshInterval
  discoveryInterval : .ofSecs 1 ≤ c.discoveryInterval → d.discoveryInterval = c.discoveryInterval
  discoveryTimeout : .zero < c.discoveryTimeout → d.discoveryTimeout = c.discoveryTimeout
  fetchTimeout : .zero < c.fetchTimeout → d.fetchTimeout = c.fetchTimeout
  pollHold : .zero < c.pollHold → d.pollHold = c.pollHold
  shutdownGrace : .zero < c.shutdownGrace → d.shutdownGrace = c.shutdownGrace
  pollTimeout : d.pollHold < c.pollTimeout → d.pollTimeout = c.pollTimeout
  maxAttempts : 1 ≤ c.maxAttempts → d.maxAttempts = c.maxAttempts
  poolSize : 1 ≤ c.poolSize → d.poolSize = c.poolSize
  fetchBackoff : c.fetchBackoff.Valid → d.fetchBackoff = c.fetchBackoff
  pollBackoff : c.pollBackoff.Valid → d.pollBackoff = c.pollBackoff
  fetchRate : ValidRate c.fetchRate → d.fetchRate = c.fetchRate
  pollRate : ValidRate c.pollRate → d.pollRate = c.pollRate
  fallback : ValidFallback d.refreshInterval c.fallback → d.fallback = c.fallback

/-! ## §1 Corrections of one value -/

/-- A correction leads to valid values and leaves those alone; it warns of all others. -/
structure Corrects {α : Type} (valid : α → Prop) (correct : α → α × List Warning) : Prop where
  sound : ∀ a, valid (correct a).1
  kept : ∀ a, valid a → correct a = (a, [])
  warned : ∀ a, (correct a).2 = [] → valid a

/-- A correction that replaces the bad values, each with a warning. -/
theorem Corrects.of_ite {α : Type} {valid bad : α → Prop} [DecidablePred bad] {used : α → α}
    {warning : α → Warning} (hvalid : ∀ a, valid a ↔ ¬bad a) (hused : ∀ a, valid (used a)) :
    Corrects valid fun a => if bad a then (used a, [warning a]) else (a, []) where
  sound a := by
    split
    · exact hused a
    · next hgood => exact (hvalid a).2 hgood
  kept a ha := if_neg ((hvalid a).1 ha)
  warned a hnone := by
    by_cases hbad : bad a
    · simp [hbad] at hnone
    · exact (hvalid a).2 hbad

theorem Corrects.eq_of_valid {α : Type} {valid : α → Prop} {correct : α → α × List Warning}
    (h : Corrects valid correct) {a : α} (ha : valid a) : (correct a).1 = a := by
  rw [h.kept a ha]

/-- One correction after another that leaves the values of the first one valid. -/
theorem Corrects.andThen {α : Type} {p q : α → Prop} {f g : α → α × List Warning}
    (hf : Corrects p f) (hg : Corrects q g) (hkeep : ∀ a, p a → p (g a).1) :
    Corrects (fun a => p a ∧ q a) fun a => ((g (f a).1).1, (f a).2 ++ (g (f a).1).2) where
  sound a := ⟨hkeep _ (hf.sound a), hg.sound _⟩
  kept a ha := by rw [hf.kept a ha.1, hg.kept a ha.2]; rfl
  warned a hnone := by
    obtain ⟨hnone, hnone'⟩ := List.append_eq_nil_iff.1 hnone
    have hp := hf.warned a hnone
    rw [hf.kept a hp] at hnone'
    exact ⟨hp, hg.warned a hnone'⟩

theorem corrects_cluster : Corrects (fun s => Text.allBlank s = false) correctCluster :=
  .of_ite (fun _ => (Bool.not_eq_true _).symm ▸ Iff.rfl) fun _ => by decide

theorem corrects_interval (name : String) (default : Duration) (h : .ofSecs 1 ≤ default) :
    Corrects (fun d => .ofSecs 1 ≤ d) (correctInterval name default) :=
  .of_ite (fun _ => Nat.not_lt.symm) fun _ => h

theorem corrects_span (name : String) (default : Duration) (h : .zero < default) :
    Corrects (fun d => .zero < d) (correctSpan name default) :=
  .of_ite
    (fun d => by
      show 0 < d.nanos ↔ ¬(d.nanos == 0) = true
      rw [beq_iff_eq, Nat.pos_iff_ne_zero])
    fun _ => h

theorem corrects_count (warning : Warning) :
    Corrects (fun n => 1 ≤ n) (correctCount warning) :=
  .of_ite (fun _ => Nat.one_le_iff_ne_zero) fun _ => Nat.le_refl 1

theorem corrects_cap (name : String) :
    Corrects (fun b => b.base ≤ b.cap) (correctCap name) :=
  .of_ite (fun _ => Nat.not_lt.symm) fun b => Nat.le_refl b.base.nanos

theorem corrects_factor (name : String) :
    Corrects (fun b => 1.0 ≤ b.factor) (correctFactor name) := by
  have htwo : (1.0 : Float) ≤ 2.0 := by decide
  have heq : correctFactor name = fun b =>
      if ¬1.0 ≤ b.factor then ({ b with factor := 2.0 }, [.badFactor name b.factor])
      else (b, []) := by
    funext b
    rw [ite_not]
    rfl
  rw [heq]
  exact .of_ite (fun _ => not_not.symm) fun _ => htwo

theorem corrects_backoff (name : String) :
    Corrects BackoffConfig.Valid (correctBackoff name) := by
  -- The factor is looked at second, and no correction of it touches base and cap.
  have hkeep (b : BackoffConfig) (hb : b.base ≤ b.cap) :
      (correctFactor name b).1.base ≤ (correctFactor name b).1.cap := by
    unfold correctFactor
    split <;> exact hb
  have h := (corrects_cap name).andThen (corrects_factor name) hkeep
  refine ⟨fun b => ?_, fun b hb => h.kept b ⟨hb.base_le_cap, hb.one_le_factor⟩, fun b hnone => ?_⟩
  · obtain ⟨hcap, hfactor⟩ := h.sound b
    exact ⟨hcap, hfactor, Number.not_isNaN_of_le hfactor⟩
  · obtain ⟨hcap, hfactor⟩ := h.warned b hnone
    exact ⟨hcap, hfactor, Number.not_isNaN_of_le hfactor⟩

/-- A valid rate is a finite one that is neither below zero nor between zero and the lowest. -/
theorem validRate_iff (rate : Float) :
    ValidRate rate
      ↔ rate.isFinite = true ∧ ¬rate < 0.0 ∧ ¬(0.0 < rate ∧ rate < minRate) := by
  have hzero : (0.0 : Float).isNaN = false := by decide
  have hmin : minRate.isNaN = false := by decide
  have hpositive : Number.order 0.0 < Number.order minRate := by decide
  constructor
  · intro h
    obtain ⟨hfinite, hcases⟩ := h
    -- A finite double has a place, and so have the two bounds: the rest is about places.
    have hrate := Number.not_isNaN_of_isFinite hfinite
    rw [Number.beq_iff hrate hzero, Number.le_iff hmin hrate] at hcases
    rw [Number.lt_iff hrate hzero, Number.lt_iff hzero hrate, Number.lt_iff hrate hmin]
    refine ⟨hfinite, ?_, ?_⟩
    · rcases hcases with heq | hle
      · exact heq.not_lt
      · exact (hpositive.trans_le hle).not_gt
    · intro hbetween
      obtain ⟨hlow, hhigh⟩ := hbetween
      rcases hcases with heq | hle
      · exact heq.not_gt hlow
      · exact hle.not_gt hhigh
  · intro h
    obtain ⟨hfinite, hnonneg, hbetween⟩ := h
    have hrate := Number.not_isNaN_of_isFinite hfinite
    rw [Number.lt_iff hrate hzero, not_lt] at hnonneg
    rw [Number.lt_iff hzero hrate, Number.lt_iff hrate hmin] at hbetween
    refine ⟨hfinite, ?_⟩
    rw [Number.beq_iff hrate hzero, Number.le_iff hmin hrate]
    rcases hnonneg.eq_or_lt with heq | hlt
    · exact .inl heq.symm
    · exact .inr (not_lt.1 fun hlow => hbetween ⟨hlt, hlow⟩)

theorem corrects_rate (name : String) : Corrects ValidRate (correctRate name) := by
  have hzero : ValidRate 0.0 := ⟨by decide, .inl (by decide)⟩
  have hmin : ValidRate minRate := ⟨by decide, .inr (by decide)⟩
  -- The two tests of the code are the two ways in which a rate is not valid.
  have hcases (rate : Float) : ValidRate rate
      ↔ ¬(!rate.isFinite || rate < 0.0) = true ∧ ¬(0.0 < rate && rate < minRate) = true := by
    rw [validRate_iff]
    simp [and_assoc]
  constructor
  · intro rate
    unfold correctRate
    split
    · exact hzero
    next hfirst =>
    split
    · exact hmin
    next hsecond => exact (hcases rate).2 ⟨hfirst, hsecond⟩
  · intro rate hvalid
    obtain ⟨hfirst, hsecond⟩ := (hcases rate).1 hvalid
    rw [correctRate, if_neg hfirst, if_neg hsecond]
  · intro rate hnone
    unfold correctRate at hnone
    split at hnone
    · cases hnone
    next hfirst =>
    split at hnone
    · cases hnone
    next hsecond => exact (hcases rate).2 ⟨hfirst, hsecond⟩

theorem corrects_fallback (interval : Duration) :
    Corrects (ValidFallback interval) (correctFallback interval) := by
  constructor
  · intro p
    cases p with
    | serveStale => trivial
    | expireAfter ttl =>
      rw [correctFallback]
      split
      · exact Nat.le_refl interval.nanos
      next hlong => exact Nat.not_lt.1 hlong
  · intro p hvalid
    cases p with
    | serveStale => rfl
    | expireAfter ttl =>
      have hlong : ¬ttl < interval := Nat.not_lt.2 hvalid
      rw [correctFallback, if_neg hlong]
  · intro p hnone
    cases p with
    | serveStale => trivial
    | expireAfter ttl =>
      rw [correctFallback] at hnone
      split at hnone
      · cases hnone
      next hlong => exact Nat.not_lt.1 hlong

/-! ## §2 The timeout of the long poll -/

/-- A timeout is corrected to one that exceeds the hold time. -/
theorem lt_of_correctTimeout {hold timeout used : Duration} {warnings : List Warning}
    (h : correctTimeout hold timeout = .ok (used, warnings)) : hold < used := by
  unfold correctTimeout at h
  split at h
  · cases hsum : hold.sum timeoutMargin with
    | error e =>
      rw [hsum] at h
      cases h
    | ok sum =>
      rw [hsum] at h
      cases h
      have hmargin : Duration.zero < timeoutMargin := by decide
      exact Duration.lt_of_add? ((Duration.sum_eq_ok_iff _ _ _).1 hsum) hmargin
  next hlonger =>
    cases h
    exact Nat.not_le.1 hlonger

theorem correctTimeout_of_lt {hold timeout : Duration} (h : hold < timeout) :
    correctTimeout hold timeout = .ok (timeout, []) := by
  have hlonger : ¬timeout ≤ hold := Nat.not_le.2 h
  rw [correctTimeout, if_neg hlonger]
  rfl

/-- A timeout that is not warned about has exceeded the hold time. -/
theorem lt_of_unwarned {hold timeout used : Duration}
    (h : correctTimeout hold timeout = .ok (used, [])) : hold < timeout := by
  by_contra hshort
  have hle : timeout ≤ hold := Nat.not_lt.1 hshort
  rw [correctTimeout, if_pos hle] at h
  cases hsum : hold.sum timeoutMargin <;> rw [hsum] at h <;> cases h

/-- There is no corrected timeout exactly if the hold time leaves no room for the margin. -/
theorem correctTimeout_eq_error_iff (hold timeout : Duration) (e : Duration.SumError) :
    correctTimeout hold timeout = .error e
      ↔ timeout ≤ hold ∧ UInt64.size * 1000000000 ≤ hold.nanos + timeoutMargin.nanos := by
  rw [← Duration.add?_eq_none_iff, ← Duration.sum_eq_error_iff hold timeoutMargin e]
  constructor
  · intro h
    by_cases hle : timeout ≤ hold
    · rw [correctTimeout, if_pos hle] at h
      cases hsum : hold.sum timeoutMargin <;> rw [hsum] at h <;> cases h
      exact ⟨hle, rfl⟩
    · rw [correctTimeout, if_neg hle] at h
      cases h
  · intro h
    rw [correctTimeout, if_pos h.1, h.2]
    rfl

/-! ## §3 The whole configuration -/

/-- A configuration with every value corrected on its own, but for the timeout of the long poll. -/
def corrected (c : SyncConfig) (pollTimeout : Duration) : SyncConfig :=
  { c with
    cluster := (correctCluster c.cluster).1
    refreshInterval :=
      (correctInterval "refresh interval" (.ofSecs 300) c.refreshInterval).1
    discoveryInterval :=
      (correctInterval "discovery refresh interval" (.ofSecs 300) c.discoveryInterval).1
    discoveryTimeout := (correctSpan "discovery timeout" (.ofSecs 1) c.discoveryTimeout).1
    fetchTimeout := (correctSpan "fetch timeout" (.ofSecs 5) c.fetchTimeout).1
    pollHold := (correctSpan "long poll hold" (.ofSecs 60) c.pollHold).1
    shutdownGrace := (correctSpan "shutdown grace" (.ofSecs 5) c.shutdownGrace).1
    pollTimeout
    maxAttempts := (correctCount .noAttempts c.maxAttempts).1
    poolSize := (correctCount .noPoolSlots c.poolSize).1
    fetchBackoff := (correctBackoff "fetch" c.fetchBackoff).1
    pollBackoff := (correctBackoff "long poll" c.pollBackoff).1
    fetchRate := (correctRate "fetch" c.fetchRate).1
    pollRate := (correctRate "long poll" c.pollRate).1
    fallback :=
      (correctFallback
        (correctInterval "refresh interval" (.ofSecs 300) c.refreshInterval).1 c.fallback).1 }

/-- The warnings about a configuration, with those about the timeout of the long poll. -/
def warningsOf (c : SyncConfig) (ofTimeout : List Warning) : List Warning :=
  (correctCluster c.cluster).2
    ++ (correctInterval "refresh interval" (.ofSecs 300) c.refreshInterval).2
    ++ (correctInterval "discovery refresh interval" (.ofSecs 300) c.discoveryInterval).2
    ++ (correctSpan "discovery timeout" (.ofSecs 1) c.discoveryTimeout).2
    ++ (correctSpan "fetch timeout" (.ofSecs 5) c.fetchTimeout).2
    ++ (correctSpan "long poll hold" (.ofSecs 60) c.pollHold).2
    ++ (correctSpan "shutdown grace" (.ofSecs 5) c.shutdownGrace).2
    ++ ofTimeout
    ++ (correctCount .noAttempts c.maxAttempts).2
    ++ (correctCount .noPoolSlots c.poolSize).2
    ++ (correctBackoff "fetch" c.fetchBackoff).2
    ++ (correctBackoff "long poll" c.pollBackoff).2
    ++ (correctRate "fetch" c.fetchRate).2
    ++ (correctRate "long poll" c.pollRate).2
    ++ (correctFallback
        (correctInterval "refresh interval" (.ofSecs 300) c.refreshInterval).1 c.fallback).2

theorem sanitise_eq (c : SyncConfig) :
    c.sanitise = (correctTimeout (correctSpan "long poll hold" (.ofSecs 60) c.pollHold).1
      c.pollTimeout).map fun t => (c.corrected t.1, c.warningsOf t.2) := by
  cases h : correctTimeout (correctSpan "long poll hold" (.ofSecs 60) c.pollHold).1 c.pollTimeout
  · simp only [sanitise, h]
    rfl
  · simp only [sanitise, h]
    rfl

variable {c d : SyncConfig} {warnings : List Warning}

/-- What a corrected configuration is made of. -/
theorem exists_of_sanitise (h : c.sanitise = .ok (d, warnings)) :
    ∃ used w, correctTimeout (correctSpan "long poll hold" (.ofSecs 60) c.pollHold).1
        c.pollTimeout = .ok (used, w)
      ∧ c.corrected used = d ∧ c.warningsOf w = warnings := by
  rw [sanitise_eq] at h
  cases ht : correctTimeout (correctSpan "long poll hold" (.ofSecs 60) c.pollHold).1 c.pollTimeout
  · rw [ht] at h
    cases h
  · rw [ht] at h
    cases h
    exact ⟨_, _, rfl, rfl, rfl⟩

/-- **A corrected configuration is valid.** -/
theorem valid_of_sanitise (h : c.sanitise = .ok (d, warnings)) : d.Valid := by
  obtain ⟨used, w, htimeout, rfl, -⟩ := exists_of_sanitise h
  have hlong : Duration.ofSecs 1 ≤ .ofSecs 300 := by decide
  exact {
    cluster := corrects_cluster.sound _
    refreshInterval := (corrects_interval _ _ hlong).sound _
    discoveryInterval := (corrects_interval _ _ hlong).sound _
    discoveryTimeout := (corrects_span _ _ (by decide)).sound _
    fetchTimeout := (corrects_span _ _ (by decide)).sound _
    pollHold := (corrects_span _ _ (by decide)).sound _
    shutdownGrace := (corrects_span _ _ (by decide)).sound _
    pollTimeout := lt_of_correctTimeout htimeout
    maxAttempts := (corrects_count _).sound _
    poolSize := (corrects_count _).sound _
    fetchBackoff := (corrects_backoff _).sound _
    pollBackoff := (corrects_backoff _).sound _
    fetchRate := (corrects_rate _).sound _
    pollRate := (corrects_rate _).sound _
    fallback := (corrects_fallback _).sound _ }

/-- A back-off keeps its base and its way of recovery. -/
theorem correctBackoff_kept (name : String) (b : BackoffConfig) :
    (correctBackoff name b).1.base = b.base
      ∧ (correctBackoff name b).1.recovery = b.recovery := by
  have hcap : (correctCap name b).1.base = b.base
      ∧ (correctCap name b).1.recovery = b.recovery := by
    unfold correctCap
    split <;> exact ⟨rfl, rfl⟩
  show (correctFactor name (correctCap name b).1).1.base = b.base
    ∧ (correctFactor name (correctCap name b).1).1.recovery = b.recovery
  unfold correctFactor
  split <;> exact hcap

/-- What has no correction keeps its value. -/
theorem withNamed_of_sanitise (h : c.sanitise = .ok (d, warnings)) : d = c.withNamed d := by
  obtain ⟨used, w, -, rfl, -⟩ := exists_of_sanitise h
  obtain ⟨hfetch, hfetch'⟩ := correctBackoff_kept "fetch" c.fetchBackoff
  obtain ⟨hpoll, hpoll'⟩ := correctBackoff_kept "long poll" c.pollBackoff
  simp only [withNamed, corrected, SyncConfig.mk.injEq, true_and, and_true]
  rw [← hfetch, ← hfetch', ← hpoll, ← hpoll']
  exact ⟨rfl, rfl⟩

/-- **Only bad values are replaced.** -/
theorem mends_of_sanitise (h : c.sanitise = .ok (d, warnings)) : c.Mends d := by
  obtain ⟨used, w, htimeout, rfl, -⟩ := exists_of_sanitise h
  have hlong : Duration.ofSecs 1 ≤ .ofSecs 300 := by decide
  have hused (hlt : (c.corrected used).pollHold < c.pollTimeout) : used = c.pollTimeout := by
    have hsame := htimeout.symm.trans (correctTimeout_of_lt hlt)
    cases hsame
    rfl
  exact {
    cluster := corrects_cluster.eq_of_valid
    refreshInterval := (corrects_interval _ _ hlong).eq_of_valid
    discoveryInterval := (corrects_interval _ _ hlong).eq_of_valid
    discoveryTimeout := (corrects_span _ _ (by decide)).eq_of_valid
    fetchTimeout := (corrects_span _ _ (by decide)).eq_of_valid
    pollHold := (corrects_span _ _ (by decide)).eq_of_valid
    shutdownGrace := (corrects_span _ _ (by decide)).eq_of_valid
    pollTimeout := hused
    maxAttempts := (corrects_count _).eq_of_valid
    poolSize := (corrects_count _).eq_of_valid
    fetchBackoff := (corrects_backoff _).eq_of_valid
    pollBackoff := (corrects_backoff _).eq_of_valid
    fetchRate := (corrects_rate _).eq_of_valid
    pollRate := (corrects_rate _).eq_of_valid
    fallback := (corrects_fallback _).eq_of_valid }

/-- **A valid configuration stays**, without a warning. -/
theorem sanitise_of_valid (h : c.Valid) : c.sanitise = .ok (c, []) := by
  have hlong : Duration.ofSecs 1 ≤ .ofSecs 300 := by decide
  have hhold := (corrects_span "long poll hold" (.ofSecs 60) (by decide)).kept _ h.pollHold
  rw [sanitise_eq, hhold, correctTimeout_of_lt h.pollTimeout]
  simp only [Except.map, corrected, warningsOf, hhold,
    corrects_cluster.kept _ h.cluster,
    (corrects_interval _ _ hlong).kept _ h.refreshInterval,
    (corrects_interval _ _ hlong).kept _ h.discoveryInterval,
    (corrects_span _ (.ofSecs 1) (by decide)).kept _ h.discoveryTimeout,
    (corrects_span _ (.ofSecs 5) (by decide)).kept _ h.fetchTimeout,
    (corrects_span _ (.ofSecs 5) (by decide)).kept _ h.shutdownGrace,
    (corrects_count _).kept _ h.maxAttempts, (corrects_count _).kept _ h.poolSize,
    (corrects_backoff _).kept _ h.fetchBackoff, (corrects_backoff _).kept _ h.pollBackoff,
    (corrects_rate _).kept _ h.fetchRate, (corrects_rate _).kept _ h.pollRate,
    (corrects_fallback _).kept _ h.fallback, List.append_nil]

/-- **What is not warned about was valid.** -/
theorem valid_of_unwarned (h : c.sanitise = .ok (d, [])) : c.Valid := by
  have hlong : Duration.ofSecs 1 ≤ .ofSecs 300 := by decide
  obtain ⟨used, w, htimeout, -, hnone⟩ := exists_of_sanitise h
  simp only [warningsOf, List.append_eq_nil_iff, and_assoc] at hnone
  obtain ⟨hcluster, hrefresh, hdiscovery, hask, hfetch, hhold, hgrace, rfl, hattempts, hpool,
    hretry, hpoll, hfetches, hpolls, hfallback⟩ := hnone
  -- The timeout is compared with the corrected hold time and the expiry with the corrected
  -- interval: that both were valid comes first.
  have hholds := (corrects_span _ _ (by decide)).warned _ hhold
  have hinterval := (corrects_interval _ _ hlong).warned _ hrefresh
  rw [(corrects_span _ (.ofSecs 60) (by decide)).kept _ hholds] at htimeout
  rw [(corrects_interval _ _ hlong).kept _ hinterval] at hfallback
  exact {
    cluster := corrects_cluster.warned _ hcluster
    refreshInterval := hinterval
    discoveryInterval := (corrects_interval _ _ hlong).warned _ hdiscovery
    discoveryTimeout := (corrects_span _ _ (by decide)).warned _ hask
    fetchTimeout := (corrects_span _ _ (by decide)).warned _ hfetch
    pollHold := hholds
    shutdownGrace := (corrects_span _ _ (by decide)).warned _ hgrace
    pollTimeout := lt_of_unwarned htimeout
    maxAttempts := (corrects_count _).warned _ hattempts
    poolSize := (corrects_count _).warned _ hpool
    fetchBackoff := (corrects_backoff _).warned _ hretry
    pollBackoff := (corrects_backoff _).warned _ hpoll
    fetchRate := (corrects_rate _).warned _ hfetches
    pollRate := (corrects_rate _).warned _ hpolls
    fallback := (corrects_fallback _).warned _ hfallback }

/-- **There is no corrected configuration** exactly if the timeout of the long poll has to be
corrected and the hold time leaves no room for the margin. -/
theorem sanitise_eq_error_iff (e : Duration.SumError) :
    c.sanitise = .error e ↔ c.pollTimeout ≤ c.pollHold
      ∧ UInt64.size * 1000000000 ≤ c.pollHold.nanos + timeoutMargin.nanos := by
  have hmap (r : Except Duration.SumError (Duration × List Warning)) :
      r.map (fun t => (c.corrected t.1, c.warningsOf t.2)) = .error e ↔ r = .error e := by
    cases r <;> simp [Except.map]
  rw [sanitise_eq, hmap, correctTimeout_eq_error_iff, correctSpan]
  split
  next hzero =>
    -- A hold time of zero is replaced by one that leaves room enough.
    have hnanos : c.pollHold.nanos = 0 := beq_iff_eq.1 hzero
    rw [hnanos]
    constructor
    · intro h
      exact absurd h.2 (by decide)
    · intro h
      exact absurd h.2 (by decide)
  next => exact Iff.rfl

/-- **Correcting is a projection onto the valid configurations**: it leads to a valid one, in which
only bad values have been replaced, and from there no further; the valid ones are those that it
leaves alone, and those without a warning. -/
theorem sanitise_projection (c : SyncConfig) :
    (∀ d warnings, c.sanitise = .ok (d, warnings) →
      d.Valid ∧ d = c.withNamed d ∧ c.Mends d ∧ d.sanitise = .ok (d, [])
        ∧ (warnings = [] ↔ c.Valid))
      ∧ (c.Valid ↔ c.sanitise = .ok (c, [])) := by
  refine ⟨fun d warnings h => ?_, sanitise_of_valid, valid_of_unwarned⟩
  have hvalid := valid_of_sanitise h
  refine ⟨hvalid, withNamed_of_sanitise h, mends_of_sanitise h, sanitise_of_valid hvalid,
    fun hnone => ?_, fun hc => ?_⟩
  · subst hnone
    exact valid_of_unwarned h
  · rw [sanitise_of_valid hc] at h
    cases h
    rfl

/-- A configuration with a bad value wherever there may be one. -/
def unworkable : SyncConfig where
  appId := "demo"
  cluster := " "
  discoveryInterval := .zero
  discoveryTimeout := .zero
  fetchTimeout := .zero
  pollHold := .zero
  pollTimeout := .ofSecs 30
  maxAttempts := 0
  fetchBackoff := ⟨.ofSecs 4, .ofSecs 1, 0.5, 2⟩
  pollBackoff := ⟨.ofSecs 1, .ofSecs 120, 0.0 / 0.0, 0⟩
  refreshInterval := .ofMillis 10
  fetchRate := 1e-20
  pollRate := -1.0
  poolSize := 0
  shutdownGrace := .zero
  fallback := .expireAfter (.ofSecs 5)

/-- All its bad values are replaced at once, and no second time. -/
theorem sanitise_projection_unworkable :
    ∃ d warnings, unworkable.sanitise = .ok (d, warnings) ∧ warnings.length = 16 ∧ d.Valid
      ∧ d.fetchBackoff.base = .ofSecs 4 ∧ d.sanitise = .ok (d, []) := by
  have hcount : unworkable.sanitise.map (fun r => r.2.length) = .ok 16 := by decide +kernel
  cases h : unworkable.sanitise with
  | error e =>
    rw [h] at hcount
    cases hcount
  | ok r =>
    rw [h] at hcount
    obtain ⟨hvalid, hnamed, -, hagain, -⟩ := (sanitise_projection unworkable).1 r.1 r.2 h
    refine ⟨r.1, r.2, rfl, Except.ok.inj hcount, hvalid, ?_, hagain⟩
    rw [hnamed]
    rfl

end SyncConfig

end LiveConfig
