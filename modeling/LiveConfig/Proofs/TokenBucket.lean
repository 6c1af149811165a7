import LiveConfig.TokenBucket
import Mathlib.Algebra.Order.Field.Basic
import Mathlib.Algebra.Order.Ring.Rat
import Mathlib.Tactic.Linarith
import Mathlib.Tactic.NormNum
import Mathlib.Tactic.Ring

/-!
# How many calls a bucket grants

In exact arithmetic, a bucket grants in any stretch of time at most its capacity and what flows in
meanwhile. The tokens at hand are the account of it: a call that is granted takes exactly what the
bound loses, and what flows in is what the stretch of time gains.

## Layout

- **§1** what a call does to the refilled bucket, in any arithmetic with an order;
- **§2** what a refill does, as one equation (`refill_eq`), and what calls make of a bucket that was
  filled up to an earlier moment;
- **§3** the calls of a bucket one after the other, and the bound by induction on them.

## Main statements

- `refill_refill`, `reserve_reserve_of_eq_some`: a refused call does not show later.
- `reserve_eq_none_iff_le`: the moment from which on a call is granted.
- `granted_since_le`: the bound from the tokens at hand.
- `granted_le`: the bound for every stretch of time.
- `bounded_grants`: all of it, for every rate and every sequence of calls.
-/

namespace LiveConfig.TokenBucket

section Numbers

variable {K : Type} [LinearOrder K]

theorem larger_eq_max (a b : K) : larger a b = max a b := by
  unfold larger
  split
  · next h => exact (max_eq_left h.le).symm
  · next h => exact (max_eq_right (not_lt.1 h)).symm

theorem smaller_eq_min (a b : K) : smaller a b = min a b := by
  unfold smaller
  split
  · next h => exact (min_eq_left h.le).symm
  · next h => exact (min_eq_right (not_lt.1 h)).symm

end Numbers

variable {τ K : Type} [Field K] [LinearOrder K]

/-- The exact seconds from one moment to another, on a clock that counts seconds. -/
def elapsed (clock : τ → K) (since now : τ) : K := clock now - clock since

/-- The seconds in which the missing part of a token flows in. -/
def shortfall (b : TokenBucket τ K) : K := (1 - b.tokens) / b.rate

/-- A bucket of this rate, with its burst, that holds no more than that. -/
structure Sound (rate : K) (b : TokenBucket τ K) : Prop where
  rate_eq : b.rate = rate
  capacity_eq : b.capacity = max rate 1
  tokens_nonneg : 0 ≤ b.tokens
  tokens_le : b.tokens ≤ max rate 1

theorem sound_full [IsStrictOrderedRing K] (rate : K) (now : τ) : (full rate now).Sound rate where
  rate_eq := rfl
  capacity_eq := larger_eq_max rate 1
  tokens_nonneg := by
    show 0 ≤ larger rate 1
    rw [larger_eq_max]
    exact zero_le_one.trans (le_max_right rate 1)
  tokens_le := (larger_eq_max rate 1).le

variable {clock : τ → K} {rate : K} {b : TokenBucket τ K} {now later : τ}

/-! ## §1 Granted or refused -/

theorem reserve_eq_none_iff : (b.reserve (elapsed clock) now).2 = none
    ↔ 1 ≤ (b.refill (elapsed clock) now).tokens := by
  by_cases htoken : 1 ≤ (b.refill (elapsed clock) now).tokens
  · simp [reserve, htoken]
  · simp [reserve, htoken]

theorem reserve_of_eq_none (h : (b.reserve (elapsed clock) now).2 = none) :
    (b.reserve (elapsed clock) now).1
      = { b.refill (elapsed clock) now with
          tokens := (b.refill (elapsed clock) now).tokens - 1 } := by
  have htoken := reserve_eq_none_iff.1 h
  unfold reserve
  rw [if_pos htoken]

/-- **A refused call** takes nothing, and learns when there is a token. -/
theorem reserve_of_eq_some {wait : K} (h : (b.reserve (elapsed clock) now).2 = some wait) :
    (b.refill (elapsed clock) now).tokens < 1
      ∧ (b.reserve (elapsed clock) now).1 = b.refill (elapsed clock) now
      ∧ wait = min (b.refill (elapsed clock) now).shortfall maxWait := by
  have hnone : ¬1 ≤ (b.refill (elapsed clock) now).tokens := by
    intro htoken
    rw [reserve_eq_none_iff.2 htoken] at h
    exact Option.some_ne_none _ h.symm
  unfold reserve at h ⊢
  rw [if_neg hnone, smaller_eq_min] at h
  rw [if_neg hnone]
  exact ⟨not_le.1 hnone, rfl, (Option.some.inj h).symm⟩

/-- What is granted is taken. -/
theorem tokens_reserve :
    (b.reserve (elapsed clock) now).1.tokens
        + (if (b.reserve (elapsed clock) now).2 = none then 1 else 0)
      = (b.refill (elapsed clock) now).tokens := by
  cases h : (b.reserve (elapsed clock) now).2 with
  | none =>
    rw [reserve_of_eq_none h, if_pos rfl]
    exact sub_add_cancel _ 1
  | some wait =>
    rw [(reserve_of_eq_some h).2.1, if_neg (Option.some_ne_none wait), add_zero]

/-! ## §2 Buckets that were filled before -/

section Filled

variable [IsStrictOrderedRing K] [LinearOrder τ]

/-- **What a refill does**, also where no time has passed. -/
theorem refill_eq (hclock : StrictMono clock) (hb : b.Sound rate) (hnow : b.filledAt ≤ now) :
    b.refill (elapsed clock) now
      = { b with
          tokens := min (b.tokens + (clock now - clock b.filledAt) * rate) (max rate 1)
          filledAt := now } := by
  show (if 0 < clock now - clock b.filledAt then
      { b with
        tokens := smaller (b.tokens + (clock now - clock b.filledAt) * b.rate) b.capacity
        filledAt := now } else b) = _
  rcases hnow.eq_or_lt with heq | hlt
  · -- No time has passed, and what is there fits already.
    have hidle : ¬0 < clock now - clock b.filledAt := by simp [heq]
    have htokens : min (b.tokens + (clock now - clock now) * rate) (max rate 1) = b.tokens := by
      rw [sub_self, zero_mul, add_zero, min_eq_left hb.tokens_le]
    rw [if_neg hidle, heq, htokens, ← heq]
  · rw [if_pos (sub_pos.2 (hclock hlt)), smaller_eq_min, hb.rate_eq, hb.capacity_eq]

theorem filledAt_refill (hclock : StrictMono clock) (hb : b.Sound rate)
    (hnow : b.filledAt ≤ now) : (b.refill (elapsed clock) now).filledAt = now := by
  rw [refill_eq hclock hb hnow]

theorem tokens_refill_le (hclock : StrictMono clock) (hb : b.Sound rate)
    (hnow : b.filledAt ≤ now) :
    (b.refill (elapsed clock) now).tokens ≤ b.tokens + rate * (clock now - clock b.filledAt) := by
  rw [refill_eq hclock hb hnow, mul_comm rate]
  exact min_le_left _ _

theorem Sound.refill (hrate : 0 < rate) (hclock : StrictMono clock) (hb : b.Sound rate)
    (hnow : b.filledAt ≤ now) : (b.refill (elapsed clock) now).Sound rate := by
  rw [refill_eq hclock hb hnow]
  refine ⟨hb.rate_eq, hb.capacity_eq, ?_, min_le_right _ _⟩
  have hpassed : 0 ≤ clock now - clock b.filledAt := sub_nonneg.2 (hclock.monotone hnow)
  apply le_min
  · exact add_nonneg hb.tokens_nonneg (mul_nonneg hpassed hrate.le)
  · exact hrate.le.trans (le_max_left rate 1)

/-- **A refill on the way does not show** in a later one. -/
theorem refill_refill (hrate : 0 < rate) (hclock : StrictMono clock) (hb : b.Sound rate)
    (hnow : b.filledAt ≤ now) (hlater : now ≤ later) :
    (b.refill (elapsed clock) now).refill (elapsed clock) later
      = b.refill (elapsed clock) later := by
  have hfilled := filledAt_refill hclock hb hnow
  rw [refill_eq hclock (hb.refill hrate hclock hnow) (hfilled.le.trans hlater), hfilled,
    refill_eq hclock hb hnow, refill_eq hclock hb (hnow.trans hlater)]
  -- What does not fit on the way would not fit later either.
  have hflow : 0 ≤ (clock later - clock now) * rate :=
    mul_nonneg (sub_nonneg.2 (hclock.monotone hlater)) hrate.le
  have hsum : b.tokens + (clock now - clock b.filledAt) * rate + (clock later - clock now) * rate
      = b.tokens + (clock later - clock b.filledAt) * rate := by ring
  have htokens : min (min (b.tokens + (clock now - clock b.filledAt) * rate) (max rate 1)
        + (clock later - clock now) * rate) (max rate 1)
      = min (b.tokens + (clock later - clock b.filledAt) * rate) (max rate 1) := by
    rw [← min_add_add_right, min_assoc, min_eq_right (le_add_of_nonneg_right hflow), hsum]
  simp only [htokens]

theorem filledAt_reserve (hclock : StrictMono clock) (hb : b.Sound rate)
    (hnow : b.filledAt ≤ now) : (b.reserve (elapsed clock) now).1.filledAt = now := by
  cases h : (b.reserve (elapsed clock) now).2 with
  | none =>
    rw [reserve_of_eq_none h]
    exact filledAt_refill hclock hb hnow
  | some wait =>
    rw [(reserve_of_eq_some h).2.1]
    exact filledAt_refill hclock hb hnow

theorem Sound.reserve (hrate : 0 < rate) (hclock : StrictMono clock) (hb : b.Sound rate)
    (hnow : b.filledAt ≤ now) : (b.reserve (elapsed clock) now).1.Sound rate := by
  have hrefilled := hb.refill hrate hclock hnow
  cases h : (b.reserve (elapsed clock) now).2 with
  | none =>
    rw [reserve_of_eq_none h]
    exact {
      rate_eq := hrefilled.rate_eq
      capacity_eq := hrefilled.capacity_eq
      tokens_nonneg := sub_nonneg.2 (reserve_eq_none_iff.1 h)
      tokens_le := (sub_le_self _ zero_le_one).trans hrefilled.tokens_le }
  | some wait =>
    rw [(reserve_of_eq_some h).2.1]
    exact hrefilled

/-- **A refused call does not show** in a later one. -/
theorem reserve_reserve_of_eq_some {wait : K} (hrate : 0 < rate) (hclock : StrictMono clock)
    (hb : b.Sound rate) (hnow : b.filledAt ≤ now) (hlater : now ≤ later)
    (h : (b.reserve (elapsed clock) now).2 = some wait) :
    (b.reserve (elapsed clock) now).1.reserve (elapsed clock) later
      = b.reserve (elapsed clock) later := by
  have hrefill := refill_refill hrate hclock hb hnow hlater
  rw [(reserve_of_eq_some h).2.1]
  unfold reserve
  rw [hrefill]

/-- **From when on a call is granted**: once the missing part of a token has flowed in. -/
theorem reserve_eq_none_iff_le (hrate : 0 < rate) (hclock : StrictMono clock) (hb : b.Sound rate)
    (hnow : b.filledAt ≤ now) :
    (b.reserve (elapsed clock) now).2 = none ↔ clock b.filledAt + b.shortfall ≤ clock now := by
  rw [reserve_eq_none_iff, refill_eq hclock hb hnow, shortfall, hb.rate_eq]
  show 1 ≤ min _ _ ↔ _
  rw [le_min_iff, and_iff_left (le_max_right rate 1), ← sub_le_iff_le_add', ← div_le_iff₀ hrate,
    le_sub_iff_add_le']

end Filled

/-! ## §3 Calls one after the other -/

/-- A call for a token. -/
structure Call (τ α : Type) where
  moment : τ
  /-- The bucket that the call finds. -/
  before : TokenBucket τ α
  /-- The bucket that it leaves behind. -/
  after : TokenBucket τ α
  /-- How long to wait if it is refused. -/
  wait : Option α
deriving DecidableEq

/-- **The calls** at some moments, one after the other. -/
def calls (clock : τ → K) : List τ → TokenBucket τ K → List (Call τ K)
  | [], _ => []
  | now :: rest, b =>
    ⟨now, b, (b.reserve (elapsed clock) now).1, (b.reserve (elapsed clock) now).2⟩
      :: calls clock rest (b.reserve (elapsed clock) now).1

variable [LinearOrder τ] {moments : List τ} {s t : τ}

/-- The call is granted, in a stretch of time. -/
def Call.grantedIn (s t : τ) (c : Call τ K) : Bool :=
  c.wait.isNone && decide (s ≤ c.moment ∧ c.moment ≤ t)

/-- How many calls are granted in a stretch of time. -/
def granted (clock : τ → K) (moments : List τ) (b : TokenBucket τ K) (s t : τ) : ℕ :=
  (calls clock moments b).countP (Call.grantedIn s t)

theorem granted_cons (now : τ) (moments : List τ) :
    granted clock (now :: moments) b s t
      = granted clock moments (b.reserve (elapsed clock) now).1 s t
        + if (b.reserve (elapsed clock) now).2 = none ∧ s ≤ now ∧ now ≤ t then 1 else 0 := by
  unfold granted
  rw [calls, List.countP_cons]
  simp [Call.grantedIn]

theorem granted_of_lt (b : TokenBucket τ K) (horder : (now :: moments).Pairwise (· ≤ ·))
    (hgt : t < now) : granted clock (now :: moments) b s t = 0 := by
  induction moments generalizing b now with
  | nil =>
    rw [granted_cons]
    simp [granted, calls, hgt]
  | cons next rest ih =>
    obtain ⟨hfirst, hrest⟩ := List.pairwise_cons.1 horder
    rw [granted_cons, ih _ hrest (hgt.trans_le (hfirst next List.mem_cons_self))]
    simp [hgt]

variable [IsStrictOrderedRing K]

/-- **One more call**: what it takes, if it is granted, was at hand. -/
theorem granted_cons_le {inflow : K}
    (h : (granted clock moments (b.reserve (elapsed clock) now).1 s t : K)
      ≤ (b.reserve (elapsed clock) now).1.tokens + inflow) :
    (granted clock (now :: moments) b s t : K)
      ≤ (b.refill (elapsed clock) now).tokens + inflow := by
  rw [granted_cons, Nat.cast_add, ← tokens_reserve]
  have hone : ((if (b.reserve (elapsed clock) now).2 = none ∧ s ≤ now ∧ now ≤ t then 1 else 0 : ℕ)
      : K) ≤ if (b.reserve (elapsed clock) now).2 = none then 1 else 0 := by
    split
    · next hin => simp [hin.1]
    · next hout => split <;> simp
  linarith

/-- **The bound from the tokens at hand**: they and what flows in cover what is granted. -/
theorem granted_since_le (hrate : 0 < rate) (hclock : StrictMono clock) (hb : b.Sound rate)
    (horder : (b.filledAt :: moments).Pairwise (· ≤ ·)) (ht : b.filledAt ≤ t) :
    (granted clock moments b s t : K) ≤ b.tokens + rate * (clock t - clock b.filledAt) := by
  have hcovered {b : TokenBucket τ K} (hb : b.Sound rate) (ht : b.filledAt ≤ t) :
      0 ≤ b.tokens + rate * (clock t - clock b.filledAt) :=
    add_nonneg hb.tokens_nonneg
      (mul_nonneg hrate.le (sub_nonneg.2 (hclock.monotone ht)))
  -- By induction on the calls: the bucket that the first one leaves behind pays for the rest.
  induction moments generalizing b with
  | nil =>
    show ((0 : ℕ) : K) ≤ _
    rw [Nat.cast_zero]
    exact hcovered hb ht
  | cons now rest ih =>
    obtain ⟨hfirst, hrest⟩ := List.pairwise_cons.1 horder
    have hnow : b.filledAt ≤ now := hfirst now List.mem_cons_self
    rcases le_or_gt now t with hle | hgt
    · have hfilled := filledAt_reserve hclock hb hnow
      have hlater := ih (hb.reserve hrate hclock hnow) (by rwa [hfilled]) (by rwa [hfilled])
      rw [hfilled] at hlater
      calc (granted clock (now :: rest) b s t : K)
          ≤ (b.refill (elapsed clock) now).tokens + rate * (clock t - clock now) :=
            granted_cons_le hlater
        _ ≤ b.tokens + rate * (clock now - clock b.filledAt) + rate * (clock t - clock now) :=
            add_le_add_left (tokens_refill_le hclock hb hnow) _
        _ = b.tokens + rate * (clock t - clock b.filledAt) := by ring
    · -- The stretch is over: neither this call nor a later one counts.
      rw [granted_of_lt b hrest hgt, Nat.cast_zero]
      exact hcovered hb ht

/-- **The bound for every stretch of time**: one capacity, and what flows in meanwhile. -/
theorem granted_le (hrate : 0 < rate) (hclock : StrictMono clock) (hb : b.Sound rate)
    (horder : (b.filledAt :: moments).Pairwise (· ≤ ·)) (hst : s ≤ t) :
    (granted clock moments b s t : K) ≤ max rate 1 + rate * (clock t - clock s) := by
  have hinflow : 0 ≤ rate * (clock t - clock s) :=
    mul_nonneg hrate.le (sub_nonneg.2 (hclock.monotone hst))
  have hbound : 0 ≤ max rate 1 + rate * (clock t - clock s) :=
    add_nonneg (hrate.le.trans (le_max_left rate 1)) hinflow
  induction moments generalizing b with
  | nil =>
    show ((0 : ℕ) : K) ≤ _
    rw [Nat.cast_zero]
    exact hbound
  | cons now rest ih =>
    obtain ⟨hfirst, hrest⟩ := List.pairwise_cons.1 horder
    have hnow : b.filledAt ≤ now := hfirst now List.mem_cons_self
    have hfilled := filledAt_reserve hclock hb hnow
    have hafter := hb.reserve hrate hclock hnow
    rcases lt_or_ge now s with hearly | hin
    · -- The stretch has not begun: the call does not count.
      rw [granted_cons, if_neg fun h => not_lt.2 h.2.1 hearly, Nat.add_zero]
      exact ih hafter (by rwa [hfilled])
    · rcases le_or_gt now t with hle | hgt
      · -- The first call of the stretch finds at most a full bucket.
        have hlater := granted_since_le (s := s) (t := t) hrate hclock hafter (by rwa [hfilled])
          (by rwa [hfilled])
        rw [hfilled] at hlater
        calc (granted clock (now :: rest) b s t : K)
            ≤ (b.refill (elapsed clock) now).tokens + rate * (clock t - clock now) :=
              granted_cons_le hlater
          _ ≤ max rate 1 + rate * (clock t - clock now) :=
              add_le_add_left (hb.refill hrate hclock hnow).tokens_le _
          _ ≤ max rate 1 + rate * (clock t - clock s) :=
              add_le_add_right (mul_le_mul_of_nonneg_left
                (sub_le_sub_left (hclock.monotone hin) _) hrate.le) _
      · rw [granted_of_lt b hrest hgt, Nat.cast_zero]
        exact hbound

/-- What each of the calls finds and leaves behind. -/
theorem sound_of_mem_calls {c : Call τ K} (hrate : 0 < rate) (hclock : StrictMono clock)
    (hb : b.Sound rate) (horder : (b.filledAt :: moments).Pairwise (· ≤ ·))
    (hc : c ∈ calls clock moments b) :
    c.before.Sound rate ∧ c.before.filledAt ≤ c.moment
      ∧ c.after = (c.before.reserve (elapsed clock) c.moment).1
      ∧ c.wait = (c.before.reserve (elapsed clock) c.moment).2 := by
  induction moments generalizing b with
  | nil => exact absurd hc List.not_mem_nil
  | cons now rest ih =>
    obtain ⟨hfirst, hrest⟩ := List.pairwise_cons.1 horder
    have hnow : b.filledAt ≤ now := hfirst now List.mem_cons_self
    rcases List.mem_cons.1 hc with rfl | hc
    · exact ⟨hb, hnow, rfl, rfl⟩
    · apply ih (hb.reserve hrate hclock hnow) _ hc
      rw [filledAt_reserve hclock hb hnow]
      exact hrest

/-- **How many calls a bucket grants**, for every rate and every sequence of calls. The tokens stay
between none and the capacity; in every stretch of time no more calls are granted than one capacity
and what flows in meanwhile. A refused call does not show in any later one; its wait is positive and
at most the longest one, and the next call is granted exactly if the missing part of a token has
flowed in, so after that wait unless it was cut. -/
theorem bounded_grants (hrate : 0 < rate) (hclock : StrictMono clock) {start : τ}
    (horder : (start :: moments).Pairwise (· ≤ ·)) :
    (∀ c ∈ calls clock moments (full rate start),
        (0 ≤ c.before.tokens ∧ c.before.tokens ≤ max rate 1)
          ∧ 0 ≤ c.after.tokens ∧ c.after.tokens ≤ max rate 1)
      ∧ (∀ s t, s ≤ t → (granted clock moments (full rate start) s t : K)
          ≤ max rate 1 + rate * (clock t - clock s))
      ∧ ∀ c ∈ calls clock moments (full rate start), ∀ wait, c.wait = some wait →
        (∀ later, c.moment ≤ later →
          c.after.reserve (elapsed clock) later = c.before.reserve (elapsed clock) later)
        ∧ 0 < wait ∧ wait ≤ maxWait ∧ wait = min c.after.shortfall maxWait
        ∧ (∀ later, c.moment ≤ later → ((c.after.reserve (elapsed clock) later).2 = none
          ↔ clock c.moment + c.after.shortfall ≤ clock later))
        ∧ (c.after.shortfall ≤ maxWait → ∀ later, clock c.moment + wait ≤ clock later →
          (c.after.reserve (elapsed clock) later).2 = none) := by
  have hfull : (full rate start).Sound rate := sound_full rate start
  refine ⟨fun c hc => ?tokens, fun s t hst => granted_le hrate hclock hfull horder hst,
    fun c hc wait hwait => ?refused⟩
  case tokens =>
    obtain ⟨hbefore, hnow, hafter, -⟩ := sound_of_mem_calls hrate hclock hfull horder hc
    have hleft := hbefore.reserve hrate hclock hnow
    rw [← hafter] at hleft
    exact ⟨⟨hbefore.tokens_nonneg, hbefore.tokens_le⟩, hleft.tokens_nonneg, hleft.tokens_le⟩
  case refused =>
    obtain ⟨hbefore, hnow, hafter, hanswer⟩ := sound_of_mem_calls hrate hclock hfull horder hc
    have hrefused := hanswer.symm.trans hwait
    obtain ⟨hmissing, hkept, hlength⟩ := reserve_of_eq_some hrefused
    have hleft := hbefore.reserve hrate hclock hnow
    have hfilled := filledAt_reserve hclock hbefore hnow
    rw [← hkept, ← hafter] at hmissing hlength
    rw [← hafter] at hleft hfilled
    have hshort : 0 < c.after.shortfall := by
      rw [shortfall, hleft.rate_eq]
      exact div_pos (sub_pos.2 hmissing) hrate
    have hnext : ∀ later, c.moment ≤ later → ((c.after.reserve (elapsed clock) later).2 = none
        ↔ clock c.moment + c.after.shortfall ≤ clock later) := by
      intro later hlater
      rw [reserve_eq_none_iff_le hrate hclock hleft (hfilled.le.trans hlater), hfilled]
    have hpositive : 0 < wait := by
      rw [hlength]
      exact lt_min hshort (by norm_num [maxWait])
    have hcut : wait ≤ maxWait := hlength.trans_le (min_le_right _ _)
    refine ⟨fun later hlater => ?_, hpositive, hcut, hlength, hnext,
      fun huncut later hlater => ?_⟩
    · rw [hafter]
      exact reserve_reserve_of_eq_some hrate hclock hbefore hnow hlater hrefused
    · rw [hlength, min_eq_left huncut] at hlater
      have hafterwards : clock c.moment < clock later :=
        (lt_add_of_pos_right _ hshort).trans_le hlater
      exact (hnext later (hclock.lt_iff_lt.1 hafterwards).le).2 hlater

/-- The seconds since the program began. -/
def seconds (now : Instant) : ℚ := now / 1000000000

theorem strictMono_seconds : StrictMono seconds := by
  intro since now h
  exact div_lt_div_of_pos_right (Nat.cast_lt.2 h) (by norm_num)

/-- A bucket of two calls per second, of which both are taken. -/
def drained : TokenBucket Instant ℚ := ⟨2, 2, 0, 0⟩

theorem bounded_grants_two_per_second :
    (0 : ℚ) < 2 ∧ StrictMono seconds
      ∧ ([0, 0, 0, 0, 500000000] : List Instant).Pairwise (· ≤ ·)
      ∧ granted seconds [0, 0, 0, 500000000] (full 2 0) 0 500000000 = 3
      ∧ (granted seconds [0, 0, 0, 500000000] (full 2 0) 0 500000000 : ℚ)
        ≤ max 2 1 + 2 * (seconds 500000000 - seconds 0)
      ∧ ⟨0, drained, drained, some (1 / 2)⟩ ∈ calls seconds [0, 0, 0, 500000000] (full 2 0)
      ∧ ∀ later, seconds 0 + 1 / 2 ≤ seconds later →
        (drained.reserve (elapsed seconds) later).2 = none := by
  have horder : ([0, 0, 0, 0, 500000000] : List Instant).Pairwise (· ≤ ·) := by decide
  have hrefused : ⟨0, drained, drained, some (1 / 2)⟩
      ∈ calls seconds [0, 0, 0, 500000000] (full 2 0) := by decide +kernel
  have hshort : drained.shortfall ≤ maxWait := by norm_num [drained, shortfall, maxWait]
  have hrate : (0 : ℚ) < 2 := by norm_num
  have h := bounded_grants hrate strictMono_seconds horder
  refine ⟨hrate, strictMono_seconds, horder, by decide +kernel,
    h.2.1 0 500000000 (by decide), hrefused, ?_⟩
  exact (h.2.2 _ hrefused _ rfl).2.2.2.2.2 hshort

end LiveConfig.TokenBucket
