import LiveConfig.Backoff
import Mathlib.Algebra.Order.Field.Basic
import Mathlib.Algebra.Order.Ring.Rat
import Mathlib.Tactic.Linarith
import Mathlib.Tactic.NormNum
import Mathlib.Tactic.Ring

/-!
# How delays grow

The delay after an error grows by a factor with every error that counts, up to a cap, in any exact
arithmetic. The growth ends at the sixty-fifth error. That does not show if the cap is reached by
then, as with a factor of two and spans of whole milliseconds; with a smaller factor the delays may
stay below the cap for ever.

## Main statements

- `power_eq`: repeated squaring is the power.
- `delayAfter_eq`: the delay after so many errors.
- `delayAfter_mono`: more errors never shorten it.
- `delayAfter_eq_unclamped`, `unclamped_of_delayAfter`: when the end of the growth does not show.
- `delayAfter_of_doubling`: it does not with a factor of two and whole units.
- `delays`: all of it, for every history of errors and successes.
- `delays_stuck`: delays that stay below the cap.
-/

namespace LiveConfig

namespace Growth

/-! ## §1 Powers -/

section Power

variable {M : Type} [CommMonoid M]

theorem powerFrom_eq (acc a : M) (n : ℕ) : powerFrom acc a n = acc * a ^ n := by
  induction n using Nat.strong_induction_on generalizing acc a with
  | _ n ih =>
    -- An odd exponent leaves one factor to the accumulator, the rest goes to the square.
    have hn : a ^ n = a ^ (n % 2) * (a * a) ^ (n / 2) := by
      rw [← pow_two, ← pow_mul, ← pow_add, Nat.mod_add_div]
    have hodd : (if n % 2 = 1 then acc * a else acc) = acc * a ^ (n % 2) := by
      rcases Nat.mod_two_eq_zero_or_one n with h | h <;> simp [h]
    rw [powerFrom, hodd]
    split
    · next hlast => rw [hn, hlast, pow_zero, mul_one]
    · next hmore => rw [ih (n / 2) (by omega), hn, mul_assoc]

/-- **Repeated squaring is the power.** -/
theorem power_eq (a : M) (n : ℕ) : power a n = a ^ n := by
  rw [power, powerFrom_eq, one_mul]

end Power

/-! ## §2 The delay after so many errors -/

section Delay

variable {K : Type} [Field K] [LinearOrder K] {base factor cap : K}

/-- **The delay** after so many errors. -/
theorem delayAfter_eq (base factor cap : K) (n : ℕ) :
    delayAfter base factor cap n = min cap (base * factor ^ exponent n) := by
  show (if base * power factor (exponent n) < cap then base * power factor (exponent n) else cap)
    = _
  rw [power_eq]
  split
  · next hbelow => exact (min_eq_right hbelow.le).symm
  · next hcapped => exact (min_eq_left (not_lt.1 hcapped)).symm

/-- A cap that is reached by the sixty-fifth error is the delay from then on. -/
theorem delayAfter_of_cap_le (hcap : cap ≤ base * factor ^ 64) {n : ℕ} (hn : 65 ≤ n) :
    delayAfter base factor cap n = cap := by
  have hexponent : exponent n = 64 := by
    unfold exponent
    omega
  rw [delayAfter_eq, hexponent, min_eq_left hcap]

variable [IsStrictOrderedRing K]

theorem grown_mono (hbase : 0 ≤ base) (hfactor : 1 ≤ factor) {m n : ℕ} (h : m ≤ n) :
    base * factor ^ m ≤ base * factor ^ n :=
  mul_le_mul_of_nonneg_left (pow_le_pow_right₀ hfactor h) hbase

/-- **More errors never shorten the delay.** -/
theorem delayAfter_mono (hbase : 0 ≤ base) (hfactor : 1 ≤ factor) {m n : ℕ} (h : m ≤ n) :
    delayAfter base factor cap m ≤ delayAfter base factor cap n := by
  have hexponent : exponent m ≤ exponent n := by
    unfold exponent
    omega
  rw [delayAfter_eq, delayAfter_eq]
  exact min_le_min_left cap (grown_mono hbase hfactor hexponent)

/-- A cap that is not reached by then is never reached. -/
theorem delayAfter_lt_cap (hbase : 0 ≤ base) (hfactor : 1 ≤ factor)
    (hcap : base * factor ^ 64 < cap) (n : ℕ) : delayAfter base factor cap n < cap := by
  rw [delayAfter_eq]
  apply min_lt_of_right_lt
  exact (grown_mono hbase hfactor (Nat.min_le_right _ _)).trans_lt hcap

/-- The end of the growth does not show if the cap is reached by then or nothing grows. -/
theorem delayAfter_eq_unclamped (hbase : 0 ≤ base) (hfactor : 1 ≤ factor)
    (h : base = 0 ∨ factor = 1 ∨ cap ≤ base * factor ^ 64) (n : ℕ) :
    delayAfter base factor cap n = min cap (base * factor ^ (n - 1)) := by
  rw [delayAfter_eq]
  rcases h with rfl | rfl | hcap
  · simp
  · simp
  · by_cases hn : n - 1 ≤ 64
    · rw [exponent, Nat.min_eq_left hn]
    · -- From here on both sides are the cap.
      have hmore : 64 ≤ n - 1 := by omega
      rw [exponent, Nat.min_eq_right hmore, min_eq_left hcap,
        min_eq_left (hcap.trans (grown_mono hbase hfactor hmore))]

/-- **Doubling outgrows every cap** that is a whole number below `2 ^ 64` of some unit of time. -/
theorem delayAfter_of_doubling (base : ℕ) {cap : ℕ} (hcap : cap < 2 ^ 64) (n : ℕ) :
    delayAfter (base : K) 2 cap n = min (cap : K) (base * 2 ^ (n - 1)) := by
  apply delayAfter_eq_unclamped (Nat.cast_nonneg base) one_le_two
  rcases Nat.eq_zero_or_pos base with rfl | hpos
  · exact .inl Nat.cast_zero
  · right
    right
    have hunits : cap ≤ base * 2 ^ 64 := hcap.le.trans (Nat.le_mul_of_pos_left _ hpos)
    exact_mod_cast hunits

/-- It shows at the sixty-sixth error at the latest otherwise. -/
theorem unclamped_of_delayAfter (hbase : 0 ≤ base) (hfactor : 1 ≤ factor)
    (h : delayAfter base factor cap 66 = min cap (base * factor ^ 65)) :
    base = 0 ∨ factor = 1 ∨ cap ≤ base * factor ^ 64 := by
  -- Otherwise the sixty-fifth delay is below the cap, and one more factor makes it longer.
  by_contra hnone
  simp only [not_or, not_le] at hnone
  obtain ⟨hzero, hone, hcap⟩ := hnone
  have hpos : 0 < base := hbase.lt_of_ne' hzero
  have hgrows : 1 < factor := hfactor.lt_of_ne' hone
  have hmore : base * factor ^ 64 < base * factor ^ 65 :=
    mul_lt_mul_of_pos_left (pow_lt_pow_right₀ hgrows (by norm_num)) hpos
  rw [delayAfter_eq] at h
  change min cap (base * factor ^ 64) = _ at h
  rw [min_eq_right hcap.le] at h
  exact (lt_min hcap hmore).ne h

end Delay

end Growth

/-! ## §3 Histories -/

namespace Backoff

/-- What a step counts. -/
def heed (recovery : ℕ) (b : Backoff) : BackoffStep → Backoff
  | .error => b.registerError
  | .success => b.registerSuccess recovery

/-- The counters after a history of errors and successes. -/
def after (recovery : ℕ) (history : List BackoffStep) : Backoff :=
  history.foldl (heed recovery) {}

/-- The errors that count once there is one more. -/
def nextErrors (recovery : ℕ) (history : List BackoffStep) : ℕ :=
  (after recovery history).registerError.errors

/-- **The delay that one more error gives** after a history. -/
def nextDelay {K : Type} [Field K] [LinearOrder K] (base factor cap : K) (recovery : ℕ)
    (history : List BackoffStep) : K :=
  Growth.delayAfter base factor cap (nextErrors recovery history)

theorem nextErrors_append_errors (recovery : ℕ) (history : List BackoffStep) (k : ℕ) :
    nextErrors recovery (history ++ List.replicate k .error) = nextErrors recovery history + k := by
  induction k with
  | zero => simp
  | succ k ih =>
    rw [List.replicate_succ', ← List.append_assoc]
    unfold nextErrors after at ih ⊢
    rw [List.foldl_append]
    simp only [List.foldl_cons, List.foldl_nil, heed, errors_registerError] at ih ⊢
    omega

variable {K : Type} [Field K] [LinearOrder K] [IsStrictOrderedRing K]

/-- **How delays grow**, for every history of errors and successes: by the factor with every error
that counts, up to the cap, and up to the sixty-fifth error. They never shrink while errors follow
each other; the end of the growth does not show exactly if nothing grows or the cap is reached by
then, and a cap that is reached by then stays reached, any other one never is. -/
theorem delays {base factor : K} (hbase : 0 ≤ base) (hfactor : 1 ≤ factor) (cap : K)
    (recovery : ℕ) :
    (∀ history, nextDelay base factor cap recovery history
        = min cap (base * factor ^ min (nextErrors recovery history - 1) 64))
      ∧ (∀ history k l, k ≤ l →
        nextDelay base factor cap recovery (history ++ List.replicate k .error)
          ≤ nextDelay base factor cap recovery (history ++ List.replicate l .error))
      ∧ ((∀ history, nextDelay base factor cap recovery history
          = min cap (base * factor ^ (nextErrors recovery history - 1)))
        ↔ base = 0 ∨ factor = 1 ∨ cap ≤ base * factor ^ 64)
      ∧ (cap ≤ base * factor ^ 64 → ∀ history k, 64 ≤ k →
        nextDelay base factor cap recovery (history ++ List.replicate k .error) = cap)
      ∧ (base * factor ^ 64 < cap → ∀ history,
        nextDelay base factor cap recovery history < cap) := by
  refine ⟨fun history => Growth.delayAfter_eq _ _ _ _, fun history k l hkl => ?mono,
    ⟨fun h => ?shows, fun h history => ?hidden⟩, fun hreached history k hk => ?reached,
    fun hmissed history => ?missed⟩
  case mono =>
    unfold nextDelay
    rw [nextErrors_append_errors, nextErrors_append_errors]
    apply Growth.delayAfter_mono hbase hfactor
    exact Nat.add_le_add_left hkl _
  case shows =>
    -- The history of sixty-five errors in a row is enough: its next error is the sixty-sixth.
    have h66 := h (List.replicate 65 .error)
    have hcount : nextErrors recovery (List.replicate 65 .error) = 66 :=
      nextErrors_append_errors recovery [] 65
    unfold nextDelay at h66
    rw [hcount] at h66
    exact Growth.unclamped_of_delayAfter hbase hfactor h66
  case hidden => exact Growth.delayAfter_eq_unclamped hbase hfactor h _
  case reached =>
    unfold nextDelay
    rw [nextErrors_append_errors]
    apply Growth.delayAfter_of_cap_le hreached
    show 65 ≤ (after recovery history).errors + 1 + k
    omega
  case missed => exact Growth.delayAfter_lt_cap hbase hfactor hmissed _

theorem delays_gradual_recovery :
    (0 : ℚ) ≤ 10 ∧ (1 : ℚ) ≤ 2
      ∧ nextDelay (10 : ℚ) 2 100 2 [.error, .error, .error, .success] = 80
      ∧ ∀ history k, 64 ≤ k →
        nextDelay (10 : ℚ) 2 100 2 (history ++ List.replicate k .error) = 100 := by
  have hbase : (0 : ℚ) ≤ 10 := by norm_num
  have hfactor : (1 : ℚ) ≤ 2 := by norm_num
  have h := delays hbase hfactor 100 2
  refine ⟨hbase, hfactor, ?_, h.2.2.2.1 (by norm_num)⟩
  -- The success is the first of two that it takes, so that four errors count.
  have hcount : nextErrors 2 [.error, .error, .error, .success] = 4 := rfl
  rw [h.1, hcount]
  norm_num

/-- **Delays that stay below the cap.** With a factor of 65/64 the sixty-sixth error in a row gives
the delay of the sixty-fifth, where one more factor leads still below the cap, and however many
errors there are, the cap is not reached. -/
theorem delays_stuck :
    (1 : ℚ) ≤ 8 ∧ (1 : ℚ) < 65 / 64
      ∧ nextErrors 0 (List.replicate 65 .error) = 66
      ∧ nextDelay (1 : ℚ) (65 / 64) 8 0 (List.replicate 65 .error) = (65 / 64) ^ 64
      ∧ (65 / 64 : ℚ) ^ 64 < min 8 (1 * (65 / 64) ^ (66 - 1))
      ∧ ∀ history, nextDelay (1 : ℚ) (65 / 64) 8 0 history < 8 := by
  have hcount : nextErrors 0 (List.replicate 65 .error) = 66 := rfl
  refine ⟨by norm_num, by norm_num, hcount, ?_, by norm_num, fun history => ?_⟩
  · unfold nextDelay
    rw [hcount, Growth.delayAfter_eq]
    show min (8 : ℚ) (1 * (65 / 64) ^ 64) = (65 / 64) ^ 64
    norm_num
  · apply Growth.delayAfter_lt_cap <;> norm_num

end Backoff

end LiveConfig
