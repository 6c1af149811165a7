import Mathlib.Data.Prod.Lex
import Mathlib.Order.Compare

/-!
# The order of doubles

Comparing doubles is no order: what is no number compares with nothing, and the two zeros count as
equal. All other doubles stand in a line, and this module says where.

## Main statements

- `exists_compares`: comparing two numbers says how their places compare.
- `le_iff`, `lt_iff`, `beq_iff`: the comparisons of doubles by their places.
- `not_isNaN_of_le`: what is at least something is a number.
-/

namespace LiveConfig.Number

open Float.Model UnpackedFloat

/-! ## §1 Places -/

/-- Where a number stands in the line of all of them: by its sign and whether it is infinite, then
by its exponent, then by its mantissa. -/
def place : UnpackedFloat → ℤ ×ₗ ℤ ×ₗ ℤ
  | .infinity .negative => toLex (-2, toLex (0, 0))
  | .finite .negative m e _ => toLex (-1, toLex (-e, -(m : ℤ)))
  | .zero _ => toLex (0, toLex (0, 0))
  | .notANumber => toLex (0, toLex (0, 0))
  | .finite .positive m e _ => toLex (1, toLex (e, (m : ℤ)))
  | .infinity .positive => toLex (2, toLex (0, 0))

/-- Mantissas decide among equal exponents. -/
theorem compares_then (e₁ e₂ : ℤ) (m₁ m₂ : ℕ) :
    ((compare e₁ e₂).then (compare m₁ m₂)).Compares
      (toLex (e₁, (m₁ : ℤ))) (toLex (e₂, (m₂ : ℤ))) := by
  rcases lt_trichotomy e₁ e₂ with he | rfl | he
  · rw [Int.compare_eq_lt.2 he]
    exact Prod.Lex.toLex_lt_toLex.2 (.inl he)
  · rcases lt_trichotomy m₁ m₂ with hm | rfl | hm
    · simp [Nat.compare_eq_lt.2 hm, Ordering.Compares, Prod.Lex.lt_iff, hm]
    · simp [Ordering.Compares]
    · simp [Nat.compare_eq_gt.2 hm, Ordering.Compares, Prod.Lex.lt_iff, hm]
  · rw [Int.compare_eq_gt.2 he]
    exact Prod.Lex.toLex_lt_toLex.2 (.inl he)

theorem compares_infinity (s t : Sign) :
    (compare s t).Compares (place (.infinity s)) (place (.infinity t)) := by
  cases s <;> cases t
  · rfl
  · exact Prod.Lex.toLex_lt_toLex.2 (.inl (by decide))
  · exact Prod.Lex.toLex_lt_toLex.2 (.inl (by decide))
  · rfl

/-- **Comparing two numbers** says how their places compare. -/
theorem exists_compares {a b : UnpackedFloat} (ha : a.isNaN = false) (hb : b.isNaN = false) :
    ∃ o, a.compare b = some o ∧ o.Compares (place a) (place b) := by
  rcases a with (_ | _) | _ | _ | ⟨_ | _, m₁, e₁, h₁⟩ <;>
    rcases b with (_ | _) | _ | _ | ⟨_ | _, m₂, e₂, h₂⟩ <;>
    first
    | cases ha; done
    | cases hb; done
    | refine ⟨_, rfl, ?_⟩
  -- Two finite numbers of one sign: only here exponents and mantissas count.
  case finite.negative.finite.negative =>
    have h := compares_then e₁ e₂ m₁ m₂
    rw [← Ordering.compares_swap, Ordering.swap_swap]
    generalize (compare e₁ e₂).then (compare m₁ m₂) = o at h
    dsimp only [place]
    cases o <;> simpa [Ordering.Compares, Prod.Lex.lt_iff, eq_comm] using h
  case finite.positive.finite.positive =>
    have h := compares_then e₁ e₂ m₁ m₂
    generalize (compare e₁ e₂).then (compare m₁ m₂) = o at h
    dsimp only [place]
    cases o <;> simpa [Ordering.Compares, Prod.Lex.lt_iff] using h
  all_goals
    first
    | exact compares_infinity _ _
    | dsimp only [place]; simp [Ordering.Compares, Prod.Lex.lt_iff]

/-! ## §2 Doubles -/

/-- Where a double stands in the line of the numbers. -/
def order (x : Float) : ℤ ×ₗ ℤ ×ₗ ℤ := place x.toModel.unpack

theorem le_iff_le_unpack (x y : Float) :
    x ≤ y ↔ x.toModel.unpack.le y.toModel.unpack = true := by
  show decide (x.toModel.unpack.le y.toModel.unpack = true) = true ↔ _
  rw [decide_eq_true_iff]

theorem lt_iff_lt_unpack (x y : Float) :
    x < y ↔ x.toModel.unpack.lt y.toModel.unpack = true := by
  show decide (x.toModel.unpack.lt y.toModel.unpack = true) = true ↔ _
  rw [decide_eq_true_iff]

variable {x y : Float}

theorem le_iff (hx : x.isNaN = false) (hy : y.isNaN = false) : x ≤ y ↔ order x ≤ order y := by
  obtain ⟨o, hcompare, ho⟩ := exists_compares hx hy
  rw [le_iff_le_unpack, UnpackedFloat.le, hcompare, Option.any_some, Ordering.isLE_iff_ne_gt]
  exact ho.ne_gt

theorem lt_iff (hx : x.isNaN = false) (hy : y.isNaN = false) : x < y ↔ order x < order y := by
  obtain ⟨o, hcompare, ho⟩ := exists_compares hx hy
  rw [lt_iff_lt_unpack, UnpackedFloat.lt, hcompare, beq_iff_eq, Option.some_inj]
  exact ho.eq_lt

theorem beq_iff (hx : x.isNaN = false) (hy : y.isNaN = false) :
    (x == y) = true ↔ order x = order y := by
  obtain ⟨o, hcompare, ho⟩ := exists_compares hx hy
  show (x.toModel.unpack.compare y.toModel.unpack == some .eq) = true ↔ _
  rw [hcompare, beq_iff_eq, Option.some_inj]
  exact ho.eq_eq

theorem le_notANumber (a : UnpackedFloat) : a.le .notANumber = false := by
  cases a <;> rfl

/-- What is at least something is a number. -/
theorem not_isNaN_of_le (h : x ≤ y) : y.isNaN = false := by
  rw [le_iff_le_unpack] at h
  show y.toModel.unpack.isNaN = false
  cases hy : y.toModel.unpack with
  | notANumber =>
    rw [hy, le_notANumber] at h
    cases h
  | _ => rfl

theorem not_isNaN_of_isFinite (h : x.isFinite = true) : x.isNaN = false := by
  change x.toModel.unpack.isFinite = true at h
  show x.toModel.unpack.isNaN = false
  cases hx : x.toModel.unpack with
  | notANumber =>
    rw [hx] at h
    cases h
  | _ => rfl

end LiveConfig.Number
