import LiveConfig.Json.Reader
import Mathlib.Data.List.TakeDrop

/-!
# Integers in documents

The decimal text of an integer is a numeral of the grammar, wherever the text behind it does not go
on with it. The numeral denotes the integer again if 64 bits hold it, with or without a sign.

## Main statements

- `JsonNumber.absorb_decimal`: the digits of a number are gathered into the number.
- `Json.numeral?_decimalInt`: the text of an integer is read as one numeral.
- `JsonNumber.ofNumeral?_ofInt`: the numeral denotes the integer.
-/

namespace LiveConfig

/-! ## §1 Decimal digits -/

namespace Number

theorem digitIn?_digitChar {d : Nat} (h : d < 10) : digitIn? 10 d.digitChar = some d := by
  have hall : ∀ d : Fin 10, digitIn? 10 d.val.digitChar = some d.val := by decide
  exact hall ⟨d, h⟩

theorem digitValue?_digitChar {d : Nat} (h : d < 10) : digitValue? d.digitChar = some d := by
  have hall : ∀ d : Fin 10, digitValue? d.val.digitChar = some d.val := by decide
  exact hall ⟨d, h⟩

theorem decimal_of_lt_ten {n : Nat} (h : n < 10) : decimal n = [n.digitChar] :=
  Nat.toDigits_of_lt_base h

theorem decimal_of_ten_le {n : Nat} (h : 10 ≤ n) :
    decimal n = decimal (n / 10) ++ [(n % 10).digitChar] :=
  Nat.toDigits_of_base_le (by decide) h

theorem isDigit_of_mem_decimal {n : Nat} {c : Char} (h : c ∈ decimal n) : isDigit c = true := by
  induction n using Nat.strongRecOn with
  | _ n ih =>
    have hdigit {d : Nat} (hd : d < 10) : isDigit d.digitChar = true := by
      rw [isDigit, digitIn?_digitChar hd]
      rfl
    by_cases hn : n < 10
    · rw [decimal_of_lt_ten hn, List.mem_singleton] at h
      exact h ▸ hdigit hn
    · rw [decimal_of_ten_le (Nat.le_of_not_lt hn), List.mem_append, List.mem_singleton] at h
      rcases h with h | rfl
      · exact ih (n / 10) (by omega) h
      · exact hdigit (Nat.mod_lt n (by decide))

/-- The digits of a positive number do not begin with zero. -/
theorem exists_decimal_cons {n : Nat} (hn : 0 < n) : ∃ c t, decimal n = c :: t ∧ c ≠ '0' := by
  induction n using Nat.strongRecOn with
  | _ n ih =>
    by_cases hten : n < 10
    · refine ⟨n.digitChar, [], decimal_of_lt_ten hten, fun hzero => ?_⟩
      have hvalue := digitIn?_digitChar hten
      rw [hzero] at hvalue
      exact absurd (Option.some.inj hvalue) (Nat.ne_of_lt hn)
    · obtain ⟨c, t, hfirst, hc⟩ := ih (n / 10) (by omega) (by omega)
      refine ⟨c, t ++ [(n % 10).digitChar], ?_, hc⟩
      rw [decimal_of_ten_le (Nat.le_of_not_lt hten), hfirst, List.cons_append]

theorem decimal_ne_nil (n : Nat) : decimal n ≠ [] := Nat.toDigits_ne_nil

/-- The text of an integer begins with a digit or a minus sign. -/
theorem exists_decimalInt_cons (i : Int) :
    ∃ c t, decimalInt i = c :: t ∧ (isDigit c = true ∨ c = '-') := by
  unfold decimalInt
  split
  · exact ⟨_, _, rfl, .inr rfl⟩
  · obtain ⟨c, t, hfirst⟩ := List.exists_cons_of_ne_nil (decimal_ne_nil i.natAbs)
    exact ⟨c, t, hfirst, .inl (isDigit_of_mem_decimal (hfirst ▸ List.mem_cons_self))⟩

/-- Digits end where something else begins. -/
theorem spanDigits_append {ds rest : List Char} (hds : ∀ c ∈ ds, isDigit c = true)
    (hrest : ∀ c ∈ rest.head?, isDigit c = false) : spanDigits (ds ++ rest) = (ds, rest) := by
  have htake : rest.takeWhile isDigit = [] ∧ rest.dropWhile isDigit = rest := by
    cases rest with
    | nil => exact ⟨rfl, rfl⟩
    | cons c t =>
      have hc := hrest c rfl
      simp [hc]
  rw [spanDigits, List.span_eq_takeWhile_dropWhile, List.takeWhile_append_of_pos hds,
    List.dropWhile_append_of_pos hds, htake.1, htake.2, List.append_nil]

end Number

/-! ## §2 The numeral of an integer -/

namespace Json

/-- A text that does not go on with a numeral in front of it. -/
def Apart (rest : List Char) : Prop :=
  ∀ c ∈ rest.head?, Number.isDigit c = false ∧ c ≠ '.' ∧ c ≠ 'e' ∧ c ≠ 'E'

/-- The numeral of an integer. -/
def numeralOf (i : Int) : JsonNumber.Numeral := ⟨i < 0, Number.decimal i.natAbs, none, none⟩

section Numeral

variable {rest : List Char}

theorem whole?_decimal (n : Nat) (h : Apart rest) :
    whole? (Number.decimal n ++ rest) = some (Number.decimal n, rest) := by
  have hspan := Number.spanDigits_append (fun _ => Number.isDigit_of_mem_decimal (n := n))
    fun c hc => (h c hc).1
  unfold whole?
  rw [hspan]
  dsimp only
  split
  · next hnil => exact absurd hnil (Number.decimal_ne_nil n)
  · next c t hzero =>
    -- Only the number zero begins with the digit, and it has no other.
    rcases Nat.eq_zero_or_pos n with rfl | hn
    · cases hzero
    · obtain ⟨c, t, hfirst, hc⟩ := Number.exists_decimal_cons hn
      rw [hfirst] at hzero
      exact absurd (List.cons.inj hzero).1 hc
  · rfl

theorem fraction?_of_apart (h : Apart rest) : fraction? rest = some (none, rest) := by
  unfold fraction?
  split
  · exact absurd rfl (h '.' rfl).2.1
  · rfl

theorem exponent?_of_apart (h : Apart rest) : exponent? rest = some (none, rest) := by
  cases rest with
  | nil => rfl
  | cons c t =>
    obtain ⟨-, -, hlower, hupper⟩ := h c rfl
    simp [exponent?, hlower, hupper]

/-- **The text of an integer is read as one numeral**, if the text behind it stands apart. -/
theorem numeral?_decimalInt (i : Int) (h : Apart rest) :
    numeral? (Number.decimalInt i ++ rest) = some (numeralOf i, rest) := by
  have hwhole := whole?_decimal i.natAbs h
  unfold Number.decimalInt numeralOf
  split
  · next hneg => simp [numeral?, hwhole, fraction?_of_apart h, exponent?_of_apart h, hneg]
  · next hpos =>
    have hsign : ∀ s, Number.decimal i.natAbs ++ rest ≠ '-' :: s := by
      intro s hs
      obtain ⟨c, t, hfirst⟩ := List.exists_cons_of_ne_nil (Number.decimal_ne_nil i.natAbs)
      rw [hfirst, List.cons_append] at hs
      have hdigit : Number.isDigit c = true :=
        Number.isDigit_of_mem_decimal (hfirst ▸ List.mem_cons_self)
      rw [(List.cons.inj hs).1] at hdigit
      cases hdigit
    unfold numeral?
    split
    next negative s heq =>
    split at heq
    · next hs => exact absurd hs (hsign _)
    · cases heq
      simp [hwhole, fraction?_of_apart h, exponent?_of_apart h, hpos]

end Numeral

end Json

/-! ## §3 The integer of a numeral -/

namespace JsonNumber

/-- Whether a number is an integer of 64 bits, with or without a sign. -/
def isWhole : JsonNumber → Bool
  | int i => -(1 <<< 63 : Nat) ≤ i && i < (UInt64.size : Nat)
  | float _ => false

theorem isWhole_of_fits {i : Int} (h : Number.Fits 64 i) : (int i).isWhole = true := by
  have hlow : -((1 <<< 63 : Nat) : Int) ≤ i := h.1
  have hhigh : i < ((1 <<< 63 : Nat) : Int) := h.2
  have hsize : ((1 <<< 63 : Nat) : Int) ≤ (UInt64.size : Nat) := by decide
  simp only [isWhole, Bool.and_eq_true, decide_eq_true_eq]
  exact ⟨hlow, Int.lt_of_lt_of_le hhigh hsize⟩

theorem absorb_append {n m : Nat} {ds : List Char} (h : absorb n ds = (m, [])) (es : List Char) :
    absorb n (ds ++ es) = absorb m es := by
  induction ds generalizing n with
  | nil =>
    cases h
    rfl
  | cons c ds ih =>
    rw [absorb] at h
    rw [List.cons_append, absorb]
    split at h
    · next hfits => rw [if_pos hfits, ih h]
    · cases h

/-- **The digits of a number are gathered into the number.** -/
theorem absorb_decimal {n : Nat} (h : n < UInt64.size) : absorb 0 (Number.decimal n) = (n, []) := by
  have hlast {m d : Nat} (hd : d < 10) (hfits : m * 10 + d < UInt64.size) :
      absorb m [d.digitChar] = (m * 10 + d, []) := by
    simp only [absorb, Number.digitValue?_digitChar hd, Option.getD_some, if_pos hfits]
  induction n using Nat.strongRecOn with
  | _ n ih =>
    by_cases hten : n < 10
    · rw [Number.decimal_of_lt_ten hten, hlast hten (by omega), Nat.zero_mul, Nat.zero_add]
    · have hfront := ih (n / 10) (by omega) (by omega)
      have hvalue : n / 10 * 10 + n % 10 = n := by omega
      rw [Number.decimal_of_ten_le (Nat.le_of_not_lt hten), absorb_append hfront,
        hlast (Nat.mod_lt n (by decide)) (by omega), hvalue]

/-- **The numeral of an integer denotes it** if 64 bits hold it. -/
theorem ofNumeral?_ofInt {i : Int} (h : (int i).isWhole = true) :
    ofNumeral? (Json.numeralOf i) = some (int i) := by
  have hsize : UInt64.size = 18446744073709551616 := rfl
  have hshift : 1 <<< 63 = 9223372036854775808 := rfl
  simp only [isWhole, hsize, hshift, Bool.and_eq_true, decide_eq_true_eq] at h
  have hdigits := absorb_decimal (n := i.natAbs) (by rw [hsize]; omega)
  unfold ofNumeral? Json.numeralOf
  simp only [hdigits, List.isEmpty_nil, Bool.not_true, Bool.false_eq_true, if_false]
  by_cases hneg : i < 0
  · have hinteger : ¬(i.natAbs = 0 ∨ 1 <<< 63 < i.natAbs) := by
      rw [hshift]
      omega
    have hvalue : -(i.natAbs : Int) = i := by omega
    rw [decide_eq_true hneg, Bool.not_true, if_neg Bool.false_ne_true, if_neg hinteger, hvalue]
  · have hvalue : (i.natAbs : Int) = i := by omega
    rw [decide_eq_false hneg, Bool.not_false, if_pos rfl, hvalue]

end JsonNumber

end LiveConfig
