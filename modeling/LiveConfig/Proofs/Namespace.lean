import LiveConfig.Namespace
import Mathlib.Data.List.Infix

/-!
# Canonical names

What a namespace name looks like once it has been accepted, and what becomes of it when it is given
again. An accepted name holds no blanks, so a second round can only take another suffix from it.

## Main statements

- `stripSuffix_eq_self_iff`: a text without the default suffix is left alone, and only that.
- `normalize_eq_self_iff`: an accepted name stands for itself exactly if it has no such suffix.
-/

namespace LiveConfig

namespace Text

/-- Trimming leaves a text without blanks alone. -/
theorem trim_of_no_blank {s : List Char} (h : ∀ c ∈ s, isBlank c = false) : trim s = s := by
  have hstart : trimStart s = s :=
    (trimStart_eq_self_iff s).2 fun c hc => h c (List.mem_of_mem_head? hc)
  have hend : trimStart s.reverse = s.reverse :=
    (trimStart_eq_self_iff s.reverse).2 fun c hc =>
      h c (List.mem_reverse.1 (List.mem_of_mem_head? hc))
  rw [trim, hstart]
  change (trimStart s.reverse).reverse = s
  rw [hend, List.reverse_reverse]

end Text

namespace Namespace

/-- The name ends in the suffix of the default format, in any case. -/
def EndsInSuffix (name : String) : Prop :=
  defaultSuffix <:+ name.toList.map Char.toLower

instance (name : String) : Decidable (EndsInSuffix name) :=
  inferInstanceAs (Decidable (defaultSuffix <:+ name.toList.map Char.toLower))

/-! ## §1 Characters of names -/

/-- Where the characters of names stand among all characters. -/
theorem toNat_bounds_of_isNameChar {c : Char} (h : isNameChar c = true) :
    0x2D ≤ c.toNat ∧ c.toNat ≤ 0x7A := by
  -- An upper case letter, a lower case letter or a digit.
  have halphanum : c.isAlphanum = ((decide (65 ≤ c.val ∧ c.val ≤ 90)
      || 97 ≤ c.val && c.val ≤ 122) || 48 ≤ c.val && c.val ≤ 57) := rfl
  simp only [isNameChar, halphanum, Bool.or_eq_true, Bool.and_eq_true, decide_eq_true_eq,
    beq_iff_eq, UInt32.le_iff_toNat_le] at h
  change (((((65 ≤ c.toNat ∧ c.toNat ≤ 90) ∨ (97 ≤ c.toNat ∧ c.toNat ≤ 122)) ∨
    (48 ≤ c.toNat ∧ c.toNat ≤ 57)) ∨ c = '_') ∨ c = '.') ∨ c = '-' at h
  rcases h with ((h | rfl) | rfl) | rfl
  · omega
  all_goals decide

theorem isBlank_of_isNameChar {c : Char} (h : isNameChar c = true) : Text.isBlank c = false := by
  have hbounds := toNat_bounds_of_isNameChar h
  simp only [Text.isBlank, Bool.or_eq_false_iff, Bool.and_eq_false_iff, decide_eq_false_iff_not,
    beq_eq_false_iff_ne]
  omega

theorem all_isNameChar_of_fault? {name : String} (h : fault? name = none) :
    name.toList.all isNameChar = true := by
  simp only [fault?] at h
  split at h
  · cases h
  · split at h
    · cases h
    · split at h
      · assumption
      · cases h

/-! ## §2 Suffixes -/

/-- A text without the default suffix is left alone, and only that. -/
theorem stripSuffix_eq_self_iff {s : List Char} :
    stripSuffix s = s ↔ ¬defaultSuffix <:+ s.map Char.toLower := by
  have hdrop : (s.drop (s.length - defaultSuffix.length)).map Char.toLower = defaultSuffix ↔
      defaultSuffix <:+ s.map Char.toLower := by
    rw [List.suffix_iff_eq_drop, List.map_drop, List.length_map, eq_comm]
  simp only [stripSuffix, hdrop]
  split
  · next hsuffix =>
    have hlong := hsuffix.length_le
    rw [List.length_map] at hlong
    have hpos : 0 < defaultSuffix.length := by decide
    simp only [hsuffix, not_true, iff_false, List.take_eq_self_iff]
    omega
  · next hplain => simp [hplain]

/-! ## §3 Accepted names -/

section Accepted

variable {given name : String}

theorem eq_bareName_of_normalize (h : normalize given = .ok name) :
    name = bareName given ∧ fault? name = none := by
  unfold normalize at h
  split at h
  · cases h
  · next hfault =>
    cases h
    exact ⟨rfl, hfault⟩

theorem fault?_of_normalize (h : normalize given = .ok name) : fault? name = none :=
  (eq_bareName_of_normalize h).2

theorem no_slash_of_normalize (h : normalize given = .ok name) : '/' ∉ name.toList := by
  intro hslash
  have hall := all_isNameChar_of_fault? (fault?_of_normalize h)
  have hchar : isNameChar '/' = true := List.all_eq_true.1 hall '/' hslash
  exact absurd hchar (by decide)

/-- Of an accepted name only the suffix can be taken. -/
theorem bareName_of_fault? (h : fault? name = none) :
    bareName name = String.ofList (stripSuffix name.toList) := by
  rw [bareName, Text.trim_of_no_blank fun c hc =>
    isBlank_of_isNameChar (List.all_eq_true.1 (all_isNameChar_of_fault? h) c hc)]

/-- **An accepted name stands for itself** exactly if it does not end in the default suffix. -/
theorem normalize_eq_self_iff (h : fault? name = none) :
    normalize name = .ok name ↔ ¬EndsInSuffix name := by
  rw [EndsInSuffix, ← stripSuffix_eq_self_iff]
  constructor
  · intro hsame
    have hbare := (eq_bareName_of_normalize hsame).1
    rw [bareName_of_fault? h] at hbare
    exact ((congrArg String.toList hbare).trans String.toList_ofList).symm
  · intro hplain
    have hbare : bareName name = name := by
      rw [bareName_of_fault? h, hplain, String.ofList_toList]
    unfold normalize
    rw [hbare, h]

end Accepted

end Namespace

end LiveConfig
