/-!
# Blanks

The Unicode property `White_Space`, and trimming by it.

## Main statements

- `isBlank_of_isWhitespace`: the ASCII blanks of the core library are blanks here.
- `trimStart_eq_self_iff`: trimming leaves a text alone exactly when it does not begin with a blank.
-/

namespace LiveConfig.Text

/-- The property `White_Space`. -/
def isBlank (c : Char) : Bool :=
  let n := c.toNat
  (0x9 ≤ n && n ≤ 0xD) || n == 0x20 || n == 0x85 || n == 0xA0 || n == 0x1680
    || (0x2000 ≤ n && n ≤ 0x200A) || n == 0x2028 || n == 0x2029 || n == 0x202F
    || n == 0x205F || n == 0x3000

/-- Drop the blanks at the front. -/
def trimStart (s : List Char) : List Char := s.dropWhile isBlank

/-- Drop the blanks at the end. -/
def trimEnd (s : List Char) : List Char := (s.reverse.dropWhile isBlank).reverse

/-- Drop the blanks at both ends. -/
def trim (s : List Char) : List Char := trimEnd (trimStart s)

/-- Drop the blanks at both ends of a string. -/
def trimmed (s : String) : String := String.ofList (trim s.toList)

/-- The trimmed text, unless nothing is left of it. -/
def nonBlank? (s : String) : Option String :=
  let t := trimmed s
  if t.isEmpty then none else some t

/-- Whether a text holds nothing but blanks. -/
def allBlank (s : String) : Bool := s.toList.all isBlank

/-! ## What trimming does -/

theorem isBlank_of_isWhitespace {c : Char} (h : c.isWhitespace) : isBlank c := by
  simp only [Char.isWhitespace, Bool.or_eq_true, decide_eq_true_eq] at h
  rcases h with ((h | h) | h) | h <;> subst h <;> decide

@[simp] theorem trimStart_nil : trimStart [] = [] := rfl

theorem trimStart_cons (c : Char) (s : List Char) :
    trimStart (c :: s) = if isBlank c then trimStart s else c :: s := by
  simp [trimStart, List.dropWhile_cons]

/-- Trimming leaves a text alone exactly when it does not begin with a blank. -/
theorem trimStart_eq_self_iff (s : List Char) :
    trimStart s = s ↔ ∀ c, s.head? = some c → isBlank c = false := by
  cases s with
  | nil => simp
  | cons c s =>
    by_cases h : isBlank c
    · simp only [trimStart_cons, h, if_true, List.head?_cons, Option.some.injEq, forall_eq']
      constructor
      · intro e
        have hl := (List.dropWhile_sublist isBlank (l := s)).length_le
        have : (trimStart s).length = (c :: s).length := by rw [e]
        simp only [trimStart, List.length_cons] at this
        omega
      · intro e; cases e
    · simp [trimStart_cons, h]

theorem trimStart_idem (s : List Char) : trimStart (trimStart s) = trimStart s := by
  induction s with
  | nil => rfl
  | cons c s ih =>
    by_cases h : isBlank c
    · simp [trimStart_cons, h, ih]
    · simp [trimStart_cons, h]

end LiveConfig.Text
