import LiveConfig.Proofs.Properties.RoundTrip

/-!
# Logical lines

A logical line begins at the next natural line that is neither blank nor a comment, and goes on as
long as its natural lines continue, whatever these are. The reader gathers its lines in one pass
that takes "nothing gathered yet" for "no line begun". The two differ at a natural line that holds a
continuation mark and nothing else: it begins a line and gathers nothing.

## Main statements

- `logicalLines_eq`: the reader passes over such lines, and otherwise keeps to the grammar.
- `linesFrom_passedOver_eq_iff`: it gives all lines of the grammar exactly if none of them is blank
  or looks like a comment.
-/

namespace LiveConfig.Properties

open Text

/-! ## §1 Lines of the grammar -/

/-- The logical line at the front of natural lines: what continues, each without its last backslash,
and the next natural line as it is. At the end of the text there is no such line. -/
def joined (ls : List (List Char)) : List Char :=
  (ls.takeWhile continues).flatMap List.dropLast ++ (ls.dropWhile continues).headD []

/-- The natural lines behind that logical line. -/
def behind (ls : List (List Char)) : List (List Char) := (ls.dropWhile continues).tail

@[simp] theorem joined_nil : joined [] = [] := rfl

@[simp] theorem behind_nil : behind [] = [] := rfl

theorem joined_of_continues {l : List Char} (h : continues l = true) (ls : List (List Char)) :
    joined (l :: ls) = l.dropLast ++ joined ls := by
  simp [joined, h]

theorem behind_of_continues {l : List Char} (h : continues l = true) (ls : List (List Char)) :
    behind (l :: ls) = behind ls := by
  simp [behind, h]

theorem joined_of_ends {l : List Char} (h : continues l = false) (ls : List (List Char)) :
    joined (l :: ls) = l := by
  simp [joined, h]

theorem behind_of_ends {l : List Char} (h : continues l = false) (ls : List (List Char)) :
    behind (l :: ls) = ls := by
  simp [behind, h]

theorem length_behind_le (l : List Char) (ls : List (List Char)) :
    (behind (l :: ls)).length ≤ ls.length := by
  induction ls generalizing l with
  | nil => cases h : continues l <;> simp [behind, h]
  | cons l' ls ih =>
    cases h : continues l with
    | false => rw [behind_of_ends h]
    | true =>
      rw [behind_of_continues h]
      exact (ih l').trans (Nat.le_succ _)

/-- **The logical lines of natural lines**, where some natural lines are passed over and begin
none. -/
def linesFrom (passed : List Char → Bool) : List (List Char) → List (List Char)
  | [] => []
  | l :: ls =>
    if passed l then linesFrom passed ls
    else joined (l :: ls) :: linesFrom passed (behind (l :: ls))
termination_by ls => ls.length
decreasing_by
  · exact Nat.lt_succ_self _
  · exact Nat.lt_succ_of_le (length_behind_le l ls)

theorem linesFrom_nil (passed : List Char → Bool) : linesFrom passed [] = [] := by
  rw [linesFrom]

theorem linesFrom_of_passed {passed : List Char → Bool} {l : List Char} (h : passed l = true)
    (ls : List (List Char)) : linesFrom passed (l :: ls) = linesFrom passed ls := by
  rw [linesFrom, if_pos h]

theorem linesFrom_of_begun {passed : List Char → Bool} {l : List Char} (h : passed l = false)
    (ls : List (List Char)) :
    linesFrom passed (l :: ls) = joined (l :: ls) :: linesFrom passed (behind (l :: ls)) := by
  rw [linesFrom, if_neg (by simp [h])]

/-! ## §2 Lines of the reader -/

/-- A natural line that the reader passes over where a logical line may begin: a blank one, a
comment, or one that holds a continuation mark and nothing else. -/
def passedOver (l : List Char) : Bool := skippable l || l == ['\\']

theorem passedOver_eq_false_iff {l : List Char} :
    passedOver l = false ↔ skippable l = false ∧ l ≠ ['\\'] := by
  simp [passedOver]

theorem continues_eq_false_of_dropLast {l : List Char} (h : l.dropLast = []) (hl : l ≠ ['\\']) :
    continues l = false := by
  cases l with
  | nil => rfl
  | cons c rest =>
    cases rest with
    | nil =>
      have hc : c ≠ '\\' := fun hc => hl (by rw [hc])
      simp [continues, hc]
    | cons d rest => cases h

theorem gather_of_skippable {raw : List Char} (h : skippable (trimStart raw) = true)
    (ls : List (List Char)) : gather [] (raw :: ls) = gather [] ls := by
  simp [gather, h]

theorem gather_of_begun {acc raw : List Char} (h : acc = [] → skippable (trimStart raw) = false)
    (ls : List (List Char)) :
    gather acc (raw :: ls)
      = if continues (trimStart raw) then gather (acc ++ (trimStart raw).dropLast) ls
        else (acc ++ trimStart raw) :: gather [] ls := by
  rw [gather, if_neg]
  simpa using h

/-- **The pass over the natural lines.** With something gathered the line goes on whatever follows;
with nothing gathered the next one is looked for. -/
theorem gather_eq (ls : List (List Char)) :
    gather [] ls = linesFrom passedOver (ls.map trimStart)
      ∧ ∀ acc, acc ≠ [] → gather acc ls
          = (acc ++ joined (ls.map trimStart))
            :: linesFrom passedOver (behind (ls.map trimStart)) := by
  induction ls with
  | nil =>
    refine ⟨(linesFrom_nil _).symm, ?_⟩
    intro acc hacc
    simp [gather, hacc, linesFrom_nil]
  | cons raw ls ih =>
    obtain ⟨hclosed, hopen⟩ := ih
    rw [List.map_cons]
    constructor
    · cases hskip : skippable (trimStart raw) with
      | true =>
        have hpassed : passedOver (trimStart raw) = true := by simp [passedOver, hskip]
        rw [linesFrom_of_passed hpassed, gather_of_skippable hskip, hclosed]
      | false =>
        rw [gather_of_begun fun _ => hskip, List.nil_append, List.nil_append]
        by_cases hmark : trimStart raw = ['\\']
        · -- Nothing has been gathered, so the next line is taken for a first one.
          rw [hmark, linesFrom_of_passed rfl, ← hclosed]
          rfl
        · rw [linesFrom_of_begun (passedOver_eq_false_iff.2 ⟨hskip, hmark⟩)]
          cases hgoes : continues (trimStart raw) with
          | true =>
            have hacc : (trimStart raw).dropLast ≠ [] := by
              intro hnil
              rw [continues_eq_false_of_dropLast hnil hmark] at hgoes
              cases hgoes
            rw [if_pos rfl, hopen _ hacc, joined_of_continues hgoes, behind_of_continues hgoes]
          | false =>
            rw [if_neg Bool.false_ne_true, joined_of_ends hgoes, behind_of_ends hgoes, hclosed]
    · intro acc hacc
      rw [gather_of_begun fun hnil => absurd hnil hacc]
      cases hgoes : continues (trimStart raw) with
      | true =>
        have hstays : acc ++ (trimStart raw).dropLast ≠ [] := by simp [hacc]
        rw [if_pos rfl, hopen _ hstays, joined_of_continues hgoes, behind_of_continues hgoes,
          List.append_assoc]
      | false =>
        rw [if_neg Bool.false_ne_true, joined_of_ends hgoes, behind_of_ends hgoes, hclosed]

/-- The natural lines of a text without their leading blanks. -/
def trimmedLines (s : List Char) : List (List Char) := (naturalLines s).map trimStart

/-- **The reader keeps to the grammar**, but for the lines that it passes over. -/
theorem logicalLines_eq (s : List Char) :
    logicalLines s = linesFrom passedOver (trimmedLines s) :=
  (gather_eq (naturalLines s)).1

/-! ## §3 Lines that are lost -/

/-- A logical line is blank or looks like a comment as its first natural line does, unless this
adds nothing to it. -/
theorem skippable_joined {l : List Char} (h : l ≠ ['\\']) (ls : List (List Char)) :
    skippable (joined (l :: ls)) = skippable l := by
  cases hgoes : continues l with
  | false => rw [joined_of_ends hgoes]
  | true =>
    rw [joined_of_continues hgoes]
    cases hfront : l.dropLast with
    | nil =>
      rw [continues_eq_false_of_dropLast hfront h] at hgoes
      cases hgoes
    | cons c front =>
      cases l with
      | nil => cases hfront
      | cons d rest =>
        cases rest with
        | nil => cases hfront
        | cons e rest =>
          rw [(List.cons.inj hfront).1.symm]
          rfl

theorem skippable_of_mem_linesFrom {ls : List (List Char)} {l : List Char}
    (h : l ∈ linesFrom passedOver ls) : skippable l = false := by
  fun_induction linesFrom passedOver ls with
  | case1 => cases h
  | case2 _ _ _ ih => exact ih h
  | case3 first ls hbegun ih =>
    rcases List.mem_cons.1 h with rfl | hrest
    · obtain ⟨hskip, hmark⟩ := passedOver_eq_false_iff.1 (Bool.eq_false_iff.2 hbegun)
      rw [skippable_joined hmark, hskip]
    · exact ih hrest

/-- What is neither blank nor looks like a comment is a logical line. -/
theorem linesFrom_of_joined {ls : List (List Char)} (h : skippable (joined ls) = false) :
    linesFrom skippable ls = joined ls :: linesFrom skippable (behind ls) := by
  cases ls with
  | nil => cases h
  | cons l ls =>
    by_cases hmark : l = ['\\']
    · exact linesFrom_of_begun (by rw [hmark]; rfl) ls
    · exact linesFrom_of_begun (by rw [← skippable_joined hmark, h]) ls

/-- Where no line is blank or looks like a comment, none is lost. -/
theorem linesFrom_passedOver_eq (ls : List (List Char))
    (h : ∀ l ∈ linesFrom skippable ls, skippable l = false) :
    linesFrom passedOver ls = linesFrom skippable ls := by
  match ls with
  | [] => rw [linesFrom_nil, linesFrom_nil]
  | l :: ls =>
    cases hskip : skippable l with
    | true =>
      have hpassed : passedOver l = true := by simp [passedOver, hskip]
      rw [linesFrom_of_passed hskip] at h ⊢
      rw [linesFrom_of_passed hpassed]
      exact linesFrom_passedOver_eq ls h
    | false =>
      rw [linesFrom_of_begun hskip] at h ⊢
      by_cases hmark : l = ['\\']
      · -- The line that begins here is the one that begins at the next natural line.
        subst hmark
        rw [linesFrom_of_passed rfl]
        rw [joined_of_continues rfl, behind_of_continues rfl, List.dropLast_singleton,
          List.nil_append] at h ⊢
        have hlater : joined ls :: linesFrom skippable (behind ls) = linesFrom skippable ls :=
          (linesFrom_of_joined (h _ List.mem_cons_self)).symm
        rw [hlater] at h ⊢
        exact linesFrom_passedOver_eq ls h
      · rw [linesFrom_of_begun (passedOver_eq_false_iff.2 ⟨hskip, hmark⟩),
          linesFrom_passedOver_eq _ fun l' hl' => h l' (List.mem_cons_of_mem _ hl')]
termination_by ls.length
decreasing_by
  · exact Nat.lt_succ_self _
  · exact Nat.lt_succ_of_le (length_behind_le l ls)
  · exact Nat.lt_succ_self _

/-- **Which lines are lost**: none exactly if no line of the grammar is blank or looks like a
comment. -/
theorem linesFrom_passedOver_eq_iff (ls : List (List Char)) :
    linesFrom passedOver ls = linesFrom skippable ls
      ↔ ∀ l ∈ linesFrom skippable ls, skippable l = false := by
  constructor
  · intro h l hl
    rw [← h] at hl
    exact skippable_of_mem_linesFrom hl
  · exact linesFrom_passedOver_eq ls

end LiveConfig.Properties
