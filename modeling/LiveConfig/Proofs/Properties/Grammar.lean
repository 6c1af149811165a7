import LiveConfig.Proofs.Entries
import LiveConfig.Proofs.Properties.Lines

/-!
# The grammar of properties

A properties text is a list of logical lines. Each of them has a key, a gap and a value, or only a
key, and its key gets its value.

## Phrases

- **Key**: what stands in front of the first separator that is not escaped.
- **Gap**: blanks with at most one `=` or `:` among them, as much as there is.
- **Value**: all the rest.

## Main statements

- `split_iff`: every logical line has one key and one value, and the reader finds them.
- `read_grammar`: what is read from a text, and which logical lines are lost.
- `lost_line`: a line that the grammar has and the reader loses.
-/

namespace LiveConfig.Properties

open Text

/-! ## §1 Keys -/

/-- A character that ends the key unless it is escaped. -/
def isSeparator (c : Char) : Bool := c == '=' || c == ':' || isBlank c

/-- Every separator in a text is escaped, which is to say that what stands in front of it ends in an
odd number of backslashes. -/
def Sealed (s : List Char) : Prop :=
  ∀ a c b, s = a ++ c :: b → isSeparator c = true → continues a = true

theorem continues_plain {c : Char} (hc : c ≠ '\\') (s : List Char) :
    continues (c :: s) = continues s := by
  show (trailing (c :: s) % 2 == 1) = (trailing s % 2 == 1)
  rw [trailing_cons, if_neg fun h => hc h.2]

theorem continues_pair (c : Char) (s : List Char) :
    continues ('\\' :: c :: s) = continues s := by
  show (trailing ('\\' :: c :: s) % 2 == 1) = (trailing s % 2 == 1)
  rw [trailing_pair]

theorem sealed_plain {c : Char} (hc : c ≠ '\\') {s : List Char} :
    Sealed (c :: s) ↔ isSeparator c = false ∧ Sealed s := by
  constructor
  · intro h
    refine ⟨Bool.eq_false_iff.2 fun hsep => ?_, fun a d b hs hd => ?_⟩
    · cases h [] c s rfl hsep
    · rw [← continues_plain hc]
      exact h (c :: a) d b (by rw [hs]; rfl) hd
  · rintro ⟨hsep, hs⟩ a d b heq hd
    cases a with
    | nil =>
      rw [← (List.cons.inj heq).1, hsep] at hd
      cases hd
    | cons e a =>
      obtain ⟨rfl, htail⟩ := List.cons.inj heq
      rw [continues_plain hc]
      exact hs a d b htail hd

theorem sealed_pair {c : Char} {s : List Char} : Sealed ('\\' :: c :: s) ↔ Sealed s := by
  constructor
  · intro h a d b hs hd
    rw [← continues_pair c]
    exact h ('\\' :: c :: a) d b (by rw [hs]; rfl) hd
  · intro hs a d b heq hd
    match a, heq with
    | [], heq =>
      rw [← (List.cons.inj heq).1] at hd
      cases hd
    | [_], heq =>
      obtain ⟨rfl, -⟩ := List.cons.inj heq
      rfl
    | _ :: _ :: a, heq =>
      obtain ⟨rfl, htail⟩ := List.cons.inj heq
      obtain ⟨rfl, hrest⟩ := List.cons.inj htail
      rw [continues_pair]
      exact hs a d b hrest hd

/-! ## §2 Gaps -/

/-- **A gap and the value behind it.** Nothing of the gap is left to the value. -/
inductive Gap : List Char → List Char → Prop
  | marked {before after value : List Char} {m : Char} (hbefore : ∀ c ∈ before, isBlank c = true)
      (hm : m = '=' ∨ m = ':') (hafter : ∀ c ∈ after, isBlank c = true)
      (hvalue : ∀ c, value.head? = some c → isBlank c = false) : Gap (before ++ m :: after) value
  | blank {blanks value : List Char} (hne : blanks ≠ [])
      (hblanks : ∀ c ∈ blanks, isBlank c = true)
      (hvalue : ∀ c, value.head? = some c → isSeparator c = false) : Gap blanks value

theorem trimStart_blanks {blanks s : List Char} (h : ∀ c ∈ blanks, isBlank c = true)
    (hs : ∀ c, s.head? = some c → isBlank c = false) : trimStart (blanks ++ s) = s := by
  rw [Text.trimStart, List.dropWhile_append_of_pos h]
  exact (trimStart_eq_self_iff s).2 hs

/-- The blanks at the front of a text, and what stands behind them. -/
theorem exists_blanks (s : List Char) :
    ∃ blanks, s = blanks ++ trimStart s ∧ (∀ c ∈ blanks, isBlank c = true)
      ∧ ∀ c, (trimStart s).head? = some c → isBlank c = false :=
  ⟨s.takeWhile isBlank, List.takeWhile_append_dropWhile.symm, fun _ => List.mem_takeWhile_imp,
    (trimStart_eq_self_iff _).1 (trimStart_idem s)⟩

theorem isSeparator_eq_false_iff {c : Char} :
    isSeparator c = false ↔ ¬(c = '=' ∨ c = ':') ∧ isBlank c = false := by
  simp [isSeparator, and_assoc]

theorem afterBlank_marked {m : Char} (hm : m = '=' ∨ m = ':') {s rest : List Char}
    (h : trimStart s = m :: rest) : afterBlank s = trimStart rest := by
  rcases hm with rfl | rfl
  · simp only [afterBlank, h]
  · simp only [afterBlank, h]

theorem afterBlank_unmarked {s : List Char}
    (h : ∀ c, (trimStart s).head? = some c → ¬(c = '=' ∨ c = ':')) :
    afterBlank s = trimStart s := by
  rw [afterBlank]
  split
  · rename_i hs
    exact absurd (.inl rfl) (h '=' (by rw [hs]; rfl))
  · rename_i hs
    exact absurd (.inr rfl) (h ':' (by rw [hs]; rfl))
  · rfl

/-- What the reader takes for the value behind a first separator. -/
def valueBehind (c : Char) (s : List Char) : List Char :=
  if c = '=' ∨ c = ':' then trimStart s else afterBlank s

theorem valueBehind_mark {c : Char} (h : c = '=' ∨ c = ':') (s : List Char) :
    valueBehind c s = trimStart s :=
  if_pos h

theorem valueBehind_blank {c : Char} (h : isBlank c = true) (s : List Char) :
    valueBehind c s = afterBlank s := by
  refine if_neg ?_
  rintro (rfl | rfl) <;> cases h

theorem isSeparator_iff {c : Char} :
    isSeparator c = true ↔ (c = '=' ∨ c = ':') ∨ isBlank c = true := by
  simp [isSeparator, or_assoc]

theorem splitPair_separator {c : Char} (h : isSeparator c = true) (s : List Char) :
    splitPair (c :: s) = ([], valueBehind c s) := by
  have hc : c ≠ '\\' := by
    rintro rfl
    cases h
  rw [splitPair_cons hc]
  by_cases hmark : c = '=' ∨ c = ':'
  · rw [if_pos hmark, valueBehind_mark hmark]
  · have hblank := (isSeparator_iff.1 h).resolve_left hmark
    rw [if_neg hmark, if_pos hblank, valueBehind_blank hblank]

theorem splitPair_other {c : Char} (hc : c ≠ '\\') (h : isSeparator c = false) (s : List Char) :
    splitPair (c :: s) = (c :: (splitPair s).1, (splitPair s).2) := by
  obtain ⟨hmark, hblank⟩ := isSeparator_eq_false_iff.1 h
  rw [splitPair_cons hc, if_neg hmark, if_neg (by simp [hblank])]

/-- **The reader ends the gap** where the grammar does. -/
theorem exists_gap {c : Char} (h : isSeparator c = true) (s : List Char) :
    ∃ gap, c :: s = gap ++ valueBehind c s ∧ Gap gap (valueBehind c s) := by
  obtain ⟨blanks, hs, hblanks, hvalue⟩ := exists_blanks s
  rcases isSeparator_iff.1 h with hmark | hblank
  · rw [valueBehind_mark hmark]
    refine ⟨[] ++ c :: blanks, ?_, .marked (by simp) hmark hblanks hvalue⟩
    rw [List.nil_append, List.cons_append, ← hs]
  · have hfront : ∀ d ∈ c :: blanks, isBlank d = true := by simpa [hblank] using hblanks
    rw [valueBehind_blank hblank]
    by_cases hfirst : ∃ m rest, trimStart s = m :: rest ∧ (m = '=' ∨ m = ':')
    · -- One mark behind the blanks belongs to the gap, and so do the blanks behind it.
      obtain ⟨m, rest, hrest, hm⟩ := hfirst
      obtain ⟨more, hrest', hmore, hvalue'⟩ := exists_blanks rest
      rw [afterBlank_marked hm hrest]
      refine ⟨(c :: blanks) ++ m :: more, ?_, .marked hfront hm hmore hvalue'⟩
      rw [List.append_assoc, List.cons_append, List.cons_append, ← hrest', ← hrest, ← hs]
    · have hplain (d : Char) (hd : (trimStart s).head? = some d) : ¬(d = '=' ∨ d = ':') :=
        fun hm => hfirst ⟨d, _, List.eq_cons_of_mem_head? hd, hm⟩
      rw [afterBlank_unmarked hplain]
      refine ⟨c :: blanks, ?_, .blank (List.cons_ne_nil _ _) hfront fun d hd =>
        isSeparator_eq_false_iff.2 ⟨hplain d hd, hvalue d hd⟩⟩
      rw [List.cons_append, ← hs]

/-- **Only so the gap ends.** -/
theorem Gap.splitPair_eq {gap value : List Char} (h : Gap gap value) :
    splitPair (gap ++ value) = ([], value) := by
  cases h with
  | @marked before after _ m hbefore hm hafter hvalue =>
    have hrest : trimStart (after ++ value) = value := trimStart_blanks hafter hvalue
    cases before with
    | nil =>
      rw [List.nil_append, List.cons_append, splitPair_separator (isSeparator_iff.2 (.inl hm)),
        valueBehind_mark hm, hrest]
    | cons b before =>
      obtain ⟨hb, hbefore⟩ := List.forall_mem_cons.1 hbefore
      have hmark : trimStart (before ++ m :: (after ++ value)) = m :: (after ++ value) := by
        refine trimStart_blanks hbefore fun c hc => ?_
        obtain rfl := Option.some.inj hc
        rcases hm with rfl | rfl <;> rfl
      rw [List.append_assoc, List.cons_append, List.cons_append,
        splitPair_separator (isSeparator_iff.2 (.inr hb)), valueBehind_blank hb,
        afterBlank_marked hm hmark, hrest]
  | blank hne hblanks hvalue =>
    obtain ⟨b, blanks, rfl⟩ := List.exists_cons_of_ne_nil hne
    obtain ⟨hb, hblanks⟩ := List.forall_mem_cons.1 hblanks
    have hplain (c : Char) (hc : value.head? = some c) :=
      isSeparator_eq_false_iff.1 (hvalue c hc)
    have hrest : trimStart (blanks ++ value) = value :=
      trimStart_blanks hblanks fun c hc => (hplain c hc).2
    rw [List.cons_append, splitPair_separator (isSeparator_iff.2 (.inr hb)), valueBehind_blank hb,
      afterBlank_unmarked (by rw [hrest]; exact fun c hc => (hplain c hc).1), hrest]

/-! ## §3 Logical lines -/

/-- **A logical line, its key and its value.** A line without a separator is all key. -/
inductive Split : List Char → List Char → List Char → Prop
  | whole {line : List Char} (hkey : Sealed line) : Split line line []
  | parted {key gap value : List Char} (hkey : Sealed key) (hend : continues key = false)
      (hgap : Gap gap value) : Split (key ++ gap ++ value) key value

theorem Split.cons {c : Char} {s key value : List Char} (hc : c ≠ '\\')
    (hsep : isSeparator c = false) (h : Split s key value) : Split (c :: s) (c :: key) value := by
  cases h with
  | whole hkey => exact .whole ((sealed_plain hc).2 ⟨hsep, hkey⟩)
  | parted hkey hend hgap =>
    exact .parted ((sealed_plain hc).2 ⟨hsep, hkey⟩) (by rwa [continues_plain hc]) hgap

theorem Split.pair {c : Char} {s key value : List Char} (h : Split s key value) :
    Split ('\\' :: c :: s) ('\\' :: c :: key) value := by
  cases h with
  | whole hkey => exact .whole (sealed_pair.2 hkey)
  | parted hkey hend hgap =>
    exact .parted (sealed_pair.2 hkey) (by rwa [continues_pair]) hgap

theorem sealed_nil : Sealed [] := by
  intro a c b h
  cases a <;> cases h

theorem sealed_lone : Sealed ['\\'] := by
  intro a c b h hc
  cases a with
  | nil =>
    rw [← (List.cons.inj h).1] at hc
    cases hc
  | cons e a => cases a <;> cases (List.cons.inj h).2

/-- **A line is read character by character**, but for a backslash, which takes the character behind
it along, up to the first separator. -/
@[elab_as_elim]
theorem line_induction {motive : List Char → Prop} (line : List Char) (nil : motive [])
    (lone : motive ['\\']) (pair : ∀ c s, motive s → motive ('\\' :: c :: s))
    (separator : ∀ c s, isSeparator c = true → motive (c :: s))
    (other : ∀ c s, c ≠ '\\' → isSeparator c = false → motive s → motive (c :: s)) :
    motive line := by
  fun_induction splitPair line with
  | case1 => exact nil
  | case2 => exact lone
  | case3 c s _ ih => exact pair c s ih
  | case4 c s _ _ hmark => exact separator c s (isSeparator_iff.2 (.inl hmark))
  | case5 c s _ _ _ hblank => exact separator c s (isSeparator_iff.2 (.inr hblank))
  | case6 c s hlone hpair hmark hblank _ ih =>
    refine other c s ?_ (isSeparator_eq_false_iff.2 ⟨hmark, Bool.eq_false_iff.2 hblank⟩) ih
    rintro rfl
    cases s with
    | nil => exact hlone rfl rfl
    | cons d s => exact hpair d s rfl rfl

/-- **The reader splits as the grammar does.** -/
theorem split_splitPair (line : List Char) :
    Split line (splitPair line).1 (splitPair line).2 := by
  induction line using line_induction with
  | nil => exact .whole sealed_nil
  | lone => exact .whole sealed_lone
  | pair c s ih => exact ih.pair
  | separator c s hsep =>
    obtain ⟨gap, hs, hgap⟩ := exists_gap hsep s
    rw [splitPair_separator hsep]
    have hparted : Split ([] ++ gap ++ valueBehind c s) [] (valueBehind c s) :=
      .parted sealed_nil rfl hgap
    rwa [List.nil_append, ← hs] at hparted
  | other c s hc hsep ih =>
    rw [splitPair_other hc hsep]
    exact ih.cons hc hsep

/-- A line without a separator is all key. -/
theorem Sealed.splitPair_eq {line : List Char} (h : Sealed line) : splitPair line = (line, []) := by
  induction line using line_induction with
  | nil => rfl
  | lone => rfl
  | pair c s ih => rw [splitPair, ih (sealed_pair.1 h)]
  | separator c s hsep => cases h [] c s rfl hsep
  | other c s hc hsep ih => rw [splitPair_other hc hsep, ih ((sealed_plain hc).1 h).2]

/-- In front of a gap the key is all key. -/
theorem Sealed.splitPair_append {key : List Char} (h : Sealed key) (hend : continues key = false)
    (s : List Char) : splitPair (key ++ s) = (key ++ (splitPair s).1, (splitPair s).2) := by
  induction key using line_induction with
  | nil => rfl
  | lone => cases hend
  | pair c k ih =>
    rw [continues_pair] at hend
    rw [List.cons_append, List.cons_append, splitPair, ih (sealed_pair.1 h) hend]
    rfl
  | separator c k hsep => cases h [] c k rfl hsep
  | other c k hc hsep ih =>
    rw [continues_plain hc] at hend
    rw [List.cons_append, splitPair_other hc hsep, ih ((sealed_plain hc).1 h).2 hend]
    rfl

/-- **Every logical line has one key and one value**, and the reader finds them. -/
theorem split_iff {line key value : List Char} :
    Split line key value ↔ splitPair line = (key, value) := by
  constructor
  · intro h
    cases h with
    | whole hkey => exact hkey.splitPair_eq
    | @parted key gap value hkey hend hgap =>
      rw [List.append_assoc, hkey.splitPair_append hend, hgap.splitPair_eq, List.append_nil]
  · intro h
    have hsplit := split_splitPair line
    rwa [h] at hsplit

/-! ## §4 Texts -/

/-- The key and the value of a logical line, both freed of escapes. -/
def Gives (line : List Char) (p : String × String) : Prop :=
  ∃ key value, Split line key value
    ∧ p = (String.ofList (unescape key), String.ofList (unescape value))

theorem gives_iff {line : List Char} {p : String × String} : Gives line p ↔ p = readLine line := by
  constructor
  · rintro ⟨key, value, hsplit, rfl⟩
    rw [readLine, split_iff.1 hsplit]
  · rintro rfl
    exact ⟨_, _, split_splitPair line, rfl⟩

/-- **Entries say what logical lines do**: the pair of each line is inserted in order, so that a key
stands where it first appears and has the value that it is given last. -/
def Reads (lines : List (List Char)) (e : Entries) : Prop :=
  ∃ pairs : List (String × String), List.Forall₂ Gives lines pairs
    ∧ e.keys = (pairs.map Prod.fst).eraseDups
    ∧ ∀ k v, e.get? k = some v
        ↔ ∃ before after, pairs = before ++ (k, v) :: after ∧ ∀ p ∈ after, p.1 ≠ k

theorem forall₂_gives_iff {lines : List (List Char)} {pairs : List (String × String)} :
    List.Forall₂ Gives lines pairs ↔ pairs = lines.map readLine := by
  have hgives : Gives = fun line p => readLine line = p := by
    funext line p
    exact propext (gives_iff.trans eq_comm)
  rw [hgives, ← List.forall₂_map_left_iff, List.forall₂_eq_eq_eq, eq_comm]

/-- **Logical lines make one map.** -/
theorem reads_iff {lines : List (List Char)} {e : Entries} :
    Reads lines e ↔ e = Entries.ofList (lines.map readLine) := by
  constructor
  · rintro ⟨pairs, hpairs, hkeys, hvalues⟩
    obtain rfl := forall₂_gives_iff.1 hpairs
    refine Entries.ext_keys (hkeys.trans (Entries.keys_ofList _).symm) fun k => Option.ext fun v => ?_
    rw [hvalues, Entries.get?_ofList_eq_some_iff]
  · rintro rfl
    exact ⟨_, forall₂_gives_iff.2 rfl, Entries.keys_ofList _,
      fun _ _ => Entries.get?_ofList_eq_some_iff⟩

/-- **What is read from a text.** The logical lines begin at natural lines that are neither blank nor
a comment nor a lone continuation mark; each is split at its first separator that is not escaped,
and the entries are what these lines say, and nothing else. The lone mark makes the only difference
to the grammar: its lines are the same exactly if none of them is blank or looks like a comment. -/
theorem read_grammar (text : String) :
    (∀ e, Reads (linesFrom passedOver (trimmedLines text.toList)) e ↔ e = read text)
      ∧ (linesFrom passedOver (trimmedLines text.toList)
            = linesFrom skippable (trimmedLines text.toList)
          ↔ ∀ l ∈ linesFrom skippable (trimmedLines text.toList), skippable l = false) := by
  refine ⟨fun e => ?_, linesFrom_passedOver_eq_iff _⟩
  rw [← logicalLines_eq, reads_iff, read]

/-- A lone continuation mark begins a line that goes on with `#x`, and this line is lost: there is
no entry for `#x`. -/
theorem lost_line :
    linesFrom skippable (trimmedLines "\\\n#x".toList) = [['#', 'x']]
      ∧ (read "\\\n#x").toList = []
      ∧ ¬Reads (linesFrom skippable (trimmedLines "\\\n#x".toList)) (read "\\\n#x") := by
  have hlines : linesFrom skippable (trimmedLines "\\\n#x".toList) = [['#', 'x']] := by
    show linesFrom skippable [['\\'], ['#', 'x']] = [['#', 'x']]
    rw [linesFrom_of_begun rfl, joined_of_continues rfl, behind_of_continues rfl,
      joined_of_ends rfl, behind_of_ends rfl, linesFrom_nil]
    rfl
  have hread : (read "\\\n#x").toList = [] := by decide
  refine ⟨hlines, hread, fun h => ?_⟩
  have hentry : (read "\\\n#x").toList = [("#x", "")] := by
    rw [hlines, reads_iff] at h
    rw [h]
    decide
  rw [hread] at hentry
  cases hentry

end LiveConfig.Properties
