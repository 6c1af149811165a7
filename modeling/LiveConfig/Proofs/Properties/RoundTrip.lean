import LiveConfig.Properties.Reader
import LiveConfig.Properties.Writer
import Mathlib.Data.List.TakeWhile

/-!
# Writing and reading properties

What is written can be read again: every entry becomes one logical line, and the line gives the
entry back, with one exception. The writer escapes the space and four control characters, but the
reader splits and trims at every blank. The other blanks are stray: inside a key one of them ends
the key, and in front of a value they are dropped.

## The way of an entry

- **Spelling** (§1): an escaped text spells the original one, so it ends no line and continues none.
- **Lines** (§3): every entry comes out as one logical line, without the stray blanks at its start.
- **Key and value** (§4): the line is split at the first stray blank or at the separator behind the
  key, and both parts are resolved.

## Main statements

- `logicalLines_write`: every entry is one logical line, whatever stands in it.
- `readLine_entryLine_iff`: which entries are read as they were written.
- `read_write_eq_iff`: which maps are.
-/

namespace LiveConfig.Properties

open Text

/-! ## §1 Spelling -/

/-- A text and one of its spellings, character by character. A character that is escaped wherever it
stands does not spell itself. -/
inductive Spells : List Char → List Char → Prop
  | nil : Spells [] []
  | plain {c : Char} {s t : List Char} (hc : escapeAlways? c = none) :
      Spells s t → Spells (c :: s) (c :: t)
  | escaped {c e : Char} {s t : List Char} (hc : unescape ['\\', e] = [c])
      (he : e ∉ ['u', '\n', '\r']) : Spells s t → Spells (c :: s) ('\\' :: e :: t)

theorem escapeAlways?_eq_none_iff {c : Char} :
    escapeAlways? c = none
      ↔ c ≠ '\\' ∧ c ≠ '\t' ∧ c ≠ '\n' ∧ c ≠ '\r' ∧ c ≠ '\x0c' := by
  unfold escapeAlways?
  split <;> simp_all

theorem unescape_escaped {e : Char} (he : e ≠ 'u') (t : List Char) :
    unescape ('\\' :: e :: t) = unescape ['\\', e] ++ unescape t := by
  by_cases h : e = 't' ∨ e = 'n' ∨ e = 'r' ∨ e = 'f'
  · rcases h with rfl | rfl | rfl | rfl <;> simp [unescape]
  · simp only [not_or] at h
    simp [unescape, he, h]

theorem unescape_plain {c : Char} (hc : c ≠ '\\') (t : List Char) :
    unescape (c :: t) = c :: unescape t := by
  simp [unescape, hc]

theorem Spells.unescape_eq {s t : List Char} (h : Spells s t) : unescape t = s := by
  induction h with
  | nil => rfl
  | plain hc _ ih =>
    have hslash := (escapeAlways?_eq_none_iff.1 hc).1
    rw [unescape_plain hslash, ih]
  | @escaped c e s t hc he _ ih =>
    have hunit : e ≠ 'u' := by
      rintro rfl
      exact he List.mem_cons_self
    rw [unescape_escaped hunit, hc, ih]
    rfl

theorem Spells.breaks_not_mem {s t : List Char} (h : Spells s t) : '\n' ∉ t ∧ '\r' ∉ t := by
  induction h with
  | nil => simp
  | plain hc _ ih =>
    obtain ⟨-, -, hfeed, hreturn, -⟩ := escapeAlways?_eq_none_iff.1 hc
    simp [ih.1, ih.2, hfeed.symm, hreturn.symm]
  | escaped _ he _ ih =>
    simp only [List.mem_cons, List.not_mem_nil, or_false, not_or] at he
    have hfeed : '\n' ≠ _ := fun h => he.2.1 h.symm
    have hreturn : '\r' ≠ _ := fun h => he.2.2 h.symm
    simp [ih.1, ih.2, hfeed, hreturn]

/-- How many backslashes a text ends in. -/
def trailing (t : List Char) : Nat := (t.reverse.takeWhile (· == '\\')).length

theorem trailing_le (t : List Char) : trailing t ≤ t.length := by
  have hsub := (List.takeWhile_sublist (l := t.reverse) (· == '\\')).length_le
  rwa [List.length_reverse] at hsub

theorem trailing_cons (c : Char) (t : List Char) :
    trailing (c :: t)
      = if trailing t = t.length ∧ c = '\\' then trailing t + 1 else trailing t := by
  unfold trailing
  rw [List.reverse_cons, List.takeWhile_append, List.length_reverse]
  by_cases hall : (t.reverse.takeWhile (· == '\\')).length = t.length
  · by_cases hc : c = '\\' <;> simp [hall, hc]
  · simp [hall]

/-- A backslash and the character behind it change nothing at the end of a text. -/
theorem trailing_pair (c : Char) (t : List Char) :
    trailing ('\\' :: c :: t) % 2 = trailing t % 2 := by
  have hbound := trailing_le t
  by_cases hpair : trailing t = t.length ∧ c = '\\'
  · -- Two backslashes in front of nothing but backslashes.
    have hone : trailing (c :: t) = trailing t + 1 := by rw [trailing_cons, if_pos hpair]
    rw [trailing_cons, if_pos ⟨by rw [hone, hpair.1, List.length_cons], rfl⟩, hone]
    omega
  · have hnone : trailing (c :: t) = trailing t := by rw [trailing_cons, if_neg hpair]
    have hshort : trailing t ≠ (c :: t).length := by
      rw [List.length_cons]
      omega
    rw [trailing_cons, hnone, if_neg fun h => hshort h.1]

theorem Spells.trailing_even {s t : List Char} (h : Spells s t) : trailing t % 2 = 0 := by
  induction h with
  | nil => rfl
  | @plain c s t hc _ ih =>
    have hslash := (escapeAlways?_eq_none_iff.1 hc).1
    rwa [trailing_cons, if_neg fun h => hslash h.2]
  | @escaped c e s t _ _ _ ih => rw [trailing_pair, ih]

theorem Spells.continues_eq_false {s t : List Char} (h : Spells s t) : continues t = false := by
  have heven := h.trailing_even
  unfold trailing at heven
  simp [continues, heven]

theorem Spells.trimStart {s t : List Char} (h : Spells s t) :
    ∃ s', s' <:+ s ∧ Spells s' (trimStart t) := by
  induction h with
  | nil => exact ⟨[], List.suffix_rfl, .nil⟩
  | @plain c s t hc hs ih =>
    rw [trimStart_cons]
    split
    · obtain ⟨s', hsuffix, hspells⟩ := ih
      exact ⟨s', hsuffix.trans (List.suffix_cons c s), hspells⟩
    · exact ⟨c :: s, List.suffix_rfl, .plain hc hs⟩
  | @escaped c e s t hc he hs =>
    have hstays : Text.trimStart ('\\' :: e :: t) = '\\' :: e :: t := rfl
    rw [hstays]
    exact ⟨c :: s, List.suffix_rfl, .escaped hc he hs⟩

theorem Spells.append {s t s' t' : List Char} (h : Spells s t) (h' : Spells s' t') :
    Spells (s ++ s') (t ++ t') := by
  induction h with
  | nil => exact h'
  | plain hc _ ih => exact .plain hc ih
  | escaped hc he _ ih => exact .escaped hc he ih

theorem spells_escapeAlways {c : Char} {e : List Char} (h : escapeAlways? c = some e) :
    Spells [c] e := by
  unfold escapeAlways? at h
  split at h <;> cases h <;> exact .escaped rfl (by decide) .nil

theorem spells_escapeKeyChar (c : Char) : Spells [c] (escapeKeyChar c) := by
  unfold escapeKeyChar
  split
  · next e h => exact spells_escapeAlways h
  · next h =>
    split
    · next hmark =>
      simp only [List.mem_cons, List.not_mem_nil, or_false] at hmark
      rcases hmark with rfl | rfl | rfl | rfl | rfl <;> exact .escaped rfl (by decide) .nil
    · exact .plain h .nil

theorem spells_escapeValueChar (c : Char) : Spells [c] (escapeValueChar c) := by
  unfold escapeValueChar
  cases h : escapeAlways? c with
  | none => exact .plain h .nil
  | some e => exact spells_escapeAlways h

theorem spells_flatMap {f : Char → List Char} (hf : ∀ c, Spells [c] (f c)) (s : List Char) :
    Spells s (s.flatMap f) := by
  induction s with
  | nil => exact .nil
  | cons c s ih => exact (hf c).append ih

theorem spells_escapeKey (k : List Char) : Spells k (escapeKey k) :=
  spells_flatMap spells_escapeKeyChar k

theorem spells_escapeValue (v : List Char) : Spells v (escapeValue v) := by
  unfold escapeValue
  split
  · exact .escaped rfl (by decide) (spells_flatMap spells_escapeValueChar _)
  · exact spells_flatMap spells_escapeValueChar _

/-! ## §2 Stray blanks -/

/-- A blank for the reader that the writer does not escape. -/
def isStray (c : Char) : Bool := isBlank c && !(['\t', '\n', '\r', '\x0c', ' '].contains c)

theorem isStray_iff {c : Char} :
    isStray c = true ↔ isBlank c = true ∧ c ≠ ' ' ∧ escapeAlways? c = none := by
  have hslash : isBlank '\\' = false := rfl
  rw [escapeAlways?_eq_none_iff]
  simp only [isStray, Bool.and_eq_true, Bool.not_eq_true', List.contains_eq_mem,
    decide_eq_false_iff_not, List.mem_cons, List.not_mem_nil, or_false, not_or]
  constructor
  · rintro ⟨hblank, htab, hfeed, hreturn, hpage, hspace⟩
    refine ⟨hblank, hspace, ?_, htab, hfeed, hreturn, hpage⟩
    rintro rfl
    rw [hslash] at hblank
    cases hblank
  · rintro ⟨hblank, hspace, -, htab, hfeed, hreturn, hpage⟩
    exact ⟨hblank, htab, hfeed, hreturn, hpage, hspace⟩

theorem dropWhile_of_clean {k : List Char} (hk : ∀ c ∈ k, isStray c = false) :
    k.dropWhile isStray = k := by
  rw [List.dropWhile_eq_self_iff]
  intro hl
  simp [hk _ (List.getElem_mem hl)]

/-- **How a character of a key is written**: behind a backslash, or as it is. In the second case it
is a stray blank, or it means nothing to the reader. -/
theorem escapeKeyChar_cases (c : Char) :
    (∃ e, escapeKeyChar c = ['\\', e] ∧ isStray c = false)
      ∨ escapeKeyChar c = [c] ∧ isStray c = true
      ∨ escapeKeyChar c = [c] ∧ isBlank c = false ∧ c ∉ ['\\', '=', ':', '#', '!'] := by
  cases halways : escapeAlways? c with
  | some e =>
    left
    have hkey : escapeKeyChar c = e := by simp [escapeKeyChar, halways]
    rw [hkey]
    unfold escapeAlways? at halways
    split at halways <;> cases halways <;> exact ⟨_, rfl, rfl⟩
  | none =>
    by_cases hmark : c ∈ ['=', ':', '#', '!', ' ']
    · left
      refine ⟨c, by simp only [escapeKeyChar, halways, if_pos hmark], ?_⟩
      simp only [List.mem_cons, List.not_mem_nil, or_false] at hmark
      rcases hmark with rfl | rfl | rfl | rfl | rfl <;> rfl
    · right
      have hkey : escapeKeyChar c = [c] := by simp only [escapeKeyChar, halways, if_neg hmark]
      have hslash := escapeAlways?_eq_none_iff.1 halways
      simp only [List.mem_cons, List.not_mem_nil, or_false, not_or] at hmark
      cases hblank : isBlank c with
      | true =>
        -- The blanks that are escaped have been dealt with.
        left
        refine ⟨hkey, ?_⟩
        simp [isStray, hblank, hslash, hmark]
      | false =>
        right
        refine ⟨hkey, rfl, ?_⟩
        simp [hslash, hmark]

/-! ## §3 Lines -/

/-- The line of an entry without its line feed. -/
def entryLine (p : String × String) : List Char :=
  escapeKey p.1.toList ++ '=' :: escapeValue p.2.toList

theorem spells_entryLine (p : String × String) :
    Spells (p.1.toList ++ '=' :: p.2.toList) (entryLine p) :=
  (spells_escapeKey _).append (.plain rfl (spells_escapeValue _))

theorem cutLines_line {l : List Char} (hl : '\n' ∉ l) (acc rest : List Char) :
    cutLines acc (l ++ '\n' :: rest) = (acc ++ l, true) :: cutLines [] rest := by
  induction l generalizing acc with
  | nil => simp [cutLines]
  | cons c l ih =>
    have hc : c ≠ '\n' := fun h => hl (h ▸ List.mem_cons_self)
    have hrest : '\n' ∉ l := fun h => hl (List.mem_cons_of_mem c h)
    rw [List.cons_append, cutLines, if_neg hc, ih hrest, List.append_assoc]
    rfl

theorem naturalLines_flatMap {ls : List (List Char)} (h : ∀ l ∈ ls, '\n' ∉ l ∧ '\r' ∉ l) :
    naturalLines (ls.flatMap (· ++ ['\n'])) = ls := by
  induction ls with
  | nil => rfl
  | cons l ls ih =>
    obtain ⟨hfeed, hreturn⟩ := h l List.mem_cons_self
    have hrest := ih fun l hl => h l (List.mem_cons_of_mem _ hl)
    -- Without a carriage return in it, the line is left as it is.
    have hstrip : stripReturn (l, true) = l := by
      have hlast : l.getLast? ≠ some '\r' := fun h => hreturn (List.mem_of_getLast? h)
      simp [stripReturn, hlast]
    unfold naturalLines at hrest ⊢
    rw [List.flatMap_cons, List.append_assoc, List.singleton_append, cutLines_line hfeed,
      List.nil_append, List.map_cons, hstrip, hrest]

theorem gather_of_complete {ls : List (List Char)}
    (h : ∀ l ∈ ls, skippable (trimStart l) = false ∧ continues (trimStart l) = false) :
    gather [] ls = ls.map trimStart := by
  induction ls with
  | nil => rfl
  | cons l ls ih =>
    obtain ⟨hkept, hends⟩ := h l List.mem_cons_self
    have hrest := ih fun l hl => h l (List.mem_cons_of_mem _ hl)
    simp [gather, hkept, hends, hrest]

theorem trimStart_entry (k w : List Char) :
    trimStart (escapeKey k ++ '=' :: w) = escapeKey (k.dropWhile isStray) ++ '=' :: w := by
  induction k with
  | nil => rfl
  | cons c k ih =>
    have hcons : escapeKey (c :: k) = escapeKeyChar c ++ escapeKey k := rfl
    rcases escapeKeyChar_cases c with ⟨e, hkey, hkept⟩ | ⟨hkey, hstray⟩ | ⟨hkey, hblank, -⟩
    · -- A backslash is no blank.
      rw [List.dropWhile_cons_of_neg (by simp [hkept]), hcons, hkey]
      rfl
    · have hblank := (isStray_iff.1 hstray).1
      rw [List.dropWhile_cons_of_pos hstray, hcons, hkey, List.singleton_append, List.cons_append,
        trimStart_cons, if_pos hblank, ih]
    · have hkept : ¬isStray c = true := by simp [isStray, hblank]
      rw [List.dropWhile_cons_of_neg hkept, hcons, hkey, List.singleton_append, List.cons_append,
        trimStart_cons, if_neg (by simp [hblank])]

theorem skippable_entry (k w : List Char) :
    skippable (trimStart (escapeKey k ++ '=' :: w)) = false := by
  rw [trimStart_entry]
  cases hrest : k.dropWhile isStray with
  | nil => rfl
  | cons c rest =>
    have hcons : escapeKey (c :: rest) = escapeKeyChar c ++ escapeKey rest := rfl
    have hkept : isStray c = false := by
      have hhead := List.head?_dropWhile_not isStray k
      rw [hrest] at hhead
      simpa using hhead
    rw [hcons]
    rcases escapeKeyChar_cases c with ⟨e, hkey, -⟩ | ⟨-, hstray⟩ | ⟨hkey, -, hmark⟩
    · rw [hkey]
      rfl
    · rw [hkept] at hstray
      cases hstray
    · rw [hkey]
      simp only [List.mem_cons, List.not_mem_nil, or_false, not_or] at hmark
      simp [skippable, hmark]

/-- **Every entry is one logical line**, whatever stands in it. -/
theorem logicalLines_write (e : Entries) :
    logicalLines (write e).toList = e.toList.map fun p => trimStart (entryLine p) := by
  have htext : (write e).toList = (e.toList.map entryLine).flatMap (· ++ ['\n']) := by
    rw [write, String.toList_ofList, List.flatMap_map]
    rfl
  have hlines : ∀ l ∈ e.toList.map entryLine, '\n' ∉ l ∧ '\r' ∉ l := by
    intro l hl
    obtain ⟨p, -, rfl⟩ := List.mem_map.1 hl
    exact (spells_entryLine p).breaks_not_mem
  have hcomplete : ∀ l ∈ e.toList.map entryLine,
      skippable (trimStart l) = false ∧ continues (trimStart l) = false := by
    intro l hl
    obtain ⟨p, -, rfl⟩ := List.mem_map.1 hl
    obtain ⟨s, -, hspells⟩ := (spells_entryLine p).trimStart
    exact ⟨skippable_entry _ _, hspells.continues_eq_false⟩
  rw [logicalLines, htext, naturalLines_flatMap hlines, gather_of_complete hcomplete, List.map_map]
  rfl

/-! ## §4 Key and value -/

theorem splitPair_cons {c : Char} (hc : c ≠ '\\') (w : List Char) :
    splitPair (c :: w)
      = if c = '=' ∨ c = ':' then ([], Text.trimStart w)
        else if isBlank c then ([], afterBlank w)
        else (c :: (splitPair w).1, (splitPair w).2) := by
  rw [splitPair]
  · intro h
    exact absurd h hc
  · intro _ _ h
    exact absurd h hc

theorem splitPair_plain {c : Char} (hblank : isBlank c = false)
    (hmark : c ∉ ['\\', '=', ':', '#', '!']) (w : List Char) :
    splitPair (c :: w) = (c :: (splitPair w).1, (splitPair w).2) := by
  simp only [List.mem_cons, List.not_mem_nil, or_false, not_or] at hmark
  rw [splitPair_cons hmark.1, if_neg (by simp [hmark]), if_neg (by simp [hblank])]

theorem splitPair_stray {c : Char} (h : isStray c = true) (w : List Char) :
    splitPair (c :: w) = ([], afterBlank w) := by
  have hblank := (isStray_iff.1 h).1
  have hmark : c ∉ ['\\', '=', ':'] := by
    intro hmem
    simp only [List.mem_cons, List.not_mem_nil, or_false] at hmem
    rcases hmem with rfl | rfl | rfl <;> cases hblank
  simp only [List.mem_cons, List.not_mem_nil, or_false, not_or] at hmark
  rw [splitPair_cons hmark.1, if_neg (by simp [hmark]), if_pos hblank]

theorem splitPair_escapeKey {k : List Char} (hk : ∀ c ∈ k, isStray c = false) (w : List Char) :
    splitPair (escapeKey k ++ w) = (escapeKey k ++ (splitPair w).1, (splitPair w).2) := by
  induction k with
  | nil => rfl
  | cons c k ih =>
    have hcons : escapeKey (c :: k) = escapeKeyChar c ++ escapeKey k := rfl
    have hrest := ih fun d hd => hk d (List.mem_cons_of_mem _ hd)
    rw [hcons, List.append_assoc]
    rcases escapeKeyChar_cases c with ⟨e, hkey, -⟩ | ⟨-, hstray⟩ | ⟨hkey, hblank, hmark⟩
    · rw [hkey]
      simp only [List.cons_append, List.nil_append, splitPair, hrest]
    · rw [hk c List.mem_cons_self] at hstray
      cases hstray
    · rw [hkey, List.singleton_append, splitPair_plain hblank hmark, hrest]
      rfl

/-- **The key that is read** ends where the first stray blank stands behind its first character. -/
theorem key_readLine (k w : List Char) :
    (readLine (trimStart (escapeKey k ++ '=' :: w))).1.toList
      = (k.dropWhile isStray).takeWhile fun c => !isStray c := by
  rw [trimStart_entry]
  generalize k.dropWhile isStray = k
  -- The key is split into what stands in front of its first stray blank and the rest.
  have hfront : ∀ c ∈ k.takeWhile fun c => !isStray c, isStray c = false := by
    intro c hc
    have hall := List.all_eq_true.1 (List.all_takeWhile (p := fun c => !isStray c) (l := k)) c hc
    simpa using hall
  have hpair : (splitPair (escapeKey k ++ '=' :: w)).1
      = escapeKey (k.takeWhile fun c => !isStray c) := by
    have hsplit : escapeKey k = escapeKey (k.takeWhile fun c => !isStray c)
        ++ escapeKey (k.dropWhile fun c => !isStray c) := by
      rw [escapeKey, escapeKey, escapeKey, ← List.flatMap_append, List.takeWhile_append_dropWhile]
    rw [hsplit, List.append_assoc, splitPair_escapeKey hfront]
    cases hrest : k.dropWhile fun c => !isStray c with
    | nil =>
      -- Without one the separator ends the key.
      show escapeKey _ ++ [] = _
      rw [List.append_nil]
    | cons c rest =>
      have hstray : isStray c = true := by
        have hhead := List.head?_dropWhile_not (fun c => !isStray c) k
        rw [hrest] at hhead
        simpa using hhead
      have hkey : escapeKey (c :: rest) = c :: escapeKey rest := by
        rcases escapeKeyChar_cases c with ⟨_, _, hkept⟩ | ⟨hkey, -⟩ | ⟨-, hblank, -⟩
        · rw [hstray] at hkept
          cases hkept
        · show escapeKeyChar c ++ escapeKey rest = c :: escapeKey rest
          rw [hkey]
          rfl
        · simp [isStray, hblank] at hstray
      rw [hkey, List.cons_append, splitPair_stray hstray, List.append_nil]
  rw [readLine, String.toList_ofList, hpair, (spells_escapeKey _).unescape_eq]

/-- A key without a stray blank is read as it was written, and only such a key is. -/
theorem takeWhile_dropWhile_eq_iff (k : List Char) :
    ((k.dropWhile isStray).takeWhile fun c => !isStray c) = k ↔ ∀ c ∈ k, isStray c = false := by
  constructor
  · intro h c hc
    rw [← h] at hc
    simpa using List.mem_takeWhile_imp hc
  · intro h
    have hfront : k.dropWhile isStray = k := dropWhile_of_clean h
    rw [hfront, List.takeWhile_eq_self_iff]
    intro c hc
    simp [h c hc]

theorem value_readLine {k : List Char} (hk : ∀ c ∈ k, isStray c = false) (w : List Char) :
    (readLine (trimStart (escapeKey k ++ '=' :: w))).2.toList = unescape (trimStart w) := by
  rw [trimStart_entry, dropWhile_of_clean hk, readLine, String.toList_ofList,
    splitPair_escapeKey hk]
  rfl

theorem escapeValue_cons {c : Char} (hc : c ≠ ' ') (v : List Char) :
    escapeValue (c :: v) = escapeValueChar c ++ v.flatMap escapeValueChar := by
  rw [escapeValue]
  · rfl
  · intro _ h
    exact absurd (List.cons.inj h).1 hc

theorem trimStart_escapeValue {v : List Char} (h : ∀ c, v.head? = some c → isStray c = false) :
    trimStart (escapeValue v) = escapeValue v := by
  cases v with
  | nil => rfl
  | cons c v =>
    by_cases hspace : c = ' '
    · subst hspace
      rfl
    · rw [escapeValue_cons hspace]
      cases halways : escapeAlways? c with
      | some e =>
        have hfirst : escapeValueChar c = e := by simp [escapeValueChar, halways]
        rw [hfirst]
        unfold escapeAlways? at halways
        split at halways <;> cases halways <;> rfl
      | none =>
        have hfirst : escapeValueChar c = [c] := by simp [escapeValueChar, halways]
        have hblank : isBlank c ≠ true := by
          intro hblank
          have hstray := isStray_iff.2 ⟨hblank, hspace, halways⟩
          rw [h c rfl] at hstray
          cases hstray
        rw [hfirst, List.singleton_append, trimStart_cons, if_neg hblank]

/-- **A value is read as it was written** unless it begins with a stray blank, which is dropped. -/
theorem unescape_trimStart_eq_iff (v : List Char) :
    unescape (trimStart (escapeValue v)) = v ↔ ∀ c, v.head? = some c → isStray c = false := by
  constructor
  · intro h c hc
    by_contra hstray
    rw [Bool.not_eq_false] at hstray
    obtain ⟨rest, rfl⟩ := List.head?_eq_some_iff.1 hc
    obtain ⟨hblank, hspace, halways⟩ := isStray_iff.1 hstray
    have hfirst : escapeValueChar c = [c] := by simp [escapeValueChar, halways]
    -- What is left behind the blank spells less than the whole value.
    rw [escapeValue_cons hspace, hfirst, List.singleton_append, trimStart_cons, if_pos hblank] at h
    obtain ⟨s, hsuffix, hspells⟩ := (spells_flatMap spells_escapeValueChar rest).trimStart
    rw [hspells.unescape_eq] at h
    have hle := hsuffix.length_le
    rw [h, List.length_cons] at hle
    omega
  · intro h
    rw [trimStart_escapeValue h, (spells_escapeValue v).unescape_eq]

/-- **Which entries are read as they were written.** -/
theorem readLine_entryLine_iff (p : String × String) :
    readLine (trimStart (entryLine p)) = p
      ↔ (∀ c ∈ p.1.toList, isStray c = false)
        ∧ ∀ c, p.2.toList.head? = some c → isStray c = false := by
  obtain ⟨k, v⟩ := p
  have hkey : (readLine (trimStart (entryLine (k, v)))).1 = k
      ↔ ∀ c ∈ k.toList, isStray c = false := by
    rw [← String.toList_inj, entryLine, key_readLine, takeWhile_dropWhile_eq_iff]
  have hvalue (hk : ∀ c ∈ k.toList, isStray c = false) :
      (readLine (trimStart (entryLine (k, v)))).2 = v
        ↔ ∀ c, v.toList.head? = some c → isStray c = false := by
    rw [← String.toList_inj, entryLine, value_readLine hk, unescape_trimStart_eq_iff]
  rw [Prod.ext_iff, hkey]
  exact and_congr_right hvalue

/-! ## §5 The whole text -/

/-- **Reading gives back what was written**, in the same order, exactly if no key holds a stray
blank and no value begins with one. -/
theorem read_write_eq_iff (e : Entries) :
    read (write e) = e
      ↔ ∀ p ∈ e.toList, (∀ c ∈ p.1.toList, isStray c = false)
          ∧ ∀ c, p.2.toList.head? = some c → isStray c = false := by
  -- There are as many lines as entries, so no line may change.
  have hpairs : read (write e) = e
      ↔ e.toList.map (fun p => readLine (trimStart (entryLine p))) = e.toList := by
    rw [read, logicalLines_write, List.map_map]
    exact Entries.ofList_eq_iff (by simp [Entries.size])
  have hone : e.toList.map (fun p => readLine (trimStart (entryLine p))) = e.toList.map id
      ↔ ∀ p ∈ e.toList, readLine (trimStart (entryLine p)) = p := List.map_inj_left
  rw [List.map_id] at hone
  rw [hpairs, hone]
  simp only [readLine_entryLine_iff]

/-- A vertical tab in a key ends it, and the rest is taken for the value. -/
example : read (write (.ofList [("a\x0bb", "c")])) = .ofList [("a", "b=c")] := by decide

end LiveConfig.Properties
