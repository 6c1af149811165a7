import LiveConfig.Proofs.Properties.Escapes
import LiveConfig.Proofs.Properties.Grammar

/-!
# Escapes of code units

Other writers of properties escape the code units of a text: one for a character of the basic plane,
and two surrogates for every other one. The reader decodes escape by escape. It reads all characters
of the basic plane, while surrogates name no character and stay as they are written.

## Main statements

- `read_valueLine`: what one line gives.
- `unescape_spelled`: a spelled character is read exactly if one code unit is enough for it.
- `read_spelled`: what is read from a spelled text.
- `surrogates_kept`: a character that is not read.
-/

namespace LiveConfig.Properties

open Number Text

/-! ## §1 Code units -/

/-- **The code units of a character**: itself, or a high surrogate and a low one. -/
def codeUnits (c : Char) : List Nat :=
  if c.toNat < 0x10000 then [c.toNat]
  else [0xD800 + (c.toNat - 0x10000) / 0x400, 0xDC00 + (c.toNat - 0x10000) % 0x400]

/-- The number of a character is no surrogate. -/
theorem toNat_cases (c : Char) : c.toNat < 0xD800 ∨ 0xDFFF < c.toNat ∧ c.toNat < 0x110000 :=
  c.valid

/-- A code unit as four hexadecimal digits behind `\u`. -/
def EscapeOf (unit : Nat) (t : List Char) : Prop :=
  ∃ digits, digits.length = 4 ∧ Hex digits unit ∧ t = '\\' :: 'u' :: digits

/-- **A character as the escapes of its code units.** -/
def Spelled (c : Char) (t : List Char) : Prop :=
  ∃ escapes, List.Forall₂ EscapeOf (codeUnits c) escapes ∧ t = escapes.flatten

theorem spelled_of_basic {c : Char} (h : c.toNat < 0x10000) {t : List Char} :
    Spelled c t ↔ EscapeOf c.toNat t := by
  rw [Spelled, codeUnits, if_pos h]
  constructor
  · rintro ⟨escapes, hescapes, rfl⟩
    cases hescapes with
    | cons hone hnone =>
      cases hnone
      simpa using hone
  · intro hone
    exact ⟨[t], .cons hone .nil, by simp⟩

theorem Spelled.exists_surrogates {c : Char} (h : ¬c.toNat < 0x10000) {t : List Char}
    (ht : Spelled c t) :
    ∃ high low t₁ t₂, (0xD800 ≤ high ∧ high < 0xE000) ∧ (0xD800 ≤ low ∧ low < 0xE000)
      ∧ EscapeOf high t₁ ∧ EscapeOf low t₂ ∧ t = t₁ ++ t₂ := by
  obtain ⟨escapes, hescapes, rfl⟩ := ht
  have hvalid := toNat_cases c
  simp only [codeUnits, if_neg h, List.forall₂_cons_left_iff, List.forall₂_nil_left_iff]
    at hescapes
  obtain ⟨high, _, hhigh, ⟨low, _, hlow, rfl, rfl⟩, rfl⟩ := hescapes
  exact ⟨_, _, high, low, by omega, by omega, hhigh, hlow, by simp⟩

/-! ## §2 Reading escapes -/

theorem unescape_escape {unit : Nat} {t : List Char} (h : EscapeOf unit t) (rest : List Char) :
    (∀ c : Char, c.toNat = unit → unescape (t ++ rest) = c :: unescape rest)
      ∧ ((∀ c : Char, c.toNat ≠ unit) → unescape (t ++ rest) = t ++ unescape rest) := by
  obtain ⟨digits, hfour, hdigits, rfl⟩ := h
  have hstep : unescape ('\\' :: 'u' :: digits ++ rest)
      = decodeUnicode digits ++ unescape rest := by
    match digits, hfour with
    | [_, _, _, _], _ => rfl
  have hne : digits ≠ [] := by
    rintro rfl
    cases hfour
  rw [hstep]
  constructor
  · intro c hc
    rw [decodeUnicode_of_lenient ((lenient_iff_of_hex hdigits hne).2 hc), List.singleton_append]
  · intro hnone
    rw [decodeUnicode_of_unnamed fun c hc => hnone c ((lenient_iff_of_hex hdigits hne).1 hc)]

/-- **A spelled character is read** if one code unit is enough for it, and otherwise it stays
spelled. -/
theorem unescape_spelled {c : Char} {t : List Char} (h : Spelled c t) (rest : List Char) :
    unescape (t ++ rest) = (if c.toNat < 0x10000 then [c] else t) ++ unescape rest := by
  by_cases hbasic : c.toNat < 0x10000
  · rw [if_pos hbasic]
    exact (unescape_escape ((spelled_of_basic hbasic).1 h) rest).1 c rfl
  · obtain ⟨high, low, t₁, t₂, hhigh, hlow, h₁, h₂, rfl⟩ := h.exists_surrogates hbasic
    -- No character has the number of a surrogate.
    have hnone {unit : Nat} (hunit : 0xD800 ≤ unit ∧ unit < 0xE000) (c : Char) :
        c.toNat ≠ unit := by
      have hvalid := toNat_cases c
      omega
    rw [if_neg hbasic, List.append_assoc, (unescape_escape h₁ _).2 (hnone hhigh),
      (unescape_escape h₂ _).2 (hnone hlow), List.append_assoc]

/-- What is read from a text is read character by character. -/
theorem unescape_flatten {s : List Char} {texts : List (List Char)}
    (h : List.Forall₂ Spelled s texts) :
    unescape texts.flatten
      = (List.zipWith (fun c t => if c.toNat < 0x10000 then [c] else t) s texts).flatten := by
  induction h with
  | nil => rfl
  | cons ht _ ih =>
    rw [List.flatten_cons, unescape_spelled ht, ih]
    rfl

/-- A character that stays spelled begins with a backslash. -/
theorem Spelled.head?_eq {c : Char} {t : List Char} (h : Spelled c t) : t.head? = some '\\' := by
  by_cases hbasic : c.toNat < 0x10000
  · obtain ⟨digits, -, -, rfl⟩ := (spelled_of_basic hbasic).1 h
    rfl
  · obtain ⟨_, _, _, _, -, -, ⟨digits, -, -, rfl⟩, -, rfl⟩ := h.exists_surrogates hbasic
    rfl

/-- The text that is read is the one that was spelled if and only if one code unit was enough for
each of its characters. -/
theorem flatten_zipWith_eq_iff {s : List Char} {texts : List (List Char)}
    (h : List.Forall₂ Spelled s texts) :
    (List.zipWith (fun c t => if c.toNat < 0x10000 then [c] else t) s texts).flatten = s
      ↔ ∀ c ∈ s, c.toNat < 0x10000 := by
  induction h with
  | nil => simp
  | @cons c t s texts ht _ ih =>
    rw [List.zipWith_cons_cons, List.flatten_cons, List.forall_mem_cons, ← ih]
    by_cases hbasic : c.toNat < 0x10000
    · rw [if_pos hbasic, List.singleton_append, List.cons.injEq, and_iff_right rfl,
        and_iff_right hbasic]
    · rw [if_neg hbasic]
      refine iff_of_false (fun hsame => ?_) fun h => hbasic h.1
      -- The first character that is read is a backslash, which is no such character.
      obtain ⟨rest, rfl⟩ := List.head?_eq_some_iff.1 ht.head?_eq
      obtain rfl := (List.cons.inj hsame).1
      exact hbasic (by decide)

/-! ## §3 One line -/

/-- What stands behind the last line feed is a line, unless there is nothing. -/
theorem cutLines_last {l : List Char} (hl : '\n' ∉ l) (acc : List Char) :
    cutLines acc l = if (acc ++ l).isEmpty then [] else [(acc ++ l, false)] := by
  induction l generalizing acc with
  | nil => rw [cutLines, List.append_nil]
  | cons c l ih =>
    have hc : c ≠ '\n' := fun h => hl (h ▸ List.mem_cons_self)
    have hrest : '\n' ∉ l := fun h => hl (List.mem_cons_of_mem c h)
    rw [cutLines, if_neg hc, ih hrest, List.append_assoc, List.singleton_append]

/-- **What one line gives**: its value freed of escapes, if the line neither ends nor goes on in
it. -/
theorem read_valueLine {v : List Char} (hfeed : '\n' ∉ v) (hends : continues v = false)
    (hstart : trimStart v = v) :
    read (String.ofList ('k' :: '=' :: v)) = .ofList [("k", String.ofList (unescape v))] := by
  have hfeed' : '\n' ∉ 'k' :: '=' :: v := by simp [hfeed]
  have hnatural : naturalLines ('k' :: '=' :: v) = ['k' :: '=' :: v] := by
    rw [naturalLines, cutLines_last hfeed']
    rfl
  have hline : trimStart ('k' :: '=' :: v) = 'k' :: '=' :: v := rfl
  have hcomplete : ∀ l ∈ ['k' :: '=' :: v],
      skippable (trimStart l) = false ∧ continues (trimStart l) = false := by
    intro l hl
    obtain rfl := List.mem_singleton.1 hl
    rw [hline, continues_plain (by decide), continues_plain (by decide)]
    exact ⟨rfl, hends⟩
  have hlogical : logicalLines ('k' :: '=' :: v) = ['k' :: '=' :: v] := by
    rw [logicalLines, hnatural, gather_of_complete hcomplete, List.map_singleton, hline]
  have hpair : splitPair ('k' :: '=' :: v) = (['k'], v) := by
    rw [splitPair_plain rfl (by decide), splitPair_separator rfl, valueBehind_mark (.inl rfl),
      hstart]
  rw [read, String.toList_ofList, hlogical, List.map_singleton, readLine, hpair]
  rfl

theorem EscapeOf.feed_not_mem {unit : Nat} {t : List Char} (h : EscapeOf unit t) : '\n' ∉ t := by
  obtain ⟨digits, -, hdigits, rfl⟩ := h
  simp only [List.mem_cons, not_or]
  exact ⟨by decide, by decide, fun hmem => HexFrom.ne_of_mem hdigits hmem rfl rfl⟩

theorem EscapeOf.continues_append {unit : Nat} {t : List Char} (h : EscapeOf unit t)
    (rest : List Char) : continues (t ++ rest) = continues rest := by
  obtain ⟨digits, -, hdigits, rfl⟩ := h
  have hplain : ∀ c ∈ digits, c ≠ '\\' := fun c hc => HexFrom.ne_of_mem hdigits hc rfl
  rw [List.cons_append, List.cons_append, continues_pair]
  clear hdigits
  induction digits with
  | nil => rfl
  | cons c digits ih =>
    obtain ⟨hc, hrest⟩ := List.forall_mem_cons.1 hplain
    rw [List.cons_append, continues_plain hc, ih hrest]

/-- Escapes one after the other are part of a line. -/
theorem line_of_escapes {units : List Nat} {escapes : List (List Char)}
    (h : List.Forall₂ EscapeOf units escapes) :
    '\n' ∉ escapes.flatten ∧ continues escapes.flatten = false
      ∧ trimStart escapes.flatten = escapes.flatten := by
  induction h with
  | nil => exact ⟨List.not_mem_nil, rfl, rfl⟩
  | cons ht _ ih =>
    obtain ⟨hfeed, hends, -⟩ := ih
    rw [List.flatten_cons, ht.continues_append]
    refine ⟨?_, hends, ?_⟩
    · simp [ht.feed_not_mem, hfeed]
    · obtain ⟨digits, -, -, rfl⟩ := ht
      rfl

/-- The escapes of the characters are those of all code units. -/
theorem exists_escapes {s : List Char} {texts : List (List Char)}
    (h : List.Forall₂ Spelled s texts) :
    ∃ escapes, List.Forall₂ EscapeOf (s.flatMap codeUnits) escapes
      ∧ texts.flatten = escapes.flatten := by
  induction h with
  | nil => exact ⟨[], .nil, rfl⟩
  | cons ht _ ih =>
    obtain ⟨escapes, hescapes, rfl⟩ := ht
    obtain ⟨more, hmore, hrest⟩ := ih
    refine ⟨escapes ++ more, List.rel_append hescapes hmore, ?_⟩
    rw [List.flatten_cons, hrest, List.flatten_append]

/-- **What is read from a spelled text**: one entry, in whose value every character is read for
which one code unit is enough, while every other one stays spelled. So the value is the text that
was spelled exactly if all its characters are of the basic plane. -/
theorem read_spelled {s : List Char} {texts : List (List Char)}
    (h : List.Forall₂ Spelled s texts) :
    read (String.ofList ('k' :: '=' :: texts.flatten))
        = .ofList [("k", String.ofList
          (List.zipWith (fun c t => if c.toNat < 0x10000 then [c] else t) s texts).flatten)]
      ∧ (read (String.ofList ('k' :: '=' :: texts.flatten)) = .ofList [("k", String.ofList s)]
        ↔ ∀ c ∈ s, c.toNat < 0x10000) := by
  have hvalue : read (String.ofList ('k' :: '=' :: texts.flatten))
      = .ofList [("k", String.ofList
        (List.zipWith (fun c t => if c.toNat < 0x10000 then [c] else t) s texts).flatten)] := by
    -- As a line the text is but a row of escapes, whichever characters they belong to.
    obtain ⟨escapes, hescapes, htext⟩ := exists_escapes h
    obtain ⟨hfeed, hends, hstart⟩ := line_of_escapes hescapes
    rw [← unescape_flatten h, htext, read_valueLine hfeed hends hstart]
  refine ⟨hvalue, ?_⟩
  rw [hvalue, ← flatten_zipWith_eq_iff h]
  constructor
  · intro hsame
    have hlist := congrArg Entries.toList hsame
    exact String.ofList_injective (Prod.mk.inj (List.cons.inj hlist).1).2
  · intro hsame
    rw [hsame]

/-- A letter of the basic plane is read, and the picture behind it is not. -/
theorem read_spelled_two_planes :
    List.Forall₂ Spelled ['é', '😀'] ["\\u00e9".toList, "\\ud83d\\ude00".toList]
      ∧ read "k=\\u00e9\\ud83d\\ude00" = .ofList [("k", "é\\ud83d\\ude00")] := by
  have hletter : Spelled 'é' "\\u00e9".toList :=
    (spelled_of_basic (by decide)).2
      ⟨['0', '0', 'e', '9'], rfl, readDigitsFrom?_eq_some_iff.1 (by decide), rfl⟩
  have hpicture : Spelled '😀' "\\ud83d\\ude00".toList :=
    ⟨["\\ud83d".toList, "\\ude00".toList],
      .cons ⟨['d', '8', '3', 'd'], rfl, readDigitsFrom?_eq_some_iff.1 (by decide), rfl⟩
        (.cons ⟨['d', 'e', '0', '0'], rfl, readDigitsFrom?_eq_some_iff.1 (by decide), rfl⟩ .nil),
      rfl⟩
  have hspelled := List.Forall₂.cons hletter (.cons hpicture .nil)
  exact ⟨hspelled, (read_spelled hspelled).1⟩

/-- **A character that is not read**: the escapes of its two code units stay in the value. -/
theorem surrogates_kept :
    codeUnits '😀' = [0xD83D, 0xDE00] ∧ EscapeOf 0xD83D "\\uD83D".toList
      ∧ EscapeOf 0xDE00 "\\uDE00".toList
      ∧ read "k=\\uD83D\\uDE00" = .ofList [("k", "\\uD83D\\uDE00")] :=
  ⟨by decide, ⟨['D', '8', '3', 'D'], rfl, readDigitsFrom?_eq_some_iff.1 (by decide), rfl⟩,
    ⟨['D', 'E', '0', '0'], rfl, readDigitsFrom?_eq_some_iff.1 (by decide), rfl⟩, by decide⟩

end LiveConfig.Properties
