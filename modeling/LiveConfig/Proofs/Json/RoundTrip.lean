import LiveConfig.Json.Printer
import LiveConfig.Proofs.Json.Numerals
import Mathlib.Data.List.DropRight

/-!
# Reading what was printed

What is printed is read as the tree it was printed from, whatever texts stand in it, both on lines
and without blanks. Of numbers, those are read that 64 bits hold as integers; the texts of doubles
belong to another theory.

## Strategy

A piece of a string literal is read wherever it stands (`exists_piece`), and so is a whole literal
(`string?_text`). For values this is said by `Reads`: a text is read as a tree, with any text behind
it that stands apart, and fuel for at least its length. Texts that are read make up the texts of
arrays and objects (`Reads.array`, `Reads.object`), with blanks between their parts. Both printed
forms are put together so, and follow along the construction of the value.

## Main statements

- `string?_text`: a string literal reads as the text it was written for.
- `readTree?_indented`, `readTree?_compact`: a printed value reads as its tree.
-/

namespace LiveConfig.Json

/-! ## §1 String literals -/

theorem unit?_hexDigits {n : Nat} (h : n < 0x20) :
    unit? '0' '0' (hexDigit (n / 16)) (hexDigit (n % 16)) = some n := by
  have hall : ∀ m : Fin 0x20,
      unit? '0' '0' (hexDigit (m.val / 16)) (hexDigit (m.val % 16)) = some m.val := by decide
  exact hall ⟨n, h⟩

/-- **How a character is written**: by a letter behind a backslash, by its number, or as it is. -/
theorem printChar_cases (c : Char) :
    (∃ e, printChar c = ['\\', e] ∧ escaped? e = some c)
      ∨ c.toNat < 0x20
        ∧ printChar c = ['\\', 'u', '0', '0', hexDigit (c.toNat / 16), hexDigit (c.toNat % 16)]
      ∨ printChar c = [c] ∧ c ≠ '"' ∧ c ≠ '\\' ∧ 0x20 ≤ c.toNat := by
  unfold printChar
  split
  -- The last case holds every character that has no letter of its own.
  case h_8 c hquote hslash _ _ _ _ _ =>
    right
    split
    · next hcontrol => exact .inl ⟨hcontrol, rfl⟩
    · next hcontrol => exact .inr ⟨rfl, hquote, hslash, Nat.le_of_not_lt hcontrol⟩
  all_goals exact .inl ⟨_, rfl, rfl⟩

theorem pieces?_escaped {e c : Char} (he : escaped? e = some c) (t : List Char) :
    pieces? ('\\' :: e :: t) = (pieces? t).map fun q => (.char c :: q.1, q.2) := by
  -- Only a number takes more than one character behind the backslash.
  have hunit : e ≠ 'u' := by
    rintro rfl
    cases he
  rw [pieces?]
  · rw [he]
    cases pieces? t <;> rfl
  · intro _ _ _ _ _ h
    exact absurd h hunit

theorem pieces?_plain {c : Char} (hquote : c ≠ '"') (hslash : c ≠ '\\') (hprints : 0x20 ≤ c.toNat)
    (t : List Char) : pieces? (c :: t) = (pieces? t).map fun q => (.char c :: q.1, q.2) := by
  rw [pieces?]
  · have hgo : ¬(decide (c.toNat < 0x20) || c == '\\') = true := by
      simp [hslash, Nat.not_lt.2 hprints]
    rw [if_neg hgo]
    cases pieces? t <;> rfl
  · exact hquote
  · intro _ _ _ _ _ h
    exact absurd h hslash
  · intro _ _ h
    exact absurd h hslash

theorem pieces?_unit {n : Nat} (h : n < 0x20) (t : List Char) :
    pieces? (['\\', 'u', '0', '0', hexDigit (n / 16), hexDigit (n % 16)] ++ t)
      = (pieces? t).map fun q => (.unit n :: q.1, q.2) := by
  simp only [List.cons_append, List.nil_append, pieces?, unit?_hexDigits h]
  cases pieces? t <;> rfl

theorem assemble?_unit {c : Char} (h : c.toNat < 0x20) (ps : List Piece) :
    assemble? (.unit c.toNat :: ps) = (assemble? ps).map (c :: ·) := by
  -- A control character is neither half of a pair.
  have hlow : ¬(0xD800 ≤ c.toNat ∧ c.toNat < 0xDC00) := by omega
  have hhigh : ¬(0xDC00 ≤ c.toNat ∧ c.toNat < 0xE000) := by omega
  rw [assemble?.eq_def]
  simp only [if_neg hlow, if_neg hhigh, Char.ofNat_toNat]

/-- What is written for a character reads as one piece, which stands for the character. -/
theorem exists_piece (c : Char) :
    ∃ p, (∀ t, pieces? (printChar c ++ t) = (pieces? t).map fun q => (p :: q.1, q.2))
      ∧ ∀ ps, assemble? (p :: ps) = (assemble? ps).map (c :: ·) := by
  rcases printChar_cases c with ⟨e, hprint, he⟩ | ⟨hcontrol, hprint⟩ | ⟨hprint, hq, hs, hprints⟩
  · rw [hprint]
    exact ⟨.char c, pieces?_escaped he, fun _ => rfl⟩
  · rw [hprint]
    exact ⟨.unit c.toNat, pieces?_unit hcontrol, assemble?_unit hcontrol⟩
  · rw [hprint]
    exact ⟨.char c, pieces?_plain hq hs hprints, fun _ => rfl⟩

theorem string?_printed (s rest : List Char) :
    string? (s.flatMap printChar ++ '"' :: rest) = some (some (String.ofList s), rest) := by
  have hpieces : ∃ ps, pieces? (s.flatMap printChar ++ '"' :: rest) = some (ps, rest)
      ∧ assemble? ps = some s := by
    induction s with
    | nil => exact ⟨[], rfl, rfl⟩
    | cons c s ih =>
      obtain ⟨ps, hread, hassemble⟩ := ih
      obtain ⟨p, hpiece, hstands⟩ := exists_piece c
      refine ⟨p :: ps, ?_, ?_⟩
      · rw [List.flatMap_cons, List.append_assoc, hpiece, hread]
        rfl
      · rw [hstands, hassemble]
        rfl
  obtain ⟨ps, hread, hassemble⟩ := hpieces
  rw [string?, hread, Option.map_some, hassemble]
  rfl

theorem string?_text (s : String) (rest : List Char) :
    string? (s.toList.flatMap printChar ++ '"' :: rest) = some (some s, rest) := by
  rw [string?_printed, String.ofList_toList]

/-! ## §2 Texts that are read -/

/-- A text that is read as a tree, wherever it stands apart from what follows. -/
def Reads (s : List Char) (t : Tree) : Prop :=
  ∀ (fuel : Nat) (rest : List Char), s.length ≤ fuel → Apart rest →
    readValue? fuel (s ++ rest) = some (t, rest)

/-- A text that is read as the items of an array, with the closing bracket. -/
def ReadsItems (s : List Char) (ts : List Tree) : Prop :=
  ∀ (fuel : Nat) (rest : List Char), s.length ≤ fuel →
    readItems? fuel (s ++ rest) = some (ts, rest)

/-- A text that is read as the members of an object, with the closing brace. -/
def ReadsMembers (s : List Char) (ms : List (Option String × Tree)) : Prop :=
  ∀ (fuel : Nat) (rest : List Char), s.length ≤ fuel →
    readMembers? fuel (s ++ rest) = some (ms, rest)

/-- Blanks, or nothing. -/
def Blanks (b : List Char) : Prop := ∀ c ∈ b, isBlank c = true

section Blanks

variable {b s t : List Char}

theorem blanks_nil : Blanks [] := nofun

theorem blanks_newLine (level : Nat) : Blanks (newLine level) := by
  intro c hc
  rcases List.mem_cons.1 hc with rfl | hc
  · rfl
  · rw [List.eq_of_mem_replicate hc]
    rfl

theorem skipBlanks_append (hb : Blanks b) (s : List Char) :
    skipBlanks (b ++ s) = skipBlanks s :=
  List.dropWhile_append_of_pos hb

theorem skipBlanks_skipBlanks (s : List Char) : skipBlanks (skipBlanks s) = skipBlanks s :=
  List.dropWhile_idempotent isBlank s

/-- What closes a value stands apart from it. -/
theorem apart_of_mark (hb : Blanks b) {c : Char} (hc : c = ',' ∨ c = ']' ∨ c = '\x7d')
    (rest : List Char) : Apart (b ++ c :: rest) := by
  intro x hx
  cases b with
  | nil =>
    obtain rfl : c = x := Option.some.inj hx
    rcases hc with rfl | rfl | rfl <;> decide
  | cons y b =>
    obtain rfl : y = x := Option.some.inj hx
    have hblank := hb y List.mem_cons_self
    simp only [isBlank, Bool.or_eq_true, beq_iff_eq] at hblank
    rcases hblank with ((rfl | rfl) | rfl) | rfl <;> decide

/-- Blanks in front do not count. -/
theorem readValue?_congr (h : skipBlanks s = skipBlanks t) (fuel : Nat) :
    readValue? fuel s = readValue? fuel t := by
  cases fuel with
  | zero => rfl
  | succ fuel => rw [readValue?, readValue?, h]

theorem readItems?_congr (h : skipBlanks s = skipBlanks t) (fuel : Nat) :
    readItems? fuel s = readItems? fuel t := by
  cases fuel with
  | zero => rfl
  | succ fuel => rw [readItems?, readItems?, readValue?_congr h]

theorem readMembers?_congr (h : skipBlanks s = skipBlanks t) (fuel : Nat) :
    readMembers? fuel s = readMembers? fuel t := by
  cases fuel with
  | zero => rfl
  | succ fuel => rw [readMembers?, readMembers?, h]

theorem readValue?_bracket (fuel : Nat) (s : List Char) :
    readValue? (fuel + 1) ('[' :: s) =
      match skipBlanks s with
      | ']' :: rest => some (.array [], rest)
      | rest => (readItems? fuel rest).map fun p => (.array p.1, p.2) :=
  rfl

theorem readValue?_brace (fuel : Nat) (s : List Char) :
    readValue? (fuel + 1) ('{' :: s) =
      match skipBlanks s with
      | '\x7d' :: rest => some (.object [], rest)
      | rest => (readMembers? fuel rest).map fun p => (.object p.1, p.2) :=
  rfl

/-- No item begins with the closing bracket. -/
theorem readItems?_close (fuel : Nat) (s : List Char) : readItems? fuel (']' :: s) = none := by
  cases fuel with
  | zero => rfl
  | succ fuel => cases fuel <;> rfl

/-- No member begins with the closing brace. -/
theorem readMembers?_close (fuel : Nat) (s : List Char) :
    readMembers? fuel ('\x7d' :: s) = none := by
  cases fuel <;> rfl

end Blanks

section Parts

variable {s s' b : List Char} {t : Tree} {ts : List Tree} {ms : List (Option String × Tree)}
  {name : String}

theorem Reads.blanks (h : Reads s t) (hb : Blanks b) : Reads (b ++ s) t := by
  intro fuel rest hfuel hrest
  rw [List.length_append] at hfuel
  rw [List.append_assoc, readValue?_congr (skipBlanks_append hb _)]
  exact h fuel rest (by omega) hrest

theorem readItems?_item (h : Reads s t) {fuel : Nat} (hfuel : s.length ≤ fuel) {tail : List Char}
    (htail : Apart tail) :
    readItems? (fuel + 1) (s ++ tail) =
      match skipBlanks tail with
      | ',' :: rest => (readItems? fuel rest).map fun p => (t :: p.1, p.2)
      | ']' :: rest => some ([t], rest)
      | _ => none := by
  rw [readItems?, h fuel tail hfuel htail]
  rfl

/-- The last item. -/
theorem Reads.last (h : Reads s t) (hb : Blanks b) : ReadsItems (s ++ (b ++ [']'])) [t] := by
  intro fuel rest hfuel
  simp only [List.length_append, List.length_singleton] at hfuel
  obtain ⟨fuel, rfl⟩ : ∃ n, fuel = n + 1 := ⟨fuel - 1, by omega⟩
  have htext : s ++ (b ++ [']']) ++ rest = s ++ (b ++ ']' :: rest) := by simp
  have hclose : skipBlanks (b ++ ']' :: rest) = ']' :: rest := skipBlanks_append hb _
  rw [htext, readItems?_item h (by omega) (apart_of_mark hb (.inr (.inl rfl)) rest), hclose]
  rfl

/-- An item with others behind it. -/
theorem Reads.next (h : Reads s t) (hb : Blanks b) (hs : ReadsItems s' ts) :
    ReadsItems (s ++ (b ++ ',' :: s')) (t :: ts) := by
  intro fuel rest hfuel
  simp only [List.length_append, List.length_cons] at hfuel
  obtain ⟨fuel, rfl⟩ : ∃ n, fuel = n + 1 := ⟨fuel - 1, by omega⟩
  have htext : s ++ (b ++ ',' :: s') ++ rest = s ++ (b ++ ',' :: (s' ++ rest)) := by simp
  have hcomma : skipBlanks (b ++ ',' :: (s' ++ rest)) = ',' :: (s' ++ rest) :=
    skipBlanks_append hb _
  rw [htext, readItems?_item h (by omega) (apart_of_mark hb (.inl rfl) _), hcomma]
  simp only [hs fuel rest (by omega)]
  rfl

theorem readMembers?_member (h : Reads s t) {fuel : Nat} (hfuel : s.length ≤ fuel) (name : String)
    {tail : List Char} (htail : Apart tail) :
    readMembers? (fuel + 1) (printText name ++ ':' :: (s ++ tail)) =
      match skipBlanks tail with
      | ',' :: rest => (readMembers? fuel rest).map fun p => ((some name, t) :: p.1, p.2)
      | '\x7d' :: rest => some ([(some name, t)], rest)
      | _ => none := by
  have htext (s : List Char) :
      printText name ++ s = '"' :: (name.toList.flatMap printChar ++ '"' :: s) := by
    simp [printText]
  have hopen (s : List Char) : skipBlanks ('"' :: s) = '"' :: s := rfl
  have hcolon (s : List Char) : skipBlanks (':' :: s) = ':' :: s := rfl
  rw [htext, readMembers?, hopen]
  simp only [string?_text, Option.bind_eq_bind, Option.bind_some, hcolon]
  rw [h fuel tail hfuel htail]
  rfl

/-- The last member. -/
theorem Reads.lastMember (h : Reads s t) (name : String) (hb : Blanks b) :
    ReadsMembers (printText name ++ ':' :: (s ++ (b ++ ['\x7d']))) [(some name, t)] := by
  intro fuel rest hfuel
  simp only [List.length_append, List.length_cons, List.length_nil] at hfuel
  obtain ⟨fuel, rfl⟩ : ∃ n, fuel = n + 1 := ⟨fuel - 1, by omega⟩
  have htext : printText name ++ ':' :: (s ++ (b ++ ['\x7d'])) ++ rest
      = printText name ++ ':' :: (s ++ (b ++ '\x7d' :: rest)) := by
    simp
  have hclose : skipBlanks (b ++ '\x7d' :: rest) = '\x7d' :: rest := skipBlanks_append hb _
  rw [htext, readMembers?_member h (by omega) name (apart_of_mark hb (.inr (.inr rfl)) rest),
    hclose]
  rfl

/-- A member with others behind it. -/
theorem Reads.nextMember (h : Reads s t) (name : String) (hb : Blanks b)
    (hs : ReadsMembers s' ms) :
    ReadsMembers (printText name ++ ':' :: (s ++ (b ++ ',' :: s'))) ((some name, t) :: ms) := by
  intro fuel rest hfuel
  simp only [List.length_append, List.length_cons] at hfuel
  obtain ⟨fuel, rfl⟩ : ∃ n, fuel = n + 1 := ⟨fuel - 1, by omega⟩
  have htext : printText name ++ ':' :: (s ++ (b ++ ',' :: s')) ++ rest
      = printText name ++ ':' :: (s ++ (b ++ ',' :: (s' ++ rest))) := by
    simp
  have hcomma : skipBlanks (b ++ ',' :: (s' ++ rest)) = ',' :: (s' ++ rest) :=
    skipBlanks_append hb _
  rw [htext, readMembers?_member h (by omega) name (apart_of_mark hb (.inl rfl) _), hcomma]
  simp only [hs fuel rest (by omega)]
  rfl

theorem ReadsMembers.blanks (h : ReadsMembers s ms) (hb : Blanks b) : ReadsMembers (b ++ s) ms := by
  intro fuel rest hfuel
  rw [List.length_append] at hfuel
  rw [List.append_assoc, readMembers?_congr (skipBlanks_append hb _)]
  exact h fuel rest (by omega)

/-- **An array is read from the text of its items.** -/
theorem Reads.array (h : ReadsItems s ts) : Reads ('[' :: s) (.array ts) := by
  intro fuel rest hfuel _
  rw [List.length_cons] at hfuel
  obtain ⟨fuel, rfl⟩ : ∃ n, fuel = n + 1 := ⟨fuel - 1, by omega⟩
  have hitems := h fuel rest (by omega)
  rw [List.cons_append, readValue?_bracket]
  split
  · next hclose =>
    rw [readItems?_congr (t := ']' :: _) hclose, readItems?_close] at hitems
    cases hitems
  · rw [readItems?_congr (skipBlanks_skipBlanks _), hitems]
    rfl

/-- **An object is read from the text of its members.** -/
theorem Reads.object (h : ReadsMembers s ms) : Reads ('{' :: s) (.object ms) := by
  intro fuel rest hfuel _
  rw [List.length_cons] at hfuel
  obtain ⟨fuel, rfl⟩ : ∃ n, fuel = n + 1 := ⟨fuel - 1, by omega⟩
  have hmembers := h fuel rest (by omega)
  rw [List.cons_append, readValue?_brace]
  split
  · next hclose =>
    rw [readMembers?_congr (t := '\x7d' :: _) hclose, readMembers?_close] at hmembers
    cases hmembers
  · rw [readMembers?_congr (skipBlanks_skipBlanks _), hmembers]
    rfl

end Parts

/-- A word that is read whatever follows it. -/
theorem reads_word {s : List Char} {t : Tree}
    (h : ∀ fuel rest, readValue? (fuel + 1) (s ++ rest) = some (t, rest)) (hs : s ≠ []) :
    Reads s t := by
  intro fuel rest hfuel _
  obtain ⟨fuel, rfl⟩ : ∃ n, fuel = n + 1 := ⟨fuel - 1, by
    have hpos := List.length_pos_of_ne_nil hs
    omega⟩
  exact h fuel rest

theorem reads_text (s : String) : Reads (printText s) (.text (some s)) := by
  refine reads_word (fun fuel rest => ?_) nofun
  have htext : printText s ++ rest = '"' :: (s.toList.flatMap printChar ++ '"' :: rest) := by
    simp [printText]
  have hopen : skipBlanks ('"' :: (s.toList.flatMap printChar ++ '"' :: rest))
      = '"' :: (s.toList.flatMap printChar ++ '"' :: rest) := rfl
  rw [htext, readValue?, hopen]
  simp only [string?_text]
  rfl

/-- What begins with a digit or a minus sign can only be a numeral. -/
theorem readValue?_numeral {c : Char} (hc : Number.isDigit c = true ∨ c = '-') (fuel : Nat)
    (s : List Char) :
    readValue? (fuel + 1) (c :: s)
      = (numeral? (c :: s)).map fun p => (.number (JsonNumber.ofNumeral? p.1), p.2) := by
  have hother {x : Char} (hx : Number.isDigit x = false ∧ x ≠ '-') : c ≠ x := by
    rintro rfl
    rcases hc with hc | hc
    · rw [hx.1] at hc
      cases hc
    · exact hx.2 hc
  have hopen : skipBlanks (c :: s) = c :: s := by
    refine List.dropWhile_cons_of_neg fun hblank => ?_
    simp only [isBlank, Bool.or_eq_true, beq_iff_eq] at hblank
    rcases hblank with ((h | h) | h) | h <;> exact hother (by decide) h
  rw [readValue?, hopen]
  split
  · next heq => cases heq
  iterate 6
    next heq => exact absurd (List.cons.inj heq).1 (hother (by decide))
  · rfl

/-- **The text of an integer is read as the number.** -/
theorem reads_number {n : JsonNumber} (h : n.isWhole = true) :
    Reads n.text.toList (.number (some n)) := by
  cases n with
  | float x => cases h
  | int i =>
    intro fuel rest hfuel hrest
    rw [JsonNumber.text, Number.intText, String.toList_ofList] at hfuel ⊢
    obtain ⟨c, t, hfirst, hc⟩ := Number.exists_decimalInt_cons i
    obtain ⟨fuel, rfl⟩ : ∃ n, fuel = n + 1 := ⟨fuel - 1, by
      rw [hfirst, List.length_cons] at hfuel
      omega⟩
    have hnumeral := numeral?_decimalInt i hrest
    rw [hfirst, List.cons_append] at hnumeral ⊢
    rw [readValue?_numeral hc, hnumeral, Option.map_some, JsonNumber.ofNumeral?_ofInt h]

/-! ## §3 Printed values -/

mutual
/-- The tree of a value, its members in their order. -/
def tree : Json → Tree
  | null => .null
  | bool b => .bool b
  | number n => .number (some n)
  | text s => .text (some s)
  | array items => .array (trees items)
  | object members => .object (treeMembers members)

/-- The trees of items. -/
def trees : List Json → List Tree
  | [] => []
  | v :: rest => tree v :: trees rest

/-- The trees of members. -/
def treeMembers : List (String × Json) → List (Option String × Tree)
  | [] => []
  | (name, v) :: rest => (some name, tree v) :: treeMembers rest
end

mutual
/-- Whether every number in a value is an integer of 64 bits. -/
def integral : Json → Bool
  | number n => n.isWhole
  | array items => integralItems items
  | object members => integralMembers members
  | _ => true

/-- Whether every number in items is an integer of 64 bits. -/
def integralItems : List Json → Bool
  | [] => true
  | v :: rest => integral v && integralItems rest

/-- Whether every number in members is an integer of 64 bits. -/
def integralMembers : List (String × Json) → Bool
  | [] => true
  | (_, v) :: rest => integral v && integralMembers rest
end

/-- A value whose printed forms are read as its tree. -/
structure ReadsBack (v : Json) : Prop where
  indented : ∀ level, Reads (indented level v) v.tree
  compact : Reads (compact v) v.tree

section Forms

variable {v : Json} {items : List Json} {name : String} {members : List (String × Json)}

theorem readsItems_indented (h : ∀ w ∈ v :: items, ReadsBack w) (level : Nat) :
    ReadsItems (newLine (level + 1) ++ indented (level + 1) v ++ indentedItems level items)
      (trees (v :: items)) := by
  have hv := ((h v List.mem_cons_self).indented (level + 1)).blanks (blanks_newLine (level + 1))
  induction items generalizing v with
  | nil => exact hv.last (blanks_newLine level)
  | cons w items ih =>
    have hw : ∀ u ∈ w :: items, ReadsBack u := fun u hu => h u (List.mem_cons_of_mem v hu)
    have hrest := ih hw
      (((hw w List.mem_cons_self).indented (level + 1)).blanks (blanks_newLine (level + 1)))
    exact hv.next blanks_nil hrest

theorem readsItems_compact (h : ∀ w ∈ v :: items, ReadsBack w) :
    ReadsItems (compact v ++ compactItems items) (trees (v :: items)) := by
  have hv := (h v List.mem_cons_self).compact
  induction items generalizing v with
  | nil => exact hv.last blanks_nil
  | cons w items ih =>
    have hw : ∀ u ∈ w :: items, ReadsBack u := fun u hu => h u (List.mem_cons_of_mem v hu)
    exact hv.next blanks_nil (ih hw (hw w List.mem_cons_self).compact)

theorem readsMembers_indented (h : ∀ m ∈ (name, v) :: members, ReadsBack m.2) (level : Nat) :
    ReadsMembers (newLine (level + 1) ++ (printText name ++ ':' :: (' ' :: indented (level + 1) v
      ++ indentedMembers level members))) (treeMembers ((name, v) :: members)) := by
  have hspace : Blanks [' '] := by simp [Blanks, isBlank]
  have hv := ((h (name, v) List.mem_cons_self).indented (level + 1)).blanks hspace
  refine ReadsMembers.blanks ?_ (blanks_newLine (level + 1))
  induction members generalizing name v with
  | nil => exact hv.lastMember name (blanks_newLine level)
  | cons m members ih =>
    have hm : ∀ u ∈ m :: members, ReadsBack u.2 := fun u hu => h u (List.mem_cons_of_mem _ hu)
    have hrest := ih hm (((hm m List.mem_cons_self).indented (level + 1)).blanks hspace)
    have htext : indentedMembers level (m :: members) = ',' :: (newLine (level + 1)
        ++ (printText m.1 ++ ':' :: (' ' :: indented (level + 1) m.2
          ++ indentedMembers level members))) := by
      simp [indentedMembers]
    rw [htext]
    exact hv.nextMember name blanks_nil (hrest.blanks (blanks_newLine (level + 1)))

theorem readsMembers_compact (h : ∀ m ∈ (name, v) :: members, ReadsBack m.2) :
    ReadsMembers (printText name ++ ':' :: (compact v ++ compactMembers members))
      (treeMembers ((name, v) :: members)) := by
  have hv := (h (name, v) List.mem_cons_self).compact
  induction members generalizing name v with
  | nil => exact hv.lastMember name blanks_nil
  | cons m members ih =>
    have hm : ∀ u ∈ m :: members, ReadsBack u.2 := fun u hu => h u (List.mem_cons_of_mem _ hu)
    have htext : compactMembers (m :: members)
        = ',' :: (printText m.1 ++ ':' :: (compact m.2 ++ compactMembers members)) := by
      simp [compactMembers]
    rw [htext]
    exact hv.nextMember name blanks_nil (ih hm (hm m List.mem_cons_self).compact)

theorem readsBack_array (h : ∀ w ∈ v :: items, ReadsBack w) : ReadsBack (array (v :: items)) where
  indented level := by
    have htext : indented level (array (v :: items))
        = '[' :: (newLine (level + 1) ++ indented (level + 1) v ++ indentedItems level items) := by
      simp [Json.indented]
    rw [htext]
    exact .array (readsItems_indented h level)
  compact := .array (readsItems_compact h)

theorem readsBack_object (h : ∀ m ∈ (name, v) :: members, ReadsBack m.2) :
    ReadsBack (object ((name, v) :: members)) where
  indented level := by
    have htext : indented level (object ((name, v) :: members))
        = '{' :: (newLine (level + 1) ++ (printText name ++ ':' :: (' ' :: indented (level + 1) v
          ++ indentedMembers level members))) := by
      simp [Json.indented]
    rw [htext]
    exact .object (readsMembers_indented h level)
  compact := by
    have htext : compact (object ((name, v) :: members))
        = '{' :: (printText name ++ ':' :: (compact v ++ compactMembers members)) := by
      simp [Json.compact]
    rw [htext]
    exact .object (readsMembers_compact h)

/-- A value without parts has one printed form. -/
theorem readsBack_of_forms {s : List Char} (hindented : ∀ level, indented level v = s)
    (hcompact : compact v = s) (h : Reads s v.tree) : ReadsBack v where
  indented level := (hindented level).symm ▸ h
  compact := hcompact.symm ▸ h

end Forms

mutual
/-- **A value is read again where it was printed**, if all its numbers are integers of 64 bits. -/
theorem readsBack : (v : Json) → v.integral = true → v.ReadsBack
  | null, _ => readsBack_of_forms (fun _ => rfl) rfl (reads_word (fun _ _ => rfl) nofun)
  | bool true, _ => readsBack_of_forms (fun _ => rfl) rfl (reads_word (fun _ _ => rfl) nofun)
  | bool false, _ => readsBack_of_forms (fun _ => rfl) rfl (reads_word (fun _ _ => rfl) nofun)
  | number _, hv => readsBack_of_forms (fun _ => rfl) rfl (reads_number hv)
  | text s, _ => readsBack_of_forms (fun _ => rfl) rfl (reads_text s)
  | array [], _ => readsBack_of_forms (fun _ => rfl) rfl (reads_word (fun _ _ => rfl) nofun)
  | object [], _ => readsBack_of_forms (fun _ => rfl) rfl (reads_word (fun _ _ => rfl) nofun)
  | array (w :: items), hv => readsBack_array (readsBack_items (w :: items) hv)
  | object ((name, w) :: members), hv =>
    readsBack_object (readsBack_members ((name, w) :: members) hv)

theorem readsBack_items : (items : List Json) → integralItems items = true →
    ∀ w ∈ items, ReadsBack w
  | [], _ => fun _ hw => nomatch hw
  | v :: rest, h => by
    rw [integralItems, Bool.and_eq_true] at h
    exact List.forall_mem_cons.2 ⟨readsBack v h.1, readsBack_items rest h.2⟩

theorem readsBack_members : (members : List (String × Json)) → integralMembers members = true →
    ∀ m ∈ members, ReadsBack m.2
  | [], _ => fun _ hm => nomatch hm
  | (name, v) :: rest, h => by
    rw [integralMembers, Bool.and_eq_true] at h
    exact List.forall_mem_cons.2 ⟨readsBack v h.1, readsBack_members rest h.2⟩
end

/-! ## §4 Documents -/

/-- A document with nothing behind it. -/
theorem Reads.readTree? {s : List Char} {t : Tree} (h : Reads s t) : readTree? s = some t := by
  have hvalue := h (s.length + 1) [] (Nat.le_succ _) nofun
  rw [List.append_nil] at hvalue
  rw [Json.readTree?, hvalue]
  rfl

/-- **What is printed on lines is read as the tree it was printed from.** -/
theorem readTree?_indented {v : Json} (hv : v.integral = true) :
    readTree? (indented 0 v) = some v.tree :=
  ((readsBack v hv).indented 0).readTree?

/-- **What is printed without blanks is read as the tree it was printed from.** -/
theorem readTree?_compact {v : Json} (hv : v.integral = true) :
    readTree? (compact v) = some v.tree :=
  (readsBack v hv).compact.readTree?

end LiveConfig.Json
