import LiveConfig.Proofs.Properties.RoundTrip
import Mathlib.Algebra.Ring.Nat
import Mathlib.Data.List.Forall2

/-!
# Escapes of code points

A backslash and a `u` ask for the four hexadecimal digits of a code point. What the reader takes for
digits is what it takes for a number elsewhere: it also accepts a plus sign in front of them, and,
where the text ends too early, fewer of them.

## The grammar

A text is cut into pieces, each of which is read by itself. How a piece is read depends on the rule
that says which characters name a code point, and `Reading` is a reading by any such rule.

## Main statements

- `codePoint?_eq_some_iff`: which characters the reader takes for a code point.
- `cut_iff`: every text is cut into pieces in one way.
- `reading_unescape`: how every piece is read, and where it is read as four digits would be.
- `loose_escapes`: two pieces that are not.
-/

namespace LiveConfig

/-! ## §1 Hexadecimal numbers -/

namespace Number

/-- A hexadecimal digit of either case, and its value. -/
inductive HexDigit : Char → Nat → Prop
  | decimal {c : Char} {d : Nat} (hd : d < 10) (hc : c.toNat = '0'.toNat + d) : HexDigit c d
  | lower {c : Char} {d : Nat} (hd : d < 6) (hc : c.toNat = 'a'.toNat + d) : HexDigit c (10 + d)
  | upper {c : Char} {d : Nat} (hd : d < 6) (hc : c.toNat = 'A'.toNat + d) : HexDigit c (10 + d)

/-- Hexadecimal digits behind the number `acc`, and the number that they make. -/
def HexFrom (acc : Nat) (digits : List Char) (n : Nat) : Prop :=
  ∃ values, List.Forall₂ HexDigit digits values
    ∧ n = values.foldl (fun n value => n * 16 + value) acc

/-- **Hexadecimal digits**, and the number that they make. -/
def Hex (digits : List Char) (n : Nat) : Prop := HexFrom 0 digits n

theorem HexDigit.lt {c : Char} {v : Nat} (h : HexDigit c v) : v < 16 := by
  cases h <;> omega

theorem digitValue?_eq_some_iff {c : Char} {v : Nat} : digitValue? c = some v ↔ HexDigit c v := by
  have hzero : '0'.toNat = 0x30 := rfl
  have hlower : 'a'.toNat = 0x61 := rfl
  have hupper : 'A'.toNat = 0x41 := rfl
  constructor
  · intro h
    simp only [digitValue?, Bool.and_eq_true, decide_eq_true_eq] at h
    split at h
    · obtain rfl := Option.some.inj h
      exact .decimal (by omega) (by omega)
    split at h
    · have hv : v = 10 + (c.toNat - 0x61) := by
        have := Option.some.inj h
        omega
      rw [hv]
      exact .lower (by omega) (by omega)
    split at h
    · have hv : v = 10 + (c.toNat - 0x41) := by
        have := Option.some.inj h
        omega
      rw [hv]
      exact .upper (by omega) (by omega)
    · cases h
  · intro h
    simp only [digitValue?, Bool.and_eq_true, decide_eq_true_eq]
    cases h with
    | decimal hd hc =>
      rw [if_pos (by omega)]
      exact congrArg some (by omega)
    | lower hd hc =>
      rw [if_neg (by omega), if_pos (by omega)]
      exact congrArg some (by omega)
    | upper hd hc =>
      rw [if_neg (by omega), if_neg (by omega), if_pos (by omega)]
      exact congrArg some (by omega)

theorem digitIn?_eq_some_iff {c : Char} {v : Nat} : digitIn? 16 c = some v ↔ HexDigit c v := by
  rw [digitIn?, Option.bind_eq_some_iff]
  simp only [digitValue?_eq_some_iff, Option.ite_none_right_eq_some, Option.some.injEq]
  constructor
  · rintro ⟨d, hd, -, rfl⟩
    exact hd
  · intro h
    exact ⟨v, h, h.lt, rfl⟩

theorem hexFrom_nil {acc n : Nat} : HexFrom acc [] n ↔ n = acc := by
  simp [HexFrom]

theorem hexFrom_cons {acc n : Nat} {c : Char} {digits : List Char} :
    HexFrom acc (c :: digits) n ↔ ∃ v, HexDigit c v ∧ HexFrom (acc * 16 + v) digits n := by
  constructor
  · rintro ⟨values, hvalues, hn⟩
    cases hvalues with
    | cons hv hrest => exact ⟨_, hv, _, hrest, hn⟩
  · rintro ⟨v, hv, values, hvalues, hn⟩
    exact ⟨v :: values, .cons hv hvalues, hn⟩

theorem readDigitsFrom?_eq_some_iff {acc n : Nat} {digits : List Char} :
    readDigitsFrom? 16 acc digits = some n ↔ HexFrom acc digits n := by
  induction digits generalizing acc with
  | nil => rw [readDigitsFrom?, Option.some.injEq, hexFrom_nil, eq_comm]
  | cons c digits ih =>
    simp only [readDigitsFrom?, Option.bind_eq_some_iff, digitIn?_eq_some_iff, ih, hexFrom_cons]

/-- What is no digit does not stand among digits. -/
theorem HexFrom.ne_of_mem {acc n : Nat} {digits : List Char} (h : HexFrom acc digits n) {c d : Char}
    (hc : c ∈ digits) (hd : digitValue? d = none) : c ≠ d := by
  induction digits generalizing acc with
  | nil => cases hc
  | cons e digits ih =>
    obtain ⟨v, hv, hrest⟩ := hexFrom_cons.1 h
    rcases List.mem_cons.1 hc with rfl | hmem
    · rintro rfl
      rw [digitValue?_eq_some_iff.2 hv] at hd
      cases hd
    · exact ih hrest hmem

theorem HexFrom.unique {acc n k : Nat} {digits : List Char} (hn : HexFrom acc digits n)
    (hk : HexFrom acc digits k) : n = k := by
  rw [← readDigitsFrom?_eq_some_iff] at hn hk
  exact Option.some.inj (hn.symm.trans hk)

/-- **Numbers of 32 bits** are one or more digits; a plus sign may stand in front of them. -/
theorem readUnsigned?_eq_some_iff {s : List Char} {n : Nat} :
    readUnsigned? 32 16 s = some n
      ↔ n < 2 ^ 32 ∧ ∃ digits, digits ≠ [] ∧ (s = digits ∨ s = '+' :: digits) ∧ Hex digits n := by
  have hread (digits : List Char) :
      (readDigits? 16 digits).bind (fun n => if n < 1 <<< 32 then some n else none) = some n
        ↔ n < 2 ^ 32 ∧ digits ≠ [] ∧ Hex digits n := by
    cases digits with
    | nil => simp
    | cons c rest =>
      rw [readDigits?, if_neg (by simp), Option.bind_eq_some_iff]
      simp only [readDigitsFrom?_eq_some_iff, Option.ite_none_right_eq_some, Option.some.injEq]
      constructor
      · rintro ⟨k, hk, hlt, rfl⟩
        exact ⟨hlt, List.cons_ne_nil _ _, hk⟩
      · rintro ⟨hlt, -, hk⟩
        exact ⟨n, hk, hlt, rfl⟩
  unfold readUnsigned?
  split
  · next rest =>
    rw [hread]
    refine and_congr_right fun _ => ⟨fun h => ⟨rest, h.1, .inr rfl, h.2⟩, ?_⟩
    rintro ⟨digits, hne, rfl | hsign, hdigits⟩
    · -- The sign itself is no digit.
      exact absurd rfl (HexFrom.ne_of_mem hdigits List.mem_cons_self rfl)
    · obtain rfl := (List.cons.inj hsign).2
      exact ⟨hne, hdigits⟩
  · next hplain =>
    rw [hread]
    refine and_congr_right fun _ => ⟨fun h => ⟨s, h.1, .inl rfl, h.2⟩, ?_⟩
    rintro ⟨digits, hne, rfl | hsign, hdigits⟩
    · exact ⟨hne, hdigits⟩
    · exact absurd hsign (hplain digits)

end Number

namespace Properties

open Number

/-! ## §2 Code points -/

/-- Four hexadecimal digits and the character that they name. -/
def Strict (looked : List Char) (c : Char) : Prop := looked.length = 4 ∧ Hex looked c.toNat

/-- Hexadecimal digits, with or without a plus sign, and the character that they name. -/
def Lenient (looked : List Char) (c : Char) : Prop :=
  ∃ digits, digits ≠ [] ∧ (looked = digits ∨ looked = '+' :: digits) ∧ Hex digits c.toNat

/-- These characters name a character, but they are not four digits. -/
def Loose (looked : List Char) : Prop :=
  (∃ c, Lenient looked c) ∧ (looked.length ≠ 4 ∨ looked.head? = some '+')

/-- **What the reader takes for a code point.** -/
theorem codePoint?_eq_some_iff {looked : List Char} {c : Char} :
    codePoint? looked = some c ↔ Lenient looked c := by
  have hsmall : c.toNat < 2 ^ 32 := c.val.toNat_lt
  have hnumber : Lenient looked c ↔ readUnsigned? 32 16 looked = some c.toNat := by
    rw [readUnsigned?_eq_some_iff, and_iff_right hsmall, Lenient]
  rw [codePoint?, Option.bind_eq_some_iff, hnumber]
  constructor
  · rintro ⟨n, hn, hc⟩
    by_cases hvalid : n.isValidChar
    · rw [dif_pos hvalid] at hc
      obtain rfl := Option.some.inj hc
      exact hn
    · rw [dif_neg hvalid] at hc
      cases hc
  · intro h
    refine ⟨c.toNat, h, ?_⟩
    have hvalid : c.toNat.isValidChar := c.valid
    rw [dif_pos hvalid]
    exact congrArg some (Char.toNat_inj.1 rfl)

theorem Strict.lenient {looked : List Char} {c : Char} (h : Strict looked c) :
    Lenient looked c := by
  obtain ⟨hfour, hdigits⟩ := h
  refine ⟨looked, ?_, .inl rfl, hdigits⟩
  rintro rfl
  cases hfour

/-- A character that is named at all is named by four digits, unless it is named loosely. -/
theorem Lenient.strict_iff {looked : List Char} {c : Char} (h : Lenient looked c) :
    Strict looked c ↔ ¬Loose looked := by
  constructor
  · rintro ⟨hfour, hdigits⟩ ⟨-, hshort | hsign⟩
    · exact hshort hfour
    · obtain ⟨rest, rfl⟩ := List.head?_eq_some_iff.1 hsign
      exact HexFrom.ne_of_mem hdigits List.mem_cons_self rfl rfl
  · intro htight
    have hnamed : ∃ c, Lenient looked c := ⟨c, h⟩
    have hfour : looked.length = 4 := by
      by_contra hlength
      exact htight ⟨hnamed, .inl hlength⟩
    obtain ⟨digits, -, rfl | rfl, hdigits⟩ := h
    · exact ⟨hfour, hdigits⟩
    · exact absurd ⟨hnamed, .inr rfl⟩ htight

/-! ## §3 Pieces -/

/-- A piece of an escaped text. -/
inductive Piece
  /-- A character that is no backslash. -/
  | plain (c : Char)
  /-- A backslash and the character behind it, which is no `u`. -/
  | mark (c : Char)
  /-- A backslash, a `u` and the characters that it looks at. -/
  | unit (looked : List Char)
  /-- A backslash with nothing behind it. -/
  | lone

/-- **A text and its pieces.** Behind `\u` there are four characters, or all that are left. -/
inductive Cut : List Char → List Piece → Prop
  | nil : Cut [] []
  | lone : Cut ['\\'] [.lone]
  | plain {c : Char} {s : List Char} {ps : List Piece} (hc : c ≠ '\\') (hs : Cut s ps) :
      Cut (c :: s) (.plain c :: ps)
  | mark {c : Char} {s : List Char} {ps : List Piece} (hc : c ≠ 'u') (hs : Cut s ps) :
      Cut ('\\' :: c :: s) (.mark c :: ps)
  | four {a b c d : Char} {s : List Char} {ps : List Piece} (hs : Cut s ps) :
      Cut ('\\' :: 'u' :: a :: b :: c :: d :: s) (.unit [a, b, c, d] :: ps)
  | short {looked : List Char} (hshort : looked.length < 4) :
      Cut ('\\' :: 'u' :: looked) [.unit looked]

/-- What a backslash makes of the character behind it. -/
def escaped (c : Char) : Char :=
  if c = 't' then '\t' else if c = 'n' then '\n' else if c = 'r' then '\r'
  else if c = 'f' then '\x0c' else c

/-- **What a piece stands for**, where `Names` says which characters name a code point. -/
inductive Piece.Means (Names : List Char → Char → Prop) : Piece → List Char → Prop
  | plain {c : Char} : Means Names (.plain c) [c]
  | mark {c : Char} : Means Names (.mark c) [escaped c]
  | decoded {looked : List Char} {c : Char} (h : Names looked c) : Means Names (.unit looked) [c]
  /-- What names no character stays as it is. -/
  | literal {looked : List Char} (h : ∀ c, ¬Names looked c) :
      Means Names (.unit looked) ('\\' :: 'u' :: looked)
  | lone : Means Names .lone []

/-- What pieces stand for one after the other. -/
def Reading (Names : List Char → Char → Prop) (ps : List Piece) (out : List Char) : Prop :=
  ∃ parts, List.Forall₂ (Piece.Means Names) ps parts ∧ out = parts.flatten

theorem unescape_mark {c : Char} (hc : c ≠ 'u') (s : List Char) :
    unescape ('\\' :: c :: s) = escaped c :: unescape s := by
  have hone : unescape ['\\', c] = [escaped c] := by
    by_cases h : c = 't' ∨ c = 'n' ∨ c = 'r' ∨ c = 'f'
    · rcases h with rfl | rfl | rfl | rfl <;> rfl
    · simp only [not_or] at h
      simp [unescape, escaped, h]
  rw [unescape_escaped hc, hone, List.singleton_append]

theorem unescape_short {looked : List Char} (h : looked.length < 4) :
    unescape ('\\' :: 'u' :: looked) = decodeUnicode looked := by
  match looked with
  | [] | [_] | [_, _] | [_, _, _] => rfl
  | _ :: _ :: _ :: _ :: _ => simp at h; omega

/-- Every text has pieces. -/
theorem exists_cut (s : List Char) : ∃ ps, Cut s ps := by
  fun_induction unescape s with
  | case1 => exact ⟨_, .nil⟩
  | case2 => exact ⟨_, .lone⟩
  | case3 a b c d s ih =>
    obtain ⟨ps, hs⟩ := ih
    exact ⟨_, .four hs⟩
  | case4 short hlong =>
    match short, hlong with
    | [], _ | [_], _ | [_, _], _ | [_, _, _], _ => exact ⟨_, .short (by simp)⟩
    | a :: b :: c :: d :: s, hlong => exact (hlong a b c d s rfl).elim
  | case5 s ih | case6 s ih | case7 s ih | case8 s ih =>
    obtain ⟨ps, hs⟩ := ih
    exact ⟨_, .mark (by decide) hs⟩
  | case9 c s _ hc _ _ _ _ ih =>
    obtain ⟨ps, hs⟩ := ih
    exact ⟨_, .mark hc hs⟩
  | case10 c s hlone _ _ _ _ _ _ hpair ih =>
    obtain ⟨ps, hs⟩ := ih
    refine ⟨_, .plain ?_ hs⟩
    intro hc
    cases s with
    | nil => exact hlone hc rfl
    | cons d s => exact hpair d s hc rfl

/-- No text has two kinds of pieces. -/
theorem Cut.unique {s : List Char} {ps qs : List Piece} (h : Cut s ps) (h' : Cut s qs) :
    qs = ps := by
  induction h generalizing qs with
  | nil => cases h'; rfl
  | lone =>
    cases h' with
    | lone => rfl
    | plain hc => exact absurd rfl hc
  | plain hc _ ih =>
    cases h' with
    | plain _ hs => rw [ih hs]
    | _ => exact absurd rfl hc
  | mark hc _ ih =>
    cases h' with
    | mark _ hs => rw [ih hs]
    | plain hplain => exact absurd rfl hplain
    | _ => exact absurd rfl hc
  | four _ ih =>
    cases h' with
    | four hs => rw [ih hs]
    | plain hplain => exact absurd rfl hplain
    | mark hmark => exact absurd rfl hmark
    | short hshort => simp at hshort; omega
  | short hshort =>
    cases h' with
    | short => rfl
    | plain hplain => exact absurd rfl hplain
    | mark hmark => exact absurd rfl hmark
    | four => simp at hshort; omega

/-! ## §4 Readings -/

section Readings

variable {Names Names' : List Char → Char → Prop} {ps : List Piece} {out out' : List Char}

theorem reading_nil : Reading Names [] [] := ⟨[], .nil, rfl⟩

theorem Reading.cons {p : Piece} {part : List Char} (hp : p.Means Names part)
    (h : Reading Names ps out) : Reading Names (p :: ps) (part ++ out) := by
  obtain ⟨parts, hparts, rfl⟩ := h
  exact ⟨part :: parts, .cons hp hparts, rfl⟩

/-- Two rules that agree on the characters looked at read the same. -/
theorem Reading.congr (h : Reading Names ps out)
    (hagree : ∀ looked, .unit looked ∈ ps → ∀ c, Names looked c ↔ Names' looked c) :
    Reading Names' ps out := by
  obtain ⟨parts, hparts, rfl⟩ := h
  refine ⟨parts, ?_, rfl⟩
  induction hparts with
  | nil => exact .nil
  | @cons p part ps parts hp _ ih =>
    refine .cons ?_ (ih fun looked hlooked => hagree looked (List.mem_cons_of_mem _ hlooked))
    cases hp with
    | plain => exact .plain
    | mark => exact .mark
    | decoded hnames => exact .decoded ((hagree _ List.mem_cons_self _).1 hnames)
    | literal hnone =>
      exact .literal fun c hc => hnone c ((hagree _ List.mem_cons_self c).2 hc)
    | lone => exact .lone

end Readings

/-- Digits without a sign name the character with their number. -/
theorem lenient_iff_of_hex {looked : List Char} {n : Nat} (h : Hex looked n) (hne : looked ≠ [])
    {c : Char} : Lenient looked c ↔ c.toNat = n := by
  constructor
  · rintro ⟨digits, -, rfl | rfl, hdigits⟩
    · exact HexFrom.unique hdigits h
    · exact absurd rfl (HexFrom.ne_of_mem h List.mem_cons_self rfl)
  · rintro rfl
    exact ⟨looked, hne, .inl rfl, h⟩

theorem Lenient.unique {looked : List Char} {c d : Char} (hc : Lenient looked c)
    (hd : Lenient looked d) : d = c :=
  Option.some.inj ((codePoint?_eq_some_iff.2 hd).symm.trans (codePoint?_eq_some_iff.2 hc))

/-- What `\u` stands for with the characters behind it. -/
theorem means_decodeUnicode (looked : List Char) :
    Piece.Means Lenient (.unit looked) (decodeUnicode looked) := by
  unfold decodeUnicode
  split
  · next hc => exact .decoded (codePoint?_eq_some_iff.1 hc)
  · next hnone =>
    refine .literal fun c hc => ?_
    rw [codePoint?_eq_some_iff.2 hc] at hnone
    cases hnone

/-- The reader reads every piece. -/
theorem Cut.reading {s : List Char} {ps : List Piece} (h : Cut s ps) :
    Reading Lenient ps (unescape s) := by
  induction h with
  | nil => exact reading_nil
  | lone => exact reading_nil.cons .lone
  | plain hc _ ih =>
    rw [unescape_plain hc]
    exact ih.cons .plain
  | mark hc _ ih =>
    rw [unescape_mark hc]
    exact ih.cons .mark
  | four _ ih => exact ih.cons (means_decodeUnicode _)
  | short hshort =>
    rw [unescape_short hshort, ← List.append_nil (decodeUnicode _)]
    exact reading_nil.cons (means_decodeUnicode _)

theorem Piece.Means.unique {p : Piece} {part part' : List Char} (h : p.Means Lenient part)
    (h' : p.Means Lenient part') : part' = part := by
  cases h with
  | decoded hc =>
    cases h' with
    | decoded hd => rw [hc.unique hd]
    | literal hnone => exact absurd hc (hnone _)
  | literal hnone =>
    cases h' with
    | decoded hd => exact absurd hd (hnone _)
    | literal => rfl
  | _ => cases h'; rfl

theorem decodeUnicode_of_lenient {looked : List Char} {c : Char} (h : Lenient looked c) :
    decodeUnicode looked = [c] :=
  Piece.Means.unique (.decoded h) (means_decodeUnicode looked)

theorem decodeUnicode_of_unnamed {looked : List Char} (h : ∀ c, ¬Lenient looked c) :
    decodeUnicode looked = '\\' :: 'u' :: looked :=
  Piece.Means.unique (.literal h) (means_decodeUnicode looked)

theorem Reading.unique {ps : List Piece} {out out' : List Char} (h : Reading Lenient ps out)
    (h' : Reading Lenient ps out') : out' = out := by
  obtain ⟨parts, hparts, rfl⟩ := h
  obtain ⟨parts', hparts', rfl⟩ := h'
  congr 1
  induction hparts generalizing parts' with
  | nil => cases hparts'; rfl
  | cons hp _ ih =>
    cases hparts' with
    | cons hp' hrest => rw [hp.unique hp', ih _ hrest]

/-- Where a piece is read loosely, it would be longer if it were read as four digits. -/
theorem Piece.Means.length_le {p : Piece} {part part' : List Char} (h : p.Means Lenient part)
    (h' : p.Means Strict part') :
    part.length ≤ part'.length
      ∧ (part.length = part'.length → ∀ looked, p = .unit looked → ¬Loose looked) := by
  cases h with
  | decoded hc =>
    cases h' with
    | decoded hd =>
      refine ⟨le_rfl, ?_⟩
      rintro - looked ⟨⟩
      exact hd.lenient.strict_iff.1 hd
    | literal hnone => exact ⟨by simp, fun hlength => by simp at hlength⟩
  | literal hnone =>
    cases h' with
    | decoded hd => exact absurd hd.lenient (hnone _)
    | literal =>
      refine ⟨le_rfl, ?_⟩
      rintro - looked ⟨⟩ ⟨⟨c, hc⟩, -⟩
      exact hnone c hc
  | _ =>
    cases h'
    exact ⟨le_rfl, nofun⟩

theorem not_loose_of_readings {ps : List Piece} {out out' : List Char} (h : Reading Lenient ps out)
    (h' : Reading Strict ps out') :
    out.length ≤ out'.length
      ∧ (out.length = out'.length → ∀ looked, .unit looked ∈ ps → ¬Loose looked) := by
  obtain ⟨parts, hparts, rfl⟩ := h
  obtain ⟨parts', hparts', rfl⟩ := h'
  induction hparts generalizing parts' with
  | nil =>
    cases hparts'
    exact ⟨le_rfl, fun _ _ hmem => absurd hmem List.not_mem_nil⟩
  | @cons p part ps parts hp _ ih =>
    cases hparts' with
    | @cons _ part' _ parts' hp' hrest =>
      obtain ⟨hle, htight⟩ := hp.length_le hp'
      obtain ⟨hles, htights⟩ := ih _ hrest
      simp only [List.flatten_cons, List.length_append]
      refine ⟨Nat.add_le_add hle hles, fun hlength looked hmem => ?_⟩
      rcases List.mem_cons.1 hmem with rfl | hmem
      · exact htight (by omega) looked rfl
      · exact htights (by omega) looked hmem

/-- **How every piece is read.** A text is cut into pieces in one way, and the reader makes of it
what they stand for if it is lenient about code points. It makes of it what they stand for if only
four digits name a code point exactly if no piece is named loosely. -/
theorem reading_unescape (s : List Char) :
    ∃ ps, (∀ qs, Cut s qs ↔ qs = ps)
      ∧ (∀ out, Reading Lenient ps out ↔ out = unescape s)
      ∧ (Reading Strict ps (unescape s) ↔ ∀ looked, .unit looked ∈ ps → ¬Loose looked) := by
  obtain ⟨ps, hcut⟩ := exists_cut s
  have hreading := hcut.reading
  refine ⟨ps, fun qs => ⟨hcut.unique, ?_⟩, fun out => ⟨hreading.unique, ?_⟩, ?_, ?_⟩
  · rintro rfl
    exact hcut
  · rintro rfl
    exact hreading
  · -- A strict reading leaves a loose piece literal, and that is longer than one character.
    intro hstrict
    exact (not_loose_of_readings hreading hstrict).2 rfl
  · intro htight
    refine hreading.congr fun looked hlooked c => ⟨fun h => ?_, Strict.lenient⟩
    exact h.strict_iff.2 (htight looked hlooked)

/-- **Two pieces that are read although they are not four digits**: one that the text ends too early
for, and one with a sign in front of its digits. -/
theorem loose_escapes :
    (∀ c, ¬Strict ['4', '1'] c) ∧ unescape ['\\', 'u', '4', '1'] = ['A']
      ∧ (∀ c, ¬Strict ['+', '0', '4', '1'] c)
      ∧ read "k=\\u+041" = .ofList [("k", "A")] := by
  refine ⟨fun c h => absurd h.1 (by decide), by decide, fun c h => ?_, by decide⟩
  exact h.lenient.strict_iff.1 h ⟨⟨c, h.lenient⟩, .inr rfl⟩

end Properties

end LiveConfig
