import LiveConfig.Url.Path

/-!
# Appended segments

A segment that is appended to a path is escaped, so that it says what it said before. Some segments
do not arrive: the two dots are passed over, tabs and line ends fall out of their segment, and what
is left may be a dot segment again. Where the path is the root, the segment takes its place.

## Main statements

- `percentDecode_encode`: an escaped segment says what it said before.
- `decoded_appendSegment`: a plain segment arrives as it is.
- `appendSegment_barDrive`: the one plain segment that does not.
-/

namespace LiveConfig.Url

/-! ## §1 Bytes -/

/-- The bytes of a text. -/
def octets (s : List Char) : List UInt8 := s.flatMap String.utf8EncodeChar

theorem octets_injective {s t : List Char} (h : octets s = octets t) : s = t := by
  have hbytes : (String.ofList s).toByteArray = (String.ofList t).toByteArray := by
    rw [String.toByteArray_ofList, String.toByteArray_ofList]
    exact congrArg List.toByteArray h
  exact String.ofList_injective (String.toByteArray_inj.1 hbytes)

theorem octets_cons (c : Char) (s : List Char) :
    octets (c :: s) = String.utf8EncodeChar c ++ octets s :=
  List.flatMap_cons

theorem octets_append (s t : List Char) : octets (s ++ t) = octets s ++ octets t :=
  List.flatMap_append

theorem length_octets_pos {s : List Char} (h : s ≠ []) : 0 < (octets s).length := by
  obtain ⟨c, s, rfl⟩ := List.exists_cons_of_ne_nil h
  rw [octets_cons, List.length_append]
  exact Nat.add_pos_left (List.length_pos_iff.2 String.utf8EncodeChar_ne_nil) _

theorem percentDecode_eq_nil_iff {s : List Char} : percentDecode s = [] ↔ s = [] := by
  constructor
  · intro h
    unfold percentDecode at h
    split at h
    · rfl
    · split at h <;> simp at h
    · simp at h
  · rintro rfl
    rfl

namespace Path

/-! ## §2 Dot segments -/

/-- A letter in upper case is moved by 32, and everything else stays. -/
theorem toLower_cases (c : Char) :
    c.toLower = c ∨ 65 ≤ c.toNat ∧ c.toNat ≤ 90 ∧ c.toLower.toNat = c.toNat + 32 := by
  unfold Char.toLower
  split
  · next h =>
    right
    have hlow : 65 ≤ c.toNat := UInt32.le_iff_toNat_le.1 h.1
    have hhigh : c.toNat ≤ 90 := UInt32.le_iff_toNat_le.1 h.2
    refine ⟨hlow, hhigh, ?_⟩
    show (c.val + 32).toNat = c.toNat + 32
    rw [UInt32.toNat_add]
    show (c.toNat + 32) % 2 ^ 32 = c.toNat + 32
    omega
  · exact .inl rfl

theorem eq_of_toLower {c d : Char} (h : c.toLower = d) (hd : d.toNat < 97) : c = d := by
  rcases toLower_cases c with hc | ⟨hlow, -, hc⟩
  · rw [← hc, h]
  · rw [h] at hc
    omega

theorem eq_of_toLower_e {c : Char} (h : c.toLower = 'e') : c = 'e' ∨ c = 'E' := by
  rcases toLower_cases c with hc | ⟨-, -, hc⟩
  · exact .inl (hc.symm.trans h)
  · rw [h] at hc
    have hcode : 'E'.toNat + 32 = c.toNat + 32 := hc
    exact .inr (Char.toNat_inj.1 (Nat.add_right_cancel hcode)).symm

/-- A dot, or a dot in escaped form. -/
def IsDot (s : List Char) : Prop :=
  s.map Char.toLower = ['.'] ∨ s.map Char.toLower = ['%', '2', 'e']

theorem IsDot.percentDecode_append {s : List Char} (h : IsDot s) (rest : List Char) :
    percentDecode (s ++ rest) = 0x2E :: percentDecode rest := by
  rcases h with h | h
  · obtain ⟨c, t, rfl, hc, ht⟩ := List.map_eq_cons_iff.1 h
    obtain rfl := List.map_eq_nil_iff.1 ht
    obtain rfl := eq_of_toLower hc (by decide)
    rfl
  · obtain ⟨a, t, rfl, ha, ht⟩ := List.map_eq_cons_iff.1 h
    obtain ⟨b, t, rfl, hb, ht⟩ := List.map_eq_cons_iff.1 ht
    obtain ⟨c, t, rfl, hc, ht⟩ := List.map_eq_cons_iff.1 ht
    obtain rfl := List.map_eq_nil_iff.1 ht
    obtain rfl := eq_of_toLower ha (by decide)
    obtain rfl := eq_of_toLower hb (by decide)
    rcases eq_of_toLower_e hc with rfl | rfl <;> rfl

theorem percentDecode_of_isSingleDot {s : List Char} (h : isSingleDot s = true) :
    percentDecode s = octets ['.'] := by
  have hdot : IsDot s := by
    simp only [isSingleDot, Bool.or_eq_true, decide_eq_true_eq] at h
    exact h
  rw [← List.append_nil s, hdot.percentDecode_append]
  rfl

theorem percentDecode_of_isDoubleDot {s : List Char} (h : isDoubleDot s = true) :
    percentDecode s = octets ['.', '.'] := by
  have hforms : ∃ t u, s.map Char.toLower = t ++ u ∧ (t = ['.'] ∨ t = ['%', '2', 'e'])
      ∧ (u = ['.'] ∨ u = ['%', '2', 'e']) := by
    simp only [isDoubleDot, Bool.or_eq_true, decide_eq_true_eq] at h
    rcases h with ((h | h) | h) | h
    · exact ⟨['.'], ['.'], h, .inl rfl, .inl rfl⟩
    · exact ⟨['.'], ['%', '2', 'e'], h, .inl rfl, .inr rfl⟩
    · exact ⟨['%', '2', 'e'], ['.'], h, .inr rfl, .inl rfl⟩
    · exact ⟨['%', '2', 'e'], ['%', '2', 'e'], h, .inr rfl, .inr rfl⟩
  obtain ⟨t, u, hmap, ht, hu⟩ := hforms
  obtain ⟨a, b, rfl, rfl, rfl⟩ := List.map_eq_append_iff.1 hmap
  have hfirst : IsDot a := ht
  have hsecond : IsDot b := hu
  rw [hfirst.percentDecode_append, ← List.append_nil b, hsecond.percentDecode_append]
  rfl

/-! ## §3 Plain segments -/

/-- **A plain segment** is none of the dots and holds nothing that is dropped. -/
def Plain (s : List Char) : Prop := s ≠ ['.'] ∧ s ≠ ['.', '.'] ∧ ∀ c ∈ s, isDropped c = false

instance (s : List Char) : Decidable (Plain s) :=
  decidable_of_iff (s ≠ ['.'] ∧ s ≠ ['.', '.'] ∧ s.any isDropped = false) (by simp [Plain])

/-- The escaped form of a segment. -/
def encode (special : Bool) (s : List Char) : List Char := percentEncode (inSegmentSet special) s

theorem percentDecode_encode (special : Bool) (s : List Char) :
    percentDecode (encode special s) = octets s :=
  percentDecode_percentEncode _ (by cases special <;> rfl) s

section Plain

variable {special : Bool} {s : List Char}

theorem Plain.kept (h : Plain s) : kept s = s := by
  rw [Path.kept, List.filter_eq_self]
  intro c hc
  simp [h.2.2 c hc]

theorem Plain.isSingleDot (h : Plain s) : isSingleDot (encode special s) = false := by
  refine Bool.eq_false_iff.2 fun hdot => h.1 (octets_injective ?_)
  rw [← percentDecode_encode special, percentDecode_of_isSingleDot hdot]

theorem Plain.isDoubleDot (h : Plain s) : isDoubleDot (encode special s) = false := by
  refine Bool.eq_false_iff.2 fun hdot => h.2.1 (octets_injective ?_)
  rw [← percentDecode_encode special, percentDecode_of_isDoubleDot hdot]

/-- Nothing behind the colon of a plain segment is dropped. -/
theorem Plain.splitDrive? (h : Plain s) : splitDrive? s = none := by
  unfold Path.splitDrive?
  split
  · next c d rest _ =>
    have hbehind : ((s.dropWhile (· != ':')).drop 1).head?.any isDropped = false := by
      cases hhead : ((s.dropWhile (· != ':')).drop 1).head? with
      | none => rfl
      | some e =>
        have hmem := List.mem_of_mem_drop (List.mem_of_mem_head? hhead)
        exact h.2.2 e (List.dropWhile_subset _ hmem)
    refine if_neg ?_
    rw [hbehind, Bool.and_false]
    exact Bool.false_ne_true
  · rfl

end Plain

/-! ## §4 One more segment -/

/-- What the next segment is put behind: the root gives it its own place. -/
def stem (p : Path) : Path := if isRoot p then [] else p

/-- A letter and a bar, which at the front of a file path is written with a colon. -/
def IsBarDrive (s : List Char) : Prop := ∃ c : Char, c.isAlpha = true ∧ s = [c, '|']

section Append

variable {file special : Bool} {p : Path} {s : List Char}

/-- A segment that is none of the dots is pushed in its escaped form, unless a drive is split off
it. -/
theorem appendSegment_cases (file special : Bool) (p : Path) (hdots : ¬(s = ['.'] ∨ s = ['.', '.'])) :
    appendSegment file special p s
        = (Trail.push file true ⟨stem p, false⟩ (encode special (kept s))).path
      ∨ ∃ q more, splitDrive? s = some (q, more)
          ∧ appendSegment file special p s = q ++ [encode special more] := by
  unfold stem
  rw [appendSegment, if_neg (by simpa using hdots)]
  by_cases hfront : (file && (if isRoot p then [] else p).isEmpty) = true
  · dsimp only
    rw [if_pos hfront]
    cases hsplit : splitDrive? s with
    | none => exact .inl rfl
    | some d => exact .inr ⟨d.1, d.2, rfl, rfl⟩
  · dsimp only
    rw [if_neg hfront]
    exact .inl rfl

theorem push_eq (h : Plain s) (t : Trail) :
    (t.push file true (encode special s)).path
      = if file && t.path.isEmpty && isDrive (encode special s)
        then [(encode special s).take 1 ++ [':']] else t.path ++ [encode special s] := by
  rw [Trail.push, if_neg (by simp [h.isDoubleDot]), if_neg (by simp [h.isSingleDot])]
  split <;> rfl

theorem appendSegment_plain (h : Plain s) :
    appendSegment file special p s
      = if file && (stem p).isEmpty && isDrive (encode special s)
        then [(encode special s).take 1 ++ [':']] else stem p ++ [encode special s] := by
  rcases appendSegment_cases file special p (not_or.2 ⟨h.1, h.2.1⟩) with hpush | ⟨q, more, hsplit, -⟩
  · rw [hpush, h.kept]
    exact push_eq h _
  · rw [h.splitDrive?] at hsplit
    cases hsplit

theorem isDrive_iff {e : List Char} :
    isDrive e = true ↔ ∃ c d : Char, e = [c, d] ∧ c.isAlpha = true ∧ (d = ':' ∨ d = '|') := by
  constructor
  · intro h
    unfold isDrive at h
    split at h
    · next c d =>
      simp only [Bool.and_eq_true, Bool.or_eq_true, beq_iff_eq] at h
      exact ⟨c, d, rfl, h⟩
    · cases h
  · rintro ⟨c, d, rfl, hc, hd⟩
    simpa [isDrive, hc] using hd

theorem percentDecode_pair {c : Char} (hc : c.isAlpha = true) {d : Char} (hd : d ≠ '%') :
    percentDecode [c, d] = octets [c, d] := by
  have hplain : c ≠ '%' := by
    rintro rfl
    cases hc
  rw [percentDecode_cons hplain, percentDecode_cons hd]
  rfl

/-- **A plain segment arrives**, unless it is a drive that is written differently. -/
theorem decoded_appendSegment (h : Plain s)
    (hdrive : file = true → stem p = [] → ¬IsBarDrive s) :
    (appendSegment file special p s).map percentDecode
      = (stem p).map percentDecode ++ [octets s] := by
  rw [appendSegment_plain h]
  split
  · next hdriven =>
    simp only [Bool.and_eq_true, List.isEmpty_iff] at hdriven
    obtain ⟨⟨hfile, hstem⟩, hd⟩ := hdriven
    obtain ⟨c, d, hcode, hc, rfl | rfl⟩ := isDrive_iff.1 hd
    · have hsame : (encode special s).take 1 ++ [':'] = encode special s := by rw [hcode]; rfl
      rw [hsame, hstem, ← percentDecode_encode special s]
      rfl
    · refine absurd ⟨c, hc, octets_injective ?_⟩ (hdrive hfile hstem)
      rw [← percentDecode_encode special, hcode, percentDecode_pair hc (by decide)]
  · rw [List.map_append, List.map_singleton, percentDecode_encode]

theorem length_appendSegment_le (file special : Bool) (p : Path) (h : Plain s) :
    (appendSegment file special p s).length ≤ (stem p).length + 1 := by
  rw [appendSegment_plain h]
  split
  · exact Nat.le_add_left _ _
  · exact Nat.le_of_eq List.length_append

theorem toNat_lt_of_isAlpha {c : Char} (h : c.isAlpha = true) : c.toNat < 128 := by
  have halpha : c.isAlpha
      = (decide (65 ≤ c.val ∧ c.val ≤ 90) || 97 ≤ c.val && c.val ≤ 122) := rfl
  simp only [halpha, Bool.or_eq_true, Bool.and_eq_true, decide_eq_true_eq] at h
  rcases h with ⟨-, h⟩ | ⟨-, h⟩
  · exact Nat.lt_of_le_of_lt (UInt32.le_iff_toNat_le.1 h) (by decide)
  · exact Nat.lt_of_le_of_lt (UInt32.le_iff_toNat_le.1 h) (by decide)

/-- Letters are written as they are. -/
theorem encode_alpha (special : Bool) {c : Char} (hc : c.isAlpha = true) (s : List Char) :
    encode special (c :: s) = c :: encode special s := by
  have hall : ∀ special : Bool, ∀ n : Fin 128, (Char.ofNat n).isAlpha = true →
      percentEncodeChar (inSegmentSet special) (Char.ofNat n) = [Char.ofNat n] := by
    decide
  have hself := hall special ⟨c.toNat, toNat_lt_of_isAlpha hc⟩
  rw [Char.ofNat_toNat] at hself
  rw [encode, percentEncode, List.flatMap_cons, hself hc]
  rfl

/-- A bar drive is written with a colon. -/
theorem appendSegment_barDrive (hp : stem p = []) {c : Char} (hc : c.isAlpha = true)
    (hplain : Plain [c, '|']) : appendSegment true special p [c, '|'] = [[c, ':']] := by
  have hcode : encode special [c, '|'] = [c, '|'] := by
    rw [encode_alpha special hc]
    cases special <;> rfl
  have hdrive : isDrive [c, '|'] = true := isDrive_iff.2 ⟨c, '|', rfl, hc, .inr rfl⟩
  rw [appendSegment_plain hplain, hp, hcode, hdrive]
  rfl

end Append

end Path

end LiveConfig.Url
