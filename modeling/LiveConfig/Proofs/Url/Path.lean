import LiveConfig.Proofs.Url.Segment
import Mathlib.Algebra.Ring.Nat
import Mathlib.Data.List.Flatten

/-!
# Paths that go on

When a path goes on with exactly the segments that are appended to it.

## Counting

What a path says is measured in bytes. No segment adds more bytes than it has, and one that does not
arrive as it is adds less, so whatever comes behind it cannot make up for it.

## Main statements

- `weight_foldl_lt`: a segment that is not plain is missing in the end.
- `decoded_foldl`: plain segments arrive, each behind the one before.
- `decoded_appendAll_iff`: when a path goes on with exactly the segments that are appended.
-/

namespace LiveConfig.Url

namespace Path

/-! ## §1 What a path says -/

section Weight

variable {file special : Bool} {p : Path} {s : List Char}

/-- How many bytes a path says. -/
def weight (p : Path) : Nat := (p.map fun s => (percentDecode s).length).sum

theorem weight_append (p q : Path) : weight (p ++ q) = weight p + weight q := by
  simp [weight]

theorem weight_singleton (s : List Char) : weight [s] = (percentDecode s).length := by
  simp [weight]

theorem weight_stem (p : Path) : weight (stem p) = weight p := by
  unfold stem
  split
  · next h =>
    have hroot : p = [[]] := by simpa [isRoot] using h
    rw [hroot]
    rfl
  · rfl

theorem weight_dropLast_le (p : Path) : weight p.dropLast ≤ weight p := by
  rcases List.eq_nil_or_concat p with rfl | ⟨q, s, rfl⟩
  · exact Nat.le_refl _
  · rw [List.concat_eq_append, List.dropLast_concat, weight_append]
    exact Nat.le_add_right _ _

/-- A segment as it is written adds at most what it says. -/
theorem weight_push_le (file last : Bool) (t : Trail) (e : List Char) :
    weight (t.push file last e).path ≤ weight t.path + (percentDecode e).length := by
  have hclose (q : Path) : weight (if last then q ++ [[]] else q) = weight q := by
    split
    · exact weight_append q [[]]
    · rfl
  have hparent : weight (parent t.path) ≤ weight t.path := by
    unfold parent
    split
    · exact Nat.le_refl _
    · exact weight_dropLast_le _
  simp only [Trail.push]
  split
  · rw [hclose]
    exact Nat.le_trans hparent (Nat.le_add_right _ _)
  split
  · rw [hclose]
    exact Nat.le_add_right _ _
  split
  · next hdriven =>
    simp only [Bool.and_eq_true] at hdriven
    obtain ⟨c, d, rfl, hc, hd⟩ := isDrive_iff.1 hdriven.2
    have hlength : (percentDecode [c, ':']).length = (percentDecode [c, d]).length := by
      rcases hd with rfl | rfl
      · rfl
      · rw [percentDecode_pair hc (by decide), percentDecode_pair hc (by decide),
          octets_cons c [':'], octets_cons c ['|'], List.length_append, List.length_append]
        rfl
    rw [← hlength]
    exact Nat.le_trans (Nat.le_of_eq (weight_singleton _)) (Nat.le_add_left _ _)
  · exact Nat.le_of_eq (weight_append _ _)

theorem eq_of_splitDrive? {q : Path} {more : List Char} (h : splitDrive? s = some (q, more)) :
    ∃ c : Char, c.isAlpha = true ∧ q = [[c, ':']] ∧ kept s = c :: ':' :: more := by
  unfold splitDrive? at h
  split at h
  · next c d rest hkept =>
    dsimp only at h
    split at h
    · next hdrive =>
      simp only [Bool.and_eq_true] at hdrive
      cases h
      exact ⟨c, hdrive.1, rfl, hkept⟩
    · cases h
  · cases h

/-- A segment adds at most what is kept of it. -/
theorem weight_appendSegment_le (file special : Bool) (p : Path) (s : List Char) :
    weight (appendSegment file special p s) ≤ weight p + (octets (kept s)).length := by
  by_cases hdots : s = ['.'] ∨ s = ['.', '.']
  · rw [appendSegment, if_pos (by simpa using hdots)]
    exact Nat.le_add_right _ _
  · rcases appendSegment_cases file special p hdots with hpush | ⟨q, more, hsplit, hdrive⟩
    · have hadds := weight_push_le file true ⟨stem p, false⟩ (encode special (kept s))
      rwa [← hpush, percentDecode_encode, weight_stem] at hadds
    · obtain ⟨c, hc, rfl, hkept⟩ := eq_of_splitDrive? hsplit
      have hall : octets (kept s) = octets [c, ':'] ++ octets more := by
        rw [hkept, ← octets_append]
        rfl
      rw [hdrive, weight_append, weight_singleton, weight_singleton, percentDecode_encode,
        percentDecode_pair hc (by decide), hall, List.length_append]
      exact Nat.le_add_left _ _

theorem length_octets_kept_le (s : List Char) : (octets (kept s)).length ≤ (octets s).length :=
  (List.filter_sublist.flatMap String.utf8EncodeChar).length_le

theorem length_octets_kept_lt {c : Char} (hmem : c ∈ s) (hc : isDropped c = true) :
    (octets (kept s)).length < (octets s).length := by
  obtain ⟨a, b, rfl⟩ := List.append_of_mem hmem
  have hkept : kept (a ++ c :: b) = kept a ++ kept b := by simp [kept, hc]
  have ha := length_octets_kept_le a
  have hb := length_octets_kept_le b
  have hpos : 0 < (String.utf8EncodeChar c).length :=
    List.length_pos_iff.2 String.utf8EncodeChar_ne_nil
  rw [hkept, octets_append, octets_append, octets_cons]
  simp only [List.length_append]
  omega

/-- **A segment that is not plain does not arrive as it is.** -/
theorem weight_appendSegment_lt (file special : Bool) (p : Path) (h : ¬Plain s) :
    weight (appendSegment file special p s) < weight p + (octets s).length := by
  by_cases hdots : s = ['.'] ∨ s = ['.', '.']
  · rw [appendSegment, if_pos (by simpa using hdots)]
    have hne : s ≠ [] := by rcases hdots with rfl | rfl <;> exact List.cons_ne_nil _ _
    exact Nat.lt_add_of_pos_right (length_octets_pos hne)
  · obtain ⟨hdot, hdots⟩ := not_or.1 hdots
    obtain ⟨c, hmem, hc⟩ : ∃ c ∈ s, isDropped c = true := by
      simpa [Plain, hdot, hdots] using h
    have hle := weight_appendSegment_le file special p s
    have hlt := length_octets_kept_lt hmem hc
    omega

end Weight

/-! ## §2 Plain segments and others -/

section Fold

variable {file special : Bool} {p : Path} {ss : List (List Char)}

theorem weight_foldl_le (file special : Bool) (p : Path) (ss : List (List Char)) :
    weight (ss.foldl (appendSegment file special) p)
      ≤ weight p + (ss.map fun s => (octets s).length).sum := by
  induction ss generalizing p with
  | nil => exact Nat.le_refl _
  | cons s ss ih =>
    have hfirst := weight_appendSegment_le file special p s
    have hkept := length_octets_kept_le s
    have hrest := ih (appendSegment file special p s)
    rw [List.foldl_cons, List.map_cons, List.sum_cons]
    omega

/-- **What is missing stays missing.** -/
theorem weight_foldl_lt (file special : Bool) (p : Path) {s : List Char} (hmem : s ∈ ss)
    (h : ¬Plain s) :
    weight (ss.foldl (appendSegment file special) p)
      < weight p + (ss.map fun s => (octets s).length).sum := by
  induction ss generalizing p with
  | nil => cases hmem
  | cons t ss ih =>
    rw [List.foldl_cons, List.map_cons, List.sum_cons]
    have hrest := weight_foldl_le file special (appendSegment file special p t) ss
    rcases List.mem_cons.1 hmem with rfl | hmem
    · have hfirst := weight_appendSegment_lt file special p h
      omega
    · have hfirst := weight_appendSegment_le file special p t
      have hkept := length_octets_kept_le t
      have hlost := ih (appendSegment file special p t) hmem
      omega

theorem stem_of_ne_root (h : p ≠ [[]]) : stem p = p :=
  if_neg (by simpa [isRoot] using h)

/-- Behind a path with a segment all plain segments arrive. -/
theorem decoded_foldl (hp : stem p = p) (hne : p ≠ []) (h : ∀ s ∈ ss, Plain s) :
    (ss.foldl (appendSegment file special) p).map percentDecode
      = p.map percentDecode ++ ss.map octets := by
  induction ss generalizing p with
  | nil => simp
  | cons s ss ih =>
    obtain ⟨hs, hrest⟩ := List.forall_mem_cons.1 h
    have hstep : (appendSegment file special p s).map percentDecode
        = p.map percentDecode ++ [octets s] := by
      rw [decoded_appendSegment hs (by rw [hp]; exact fun _ hnil => absurd hnil hne), hp]
    have hlength : 2 ≤ (appendSegment file special p s).length := by
      have hboth := congrArg List.length hstep
      have hpos := List.length_pos_iff.2 hne
      simp only [List.length_map, List.length_append, List.length_singleton] at hboth
      omega
    have hroot : appendSegment file special p s ≠ [[]] := fun h => by
      rw [h] at hlength
      exact absurd hlength (by decide)
    rw [List.foldl_cons, ih (stem_of_ne_root hroot) (List.ne_nil_of_length_pos (by omega)) hrest,
      hstep, List.map_cons, List.append_assoc, List.singleton_append]

theorem length_foldl_le (file special : Bool) (p : Path) (h : ∀ s ∈ ss, Plain s) :
    (ss.foldl (appendSegment file special) p).length ≤ p.length + ss.length := by
  induction ss generalizing p with
  | nil => exact Nat.le_refl _
  | cons s ss ih =>
    obtain ⟨hs, hrest⟩ := List.forall_mem_cons.1 h
    have hstem : (stem p).length ≤ p.length := by
      unfold stem
      split
      · exact Nat.zero_le _
      · exact Nat.le_refl _
    have hfirst := length_appendSegment_le file special p hs
    have hall := ih (appendSegment file special p s) hrest
    rw [List.foldl_cons, List.length_cons]
    omega

/-- Appended to the root, segments are no more than there are. -/
theorem length_foldl_root_le (file special : Bool) {s : List Char} (hp : stem p = [])
    (h : ∀ t ∈ s :: ss, Plain t) :
    ((s :: ss).foldl (appendSegment file special) p).length ≤ ss.length + 1 := by
  obtain ⟨hs, hrest⟩ := List.forall_mem_cons.1 h
  have hfirst := length_appendSegment_le file special p hs
  have hall := length_foldl_le file special (appendSegment file special p s) hrest
  rw [hp, List.length_nil] at hfirst
  rw [List.foldl_cons]
  omega

end Fold

/-! ## §3 Segments behind a path -/

/-- A path without one empty segment at its end. -/
def withoutSlash (p : Path) : Path :=
  match p.getLast? with
  | some [] => p.dropLast
  | _ => p

theorem weight_withoutSlash (p : Path) : weight (withoutSlash p) = weight p := by
  rcases List.eq_nil_or_concat p with rfl | ⟨q, s, rfl⟩
  · rfl
  · rw [List.concat_eq_append, withoutSlash, List.getLast?_concat]
    cases s with
    | nil => rw [List.dropLast_concat, weight_append]; rfl
    | cons c s => rfl

theorem dropEmptyLast_eq {p : Path} (h : p ≠ [[]]) : dropEmptyLast p = withoutSlash p := by
  rcases List.eq_nil_or_concat p with rfl | ⟨q, s, rfl⟩
  · rfl
  · rw [List.concat_eq_append, dropEmptyLast, withoutSlash, List.getLast?_concat]
    cases s with
    | nil =>
      have hq : q ≠ [] := by
        rintro rfl
        exact h rfl
      have hpos := List.length_pos_iff.2 hq
      rw [if_pos (by simpa using hpos)]
    | cons c s => rw [if_neg (by simp)]

theorem weight_dropEmptyLast (p : Path) : weight (dropEmptyLast p) = weight p := by
  by_cases h : p = [[]]
  · rw [h]
    rfl
  · rw [dropEmptyLast_eq h, weight_withoutSlash]

/-- **When segments arrive.** All of them are plain. Where the path has no segments so far but the
one behind its slash, the first is no bar drive of a file, and is empty only if it is the last; and
a path that has nothing but one more empty segment does not keep it. -/
def Fits (file : Bool) (p : Path) : List (List Char) → Prop
  | [] => p ≠ [[]]
  | s :: rest =>
    (∀ t ∈ s :: rest, Plain t) ∧ withoutSlash p ≠ [[]]
      ∧ (withoutSlash p = [] → (s = [] → rest = []) ∧ (file = true → ¬IsBarDrive s))

/-- What a path says, counted. -/
theorem weight_eq_of_decoded {q p : Path} {ss : List (List Char)}
    (h : q.map percentDecode = p.map percentDecode ++ ss.map octets) :
    weight q = weight p + (ss.map fun s => (octets s).length).sum := by
  have hsums := congrArg (fun l => (l.map List.length).sum) h
  simpa [weight, Function.comp_def] using hsums

section All

variable {file special : Bool} {p : Path} {s : List Char} {rest : List (List Char)}

/-- **Plain segments at the root.** The first takes the place of the empty segment there, and so
does the next one if the first is empty. -/
theorem decoded_foldl_root_iff (hp : stem p = []) (h : ∀ t ∈ s :: rest, Plain t) :
    ((s :: rest).foldl (appendSegment file special) p).map percentDecode = (s :: rest).map octets
      ↔ (s = [] → rest = []) ∧ (file = true → ¬IsBarDrive s) := by
  obtain ⟨hs, hrest⟩ := List.forall_mem_cons.1 h
  by_cases hbar : file = true ∧ IsBarDrive s
  · -- A drive is not said with the bar that was given.
    refine iff_of_false (fun heq => ?_) fun hfits => hfits.2 hbar.1 hbar.2
    obtain ⟨rfl, c, hc, rfl⟩ := hbar
    rw [List.foldl_cons, appendSegment_barDrive hp hc hs,
      decoded_foldl rfl (List.cons_ne_nil _ _) hrest, List.map_singleton,
      percentDecode_pair hc (by decide)] at heq
    have hsame := octets_injective (List.cons.inj heq).1
    simp at hsame
  · have hdrive : file = true → ¬IsBarDrive s := fun hf hb => hbar ⟨hf, hb⟩
    have hfirst : (appendSegment file special p s).map percentDecode = [octets s] := by
      rw [decoded_appendSegment hs fun hf _ => hdrive hf, hp]
      rfl
    obtain ⟨x, hq, hx⟩ := List.map_eq_singleton_iff.1 hfirst
    cases s with
    | nil =>
      cases rest with
      | nil => exact iff_of_true hfirst ⟨fun _ => rfl, hdrive⟩
      | cons t rest =>
        refine iff_of_false (fun heq => ?_) fun hfits => List.cons_ne_nil _ _ (hfits.1 rfl)
        -- Nothing but the root is there when the next segment comes.
        have hroot : stem (appendSegment file special p []) = [] := by
          rw [hq, percentDecode_eq_nil_iff.1 hx]
          rfl
        have hshort := length_foldl_root_le file special hroot hrest
        have hlength := congrArg List.length heq
        rw [List.foldl_cons] at hlength
        simp only [List.length_map, List.length_cons] at hlength hshort
        omega
    | cons c s =>
      refine iff_of_true ?_ ⟨fun hnil => absurd hnil (List.cons_ne_nil _ _), hdrive⟩
      have hx : x ≠ [] := by
        rintro rfl
        exact List.cons_ne_nil _ _ (octets_injective (t := []) hx.symm)
      have hstem : stem [x] = [x] := stem_of_ne_root (by simpa using hx)
      rw [List.foldl_cons, hq, decoded_foldl hstem (List.cons_ne_nil _ _) hrest, ← hq, hfirst]
      rfl

/-- **When a path goes on with exactly the segments that are appended**, and with nothing else
before them than it had, but for one empty segment at its end. -/
theorem decoded_appendAll_iff {ss : List (List Char)} :
    (appendAll file special p ss).map percentDecode
        = (withoutSlash p).map percentDecode ++ ss.map octets
      ↔ Fits file p ss := by
  cases ss with
  | nil =>
    rw [List.map_nil, List.append_nil]
    by_cases hroot : p = [[]]
    · subst hroot
      exact iff_of_false (fun h => by cases h) fun h => h rfl
    · exact iff_of_true (by rw [appendAll, List.foldl_nil, dropEmptyLast_eq hroot]) hroot
  | cons s rest =>
    by_cases hplain : ∀ t ∈ s :: rest, Plain t
    case neg =>
      refine iff_of_false (fun h => ?_) fun h => hplain h.1
      obtain ⟨t, hodd⟩ := Classical.not_forall.1 hplain
      obtain ⟨hmem, hodd⟩ := Classical.not_imp.1 hodd
      have hsame := weight_eq_of_decoded h
      have hlost := weight_foldl_lt file special (dropEmptyLast p) hmem hodd
      rw [weight_dropEmptyLast, ← weight_withoutSlash p] at hlost
      exact absurd hsame (Nat.ne_of_lt hlost)
    case pos =>
      rw [appendAll]
      by_cases hnil : withoutSlash p = []
      · have hstem : stem (dropEmptyLast p) = [] := by
          by_cases hroot : p = [[]]
          · rw [hroot]
            rfl
          · rw [dropEmptyLast_eq hroot, hnil]
            rfl
        have hone : withoutSlash p ≠ [[]] := by
          rw [hnil]
          exact (List.cons_ne_nil _ _).symm
        rw [hnil, List.map_nil, List.nil_append, decoded_foldl_root_iff hstem hplain]
        exact ⟨fun h => ⟨hplain, hone, fun _ => h⟩, fun h => h.2.2 hnil⟩
      · have hroot : p ≠ [[]] := by
          rintro rfl
          exact hnil rfl
        rw [dropEmptyLast_eq hroot]
        by_cases hone : withoutSlash p = [[]]
        · -- What is left looks like the root, so its empty segment is lost.
          refine iff_of_false (fun heq => ?_) fun h => h.2.1 hone
          have hstem : stem (withoutSlash p) = [] := by
            rw [hone]
            rfl
          have hshort := length_foldl_root_le file special hstem hplain
          have hlength := congrArg List.length heq
          simp only [List.length_map, List.length_append, hone, List.length_cons,
            List.length_nil] at hlength hshort
          omega
        · exact iff_of_true (decoded_foldl (stem_of_ne_root hone) hnil hplain)
            ⟨hplain, hone, fun h => absurd h hnil⟩

end All

end Path

end LiveConfig.Url
