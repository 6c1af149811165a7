import LiveConfig.Proofs.Url.Path
import LiveConfig.Url.Address

/-!
# Addresses that are built

What the path of an address says when it is split at its slashes. A base is read and its path goes
on with segments; no segment holds a slash, neither one that was read nor one that was appended, so
splitting gives back what was put together.

## Main statements

- `segments_eq`: splitting the path of an address gives its segments.
- `sound_of_read?`: no segment of an address that is read holds a slash.
- `said_onward_iff`: when the path of an address says just what it should.
-/

namespace LiveConfig.Url

open LiveConfig.Url.Path

/-! ## §1 Splitting a path -/

/-- No segment holds a slash. -/
def Slashless (p : Path) : Prop := ∀ s ∈ p, '/' ∉ s

/-- The text of a path. -/
def pathText (u : Url) : List Char :=
  match u.course with
  | .path _ p => p.text
  | .rootless t => t

/-- **The segments of an address**: what stands between the slashes of its path, behind the first
one. -/
def segments (u : Url) : List (List Char) := (u.pathText.splitOn '/').drop 1

theorem splitOn_append_text {p : Path} (h : Slashless p) {s : List Char} (hs : '/' ∉ s) :
    (s ++ Path.text p).splitOn '/' = s :: p := by
  induction p generalizing s with
  | nil => rw [Path.text, List.flatMap_nil, List.append_nil, List.splitOn_eq_singleton hs]
  | cons t p ih =>
    obtain ⟨ht, hp⟩ := List.forall_mem_cons.1 h
    have htext : Path.text (t :: p) = '/' :: (t ++ Path.text p) := rfl
    rw [htext, List.splitOn_append_cons_self_of_not_mem hs, ih hp ht]

theorem segments_eq {u : Url} {setOff : Bool} {p : Path} (hp : u.course = .path setOff p)
    (h : Slashless p) : u.segments = p := by
  have hsplit := splitOn_append_text h (s := []) (by simp)
  rw [List.nil_append] at hsplit
  rw [segments, pathText, hp, hsplit]
  rfl

/-! ## §2 Segments without slashes -/

theorem slash_notMem_escapeByte (b : UInt8) : '/' ∉ escapeByte b := by
  have hdigits : ∀ n : Fin 16, upperDigit n.1 ≠ '/' := by decide
  have hb : b.toNat < 256 := b.toNat_lt
  have hhigh := hdigits ⟨b.toNat / 16, by omega⟩
  have hlow := hdigits ⟨b.toNat % 16, by omega⟩
  simp only [escapeByte, List.mem_cons, List.not_mem_nil, or_false, not_or]
  exact ⟨by decide, hhigh.symm, hlow.symm⟩

theorem slash_notMem_percentEncode {escaped : Char → Bool} {s : List Char}
    (h : escaped '/' = true ∨ '/' ∉ s) : '/' ∉ percentEncode escaped s := by
  intro hmem
  obtain ⟨c, hc, hmem⟩ := List.mem_flatMap.1 hmem
  unfold percentEncodeChar at hmem
  split at hmem
  · obtain ⟨b, -, hb⟩ := List.mem_flatMap.1 hmem
    exact slash_notMem_escapeByte b hb
  · next hplain =>
    obtain rfl := List.mem_singleton.1 hmem
    rcases h with hescaped | hs
    · exact hplain (by simp [hescaped])
    · exact hs hc

theorem slash_notMem_kept {s : List Char} (h : '/' ∉ s) : '/' ∉ kept s :=
  fun hmem => h (List.mem_filter.1 hmem).1

theorem slash_notMem_drive {c : Char} (h : c.isAlpha = true) : '/' ∉ [c, ':'] := by
  intro hmem
  simp only [List.mem_cons, List.not_mem_nil, or_false] at hmem
  rcases hmem with rfl | hcolon
  · cases h
  · exact absurd hcolon (by decide)

theorem Slashless.append {p q : Path} (hp : Slashless p) (hq : Slashless q) : Slashless (p ++ q) :=
  fun s hs => (List.mem_append.1 hs).elim (hp s) (hq s)

theorem slashless_singleton {s : List Char} (h : '/' ∉ s) : Slashless [s] :=
  fun _ ht => (List.mem_singleton.1 ht).symm ▸ h

theorem Slashless.push {t : Trail} (ht : Slashless t.path) (file last : Bool) {s : List Char}
    (hs : '/' ∉ s) : Slashless (t.push file last s).path := by
  have hclose {q : Path} (hq : Slashless q) : Slashless (if last then q ++ [[]] else q) := by
    split
    · exact hq.append (slashless_singleton (by simp))
    · exact hq
  have hparent : Slashless (parent t.path) := by
    unfold parent
    split
    · exact ht
    · exact fun s hs => ht s (List.dropLast_subset _ hs)
  simp only [Trail.push]
  split
  · exact hclose hparent
  split
  · exact hclose ht
  split
  · next hdriven =>
    simp only [Bool.and_eq_true] at hdriven
    obtain ⟨c, d, rfl, hc, -⟩ := isDrive_iff.1 hdriven.2
    exact slashless_singleton (slash_notMem_drive hc)
  · exact ht.append (slashless_singleton hs)

/-- A drive that is split off holds no slash, and what follows it goes on with what it had. -/
theorem slashless_splitDrive? {s more : List Char} {q : Path} (h : splitDrive? s = some (q, more)) :
    Slashless q ∧ ∀ c ∈ more, c ∈ s := by
  obtain ⟨c, hc, rfl, hkept⟩ := eq_of_splitDrive? h
  refine ⟨slashless_singleton (slash_notMem_drive hc), fun d hd => ?_⟩
  have hmem : d ∈ kept s := by
    rw [hkept]
    exact List.mem_cons_of_mem _ (List.mem_cons_of_mem _ hd)
  exact (List.mem_filter.1 hmem).1

theorem Slashless.pushRaw {t : Trail} (ht : Slashless t.path) (file last : Bool) {s : List Char}
    (hs : '/' ∉ s) : Slashless (t.pushRaw file last s).path := by
  unfold Trail.pushRaw
  split
  · next q more hsplit =>
    have hsome : splitDrive? s = some (q, more) := by
      split at hsplit
      · exact hsplit
      · cases hsplit
    obtain ⟨hq, hmore⟩ := slashless_splitDrive? hsome
    exact hq.append (slashless_singleton
      (slash_notMem_percentEncode (.inr fun hmem => hs (hmore _ hmem))))
  · exact ht.push file last (slash_notMem_percentEncode (.inr (slash_notMem_kept hs)))

theorem slashless_ofRaw {file : Bool} {t : Trail} (ht : Slashless t.path) {ss : List (List Char)}
    (hs : ∀ s ∈ ss, '/' ∉ s) : Slashless (ofRaw file t ss).path := by
  fun_induction ofRaw file t ss with
  | case1 => exact ht
  | case2 t last => exact ht.pushRaw file true (hs last List.mem_cons_self)
  | case3 t s rest _ ih =>
    obtain ⟨hfirst, hrest⟩ := List.forall_mem_cons.1 hs
    exact ih (ht.pushRaw file false hfirst) hrest

theorem notMem_of_mem_splitOn {x : Char} {l s : List Char} (h : s ∈ l.splitOn x) : x ∉ s := by
  induction l generalizing s with
  | nil =>
    rw [List.splitOn_nil, List.mem_singleton] at h
    rw [h]
    exact List.not_mem_nil
  | cons c l ih =>
    rw [List.splitOn_cons_eq_if_modifyHead] at h
    split at h
    · rcases List.mem_cons.1 h with rfl | hs
      · exact List.not_mem_nil
      · exact ih hs
    · next hc =>
      have hne : x ≠ c := fun he => hc (by simp [he])
      -- The first piece is one character longer than that of the rest.
      obtain ⟨a, as, hsplit⟩ := List.exists_cons_of_ne_nil (List.splitOn_ne_nil x l)
      rw [hsplit] at h ih
      rcases List.mem_cons.1 h with rfl | hs
      · exact fun hmem => (List.mem_cons.1 hmem).elim hne (ih List.mem_cons_self)
      · exact ih (List.mem_cons_of_mem _ hs)

theorem slashless_readPath (scheme : String) (whole : Bool) (s : List Char) :
    Slashless (readPath scheme whole s).1.path := by
  unfold readPath
  dsimp only
  split
  · split
    · exact slashless_singleton (by simp)
    · exact fun s hs => absurd hs List.not_mem_nil
  · exact slashless_ofRaw (fun s hs => absurd hs List.not_mem_nil) fun s hs =>
      notMem_of_mem_splitOn hs

theorem Slashless.dropEmptyFront {p : Path} (hp : Slashless p) : Slashless (dropEmptyFront p) := by
  unfold Path.dropEmptyFront
  split
  · exact slashless_singleton (by simp)
  · exact fun s hs => hp s (List.dropWhile_subset _ hs)

/-! ## §3 Addresses that are read -/

/-- The segments of a path hold no slash. -/
def Course.Sound : Course → Prop
  | .path _ p => Slashless p
  | .rootless _ => True

theorem exists_ok_of_bind {ε α β : Type} {x : Except ε α} {f : α → Except ε β} {b : β}
    (h : x >>= f = .ok b) : ∃ a, x = .ok a ∧ f a = .ok b := by
  cases x with
  | error e => cases h
  | ok a => exact ⟨a, rfl, h⟩

theorem sound_of_readAfterSlashes? {scheme : String} {s : List Char} {u : Url}
    (h : readAfterSlashes? scheme s = .ok u) : u.course.Sound := by
  unfold readAfterSlashes? at h
  obtain ⟨x, -, hu⟩ := exists_ok_of_bind h
  cases hu
  exact slashless_readPath _ _ _

theorem sound_of_readFile? {s : List Char} {u : Url} (h : readFile? s = .ok u) :
    u.course.Sound := by
  unfold readFile? at h
  obtain ⟨x, -, hu⟩ := exists_ok_of_bind h
  cases hu
  exact (slashless_readPath _ _ _).dropEmptyFront

theorem sound_of_readOther? {scheme : String} {s : List Char} {u : Url}
    (h : readOther? scheme s = .ok u) : u.course.Sound := by
  unfold readOther? at h
  split at h
  · exact sound_of_readAfterSlashes? h
  · next rest _ =>
    cases h
    exact slashless_readPath scheme false ('/' :: rest)
  · cases h
    trivial

/-- **What is read is sound.** -/
theorem sound_of_read? {base : String} {u : Url} (h : read? base = .ok u) : u.course.Sound := by
  unfold read? at h
  split at h
  · cases h
  · exact sound_of_readFile? h
  · split at h
    · exact sound_of_readAfterSlashes? h
    · exact sound_of_readOther? h

/-! ## §4 Addresses that are built -/

theorem slash_notMem_encode (special : Bool) (s : List Char) : '/' ∉ encode special s :=
  slash_notMem_percentEncode (.inl (by cases special <;> rfl))

theorem Slashless.appendSegment {p : Path} (hp : Slashless p) (file special : Bool)
    (s : List Char) : Slashless (appendSegment file special p s) := by
  by_cases hdots : s = ['.'] ∨ s = ['.', '.']
  · rwa [Path.appendSegment, if_pos (by simpa using hdots)]
  · rcases appendSegment_cases file special p hdots with hpush | ⟨q, more, hsplit, hdrive⟩
    · have hstem : Slashless (stem p) := by
        unfold stem
        split
        · exact fun s hs => absurd hs List.not_mem_nil
        · exact hp
      rw [hpush]
      exact Slashless.push hstem file true (slash_notMem_encode special _)
    · rw [hdrive]
      exact (slashless_splitDrive? hsplit).1.append
        (slashless_singleton (slash_notMem_encode special _))

theorem Slashless.appendAll {p : Path} (hp : Slashless p) (file special : Bool)
    (ss : List (List Char)) : Slashless (appendAll file special p ss) := by
  have hfold {q : Path} (hq : Slashless q) :
      Slashless (ss.foldl (Path.appendSegment file special) q) := by
    induction ss generalizing q with
    | nil => exact hq
    | cons s ss ih => exact ih (hq.appendSegment file special s)
  refine hfold ?_
  unfold dropEmptyLast
  split
  · exact fun s hs => hp s (List.dropLast_subset _ hs)
  · exact hp

/-- What is said by the path of an address, segment by segment. -/
def said (u : Url) : List (List UInt8) := u.segments.map percentDecode

/-- The path with which a base goes on. -/
def onward (u₀ : Url) (p : Path) (ss : List String) : Path :=
  appendAll (u₀.scheme == "file") (isSpecial u₀.scheme) p (ss.map String.toList)

section Built

variable {base : String} {u₀ : Url} {setOff : Bool} {p : Path} {ss : List String}

/-- **The address of segments under a base** that is read with a path. -/
theorem build?_eq (hbase : read? base = .ok u₀) (hp : u₀.course = .path setOff p)
    (ss : List String) :
    build? base ss = .ok { u₀ with course := .path setOff (u₀.onward p ss) } := by
  rw [build?, hbase]
  simp only [appendSegments?, hp]
  rfl

/-- A base goes on without slashes in its segments. -/
theorem segments_onward (hbase : read? base = .ok u₀) (hp : u₀.course = .path setOff p) {u : Url}
    (hu : u.course = .path setOff (u₀.onward p ss)) : u.segments = u₀.onward p ss := by
  have hsound := sound_of_read? hbase
  rw [hp] at hsound
  exact segments_eq hu (Slashless.appendAll hsound _ _ _)

/-- **When the path of an address says just what it should**: the segments of the base, but for one
empty segment at its end, and then the given ones. -/
theorem said_onward_iff (hbase : read? base = .ok u₀) (hp : u₀.course = .path setOff p) {u : Url}
    (hu : u.course = .path setOff (u₀.onward p ss)) :
    u.said = (withoutSlash u₀.segments).map percentDecode ++ ss.map (fun s => octets s.toList)
      ↔ Fits (u₀.scheme == "file") u₀.segments (ss.map String.toList) := by
  have hsound := sound_of_read? hbase
  rw [hp] at hsound
  have hmap : ss.map (fun s => octets s.toList) = (ss.map String.toList).map octets := by
    rw [List.map_map]
    rfl
  rw [said, segments_onward hbase hp hu, segments_eq hp hsound, hmap]
  exact decoded_appendAll_iff

end Built

end LiveConfig.Url
