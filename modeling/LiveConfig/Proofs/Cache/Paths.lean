import LiveConfig.Cache.Steps
import LiveConfig.Proofs.Cache.Saving

/-!
# Where paths lead

A path that ends in a name leads to that name in a directory. Which directory that is, and how the
name begins, depends on what stands before the end alone, so that paths with one beginning and
different ends lead to different places in one directory.

## Main statements

- `Files.route_append`: the names along a path, up to its end.
- `Files.get?_of_above`: what lies above the place that a path leads to.
- `Files.locate_append`: where paths with one beginning lead.
-/

namespace LiveConfig.Files

variable {f : Files} {base dir p q x target : Place} {name path : String}

/-! ## §1 Names -/

theorem parts_append_slash (a b : String) : parts (a ++ "/" ++ b) = parts a ++ parts b := by
  have hsplit : (a ++ "/" ++ b).toList = a.toList ++ '/' :: b.toList := by simp
  rw [parts, hsplit, List.splitOn_append_cons_self, List.map_append]
  rfl

theorem parts_of_no_slash {s : String} (h : '/' ∉ s.toList) : parts s = [s] := by
  simp [parts, List.splitOn_eq_singleton h]

theorem names_append_slash (a b : String) : names (a ++ "/" ++ b) = names a ++ names b := by
  rw [names, parts_append_slash, List.filter_append]
  rfl

/-- An end of a path that cannot be taken for dots: it lies within one name. -/
structure IsEnd (s : String) : Prop where
  no_slash : '/' ∉ s.toList
  long : 2 < s.toList.length

theorem IsEnd.append {s : String} (h : IsEnd s) {r : String} (hr : '/' ∉ r.toList) :
    IsEnd (r ++ s) := by
  constructor
  · simpa using ⟨hr, h.no_slash⟩
  · have := h.long
    simp
    omega

theorem names_of_isEnd {s : String} (h : IsEnd s) : names s = [s] := by
  have hidle : isIdle s = false := by
    have hlong := h.long
    simp only [isIdle, Bool.or_eq_false_iff, beq_eq_false_iff_ne]
    constructor
    · rw [Bool.eq_false_iff]
      intro hempty
      rw [String.isEmpty_iff] at hempty
      subst hempty
      simp at hlong
    · rintro rfl
      simp at hlong
  simp [names, parts_of_no_slash h.no_slash, hidle]

/-- What stands behind the last slash of a path. -/
theorem exists_last (a : String) :
    ∃ r, '/' ∉ r.toList ∧ (a = r ∨ ∃ front, a = front ++ "/" ++ r) := by
  by_cases h : '/' ∈ a.toList
  · obtain ⟨after, before, hsplit, hafter⟩ :=
      List.eq_append_cons_of_mem (List.mem_reverse.2 h)
    have hwhole := congrArg List.reverse hsplit
    simp only [List.reverse_reverse, List.reverse_append, List.reverse_cons] at hwhole
    refine ⟨String.ofList after.reverse, by simpa using hafter, .inr ?_⟩
    refine ⟨String.ofList before.reverse, ?_⟩
    apply String.toList_injective
    simp [hwhole]
  · exact ⟨a, h, .inl rfl⟩

theorem names_append (a : String) :
    ∃ (init : List String) (r : String), ∀ s, IsEnd s → names (a ++ s) = init ++ [r ++ s] := by
  obtain ⟨r, hr, rfl | ⟨front, rfl⟩⟩ := exists_last a
  · refine ⟨[], a, fun s hs => ?_⟩
    exact names_of_isEnd (hs.append hr)
  · refine ⟨names front, r, fun s hs => ?_⟩
    rw [String.append_assoc, names_append_slash, names_of_isEnd (hs.append hr)]

/-- Whether a path stands alone is settled by how it begins. -/
theorem startsWith_slash_append {a b : String} (h : a ≠ "" ∨ '/' ∉ b.toList) :
    (a ++ b).startsWith "/" = a.startsWith "/" := by
  rw [Bool.eq_iff_iff, String.startsWith_string_iff, String.startsWith_string_iff,
    String.toList_append]
  cases hfirst : a.toList with
  | cons first rest => simp
  | nil =>
    have hempty : a = "" := by simpa using hfirst
    have hslash : '/' ∉ b.toList := h.resolve_left (not_not_intro hempty)
    have hno : ¬"/".toList <+: b.toList := by
      intro hstart
      exact hslash (hstart.subset (by simp))
    simpa using hno

/-- The names along a path, up to its end, depend on what stands before the end. -/
theorem route_append (base : Place) (a : String) :
    ∃ (init : List String) (r : String), ∀ s ns, IsEnd s → route base (a ++ s) = .ok ns →
      ns = init ++ [r ++ s] := by
  obtain ⟨front, hfull⟩ : ∃ front, ∀ s, IsEnd s →
      (if (a ++ s).startsWith "/" then a ++ s
        else "/" ++ "/".intercalate base ++ "/" ++ (a ++ s)) = front ++ s := by
    refine ⟨if a.startsWith "/" then a else "/" ++ "/".intercalate base ++ "/" ++ a, ?_⟩
    intro s hs
    rw [startsWith_slash_append (.inr hs.no_slash)]
    split
    · rfl
    · simp only [String.append_assoc]
  obtain ⟨init, r, hnames⟩ := names_append front
  refine ⟨init, r, ?_⟩
  intro s ns hs hroute
  unfold route at hroute
  dsimp only at hroute
  rw [hfull s hs, hnames s hs] at hroute
  split at hroute
  · cases hroute
  · exact (Except.ok.inj hroute).symm

/-! ## §2 Walks -/

/-- The last name of a walk is taken from a directory to which the others lead. -/
theorem walk_concat (hp : f.Open p) {init : List String}
    (h : f.walk p (init ++ [name]) = .ok q) :
    ∃ dir, f.walk p init = .ok dir ∧ f.Open dir ∧ q = enter dir name := by
  induction init generalizing p with
  | nil =>
    rw [List.nil_append, walk] at h
    split at h
    · cases h
      exact ⟨p, rfl, hp, rfl⟩
    · cases h
  | cons first rest ih =>
    rw [List.cons_append, walk] at h
    · split at h
      · next hfirst =>
        split at h
        · next hdir =>
          obtain ⟨dir, hwalk, hopen, hq⟩ := ih (hp.enter hdir) h
          refine ⟨dir, ?_, hopen, hq⟩
          cases rest with
          | nil =>
            rw [walk, if_pos hfirst]
            exact hwalk
          | cons second rest =>
            rw [walk, if_pos hfirst, hdir]
            · exact hwalk
            · simp
        · cases h
        · cases h
      · cases h
    · simp

theorem open_above_walk (hp : f.Open p) {names : List String} (h : f.walk p names = .ok q)
    (hx : x <+: q) (hne : x ≠ q) : f.get? x = some .directory := by
  rcases List.eq_nil_or_concat names with rfl | ⟨init, last, rfl⟩
  · cases h
    exact hp x hx
  · rw [List.concat_eq_append] at h
    obtain ⟨dir, -, hopen, rfl⟩ := walk_concat hp h
    unfold enter at hx hne
    split at hx
    · exact hopen x (hx.trans dir.dropLast_prefix)
    · next hname =>
      rw [if_neg hname] at hne
      exact hopen x ((List.prefix_concat_iff.1 hx).resolve_left hne)

/-! ## §3 Where a path leads -/

theorem route_of_locate (h : f.locate base path = .ok q) :
    ∃ names, route base path = .ok names ∧ f.walk [] names = .ok q := by
  unfold locate at h
  cases hroute : route base path with
  | error e =>
    rw [hroute] at h
    cases h
  | ok names =>
    rw [hroute] at h
    exact ⟨names, rfl, h⟩

/-- What lies above the place that a path leads to is a directory. -/
theorem get?_of_above (h : f.locate base path = .ok q) (hx : x <+: q) (hne : x ≠ q) :
    f.get? x = some .directory := by
  obtain ⟨names, -, hwalk⟩ := route_of_locate h
  exact open_above_walk open_nil hwalk hx hne

/-- **Where paths with one beginning lead**: to places in one directory, whose names have one
beginning too. -/
theorem locate_append (f : Files) (base : Place) (a : String) :
    ∃ (dir : Place) (r : String), ∀ s q, IsEnd s → f.locate base (a ++ s) = .ok q →
      q = dir ++ [r ++ s] := by
  obtain ⟨init, r, hinit⟩ := route_append base a
  have hplace (s : String) (q : Place) (hs : IsEnd s) (h : f.locate base (a ++ s) = .ok q) :
      ∃ dir, f.walk [] init = .ok dir ∧ q = dir ++ [r ++ s] := by
    obtain ⟨names, hroute, hwalk⟩ := route_of_locate h
    rw [hinit s names hs hroute] at hwalk
    obtain ⟨dir, hdir, -, rfl⟩ := walk_concat open_nil hwalk
    refine ⟨dir, hdir, ?_⟩
    -- The last name is too long to be the way up.
    have hname : r ++ s ≠ ".." := by
      intro hup
      have hlength := congrArg (fun t => t.toList.length) hup
      have hlong := hs.long
      simp at hlength hlong
      omega
    exact if_neg hname
  cases hwalk : f.walk [] init with
  | ok dir =>
    refine ⟨dir, r, ?_⟩
    intro s q hs h
    obtain ⟨place, hplace, rfl⟩ := hplace s q hs h
    rw [hwalk] at hplace
    cases hplace
    rfl
  | error e =>
    refine ⟨[], r, ?_⟩
    intro s q hs h
    obtain ⟨place, hplace, -⟩ := hplace s q hs h
    rw [hwalk] at hplace
    cases hplace

end LiveConfig.Files

namespace LiveConfig.CacheStore

open Files (IsEnd)

variable {c : CacheStore} {f : Files} {q new : Place} {number ns other : String}

/-! ## §4 The files of a cache -/

theorem isEnd_json : IsEnd ".json" := ⟨by decide, by decide⟩

theorem isEnd_tmp : IsEnd ".tmp" := ⟨by decide, by decide⟩

/-- The name of a namespace stands between a beginning and an end that all cache files share. -/
theorem exists_path (c : CacheStore) : ∃ a, ∀ ns, c.path ns = a ++ (ns ++ ".json") := by
  have hjoin (b : String) (hb : b ≠ "") (s : String) :
      Files.join c.dir (b ++ s) = Files.join c.dir b ++ s := by
    unfold Files.join
    rw [Files.startsWith_slash_append (.inl hb)]
    split
    · rfl
    · split <;> simp only [String.append_assoc]
  have hplus : c.appId ++ "+" ++ c.cluster ++ "+" ≠ "" := by simp
  refine ⟨Files.join c.dir (c.appId ++ "+" ++ c.cluster ++ "+"), ?_⟩
  intro ns
  rw [← hjoin _ hplus, path, ← String.append_assoc]

theorem exists_newPath (c : CacheStore) (number ns : String) :
    ∃ a, c.newPath number ns = a ++ ".tmp" := by
  unfold newPath Files.withFileName temporaryName
  exact ⟨_, (String.append_assoc ..).symm⟩

/-- A cache file is never where the new file for another one is written. -/
theorem locate_ne_new (hnew : f.locate c.base (c.newPath number ns) = .ok new)
    (hq : f.locate c.base (c.path other) = .ok q) : q ≠ new := by
  obtain ⟨a, ha⟩ := c.exists_newPath number ns
  obtain ⟨b, hb⟩ := c.exists_path
  rw [ha] at hnew
  rw [hb, ← String.append_assoc] at hq
  obtain ⟨dir, r, hdir⟩ := Files.locate_append f c.base a
  obtain ⟨dir', r', hdir'⟩ := Files.locate_append f c.base (b ++ other)
  rw [hdir _ _ isEnd_tmp hnew, hdir' _ _ isEnd_json hq]
  -- The two names end in different letters.
  intro hsame
  have hname := (List.append_inj' hsame rfl).2
  have hlast := congrArg (fun t => t.toList.getLast?) (List.singleton_inj.1 hname)
  simp at hlast

/-- **Two plain names have two files.** -/
theorem locate_ne_of_no_slash (hns : '/' ∉ ns.toList) (hother : '/' ∉ other.toList)
    (hne : ns ≠ other) {q q' : Place} (hq : f.locate c.base (c.path ns) = .ok q)
    (hq' : f.locate c.base (c.path other) = .ok q') : q ≠ q' := by
  obtain ⟨a, ha⟩ := c.exists_path
  rw [ha] at hq hq'
  obtain ⟨dir, r, hdir⟩ := Files.locate_append f c.base a
  rw [hdir _ _ (isEnd_json.append hns) hq, hdir _ _ (isEnd_json.append hother) hq']
  intro hsame
  have hname := List.singleton_inj.1 (List.append_inj' hsame rfl).2
  simp only [String.append_right_inj, String.append_left_inj] at hname
  exact hne hname

end LiveConfig.CacheStore
