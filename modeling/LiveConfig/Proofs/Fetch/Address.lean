import LiveConfig.Fetch.Request
import LiveConfig.Proofs.Namespace
import LiveConfig.Proofs.Url.Address

/-!
# Requested paths

Which path a fetch asks for. The name of a namespace holds no character that would be escaped or
dropped, so it arrives in the path unless it is one of the two dots, which are names as well. A
fetch of either of these asks for the path above.

## Main statements

- `said_address_iff`: when a fetch asks for the path that it should.
- `pathText_eq_iff`: two namespaces are asked for in one place only if they are the dots.
- `requested_path`: addresses that are built, and those of fetches.
- `dots_lost`: the two namespaces that are asked for in one place.
-/

namespace LiveConfig.FetchConfig

open Url Url.Path

/-! ## §1 Names as segments -/

/-- The two dots, which are names of namespaces. -/
def IsDots (ns : String) : Prop := ns = "." ∨ ns = ".."

section Names

variable {ns : String}

theorem isDots_iff : IsDots ns ↔ ns.toList = ['.'] ∨ ns.toList = ['.', '.'] := by
  have hsingle : ns = "." ↔ ns.toList = ['.'] := String.toList_inj.symm
  have hdouble : ns = ".." ↔ ns.toList = ['.', '.'] := String.toList_inj.symm
  rw [IsDots, hsingle, hdouble]

/-- **An accepted name is a plain segment** unless it is one of the dots. -/
theorem plain_iff (h : Namespace.fault? ns = none) : Plain ns.toList ↔ ¬IsDots ns := by
  have hkept : ∀ c ∈ ns.toList, isDropped c = false := by
    intro c hc
    have hchar := List.all_eq_true.1 (Namespace.all_isNameChar_of_fault? h) c hc
    have hbounds := Namespace.toNat_bounds_of_isNameChar hchar
    refine Bool.eq_false_iff.2 fun hdropped => ?_
    simp only [isDropped, Bool.or_eq_true, beq_iff_eq] at hdropped
    rcases hdropped with (rfl | rfl) | rfl <;> exact absurd hbounds.1 (by decide)
  rw [isDots_iff, not_or]
  exact ⟨fun hplain => ⟨hplain.1, hplain.2.1⟩, fun hdots => ⟨hdots.1, hdots.2, hkept⟩⟩

theorem not_isBarDrive (h : Namespace.fault? ns = none) : ¬IsBarDrive ns.toList := by
  rintro ⟨c, -, hname⟩
  have hall := Namespace.all_isNameChar_of_fault? h
  rw [hname, List.all_cons, List.all_cons] at hall
  have hbar : Namespace.isNameChar '|' = false := by decide
  simp [hbar] at hall

theorem toList_ne_nil (h : Namespace.fault? ns = none) : ns.toList ≠ [] := by
  intro hnil
  have hempty : ns = "" := String.toList_inj.1 hnil
  rw [hempty] at h
  cases h

end Names

/-! ## §2 Addresses of fetches -/

section Address

variable {c : FetchConfig} {base : String} {u₀ : Url} {setOff : Bool} {p : Path}

/-- The segments that a fetch appends. -/
def appended (c : FetchConfig) (ns : String) : List String := ["configs", c.appId, c.cluster, ns]

theorem exists_address (c : FetchConfig) (hbase : Url.read? base = .ok u₀)
    (hp : u₀.course = .path setOff p) (ns : String) (release : Option String)
    (messages : Option Messages) :
    ∃ u, c.address base ns release messages = .ok u
      ∧ u.course = .path setOff (u₀.onward p (c.appended ns)) := by
  let u : Url := { u₀ with course := .path setOff (u₀.onward p (c.appended ns)) }
  have hbuilt : build? base ["configs", c.appId, c.cluster, ns] = .ok u :=
    build?_eq hbase hp (c.appended ns)
  refine ⟨u.withPairs (c.pairs release messages), ?_, rfl⟩
  rw [address, Http.address, hbuilt]
  rfl

/-- **When a fetch asks for the path that it should**: the application and the cluster are plain,
the namespace is none of the dots, and the base does not end in more than one slash behind its
authority. -/
theorem said_address_iff (hbase : Url.read? base = .ok u₀) (hp : u₀.course = .path setOff p)
    {ns : String} (hname : Namespace.fault? ns = none) {u : Url}
    (hu : u.course = .path setOff (u₀.onward p (c.appended ns))) :
    u.said = (withoutSlash u₀.segments).map percentDecode
          ++ (c.appended ns).map (fun s => octets s.toList)
      ↔ Plain c.appId.toList ∧ Plain c.cluster.toList ∧ ¬IsDots ns
          ∧ withoutSlash u₀.segments ≠ [[]] := by
  have hfirst : Plain "configs".toList := by decide +kernel
  have hdrive : ¬IsBarDrive "configs".toList := by
    rintro ⟨c, -, hname⟩
    have hlength := congrArg List.length hname
    cases hlength
  rw [said_onward_iff hbase hp hu, ← plain_iff hname]
  simp only [appended, List.map_cons, List.map_nil, Fits, List.forall_mem_cons, hfirst, hdrive]
  simp [and_assoc]

end Address

/-! ## §3 Two namespaces -/

section Two

variable {file special : Bool} {q : Path} {ns ns' : String}

theorem appendSegment_of_isDots (h : IsDots ns) : appendSegment file special q ns.toList = q := by
  rw [appendSegment, if_pos (by simpa using isDots_iff.1 h)]

theorem decoded_appendSegment_name (file special : Bool) (q : Path)
    (hname : Namespace.fault? ns = none) (h : ¬IsDots ns) :
    (appendSegment file special q ns.toList).map percentDecode
      = (stem q).map percentDecode ++ [octets ns.toList] :=
  decoded_appendSegment ((plain_iff hname).2 h) fun _ _ => not_isBarDrive hname

/-- A name that arrives makes the path say more. -/
theorem appendSegment_ne (hname : Namespace.fault? ns = none) (h : ¬IsDots ns) :
    appendSegment file special q ns.toList ≠ q := by
  intro hsame
  have hdecoded := decoded_appendSegment_name file special q hname h
  rw [hsame] at hdecoded
  have hweight : weight q = weight (stem q) + ([ns.toList].map fun s => (octets s).length).sum :=
    weight_eq_of_decoded hdecoded
  have hpos := length_octets_pos (toList_ne_nil hname)
  rw [weight_stem, List.map_singleton, List.sum_singleton] at hweight
  omega

/-- **Two names lead to one path** only if they are the dots. -/
theorem appendSegment_eq_iff (hname : Namespace.fault? ns = none)
    (hname' : Namespace.fault? ns' = none) (hne : ns ≠ ns') :
    appendSegment file special q ns.toList = appendSegment file special q ns'.toList
      ↔ IsDots ns ∧ IsDots ns' := by
  by_cases h : IsDots ns
  · rw [appendSegment_of_isDots h]
    by_cases h' : IsDots ns'
    · exact iff_of_true (appendSegment_of_isDots h').symm ⟨h, h'⟩
    · exact iff_of_false (fun heq => appendSegment_ne hname' h' heq.symm) fun hdots => h' hdots.2
  · by_cases h' : IsDots ns'
    · rw [appendSegment_of_isDots h']
      exact iff_of_false (appendSegment_ne hname h) fun hdots => h hdots.1
    · refine iff_of_false (fun heq => hne ?_) fun hdots => h hdots.1
      have hdecoded := congrArg (List.map percentDecode) heq
      rw [decoded_appendSegment_name _ _ _ hname h, decoded_appendSegment_name _ _ _ hname' h']
        at hdecoded
      have hlast := List.singleton_inj.1 (List.append_cancel_left hdecoded)
      exact String.toList_inj.1 (octets_injective hlast)

/-- **Two fetches ask for one path** only if their namespaces are the dots. -/
theorem pathText_eq_iff {c : FetchConfig} {base : String} {u₀ : Url} {setOff : Bool} {p : Path}
    (hbase : Url.read? base = .ok u₀) (hp : u₀.course = .path setOff p)
    (hname : Namespace.fault? ns = none) (hname' : Namespace.fault? ns' = none) (hne : ns ≠ ns')
    {u u' : Url} (hu : u.course = .path setOff (u₀.onward p (c.appended ns)))
    (hu' : u'.course = .path setOff (u₀.onward p (c.appended ns'))) :
    u.pathText = u'.pathText ↔ IsDots ns ∧ IsDots ns' := by
  have hshelf (name : String) : u₀.onward p (c.appended name)
      = appendSegment (u₀.scheme == "file") (isSpecial u₀.scheme)
          (u₀.onward p ["configs", c.appId, c.cluster]) name.toList := rfl
  rw [← appendSegment_eq_iff hname hname' hne, ← hshelf, ← hshelf]
  constructor
  · intro htext
    have hsegments : u.segments = u'.segments := by rw [segments, htext, ← segments]
    rwa [segments_onward hbase hp hu, segments_onward hbase hp hu'] at hsegments
  · intro hsame
    rw [pathText, pathText, hu, hu', hsame]

end Two

/-! ## §4 Requested paths -/

/-- **Requested paths.** Under a base that is read with a path, every list of segments has an
address, and its path says the segments of the base, but for one empty segment at its end, and then
the given ones, exactly if these fit. So does the address of a fetch of an accepted namespace for
`configs`, application, cluster and namespace, exactly if application and cluster are plain and the
namespace is none of the dots; and two different namespaces are asked for in one place exactly if
they are the dots. -/
theorem requested_path {base : String} {u₀ : Url} (hbase : Url.read? base = .ok u₀)
    {setOff : Bool} {p : Path} (hp : u₀.course = .path setOff p) :
    (∀ ss, ∃ u, Url.build? base ss = .ok u
        ∧ (u.said = (withoutSlash u₀.segments).map percentDecode
              ++ ss.map (fun s => octets s.toList)
            ↔ Fits (u₀.scheme == "file") u₀.segments (ss.map String.toList)))
      ∧ ∀ (c : FetchConfig) (given ns : String) (release : Option String)
          (messages : Option Messages), Namespace.normalize given = .ok ns →
        ∃ u, c.address base ns release messages = .ok u
          ∧ (u.said = (withoutSlash u₀.segments).map percentDecode
                ++ ["configs", c.appId, c.cluster, ns].map (fun s => octets s.toList)
              ↔ Plain c.appId.toList ∧ Plain c.cluster.toList ∧ ¬IsDots ns
                  ∧ withoutSlash u₀.segments ≠ [[]])
          ∧ ∀ given' ns' release' messages' u', Namespace.normalize given' = .ok ns' →
              c.address base ns' release' messages' = .ok u' → ns ≠ ns' →
              (u.pathText = u'.pathText ↔ IsDots ns ∧ IsDots ns') := by
  constructor
  · intro ss
    exact ⟨_, build?_eq hbase hp ss, said_onward_iff hbase hp rfl⟩
  · intro c given ns release messages hgiven
    have hname := Namespace.fault?_of_normalize hgiven
    obtain ⟨u, haddress, hu⟩ := exists_address c hbase hp ns release messages
    refine ⟨u, haddress, said_address_iff hbase hp hname hu, ?_⟩
    intro given' ns' release' messages' u' hgiven' haddress' hne
    obtain ⟨v, hv, hcourse⟩ := exists_address c hbase hp ns' release' messages'
    obtain rfl : v = u' := Except.ok.inj (hv.symm.trans haddress')
    exact pathText_eq_iff hbase hp hname (Namespace.fault?_of_normalize hgiven') hne hu hcourse

/-- An address at the local host. -/
def loopback (p : Path) (query : Option String) : Url :=
  ⟨"http", some ⟨"", "[::1]", none⟩, .path false p, query, none⟩

/-- The fetches of a cluster. -/
def ofCluster (cluster : String) : FetchConfig := { appId := "demo", cluster := cluster }

/-- A slash in the name of the cluster is escaped, and the path says what was given. -/
theorem requested_path_escaped_cluster :
    Url.read? "http://[::1]/api/" = .ok (loopback [['a', 'p', 'i'], []] none)
      ∧ Namespace.normalize " app.properties" = .ok "app"
      ∧ ∃ u, (ofCluster "x/y").address "http://[::1]/api/" "app" none none = .ok u
          ∧ u.said = ["api", "configs", "demo", "x/y", "app"].map (fun s => octets s.toList) := by
  have hbase : Url.read? "http://[::1]/api/"
      = .ok (loopback [['a', 'p', 'i'], []] none) := by decide +kernel
  have hgiven : Namespace.normalize " app.properties" = .ok "app" := by decide +kernel
  obtain ⟨u, haddress, hsaid, -⟩ := (requested_path hbase rfl).2
    (ofCluster "x/y") " app.properties" "app" none none hgiven
  have happ : Plain "demo".toList := by decide +kernel
  have hcluster : Plain "x/y".toList := by decide +kernel
  have hdots : ¬IsDots "app" := by
    rintro (h | h) <;> exact absurd h (by decide)
  refine ⟨hbase, hgiven, u, haddress,
    (hsaid.2 ⟨happ, hcluster, hdots, by decide +kernel⟩).trans ?_⟩
  decide +kernel

/-- **The dots are lost.** Both are accepted as names of namespaces, the address of segments with
two dots at their end says nothing of them, and fetches of both namespaces ask for one path. -/
theorem dots_lost :
    Namespace.normalize "." = .ok "." ∧ Namespace.normalize ".." = .ok ".."
      ∧ (∃ u₀ u, Url.read? "http://[::1]/" = .ok u₀
          ∧ Url.build? "http://[::1]/" ["configs", "demo", "default", ".."] = .ok u
          ∧ u.said ≠ (withoutSlash u₀.segments).map percentDecode
              ++ ["configs", "demo", "default", ".."].map (fun s => octets s.toList))
      ∧ ∃ u, ∀ ns ∈ [".", ".."],
          (ofCluster "default").address "http://[::1]/" ns none none = .ok u := by
  refine ⟨by decide +kernel, by decide +kernel, ?_, ?_⟩
  · refine ⟨loopback [[]] none,
      loopback ["configs".toList, "demo".toList, "default".toList] none,
      by decide +kernel, by decide +kernel, by decide +kernel⟩
  · refine ⟨loopback ["configs".toList, "demo".toList, "default".toList] (some ""), ?_⟩
    simp only [List.forall_mem_cons]
    exact ⟨by decide +kernel, by decide +kernel, fun _ h => absurd h List.not_mem_nil⟩

end LiveConfig.FetchConfig
