import LiveConfig.Proofs.Document.Names
import LiveConfig.Proofs.Document.Parsed
import LiveConfig.Proofs.Json.RoundTrip

/-!
# What flat entries hold of a document

The flat entries of a document are its leaves under the names of their routes, where of leaves with
one name the last counts and the first gives the place.

## Main statements

- `flatten_parsed`: keys, values and order of the flat entries of a parsed document, and that none
  of its leaves is lost where member names are clear.
-/

namespace LiveConfig.Document

open Json (Route)

/-! ## §1 Entries and leaves -/

/-- A value that a text holds. -/
def Parsed (v : Json) : Prop :=
  (∃ s, Json.read? s = some v) ∨ ∃ s, Yaml.readJson? s = some v

theorem Parsed.tidy {v : Json} (h : Parsed v) : v.Tidy := by
  rcases h with ⟨s, hs⟩ | ⟨s, hs⟩
  · exact Json.tidy_of_read? hs
  · exact Yaml.tidy_of_readJson? hs

/-- The flat entries of an object. -/
def flat (members : List (String × Json)) : Entries :=
  Entries.ofList ((Json.object members).routes.map (named ""))

theorem flatten?_object (members : List (String × Json)) :
    flatten? (.object members) = some (flat members) := by
  rw [flatten?, memberLeaves_eq]
  rfl

theorem keys_flat (members : List (String × Json)) :
    (flat members).keys = ((Json.object members).routes.map fun p => nameOf p.1).eraseDups := by
  rw [flat, Entries.keys_ofList, List.map_map]
  rfl

theorem get?_flat_eq_some_iff {members : List (String × Json)} {k t : String} :
    (flat members).get? k = some t
      ↔ ∃ before r after, (Json.object members).routes = before ++ (r, t) :: after
          ∧ nameOf r = k ∧ ∀ p ∈ after, nameOf p.1 ≠ k := by
  rw [flat, Entries.get?_ofList_eq_some_iff]
  constructor
  · rintro ⟨front, back, h, hback⟩
    -- The entry comes from a leaf, and what stands around it from the other ones.
    obtain ⟨before, rest, hroutes, rfl, hrest⟩ := List.map_eq_append_iff.1 h
    obtain ⟨⟨r, u⟩, after, rfl, hleaf, rfl⟩ := List.map_eq_cons_iff.1 hrest
    obtain ⟨hname, rfl⟩ := Prod.mk.inj hleaf
    exact ⟨before, r, after, hroutes, hname, fun p hp => hback _ (List.mem_map_of_mem hp)⟩
  · rintro ⟨before, r, after, h, rfl, hafter⟩
    refine ⟨before.map (named ""), after.map (named ""), by rw [h, List.map_append]; rfl, ?_⟩
    intro p hp
    obtain ⟨q, hq, rfl⟩ := List.mem_map.1 hp
    exact hafter q hq

theorem isSome_get?_flat_iff {members : List (String × Json)} {k : String} :
    ((flat members).get? k).isSome
      ↔ ∃ r t, (r, t) ∈ (Json.object members).routes ∧ nameOf r = k := by
  rw [← Entries.mem_keys_iff, keys_flat, List.mem_eraseDups, List.mem_map]
  constructor
  · rintro ⟨⟨r, t⟩, hmem, hname⟩
    exact ⟨r, t, hmem, hname⟩
  · rintro ⟨r, t, hmem, hname⟩
    exact ⟨(r, t), hmem, hname⟩

/-! ## §2 Clear documents -/

/-- No member name on the way to a leaf is empty or holds a mark. -/
def AllClear (v : Json) : Prop := ∀ r t, v.LeafAt r t → Clear r

/-- The way to a leaf of an object begins with a member. -/
theorem exists_member_of_leafAt {members : List (String × Json)} {r : Route} {t : String}
    (h : (Json.object members).LeafAt r t) : ∃ name q, r = .member name :: q := by
  cases r with
  | nil => cases Json.leafAt_nil.1 h
  | cons s q =>
    obtain ⟨w, hw, -⟩ := Json.leafAt_cons.1 h
    cases s with
    | member name => exact ⟨name, q, rfl⟩
    | item index => cases hw

/-- **Different leaves of a clear object have different names.** -/
theorem eq_of_nameOf {members : List (String × Json)} (hclear : AllClear (.object members))
    {r q : Route} {t u : String} (hr : (Json.object members).LeafAt r t)
    (hq : (Json.object members).LeafAt q u) (h : nameOf r = nameOf q) : r = q := by
  obtain ⟨name, r, rfl⟩ := exists_member_of_leafAt hr
  obtain ⟨name', q, rfl⟩ := exists_member_of_leafAt hq
  exact nameOf_injective (hclear _ _ hr) (hclear _ _ hq) h

/-- The names of the leaves of a clear object, no two of them alike. -/
theorem nodup_names {members : List (String × Json)} (htidy : (Json.object members).Tidy)
    (hclear : AllClear (.object members)) :
    (((Json.object members).routes.map (named "")).map Prod.fst).Nodup := by
  have hnames : Prod.fst ∘ named "" = nameOf ∘ Prod.fst := rfl
  rw [List.map_map, hnames, ← List.map_map]
  refine List.Nodup.map_on ?_ (Json.nodup_routes htidy)
  intro r hr q hq h
  obtain ⟨⟨_, t⟩, hleaf, rfl⟩ := List.mem_map.1 hr
  obtain ⟨⟨_, u⟩, hleaf', rfl⟩ := List.mem_map.1 hq
  exact eq_of_nameOf hclear ((Json.mem_routes_iff htidy).1 hleaf)
    ((Json.mem_routes_iff htidy).1 hleaf') h

/-- **A clear object loses no leaf**: its entries are its leaves. -/
theorem toList_flat {members : List (String × Json)} (htidy : (Json.object members).Tidy)
    (hclear : AllClear (.object members)) :
    (flat members).toList = (Json.object members).routes.map (named "") :=
  Entries.toList_foldl_insert (e := .empty) (nodup_names htidy hclear)

/-! ## §3 Parsed documents -/

/-- **The flat entries of a parsed document.** Its leaves are what the traversal lists, each of them
once. A key is there exactly if it is the name of a leaf; it has the text of the last such leaf in
document order, and the keys stand in the order in which their leaves first appear. Where no member
name on the way to a leaf is empty or holds a dot or a bracket, different leaves have different
names, there are as many entries as leaves, and every leaf is found under its name. -/
theorem flatten_parsed {members : List (String × Json)} (h : Parsed (.object members)) :
    ∃ e, flatten? (.object members) = some e
      ∧ ((∀ r t, (r, t) ∈ (Json.object members).routes ↔ (Json.object members).LeafAt r t)
          ∧ ((Json.object members).routes.map Prod.fst).Nodup)
      ∧ (∀ k, (e.get? k).isSome ↔ ∃ r t, (Json.object members).LeafAt r t ∧ nameOf r = k)
      ∧ (∀ k t, e.get? k = some t
          ↔ ∃ before r after, (Json.object members).routes = before ++ (r, t) :: after
              ∧ nameOf r = k ∧ ∀ p ∈ after, nameOf p.1 ≠ k)
      ∧ e.keys = ((Json.object members).routes.map fun p => nameOf p.1).eraseDups
      ∧ (AllClear (.object members) →
          (∀ r q t u, (Json.object members).LeafAt r t → (Json.object members).LeafAt q u →
            nameOf r = nameOf q → r = q)
          ∧ e.size = (Json.object members).routes.length
          ∧ ∀ r t, (Json.object members).LeafAt r t → e.get? (nameOf r) = some t) := by
  have htidy := h.tidy
  have hleaves (r : Route) (t : String) := Json.mem_routes_iff htidy (r := r) (t := t)
  refine ⟨flat members, flatten?_object members, ⟨hleaves, Json.nodup_routes htidy⟩, ?_,
    fun k t => get?_flat_eq_some_iff, keys_flat members, ?_⟩
  · intro k
    simp only [isSome_get?_flat_iff, hleaves]
  · intro hclear
    have hentries := toList_flat htidy hclear
    refine ⟨fun r q t u hr hq => eq_of_nameOf hclear hr hq, ?_, ?_⟩
    · rw [Entries.size, hentries, List.length_map]
    · intro r t hleaf
      apply Entries.mem_toList_iff.1
      rw [hentries]
      exact List.mem_map_of_mem (f := named "") ((hleaves r t).2 hleaf)

/-- The members of `{"a": {"b": "1"}, "c": ["x", null]}`. -/
def nested : List (String × Json) :=
  [("a", .object [("b", .text "1")]), ("c", .array [.text "x", .null])]

theorem parsed_nested : Parsed (.object nested) := by
  -- It is read from its own text.
  have hread : Json.read? (String.ofList (Json.indented 0 (.object nested)))
      = some (.object nested) := by
    rw [Json.read?, String.toList_ofList, Json.readTree?_indented rfl]
    rfl
  exact .inl ⟨_, hread⟩

theorem allClear_nested : AllClear (.object nested) := by
  intro r t hleaf
  have hmem := (Json.mem_routes_iff parsed_nested.tidy).2 hleaf
  simp only [nested, Json.routes, Json.memberRoutes, Json.itemRoutes, Json.under, List.map_cons,
    List.map_nil, List.cons_append, List.nil_append, List.mem_cons, Prod.mk.injEq] at hmem
  rcases hmem with ⟨rfl, -⟩ | ⟨rfl, -⟩ | ⟨rfl, -⟩ | hmem
  · simp [Clear, isMark]
  · simp [Clear, isMark]
  · simp [Clear, isMark]
  · cases hmem

/-- The null at the end is an entry, and nothing is lost. -/
theorem flatten_parsed_nested :
    Parsed (.object nested) ∧ AllClear (.object nested)
      ∧ ∃ e, flatten? (.object nested) = some e ∧ e.keys = ["a.b", "c[0]", "c[1]"] ∧ e.size = 3
          ∧ e.get? "c[1]" = some "" := by
  obtain ⟨e, hflat, -, -, -, hkeys, hclear⟩ := flatten_parsed parsed_nested
  obtain ⟨-, hsize, hfound⟩ := hclear allClear_nested
  refine ⟨parsed_nested, allClear_nested, e, hflat, hkeys.trans (by decide +kernel), hsize, ?_⟩
  exact hfound [.member "c", .item 1] "" ⟨.null, rfl, rfl⟩

/-- Two leaves of one name make one entry. -/
example : (flatten? (.object [("a", .object [("b", .text "1")]), ("a.b", .text "2")])).map
    Entries.toList = some [("a.b", "2")] := by
  decide +kernel

end LiveConfig.Document
