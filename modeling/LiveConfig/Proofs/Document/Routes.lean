import LiveConfig.Document
import LiveConfig.Proofs.Entries

/-!
# Routes through a document

A part of a document is reached by a route of steps, each to a member by its name or to an item by
its position. The leaves are the parts without parts of their own that have a text: texts, numbers,
truth values and nulls.

## Two views

Leaves are found by walking (`Json.LeafAt`), and listed by a traversal in document order
(`Json.routes`), members and items in the order in which they stand. Walking looks names up, so the
two agree where no object has two members of one name.

## Main statements

- `Json.mem_routes_iff`: the traversal lists the leaves and nothing else.
- `Json.nodup_routes`: it comes to each of them once.
-/

namespace LiveConfig.Json

/-! ## §1 Walking -/

/-- A step from a value to a part of it. -/
inductive Step
  | member (name : String)
  | item (index : Nat)
deriving DecidableEq, Repr

/-- The steps that lead to a part, the first one first. -/
abbrev Route := List Step

/-- The part that one step leads to. -/
def part? : Json → Step → Option Json
  | .object members, .member name => members.lookup name
  | .array items, .item index => items[index]?
  | _, _ => none

/-- The part at the end of a route. -/
def at? : Json → Route → Option Json
  | v, [] => some v
  | v, s :: rest => (v.part? s).bind fun w => w.at? rest

/-- The text of a leaf. -/
def leafText? : Json → Option String
  | .null => some ""
  | .bool b => some (if b then "true" else "false")
  | .number n => some n.text
  | .text s => some s
  | .array _ => none
  | .object _ => none

/-- **A leaf**: a route leads to it, and it has a text. -/
def LeafAt (v : Json) (r : Route) (t : String) : Prop := ∃ w, v.at? r = some w ∧ w.leafText? = some t

theorem leafAt_nil {v : Json} {t : String} : v.LeafAt [] t ↔ v.leafText? = some t := by
  simp [LeafAt, at?]

theorem leafAt_cons {v : Json} {s : Step} {r : Route} {t : String} :
    v.LeafAt (s :: r) t ↔ ∃ w, v.part? s = some w ∧ w.LeafAt r t := by
  simp only [LeafAt, at?, Option.bind_eq_some_iff]
  constructor
  · rintro ⟨u, ⟨w, hw, hu⟩, ht⟩
    exact ⟨w, hw, u, hu, ht⟩
  · rintro ⟨w, hw, u, hu, ht⟩
    exact ⟨u, ⟨w, hw, hu⟩, ht⟩

/-- What has a text has no parts. -/
theorem leafAt_of_leafText? {v : Json} {s : String} (h : v.leafText? = some s) {r : Route}
    {t : String} : v.LeafAt r t ↔ r = [] ∧ t = s := by
  cases r with
  | nil => simp [leafAt_nil, h, eq_comm]
  | cons step r =>
    have hnone : v.part? step = none := by
      cases v with
      | array items => cases h
      | object members => cases h
      | _ => rfl
    simp [leafAt_cons, hnone]

/-! ## §2 The traversal -/

/-- One more step in front of a route. -/
def under (s : Step) (p : Route × String) : Route × String := (s :: p.1, p.2)

mutual
/-- The routes to the leaves of a value, in document order, with the texts of the leaves. -/
def routes : Json → List (Route × String)
  | .null => [([], "")]
  | .bool b => [([], if b then "true" else "false")]
  | .number n => [([], n.text)]
  | .text s => [([], s)]
  | .array items => itemRoutes 0 items
  | .object members => memberRoutes members

/-- The routes through items, the first of which has the given position. -/
def itemRoutes (index : Nat) : List Json → List (Route × String)
  | [] => []
  | v :: rest => (routes v).map (under (.item index)) ++ itemRoutes (index + 1) rest

/-- The routes through members. -/
def memberRoutes : List (String × Json) → List (Route × String)
  | [] => []
  | (name, v) :: rest => (routes v).map (under (.member name)) ++ memberRoutes rest
end

theorem mem_itemRoutes {items : List Json} {index : Nat} {p : Route × String} :
    p ∈ itemRoutes index items
      ↔ ∃ i w q, items[i]? = some w ∧ q ∈ routes w ∧ p = under (.item (index + i)) q := by
  induction items generalizing index with
  | nil => simp [itemRoutes]
  | cons v rest ih =>
    simp only [itemRoutes, List.mem_append, List.mem_map, ih]
    constructor
    · rintro (⟨q, hq, rfl⟩ | ⟨i, w, q, hw, hq, rfl⟩)
      · exact ⟨0, v, q, rfl, hq, rfl⟩
      · exact ⟨i + 1, w, q, hw, hq, by rw [Nat.add_assoc, Nat.add_comm 1]⟩
    · rintro ⟨i, w, q, hw, hq, rfl⟩
      cases i with
      | zero =>
        cases hw
        exact .inl ⟨q, hq, rfl⟩
      | succ i => exact .inr ⟨i, w, q, hw, hq, by rw [Nat.add_assoc, Nat.add_comm 1]⟩

theorem mem_memberRoutes {members : List (String × Json)} {p : Route × String} :
    p ∈ memberRoutes members
      ↔ ∃ m ∈ members, ∃ q ∈ routes m.2, p = under (.member m.1) q := by
  induction members with
  | nil => simp [memberRoutes]
  | cons m rest ih =>
    simp only [memberRoutes, List.mem_append, List.mem_map, ih, List.exists_mem_cons_iff]
    simp only [eq_comm]

/-! ## §3 Tidy values -/

/-- No object in the value has two members of one name. -/
inductive Tidy : Json → Prop
  | null : Tidy .null
  | bool (b : Bool) : Tidy (.bool b)
  | number (n : JsonNumber) : Tidy (.number n)
  | text (s : String) : Tidy (.text s)
  | array {items : List Json} : (∀ v ∈ items, Tidy v) → Tidy (.array items)
  | object {members : List (String × Json)} :
      (members.map Prod.fst).Nodup → (∀ m ∈ members, Tidy m.2) → Tidy (.object members)

/-- **The traversal lists the leaves** of a tidy value and nothing else. -/
theorem mem_routes_iff {v : Json} (h : v.Tidy) {r : Route} {t : String} :
    (r, t) ∈ v.routes ↔ v.LeafAt r t := by
  induction h generalizing r t with
  | null => simp [routes, leafAt_of_leafText? (v := .null) rfl]
  | bool b => simp [routes, leafAt_of_leafText? (v := .bool b) rfl]
  | number n => simp [routes, leafAt_of_leafText? (v := .number n) rfl]
  | text s => simp [routes, leafAt_of_leafText? (v := .text s) rfl]
  | @array items _ ih =>
    rw [routes, mem_itemRoutes]
    simp only [Nat.zero_add, under, Prod.mk.injEq]
    constructor
    · rintro ⟨i, w, ⟨q, s⟩, hw, hq, rfl, rfl⟩
      exact leafAt_cons.2 ⟨w, hw, (ih w (List.mem_of_getElem? hw)).1 hq⟩
    · intro hleaf
      cases r with
      | nil => cases leafAt_nil.1 hleaf
      | cons step r =>
        obtain ⟨w, hw, hrest⟩ := leafAt_cons.1 hleaf
        cases step with
        | member name => cases hw
        | item i => exact ⟨i, w, (r, t), hw, (ih w (List.mem_of_getElem? hw)).2 hrest, rfl, rfl⟩
  | @object members hnodup _ ih =>
    rw [routes, mem_memberRoutes]
    simp only [under, Prod.mk.injEq]
    constructor
    · rintro ⟨m, hm, ⟨q, s⟩, hq, rfl, rfl⟩
      exact leafAt_cons.2 ⟨m.2, (Assoc.lookup_eq_some_iff hnodup).2 hm, (ih m hm).1 hq⟩
    · intro hleaf
      cases r with
      | nil => cases leafAt_nil.1 hleaf
      | cons step r =>
        obtain ⟨w, hw, hrest⟩ := leafAt_cons.1 hleaf
        cases step with
        | item i => cases hw
        | member name =>
          have hm := (Assoc.lookup_eq_some_iff hnodup).1 hw
          exact ⟨(name, w), hm, (r, t), (ih _ hm).2 hrest, rfl, rfl⟩

theorem nodup_map_under {l : List (Route × String)} (h : (l.map Prod.fst).Nodup) (s : Step) :
    ((l.map (under s)).map Prod.fst).Nodup := by
  have hstep : Prod.fst ∘ under s = (s :: ·) ∘ Prod.fst := rfl
  rw [List.map_map, hstep, ← List.map_map]
  exact h.map fun a b hab => (List.cons.inj hab).2

theorem nodup_itemRoutes {items : List Json} (h : ∀ v ∈ items, (v.routes.map Prod.fst).Nodup)
    (index : Nat) : ((itemRoutes index items).map Prod.fst).Nodup := by
  induction items generalizing index with
  | nil => simp [itemRoutes]
  | cons v rest ih =>
    obtain ⟨hv, hrest⟩ := List.forall_mem_cons.1 h
    rw [itemRoutes, List.map_append]
    refine List.nodup_append.2 ⟨nodup_map_under hv _, ih hrest _, ?_⟩
    -- The routes behind those of the first item begin with a later position.
    rintro a ha b hb rfl
    simp only [List.mem_map] at ha hb
    obtain ⟨_, ⟨p, -, rfl⟩, rfl⟩ := ha
    obtain ⟨q, hq, hqp⟩ := hb
    obtain ⟨i, w, u, -, -, rfl⟩ := mem_itemRoutes.1 hq
    have hindex : index + 1 + i = index := Step.item.inj (List.cons.inj hqp).1
    omega

theorem nodup_memberRoutes {members : List (String × Json)}
    (hnodup : (members.map Prod.fst).Nodup) (h : ∀ m ∈ members, (m.2.routes.map Prod.fst).Nodup) :
    ((memberRoutes members).map Prod.fst).Nodup := by
  induction members with
  | nil => simp [memberRoutes]
  | cons m rest ih =>
    obtain ⟨hm, hrest⟩ := List.forall_mem_cons.1 h
    obtain ⟨hfresh, hnodup⟩ := List.nodup_cons.1 hnodup
    rw [memberRoutes, List.map_append]
    refine List.nodup_append.2 ⟨nodup_map_under hm _, ih hnodup hrest, ?_⟩
    -- No later member has the name of the first one.
    rintro a ha b hb rfl
    simp only [List.mem_map] at ha hb
    obtain ⟨_, ⟨p, -, rfl⟩, rfl⟩ := ha
    obtain ⟨q, hq, hqp⟩ := hb
    obtain ⟨m', hm', u, -, rfl⟩ := mem_memberRoutes.1 hq
    have hname : m'.1 = m.1 := Step.member.inj (List.cons.inj hqp).1
    exact hfresh (hname ▸ List.mem_map_of_mem hm')

/-- **The traversal comes to each leaf once.** -/
theorem nodup_routes {v : Json} (h : v.Tidy) : (v.routes.map Prod.fst).Nodup := by
  induction h with
  | null => simp [routes]
  | bool b => simp [routes]
  | number n => simp [routes]
  | text s => simp [routes]
  | array _ ih => exact nodup_itemRoutes ih 0
  | object hnodup _ ih => exact nodup_memberRoutes hnodup ih

end LiveConfig.Json
