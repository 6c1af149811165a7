import LiveConfig.Json.Printer
import LiveConfig.Json.Record

/-!
# Endpoints

The instances of the configuration service, and the choice of one of them.

## Main statements

- `mem_of_choose`: what is chosen is a candidate.
- `not_tried_of_pick`: an endpoint that has not been tried is preferred.
-/

namespace LiveConfig

/-- An instance of the service. -/
structure Endpoint where
  id : String
  url : String
deriving DecidableEq, Repr, Inhabited

namespace Endpoint

/-- The endpoint as a document. -/
def toJson (e : Endpoint) : Json := .object [("instanceId", .text e.id), ("baseUrl", .text e.url)]

/-- A list of endpoints as a document. -/
def listToJson (es : List Endpoint) : Json := .array (es.map toJson)

/-- The endpoint of a record; its address has two names. -/
def ofTree? (t : Json.Tree) : Option Endpoint :=
  match t.fields? [["instanceId"], ["baseUrl", "homepageUrl"]] with
  | some [id, url] => do
    pure ⟨← Json.Tree.required? Json.Tree.text? id, ← Json.Tree.required? Json.Tree.text? url⟩
  | _ => none

/-- The endpoints of an answer. -/
def readList? (s : String) : Option (List Endpoint) := Json.readRecord? (Json.Tree.list? ofTree?) s

/-- The endpoints of fixed addresses. -/
def fixed (urls : List String) : List Endpoint :=
  urls.zipIdx.map fun p => ⟨"static-" ++ Number.decimalText p.2, p.1⟩

end Endpoint

/-! ## Choice -/

/-- How one of several candidates is chosen. -/
inductive Selector
  | first
  | last
  /-- The candidates in turn. -/
  | cycle
  /-- Never any. -/
  | none
deriving DecidableEq, Repr, Inhabited

namespace Selector

/-- The chosen candidate; `turn` counts the choices so far. -/
def choose (s : Selector) (turn : Nat) (candidates : List Endpoint) : Option Endpoint :=
  match s with
  | first => candidates.head?
  | last => candidates.getLast?
  | cycle => candidates[turn % candidates.length]?
  | none => Option.none

/-- What is chosen is a candidate. -/
theorem mem_of_choose {s : Selector} {turn : Nat} {candidates : List Endpoint} {e : Endpoint}
    (h : s.choose turn candidates = some e) : e ∈ candidates := by
  cases s with
  | first => exact List.mem_of_head? h
  | last => exact List.mem_of_getLast? h
  | cycle => exact List.mem_of_getElem? h
  | none => simp [choose] at h

/-- The endpoints among which is chosen: those that have not been tried, or all if every one has. -/
def candidates (tried : List String) (endpoints : List Endpoint) : List Endpoint :=
  let untried := endpoints.filter fun e => !tried.contains e.id
  if untried.isEmpty then endpoints else untried

/-- **Pick an endpoint**, preferring those that have not been tried, in any way of choosing. -/
def pickBy (choose : List Endpoint → Option Endpoint) (tried : List String)
    (endpoints : List Endpoint) : Option Endpoint :=
  choose (candidates tried endpoints)

/-- Pick an endpoint in the way of a selector. -/
def pick (s : Selector) (turn : Nat) (tried : List String) (endpoints : List Endpoint) :
    Option Endpoint :=
  pickBy (s.choose turn) tried endpoints

section Preference

variable {s : Selector} {turn : Nat} {tried : List String} {endpoints : List Endpoint}
  {e : Endpoint}

theorem mem_of_mem_candidates (h : e ∈ candidates tried endpoints) : e ∈ endpoints := by
  simp only [candidates] at h
  split at h
  · exact h
  · exact (List.mem_filter.1 h).1

/-- While there is an endpoint that has not been tried, no other is a candidate. -/
theorem not_tried_of_mem_candidates (h : e ∈ candidates tried endpoints)
    (hu : ∃ u ∈ endpoints, u.id ∉ tried) : e.id ∉ tried := by
  obtain ⟨u, hu, hn⟩ := hu
  have hne : (endpoints.filter fun e => !tried.contains e.id).isEmpty = false := by
    rw [List.isEmpty_eq_false_iff_exists_mem]
    exact ⟨u, List.mem_filter.2 ⟨hu, by simpa using hn⟩⟩
  simp only [candidates, hne, Bool.false_eq_true, if_false, List.mem_filter] at h
  simpa using h.2

/-- An endpoint that has not been tried is preferred. -/
theorem not_tried_of_pick (h : s.pick turn tried endpoints = some e)
    (hu : ∃ u ∈ endpoints, u.id ∉ tried) : e.id ∉ tried :=
  not_tried_of_mem_candidates (mem_of_choose h) hu

end Preference

end Selector

end LiveConfig
