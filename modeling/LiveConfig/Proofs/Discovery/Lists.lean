import LiveConfig.Discovery.Endpoint
import LiveConfig.Proofs.Json.Records

/-!
# Lists of instances in documents

The answer of the meta server is a document that lists instances. A printed list is read as it was;
a text that is no array is no list, and only an array without items is the empty list.

## Main statements

- `Endpoint.readList?_listToJson`: a list is read as it was written.
- `Endpoint.readList?_eq_some_iff`: the texts of a list.
- `Endpoint.readList?_eq_nil_iff`: the texts of the empty list.
-/

namespace LiveConfig.Endpoint

variable {list : List Endpoint} {text : String}

theorem integral_toJson (e : Endpoint) : e.toJson.integral = true := by
  simp [toJson, Json.integral, Json.integralMembers]

/-- An instance is read as it was written. -/
theorem ofTree?_toJson (e : Endpoint) : ofTree? e.toJson.tree = some e := rfl

/-- **A list of instances is read as it was written.** -/
theorem readList?_listToJson (list : List Endpoint) :
    readList? (Json.compactText (listToJson list)) = some list := by
  have hintegral : (listToJson list).integral = true :=
    Json.integral_array fun e _ => integral_toJson e
  rw [readList?, Json.readRecord?_compactText hintegral]
  exact Json.Tree.list?_trees fun e _ => ofTree?_toJson e

/-- **The texts of a list** are arrays of which every item is an instance. -/
theorem readList?_eq_some_iff : readList? text = some list ↔
    ∃ ts, Json.readTree? text.toList = some (.array ts) ∧ ts.map ofTree? = list.map some := by
  unfold readList? Json.readRecord?
  rw [Option.bind_eq_some_iff]
  constructor
  · rintro ⟨t, htree, hlist⟩
    obtain ⟨ts, rfl, hitems⟩ := Json.Tree.list?_eq_some_iff.1 hlist
    exact ⟨ts, htree, hitems⟩
  · rintro ⟨ts, htree, hitems⟩
    exact ⟨_, htree, Json.Tree.list?_eq_some_iff.2 ⟨ts, rfl, hitems⟩⟩

/-- A text that does not begin with a bracket is no list. -/
theorem readList?_eq_none (h : (Json.skipBlanks text.toList).head? ≠ some '[') :
    readList? text = none := by
  rw [Option.eq_none_iff_forall_ne_some]
  intro list hlist
  obtain ⟨ts, htree, -⟩ := readList?_eq_some_iff.1 hlist
  exact h (Json.head?_of_readTree?_array htree)

/-- **The texts of the empty list** are two brackets, with blanks anywhere. -/
theorem readList?_eq_nil_iff : readList? text = some [] ↔ Json.dense text.toList = ['[', ']'] := by
  rw [readList?_eq_some_iff, ← Json.readTree?_eq_empty_iff]
  simp

end LiveConfig.Endpoint
