import LiveConfig.Entries
import LiveConfig.Json.Reader
import LiveConfig.Yaml.Document

/-!
# Documents as entries

A structured document is viewed as flat entries: every leaf is named by the path that leads to it,
member names joined by dots and positions in brackets.

## Leaves

Texts, numbers, truth values and nulls are leaves; empty objects and arrays have none. Where two
leaves have one name the later one counts, at the place of the earlier.
-/

namespace LiveConfig

namespace Document

/-! ## §1 Paths -/

/-- The name of a member below a path; at the top it is the name of the member itself. -/
def memberPath (path name : String) : String :=
  if path.isEmpty then name else path ++ "." ++ name

/-- The name of the item at a position below a path. -/
def itemPath (path : String) (index : Nat) : String :=
  path ++ "[" ++ Number.decimalText index ++ "]"

/-! ## §2 Flattening -/

mutual
/-- The leaves of a value that stands at a path, in document order, with their texts. -/
def leaves (path : String) : Json → List (String × String)
  | .null => [(path, "")]
  | .bool b => [(path, if b then "true" else "false")]
  | .number n => [(path, n.text)]
  | .text s => [(path, s)]
  | .array items => itemLeaves path 0 items
  | .object members => memberLeaves path members

/-- The leaves of items, the first of which has the given position. -/
def itemLeaves (path : String) (index : Nat) : List Json → List (String × String)
  | [] => []
  | v :: rest => leaves (itemPath path index) v ++ itemLeaves path (index + 1) rest

/-- The leaves of members. -/
def memberLeaves (path : String) : List (String × Json) → List (String × String)
  | [] => []
  | (name, v) :: rest => leaves (memberPath path name) v ++ memberLeaves path rest
end

/-- **A document as flat entries**; only an object can be viewed like that. -/
def flatten? : Json → Option Entries
  | .object members => some (Entries.ofList (memberLeaves "" members))
  | _ => none

end Document

/-! ## §3 YAML documents -/

namespace Yaml

/-- Whether an integer fits into 64 bits, signed or unsigned. -/
def fits64 (i : Int) : Bool := -(1 <<< 63 : Nat) ≤ i && i < UInt64.size

mutual
/-- A YAML value in terms of JSON: infinities and what is no number become null, and an integer has
to fit into 64 bits. -/
def Value.toJson? : Value → Option Json
  | .null => some .null
  | .bool b => some (.bool b)
  | .int i => if fits64 i then some (.ofInt i) else none
  | .float x => some (if x.isFinite then .number (.float x) else .null)
  | .text s => some (.text s)
  | .list items => (toJsonItems? items).map .array
  | .map members => (toJsonMembers? members).map .object

/-- Items in terms of JSON. -/
def toJsonItems? : List Value → Option (List Json)
  | [] => some []
  | v :: rest => do
    let j ← v.toJson?
    let js ← toJsonItems? rest
    pure (j :: js)

/-- Members in terms of JSON. -/
def toJsonMembers? : List (String × Value) → Option (List (String × Json))
  | [] => some []
  | (name, v) :: rest => do
    let j ← v.toJson?
    let js ← toJsonMembers? rest
    pure ((name, j) :: js)
end

/-- The JSON value of a YAML text. -/
def readJson? (s : String) : Option Json :=
  (read? s).bind fun members => (toJsonMembers? members).map .object

end Yaml

end LiveConfig
