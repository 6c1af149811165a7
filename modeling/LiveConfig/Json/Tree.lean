import LiveConfig.Json.Value
import LiveConfig.Sorted

/-!
# Documents as written

A JSON document as it stands on the page: members in their written order, repeated names and all.
A literal that is well formed but denotes nothing (a lone half of a surrogate pair, a number that is
too large) is kept as a hole, because a reader that skips the place where it stands does not mind.

## Main definitions

- `Tree.value?`: the value that a tree denotes, its objects sorted by name.
- `Tree.depth`: how deeply arrays and objects are nested.
-/

namespace LiveConfig.Json

/-- A JSON document as written. -/
inductive Tree
  | null
  | bool (b : Bool)
  | number (n : Option JsonNumber)
  | text (s : Option String)
  | array (items : List Tree)
  | object (members : List (Option String × Tree))
deriving Repr, Inhabited

namespace Tree

mutual
/-- How deeply arrays and objects are nested. -/
def depth : Tree → Nat
  | array items => depthItems items + 1
  | object members => depthMembers members + 1
  | _ => 0

/-- The greatest depth among items. -/
def depthItems : List Tree → Nat
  | [] => 0
  | t :: rest => max (depth t) (depthItems rest)

/-- The greatest depth among members. -/
def depthMembers : List (Option String × Tree) → Nat
  | [] => 0
  | (_, t) :: rest => max (depth t) (depthMembers rest)
end

mutual
/-- The value of a tree whatever its depth; none if a literal in it denotes nothing. -/
def denote? : Tree → Option Json
  | null => some .null
  | bool b => some (.bool b)
  | number n => n.map .number
  | text s => s.map .text
  | array items => (denoteItems? items).map .array
  | object members => (denoteMembers? members).map fun ms => .object (Sorted.ofList ms)

/-- The values of items. -/
def denoteItems? : List Tree → Option (List Json)
  | [] => some []
  | t :: rest => do
    let v ← denote? t
    let vs ← denoteItems? rest
    pure (v :: vs)

/-- The values of members, in written order. -/
def denoteMembers? : List (Option String × Tree) → Option (List (String × Json))
  | [] => some []
  | (name, t) :: rest => do
    let n ← name
    let v ← denote? t
    let vs ← denoteMembers? rest
    pure ((n, v) :: vs)
end

/-- The deepest nesting that is read. -/
def maxDepth : Nat := 127

/-- The value that a tree denotes, its objects sorted by name. -/
def value? (t : Tree) : Option Json := if t.depth ≤ maxDepth then t.denote? else none

end Tree

end LiveConfig.Json
