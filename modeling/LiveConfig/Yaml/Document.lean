import LiveConfig.Sorted
import LiveConfig.Yaml.Node
import LiveConfig.Yaml.Scalar

/-!
# The value of a YAML text

A text holds at most one document, and its root is a mapping; a text without a document, or with an
empty one, is the empty mapping.

## Reserved names

In every mapping but the root two names are reserved. A member `___figment_value_id` numbers the
mapping; its value is an integer of 64 bits without a sign, and it is left out. The value of a
member `___figment_value_value` stands for the whole mapping, whatever else that holds.

## Limits

Collections may be nested 128 deep, and aliases may be followed a hundred times as often as there
are nodes. An alias inside the node that it refers to therefore fails.
-/

namespace LiveConfig.Yaml

/-! ## §1 Nodes -/

/-- How many aliases may be followed. -/
def Document.maxJumps (d : Document) : Nat := 100 * d.events

/-- Follow an alias and count it. -/
def Document.follow? (d : Document) (n : Node) (jumps : Nat) : Option (Node × Nat) :=
  match n with
  | .alias k => if d.maxJumps ≤ jumps then none else (d.target? k).map (·, jumps + 1)
  | n => some (n, jumps)

/-- Evaluate nodes one after another with a running count. -/
def evalAll {α β : Type} (f : α → Nat → Option (β × Nat)) : List α → Nat → Option (List β × Nat)
  | [], jumps => some ([], jumps)
  | a :: rest, jumps => do
    let (b, jumps) ← f a jumps
    let (bs, jumps) ← evalAll f rest jumps
    pure (b :: bs, jumps)

/-- The text of a key; only a scalar is one, and its tag does not count. -/
def keyText? (d : Document) (n : Node) (jumps : Nat) : Option (String × Nat) :=
  match d.follow? n jumps with
  | some (.scalar _ _ s, jumps) => some (s, jumps)
  | _ => none

/-- A value inside mappings of one member each, by the parts of a dotted name from the outside in.
An empty part ends the name. -/
def nest : List (List Char) → Value → Value
  | [], v => v
  | part :: rest, v => if part.isEmpty then v else .map [(String.ofList part, nest rest v)]

/-- The value under the name of its local tag, if it has one. -/
def wrapTag (tag : Option Tag) (v : Value) : Value :=
  match tag.bind Tag.localName? with
  | some name => nest (name.toList.splitOn '.') v
  | none => v

/-- The value of a scalar. Under a local tag it has the value that it has without a tag. -/
def scalarNode? (tag : Option Tag) (style : ScalarStyle) (s : String) : Option Value :=
  if (tag.bind Tag.localName?).isSome then (scalarValue? none style s).map (wrapTag tag)
  else scalarValue? tag style s

/-! ## §2 Members -/

/-- The member that numbers its mapping. -/
def numberName : String := "___figment_value_id"

/-- The member whose value stands for its mapping. -/
def valueName : String := "___figment_value_value"

/-- The name and value of a member. -/
def member? (d : Document) (value : Node → Nat → Option (Value × Nat)) (m : Node × Node)
    (jumps : Nat) : Option ((String × Value) × Nat) := do
  let (k, jumps) ← keyText? d m.1 jumps
  let (v, jumps) ← value m.2 jumps
  pure ((k, v), jumps)

/-- The number of a mapping: an integer of 64 bits without a sign. -/
def number? (d : Document) (n : Node) (jumps : Nat) : Option (Value × Nat) :=
  match d.follow? n jumps with
  | some (.scalar tag style s, jumps) =>
    match scalarNode? tag style s with
    | some (.int i) => if 0 ≤ i && i < UInt64.size then some (.int i, jumps) else none
    | _ => none
  | _ => none

/-- The name and value of a member of a mapping with reserved names. -/
def innerMember? (d : Document) (value : Node → Nat → Option (Value × Nat)) (m : Node × Node)
    (jumps : Nat) : Option ((String × Value) × Nat) := do
  let (k, jumps) ← keyText? d m.1 jumps
  let (v, jumps) ← if k = numberName then number? d m.2 jumps else value m.2 jumps
  pure ((k, v), jumps)

/-- The value of a mapping with reserved names. -/
def mapValue (members : List (String × Value)) : Value :=
  match members.reverse.lookup valueName with
  | some v => v
  | none => .map (Sorted.ofList (members.filter fun m => m.1 ≠ numberName))

/-! ## §3 Evaluation -/

/-- The value of a node, where collections may be nested `depth` deep. -/
def eval? (d : Document) : Nat → Node → Nat → Option (Value × Nat)
  | 0, n, jumps =>
    match d.follow? n jumps with
    | some (.scalar tag style s, jumps) => (scalarNode? tag style s).map (·, jumps)
    | _ => none
  | depth + 1, n, jumps =>
    match d.follow? n jumps with
    | some (.scalar tag style s, jumps) => (scalarNode? tag style s).map (·, jumps)
    | some (.sequence tag items, jumps) => do
      let (vs, jumps) ← evalAll (eval? d depth) items jumps
      pure (wrapTag tag (.list vs), jumps)
    | some (.mapping tag members, jumps) => do
      let (vs, jumps) ← evalAll (innerMember? d (eval? d depth)) members jumps
      pure (wrapTag tag (mapValue vs), jumps)
    | _ => none

/-- The deepest nesting of collections. -/
def maxDepth : Nat := 128

/-- The members at the root of a document. -/
def rootMembers? (d : Document) : Option (List (String × Value)) :=
  match d.root with
  | .scalar _ .plain "" => some []
  | .mapping _ members => do
    let (vs, _) ← evalAll (member? d (eval? d (maxDepth - 1))) members 0
    pure (Sorted.ofList vs)
  | _ => none

/-- **Reading a YAML text**: the members of its root mapping, sorted by key. -/
def read? (s : String) : Option (List (String × Value)) :=
  match documents? s.toList with
  | some [] => some []
  | some [d] => rootMembers? d
  | _ => none

end LiveConfig.Yaml
