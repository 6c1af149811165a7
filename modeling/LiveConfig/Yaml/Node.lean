import LiveConfig.Yaml.TokenStream

/-!
# YAML nodes

The grammar that turns tokens into nodes. An anchor names the node behind it for the rest of the
document, and an alias refers to the number that its name was given last.

## Anchors

The number of an anchor is how many different names there have been. A name that is given again is
not counted again, so the next anchor may get the same number; of the nodes that share a number the
last one counts, even for the aliases in front of it.

All readers return `none` where the tokens do not fit the grammar.
-/

namespace LiveConfig.Yaml

/-! ## §1 Nodes -/

/-- A node of a document. -/
inductive Node
  | scalar (tag : Option Tag) (style : ScalarStyle) (text : String)
  | sequence (tag : Option Tag) (items : List Node)
  | mapping (tag : Option Tag) (members : List (Node × Node))
  /-- A reference to the anchor with that number. -/
  | alias (number : Nat)
deriving Repr, Inhabited

/-- The scalar that stands where nothing is written. -/
def Node.absent : Node := .scalar none .plain ""

/-- What is known while a document is being read. -/
structure Scope where
  /-- The expansions of tag handles. -/
  handles : List (List Char × Tag)
  /-- The numbers of anchors, the latest first. -/
  anchors : List (List Char × Nat)
  /-- How many different names they have. -/
  names : Nat
  /-- The place of each number among the nodes that carry an anchor, the latest first. -/
  places : List (Nat × Nat)
  /-- The nodes that carry an anchor, by their place. -/
  nodes : List (Nat × Node)
  /-- How many nodes and ends of collections have been read. -/
  events : Nat
deriving Repr

namespace Scope

/-- The start of a document with its tag directives. -/
def start (handles : List (List Char × Tag)) : Scope :=
  ⟨handles ++ [(['!'], Tag.lone), (['!', '!'], Tag.core "")], [], 0, [], [], 0⟩

/-- Number an anchor, if there is one, and take the next place for its node. -/
def enter (s : Scope) : Option (List Char) → Option Nat × Scope
  | none => (none, s)
  | some name =>
    let place := s.places.length
    (some place, { s with
      anchors := (name, s.names) :: s.anchors
      names := if (s.anchors.lookup name).isSome then s.names else s.names + 1
      places := (s.names, place) :: s.places })

/-- Put the node of an anchor at its place. -/
def leave (s : Scope) (place : Option Nat) (n : Node) : Scope :=
  match place with
  | none => s
  | some k => { s with nodes := (k, n) :: s.nodes }

/-- Count what has been read. -/
def tick (s : Scope) (n : Nat) : Scope := { s with events := s.events + n }

/-- The full form of a tag; a handle has to be known. -/
def resolve? (s : Scope) (handle : List Char) (suffix : Tag) : Option Tag :=
  if handle.isEmpty then some suffix else (s.handles.lookup handle).map (· ++ suffix)

end Scope

/-! ## §2 Properties -/

/-- The anchor and the tag in front of a node, in either order, at most one of each. -/
structure Properties where
  anchor : Option (List Char)
  tag : Option (List Char × Tag)
deriving Repr

/-- Read the properties of a node. -/
def properties : List Token → Properties × List Token
  | .anchor a :: .tag h s :: rest => (⟨some a, some (h, s)⟩, rest)
  | .tag h s :: .anchor a :: rest => (⟨some a, some (h, s)⟩, rest)
  | .anchor a :: rest => (⟨some a, none⟩, rest)
  | .tag h s :: rest => (⟨none, some (h, s)⟩, rest)
  | rest => (⟨none, none⟩, rest)

/-- The tag of properties in full form. -/
def Properties.tag? (p : Properties) (s : Scope) : Option (Option Tag) :=
  match p.tag with
  | none => some none
  | some (h, t) => (s.resolve? h t).map some

/-! ## §3 The grammar -/

/-- What a reader of the grammar yields: a result, the tokens behind it, and what is known then. -/
abbrev Read (α : Type) := α × List Token × Scope

mutual
/-- A node. Block collections are allowed in a block context only, and a block sequence may stand
at the indentation of the mapping around it where `indentless` says so. -/
def readNode? : Nat → Bool → Bool → List Token → Scope → Option (Read Node)
  | 0, _, _, _, _ => none
  | _, _, _, .alias name :: rest, s =>
    (s.anchors.lookup name).map fun k => (.alias k, rest, s.tick 1)
  | fuel + 1, block, indentless, ts, s => do
    let (p, ts) := properties ts
    let tag ← p.tag? s
    let (place, s) := s.enter p.anchor
    let (n, ts, s) ← match ts with
      | .blockEntry :: _ =>
        if indentless then
          (readIndentless? fuel ts (s.tick 2)).map fun r => (Node.sequence tag r.1, r.2)
        else if p.anchor.isSome || p.tag.isSome then some (.scalar tag .plain "", ts, s.tick 1)
        else none
      | .scalar text style :: rest =>
        some (.scalar tag style (String.ofList text), rest, s.tick 1)
      | .flowSequenceStart :: rest =>
        (readFlowItems? fuel true rest (s.tick 2)).map fun r => (Node.sequence tag r.1, r.2)
      | .flowMappingStart :: rest =>
        (readFlowMembers? fuel true rest (s.tick 2)).map fun r => (Node.mapping tag r.1, r.2)
      | ts =>
        let bare : Option (Read Node) :=
          if p.anchor.isSome || p.tag.isSome then some (.scalar tag .plain "", ts, s.tick 1)
          else none
        match block, ts with
        | true, .blockSequenceStart :: rest =>
          (readBlockItems? fuel rest (s.tick 2)).map fun r => (Node.sequence tag r.1, r.2)
        | true, .blockMappingStart :: rest =>
          (readBlockMembers? fuel rest (s.tick 2)).map fun r => (Node.mapping tag r.1, r.2)
        | _, _ => bare
    pure (n, ts, s.leave place n)

/-- A node, unless one of the given tokens follows at once; then nothing is written there. -/
def readNodeUnless? : Nat → Bool → Bool → (Token → Bool) → List Token → Scope → Option (Read Node)
  | 0, _, _, _, _, _ => none
  | fuel + 1, block, indentless, ends, ts, s =>
    match ts with
    | t :: _ =>
      if ends t then some (.absent, ts, s.tick 1) else readNode? fuel block indentless ts s
    | [] => none

/-- The items of a block sequence behind its start. -/
def readBlockItems? : Nat → List Token → Scope → Option (Read (List Node))
  | 0, _, _ => none
  | fuel + 1, .blockEntry :: ts, s => do
    let ends (t : Token) : Bool := t == .blockEntry || t == .blockEnd
    let (n, ts, s) ← readNodeUnless? fuel true false ends ts s
    let (ns, ts, s) ← readBlockItems? fuel ts s
    pure (n :: ns, ts, s)
  | _, .blockEnd :: ts, s => some ([], ts, s)
  | _, _, _ => none

/-- The items of a block sequence that has no indentation of its own. -/
def readIndentless? : Nat → List Token → Scope → Option (Read (List Node))
  | 0, _, _ => none
  | fuel + 1, .blockEntry :: ts, s => do
    let ends (t : Token) : Bool :=
      t == .blockEntry || t == .key || t == .value || t == .blockEnd
    let (n, ts, s) ← readNodeUnless? fuel true false ends ts s
    let (ns, ts, s) ← readIndentless? fuel ts s
    pure (n :: ns, ts, s)
  | _, ts, s => some ([], ts, s)

/-- The members of a block mapping behind its start. -/
def readBlockMembers? : Nat → List Token → Scope → Option (Read (List (Node × Node)))
  | 0, _, _ => none
  | fuel + 1, .key :: ts, s => do
    let ends (t : Token) : Bool := t == .key || t == .value || t == .blockEnd
    let (k, ts, s) ← readNodeUnless? fuel true true ends ts s
    let (v, ts, s) ← match ts with
      | .value :: ts => readNodeUnless? fuel true true ends ts s
      | ts => some (.absent, ts, s.tick 1)
    let (ms, ts, s) ← readBlockMembers? fuel ts s
    pure ((k, v) :: ms, ts, s)
  | _, .blockEnd :: ts, s => some ([], ts, s)
  | _, _, _ => none

/-- The items of a flow sequence behind its start or behind an item. -/
def readFlowItems? : Nat → Bool → List Token → Scope → Option (Read (List Node))
  | 0, _, _, _ => none
  | fuel + 1, isFirst, ts, s =>
    match ts with
    | .flowSequenceEnd :: ts => some ([], ts, s)
    | ts => do
      let ts ← if isFirst then some ts else match ts with
        | .flowEntry :: ts => some ts
        | _ => none
      match ts with
      | .flowSequenceEnd :: ts => some ([], ts, s)
      | .key :: ts =>
        let (m, ts, s) ← readPair? fuel ts (s.tick 2)
        let (ns, ts, s) ← readFlowItems? fuel false ts s
        pure (.mapping none [m] :: ns, ts, s)
      | ts =>
        let (n, ts, s) ← readNode? fuel false false ts s
        let (ns, ts, s) ← readFlowItems? fuel false ts s
        pure (n :: ns, ts, s)

/-- A single member that stands as an item of a flow sequence, behind its key mark. Where the key
is not written, the token in its place is passed over. -/
def readPair? : Nat → List Token → Scope → Option (Read (Node × Node))
  | 0, _, _ => none
  | fuel + 1, ts, s => do
    let ends (t : Token) : Bool := t == .flowEntry || t == .flowSequenceEnd
    let (k, ts, s) ← match ts with
      | t :: rest =>
        if t == .value || ends t then some (.absent, rest, s.tick 1)
        else readNode? fuel false false ts s
      | [] => none
    let (v, ts, s) ← match ts with
      | .value :: ts => readNodeUnless? fuel false false ends ts s
      | ts => some (.absent, ts, s.tick 1)
    pure ((k, v), ts, s)

/-- The members of a flow mapping behind its start or behind a member. -/
def readFlowMembers? : Nat → Bool → List Token → Scope → Option (Read (List (Node × Node)))
  | 0, _, _, _ => none
  | fuel + 1, isFirst, ts, s =>
    match ts with
    | .flowMappingEnd :: ts => some ([], ts, s)
    | ts => do
      let ends (t : Token) : Bool := t == .flowEntry || t == .flowMappingEnd
      let ts ← if isFirst then some ts else match ts with
        | .flowEntry :: ts => some ts
        | _ => none
      match ts with
      | .flowMappingEnd :: ts => some ([], ts, s)
      | .key :: ts =>
        let (k, ts, s) ← readNodeUnless? fuel false false (fun t => t == .value || ends t) ts s
        let (v, ts, s) ← match ts with
          | .value :: ts => readNodeUnless? fuel false false ends ts s
          | ts => some (.absent, ts, s.tick 1)
        let (ms, ts, s) ← readFlowMembers? fuel false ts s
        pure ((k, v) :: ms, ts, s)
      | ts =>
        let (k, ts, s) ← readNode? fuel false false ts s
        let (ms, ts, s) ← readFlowMembers? fuel false ts (s.tick 1)
        pure ((k, .absent) :: ms, ts, s)
end

/-! ## §4 Documents -/

/-- A document: its root, and the nodes that carry an anchor. -/
structure Document where
  root : Node
  /-- The place of each number of an anchor, the latest first. -/
  places : List (Nat × Nat)
  /-- The nodes that carry an anchor, by their place. -/
  nodes : List (Nat × Node)
  /-- How many nodes and ends of collections it has. -/
  events : Nat
deriving Repr

/-- The node that an alias with that number refers to. -/
def Document.target? (d : Document) (number : Nat) : Option Node :=
  (d.places.lookup number).bind fun place => d.nodes.lookup place

/-- The directives in front of a document: at most one version, which has to be 1.1 or 1.2, and at
most one expansion of each handle. -/
def directives? : Bool → List (List Char × Tag) → List Token →
    Option (List (List Char × Tag) × List Token)
  | seen, handles, .version major minor :: rest =>
    if seen || major != 1 || (minor != 1 && minor != 2) then none else directives? true handles rest
  | seen, handles, .tagDirective h e :: rest =>
    if (handles.lookup h).isSome then none else directives? seen (handles ++ [(h, e)]) rest
  | _, handles, rest => some (handles, rest)

/-- Whether a token ends the content of a document. -/
def endsDocument : Token → Bool
  | .version .. | .tagDirective .. | .documentStart | .documentEnd | .streamEnd => true
  | _ => false

/-- The document behind the directives, and what follows its end mark if there is one. -/
def readContent? (handles : List (List Char × Tag)) (isBare : Bool) (ts : List Token) :
    Option (Document × List Token) := do
  let fuel := 4 * ts.length + 8
  let s := Scope.start handles
  let (root, ts, s) ←
    if isBare then readNode? fuel true false ts s
    else readNodeUnless? fuel true false endsDocument ts s
  let ts := match ts with
    | .documentEnd :: ts => ts
    | ts => ts
  pure (⟨root, s.places, s.nodes, s.events⟩, ts)

/-- The documents of a text behind the first one. -/
def readDocuments? : Nat → List Token → Option (List Document)
  | 0, _ => none
  | fuel + 1, ts => do
    let ts := ts.dropWhile (· == .documentEnd)
    match ts with
    | [] => none
    | .streamEnd :: _ => some []
    | ts =>
      let (handles, ts) ← directives? false [] ts
      match ts with
      | .documentStart :: ts =>
        let (d, ts) ← readContent? handles false ts
        let ds ← readDocuments? fuel ts
        pure (d :: ds)
      | _ => none

/-- **The documents of a text.** Only the first may do without a start mark. -/
def documents? (s : List Char) : Option (List Document) := do
  let ts ← tokens? s
  match ts with
  | [] => none
  | t :: _ =>
    if t == .documentEnd || !endsDocument t then
      let (d, ts) ← readContent? [] true ts
      let ds ← readDocuments? (ts.length + 1) ts
      pure (d :: ds)
    else readDocuments? (ts.length + 1) ts

end LiveConfig.Yaml
