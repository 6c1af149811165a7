import LiveConfig.Yaml.ScalarText

/-!
# The tokens of a YAML text

Cutting a text into tokens. Two kinds of token are implied by the layout rather than written:

- starts and ends of block collections, which follow from indentation (§3);
- the mark in front of an implicit key, which is known only when the colon behind it is reached and
  is then inserted where the key began (§4).

All readers return `none` where the text is not well formed.
-/

namespace LiveConfig.Yaml

/-! ## §1 Directives, anchors and tags -/

/-- A number of at most nine digits. -/
def versionNumber? (c : Cursor) : Option (Nat × Cursor) :=
  let (ds, c) := c.takeWhile Number.isDigit
  if 9 < ds.length then none else (Number.readDigits? 10 ds).map (·, c)

/-- The number of a version directive. -/
def version? (c : Cursor) : Option (Token × Cursor) := do
  let (major, c) ← versionNumber? c.skipBlanks
  if !c.isAt '.' then none
  let (minor, c) ← versionNumber? (c.advance 1)
  pure (.version major minor, c)

/-- A tag handle: an exclamation mark, and a word with a second one if there is one. In a directive
only a single mark or a closed handle will do. -/
def tagHandle? (inDirective : Bool) (c : Cursor) : Option (List Char × Cursor) :=
  if !c.isAt '!' then none
  else
    let (word, c) := (c.advance 1).takeWhile isWord
    if c.isAt '!' then some ('!' :: word ++ ['!'], c.advance 1)
    else if inDirective && !word.isEmpty then none
    else some ('!' :: word, c)

/-- A character of a tag that stands for itself; brackets and commas only in the verbatim form. -/
def isTagChar (verbatim : Bool) (x : Char) : Bool :=
  isWord x
    || x ∈ [';', '/', '?', ':', '@', '&', '=', '+', '$', '.', '!', '~', '*', '\'', '(', ')']
    || (verbatim && x ∈ [',', '[', ']'])

/-- The octet written by a percent sign and two hexadecimal digits. -/
def percentOctet? (c : Cursor) : Option (UInt8 × Cursor) :=
  match c.rest with
  | '%' :: a :: b :: _ =>
    (Number.readDigits? 16 [a, b]).map fun n => (UInt8.ofNat n, c.advance 3)
  | _ => none

/-- How many octets a character takes, by its first octet. -/
def octetWidth? (b : UInt8) : Option Nat :=
  if b < 0x80 then some 1
  else if b &&& 0xE0 == 0xC0 then some 2
  else if b &&& 0xF0 == 0xE0 then some 3
  else if b &&& 0xF8 == 0xF0 then some 4
  else none

/-- Octets that follow the first one of a character. -/
def moreOctets? : Nat → List UInt8 → Cursor → Option (List UInt8 × Cursor)
  | 0, acc, c => some (acc, c)
  | n + 1, acc, c =>
    match percentOctet? c with
    | some (b, c) => if b &&& 0xC0 == 0x80 then moreOctets? n (acc ++ [b]) c else none
    | none => none

/-- A character of a tag written in percent form. Only the widths have to be right: octets that no
character has are accepted. -/
def percentChar? (c : Cursor) : Option (List UInt8 × Cursor) := do
  let (b, c) ← percentOctet? c
  let width ← octetWidth? b
  moreOctets? (width - 1) [b] c

/-- The octets of a tag. -/
def tagOctets? (verbatim : Bool) : Nat → Tag → Cursor → Option (Tag × Cursor)
  | 0, acc, c => some (acc, c)
  | fuel + 1, acc, c =>
    match c.peek? with
    | none => some (acc, c)
    | some x =>
      if x == '%' then
        (percentChar? c).bind fun p => tagOctets? verbatim fuel (acc ++ p.1) p.2
      else if isTagChar verbatim x then
        tagOctets? verbatim fuel (acc ++ String.utf8EncodeChar x) (c.advance 1)
      else some (acc, c)

/-- A tag text behind what has been read of it as a handle; it must not be empty. What stands behind
an octet of zero does not count. -/
def tagText? (verbatim : Bool) (head : List Char) (c : Cursor) : Option (Tag × Cursor) :=
  (tagOctets? verbatim (c.rest.length + 1) [] c).bind fun p =>
    if head.isEmpty && p.1.isEmpty then none
    else some ((Tag.ofText (head.drop 1) ++ p.1).takeWhile (· != 0), p.2)

/-- The handle and the expansion of a tag directive. -/
def tagDirective? (c : Cursor) : Option (Token × Cursor) := do
  let (handle, c) ← tagHandle? true c.skipBlanks
  if !c.atBlank then none
  let (expansion, c) ← tagText? true [] c.skipBlanks
  if !c.endsWordAt 0 then none
  pure (.tagDirective handle expansion, c)

/-- A directive, up to the end of its line. -/
def directive? (c : Cursor) : Option (Token × Cursor) := do
  let (name, c) := (c.advance 1).takeWhile isWord
  if !c.endsWordAt 0 then none
  let (t, c) ← match String.ofList name with
    | "YAML" => version? c
    | "TAG" => tagDirective? c
    | _ => none
  let c ← c.finishLine?
  pure (t, c)

/-- The name behind an anchor or alias mark. -/
def anchorName? (c : Cursor) : Option (List Char × Cursor) :=
  let (name, c) := (c.advance 1).takeWhile isWord
  let closed := c.endsWordAt 0 || c.peek?.any (· ∈ ['?', ':', ',', ']', '\x7d', '%', '@', '\x60'])
  if name.isEmpty || !closed then none else some (name, c)

/-- A tag: in angle brackets, behind a handle, or local. -/
def tagToken? (inFlow : Bool) (c : Cursor) : Option (Token × Cursor) := do
  let (t, c) ←
    if c.peekAt? 1 == some '<' then do
      let (suffix, c) ← tagText? true [] (c.advance 2)
      if c.isAt '>' then some (Token.tag [] suffix, c.advance 1) else none
    else do
      let (handle, c) ← tagHandle? false c
      if 2 ≤ handle.length && handle.getLast? == some '!' then
        let (suffix, c) ← tagText? false [] c
        pure (Token.tag handle suffix, c)
      else
        let (suffix, c) ← tagText? false handle c
        pure (if suffix.isEmpty then Token.tag [] Tag.lone else Token.tag ['!'] suffix, c)
  if (inFlow && c.isAt ',') || c.endsWordAt 0 then some (t, c) else none

/-! ## §2 The state between tokens -/

/-- A place where an implicit key may have begun. -/
structure KeyPlace where
  /-- Whether the layout makes a key obligatory here. -/
  required : Bool
  /-- The number of tokens in front of the key. -/
  position : Nat
  /-- The cursor at the key. -/
  mark : Cursor
deriving Repr, DecidableEq

/-- The state between two tokens. -/
structure Layout where
  cursor : Cursor
  /-- The tokens so far. -/
  tokens : List Token
  /-- The number of tokens so far. -/
  count : Nat
  /-- The column of the innermost block collection, `-1` outside of any. -/
  indent : Int
  /-- The columns of the block collections around it. -/
  outer : List Int
  /-- Whether an implicit key may begin at the cursor. -/
  keyAllowed : Bool
  /-- The place of a possible key in the block context or the innermost flow collection. -/
  place : Option KeyPlace
  /-- The places of the enclosing contexts; there are as many as open flow collections. -/
  outerPlaces : List (Option KeyPlace)
deriving Repr

namespace Layout

/-- The state at the start of a text. -/
def start (s : List Char) : Layout := ⟨Cursor.start s, [], 0, -1, [], true, none, []⟩

/-- Whether a flow collection is open. -/
def inFlow (l : Layout) : Bool := !l.outerPlaces.isEmpty

/-- Append a token. The list is kept in reverse. -/
def push (l : Layout) (t : Token) : Layout :=
  { l with tokens := t :: l.tokens, count := l.count + 1 }

/-- Insert a token behind the first `n` ones. -/
def insertAt (l : Layout) (n : Nat) (t : Token) : Layout :=
  -- The list is in reverse, so the tokens behind the place come first.
  let later := l.count - n
  { l with tokens := l.tokens.take later ++ t :: l.tokens.drop later, count := l.count + 1 }

/-! ## §3 Indentation -/

/-- Enter a block collection at a column right of the current one, with its start token inserted
behind the first `position` tokens. -/
def rollIndent (l : Layout) (column position : Nat) (t : Token) : Layout :=
  if !l.inFlow && decide (l.indent < column) then
    { l.insertAt position t with indent := column, outer := l.indent :: l.outer }
  else l

/-- Leave the block collections right of a column. -/
def unrollFrom : List Int → Layout → Int → Layout
  | outer, l, column =>
    if l.indent ≤ column then l
    else match outer with
      | [] => l
      | i :: rest => unrollFrom rest { l.push .blockEnd with indent := i, outer := rest } column

/-- Leave the block collections right of a column; in a flow collection indentation says nothing. -/
def unrollIndent (l : Layout) (column : Int) : Layout :=
  if l.inFlow then l else unrollFrom l.outer l column

/-! ## §4 Implicit keys -/

/-- Give up the possible key of this context; an obligatory one must not be given up. -/
def dropPlace? (l : Layout) : Option Layout :=
  if l.place.any (·.required) then none else some { l with place := none }

/-- Note that an implicit key may begin at the cursor. -/
def savePlace? (l : Layout) : Option Layout :=
  if l.keyAllowed then do
    let required := !l.inFlow && l.indent == l.cursor.column
    let l ← l.dropPlace?
    pure { l with place := some ⟨required, l.count, l.cursor⟩ }
  else some l

/-- A key has to be on one line and takes at most 1024 octets. -/
def isStale (c : Cursor) (p : KeyPlace) : Bool :=
  decide (p.mark.line < c.line) || decide (p.mark.index + 1024 < c.index)

/-- Forget the possible keys that have become too long; an obligatory one must not. -/
def dropStale? (l : Layout) : Option Layout :=
  let stale (p : Option KeyPlace) : Bool := p.any (isStale l.cursor)
  let keep (p : Option KeyPlace) : Option KeyPlace := if stale p then none else p
  if (l.place :: l.outerPlaces).any fun p => stale p && p.any (·.required) then none
  else some { l with place := keep l.place, outerPlaces := l.outerPlaces.map keep }

/-! ## §5 Tokens -/

/-- Skip blanks, comments and line breaks up to the next token. In the block context a line break
allows a key, and a tab is no blank where a key is allowed. -/
def skipToToken : Nat → Layout → Layout
  | 0, l => l
  | fuel + 1, l =>
    let c := l.cursor
    -- A mark of byte order at the start of a line is passed over, but it counts for the column.
    let c := if c.column == 0 && c.isAt '\ufeff' then c.advance 1 else c
    let c := (c.takeWhile fun x => x == ' ' || ((l.inFlow || !l.keyAllowed) && x == '\t')).2
    let c := if c.isAt '#' then (c.takeWhile fun _ => true).2 else c
    if c.atBreak then
      skipToToken fuel { l with cursor := c.takeBreak.2, keyAllowed := l.keyAllowed || !l.inFlow }
    else { l with cursor := c }

/-- Push a token of `n` characters and move behind it. -/
def take (l : Layout) (n : Nat) (t : Token) : Layout :=
  { l.push t with cursor := l.cursor.advance n }

/-- End all blocks in front of a directive or document mark. -/
def endBlocks? (l : Layout) : Option Layout :=
  (l.unrollIndent (-1)).dropPlace?.map fun l => { l with keyAllowed := false }

/-- Open a flow collection. -/
def openFlow? (l : Layout) (t : Token) : Option Layout := do
  let l ← l.savePlace?
  let l := { l with place := none, outerPlaces := l.place :: l.outerPlaces, keyAllowed := true }
  pure (l.take 1 t)

/-- Close a flow collection. -/
def closeFlow? (l : Layout) (t : Token) : Option Layout := do
  let l ← l.dropPlace?
  let l := match l.outerPlaces with
    | [] => l
    | p :: rest => { l with place := p, outerPlaces := rest }
  pure ({ l with keyAllowed := false }.take 1 t)

/-- A mark that may open a block collection: an entry, a key or a value without a simple key. -/
def blockMark? (l : Layout) (collection mark : Token) (keyAllowed : Bool) : Option Layout := do
  let l ←
    if l.inFlow then some l
    else if !l.keyAllowed then none
    else some (l.rollIndent l.cursor.column l.count collection)
  let l ← l.dropPlace?
  pure ({ l with keyAllowed }.take 1 mark)

/-- A colon: behind a possible key it turns it into one, otherwise it follows a written key. -/
def valueMark? (l : Layout) : Option Layout :=
  match l.place with
  | some p =>
    -- The mapping starts in front of its first key, so its token goes before the key mark.
    let l := (l.insertAt p.position .key).rollIndent p.mark.column p.position .blockMappingStart
    some ({ l with place := none, keyAllowed := false }.take 1 .value)
  | none =>
    if l.inFlow then some ({ l with keyAllowed := false }.take 1 .value)
    else if !l.keyAllowed then none
    else
      let l := l.rollIndent l.cursor.column l.count .blockMappingStart
      some ({ l with keyAllowed := true }.take 1 .value)

/-- A token that may begin an implicit key, read by a reader of its own. -/
def keyToken? (l : Layout) (read : Cursor → Option (Token × Cursor)) : Option Layout := do
  let l ← l.savePlace?
  let (t, c) ← read l.cursor
  pure { l.push t with cursor := c, keyAllowed := false }

/-- Whether a plain scalar may begin at the cursor. -/
def startsPlain (l : Layout) : Bool :=
  match l.cursor.peek? with
  | none => false
  | some x =>
    let indicators : List Char :=
      ['-', '?', ':', ',', '[', ']', '\x7b', '\x7d', '#', '&', '*', '!', '|', '>', '\'', '"', '%',
        '@', '\x60']
    if isBlank x || isBreak x then false
    else if x ∉ indicators then true
    else if x == '-' then !(l.cursor.peekAt? 1).any isBlank
    else if x == '?' || x == ':' then !l.inFlow && !l.cursor.endsWordAt 1
    else false

/-- A plain scalar; one that ends behind a line break allows a key again. -/
def plainToken? (l : Layout) : Option Layout := do
  let l ← l.savePlace?
  let (text, broken, c) ← plain? l.inFlow (l.indent + 1).toNat l.cursor
  pure { l.push (.scalar text .plain) with cursor := c, keyAllowed := broken }

/-- A block scalar. -/
def blockToken? (l : Layout) (folded : Bool) : Option Layout := do
  let l ← l.dropPlace?
  let (text, c) ← block? folded l.indent l.cursor
  pure { l.push (.scalar text (if folded then .folded else .literal)) with
    cursor := c, keyAllowed := true }

/-- A quoted scalar as a token. -/
def quotedToken? (single : Bool) (c : Cursor) : Option (Token × Cursor) :=
  (quoted? single c).map fun p =>
    (.scalar p.1 (if single then .singleQuoted else .doubleQuoted), p.2)

/-- The token at the cursor, and those that it implies. -/
def step? (l : Layout) : Option Layout := do
  let l ← (l.skipToToken (l.cursor.rest.length + 1)).dropStale?
  let l := l.unrollIndent l.cursor.column
  let c := l.cursor
  match c.peek? with
  | none =>
    let l ← (l.unrollIndent (-1)).dropPlace?
    pure ({ l with keyAllowed := false }.push .streamEnd)
  | some x =>
    if c.column == 0 && x == '%' then do
      let l ← l.endBlocks?
      let (t, c) ← directive? l.cursor
      pure { l.push t with cursor := c }
    else if c.atMark '-' then l.endBlocks?.map (·.take 3 .documentStart)
    else if c.atMark '.' then l.endBlocks?.map (·.take 3 .documentEnd)
    else if x == '[' then l.openFlow? .flowSequenceStart
    else if x == '\x7b' then l.openFlow? .flowMappingStart
    else if x == ']' then l.closeFlow? .flowSequenceEnd
    else if x == '\x7d' then l.closeFlow? .flowMappingEnd
    else if x == ',' then
      l.dropPlace?.map fun l => { l with keyAllowed := true }.take 1 .flowEntry
    else if x == '-' && c.endsWordAt 1 then l.blockMark? .blockSequenceStart .blockEntry true
    else if x == '?' && (l.inFlow || c.endsWordAt 1) then
      l.blockMark? .blockMappingStart .key (!l.inFlow)
    else if x == ':' && (l.inFlow || c.endsWordAt 1) then l.valueMark?
    else if x == '*' then
      l.keyToken? fun c => (anchorName? c).map fun p => (.alias p.1, p.2)
    else if x == '&' then
      l.keyToken? fun c => (anchorName? c).map fun p => (.anchor p.1, p.2)
    else if x == '!' then l.keyToken? (tagToken? l.inFlow)
    else if x == '|' && !l.inFlow then l.blockToken? false
    else if x == '>' && !l.inFlow then l.blockToken? true
    else if x == '\'' then l.keyToken? (quotedToken? true)
    else if x == '"' then l.keyToken? (quotedToken? false)
    else if l.startsPlain then l.plainToken?
    else none

/-- Read tokens up to the end of the text. -/
def run? : Nat → Layout → Option (List Token)
  | 0, _ => none
  | fuel + 1, l =>
    match l.step? with
    | none => none
    | some l =>
      match l.tokens with
      | .streamEnd :: _ => some l.tokens.reverse
      | _ => run? fuel l

end Layout

/-- **The tokens of a text.** -/
def tokens? (s : List Char) : Option (List Token) :=
  if s.all isAllowed then (Layout.start s).run? (s.length + 1) else none

end LiveConfig.Yaml
