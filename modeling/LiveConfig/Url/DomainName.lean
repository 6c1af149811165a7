import LiveConfig.Text.Composition
import LiveConfig.Text.Direction
import LiveConfig.Text.Joining
import LiveConfig.Url.Encoding
import LiveConfig.Url.NameMapping
import LiveConfig.Url.Punycode

/-!
# Domain names

The one form in ASCII of a name in any script. The characters of the name are mapped and composed,
the name is cut at its dots, and each label beyond ASCII is checked and encoded. A label that is
given in encoded form has to stand for one that would be encoded in this way.

## Checks

A label beyond ASCII does not begin with a mark (§2), holds invisible joiners only where they matter
(§2), and, if any label of the name is written from right to left, it has one direction (§3).
-/

namespace LiveConfig.Url

/-! ## §1 Mapping -/

/-- Whether a character belongs to ASCII. -/
def isAscii (c : Char) : Bool := c.toNat < 0x80

/-- The characters of a name as they are read; none if one of them is refused. -/
def mapName? (s : List Char) : Option (List Char) :=
  (s.mapM fun c =>
    match NameRule.ofChar c with
    | .keep => some [c]
    | .refuse => none
    | .replace others => some others).map List.flatten

/-- A name as it is read, with its characters composed. -/
def prepareName? (s : List Char) : Option (List Char) := (mapName? s).map Text.Composition.compose

/-- Whether a character has no place in the name of a host. -/
def deniedInName (c : Char) : Bool :=
  isControl c || " #%/:<>?@[\\]^|".toList.contains c

/-! ## §2 Labels -/

/-- Whether an invisible non-joiner stands between letters that would be joined; `before` is in
reverse. -/
def partsJoined (before after : List Char) : Bool :=
  ((before.dropWhile Text.Mark.isTransparent).head?.any Text.Joining.joinsNext)
    && ((after.dropWhile Text.Mark.isTransparent).head?.any Text.Joining.joinsPrevious)

/-- Whether invisible joiners and non-joiners stand only where they matter; `before` is in
reverse. -/
def joinersFit (before : List Char) : List Char → Bool
  | [] => true
  | c :: rest =>
    let afterVirama := before.head?.any Text.Mark.isVirama
    let fits :=
      if c == '\u200d' then afterVirama
      else if c == '\u200c' then afterVirama || partsJoined before rest
      else true
    fits && joinersFit (c :: before) rest

/-- Whether a label beyond ASCII is well formed, directions aside. -/
def isLabel (l : List Char) : Bool := !l.head?.any Text.Mark.isMark && joinersFit [] l

/-- A label in its own script and in ASCII. -/
structure Label where
  text : List Char
  ascii : List Char
deriving DecidableEq, Repr

/-- What marks a label as encoded. -/
def encodedMark : List Char := ['x', 'n', '-', '-']

/-- The longest label that is encoded, and the longest text that is decoded. -/
def maxLabel : Nat := 1000
def maxEncoded : Nat := 2000

/-- The label that an encoded text stands for. -/
def decodeLabel? (s : List Char) : Option (List Char) :=
  if maxEncoded < s.length || !s.all isAscii then none
  else
    (Punycode.decode? s).bind fun l =>
      if l.all isAscii || Punycode.encode l ≠ s || prepareName? l ≠ some l || !isLabel l
          || encodedMark.isPrefixOf l then none
      else some l

/-- Both forms of a label of a name as it is read. -/
def readLabel? (l : List Char) : Option Label :=
  if encodedMark.isPrefixOf l then
    (decodeLabel? (l.drop encodedMark.length)).map fun text => ⟨text, l⟩
  else if l.all isAscii then some ⟨l, l⟩
  else if maxLabel < l.length || !isLabel l then none
  else some ⟨l, encodedMark ++ Punycode.encode l⟩

/-! ## §3 Directions -/

/-- Whether a label is written from right to left, at least in part. -/
def runsBackward (l : List Char) : Bool :=
  l.any fun c =>
    match Text.Direction.ofChar c with
    | .rightToLeft | .arabicNumber => true
    | _ => false

/-- Whether a label has one direction: that of its first character. Its last one is a letter of that
direction or a number, and numbers of both kinds never go together from right to left. -/
def hasDirection (l : List Char) : Bool :=
  let ds := l.map Text.Direction.ofChar
  let last := (ds.reverse.dropWhile (· == .nonspacing)).head?
  match ds.head? with
  | none => true
  | some .leftToRight =>
    ds.all (fun d => d != .rightToLeft && d != .arabicNumber)
      && last.any fun d => d == .leftToRight || d == .europeanNumber
  | some .rightToLeft =>
    ds.all (· != .leftToRight)
      && last.any (fun d => d == .rightToLeft || d == .arabicNumber || d == .europeanNumber)
      && !(ds.contains .arabicNumber && ds.contains .europeanNumber)
  | _ => false

/-! ## §4 Names -/

/-- **A name in ASCII**, given by the octets of its text; none if it is no name. -/
def asciiName? (octets : List UInt8) : Option (List Char) := do
  let s ← String.fromUTF8? ⟨octets.toArray⟩
  let name ← prepareName? s.toList
  if name.any deniedInName then none
  let labels ← (name.splitOn '.').mapM readLabel?
  let backward := labels.any fun l => runsBackward l.text
  if backward && !labels.all (fun l => hasDirection l.text) then none
  pure (['.'].intercalate (labels.map Label.ascii))

end LiveConfig.Url
