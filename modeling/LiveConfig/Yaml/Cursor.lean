/-!
# Positions in a YAML text

A cursor is the text that is still to be read together with how far it is into the document. Line
breaks are line feed, carriage return, both together, next line, and the line and paragraph
separators; all but the two separators read as a line feed.
-/

namespace LiveConfig.Yaml

/-! ## §1 Character classes -/

/-- A character that ends a line. -/
def isBreak (c : Char) : Bool :=
  c == '\n' || c == '\r' || c == '\u0085' || c == '\u2028' || c == '\u2029'

/-- A space or a tab. -/
def isBlank (c : Char) : Bool := c == ' ' || c == '\t'

/-- A character of a name: a letter, a digit, a dash or an underscore. -/
def isWord (c : Char) : Bool := c.isAlphanum || c == '_' || c == '-'

/-- A character that may stand in a document at all. -/
def isAllowed (c : Char) : Bool :=
  let n := c.toNat
  n == 0x9 || n == 0xA || n == 0xD || (0x20 ≤ n && n ≤ 0x7E) || n == 0x85
    || (0xA0 ≤ n && n ≤ 0xFFFD) || 0x10000 ≤ n

/-! ## §2 Cursors -/

/-- The text still to be read, and the position where it starts. -/
structure Cursor where
  rest : List Char
  /-- The number of octets in front of it. -/
  index : Nat
  line : Nat
  /-- The number of characters of the line in front of it. -/
  column : Nat
deriving Repr, DecidableEq

namespace Cursor

/-- The start of a text. -/
def start (s : List Char) : Cursor := ⟨s, 0, 0, 0⟩

/-- The next character. -/
def peek? (c : Cursor) : Option Char := c.rest.head?

/-- The character `n` places ahead. -/
def peekAt? (c : Cursor) (n : Nat) : Option Char := c.rest[n]?

/-- Whether the next character is `x`. -/
def isAt (c : Cursor) (x : Char) : Bool := c.peek? == some x

/-- Whether the character `n` places ahead ends a word: a blank, a break or the end of the text. -/
def endsWordAt (c : Cursor) (n : Nat) : Bool :=
  match c.peekAt? n with
  | none => true
  | some x => isBlank x || isBreak x

/-- Whether the next character is a space or a tab. -/
def atBlank (c : Cursor) : Bool := c.peek?.any isBlank

/-- Whether the next character is a line break. -/
def atBreak (c : Cursor) : Bool := c.peek?.any isBreak

/-- Whether the text is exhausted. -/
def atEnd (c : Cursor) : Bool := c.rest.isEmpty

/-- How many octets the next `n` characters take. -/
def octets (c : Cursor) (n : Nat) : Nat :=
  (c.rest.take n).foldl (fun size ch => size + ch.utf8Size) 0

/-- Move on by `n` characters of the line. -/
def advance (c : Cursor) (n : Nat) : Cursor :=
  { c with rest := c.rest.drop n, index := c.index + c.octets n, column := c.column + n }

/-- Move on behind a line break, which is returned in its normal form. -/
def takeBreak (c : Cursor) : List Char × Cursor :=
  let next (n : Nat) : Cursor := ⟨c.rest.drop n, c.index + c.octets n, c.line + 1, 0⟩
  match c.rest with
  | '\r' :: '\n' :: _ => (['\n'], next 2)
  | x :: _ =>
    if x == '\u2028' || x == '\u2029' then ([x], next 1)
    else if isBreak x then (['\n'], next 1)
    else ([], c)
  | [] => ([], c)

/-- The longest run of characters of the line with a property, and the cursor behind it. -/
def takeWhile (c : Cursor) (p : Char → Bool) : List Char × Cursor :=
  let run := c.rest.takeWhile fun x => p x && !isBreak x
  (run, c.advance run.length)

/-- Skip spaces and tabs. -/
def skipBlanks (c : Cursor) : Cursor := (c.takeWhile isBlank).2

/-- Skip blanks, a comment and the end of the line; none if anything else stands there. -/
def finishLine? (c : Cursor) : Option Cursor :=
  let c := c.skipBlanks
  let c := if c.isAt '#' then (c.takeWhile fun _ => true).2 else c
  if c.atBreak then some c.takeBreak.2
  else if c.atEnd then some c
  else none

/-- Whether a document mark, three times the character `x`, stands at the start of the line. -/
def atMark (c : Cursor) (x : Char) : Bool :=
  c.column == 0 && c.rest.take 3 == [x, x, x] && c.endsWordAt 3

/-- Whether a document mark of either kind stands here. -/
def atAnyMark (c : Cursor) : Bool := c.atMark '-' || c.atMark '.'

end Cursor

end LiveConfig.Yaml
