import LiveConfig.Json.Tree

/-!
# Reading JSON

From text to the document as written. Blanks are space, tab, line feed and carriage return; nothing
but blanks may follow the document.

## Structure

Literals are read by recursion on the text. Values, items and members call each other and carry the
length of the text as fuel: each of them uses up at least one character, so it never runs out.
-/

namespace LiveConfig.Json

/-! ## §1 Blanks and words -/

/-- A blank between tokens. -/
def isBlank (c : Char) : Bool := c == ' ' || c == '\t' || c == '\n' || c == '\r'

/-- Drop the blanks at the front. -/
def skipBlanks (s : List Char) : List Char := s.dropWhile isBlank

/-- What follows a given word, if the text begins with it. -/
def afterWord? : List Char → List Char → Option (List Char)
  | [], s => some s
  | _, [] => none
  | w :: ws, c :: rest => if w == c then afterWord? ws rest else none

/-! ## §2 Strings -/

/-- A piece of a string literal: a character, or a 16-bit unit given by an escape. -/
inductive Piece
  | char (c : Char)
  | unit (u : Nat)
deriving DecidableEq, Repr

/-- The character of a one-letter escape. -/
def escaped? : Char → Option Char
  | '"' => some '"'
  | '\\' => some '\\'
  | '/' => some '/'
  | 'b' => some '\x08'
  | 'f' => some '\x0c'
  | 'n' => some '\n'
  | 'r' => some '\r'
  | 't' => some '\t'
  | _ => none

/-- The unit written by four hexadecimal digits. -/
def unit? (a b c d : Char) : Option Nat := Number.readDigits? 16 [a, b, c, d]

/-- The pieces of a string literal behind its opening quote, and what follows the closing one. A
control character may not stand in it unescaped. -/
def pieces? : List Char → Option (List Piece × List Char)
  | [] => none
  | '"' :: rest => some ([], rest)
  | '\\' :: 'u' :: a :: b :: c :: d :: rest => do
    let u ← unit? a b c d
    let (ps, rest) ← pieces? rest
    pure (.unit u :: ps, rest)
  -- An escape of a unit with fewer than four characters behind it ends up here, and fails.
  | '\\' :: e :: rest => do
    let c ← escaped? e
    let (ps, rest) ← pieces? rest
    pure (.char c :: ps, rest)
  | c :: rest => do
    if c.toNat < 0x20 || c == '\\' then none
    let (ps, rest) ← pieces? rest
    pure (.char c :: ps, rest)

/-- The text of pieces: units above the basic plane come in pairs, and no half stands alone. -/
def assemble? : List Piece → Option (List Char)
  | [] => some []
  | .char c :: rest => (assemble? rest).map (c :: ·)
  | .unit u :: rest =>
    if 0xD800 ≤ u ∧ u < 0xDC00 then
      match rest with
      | .unit v :: rest =>
        if 0xDC00 ≤ v ∧ v < 0xE000 then
          (assemble? rest).map (Char.ofNat (0x10000 + (u - 0xD800) * 0x400 + (v - 0xDC00)) :: ·)
        else none
      | _ => none
    else if 0xDC00 ≤ u ∧ u < 0xE000 then none
    else (assemble? rest).map (Char.ofNat u :: ·)

/-- A string literal behind its opening quote: the text it denotes, if any, and what follows. -/
def string? (s : List Char) : Option (Option String × List Char) :=
  (pieces? s).map fun p => ((assemble? p.1).map String.ofList, p.2)

/-! ## §3 Numbers -/

/-- The digits before the point: a zero alone, or digits that do not begin with zero. -/
def whole? (s : List Char) : Option (List Char × List Char) :=
  let (ds, rest) := Number.spanDigits s
  match ds with
  | [] => none
  | '0' :: _ :: _ => none
  | ds => some (ds, rest)

/-- The digits behind a point, if there is one; at least one has to follow it. -/
def fraction? : List Char → Option (Option (List Char) × List Char)
  | '.' :: rest =>
    let (ds, rest) := Number.spanDigits rest
    if ds.isEmpty then none else some (some ds, rest)
  | s => some (none, s)

/-- The exponent behind its mark, if there is one: whether it is negative, and its digits. -/
def exponent? : List Char → Option (Option (Bool × List Char) × List Char)
  | c :: rest =>
    if c == 'e' || c == 'E' then
      let (down, rest) := match rest with
        | '-' :: rest => (true, rest)
        | '+' :: rest => (false, rest)
        | rest => (false, rest)
      let (ds, rest) := Number.spanDigits rest
      if ds.isEmpty then none else some (some (down, ds), rest)
    else some (none, c :: rest)
  | [] => some (none, [])

/-- A numeral and what follows it. -/
def numeral? (s : List Char) : Option (JsonNumber.Numeral × List Char) := do
  let (negative, s) := match s with
    | '-' :: rest => (true, rest)
    | s => (false, s)
  let (whole, s) ← whole? s
  let (fraction, s) ← fraction? s
  let (exponent, s) ← exponent? s
  pure (⟨negative, whole, fraction, exponent⟩, s)

/-! ## §4 Values -/

mutual
/-- A value and what follows it. -/
def readValue? : Nat → List Char → Option (Tree × List Char)
  | 0, _ => none
  | fuel + 1, s =>
    match skipBlanks s with
    | [] => none
    | '{' :: rest =>
      match skipBlanks rest with
      | '}' :: rest => some (.object [], rest)
      | rest => (readMembers? fuel rest).map fun p => (.object p.1, p.2)
    | '[' :: rest =>
      match skipBlanks rest with
      | ']' :: rest => some (.array [], rest)
      | rest => (readItems? fuel rest).map fun p => (.array p.1, p.2)
    | '"' :: rest => (string? rest).map fun p => (.text p.1, p.2)
    | 'n' :: rest => (afterWord? ['u', 'l', 'l'] rest).map fun r => (.null, r)
    | 't' :: rest => (afterWord? ['r', 'u', 'e'] rest).map fun r => (.bool true, r)
    | 'f' :: rest => (afterWord? ['a', 'l', 's', 'e'] rest).map fun r => (.bool false, r)
    | s => (numeral? s).map fun p => (.number (JsonNumber.ofNumeral? p.1), p.2)

/-- One or more items up to the closing bracket. -/
def readItems? : Nat → List Char → Option (List Tree × List Char)
  | 0, _ => none
  | fuel + 1, s => do
    let (item, rest) ← readValue? fuel s
    match skipBlanks rest with
    | ',' :: rest => (readItems? fuel rest).map fun p => (item :: p.1, p.2)
    | ']' :: rest => some ([item], rest)
    | _ => none

/-- One or more members up to the closing brace. -/
def readMembers? : Nat → List Char → Option (List (Option String × Tree) × List Char)
  | 0, _ => none
  | fuel + 1, s => do
    match skipBlanks s with
    | '"' :: rest =>
      let (name, rest) ← string? rest
      match skipBlanks rest with
      | ':' :: rest =>
        let (value, rest) ← readValue? fuel rest
        match skipBlanks rest with
        | ',' :: rest => (readMembers? fuel rest).map fun p => ((name, value) :: p.1, p.2)
        | '\x7d' :: rest => some ([(name, value)], rest)
        | _ => none
      | _ => none
    | _ => none
end

/-- **Reading a document**: the tree of a text that holds one value and nothing else. -/
def readTree? (s : List Char) : Option Tree :=
  match readValue? (s.length + 1) s with
  | some (t, rest) => if (skipBlanks rest).isEmpty then some t else none
  | none => none

/-- The value of a document. -/
def read? (s : String) : Option Json := (readTree? s.toList).bind Tree.value?

end LiveConfig.Json
