import LiveConfig.Number.Integer
import LiveConfig.Yaml.Cursor
import LiveConfig.Yaml.Token

/-!
# Scalars in a YAML text

Reading the five styles of scalar. What they share is the folding of line breaks: a single break
between two lines of a scalar reads as a space, and of several breaks the first is dropped.

All readers return `none` where the text is not well formed.
-/

namespace LiveConfig.Yaml

/-! ## §1 Gaps between the words of a scalar -/

/-- The blanks and breaks between two words of a scalar. -/
structure Gap where
  /-- Blanks in front of the first break. -/
  blanks : List Char
  /-- Whether the gap spans lines. -/
  broken : Bool
  /-- The first break. -/
  first : List Char
  /-- The breaks behind the first one. -/
  more : List Char
deriving Repr, DecidableEq

namespace Gap

/-- Nothing yet; `broken` says whether a line has ended already. -/
def start (broken : Bool) : Gap := ⟨[], broken, [], []⟩

/-- What breaks fold to. -/
def foldBreaks (first more : List Char) : List Char :=
  if first.head? == some '\n' then
    if more.isEmpty then [' '] else more
  else first ++ more

/-- What a gap reads as. -/
def text (g : Gap) : List Char := if g.broken then foldBreaks g.first g.more else g.blanks

end Gap

/-- Read blanks and breaks. Behind a break, a tab left of the column `margin` is refused. -/
def takeGap? (margin : Nat) : Nat → Gap → Cursor → Option (Gap × Cursor)
  | 0, g, c => some (g, c)
  | fuel + 1, g, c =>
    match c.peek? with
    | none => some (g, c)
    | some x =>
      if isBlank x then
        -- Behind a break, blanks are indentation, which must not be made of tabs.
        if g.broken && decide (c.column < margin) && x == '\t' then none
        else takeGap? margin fuel (if g.broken then g else { g with blanks := g.blanks ++ [x] })
          (c.advance 1)
      else if isBreak x then
        let (b, c) := c.takeBreak
        takeGap? margin fuel
          (if g.broken then { g with more := g.more ++ b }
            else { g with blanks := [], broken := true, first := b })
          c
      else some (g, c)

/-! ## §2 Quoted scalars -/

/-- The character of a one-letter escape in double quotes. -/
def escaped? : Char → Option Char
  | '0' => some '\x00'
  | 'a' => some '\x07'
  | 'b' => some '\x08'
  | 't' => some '\t'
  | '\t' => some '\t'
  | 'n' => some '\n'
  | 'v' => some '\x0b'
  | 'f' => some '\x0c'
  | 'r' => some '\r'
  | 'e' => some '\x1b'
  | ' ' => some ' '
  | '"' => some '"'
  | '/' => some '/'
  | '\\' => some '\\'
  | 'N' => some '\u0085'
  | '_' => some '\u00a0'
  | 'L' => some '\u2028'
  | 'P' => some '\u2029'
  | _ => none

/-- How many hexadecimal digits follow an escape letter. -/
def escapeWidth? : Char → Option Nat
  | 'x' => some 2
  | 'u' => some 4
  | 'U' => some 8
  | _ => none

/-- The character with the code point that hexadecimal digits give. -/
def hexChar? (digits : List Char) : Option Char :=
  (Number.readDigits? 16 digits).bind fun n =>
    if h : n.isValidChar then some (Char.ofNatAux n h) else none

/-- A run of a quoted scalar up to a blank, a break or the closing quote. An escaped line break ends
the run as well, which the flag reports. -/
def takeQuotedRun? (single : Bool) : Nat → Cursor → Option (List Char × Bool × Cursor)
  | 0, c => some ([], false, c)
  | fuel + 1, c =>
    let more (x : Char) (width : Nat) : Option (List Char × Bool × Cursor) :=
      (takeQuotedRun? single fuel (c.advance width)).map fun r => (x :: r.1, r.2)
    match c.peek? with
    | none => some ([], false, c)
    | some x =>
      if isBlank x || isBreak x then some ([], false, c)
      else if single then
        if x == '\'' then
          if c.peekAt? 1 == some '\'' then more '\'' 2 else some ([], false, c)
        else more x 1
      else if x == '"' then some ([], false, c)
      else if x == '\\' then
        match c.peekAt? 1 with
        | none => none
        | some e =>
          if isBreak e then some ([], true, (c.advance 1).takeBreak.2)
          else
            match escapeWidth? e with
            | some w =>
              let digits := (c.rest.drop 2).take w
              if digits.length < w then none
              else (hexChar? digits).bind fun y => more y (2 + w)
            | none => (escaped? e).bind fun y => more y 2
      else more x 1

/-- The rest of a quoted scalar, and the cursor behind its closing quote. -/
def takeQuoted? (single : Bool) : Nat → List Char → Cursor → Option (List Char × Cursor)
  | 0, _, _ => none
  | fuel + 1, acc, c =>
    if c.atAnyMark || c.atEnd then none
    else do
      let (run, broken, c) ← takeQuotedRun? single c.rest.length c
      if c.isAt (if single then '\'' else '"') then some (acc ++ run, c.advance 1)
      else
        let (gap, c) ← takeGap? 0 c.rest.length (Gap.start broken) c
        takeQuoted? single fuel (acc ++ run ++ gap.text) c

/-- A quoted scalar that starts at the cursor. -/
def quoted? (single : Bool) (c : Cursor) : Option (List Char × Cursor) :=
  takeQuoted? single (c.rest.length + 1) [] (c.advance 1)

/-! ## §3 Plain scalars -/

/-- Whether a character is a bracket of either kind or a comma. -/
def isFlowIndicator (x : Char) : Bool := x ∈ [',', '[', ']', '\x7b', '\x7d']

/-- A word of a plain scalar, up to what ends it. Inside brackets a colon in front of an indicator
is refused. -/
def takePlainRun? (inFlow : Bool) : Nat → Cursor → Option (List Char × Cursor)
  | 0, c => some ([], c)
  | fuel + 1, c =>
    match c.peek? with
    | none => some ([], c)
    | some x =>
      if isBlank x || isBreak x then some ([], c)
      else if inFlow && x == ':' && (c.peekAt? 1).any (fun y => isFlowIndicator y || y == '?') then
        none
      else if (x == ':' && c.endsWordAt 1) || (inFlow && isFlowIndicator x) then some ([], c)
      else (takePlainRun? inFlow fuel (c.advance 1)).map fun r => (x :: r.1, r.2)

/-- The rest of a plain scalar behind a gap: its text, whether it ended behind a line break, and the
cursor behind it. -/
def takePlain? (inFlow : Bool) (margin : Nat) :
    Nat → List Char → Gap → Cursor → Option (List Char × Bool × Cursor)
  | 0, _, _, _ => none
  | fuel + 1, acc, gap, c =>
    if c.atAnyMark || c.isAt '#' then some (acc, gap.broken, c)
    else do
      let (run, c) ← takePlainRun? inFlow c.rest.length c
      let (acc, gap) :=
        if run.isEmpty then (acc, gap) else (acc ++ gap.text ++ run, Gap.start false)
      if !(c.atBlank || c.atBreak) then some (acc, gap.broken, c)
      else
        let (gap, c) ← takeGap? margin c.rest.length gap c
        if !inFlow && decide (c.column < margin) then some (acc, gap.broken, c)
        else takePlain? inFlow margin fuel acc gap c

/-- A plain scalar that starts at the cursor; `margin` is the least column of its further lines. -/
def plain? (inFlow : Bool) (margin : Nat) (c : Cursor) : Option (List Char × Bool × Cursor) :=
  takePlain? inFlow margin (c.rest.length + 1) [] (Gap.start false) c

/-! ## §4 Block scalars -/

/-- What becomes of the line breaks at the end of a block scalar. -/
inductive Chomping
  | strip
  | clip
  | keep
deriving DecidableEq, Repr

/-- The header of a block scalar: its chomping and its explicit indentation. -/
def blockHeader? (c : Cursor) : Option (Chomping × Option Nat × Cursor) :=
  let chomping? (c : Cursor) : Option (Chomping × Cursor) :=
    if c.isAt '+' then some (.keep, c.advance 1)
    else if c.isAt '-' then some (.strip, c.advance 1)
    else none
  let digit? (c : Cursor) : Option Nat := c.peek?.bind (Number.digitIn? 10)
  match chomping? c with
  | some (ch, c) =>
    match digit? c with
    | some 0 => none
    | some d => some (ch, some d, c.advance 1)
    | none => some (ch, none, c)
  | none =>
    match digit? c with
    | some 0 => none
    | some d =>
      match chomping? (c.advance 1) with
      | some (ch, c) => some (ch, some d, c)
      | none => some (.clip, some d, c.advance 1)
    | none => some (.clip, none, c)

/-- Skip indentation and empty lines: the breaks, the widest indentation that was seen, and the
cursor at the next line with content. Without a known indentation any is skipped. A tab in place
of indentation is refused. -/
def takeIndentation? (indent : Option Nat) :
    Nat → Nat → List Char → Cursor → Option (List Char × Nat × Cursor)
  | 0, widest, breaks, c => some (breaks, widest, c)
  | fuel + 1, widest, breaks, c =>
    let spaces := (c.takeWhile (· == ' ')).1.length
    let c := c.advance (match indent with
      | none => spaces
      | some n => min spaces (n - c.column))
    let widest := max widest c.column
    if indent.all (c.column < ·) && c.isAt '\t' then none
    else if c.atBreak then
      let (b, c) := c.takeBreak
      takeIndentation? indent fuel widest (breaks ++ b) c
    else some (breaks, widest, c)

/-- The lines of a block scalar. `first` and `more` are the breaks in front of the line at the
cursor, `blankBefore` tells whether the line before them began with a blank. -/
def takeBlockLines? (folded : Bool) (indent : Nat) :
    Nat → List Char → Bool → List Char → List Char → Cursor →
      Option (List Char × List Char × List Char × Cursor)
  | 0, _, _, _, _, _ => none
  | fuel + 1, acc, blankBefore, first, more, c =>
    if c.column == indent && !c.atEnd then do
      let blank := c.atBlank
      -- Lines that begin with a blank keep the breaks on both sides of them.
      let joint :=
        if folded && first.head? == some '\n' && !blankBefore && !blank then
          if more.isEmpty then [' '] else more
        else first ++ more
      let (line, c) := c.takeWhile fun _ => true
      let (first, c) := c.takeBreak
      let (more, _, c) ← takeIndentation? (some indent) (c.rest.length + 1) 0 [] c
      takeBlockLines? folded indent fuel (acc ++ joint ++ line) blank first more c
    else some (acc, first, more, c)

/-- A block scalar that starts at the cursor, inside a block of the given indentation. -/
def block? (folded : Bool) (parent : Int) (c : Cursor) : Option (List Char × Cursor) := do
  let (chomping, explicit, c) ← blockHeader? (c.advance 1)
  let c ← c.finishLine?
  let given := explicit.map fun n => if 0 ≤ parent then parent.toNat + n else n
  let (more, widest, c) ← takeIndentation? given (c.rest.length + 1) 0 [] c
  let indent := given.getD (max widest (max (parent + 1).toNat 1))
  let (text, first, more, c) ← takeBlockLines? folded indent (c.rest.length + 1) [] false [] more c
  let tail := match chomping with
    | .strip => []
    | .clip => first
    | .keep => first ++ more
  pure (text ++ tail, c)

end LiveConfig.Yaml
