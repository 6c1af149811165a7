import LiveConfig.Number.FloatText
import LiveConfig.Yaml.Token

/-!
# What YAML scalars mean

The core schema: which plain scalars are null, booleans, integers and floating-point numbers, and
what the tags of these types ask for.

## Integers

Decimal, or with the prefix `0x`, `0o` or `0b`, and with an optional sign. A zero in front of
further digits makes a text of them.
-/

namespace LiveConfig.Yaml

/-! ## §1 Values -/

/-- The value of a YAML document; mappings are sorted by key. -/
inductive Value
  | null
  | bool (b : Bool)
  | int (i : Int)
  | float (x : Float)
  | text (s : String)
  | list (items : List Value)
  | map (members : List (String × Value))
deriving Repr, Inhabited

/-! ## §2 Plain scalars -/

/-- The words for null. -/
def isNull (s : String) : Bool := s ∈ ["null", "Null", "NULL", "~"]

/-- The words for the truth values. -/
def readBool? (s : String) : Option Bool :=
  if s ∈ ["true", "True", "TRUE"] then some true
  else if s ∈ ["false", "False", "FALSE"] then some false
  else none

/-- Digits behind a needless zero, with an optional sign: a text, not a number. -/
def hasLeadingZero (s : List Char) : Bool :=
  let s := match s with
    | '-' :: rest => rest
    | '+' :: rest => rest
    | s => s
  match s with
  | '0' :: d :: rest => (d :: rest).all Number.isDigit
  | _ => false

/-- The radix that a prefix announces, and the digits behind it. -/
def radix? : List Char → Option (Nat × List Char)
  | '0' :: 'x' :: rest => some (16, rest)
  | '0' :: 'o' :: rest => some (8, rest)
  | '0' :: 'b' :: rest => some (2, rest)
  | _ => none

/-- A number without a minus sign, of at most 128 bits. -/
def readNatural? (s : List Char) : Option Nat :=
  let s := match s with
    | '+' :: rest => rest
    | s => s
  let inRadix := (radix? s).bind fun p => Number.readDigits? p.1 p.2
  let n := match inRadix with
    | some n => some n
    | none => if hasLeadingZero s then none else Number.readDigits? 10 s
  n.bind fun n => if n < 1 <<< 128 then some n else none

/-- A number behind a minus sign, of at most 128 bits. -/
def readNegative? : List Char → Option Int
  | '-' :: rest =>
    let inRadix := (radix? rest).bind fun p => Number.readDigits? p.1 p.2
    let n := match inRadix with
      | some n => some n
      | none => if hasLeadingZero rest then none else Number.readDigits? 10 rest
    n.bind fun n => if n ≤ 1 <<< 127 then some (-(n : Int)) else none
  | _ => none

/-- An integer. -/
def readInt? (s : List Char) : Option Int :=
  match readNatural? s with
  | some n => some n
  | none => readNegative? s

/-- The word for infinity without its sign. -/
def isInfinity (s : String) : Bool := s ∈ [".inf", ".Inf", ".INF"]

/-- A floating-point number: a decimal numeral that is finite, or a word for infinity or for what is
no number. -/
def readFloat? (s : List Char) : Option Float :=
  let word := String.ofList s
  let body := match s with
    | '+' :: rest => rest
    | s => s
  let doubleSign := match s with
    | '+' :: '+' :: _ => true
    | '+' :: '-' :: _ => true
    | _ => false
  if doubleSign then none
  else if isInfinity (String.ofList body) then some (Number.nearestFloat false (1 <<< 1024) 1)
  else if s.head? == some '-' && isInfinity (String.ofList s.tail) then
    some (Number.nearestFloat true (1 <<< 1024) 1)
  else if word ∈ [".nan", ".NaN", ".NAN"] then some (Float.ofBits 0x7FF8000000000000)
  else (Number.readFloat? body).bind fun x => if x.isFinite then some x else none

/-- The value of a plain scalar without a tag. -/
def plainValue (s : String) : Value :=
  if s.isEmpty || isNull s then .null
  else
    match readBool? s with
    | some b => .bool b
    | none =>
      match readInt? s.toList with
      | some i => .int i
      | none =>
        if hasLeadingZero s.toList then .text s
        else
          match readFloat? s.toList with
          | some x => .float x
          | none => .text s

/-! ## §3 Tags -/

/-- The value of a scalar that does not have a local tag; none if its text does not fit its tag. -/
def scalarValue? (tag : Option Tag) (style : ScalarStyle) (s : String) : Option Value :=
  match tag with
  | none => some (if style = .plain then plainValue s else .text s)
  | some t =>
    if t = Tag.core "bool" then (readBool? s).map .bool
    else if t = Tag.core "int" then (readInt? s.toList).map .int
    else if t = Tag.core "float" then (readFloat? s.toList).map .float
    else if t = Tag.core "null" then if isNull s then some .null else none
    else some (if t.isMarked && style = .plain then plainValue s else .text s)

end LiveConfig.Yaml
