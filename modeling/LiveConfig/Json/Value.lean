import LiveConfig.Number.FloatText

/-!
# JSON values

Values of the data format, and the numbers that occur in them.

## Numbers

A number is a 64-bit integer, signed or unsigned, or a double. `JsonNumber.ofNumeral?` says which
one a numeral denotes: digits are gathered into a 64-bit significand, and a numeral that has a
point, an exponent or too many digits is the significand scaled by a power of ten in double
arithmetic.
-/

namespace LiveConfig

/-! ## §1 Numbers -/

/-- A number of a JSON document. -/
inductive JsonNumber
  | int (i : Int)
  | float (x : Float)
deriving Repr, BEq

namespace JsonNumber

/-- The text of a number. -/
def text : JsonNumber → String
  | int i => Number.intText i
  | float x => Number.floatText .document x

/-- The number as a double. -/
def toFloat : JsonNumber → Float
  | int i => Number.nearestFloat (i < 0) i.natAbs 1
  | float x => x

/-- Gather digits into a significand as long as it fits into 64 bits: the significand and the digits
that did not fit. -/
def absorb : Nat → List Char → Nat × List Char
  | n, [] => (n, [])
  | n, c :: rest =>
    let next := n * 10 + (Number.digitValue? c).getD 0
    if next < UInt64.size then absorb next rest else (n, c :: rest)

/-- Scale a double by a power of ten; none if the result is too large. Exponents beyond the powers
of ten that a double holds are taken in steps, of which a few reach zero. -/
def scale? : Nat → Float → Int → Option Float
  | 0, x, _ => some x
  | steps + 1, x, e =>
    if e.natAbs ≤ 308 then
      let power := Number.nearestDecimal false 1 e.natAbs
      if 0 ≤ e then
        let y := x * power
        if y.isInf then none else some y
      else some (x / power)
    else if x == 0.0 then some x
    else if 0 ≤ e then none
    else scale? steps (x / Number.nearestDecimal false 1 308) (e + 308)

/-- A numeral of the grammar: sign, digits before the point, digits after it, and exponent. -/
structure Numeral where
  negative : Bool
  whole : List Char
  fraction : Option (List Char)
  exponent : Option (Bool × List Char)
deriving DecidableEq, Repr

/-- The double of a significand and a power of ten, with its sign. -/
def ofParts? (negative : Bool) (significand : Nat) (e : Int) : Option JsonNumber :=
  -- Two steps of 308 powers bring every significand to zero, so five are plenty.
  (scale? 5 (UInt64.ofNat significand).toFloat e).map fun x => float (if negative then -x else x)

/-- **The number that a numeral denotes**, unless it is too large. -/
def ofNumeral? (n : Numeral) : Option JsonNumber :=
  let (significand, surplus) := absorb 0 n.whole
  match n.fraction, n.exponent with
  | none, none =>
    if !surplus.isEmpty then ofParts? n.negative significand surplus.length
    else if !n.negative then some (int significand)
    -- Minus zero is no integer, and below the signed range only doubles are left.
    else if significand = 0 ∨ 1 <<< 63 < significand then
      some (float (-(UInt64.ofNat significand).toFloat))
    else some (int (-significand))
  | fraction, exponent =>
    let digits := fraction.getD []
    let (significand, unused) := absorb significand digits
    let e : Int := (surplus.length : Int) - (digits.length - unused.length : Nat)
    match exponent with
    | none => ofParts? n.negative significand e
    | some (down, ds) =>
      let x := (Number.readDigitsFrom? 10 0 ds).getD 0
      if x < 1 <<< 31 then ofParts? n.negative significand (if down then e - x else e + x)
      -- An exponent beyond 32 bits leaves zero or too much, whatever the digits.
      else if significand ≠ 0 ∧ ¬ down then none
      else some (float (if n.negative then -0.0 else 0.0))

end JsonNumber

/-! ## §2 Values -/

/-- A JSON value. The members of an object are in an order that the reader of the value may rely on,
and no name occurs twice when the value comes from a document. -/
inductive Json
  | null
  | bool (b : Bool)
  | number (n : JsonNumber)
  | text (s : String)
  | array (items : List Json)
  | object (members : List (String × Json))
deriving Repr, Inhabited

namespace Json

/-- The value of a member. -/
def member? (name : String) : Json → Option Json
  | object members => members.lookup name
  | _ => none

/-- An integer as a value. -/
def ofInt (i : Int) : Json := number (.int i)

/-- A natural number as a value. -/
def ofNat (n : Nat) : Json := number (.int n)

/-- A text that may be missing; without one the value is null. -/
def ofText? : Option String → Json
  | some s => text s
  | none => null

end Json

end LiveConfig
