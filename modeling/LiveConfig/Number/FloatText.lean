import LiveConfig.Number.Shortest

/-!
# Doubles as text

Writing a double with its shortest digits in one of several layouts, and reading one from decimal
text.

## Layouts

A `FloatLayout` holds the decisions of one output format: between which powers of ten a number is
written without an exponent, how a whole number ends, and how an exponent is signed.
-/

namespace LiveConfig.Number

/-- The decisions of a format for doubles. -/
structure FloatLayout where
  /-- The least scientific exponent that is written positionally; none if all are. -/
  lowest : Option Int
  /-- The greatest scientific exponent that is written positionally; none if all are. -/
  highest : Option Int
  /-- What follows a whole number that is written positionally. -/
  wholeEnd : List Char
  /-- What stands before a non-negative exponent. -/
  plusSign : List Char

namespace FloatLayout

/-- The layout of reports: exponents from `1e16` on and below `1e-4`, and `.0` behind a whole
number. -/
def report : FloatLayout := ⟨some (-4), some 15, ['.', '0'], []⟩

/-- The layout of messages: never an exponent, and nothing behind a whole number. -/
def message : FloatLayout := ⟨none, none, [], []⟩

/-- The layout of documents: exponents from `1e+16` on and below `1e-5`, and `.0` behind a whole
number. -/
def document : FloatLayout := ⟨some (-5), some 15, ['.', '0'], ['+']⟩

/-- Whether a number with scientific exponent `e` is written positionally. -/
def positional (f : FloatLayout) (e : Int) : Bool :=
  f.lowest.all (· ≤ e) && f.highest.all (e ≤ ·)

end FloatLayout

/-- Digits `ds` with the point behind the first `point` of them, filled up with zeros. -/
def placePoint (wholeEnd ds : List Char) (point : Int) : List Char :=
  if point ≤ 0 then
    ['0', '.'] ++ List.replicate (-point).toNat '0' ++ ds
  else
    let n := point.toNat
    if ds.length ≤ n then ds ++ List.replicate (n - ds.length) '0' ++ wholeEnd
    else ds.take n ++ '.' :: ds.drop n

/-- Digits `ds` in scientific notation with exponent `e`. -/
def scientific (plusSign ds : List Char) (e : Int) : List Char :=
  let mantissa := match ds with
    | [] => []
    | [d] => [d]
    | d :: rest => d :: '.' :: rest
  mantissa ++ 'e' :: (if e < 0 then decimalInt e else plusSign ++ decimalInt e)

/-- A positive decimal in a layout. -/
def Decimal.render (f : FloatLayout) (d : Decimal) : List Char :=
  let ds := decimal d.coefficient
  let e := d.exponent + ds.length - 1
  if d.coefficient = 0 then '0' :: f.wholeEnd
  else if f.positional e then placePoint f.wholeEnd ds (e + 1)
  else scientific f.plusSign ds e

/-- The text of a double in a layout. -/
def floatText (f : FloatLayout) (x : Float) : String :=
  match Binary64.ofFloat x with
  | .nan => "NaN"
  | .infinite negative => if negative then "-inf" else "inf"
  | .finite negative m q =>
    let body := (shortest m q).render f
    String.ofList (if negative then '-' :: body else body)

/-! ## Reading -/

/-- A decimal numeral: the digits before and after the point and the exponent. -/
structure Numeral where
  coefficient : Nat
  exponent : Int
deriving DecidableEq, Repr

/-- The leading digits and what follows them. -/
def spanDigits (s : List Char) : List Char × List Char := s.span isDigit

/-- The exponent of a numeral: nothing, or a mark followed by an optional sign and digits. -/
def readExponent? : List Char → Option Int
  | [] => some 0
  | c :: rest =>
    if c == 'e' || c == 'E' then
      match rest with
      | '-' :: ds => (readDigits? 10 ds).map fun n => -(n : Int)
      | '+' :: ds => (readDigits? 10 ds).map fun n => (n : Int)
      | ds => (readDigits? 10 ds).map fun n => (n : Int)
    else none

/-- Digits with an optional point among, before or behind them, and an optional exponent. -/
def readNumeral? (s : List Char) : Option Numeral :=
  let (whole, rest) := spanDigits s
  let (fraction, rest) := match rest with
    | '.' :: rest => spanDigits rest
    | rest => ([], rest)
  if whole.isEmpty && fraction.isEmpty then none
  else
    (readExponent? rest).bind fun e =>
      (readDigitsFrom? 10 0 (whole ++ fraction)).map fun n => ⟨n, e - fraction.length⟩

/-- A double from text: an optional sign, then a numeral or one of the words `inf`, `infinity` and
`nan` in any case. -/
def readFloat? (s : List Char) : Option Float :=
  let (negative, body) := match s with
    | '-' :: rest => (true, rest)
    | '+' :: rest => (false, rest)
    | s => (false, s)
  let word := String.ofList (body.map Char.toLower)
  if word == "inf" || word == "infinity" then
    some (nearestFloat negative (1 <<< 1024) 1)
  else if word == "nan" then
    some (Float.ofBits 0x7FF8000000000000)
  else (readNumeral? body).map fun n => nearestDecimal negative n.coefficient n.exponent

end LiveConfig.Number
