/-!
# Binary floating point

The doubles as exact numbers: a finite double is a sign and a value `m * 2 ^ q`, and a quotient of
natural numbers is rounded to the nearest double, a tie going to the even neighbour.
-/

namespace LiveConfig.Number

/-- What the bits of a double stand for. -/
inductive Binary64
  | nan
  | infinite (negative : Bool)
  /-- The value `m * 2 ^ q`. -/
  | finite (negative : Bool) (m : Nat) (q : Int)
deriving DecidableEq, Repr

namespace Binary64

/-- The meaning of a bit pattern: sign, eleven bits of exponent, fifty-two bits of fraction. -/
def ofBits (bits : Nat) : Binary64 :=
  let negative := (bits >>> 63) % 2 == 1
  let exponent : Nat := (bits >>> 52) % 2048
  let fraction : Nat := bits % (1 <<< 52)
  if exponent == 2047 then
    if fraction == 0 then .infinite negative else .nan
  else if exponent == 0 then .finite negative fraction (-1074)
  else .finite negative ((1 <<< 52) + fraction) ((exponent : Int) - 1075)

/-- The meaning of a double. -/
def ofFloat (x : Float) : Binary64 := ofBits x.toBits.toNat

end Binary64

/-- The quotient rounded to the nearest natural number; a tie goes to the even neighbour. -/
def roundDiv (num den : Nat) : Nat :=
  let quotient := num / den
  let twice := 2 * (num % den)
  if twice < den then quotient
  else if den < twice then quotient + 1
  else quotient + quotient % 2

/-- `num / den * 2 ^ (-q)` rounded to the nearest natural number. -/
def roundScaled (num den : Nat) (q : Int) : Nat :=
  roundDiv (num <<< (-q).toNat) (den <<< q.toNat)

/-- The exponent `q` at which `num / den` has fifty-three binary digits before the point, but at
least the exponent of the subnormal numbers. -/
def binaryExponent (num den : Nat) : Int :=
  let guess := (num.log2 : Int) - (den.log2 : Int) - 52
  -- The guess is at most one too high.
  let q := if num <<< (-guess).toNat < den <<< (guess.toNat + 52) then guess - 1 else guess
  max q (-1074)

/-- The bits of the positive double nearest to `num / den`; what is too large becomes infinite. -/
def nearestBits (num den : Nat) : Nat :=
  if num = 0 then 0
  else
    let q := binaryExponent num den
    let m := roundScaled num den q
    let bits := if m < 1 <<< 52 then m else ((q + 1075).toNat <<< 52) + (m - (1 <<< 52))
    min bits (2047 <<< 52)

/-- The double nearest to `± num / den`. -/
def nearestFloat (negative : Bool) (num den : Nat) : Float :=
  Float.ofBits (UInt64.ofNat (nearestBits num den + if negative then 1 <<< 63 else 0))

/-- The double nearest to `± coefficient * 10 ^ exponent`. Exponents far outside the range of the
doubles are settled without computing the power. -/
def nearestDecimal (negative : Bool) (coefficient : Nat) (exponent : Int) : Float :=
  let magnitude := (Nat.log2 coefficient * 30103 / 100000 : Nat) + exponent
  if coefficient = 0 || magnitude < -340 then nearestFloat negative 0 1
  else if magnitude > 320 then nearestFloat negative (1 <<< 1024) 1
  else
    nearestFloat negative (coefficient * Nat.pow 10 exponent.toNat) (Nat.pow 10 (-exponent).toNat)

end LiveConfig.Number
