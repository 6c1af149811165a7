import LiveConfig.Number.Binary64
import LiveConfig.Number.Integer

/-!
# Shortest decimals

The decimal with the fewest digits that still reads back as a given double, and of those the one
nearest to it.

## How it is found

The reals that round to `m * 2 ^ q` form an interval around it. For one digit, two digits and so on
the two neighbours of the value on that decimal grid are tried; the first grid with a neighbour
inside the interval wins. A grid that has any point inside the interval has such a neighbour, so no
shorter decimal is missed.
-/

namespace LiveConfig.Number

/-- A decimal `coefficient * 10 ^ exponent`. -/
structure Decimal where
  coefficient : Nat
  exponent : Int
deriving DecidableEq, Repr

/-- The interval of reals that round to a double, in quarters of its last place: all three numbers
are to be multiplied by `2 ^ q`. -/
structure Interval where
  low : Nat
  value : Nat
  high : Nat
  q : Int
  /-- Whether the two ends themselves round to the double. -/
  closed : Bool
deriving DecidableEq, Repr

namespace Interval

/-- The interval around `m * 2 ^ q`. Below a power of two the neighbour is half as far away, except
at the bottom of the range. -/
def around (m : Nat) (q : Int) : Interval where
  low := if m = 1 <<< 52 ∧ -1074 < q then 4 * m - 1 else 4 * m - 2
  value := 4 * m
  high := 4 * m + 2
  q := q - 2
  closed := m % 2 == 0

/-- `x * 2 ^ q` against `d * 10 ^ t`, brought to a common denominator: the pair of both sides. -/
def sides (i : Interval) (x d : Nat) (t : Int) : Nat × Nat :=
  ((x <<< i.q.toNat) * Nat.pow 10 (-t).toNat, (d * Nat.pow 10 t.toNat) <<< (-i.q).toNat)

/-- Whether `d * 10 ^ t` lies inside the interval. -/
def contains (i : Interval) (d : Nat) (t : Int) : Bool :=
  let below := i.sides i.low d t
  let above := i.sides i.high d t
  if i.closed then below.1 ≤ below.2 && above.2 ≤ above.1
  else below.1 < below.2 && above.2 < above.1

/-- The largest `d` with `d * 10 ^ t` not above the value. -/
def floor (i : Interval) (t : Int) : Nat :=
  let s := i.sides i.value 1 t
  s.1 / s.2

/-- Whether `d + 1` is strictly nearer to the value than `d` on the grid of `10 ^ t`. -/
def upperNearer (i : Interval) (d : Nat) (t : Int) : Bool :=
  let s := i.sides (2 * i.value) (2 * d + 1) t
  s.2 < s.1

/-- The number `k` with `10 ^ (k - 1) ≤ value < 10 ^ k`. -/
def magnitude (i : Interval) : Int :=
  let s := i.sides i.value 1 0
  -- The quotient of an a-digit and a b-digit number has a - b or a - b + 1 digits before the point.
  let k : Int := ((decimal s.1).length : Int) - ((decimal s.2).length : Int)
  let c := i.sides i.value 1 k
  if c.1 < c.2 then k else k + 1

/-- The point of the grid `10 ^ t` inside the interval that is nearest to the value. -/
def pick? (i : Interval) (t : Int) : Option Nat :=
  let d := i.floor t
  let lower := i.contains d t && 0 < d
  let upper := i.contains (d + 1) t
  if lower && upper then some (if i.upperNearer d t then d + 1 else d)
  else if lower then some d
  else if upper then some (d + 1)
  else none

end Interval

/-- Remove trailing zeros from a coefficient, counting them into the exponent. -/
def stripZeros : Nat → Nat → Int → Decimal
  | 0, d, t => ⟨d, t⟩
  | fuel + 1, d, t => if d ≠ 0 ∧ d % 10 = 0 then stripZeros fuel (d / 10) (t + 1) else ⟨d, t⟩

/-- Try grids with `n`, `n + 1`, … digits, at most `fuel` of them. -/
def shortestFrom (i : Interval) (k : Int) : Nat → Nat → Decimal
  | 0, n => ⟨i.floor (k - n), k - n⟩
  | fuel + 1, n =>
    match i.pick? (k - n) with
    -- A carry from 9…9 to 10…0 leaves zeros behind, fewer than twenty of them.
    | some d => stripZeros 20 d (k - n)
    | none => shortestFrom i k fuel (n + 1)

/-- **The shortest decimal** that reads back as the double `m * 2 ^ q`; seventeen digits suffice. -/
def shortest (m : Nat) (q : Int) : Decimal :=
  if m = 0 then ⟨0, 0⟩
  else
    let i := Interval.around m q
    shortestFrom i i.magnitude 17 1

end LiveConfig.Number
