/-!
# Reading integers

Whole numbers written in a radix from 2 to 16, with an optional sign, and the range checks of the
machine widths.

## Main statements

- `readDigits?_nil`: no digits are no number.
- `readSigned?_sound`: a signed number that is read lies in the range that was asked for.
-/

namespace LiveConfig.Number

/-- The value of a hexadecimal digit of either case. -/
def digitValue? (c : Char) : Option Nat :=
  let n := c.toNat
  if 0x30 ≤ n && n ≤ 0x39 then some (n - 0x30)
  else if 0x61 ≤ n && n ≤ 0x66 then some (n - 0x57)
  else if 0x41 ≤ n && n ≤ 0x46 then some (n - 0x37)
  else none

/-- The value of a digit in a radix. -/
def digitIn? (radix : Nat) (c : Char) : Option Nat :=
  (digitValue? c).bind fun d => if d < radix then some d else none

/-- Whether a character is one of `0` to `9`. -/
def isDigit (c : Char) : Bool := (digitIn? 10 c).isSome

/-- Read digits behind the number `acc`. -/
def readDigitsFrom? (radix : Nat) : Nat → List Char → Option Nat
  | acc, [] => some acc
  | acc, c :: rest => (digitIn? radix c).bind fun d => readDigitsFrom? radix (acc * radix + d) rest

/-- A text that consists of one or more digits. -/
def readDigits? (radix : Nat) (s : List Char) : Option Nat :=
  if s.isEmpty then none else readDigitsFrom? radix 0 s

/-- Digits with an optional plus sign, below `2 ^ bits`. -/
def readUnsigned? (bits radix : Nat) (s : List Char) : Option Nat :=
  let digits := match s with
    | '+' :: rest => rest
    | s => s
  (readDigits? radix digits).bind fun n => if n < 1 <<< bits then some n else none

/-- The integer lies in the two's complement range of so many bits. -/
def Fits (bits : Nat) (i : Int) : Prop :=
  -(1 <<< (bits - 1) : Nat) ≤ i ∧ i < (1 <<< (bits - 1) : Nat)

instance (bits : Nat) (i : Int) : Decidable (Fits bits i) := inferInstanceAs (Decidable (_ ∧ _))

/-- Digits with an optional sign, in the two's complement range of `bits` bits. -/
def readSigned? (bits radix : Nat) (s : List Char) : Option Int :=
  let value := match s with
    | '-' :: rest => (readDigits? radix rest).map fun n => -(n : Int)
    | '+' :: rest => (readDigits? radix rest).map fun n => (n : Int)
    | s => (readDigits? radix s).map fun n => (n : Int)
  value.bind fun i => if Fits bits i then some i else none

/-- The decimal digits of a number. -/
def decimal (n : Nat) : List Char := Nat.toDigits 10 n

/-- The decimal text of an integer, with a minus sign if it is negative. -/
def decimalInt (i : Int) : List Char :=
  if i < 0 then '-' :: decimal i.natAbs else decimal i.natAbs

/-- The decimal text of a number. -/
def decimalText (n : Nat) : String := String.ofList (decimal n)

/-- The decimal text of an integer. -/
def intText (i : Int) : String := String.ofList (decimalInt i)

@[simp] theorem readDigits?_nil (radix : Nat) : readDigits? radix [] = none := rfl

/-- A signed number that is read lies in the range that was asked for. -/
theorem readSigned?_sound {bits radix : Nat} {s : List Char} {i : Int}
    (h : readSigned? bits radix s = some i) : Fits bits i := by
  simp only [readSigned?, Option.bind_eq_some_iff] at h
  obtain ⟨j, -, hj⟩ := h
  split at hj
  · next hr => cases hj; exact hr
  · cases hj

end LiveConfig.Number
