import LiveConfig.Number.Integer

/-!
# Tables of runs

A property of characters as the runs of code points that share a value, one behind the other from
code point zero on.

## Notation

A run is written as its length in hexadecimal, a capital letter for its value, and the code points
that belong to the value, in hexadecimal with commas between them. A table is a list of lines, in
which runs are separated by a space.
-/

namespace LiveConfig.Text

/-! ## §1 Runs -/

/-- A run of code points that share a value. -/
structure Run where
  first : Nat
  /-- The first code point behind the run. -/
  bound : Nat
  letter : Char
  points : List Nat
deriving DecidableEq, Repr

namespace Run

/-- A hexadecimal number; what is none counts as zero. -/
def number (s : List Char) : Nat := (Number.readDigits? 16 s).getD 0

/-- Read a run that begins at a code point. -/
def read (first : Nat) (s : List Char) : Run :=
  let rest := s.dropWhile fun c => !c.isUpper
  { first
    bound := first + number (s.takeWhile fun c => !c.isUpper)
    letter := rest.headD 'U'
    points := if rest.length ≤ 1 then [] else ((rest.drop 1).splitOn ',').map number }

/-- Read runs of which the first begins at a code point. -/
def readFrom : Nat → List (List Char) → List Run
  | _, [] => []
  | first, s :: rest => read first s :: readFrom (read first s).bound rest

/-- **Read a table.** -/
def readAll (lines : List String) : List Run :=
  readFrom 0 (lines.flatMap fun l => l.toList.splitOn ' ')

/-! ## §2 Looking up -/

/-- The run of a character. -/
def find? (runs : List Run) (c : Char) : Option Run := runs.find? fun r => c.toNat < r.bound

/-- The letter of the run of a character. -/
def letterOf (runs : List Run) (c : Char) : Char := ((find? runs c).map Run.letter).getD 'U'

end Run

end LiveConfig.Text
