import LiveConfig.Number.FloatText

/-!
# Values of a type

Reading a configuration value as a value of a type that the caller names.

## Main statements

- `read?_text`: every text can be read as a text.
-/

namespace LiveConfig

/-- A type that a configuration value can be read as. -/
inductive ValueType
  | unsigned (bits : Nat)
  | signed (bits : Nat)
  | bool
  | char
  | text
  | float
deriving DecidableEq, Repr

/-- A value that has been read. -/
inductive ParsedValue
  | int (i : Int)
  | bool (b : Bool)
  | text (s : String)
  | float (x : Float)
deriving Repr

namespace ParsedValue

/-- The text of a value. -/
def toText : ParsedValue → String
  | int i => Number.intText i
  | bool b => if b then "true" else "false"
  | text s => s
  | float x => Number.floatText .report x

end ParsedValue

namespace ValueType

/-- **Read a text as a value of a type.** -/
def read? (t : ValueType) (s : List Char) : Option ParsedValue :=
  match t with
  | unsigned bits => (Number.readUnsigned? bits 10 s).map fun n => .int n
  | signed bits => (Number.readSigned? bits 10 s).map .int
  | bool =>
    if s = ['t', 'r', 'u', 'e'] then some (.bool true)
    else if s = ['f', 'a', 'l', 's', 'e'] then some (.bool false)
    else none
  | char =>
    match s with
    | [c] => some (.text (String.singleton c))
    | _ => none
  | text => some (.text (String.ofList s))
  | float => (Number.readFloat? s).map .float

/-- Every text can be read as a text. -/
theorem read?_text (s : List Char) : read? text s = some (.text (String.ofList s)) := rfl

end ValueType

end LiveConfig
