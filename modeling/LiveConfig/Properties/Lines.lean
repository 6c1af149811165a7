import LiveConfig.Text.Blank

/-!
# Lines of a properties text

A properties text is cut into natural lines at line feeds; natural lines whose last backslash is not
itself escaped are joined with the next one into logical lines.

## Rules

- A carriage return belongs to a line end only in front of a line feed.
- Leading blanks of every natural line are dropped.
- While nothing has been gathered, blank lines and comment lines are skipped.
-/

namespace LiveConfig.Properties

open Text

/-! ## §1 Natural lines -/

/-- The pieces between line feeds; a last piece that is empty is no line. -/
def cutLines : List Char → List Char → List (List Char × Bool)
  | acc, [] => if acc.isEmpty then [] else [(acc, false)]
  | acc, c :: rest =>
    if c = '\n' then (acc, true) :: cutLines [] rest else cutLines (acc ++ [c]) rest

/-- A line without the carriage return in front of its line feed. -/
def stripReturn (line : List Char × Bool) : List Char :=
  if line.2 && line.1.getLast? == some '\r' then line.1.dropLast else line.1

/-- The natural lines of a text. -/
def naturalLines (s : List Char) : List (List Char) := (cutLines [] s).map stripReturn

/-! ## §2 Logical lines -/

/-- A line ends in a continuation mark if it ends in an odd number of backslashes. -/
def continues (line : List Char) : Bool :=
  (line.reverse.takeWhile (· == '\\')).length % 2 == 1

/-- A line that is skipped where a logical line may begin: a blank one or a comment. -/
def skippable : List Char → Bool
  | [] => true
  | c :: _ => c == '#' || c == '!'

/-- The logical lines of natural lines, where `acc` has been gathered already. -/
def gather : List Char → List (List Char) → List (List Char)
  | acc, [] => if acc.isEmpty then [] else [acc]
  | acc, raw :: rest =>
    let line := trimStart raw
    -- Behind gathered text a comment mark is an ordinary character.
    if acc.isEmpty && skippable line then gather acc rest
    else if continues line then gather (acc ++ line.dropLast) rest
    else (acc ++ line) :: gather [] rest

/-- The logical lines of a text. -/
def logicalLines (s : List Char) : List (List Char) := gather [] (naturalLines s)

end LiveConfig.Properties
