import LiveConfig.Entries

/-!
# Writing properties

One line for each entry: key, equals sign, value, line feed, with everything escaped that would end
or change the line.
-/

namespace LiveConfig.Properties

/-- The escaped form of a character that is escaped wherever it stands. -/
def escapeAlways? : Char → Option (List Char)
  | '\\' => some ['\\', '\\']
  | '\t' => some ['\\', 't']
  | '\n' => some ['\\', 'n']
  | '\r' => some ['\\', 'r']
  | '\x0c' => some ['\\', 'f']
  | _ => none

/-- One character of a key: separators, comment marks and spaces are escaped. -/
def escapeKeyChar (c : Char) : List Char :=
  match escapeAlways? c with
  | some e => e
  | none => if c ∈ ['=', ':', '#', '!', ' '] then ['\\', c] else [c]

/-- One character of a value. -/
def escapeValueChar (c : Char) : List Char := (escapeAlways? c).getD [c]

/-- A key in escaped form. -/
def escapeKey (s : List Char) : List Char := s.flatMap escapeKeyChar

/-- A value in escaped form: of spaces only a leading one is escaped. -/
def escapeValue : List Char → List Char
  | ' ' :: rest => '\\' :: ' ' :: rest.flatMap escapeValueChar
  | s => s.flatMap escapeValueChar

/-- The line of an entry. -/
def writeLine (p : String × String) : List Char :=
  escapeKey p.1.toList ++ '=' :: escapeValue p.2.toList ++ ['\n']

/-- **Writing a properties text.** -/
def write (e : Entries) : String := String.ofList (e.toList.flatMap writeLine)

end LiveConfig.Properties
