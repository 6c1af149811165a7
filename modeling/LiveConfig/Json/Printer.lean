import LiveConfig.Json.Value

/-!
# Printing JSON

Two printed forms of a value: compact, without any blank, and indented, with two blanks for each
level.
-/

namespace LiveConfig.Json

/-- A hexadecimal digit, lower case. -/
def hexDigit (n : Nat) : Char := Nat.digitChar n

/-- One character inside a string literal: quotes, backslashes and control characters are
escaped. -/
def printChar (c : Char) : List Char :=
  match c with
  | '"' => ['\\', '"']
  | '\\' => ['\\', '\\']
  | '\x08' => ['\\', 'b']
  | '\x0c' => ['\\', 'f']
  | '\n' => ['\\', 'n']
  | '\r' => ['\\', 'r']
  | '\t' => ['\\', 't']
  | c =>
    if c.toNat < 0x20 then
      ['\\', 'u', '0', '0', hexDigit (c.toNat / 16), hexDigit (c.toNat % 16)]
    else [c]

/-- A string literal. -/
def printText (s : String) : List Char := '"' :: s.toList.flatMap printChar ++ ['"']

mutual
/-- The compact form of a value. -/
def compact : Json → List Char
  | null => ['n', 'u', 'l', 'l']
  | bool true => ['t', 'r', 'u', 'e']
  | bool false => ['f', 'a', 'l', 's', 'e']
  | number n => n.text.toList
  | text s => printText s
  | array [] => ['[', ']']
  | array (v :: rest) => '[' :: compact v ++ compactItems rest
  | object [] => ['{', '}']
  | object ((name, v) :: rest) => '{' :: printText name ++ ':' :: compact v ++ compactMembers rest

/-- The items behind the first one, and the closing bracket. -/
def compactItems : List Json → List Char
  | [] => [']']
  | v :: rest => ',' :: compact v ++ compactItems rest

/-- The members behind the first one, and the closing brace. -/
def compactMembers : List (String × Json) → List Char
  | [] => ['\x7d']
  | (name, v) :: rest => ',' :: printText name ++ ':' :: compact v ++ compactMembers rest
end

/-- A new line at a level of indentation. -/
def newLine (level : Nat) : List Char := '\n' :: List.replicate (2 * level) ' '

mutual
/-- The indented form of a value that stands at a level. -/
def indented (level : Nat) : Json → List Char
  | array (v :: rest) =>
    '[' :: newLine (level + 1) ++ indented (level + 1) v ++ indentedItems level rest
  | object ((name, v) :: rest) =>
    '{' :: newLine (level + 1) ++ printText name ++ ':' :: ' ' :: indented (level + 1) v
      ++ indentedMembers level rest
  | null => ['n', 'u', 'l', 'l']
  | bool true => ['t', 'r', 'u', 'e']
  | bool false => ['f', 'a', 'l', 's', 'e']
  | number n => n.text.toList
  | text s => printText s
  | array [] => ['[', ']']
  | object [] => ['{', '}']

/-- The items behind the first one, and the closing bracket. -/
def indentedItems (level : Nat) : List Json → List Char
  | [] => newLine level ++ [']']
  | v :: rest => ',' :: newLine (level + 1) ++ indented (level + 1) v ++ indentedItems level rest

/-- The members behind the first one, and the closing brace. -/
def indentedMembers (level : Nat) : List (String × Json) → List Char
  | [] => newLine level ++ ['\x7d']
  | (name, v) :: rest =>
    ',' :: newLine (level + 1) ++ printText name ++ ':' :: ' ' :: indented (level + 1) v
      ++ indentedMembers level rest
end

/-- The compact text of a value. -/
def compactText (v : Json) : String := String.ofList (compact v)

/-- The indented text of a value. -/
def indentedText (v : Json) : String := String.ofList (indented 0 v)

end LiveConfig.Json
