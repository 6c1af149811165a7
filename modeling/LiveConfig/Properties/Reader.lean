import LiveConfig.Entries
import LiveConfig.Number.Integer
import LiveConfig.Properties.Lines

/-!
# Reading properties

Each logical line is split into key and value at its first separator, both are freed of escapes,
and the pairs are inserted in order.

## Escapes

A backslash takes the character behind it literally, except that `t`, `n`, `r` and `f` stand for
control characters and `u` asks for four hexadecimal digits. What follows `\u` and is no character
stays as it was written.
-/

namespace LiveConfig.Properties

open Text

/-! ## §1 Key and value -/

/-- What follows a blank separator: further blanks, at most one of `=` and `:`, and blanks again. -/
def afterBlank (s : List Char) : List Char :=
  match trimStart s with
  | '=' :: rest => trimStart rest
  | ':' :: rest => trimStart rest
  | rest => rest

/-- Split a logical line at the first `=`, `:` or blank that no backslash precedes. -/
def splitPair : List Char → List Char × List Char
  | [] => ([], [])
  | '\\' :: [] => (['\\'], [])
  | '\\' :: c :: rest =>
    let p := splitPair rest
    ('\\' :: c :: p.1, p.2)
  | c :: rest =>
    if c = '=' ∨ c = ':' then ([], trimStart rest)
    else if isBlank c then ([], afterBlank rest)
    else
      let p := splitPair rest
      (c :: p.1, p.2)

/-! ## §2 Escapes -/

/-- The character with the code point that the digits give; a leading plus sign is tolerated. -/
def codePoint? (digits : List Char) : Option Char :=
  (Number.readUnsigned? 32 16 digits).bind fun n =>
    if h : n.isValidChar then some (Char.ofNatAux n h) else none

/-- What `\u` followed by these characters stands for. -/
def decodeUnicode (digits : List Char) : List Char :=
  match codePoint? digits with
  | some c => [c]
  | none => '\\' :: 'u' :: digits

/-- Resolve the escapes of a key or value. -/
def unescape : List Char → List Char
  | [] => []
  | '\\' :: [] => []
  | '\\' :: 'u' :: a :: b :: c :: d :: rest => decodeUnicode [a, b, c, d] ++ unescape rest
  -- The text ends too early; what is left still counts if it is a number.
  | '\\' :: 'u' :: short => decodeUnicode short
  | '\\' :: 't' :: rest => '\t' :: unescape rest
  | '\\' :: 'n' :: rest => '\n' :: unescape rest
  | '\\' :: 'r' :: rest => '\r' :: unescape rest
  | '\\' :: 'f' :: rest => '\x0c' :: unescape rest
  | '\\' :: c :: rest => c :: unescape rest
  | c :: rest => c :: unescape rest

/-! ## §3 The whole text -/

/-- The pair that a logical line stands for. -/
def readLine (line : List Char) : String × String :=
  let p := splitPair line
  (String.ofList (unescape p.1), String.ofList (unescape p.2))

/-- **Reading a properties text.** -/
def read (text : String) : Entries :=
  Entries.ofList ((logicalLines text.toList).map readLine)

end LiveConfig.Properties
