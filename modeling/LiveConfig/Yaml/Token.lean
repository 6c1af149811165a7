/-!
# YAML tokens

The tokens of a YAML text. Those that no character stands for, the starts and ends of block
collections and the marks of implicit keys, are among them.

A tag is kept as octets, because what its percent signs stand for need not be a text.
-/

namespace LiveConfig.Yaml

/-! ## §1 Tags -/

/-- A tag, or a part of one, as octets. -/
abbrev Tag := List UInt8

namespace Tag

/-- The octets of a text. -/
def ofText (s : List Char) : Tag := s.flatMap String.utf8EncodeChar

/-- The tag that consists of an exclamation mark alone. -/
def lone : Tag := ofText ['!']

/-- The full form of the tag of a core type. -/
def core (name : String) : Tag := ofText ("tag:yaml.org,2002:" ++ name).toList

/-- Whether a tag begins with an exclamation mark. -/
def isMarked (t : Tag) : Bool := t.take 1 == lone

/-- The name of a local tag: what stands behind its exclamation mark, or the mark itself if it
stands alone. What is not a text is no name. -/
def localName? (t : Tag) : Option String :=
  if t.isMarked then String.fromUTF8? ⟨(if t = lone then t else t.drop 1).toArray⟩ else none

end Tag

/-! ## §2 Tokens -/

/-- How a scalar is written. -/
inductive ScalarStyle
  | plain
  | singleQuoted
  | doubleQuoted
  | literal
  | folded
deriving DecidableEq, Repr

/-- A token of a YAML text. -/
inductive Token
  | streamEnd
  | version (major minor : Nat)
  | tagDirective (handle : List Char) (expansion : Tag)
  | documentStart
  | documentEnd
  | blockSequenceStart
  | blockMappingStart
  | blockEnd
  | flowSequenceStart
  | flowSequenceEnd
  | flowMappingStart
  | flowMappingEnd
  | blockEntry
  | flowEntry
  | key
  | value
  | alias (name : List Char)
  | anchor (name : List Char)
  | tag (handle : List Char) (suffix : Tag)
  | scalar (text : List Char) (style : ScalarStyle)
deriving DecidableEq, Repr

end LiveConfig.Yaml
