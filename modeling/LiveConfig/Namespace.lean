import LiveConfig.Text.Blank
import LiveConfig.Text.Quoted

/-!
# Namespace names

The canonical form of a namespace name: blanks around it and the suffix of the default format do not
belong to it.

## Main statements

- `stripSuffix_append`: a name with the suffix behind it loses exactly the suffix.
-/

namespace LiveConfig.Namespace

/-! ## §1 Rules -/

/-- The longest accepted name, in bytes. -/
def maxLength : Nat := 128

/-- The suffix that names the default format. -/
def defaultSuffix : List Char := ['.', 'p', 'r', 'o', 'p', 'e', 'r', 't', 'i', 'e', 's']

/-- A character that a name may contain. -/
def isNameChar (c : Char) : Bool := c.isAlphanum || c == '_' || c == '.' || c == '-'

/-- Remove one suffix of the default format, in any case. -/
def stripSuffix (s : List Char) : List Char :=
  let start := s.length - defaultSuffix.length
  if (s.drop start).map Char.toLower = defaultSuffix then s.take start else s

/-! ## §2 Canonical names -/

/-- Why a text is no namespace name. -/
inductive NameFault
  | empty
  | tooLong
  | badCharacter
deriving DecidableEq, Repr

/-- The reason in words. -/
def NameFault.reason : NameFault → String
  | .empty => "must not be empty"
  | .tooLong => "longer than 128 characters"
  | .badCharacter => "only [A-Za-z0-9_.-] are allowed"

/-- A rejected name. -/
structure InvalidName where
  /-- The name as it was given. -/
  given : String
  fault : NameFault
deriving DecidableEq, Repr

/-- What a rejected name is answered with. -/
def InvalidName.message (e : InvalidName) : String :=
  "invalid namespace " ++ Text.quoted e.given ++ ": " ++ e.fault.reason

/-- The name without blanks around it and without the default suffix. -/
def bareName (s : String) : String := String.ofList (stripSuffix (Text.trim s.toList))

/-- What is wrong with a bare name, if anything. -/
def fault? (name : String) : Option NameFault :=
  if name.isEmpty then some .empty
  else if maxLength < name.utf8ByteSize then some .tooLong
  else if name.toList.all isNameChar then none
  else some .badCharacter

/-- **The canonical name** of a namespace. -/
def normalize (given : String) : Except InvalidName String :=
  match fault? (bareName given) with
  | some fault => .error ⟨given, fault⟩
  | none => .ok (bareName given)

/-- A name with the suffix behind it loses exactly the suffix. -/
theorem stripSuffix_append (s : List Char) : stripSuffix (s ++ defaultSuffix) = s := by
  have hmap : defaultSuffix.map Char.toLower = defaultSuffix := by decide
  simp [stripSuffix, hmap]

end LiveConfig.Namespace
