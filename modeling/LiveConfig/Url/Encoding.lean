import LiveConfig.Number.Integer

/-!
# Percent-encoding

How characters are written inside the parts of a URL: as they are, or as the percent-escaped bytes
of their UTF-8 form. Which of the two is a matter of the part, given by a set of characters.

## Main statements

- `percentDecode_percentEncode`: decoding gives back the bytes, whatever the set, as long as it
  holds the percent sign.
-/

namespace LiveConfig.Url

/-! ## §1 Sets of characters -/

/-- Control characters of ASCII. -/
def isControl (c : Char) : Bool := c.toNat < 0x20 || c.toNat == 0x7F

/-- Characters that are escaped in a fragment. -/
def inFragmentSet (c : Char) : Bool :=
  isControl c || c == ' ' || c == '"' || c == '<' || c == '>' || c == '\x60'

/-- Characters that are escaped in the path of a URL that is read. -/
def inPathSet (c : Char) : Bool :=
  inFragmentSet c || c == '#' || c == '?' || c == '\x7b' || c == '\x7d'

/-- Characters that are escaped in one segment of a path. -/
def inSegmentSet (special : Bool) (c : Char) : Bool :=
  inPathSet c || c == '/' || c == '%' || (special && c == '\\')

/-- Characters that are escaped in user names and passwords. -/
def inUserSet (c : Char) : Bool :=
  inPathSet c || c == '/' || c == ':' || c == ';' || c == '=' || c == '@' || c == '[' || c == '\\'
    || c == ']' || c == '^' || c == '|'

/-- Characters that are escaped in a query. -/
def inQuerySet (special : Bool) (c : Char) : Bool :=
  isControl c || c == ' ' || c == '"' || c == '#' || c == '<' || c == '>' || (special && c == '\'')

/-! ## §2 Encoding and decoding -/

/-- A hexadecimal digit, in upper case. -/
def upperDigit (n : Nat) : Char := if n < 10 then Char.ofNat (0x30 + n) else Char.ofNat (0x37 + n)

/-- A byte in escaped form. -/
def escapeByte (b : UInt8) : List Char :=
  ['%', upperDigit (b.toNat / 16), upperDigit (b.toNat % 16)]

/-- One character: every character beyond ASCII is escaped. -/
def percentEncodeChar (escaped : Char → Bool) (c : Char) : List Char :=
  if 0x80 ≤ c.toNat || escaped c then (String.utf8EncodeChar c).flatMap escapeByte else [c]

/-- A text with the characters of a set escaped. -/
def percentEncode (escaped : Char → Bool) (s : List Char) : List Char :=
  s.flatMap (percentEncodeChar escaped)

/-- The bytes that a text stands for. A percent sign that is not followed by two hexadecimal digits
stands for itself. -/
def percentDecode : List Char → List UInt8
  | [] => []
  | '%' :: a :: b :: rest =>
    match Number.digitValue? a, Number.digitValue? b with
    | some x, some y => UInt8.ofNat (16 * x + y) :: percentDecode rest
    | _, _ => String.utf8EncodeChar '%' ++ percentDecode (a :: b :: rest)
  | c :: rest => String.utf8EncodeChar c ++ percentDecode rest

theorem digitValue?_upperDigit {n : Nat} (h : n < 16) :
    Number.digitValue? (upperDigit n) = some n := by
  have all : ∀ m : Fin 16, Number.digitValue? (upperDigit m.1) = some m.1 := by decide
  exact all ⟨n, h⟩

theorem percentDecode_escapeByte (b : UInt8) (rest : List Char) :
    percentDecode (escapeByte b ++ rest) = b :: percentDecode rest := by
  have hb : b.toNat < 256 := b.toNat_lt
  simp only [escapeByte, List.cons_append, List.nil_append, percentDecode,
    digitValue?_upperDigit (show b.toNat / 16 < 16 by omega),
    digitValue?_upperDigit (show b.toNat % 16 < 16 by omega)]
  rw [Nat.div_add_mod, UInt8.ofNat_toNat]

theorem percentDecode_escapeBytes (bytes : List UInt8) (rest : List Char) :
    percentDecode (bytes.flatMap escapeByte ++ rest) = bytes ++ percentDecode rest := by
  induction bytes with
  | nil => rfl
  | cons b bs ih =>
    rw [List.flatMap_cons, List.append_assoc, percentDecode_escapeByte, ih, List.cons_append]

theorem percentDecode_cons {c : Char} (h : c ≠ '%') (rest : List Char) :
    percentDecode (c :: rest) = String.utf8EncodeChar c ++ percentDecode rest := by
  conv => lhs; unfold percentDecode
  split
  · next heq => cases heq
  · next heq => cases heq; exact absurd rfl h
  · next heq => cases heq; rfl

/-- **Decoding gives back the bytes** of a text whatever was escaped, as long as percent signs
were. -/
theorem percentDecode_percentEncode (escaped : Char → Bool) (h : escaped '%' = true)
    (s : List Char) :
    percentDecode (percentEncode escaped s) = s.flatMap String.utf8EncodeChar := by
  unfold percentEncode
  induction s with
  | nil => rfl
  | cons c s ih =>
    rw [List.flatMap_cons, List.flatMap_cons]
    by_cases hc : 0x80 ≤ c.toNat || escaped c
    · rw [percentEncodeChar, if_pos hc, percentDecode_escapeBytes, ih]
    · have hp : c ≠ '%' := fun e => hc (by simp [e, h])
      rw [percentEncodeChar, if_neg hc, List.cons_append, List.nil_append, percentDecode_cons hp,
        ih]

/-! ## §3 Form encoding -/

/-- Whether a byte stands for itself in a form. -/
def plainInForm (b : UInt8) : Bool :=
  let c := Char.ofNat b.toNat
  c.isAlphanum || c == '*' || c == '-' || c == '.' || c == '_'

/-- A byte of a form: a space becomes a plus sign. -/
def formByte (b : UInt8) : List Char :=
  if b == 0x20 then ['+'] else if plainInForm b then [Char.ofNat b.toNat] else escapeByte b

/-- The name or the value of a query pair. -/
def formEncode (s : String) : String :=
  String.ofList ((s.toList.flatMap String.utf8EncodeChar).flatMap formByte)

end LiveConfig.Url
