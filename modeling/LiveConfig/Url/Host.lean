import LiveConfig.Number.Integer
import LiveConfig.Url.DomainName

/-!
# Hosts

The host of a URL: a numeric address or a name, and the one way in which each of them is written.
-/

namespace LiveConfig.Url

/-! ## §1 Errors -/

/-- Why a text is no URL. -/
inductive UrlFault
  | noScheme
  | emptyHost
  | badPort
  | badDomain
  | badHostCharacter
  | badFourPartAddress
  | badSixteenByteAddress
deriving DecidableEq, Repr

/-- The reason in words. -/
def UrlFault.reason : UrlFault → String
  | .noScheme => "relative URL without a base"
  | .emptyHost => "empty host"
  | .badPort => "invalid port number"
  | .badDomain => "invalid international domain name"
  | .badHostCharacter => "invalid domain character"
  | .badFourPartAddress => "invalid IPv4 address"
  | .badSixteenByteAddress => "invalid IPv6 address"

/-! ## §2 Addresses of four bytes -/

/-- A part of an address: `0x` leads hexadecimal digits and `0` octal ones. -/
def addressPart? (s : List Char) : Option Nat :=
  match s with
  | [] => none
  | ['0', 'x'] | ['0', 'X'] => some 0
  | '0' :: 'x' :: rest | '0' :: 'X' :: rest => Number.readDigits? 16 rest
  | '0' :: c :: rest => Number.readDigits? 8 (c :: rest)
  | s => Number.readDigits? 10 s

/-- The labels of a name without the empty one behind a final dot. -/
def labelsOf (name : List Char) : List (List Char) :=
  let labels := name.splitOn '.'
  if labels.getLast? = some [] then labels.dropLast else labels

/-- Whether a name has to be read as an address. -/
def endsInNumber (name : List Char) : Bool :=
  match (labelsOf name).getLast? with
  | none => false
  -- Digits alone count even where they are no part of an address, such as a bad octal number.
  | some l => (!l.isEmpty && l.all Number.isDigit) || (addressPart? l).isSome

/-- The address that the parts denote. The last part fills all bytes that are left. -/
def address? (parts : List Nat) : Option Nat :=
  match parts.getLast? with
  | none => none
  | some last =>
    let front := parts.dropLast
    if 4 < parts.length then none
    else if front.any (255 < ·) then none
    else if Nat.pow 256 (4 - front.length) ≤ last then none
    else some (front.zipIdx.foldl (fun n (p : Nat × Nat) => n + p.1 * Nat.pow 256 (3 - p.2)) last)

/-- The four parts of an address in decimal. -/
def dottedText (n : Nat) : List Char :=
  let part (k : Nat) := Number.decimal (n / Nat.pow 256 k % 256)
  part 3 ++ '.' :: part 2 ++ '.' :: part 1 ++ '.' :: part 0

/-- Read an address of four bytes. -/
def fourPartAddress? (name : List Char) : Option Nat :=
  ((labelsOf name).mapM addressPart?).bind address?

/-! ## §3 Addresses of sixteen bytes -/

/-- A group of one to four hexadecimal digits. -/
def group? (s : List Char) : Option Nat :=
  if s.length ≤ 4 then Number.readDigits? 16 s else none

/-- One byte of a dotted tail: no leading zeros. -/
def dottedByte? (s : List Char) : Option Nat :=
  match s with
  | '0' :: _ :: _ => none
  | s => (Number.readDigits? 10 s).bind fun n => if n ≤ 255 then some n else none

/-- Groups between colons; the last may be an address of four bytes, which counts as two groups. -/
def groups? : List (List Char) → Option (List Nat)
  | [] => some []
  | [last] =>
    if last.contains '.' then
      match last.splitOn '.' with
      | [a, b, c, d] => do
        let a ← dottedByte? a
        let b ← dottedByte? b
        let c ← dottedByte? c
        let d ← dottedByte? d
        pure [a * 256 + b, c * 256 + d]
      | _ => none
    else (group? last).map fun n => [n]
  | g :: rest => do
    let n ← group? g
    let ns ← groups? rest
    pure (n :: ns)

/-- Groups of a text that may be empty. -/
def groupsOf? (s : List Char) : Option (List Nat) :=
  if s.isEmpty then some [] else groups? (s.splitOn ':')

/-- Split a text at the first pair of colons. -/
def splitGap? : List Char → Option (List Char × List Char)
  | [] => none
  | ':' :: ':' :: rest => some ([], rest)
  | c :: rest => (splitGap? rest).map fun (a, b) => (c :: a, b)

/-- Read an address of sixteen bytes as eight groups. -/
def sixteenByteAddress? (s : List Char) : Option (List Nat) :=
  match splitGap? s with
  | none => (groupsOf? s).bind fun gs => if gs.length = 8 then some gs else none
  | some (front, back) => do
    let a ← if front.contains '.' then none else groupsOf? front
    let b ← groupsOf? back
    if a.length + b.length < 8 then
      pure (a ++ List.replicate (8 - a.length - b.length) 0 ++ b)
    else none

/-- How many zero groups stand at the front. -/
def leadingZeros (gs : List Nat) : Nat := (gs.takeWhile (· == 0)).length

/-- The first of the longest runs of zero groups: its place and its length. -/
def longestRun (gs : List Nat) : Nat × Nat :=
  (List.range gs.length).foldl
    (fun best i => let n := leadingZeros (gs.drop i); if best.2 < n then (i, n) else best) (0, 0)

/-- The text of an address of sixteen bytes: the longest run of two or more zero groups is left
out. -/
def groupsText (gs : List Nat) : List Char :=
  let text (l : List Nat) := [':'].intercalate (l.map (Nat.toDigits 16))
  let (place, size) := longestRun gs
  if size < 2 then text gs
  else text (gs.take place) ++ [':', ':'] ++ text (gs.drop (place + size))

/-- An address in brackets, with its brackets. -/
def bracketed? (s : List Char) : Except UrlFault String :=
  match s.getLast?, sixteenByteAddress? ((s.drop 1).dropLast) with
  | some ']', some gs => .ok (String.ofList ('[' :: groupsText gs ++ [']']))
  | _, _ => .error .badSixteenByteAddress

/-! ## §4 Names -/

/-- **The host** of a URL whose scheme knows names and addresses. -/
def host? (s : List Char) : Except UrlFault String :=
  if s.head? = some '[' then bracketed? s
  else
    match asciiName? (percentDecode s) with
    | none => .error .badDomain
    | some [] => .error .emptyHost
    | some name =>
      if endsInNumber name then
        match fourPartAddress? name with
        | some n => .ok (String.ofList (dottedText n))
        | none => .error .badFourPartAddress
      else .ok (String.ofList name)

/-- Whether a character has no place in a host of any other scheme. -/
def deniedInHost (c : Char) : Bool := "\x00\t\n\r #/:<>?@[\\]^|".toList.contains c

/-- The host of a URL of any other scheme. -/
def otherHost? (s : List Char) : Except UrlFault String :=
  if s.head? = some '[' then bracketed? s
  else if s.any deniedInHost then .error .badHostCharacter
  else .ok (String.ofList (percentEncode isControl s))

end LiveConfig.Url
