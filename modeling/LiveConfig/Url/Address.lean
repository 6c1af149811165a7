import LiveConfig.Url.Host
import LiveConfig.Url.Path

/-!
# URLs

Reading a URL, appending path segments and query pairs to it, and its one text.
-/

namespace LiveConfig

open LiveConfig.Url

/-! ## §1 Parts -/

/-- What stands between the two slashes and the path. -/
structure Url.Authority where
  /-- User name and password in escaped form. -/
  user : String
  host : String
  /-- The port, unless it is the default one of the scheme. -/
  port : Option Nat
deriving DecidableEq, Repr

/-- What follows the authority. -/
inductive Url.Course
  /-- A path of segments. Without an authority, a path that began like one when it was read is set
  off by a dot segment. -/
  | path (setOff : Bool) (segments : Path)
  /-- Text that is not made of segments, so that none can be appended. -/
  | rootless (text : List Char)
deriving DecidableEq, Repr

/-- A URL that has been read. -/
structure Url where
  scheme : String
  authority : Option Url.Authority
  course : Url.Course
  query : Option String
  fragment : Option String
deriving DecidableEq, Repr

namespace Url

/-- The default port of a scheme. -/
def defaultPort? (scheme : String) : Option Nat :=
  match scheme with
  | "http" | "ws" => some 80
  | "https" | "wss" => some 443
  | "ftp" => some 21
  | _ => none

/-- Whether a scheme has its own rules for authority and path. -/
def isSpecial (scheme : String) : Bool := scheme == "file" || (defaultPort? scheme).isSome

/-! ## §2 Text -/

/-- The authority with its slashes. -/
def Authority.text (a : Authority) : String :=
  "//" ++ (if a.user.isEmpty then "" else a.user ++ "@") ++ a.host
    ++ (match a.port with
        | some n => ":" ++ Number.decimalText n
        | none => "")

/-- The path in the text. -/
def Course.text : Course → String
  | .path setOff p => String.ofList ((if setOff then ['/', '.'] else []) ++ p.text)
  | .rootless t => String.ofList t

/-- The URL up to its path. -/
def textToPath (u : Url) : String :=
  u.scheme ++ ":" ++ ((u.authority.map Authority.text).getD "") ++ u.course.text

/-- The URL with its query, as it is sent. -/
def textToQuery (u : Url) : String :=
  u.textToPath ++ (match u.query with
    | some q => "?" ++ q
    | none => "")

/-- The text of a URL. -/
def text (u : Url) : String :=
  u.textToQuery ++ (match u.fragment with
    | some f => "#" ++ f
    | none => "")

/-! ## §3 Reading -/

/-- Cut a text at the first character of a kind, which stays with the rest. -/
def cutBefore (stop : Char → Bool) (s : List Char) : List Char × List Char :=
  (s.takeWhile fun c => !stop c, s.dropWhile fun c => !stop c)

/-- Where an authority ends. -/
def endsAuthority (special : Bool) (c : Char) : Bool :=
  c == '/' || c == '?' || c == '#' || (special && c == '\\')

/-- The scheme in lower case and what follows its colon. -/
def readScheme? (s : List Char) : Option (String × List Char) :=
  match s with
  | c :: _ =>
    let (name, rest) := cutBefore (fun c => !(c.isAlphanum || c == '+' || c == '-' || c == '.')) s
    match rest with
    | ':' :: rest =>
      if c.isAlpha then some (String.ofList (name.map Char.toLower), rest) else none
    | _ => none
  | [] => none

/-- The query and the fragment, which follow the path. -/
def readTail (special : Bool) (s : List Char) : Option String × Option String :=
  let fragment (t : List Char) :=
    match t with
    | '#' :: t => some (String.ofList (percentEncode inFragmentSet t))
    | _ => none
  match s with
  | '?' :: t =>
    let (query, rest) := cutBefore (· == '#') t
    (some (String.ofList (percentEncode (inQuerySet special) query)), fragment rest)
  | t => (none, fragment t)

/-- Split raw path text at its separators. -/
def splitRaw (special : Bool) (s : List Char) : List (List Char) :=
  (s.map fun c => if special && c == '\\' then '/' else c).splitOn '/'

/-- A path that is read, and the rest. The slash in front of its first segment is not part of the
segment, but `whole` counts what stands before it as an empty one. -/
def readPath (scheme : String) (whole : Bool) (s : List Char) : Path.Trail × List Char :=
  let special := isSpecial scheme
  let (raw, rest) := cutBefore (fun c => c == '?' || c == '#') s
  let t := match raw.dropWhile Path.isDropped with
    | [] => ⟨if special then [[]] else [], false⟩
    | c :: more =>
      let slash := c == '/' || (special && c == '\\')
      Path.ofRaw (scheme == "file") {} (splitRaw special (if slash && !whole then more else raw))
  (t, rest)

/-- The user part in escaped form: an empty password goes with its colon. -/
def encodeUser (s : List Char) : String :=
  let (name, rest) := cutBefore (· == ':') s
  let password := rest.drop 1
  String.ofList (percentEncode inUserSet name
    ++ (if password.isEmpty then [] else ':' :: percentEncode inUserSet password))

/-- Split an authority at its last at sign: the user part, if there is one, and the rest. -/
def splitUser (s : List Char) : Option (List Char) × List Char :=
  let back := (s.reverse.takeWhile (· != '@')).reverse
  if s.contains '@' then (some ((s.take (s.length - back.length)).dropLast), back) else (none, s)

/-- Split host and port at the first colon that is not in brackets. -/
def splitPort : Bool → List Char → List Char × Option (List Char)
  | _, [] => ([], none)
  | inside, c :: rest =>
    if c == ':' && !inside then ([], some rest)
    else
      let inside := if c == '[' then true else if c == ']' then false else inside
      let (host, port) := splitPort inside rest
      (c :: host, port)

/-- The port, unless it is the default one; no digits are no port. A backslash ends the digits and
belongs to what follows. -/
def readPort? (scheme : String) (s : List Char) : Except UrlFault (Option Nat × List Char) :=
  let (digits, rest) := cutBefore (· == '\\') s
  if digits.isEmpty then .ok (none, rest)
  else
    match Number.readDigits? 10 digits with
    | some n =>
      if 65535 < n then .error .badPort
      else .ok (if defaultPort? scheme = some n then none else some n, rest)
    | none => .error .badPort

/-- The authority, given without what ends it, and what is left of it for the path. -/
def readAuthority? (scheme : String) (ended : Bool) (s : List Char) :
    Except UrlFault (Authority × List Char) := do
  let special := isSpecial scheme
  let (user, rest) := splitUser s
  if user = some [] && rest.isEmpty && ended then throw .emptyHost
  let user := (user.map encodeUser).getD ""
  let (hostText, portText) := splitPort false rest
  if hostText.isEmpty then
    if special || portText.isSome || !user.isEmpty then throw .emptyHost
    pure (⟨user, "", none⟩, [])
  else
    let host ← if special then host? hostText else otherHost? hostText
    let (port, rest) ← match portText with
      | some digits => readPort? scheme digits
      | none => pure (none, [])
    pure (⟨user, host, port⟩, rest)

/-- What follows two slashes: authority, path, query and fragment. -/
def readAfterSlashes? (scheme : String) (s : List Char) : Except UrlFault Url := do
  let special := isSpecial scheme
  let (front, rest) := cutBefore (endsAuthority special) s
  let (authority, left) ← readAuthority? scheme (!rest.isEmpty) front
  let (trail, rest) := readPath scheme false (left ++ rest)
  let (query, fragment) := readTail special rest
  pure ⟨scheme, some authority, .path false trail.path, query, fragment⟩

/-- Whether a character separates segments where both slashes do. -/
def isSlash (c : Char) : Bool := c == '/' || c == '\\'

/-- What is left of a text behind so many characters that are part of the URL. -/
def dropKept : Nat → List Char → List Char
  | 0, s => s
  | _, [] => []
  | n + 1, c :: rest => if Path.isDropped c then dropKept (n + 1) rest else dropKept n rest

/-- The host of a file URL, whether it was left out between its slashes, and what follows it. The
local host is no host. -/
def readFileHost? (s : List Char) : Except UrlFault (String × Bool × List Char) :=
  match s with
  | a :: b :: t =>
    if isSlash a && isSlash b then
      let (front, rest) := cutBefore (endsAuthority true) t
      if front.isEmpty then .ok ("", true, rest)
      -- A drive in the place of the host begins the path.
      else if Path.isDrive front then .ok ("", false, t)
      else (host? front).map fun host => (if host == "localhost" then "" else host, false, rest)
    else .ok ("", false, s)
  | s => .ok ("", false, s)

/-- A file URL, given with the characters that are not part of it: within the path they matter. -/
def readFile? (raw : List Char) : Except UrlFault Url := do
  let s := Path.kept raw
  let (host, leftOut, behind) ← readFileHost? s
  let (trail, rest) := readPath "file" leftOut (dropKept (s.length - behind.length) raw)
  let (query, fragment) := readTail true (Path.kept rest)
  -- A drive belongs to no host.
  let host := if trail.driven then "" else host
  let path := Path.dropEmptyFront trail.path
  pure ⟨"file", some ⟨"", host, none⟩, .path false path, query, fragment⟩

/-- A URL of a scheme without rules of its own. -/
def readOther? (scheme : String) (s : List Char) : Except UrlFault Url :=
  match s with
  | '/' :: '/' :: t => readAfterSlashes? scheme t
  | '/' :: _ =>
    let (trail, rest) := readPath scheme false s
    let (query, fragment) := readTail false rest
    let setOff := 1 < trail.path.length && trail.path.head? == some []
    .ok ⟨scheme, none, .path setOff trail.path, query, fragment⟩
  | s =>
    let (raw, rest) := cutBefore (fun c => c == '?' || c == '#') s
    let (query, fragment) := readTail false rest
    .ok ⟨scheme, none, .rootless (percentEncode isControl raw), query, fragment⟩

/-- Drop blanks and control characters of ASCII at both ends. -/
def trim (s : List Char) : List Char :=
  let outer (c : Char) : Bool := c.toNat ≤ 0x20
  ((s.dropWhile outer).reverse.dropWhile outer).reverse

/-- A text without what is not part of the URL in it. -/
def clean (s : List Char) : List Char := Path.kept (trim s)

/-- **Read a URL.** -/
def read? (s : String) : Except UrlFault Url :=
  match readScheme? (clean s.toList) with
  | none => .error .noScheme
  | some ("file", _) => readFile? (dropKept "file:".length (trim s.toList))
  | some (scheme, rest) =>
    if isSpecial scheme then readAfterSlashes? scheme (rest.dropWhile isSlash)
    else readOther? scheme rest

/-! ## §4 Building request addresses -/

/-- Append segments to the path, if there is one. -/
def appendSegments? (u : Url) (segments : List String) : Option Url :=
  match u.course with
  | .path setOff p =>
    let p := p.appendAll (u.scheme == "file") (isSpecial u.scheme) (segments.map String.toList)
    some { u with course := .path setOff p }
  | .rootless _ => none

/-- Why no request address can be built on a base. -/
inductive BaseFault
  | unreadable (fault : UrlFault)
  | noSegments
deriving DecidableEq, Repr

/-- The reason in words. -/
def BaseFault.reason : BaseFault → String
  | .unreadable fault => fault.reason
  | .noSegments => "cannot be a base"

/-- **The address** of the segments under a base. -/
def build? (base : String) (segments : List String) : Except BaseFault Url :=
  match read? base with
  | .error fault => .error (.unreadable fault)
  | .ok u =>
    match u.appendSegments? segments with
    | some u => .ok u
    | none => .error .noSegments

/-- The text of query pairs. -/
def formText (pairs : List (String × String)) : String :=
  "&".intercalate (pairs.map fun p => formEncode p.1 ++ "=" ++ formEncode p.2)

/-- Append query pairs. Even without pairs there is a query afterwards, though it may be empty. -/
def withPairs (u : Url) (pairs : List (String × String)) : Url :=
  let old := u.query.getD ""
  let new := formText pairs
  { u with query := some (if old.isEmpty || new.isEmpty then old ++ new else old ++ "&" ++ new) }

end Url

end LiveConfig
