import LiveConfig.Url.Encoding

/-!
# Paths

A path as the list of its segments, each in the form in which it is written. The path of a URL that
is read loses its dot segments; a dot segment that is appended later is passed over.

## Drives

The path of a file may begin with a drive, a letter and a colon, which cannot be left upwards. At
the front of the path a bar may stand for the colon.

## Main statements

- `text_append`: the text of two paths, one behind the other, is the one text behind the other.
-/

namespace LiveConfig.Url

/-! ## §1 Segments -/

/-- The segments of a path. No segment at all is the empty path; an empty one at the end is a slash
at the end. -/
abbrev Path := List (List Char)

namespace Path

/-- The text of a path: a slash before each segment. -/
def text (p : Path) : List Char := p.flatMap ('/' :: ·)

/-- Segments that stand for the place itself. -/
def isSingleDot (s : List Char) : Bool :=
  let s := s.map Char.toLower
  s = ['.'] || s = ['%', '2', 'e']

/-- Segments that stand for the place above. -/
def isDoubleDot (s : List Char) : Bool :=
  let s := s.map Char.toLower
  s = ['.', '.'] || s = ['.', '%', '2', 'e'] || s = ['%', '2', 'e', '.']
    || s = ['%', '2', 'e', '%', '2', 'e']

/-- Whether a segment names a drive: a letter and a colon or a bar. -/
def isDrive : List Char → Bool
  | [c, d] => c.isAlpha && (d == ':' || d == '|')
  | _ => false

/-- Whether a segment is a drive, or begins with one that a backslash sets off. -/
def leadsDrive (s : List Char) : Bool :=
  isDrive (s.take 2) && (s.length == 2 || s[2]? == some '\\')

/-- The place above. A drive has none. -/
def parent (p : Path) : Path := if p.getLast?.any leadsDrive then p else p.dropLast

/-- Whether a path is the root. -/
def isRoot (p : Path) : Bool := p = [[]]

/-- Tab, line feed and carriage return are not part of any URL. -/
def isDropped (c : Char) : Bool := c == '\t' || c == '\n' || c == '\r'

/-- A text without what is not part of any URL. -/
def kept (s : List Char) : List Char := s.filter fun c => !isDropped c

/-- A segment at the front of a file path. If a character that is not part of the URL follows the
colon of a drive, the drive is a segment of its own, and what follows is not looked at any more. -/
def splitDrive? (s : List Char) : Option (Path × List Char) :=
  match kept s with
  | c :: ':' :: d :: rest =>
    let behind := (s.dropWhile (· != ':')).drop 1
    if c.isAlpha && behind.head?.any isDropped then some ([[c, ':']], d :: rest) else none
  | _ => none

/-! ## §2 Paths that are read -/

/-- A path that is being read. -/
structure Trail where
  path : Path := []
  /-- A drive has been put at its front. -/
  driven : Bool := false
deriving DecidableEq, Repr

/-- One more segment, in the form in which it is written. Dot segments are resolved, and at the
front of a file path a drive is written with a colon. -/
def Trail.push (file last : Bool) (t : Trail) (s : List Char) : Trail :=
  let close (p : Path) : Path := if last then p ++ [[]] else p
  if isDoubleDot s then { t with path := close (parent t.path) }
  else if isSingleDot s then { t with path := close t.path }
  else if file && t.path.isEmpty && isDrive s then ⟨[s.take 1 ++ [':']], true⟩
  else { t with path := t.path ++ [s] }

/-- One more segment, in the form in which it is given. -/
def Trail.pushRaw (file last : Bool) (t : Trail) (s : List Char) : Trail :=
  match if file && t.path.isEmpty then splitDrive? s else none with
  | some (drive, more) => { t with path := drive ++ [percentEncode inPathSet more] }
  | none => t.push file last (percentEncode inPathSet (kept s))

/-- The path of segments as they are given. -/
def ofRaw (file : Bool) : Trail → List (List Char) → Trail
  | t, [] => t
  | t, [last] => t.pushRaw file true last
  | t, s :: rest => ofRaw file (t.pushRaw file false s) rest

/-- A file path does not begin with an empty segment, unless it is the root. -/
def dropEmptyFront (p : Path) : Path :=
  match p.dropWhile List.isEmpty with
  | [] => [[]]
  | p => p

/-! ## §3 Appending segments -/

/-- Forget a slash at the end. -/
def dropEmptyLast (p : Path) : Path :=
  if 1 < p.length && p.getLast? = some [] then p.dropLast else p

/-- Append one segment. The root gives its place to the segment. -/
def appendSegment (file special : Bool) (p : Path) (s : List Char) : Path :=
  if s = ['.'] || s = ['.', '.'] then p
  else
    let encode := percentEncode (inSegmentSet special)
    let front := if isRoot p then [] else p
    match if file && front.isEmpty then splitDrive? s else none with
    | some (drive, more) => drive ++ [encode more]
    | none => (Trail.push file true ⟨front, false⟩ (encode (kept s))).path

/-- Append segments to a path, which loses a slash at its end first. -/
def appendAll (file special : Bool) (p : Path) (segments : List (List Char)) : Path :=
  segments.foldl (appendSegment file special) (dropEmptyLast p)

theorem text_append (p q : Path) : text (p ++ q) = text p ++ text q := by
  simp [text]

end Path

end LiveConfig.Url
