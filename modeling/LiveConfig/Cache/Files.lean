import LiveConfig.Entries

/-!
# Files

A tree of directories and files, as far as the cache sees it: paths, the places that they lead to,
and the operations that read and change the tree.

## Representation

A place is the list of names that leads to it from the top. The tree lists the places that exist;
the top exists always. A file holds a text, or bytes that are none.

## Endings

A path that ends in a name can lead to anything. One that ends in a slash can only lead to a
directory, and one that ends in dots to a directory that exists already, which cannot be removed by
that path.

## Main statements

- `get?_put`: writing one place changes no other.
- `get?_remove_of_not_under`, `get?_remove_of_under`: removing changes nothing outside what is
  removed, and leaves nothing of it.
-/

namespace LiveConfig

/-- A place in the tree. -/
abbrev Place := List String

/-- What a file holds. -/
inductive FileContents
  | text (s : String)
  /-- Bytes that are no text. -/
  | bytes (b : List UInt8)
deriving DecidableEq, Repr

/-- What a file with some bytes holds. -/
def FileContents.ofBytes (b : List UInt8) : FileContents :=
  match String.fromUTF8? ⟨b.toArray⟩ with
  | some s => .text s
  | none => .bytes b

/-- What is at a place. -/
inductive Node
  | directory
  | file (contents : FileContents)
deriving DecidableEq, Repr

/-- Why an operation on files failed. -/
inductive FileError
  | notFound
  | notDirectory
  | isDirectory
  | notText
  | badName
deriving DecidableEq, Repr

/-- A tree of files. -/
structure Files where
  nodes : List (Place × Node) := []
deriving DecidableEq, Repr, Inhabited

namespace Files

/-! ## §1 Places -/

/-- What is at a place. -/
def get? (f : Files) (p : Place) : Option Node :=
  if p = [] then some .directory else f.nodes.lookup p

/-- Set what is at a place. -/
def put (p : Place) (n : Node) (f : Files) : Files :=
  ⟨(p, n) :: f.nodes.filter fun q => q.1 ≠ p⟩

/-- Remove a place and everything below it. -/
def remove (p : Place) (f : Files) : Files := ⟨f.nodes.filter fun q => !p.isPrefixOf q.1⟩

theorem lookup_filter (p : Place) (keep : Place → Bool) (l : List (Place × Node))
    (h : keep p = true) : (l.filter fun q => keep q.1).lookup p = l.lookup p := by
  induction l with
  | nil => rfl
  | cons q rest ih =>
    obtain ⟨place, node⟩ := q
    by_cases hp : p = place
    · subst hp
      simp [h]
    · have hb : (p == place) = false := by simp [hp]
      by_cases hk : keep place
      · simp [hk, List.lookup_cons, hb, ih]
      · simp [hk, List.lookup_cons, hb, ih]

/-- Writing one place changes no other. -/
theorem get?_put (p q : Place) (n : Node) (f : Files) (hq : q ≠ []) :
    (f.put p n).get? q = if q = p then some n else f.get? q := by
  by_cases h : q = p
  · subst h
    simp [get?, put, hq]
  · have hb : (q == p) = false := by simp [h]
    simp only [get?, put, hq, h, if_false, List.lookup_cons, hb]
    exact lookup_filter q (fun r => decide (r ≠ p)) f.nodes (by simp [h])

/-- Removing changes nothing outside what is removed. -/
theorem get?_remove_of_not_under (p q : Place) (f : Files) (h : p.isPrefixOf q = false) :
    (f.remove p).get? q = f.get? q := by
  by_cases hq : q = []
  · simp [get?, hq]
  · simp only [get?, remove, hq, if_false]
    exact lookup_filter q (fun r => !p.isPrefixOf r) f.nodes (by simp [h])

/-- What is removed is gone, with everything below it. -/
theorem get?_remove_of_under (p q : Place) (f : Files) (hq : q ≠ []) (h : p.isPrefixOf q = true) :
    (f.remove p).get? q = none := by
  simp only [get?, remove, hq, if_false, List.lookup_eq_none_iff, List.mem_filter]
  rintro r ⟨-, hr⟩
  rw [bne_iff_ne]
  rintro rfl
  simp [h] at hr

/-- Only what was written last at a place counts. -/
theorem put_put (p : Place) (n n' : Node) (f : Files) : (f.put p n).put p n' = f.put p n' := by
  simp [put]

theorem remove_put (p : Place) (n : Node) (f : Files) : (f.put p n).remove p = f.remove p := by
  have hself : p.isPrefixOf p = true := List.isPrefixOf_iff_prefix.2 List.prefix_rfl
  simp only [remove, put, List.filter_cons, hself, List.filter_filter, Files.mk.injEq]
  apply List.filter_congr
  intro q _
  by_cases hq : q.1 = p
  · simp [hq, hself]
  · simp [hq]

/-! ## §2 Paths -/

/-- A path behind another one. An absolute path stands alone. -/
def join (a b : String) : String :=
  if b.startsWith "/" || a.isEmpty then b
  else if a.endsWith "/" then a ++ b
  else a ++ "/" ++ b

/-- What stands between the slashes of a path. -/
def parts (path : String) : List String := (path.toList.splitOn '/').map String.ofList

/-- A part of a path that leads nowhere. -/
def isIdle (part : String) : Bool := part.isEmpty || part == "."

/-- The names of a path. -/
def names (path : String) : List String := (parts path).filter fun n => !isIdle n

/-- The last name of a path. -/
def fileName (path : String) : String := (names path).getLastD ""

/-- The path with another last name. -/
def withFileName (path name : String) : String :=
  let kept := path.toList.length - (fileName path).toList.length
  String.ofList (path.toList.take kept) ++ name

/-- A relative path without what leads nowhere at its start. -/
def trimStart (path : String) : String :=
  if path.startsWith "/" then path else "/".intercalate ((parts path).dropWhile isIdle)

/-- How a path ends. -/
inductive PathEnding
  /-- In a name. -/
  | name
  /-- In a slash, or nowhere. -/
  | slash
  /-- In one dot. -/
  | dot
  /-- In two dots. -/
  | up
deriving DecidableEq, Repr

/-- How a path ends; slashes behind dots do not count. -/
def ending (path : String) : PathEnding :=
  match (parts path).reverse.find? fun n => !n.isEmpty with
  | none => .slash
  | some "." => .dot
  | some ".." => .up
  | some _ => if path.endsWith "/" then .slash else .name

/-- The longest name of a file, in bytes. -/
def maxName : Nat := 255

/-- The longest path, in bytes. -/
def maxPath : Nat := 4095

/-- The names that lead from the top along a path that starts in a directory. No path is too long or
holds a character of code zero. -/
@[irreducible] def route (base : Place) (path : String) : Except FileError (List String) :=
  let full := if path.startsWith "/" then path else "/" ++ "/".intercalate base ++ "/" ++ path
  if maxPath < full.utf8ByteSize || path.toList.contains '\x00' then .error .badName
  else .ok (names full)

/-- One step from a directory. -/
def enter (place : Place) (name : String) : Place :=
  if name = ".." then place.dropLast else place ++ [name]

/-- Walk along names; every place but the last has to be a directory. -/
def walk (f : Files) : Place → List String → Except FileError Place
  | place, [] => .ok place
  | place, [name] =>
    if name.utf8ByteSize ≤ maxName then .ok (enter place name) else .error .badName
  | place, name :: rest =>
    if name.utf8ByteSize ≤ maxName then
      match f.get? (enter place name) with
      | some .directory => walk f (enter place name) rest
      | some (.file _) => .error .notDirectory
      | none => .error .notFound
    else .error .badName

/-- The place that a path leads to from a directory. -/
def locate (f : Files) (base : Place) (path : String) : Except FileError Place := do
  f.walk [] (← route base path)

/-! ## §3 Operations -/

/-- The text of the file at a path. -/
def read (f : Files) (base : Place) (path : String) : Except FileError String := do
  match f.get? (← f.locate base path) with
  | some (.file (.text text)) => pure text
  | some (.file (.bytes _)) => throw .notText
  | some .directory => throw .isDirectory
  | none => throw .notFound

/-- Make the directories along names that are missing. Those that were made stay, even if a later
one cannot be made. -/
def makeDirectories (f : Files) : Place → List String → Files × Except FileError Unit
  | _, [] => (f, .ok ())
  | place, name :: rest =>
    if maxName < name.utf8ByteSize then (f, .error .badName)
    else
      let next := enter place name
      match f.get? next with
      | some .directory => makeDirectories f next rest
      | some (.file _) => (f, .error .notDirectory)
      | none => makeDirectories (f.put next .directory) next rest

/-- Make a directory and those above it. In front of a single dot the directory has to be there. -/
def makeDirectory (f : Files) (base : Place) (path : String) : Files × Except FileError Unit :=
  match route base path with
  | .error e => (f, .error e)
  | .ok names =>
    if ending path = .dot then
      match f.makeDirectories [] names.dropLast with
      | (f, .error e) => (f, .error e)
      | (f, .ok _) =>
        match f.walk [] names with
        | .error e => (f, .error e)
        | .ok place =>
          (f, match f.get? place with
            | some .directory => .ok ()
            | some (.file _) => .error .notDirectory
            | none => .error .notFound)
    else f.makeDirectories [] names

/-- The place at which a file can be written. -/
def writable (f : Files) (base : Place) (path : String) : Except FileError Place := do
  let place ← f.locate base path
  if ending path ≠ .name ∨ f.get? place = some .directory then throw .isDirectory
  pure place

/-- Write a file; it may exist, and its directory has to. -/
def write (f : Files) (base : Place) (path text : String) : Except FileError Files := do
  pure (f.put (← f.writable base path) (.file (.text text)))

/-- Remove everything below a place. -/
def clear (p : Place) (f : Files) : Files :=
  ⟨f.nodes.filter fun q => q.1 = p || !p.isPrefixOf q.1⟩

/-- Remove what a path leads to, if it leads anywhere. -/
def removePath (f : Files) (base : Place) (path : String) : Files :=
  match f.locate base path with
  | .error _ => f
  | .ok place =>
    match f.get? place, ending path with
    | some .directory, .name | some .directory, .slash | some (.file _), .name => f.remove place
    | some .directory, .dot | some .directory, .up => f.clear place
    | _, _ => f

/-- What is below a directory, by path, with the texts of files; directories end in a slash. -/
def listing (f : Files) (base : Place) : List (String × Option String) :=
  f.nodes.filterMap fun q =>
    if base.isPrefixOf q.1 && q.1 ≠ base then
      let path := "/".intercalate (q.1.drop base.length)
      match q.2 with
      | .directory => some (path ++ "/", none)
      | .file (.text text) => some (path, some text)
      | .file (.bytes _) => some (path, none)
    else none

end Files

end LiveConfig
