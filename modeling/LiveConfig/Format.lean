import LiveConfig.Document
import LiveConfig.Properties.Reader
import LiveConfig.Properties.Writer

/-!
# Formats of namespaces

A namespace is published as flat entries or as a document, which its name tells by the extension. A
document is kept whole under one key, and the structured ones can be viewed as flat entries.
-/

namespace LiveConfig

/-- How the content of a namespace is published. -/
inductive Format
  | properties
  | xml
  | json
  | yaml
  | yml
  | txt
deriving DecidableEq, Repr, Inhabited

namespace Format

/-- The extension of names with this format. -/
def extension : Format → String
  | properties => "properties"
  | xml => "xml"
  | json => "json"
  | yaml => "yaml"
  | yml => "yml"
  | txt => "txt"

/-- The name of the format. -/
def name : Format → String
  | properties => "Properties"
  | xml => "Xml"
  | json => "Json"
  | yaml => "Yaml"
  | yml => "Yml"
  | txt => "Txt"

/-- What follows the last dot of a name; none without a dot. -/
def extensionOf? (ns : List Char) : Option (List Char) :=
  if '.' ∈ ns then some (ns.reverse.takeWhile (· != '.')).reverse else none

/-- **The format of a namespace**, by the extension of its name in any case. -/
def ofNamespace (ns : String) : Format :=
  match (extensionOf? ns.toList).map fun e => String.ofList (e.map Char.toLower) with
  | some "xml" => xml
  | some "json" => json
  | some "yaml" => yaml
  | some "yml" => yml
  | some "txt" => txt
  | _ => properties

/-! ## Content -/

/-- The key under which a document is kept. -/
def contentKey : String := "content"

/-- The namespace as one text. -/
def content? (f : Format) (e : Entries) : Option String :=
  match f with
  | properties => some (Properties.write e)
  | _ => e.get? contentKey

/-- Why a namespace cannot be viewed as flat entries. -/
inductive ViewError
  | unsupported (f : Format)
  | missingContent
  | badYaml
  | badJson
  | notAMapping
deriving DecidableEq, Repr

/-- What a failed view says; where the text of the document is at fault it depends on the place. -/
def ViewError.message? : ViewError → Option String
  | .unsupported f => some (f.name ++ " namespaces cannot be viewed as properties")
  | .missingContent => some "namespace has no `content` entry"
  | .notAMapping => some "document root must be a mapping"
  | .badYaml => none
  | .badJson => none

/-- A parsed document as flat entries. -/
def flatten (j : Json) : Except ViewError Entries :=
  match Document.flatten? j with
  | some e => .ok e
  | none => .error .notAMapping

/-- **The namespace as flat entries.** -/
def view (f : Format) (e : Entries) : Except ViewError Entries :=
  match f with
  | properties => .ok e
  | xml => .error (.unsupported xml)
  | txt => .error (.unsupported txt)
  | json =>
    match e.get? contentKey with
    | none => .error .missingContent
    | some s => match Json.read? s with
      | none => .error .badJson
      | some j => flatten j
  | yaml | yml =>
    match e.get? contentKey with
    | none => .error .missingContent
    | some s => match Yaml.readJson? s with
      | none => .error .badYaml
      | some j => flatten j

end Format

end LiveConfig
