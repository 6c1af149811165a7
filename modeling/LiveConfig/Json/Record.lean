import LiveConfig.Entries
import LiveConfig.Json.Reader

/-!
# Records in documents

Documents that stand for records with fixed fields. A record is an object, or an array that gives
the fields in their order. Members that are no field are skipped whatever they hold; a field that is
given twice is an error.
-/

namespace LiveConfig.Json

namespace Tree

/-! ## §1 Fields -/

/-- The value of a field with some accepted names: the outer option is an error, the inner one a
field that is not given. -/
def field? (names : List String) (members : List (String × Tree)) : Option (Option Tree) :=
  match members.filter fun m => names.contains m.1 with
  | [] => some none
  | [m] => some (some m.2)
  | _ => none

/-- The members of an object by name; none if a name denotes nothing. -/
def named? (members : List (Option String × Tree)) : Option (List (String × Tree)) :=
  members.mapM fun m => m.1.map (·, m.2)

/-- **The fields of a record**, each given by its accepted names. -/
def fields? (names : List (List String)) : Tree → Option (List (Option Tree))
  | object members => (named? members).bind fun ms => names.mapM fun n => field? n ms
  | array items =>
    if items.length ≤ names.length then
      some (items.map some ++ List.replicate (names.length - items.length) none)
    else none
  | _ => none

/-! ## §2 Values of fields -/

/-- A text. -/
def text? : Tree → Option String
  | text s => s
  | _ => none

/-- A signed integer of 64 bits. -/
def int? : Tree → Option Int
  | number (some (.int i)) => if Number.Fits 64 i then some i else none
  | _ => none

/-- A list of values of one type. -/
def list? {α : Type} (read? : Tree → Option α) : Tree → Option (List α)
  | array items => items.mapM read?
  | _ => none

/-- The members of a map, in written order. -/
def pairs? {α : Type} (read? : Tree → Option α) : Tree → Option (List (String × α))
  | object members =>
    (named? members).bind fun ms => ms.mapM fun m => (read? m.2).map (m.1, ·)
  | _ => none

/-- A map from text to text that keeps its order; of members with one name the last gives the
value. -/
def entries? (t : Tree) : Option Entries := (pairs? text? t).map Entries.ofList

/-- A value that may be null. -/
def orNull? {α : Type} (read? : Tree → Option α) : Tree → Option (Option α)
  | null => some none
  | t => (read? t).map some

/-- A field that has to be given. -/
def required? {α : Type} (read? : Tree → Option α) (t : Option Tree) : Option α := t.bind read?

/-- A field that stands for something even if it is not given. -/
def defaulted? {α : Type} (default : α) (read? : Tree → Option α) : Option Tree → Option α
  | none => some default
  | some t => read? t

end Tree

/-- The record that a text holds. -/
def readRecord? {α : Type} (decode? : Tree → Option α) (s : String) : Option α :=
  (readTree? s.toList).bind decode?

end LiveConfig.Json
