import LiveConfig.Notify.Messages

/-!
# Notifications

What the service says about one namespace: the number of its latest notification, and the messages
that go with it.
-/

namespace LiveConfig

/-- A notification about one namespace. -/
structure Notification where
  ns : String
  id : Int
  messages : Option Messages := none
deriving DecidableEq, Repr

namespace Notification

/-- The number sent for a namespace that was never notified. -/
def initialId : Int := -1

/-- The notification as a document; missing messages are left out. -/
def toJson (n : Notification) : Json :=
  .object ([("namespaceName", .text n.ns), ("notificationId", .ofInt n.id)]
    ++ (n.messages.map fun m => ("messages", m.toJson)).toList)

/-- A list of notifications as a document. -/
def listToJson (ns : List Notification) : Json := .array (ns.map toJson)

/-- The notification of a record. -/
def ofTree? (t : Json.Tree) : Option Notification :=
  match t.fields? [["namespaceName"], ["notificationId"], ["messages"]] with
  | some [ns, id, messages] => do
    pure {
      ns := ← Json.Tree.required? Json.Tree.text? ns
      id := ← Json.Tree.required? Json.Tree.int? id
      messages := ← Json.Tree.defaulted? none (Json.Tree.orNull? Messages.ofTree?) messages }
  | _ => none

/-- The notifications of an answer. -/
def readList? (s : String) : Option (List Notification) :=
  Json.readRecord? (Json.Tree.list? ofTree?) s

end Notification

end LiveConfig
