import LiveConfig.Notify.Notification
import LiveConfig.Proofs.Json.Records

/-!
# Notifications in documents

A poll tells the server which notification of each namespace is the latest, in a document of
notifications without messages. What is told so can be read again.

## Main statements

- `Notification.ofTree?_toJson`: a notification is read as it was written.
- `Notification.readList?_listToJson`: so is a whole list.
-/

namespace LiveConfig.Notification

variable {n : Notification} {l : List Notification}

/-- A notification as a poll tells it: without messages, and its number is one of 64 bits. -/
def Plain (n : Notification) : Prop := n.messages = none ∧ Number.Fits 64 n.id

theorem integral_toJson (h : n.Plain) : n.toJson.integral = true := by
  obtain ⟨ns, id, messages⟩ := n
  obtain ⟨rfl, hid⟩ := h
  have hwhole := JsonNumber.isWhole_of_fits hid
  simp [toJson, Json.integral, Json.integralMembers, Json.ofInt, hwhole]

/-- **A notification is read as it was written.** -/
theorem ofTree?_toJson (h : n.Plain) : ofTree? n.toJson.tree = some n := by
  obtain ⟨ns, id, messages⟩ := n
  obtain ⟨rfl, hid⟩ := h
  have hfields : (toJson ⟨ns, id, none⟩).tree.fields?
        [["namespaceName"], ["notificationId"], ["messages"]]
      = some [some (.text ns), some (.number (some (.int id))), none] := rfl
  have hint := Json.Tree.int?_ofInt hid
  rw [ofTree?, hfields]
  simp [Json.Tree.required?, Json.Tree.text?, Json.Tree.defaulted?, hint]

/-- **A list of notifications is read as it was written.** -/
theorem readList?_listToJson (h : ∀ n ∈ l, n.Plain) :
    readList? (Json.compactText (listToJson l)) = some l := by
  have hintegral : (listToJson l).integral = true :=
    Json.integral_array fun n hn => integral_toJson (h n hn)
  rw [readList?, Json.readRecord?_compactText hintegral]
  exact Json.Tree.list?_trees fun n hn => ofTree?_toJson (h n hn)

end LiveConfig.Notification
