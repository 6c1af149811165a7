import LiveConfig.Fetch.Request
import LiveConfig.Notify.Channel
import LiveConfig.Proofs.Json.Records

/-!
# What requests tell of notifications

A fetch tells the messages that it carries in one parameter of its query, and a poll tells what the
channel remembers in one of its own. The messages that are told can be read again, and they are all
that the fetch carries.

## Main statements

- `Messages.readRecord?_text`: messages are read as they were written.
- `FetchConfig.told_pairs`: the messages that a query tells.
- `FetchConfig.highest?_told`: for every key the query tells the highest number that is carried.
- `FetchConfig.address_eq_ok_iff`: where the query goes.
- `Channel.exists_pairs_of_address`: a poll tells what it is given, once.
-/

namespace LiveConfig

/-! ## §1 Parameters -/

namespace Url

/-- The values that query pairs give to a parameter. -/
def named (name : String) (pairs : List (String × String)) : List String :=
  (pairs.filter fun p => p.1 = name).map Prod.snd

variable {name other : String} {value : Option String} {l l' : List (String × String)}

theorem named_append : named name (l ++ l') = named name l ++ named name l' := by
  simp [named]

theorem named_given : named name (value.map fun v => (name, v)).toList = value.toList := by
  cases value <;> simp [named]

theorem named_given_of_ne (h : other ≠ name) :
    named name (value.map fun v => (other, v)).toList = [] := by
  cases value <;> simp [named, h]

end Url

/-! ## §2 Messages -/

namespace Messages

/-- Whether every number is one of 64 bits. -/
def Fitting (m : Messages) : Prop := ∀ p ∈ m.details, Number.Fits 64 p.2

instance (m : Messages) : Decidable m.Fitting :=
  inferInstanceAs (Decidable (∀ p ∈ m.details, Number.Fits 64 p.2))

variable {m : Messages}

theorem integral_toJson (h : m.Fitting) : m.toJson.integral = true := by
  have hdetails : (Json.object (m.details.map fun p => (p.1, .ofInt p.2))).integral = true :=
    Json.integral_object fun p hp => JsonNumber.isWhole_of_fits (h p hp)
  simp only [toJson, Json.integral, Json.integralMembers, Bool.and_true] at hdetails ⊢
  exact hdetails

theorem ofTree?_toJson (h : m.Fitting) : ofTree? m.toJson.tree = some m := by
  have hpairs : Json.Tree.pairs? Json.Tree.int?
      (Json.tree (.object (m.details.map fun p => (p.1, .ofInt p.2)))) = some m.details :=
    Json.Tree.pairs?_treeMembers fun p hp => Json.Tree.int?_ofInt (h p hp)
  have hfields : m.toJson.tree.fields? [["details"]]
      = some [some (Json.tree (.object (m.details.map fun p => (p.1, .ofInt p.2))))] := rfl
  have hself : ofList m.details = m := by
    obtain ⟨details, ordered⟩ := m
    simp only [ofList, Sorted.ofList_of_ordered ordered]
  simp only [ofTree?, hfields, Json.Tree.defaulted?, hpairs, Option.map_some, hself]

/-- **Messages are read as they were written.** -/
theorem readRecord?_text (h : m.Fitting) : Json.readRecord? ofTree? m.text = some m := by
  rw [text, Json.readRecord?_compactText (integral_toJson h), ofTree?_toJson h]

end Messages

/-! ## §3 Fetches -/

namespace FetchConfig

variable {c : FetchConfig} {release : Option String} {messages : Option Messages}

/-- The messages that a query tells. -/
def told (pairs : List (String × String)) : List Messages :=
  (Url.named "messages" pairs).filterMap (Json.readRecord? Messages.ofTree?)

theorem named_messages_pairs : Url.named "messages" (c.pairs release messages)
    = ((messages.filter fun m => !m.isEmpty).map Messages.text).toList := by
  simp only [pairs, Url.named_append, Url.named_given,
    Url.named_given_of_ne (by decide : "releaseKey" ≠ "messages"),
    Url.named_given_of_ne (by decide : "ip" ≠ "messages"),
    Url.named_given_of_ne (by decide : "dataCenter" ≠ "messages"),
    Url.named_given_of_ne (by decide : "label" ≠ "messages"), List.nil_append]

/-- **A query tells the messages** that the fetch carries, unless they say nothing. -/
theorem told_pairs (h : ∀ m ∈ messages, m.Fitting) :
    told (c.pairs release messages) = (messages.filter fun m => !m.isEmpty).toList := by
  rw [told, named_messages_pairs]
  cases hgiven : messages.filter fun m => !m.isEmpty with
  | none => rfl
  | some m =>
    have hm := h m (Option.filter_eq_some_iff.1 hgiven).1
    simp [Messages.readRecord?_text hm]

/-- **For every key the query tells the highest number** that the fetch carries. -/
theorem highest?_told (h : ∀ m ∈ messages, m.Fitting) (k : String) :
    Messages.highest? k (told (c.pairs release messages))
      = Messages.highest? k messages.toList := by
  rw [told_pairs h]
  cases messages with
  | none => rfl
  | some m =>
    rw [Option.filter_some]
    split
    · rfl
    · next hempty =>
      have hdetails : m.details = [] := by simpa [Messages.isEmpty] using hempty
      have hnone : m.get? k = none := by
        rw [Messages.get?, hdetails]
        rfl
      simp [Messages.highest?_cons, hnone]

/-- **The address of a fetch** is the one of the namespace with the query. -/
theorem address_eq_ok_iff {base ns : String} {u : Url} :
    c.address base ns release messages = .ok u ↔
      ∃ u₀, Http.address base ["configs", c.appId, c.cluster, ns] = .ok u₀
        ∧ u = u₀.withPairs (c.pairs release messages) := by
  unfold address
  cases Http.address base ["configs", c.appId, c.cluster, ns] with
  | error e => simp [bind, Except.bind]
  | ok u₀ => simp [bind, Except.bind, pure, Except.pure, eq_comm]

end FetchConfig

/-! ## §4 Polls -/

/-- **A poll tells what it is given**, in one parameter of its query. -/
theorem Channel.exists_pairs_of_address {config : PollConfig} {base state : String} {u : Url}
    (h : address config base state = .ok u) :
    ∃ u₀ pairs, Http.address base ["notifications", "v2"] = .ok u₀ ∧ u = u₀.withPairs pairs
      ∧ Url.named "notifications" pairs = [state] := by
  unfold address at h
  cases hbase : Http.address base ["notifications", "v2"] with
  | error e =>
    rw [hbase] at h
    cases h
  | ok u₀ =>
    rw [hbase] at h
    cases h
    refine ⟨u₀, _, rfl, rfl, ?_⟩
    simp only [Url.named_append, Url.named_given_of_ne (by decide : "dataCenter" ≠ "notifications"),
      Url.named_given_of_ne (by decide : "ip" ≠ "notifications"), List.append_nil]
    simp [Url.named]

end LiveConfig
