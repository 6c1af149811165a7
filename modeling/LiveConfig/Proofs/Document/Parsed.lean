import LiveConfig.Proofs.Document.Routes

/-!
# Parsed documents are tidy

Whatever a JSON or a YAML text holds, no object of its value has two members of one name: of members
that are written under one name the last one stays.

## Main statements

- `Json.tidy_of_read?`: the value of a JSON text is tidy.
- `Yaml.tidy_of_readJson?`: the value of a YAML text is tidy.
-/

namespace LiveConfig

/-! ## §1 JSON texts -/

namespace Json

/-- Members that have been sorted make a tidy object of tidy values. -/
theorem tidy_sorted {members : List (String × Json)} (h : ∀ m ∈ members, m.2.Tidy) :
    (Json.object (Sorted.ofList members)).Tidy :=
  .object (Sorted.nodup_ofList members) fun m hm => h m (Sorted.mem_of_mem_ofList hm)

namespace Tree

mutual
/-- **What a tree denotes is tidy.** -/
theorem tidy_of_denote? : (t : Tree) → {v : Json} → t.denote? = some v → v.Tidy
  | .null, _, h => by
    cases h
    exact .null
  | .bool b, _, h => by
    cases h
    exact .bool b
  | .number n, _, h => by
    obtain ⟨n, -, rfl⟩ := Option.map_eq_some_iff.1 h
    exact .number n
  | .text s, _, h => by
    obtain ⟨s, -, rfl⟩ := Option.map_eq_some_iff.1 h
    exact .text s
  | .array items, _, h => by
    obtain ⟨vs, hvs, rfl⟩ := Option.map_eq_some_iff.1 h
    exact .array (tidy_of_denoteItems? items hvs)
  | .object members, _, h => by
    obtain ⟨ms, hms, rfl⟩ := Option.map_eq_some_iff.1 h
    exact tidy_sorted (tidy_of_denoteMembers? members hms)

theorem tidy_of_denoteItems? : (items : List Tree) → {vs : List Json} →
    denoteItems? items = some vs → ∀ v ∈ vs, v.Tidy
  | [], _, h => by
    cases h
    simp
  | t :: rest, _, h => by
    simp only [denoteItems?, Option.bind_eq_bind, Option.pure_def, Option.bind_eq_some_iff,
      Option.some.injEq] at h
    obtain ⟨v, hv, vs, hvs, rfl⟩ := h
    exact List.forall_mem_cons.2 ⟨tidy_of_denote? t hv, tidy_of_denoteItems? rest hvs⟩

theorem tidy_of_denoteMembers? : (members : List (Option String × Tree)) →
    {ms : List (String × Json)} → denoteMembers? members = some ms → ∀ m ∈ ms, m.2.Tidy
  | [], _, h => by
    cases h
    simp
  | (name, t) :: rest, _, h => by
    simp only [denoteMembers?, Option.bind_eq_bind, Option.pure_def, Option.bind_eq_some_iff,
      Option.some.injEq] at h
    obtain ⟨n, -, v, hv, ms, hms, rfl⟩ := h
    exact List.forall_mem_cons.2 ⟨tidy_of_denote? t hv, tidy_of_denoteMembers? rest hms⟩
end

end Tree

/-- **The value of a JSON text is tidy.** -/
theorem tidy_of_read? {s : String} {v : Json} (h : read? s = some v) : v.Tidy := by
  obtain ⟨t, -, ht⟩ := Option.bind_eq_some_iff.1 h
  unfold Tree.value? at ht
  split at ht
  · exact t.tidy_of_denote? ht
  · cases ht

end Json

/-! ## §2 YAML texts -/

namespace Yaml

/-- No mapping in the value has two members of one name. -/
inductive Value.Tidy : Value → Prop
  | null : Tidy .null
  | bool (b : Bool) : Tidy (.bool b)
  | int (i : Int) : Tidy (.int i)
  | float (x : Float) : Tidy (.float x)
  | text (s : String) : Tidy (.text s)
  | list {items : List Value} : (∀ v ∈ items, Tidy v) → Tidy (.list items)
  | map {members : List (String × Value)} :
      (members.map Prod.fst).Nodup → (∀ m ∈ members, Tidy m.2) → Tidy (.map members)

theorem tidy_sorted {members : List (String × Value)} (h : ∀ m ∈ members, m.2.Tidy) :
    (Value.map (Sorted.ofList members)).Tidy :=
  .map (Sorted.nodup_ofList members) fun m hm => h m (Sorted.mem_of_mem_ofList hm)

theorem tidy_plainValue (s : String) : (plainValue s).Tidy := by
  unfold plainValue
  repeat' split
  all_goals constructor

theorem tidy_of_scalarValue? {tag : Option Tag} {style : ScalarStyle} {s : String} {v : Value}
    (h : scalarValue? tag style s = some v) : v.Tidy := by
  unfold scalarValue? at h
  split at h
  · cases h
    split
    · exact tidy_plainValue s
    · exact .text s
  · split at h
    · obtain ⟨b, -, rfl⟩ := Option.map_eq_some_iff.1 h
      exact .bool b
    split at h
    · obtain ⟨i, -, rfl⟩ := Option.map_eq_some_iff.1 h
      exact .int i
    split at h
    · obtain ⟨x, -, rfl⟩ := Option.map_eq_some_iff.1 h
      exact .float x
    split at h
    · split at h
      · cases h
        exact .null
      · cases h
    · cases h
      split
      · exact tidy_plainValue s
      · exact .text s

theorem tidy_nest {v : Value} (hv : v.Tidy) (parts : List (List Char)) : (nest parts v).Tidy := by
  induction parts with
  | nil => exact hv
  | cons part rest ih =>
    rw [nest]
    split
    · exact hv
    · exact .map (by simp) (by simpa using ih)

theorem tidy_wrapTag {v : Value} (hv : v.Tidy) (tag : Option Tag) : (wrapTag tag v).Tidy := by
  unfold wrapTag
  split
  · exact tidy_nest hv _
  · exact hv

theorem tidy_of_scalarNode? {tag : Option Tag} {style : ScalarStyle} {s : String} {v : Value}
    (h : scalarNode? tag style s = some v) : v.Tidy := by
  unfold scalarNode? at h
  split at h
  · obtain ⟨w, hw, rfl⟩ := Option.map_eq_some_iff.1 h
    exact tidy_wrapTag (tidy_of_scalarValue? hw) tag
  · exact tidy_of_scalarValue? h

/-- What holds of the result of every node holds of all results. -/
theorem forall_of_evalAll {α β : Type} {P : β → Prop} {f : α → Nat → Option (β × Nat)}
    (hf : ∀ a jumps p, f a jumps = some p → P p.1) {l : List α} {jumps : Nat} {p : List β × Nat}
    (h : evalAll f l jumps = some p) : ∀ b ∈ p.1, P b := by
  induction l generalizing jumps p with
  | nil =>
    cases h
    simp
  | cons a rest ih =>
    simp only [evalAll, Option.bind_eq_bind, Option.pure_def, Option.bind_eq_some_iff,
      Option.some.injEq] at h
    obtain ⟨q, hq, u, hu, rfl⟩ := h
    exact List.forall_mem_cons.2 ⟨hf _ _ _ hq, ih hu⟩

theorem tidy_mapValue {members : List (String × Value)} (h : ∀ m ∈ members, m.2.Tidy) :
    (mapValue members).Tidy := by
  unfold mapValue
  split
  · next v hv => exact h _ (List.mem_reverse.1 (Assoc.mem_of_lookup hv))
  · exact tidy_sorted fun m hm => h m (List.mem_filter.1 hm).1

section Evaluation

variable {d : Document} {value : Node → Nat → Option (Value × Nat)}

theorem tidy_of_member? (hvalue : ∀ n jumps p, value n jumps = some p → p.1.Tidy)
    (m : Node × Node) (jumps : Nat) (p : (String × Value) × Nat)
    (h : member? d value m jumps = some p) : p.1.2.Tidy := by
  simp only [member?, Option.bind_eq_bind, Option.pure_def, Option.bind_eq_some_iff,
    Option.some.injEq] at h
  obtain ⟨k, -, q, hq, rfl⟩ := h
  exact hvalue _ _ _ hq

theorem tidy_of_number? {n : Node} {jumps : Nat} {p : Value × Nat}
    (h : number? d n jumps = some p) : p.1.Tidy := by
  unfold number? at h
  split at h
  · split at h
    · split at h
      · cases h
        exact .int _
      · cases h
    · cases h
  · cases h

theorem tidy_of_innerMember? (hvalue : ∀ n jumps p, value n jumps = some p → p.1.Tidy)
    (m : Node × Node) (jumps : Nat) (p : (String × Value) × Nat)
    (h : innerMember? d value m jumps = some p) : p.1.2.Tidy := by
  obtain ⟨k, -, h⟩ := Option.bind_eq_some_iff.1 h
  dsimp only at h
  split at h
  · obtain ⟨q, hq, hp⟩ := Option.bind_eq_some_iff.1 h
    cases hp
    exact tidy_of_number? hq
  · obtain ⟨q, hq, hp⟩ := Option.bind_eq_some_iff.1 h
    cases hp
    exact hvalue _ _ _ hq

end Evaluation

/-- **The value of a node is tidy.** -/
theorem tidy_of_eval? {d : Document} {depth : Nat} :
    ∀ n jumps p, eval? d depth n jumps = some p → p.1.Tidy := by
  induction depth with
  | zero =>
    intro n jumps p h
    unfold eval? at h
    split at h
    · obtain ⟨v, hv, rfl⟩ := Option.map_eq_some_iff.1 h
      exact tidy_of_scalarNode? hv
    · cases h
  | succ depth ih =>
    intro n jumps p h
    unfold eval? at h
    split at h
    · obtain ⟨v, hv, rfl⟩ := Option.map_eq_some_iff.1 h
      exact tidy_of_scalarNode? hv
    · obtain ⟨q, hq, hp⟩ := Option.bind_eq_some_iff.1 h
      cases hp
      exact tidy_wrapTag (.list (forall_of_evalAll ih hq)) _
    · obtain ⟨q, hq, hp⟩ := Option.bind_eq_some_iff.1 h
      cases hp
      exact tidy_wrapTag (tidy_mapValue (forall_of_evalAll (tidy_of_innerMember? ih) hq)) _
    · cases h

/-- The root mapping of a YAML text is tidy. -/
theorem tidy_of_read? {s : String} {members : List (String × Value)}
    (h : read? s = some members) : (Value.map members).Tidy := by
  have hempty : (Value.map []).Tidy := .map (by simp) (by simp)
  unfold read? at h
  split at h
  · cases h
    exact hempty
  · unfold rootMembers? at h
    split at h
    · cases h
      exact hempty
    · obtain ⟨q, hq, hp⟩ := Option.bind_eq_some_iff.1 h
      cases hp
      exact tidy_sorted (forall_of_evalAll (tidy_of_member? tidy_of_eval?) hq)
    · cases h
  · cases h

mutual
theorem Value.tidy_toJson? : (v : Value) → v.Tidy → {j : Json} → v.toJson? = some j → j.Tidy
  | .null, _, _, h => by
    cases h
    exact .null
  | .bool b, _, _, h => by
    cases h
    exact .bool b
  | .int i, _, _, h => by
    unfold Value.toJson? at h
    split at h
    · cases h
      exact .number _
    · cases h
  | .float x, _, _, h => by
    cases h
    split
    · exact .number _
    · exact .null
  | .text s, _, _, h => by
    cases h
    exact .text s
  | .list items, .list hitems, _, h => by
    obtain ⟨js, hjs, rfl⟩ := Option.map_eq_some_iff.1 h
    exact .array (tidy_toJsonItems? items hitems hjs)
  | .map members, .map hnodup hmembers, _, h => by
    obtain ⟨js, hjs, rfl⟩ := Option.map_eq_some_iff.1 h
    obtain ⟨hnames, htidy⟩ := tidy_toJsonMembers? members hmembers hjs
    exact .object (hnames ▸ hnodup) htidy

theorem tidy_toJsonItems? : (items : List Value) → (∀ v ∈ items, v.Tidy) → {js : List Json} →
    toJsonItems? items = some js → ∀ j ∈ js, j.Tidy
  | [], _, _, h => by
    cases h
    simp
  | v :: rest, hitems, _, h => by
    simp only [toJsonItems?, Option.bind_eq_bind, Option.pure_def, Option.bind_eq_some_iff,
      Option.some.injEq] at h
    obtain ⟨j, hj, js, hjs, rfl⟩ := h
    obtain ⟨hv, hrest⟩ := List.forall_mem_cons.1 hitems
    exact List.forall_mem_cons.2 ⟨v.tidy_toJson? hv hj, tidy_toJsonItems? rest hrest hjs⟩

theorem tidy_toJsonMembers? : (members : List (String × Value)) → (∀ m ∈ members, m.2.Tidy) →
    {js : List (String × Json)} → toJsonMembers? members = some js →
    js.map Prod.fst = members.map Prod.fst ∧ ∀ m ∈ js, m.2.Tidy
  | [], _, _, h => by
    cases h
    simp
  | (name, v) :: rest, hmembers, _, h => by
    simp only [toJsonMembers?, Option.bind_eq_bind, Option.pure_def, Option.bind_eq_some_iff,
      Option.some.injEq] at h
    obtain ⟨j, hj, js, hjs, rfl⟩ := h
    obtain ⟨hv, hrest⟩ := List.forall_mem_cons.1 hmembers
    obtain ⟨hnames, htidy⟩ := tidy_toJsonMembers? rest hrest hjs
    exact ⟨by simp [hnames], List.forall_mem_cons.2 ⟨v.tidy_toJson? hv hj, htidy⟩⟩
end

/-- **The value of a YAML text is tidy.** -/
theorem tidy_of_readJson? {s : String} {j : Json} (h : readJson? s = some j) : j.Tidy := by
  obtain ⟨members, hread, hj⟩ := Option.bind_eq_some_iff.1 h
  exact (Value.map members).tidy_toJson? (tidy_of_read? hread) hj

end Yaml

end LiveConfig
