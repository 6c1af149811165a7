import LiveConfig.Entries
import Mathlib.Data.List.Induction
import Mathlib.Data.List.Nodup
import Mathlib.Data.List.Perm.Subperm

/-!
# Maps that agree

Two maps agree if they give every key the same value, in whatever order they list it. Neither lists
a key twice, so this is to say that one list of pairs is a rearrangement of the other. A map that is
made by inserting pairs in order has every key once, where it came first, with its last value.

## Main statements

- `Assoc.lookup_eq_some_iff`: where no key is listed twice, a look-up finds what is listed.
- `Entries.perm_iff`: the pairs of two maps are rearranged exactly if all values are the same.
- `Entries.agrees_iff`: two maps agree exactly then.
- `Entries.keys_ofList`, `Entries.get?_ofList_eq_some_iff`: the keys and the values of a map that is
  made of pairs.
-/

namespace LiveConfig

/-! ## §1 Pairs and values -/

namespace Assoc

variable {α β : Type} [BEq α] [LawfulBEq α] {l : List (α × β)} {k : α} {v : β}

theorem mem_of_lookup (h : l.lookup k = some v) : (k, v) ∈ l := by
  obtain ⟨l₁, l₂, hsplit, -⟩ := List.lookup_eq_some_iff.1 h
  simp [hsplit]

/-- Where no key is listed twice, it is listed with the value that a look-up finds. -/
theorem lookup_eq_some_iff (hnodup : (l.map Prod.fst).Nodup) :
    l.lookup k = some v ↔ (k, v) ∈ l := by
  constructor
  · exact mem_of_lookup
  · intro hmem
    have hfound : (l.lookup k).isSome = true := List.lookup_isSome_iff.2 ⟨(k, v), hmem, by simp⟩
    obtain ⟨w, hw⟩ := Option.isSome_iff_exists.1 hfound
    -- What the look-up finds is listed too, so it is the same pair.
    have hsame : (k, w) = (k, v) := List.inj_on_of_nodup_map hnodup (mem_of_lookup hw) hmem rfl
    rw [hw, (Prod.mk.inj hsame).2]

end Assoc

namespace Entries

variable {a b e : Entries} {k v : String}

theorem mem_toList_iff : (k, v) ∈ e.toList ↔ e.get? k = some v :=
  (Assoc.lookup_eq_some_iff e.nodup).symm

theorem nodup_toList (e : Entries) : e.toList.Nodup :=
  e.nodup.of_map

/-- A map lists its keys in order, each with its value. -/
theorem toList_eq_map_keys (e : Entries) :
    e.toList = e.keys.map fun k => (k, (e.get? k).getD "") := by
  rw [keys, List.map_map]
  conv_lhs => rw [← List.map_id e.toList]
  refine List.map_congr_left ?_
  rintro ⟨k, v⟩ hmem
  simp [mem_toList_iff.1 hmem]

/-- Keys in order and their values are all there is to a map. -/
theorem ext_keys (hkeys : a.keys = b.keys) (hvalues : ∀ k, a.get? k = b.get? k) : a = b := by
  apply Entries.ext
  rw [toList_eq_map_keys a, toList_eq_map_keys b, hkeys]
  simp only [hvalues]

/-! ## §2 Agreement -/

/-- **The pairs of two maps are rearranged** exactly if all values are the same. -/
theorem perm_iff : a.toList.Perm b.toList ↔ ∀ k, a.get? k = b.get? k := by
  constructor
  · intro hperm k
    apply Option.ext
    intro v
    rw [← mem_toList_iff, ← mem_toList_iff]
    exact hperm.mem_iff
  · intro hsame
    apply (List.perm_ext_iff_of_nodup a.nodup_toList b.nodup_toList).2
    rintro ⟨k, v⟩
    rw [mem_toList_iff, mem_toList_iff, hsame]

/-- **Maps that agree** are rearrangements of each other. -/
theorem agrees_iff : a.agrees b = true ↔ a.toList.Perm b.toList := by
  simp only [agrees, Bool.and_eq_true, beq_iff_eq, List.all_eq_true]
  constructor
  · rintro ⟨hsize, hall⟩
    have hsubset : a.toList ⊆ b.toList := by
      rintro ⟨k, v⟩ hmem
      exact Assoc.mem_of_lookup (hall (k, v) hmem)
    -- As many pairs on both sides leave no room for others.
    have hlength : b.toList.length ≤ a.toList.length := Nat.le_of_eq hsize.symm
    exact (List.subperm_of_subset a.nodup_toList hsubset).perm_of_length_le hlength
  · intro hperm
    refine ⟨hperm.length_eq, ?_⟩
    rintro ⟨k, v⟩ hmem
    exact mem_toList_iff.1 (hperm.subset hmem)

/-- Maps that agree give every key the same value. -/
theorem get?_of_agrees (h : a.agrees b = true) (k : String) : a.get? k = b.get? k :=
  perm_iff.1 (agrees_iff.1 h) k

/-! ## §3 Maps made of pairs -/

theorem ofList_concat (l : List (String × String)) (p : String × String) :
    ofList (l ++ [p]) = (ofList l).insert p.1 p.2 := by
  simp [ofList, List.foldl_append]

/-- **Keys stand in the order in which they first appear**, each once. -/
theorem keys_ofList (l : List (String × String)) :
    (ofList l).keys = (l.map Prod.fst).eraseDups := by
  induction l using List.reverseRecOn with
  | nil => rfl
  | append_singleton l p ih =>
    rw [ofList_concat, keys_insert, ih, List.map_append, List.eraseDups_append]
    by_cases hknown : p.1 ∈ l.map Prod.fst
    · rw [if_pos (List.mem_eraseDups.2 hknown)]
      simp [List.removeAll, hknown]
    · rw [if_neg fun hmem => hknown (List.mem_eraseDups.1 hmem)]
      simp [List.removeAll, List.eraseDups_cons, hknown]

/-- A cut of a list at one of its elements is at the last one or before it. -/
theorem concat_eq_append_cons_iff {α : Type} {l before after : List α} {a b : α} :
    l ++ [b] = before ++ a :: after
      ↔ after = [] ∧ l = before ∧ b = a ∨ ∃ init, after = init ++ [b] ∧ l = before ++ a :: init := by
  constructor
  · intro h
    rcases List.eq_nil_or_concat after with rfl | ⟨init, last, rfl⟩
    · obtain ⟨hl, hb⟩ := List.append_inj' h rfl
      exact .inl ⟨rfl, hl, List.singleton_inj.1 hb⟩
    · rw [List.concat_eq_append, ← List.cons_append, ← List.append_assoc] at h
      obtain ⟨hl, hb⟩ := List.append_inj' h rfl
      exact .inr ⟨init, by rw [List.concat_eq_append, List.singleton_inj.1 hb], hl⟩
  · rintro (⟨rfl, rfl, rfl⟩ | ⟨init, rfl, rfl⟩)
    · rfl
    · simp

/-- **A key has the value that it is given last.** -/
theorem get?_ofList_eq_some_iff {l : List (String × String)} {k v : String} :
    (ofList l).get? k = some v
      ↔ ∃ before after, l = before ++ (k, v) :: after ∧ ∀ p ∈ after, p.1 ≠ k := by
  induction l using List.reverseRecOn with
  | nil => simp [ofList]
  | append_singleton l p ih =>
    simp only [ofList_concat, get?_insert, concat_eq_append_cons_iff]
    by_cases hlast : k = p.1
    · rw [if_pos hlast, Option.some.injEq]
      constructor
      · rintro rfl
        exact ⟨l, [], .inl ⟨rfl, rfl, by rw [hlast]⟩, by simp⟩
      · rintro ⟨before, after, ⟨-, -, rfl⟩ | ⟨init, rfl, -⟩, hafter⟩
        · rfl
        · exact absurd hlast.symm (hafter p (by simp))
    · rw [if_neg hlast, ih]
      constructor
      · rintro ⟨before, after, rfl, hafter⟩
        refine ⟨before, after ++ [p], .inr ⟨after, rfl, rfl⟩, ?_⟩
        intro q hq
        rcases List.mem_append.1 hq with hq | hq
        · exact hafter q hq
        · exact List.mem_singleton.1 hq ▸ fun h => hlast h.symm
      · rintro ⟨before, after, ⟨-, -, rfl⟩ | ⟨init, rfl, rfl⟩, hafter⟩
        · exact absurd rfl hlast
        · exact ⟨before, init, rfl, fun q hq => hafter q (by simp [hq])⟩

end Entries

end LiveConfig
