/-!
# Ordered entries

The key/value content of a namespace: a finite map from text to text that remembers the order in
which its keys first arrived.

## Representation

An `Entries` is a list of pairs together with the proof that no key occurs twice, so a position in
the list and a key of the map are the same thing.

## Main statements

- `get?_insert`: inserting sets one key and no other.
- `get?_erase`: erasing removes one key and no other.
- `keys_insert`: a known key keeps its place, a new one goes to the end.
- `mem_keys_iff`: a key is listed exactly when it has a value.
- `ofList_toList`: the pairs of a map give the map back.
-/

namespace LiveConfig

/-! ## §1 Association lists -/

namespace Assoc

/-- Give `k` the value `v`: a known key keeps its position, a new one is appended. -/
def put (k v : String) : List (String × String) → List (String × String)
  | [] => [(k, v)]
  | (k', v') :: rest => if k' = k then (k, v) :: rest else (k', v') :: put k v rest

/-- Drop the pair of `k`. -/
def erase (k : String) : List (String × String) → List (String × String)
  | [] => []
  | (k', v') :: rest => if k' = k then rest else (k', v') :: erase k rest

theorem keys_put (k v : String) (l : List (String × String)) :
    (put k v l).map Prod.fst
      = if k ∈ l.map Prod.fst then l.map Prod.fst else l.map Prod.fst ++ [k] := by
  induction l with
  | nil => simp [put]
  | cons p rest ih =>
    obtain ⟨k', v'⟩ := p
    by_cases h : k' = k
    · subst h; simp [put]
    · have h' : ¬ k = k' := fun e => h e.symm
      by_cases hm : k ∈ rest.map Prod.fst
      · simp only [put, h, if_false, List.map_cons, ih, hm, if_true]
        simp [h', hm]
      · simp only [put, h, if_false, List.map_cons, ih, hm, if_false]
        simp [h', hm]

theorem nodup_put (k v : String) {l : List (String × String)} (h : (l.map Prod.fst).Nodup) :
    ((put k v l).map Prod.fst).Nodup := by
  rw [keys_put]
  split
  · exact h
  · next hk => exact List.nodup_append.2 ⟨h, by simp, by
      intro a ha b hb
      rw [List.mem_singleton] at hb
      subst hb
      exact fun e => hk (e ▸ ha)⟩

theorem lookup_put (k v j : String) (l : List (String × String)) :
    (put k v l).lookup j = if j = k then some v else l.lookup j := by
  induction l with
  | nil =>
    by_cases h : j = k
    · simp [put, h]
    · have hb : (j == k) = false := by simp [h]
      simp [put, List.lookup_cons, h, hb]
  | cons p rest ih =>
    obtain ⟨k', v'⟩ := p
    by_cases h : k' = k
    · subst h
      by_cases hj : j = k'
      · simp [put, hj]
      · have hb : (j == k') = false := by simp [hj]
        simp [put, List.lookup_cons, hj, hb]
    · by_cases hj : j = k'
      · subst hj; simp [put, h]
      · simp only [put, h, if_false, List.lookup_cons]
        have hb : (j == k') = false := by simp [hj]
        simp [hb, ih]

theorem erase_sublist (k : String) (l : List (String × String)) : (erase k l).Sublist l := by
  induction l with
  | nil => exact List.Sublist.slnil
  | cons p rest ih =>
    obtain ⟨k', v'⟩ := p
    simp only [erase]
    split
    · exact List.sublist_cons_self _ _
    · exact ih.cons_cons _

theorem nodup_erase (k : String) {l : List (String × String)} (h : (l.map Prod.fst).Nodup) :
    ((erase k l).map Prod.fst).Nodup :=
  ((erase_sublist k l).map Prod.fst).nodup h

/-- A key has a value exactly when it is among the keys. -/
theorem lookup_isSome_iff (k : String) (l : List (String × String)) :
    (l.lookup k).isSome ↔ k ∈ l.map Prod.fst := by
  induction l with
  | nil => simp
  | cons p rest ih =>
    obtain ⟨k', v'⟩ := p
    by_cases h : k = k'
    · subst h; simp
    · have hb : (k == k') = false := by simp [h]
      simp [List.lookup_cons, hb, ih, h]

/-- A new key goes to the end. -/
theorem put_of_not_mem {k : String} (v : String) {l : List (String × String)}
    (h : k ∉ l.map Prod.fst) : put k v l = l ++ [(k, v)] := by
  induction l with
  | nil => rfl
  | cons p rest ih =>
    obtain ⟨k', v'⟩ := p
    rw [List.map_cons, List.mem_cons, not_or] at h
    have hne : ¬k' = k := fun heq => h.1 heq.symm
    rw [put, if_neg hne, ih h.2, List.cons_append]

/-- Where no key occurs twice, erasing one takes its only pair. -/
theorem lookup_erase (k j : String) {l : List (String × String)} (h : (l.map Prod.fst).Nodup) :
    (erase k l).lookup j = if j = k then none else l.lookup j := by
  induction l with
  | nil => simp [erase]
  | cons p rest ih =>
    obtain ⟨k', v'⟩ := p
    obtain ⟨hfresh, hrest⟩ := List.nodup_cons.1 h
    by_cases hk : k' = k
    · subst hk
      simp only [erase, if_true]
      split
      · next hj =>
        subst hj
        rw [← Option.not_isSome_iff_eq_none, lookup_isSome_iff]
        exact hfresh
      · next hj =>
        have hb : (j == k') = false := by simp [hj]
        simp [List.lookup_cons, hb]
    · simp only [erase, hk, if_false, List.lookup_cons]
      by_cases hj : j = k'
      · subst hj
        simp [hk]
      · have hb : (j == k') = false := by simp [hj]
        simpa [hb] using ih hrest

end Assoc

/-! ## §2 The type -/

/-- A finite map from text to text that keeps the order of first insertion. -/
structure Entries where
  /-- The pairs, in order. -/
  toList : List (String × String)
  /-- No key occurs twice. -/
  nodup : (toList.map Prod.fst).Nodup
deriving DecidableEq

namespace Entries

/-- No entries. -/
def empty : Entries := ⟨[], by simp⟩

instance : Inhabited Entries := ⟨empty⟩
instance : EmptyCollection Entries := ⟨empty⟩

/-- The keys, in order. -/
def keys (e : Entries) : List String := e.toList.map Prod.fst

/-- The value of a key. -/
def get? (e : Entries) (k : String) : Option String := e.toList.lookup k

/-- How many keys there are. -/
def size (e : Entries) : Nat := e.toList.length

/-- Whether there is no entry at all. -/
def isEmpty (e : Entries) : Bool := e.toList.isEmpty

/-- Set a key: its position is kept if it is known and is the last one otherwise. -/
def insert (e : Entries) (k v : String) : Entries :=
  ⟨Assoc.put k v e.toList, Assoc.nodup_put k v e.nodup⟩

/-- Remove a key; the others keep their order. -/
def erase (e : Entries) (k : String) : Entries :=
  ⟨Assoc.erase k e.toList, Assoc.nodup_erase k e.nodup⟩

/-- Insert pairs one after another: a repeated key keeps its first position and its last value. -/
def ofList (pairs : List (String × String)) : Entries :=
  pairs.foldl (fun e p => e.insert p.1 p.2) empty

/-- The same entries, ordered by key. -/
def sortKeys (e : Entries) : Entries :=
  ⟨e.toList.mergeSort (fun a b => decide (a.1 ≤ b.1)),
   (((List.mergeSort_perm e.toList _).map Prod.fst).nodup_iff).2 e.nodup⟩

/-- The same keys with the same values, whatever the order. -/
def agrees (a b : Entries) : Bool :=
  a.size == b.size && a.toList.all fun p => b.get? p.1 == some p.2

/-! ## §3 What the operations do -/

@[ext] theorem ext {a b : Entries} (h : a.toList = b.toList) : a = b := by
  cases a; cases b; simp_all

@[simp] theorem toList_empty : empty.toList = [] := rfl

@[simp] theorem get?_empty (k : String) : empty.get? k = none := rfl

/-- **Insertion sets one key** and leaves every other as it was. -/
theorem get?_insert (e : Entries) (k v j : String) :
    (e.insert k v).get? j = if j = k then some v else e.get? j :=
  Assoc.lookup_put k v j e.toList

/-- **Erasing removes one key** and leaves every other as it was. -/
theorem get?_erase (e : Entries) (k j : String) :
    (e.erase k).get? j = if j = k then none else e.get? j :=
  Assoc.lookup_erase k j e.nodup

/-- **Order of insertion**: a known key keeps its place, a new one goes to the end. -/
theorem keys_insert (e : Entries) (k v : String) :
    (e.insert k v).keys = if k ∈ e.keys then e.keys else e.keys ++ [k] :=
  Assoc.keys_put k v e.toList

/-- A key is listed exactly when it has a value. -/
theorem mem_keys_iff (e : Entries) (k : String) : k ∈ e.keys ↔ (e.get? k).isSome :=
  (Assoc.lookup_isSome_iff k e.toList).symm

theorem toList_insert_of_not_mem {e : Entries} {k : String} (h : k ∉ e.keys) (v : String) :
    (e.insert k v).toList = e.toList ++ [(k, v)] :=
  Assoc.put_of_not_mem v h

theorem size_insert_of_mem {e : Entries} {k : String} (h : k ∈ e.keys) (v : String) :
    (e.insert k v).size = e.size := by
  have hkeys := congrArg List.length (keys_insert e k v)
  rw [if_pos h] at hkeys
  simpa [keys, size] using hkeys

/-- Pairs with new keys, no two of them alike, are all appended. -/
theorem toList_foldl_insert {l : List (String × String)} {e : Entries}
    (h : ((e.toList ++ l).map Prod.fst).Nodup) :
    (l.foldl (fun e p => e.insert p.1 p.2) e).toList = e.toList ++ l := by
  induction l generalizing e with
  | nil => simp
  | cons p rest ih =>
    have hnew : p.1 ∉ e.keys := by
      rw [List.map_append, List.nodup_append] at h
      intro hmem
      exact h.2.2 p.1 hmem p.1 (by simp) rfl
    have hinsert := toList_insert_of_not_mem hnew p.2
    rw [List.foldl_cons, ih (by rw [hinsert]; simpa using h), hinsert]
    simp

/-- Either all pairs are appended, or one of them has a known key and the map stays smaller. -/
theorem toList_foldl_insert_or (l : List (String × String)) (e : Entries) :
    (l.foldl (fun e p => e.insert p.1 p.2) e).toList = e.toList ++ l
      ∨ (l.foldl (fun e p => e.insert p.1 p.2) e).size < e.size + l.length := by
  induction l generalizing e with
  | nil => simp
  | cons p rest ih =>
    rw [List.foldl_cons, List.length_cons]
    by_cases hknown : p.1 ∈ e.keys
    · right
      have hsize := size_insert_of_mem hknown p.2
      rcases ih (e.insert p.1 p.2) with h | h
      · have hlength := congrArg List.length h
        simp only [size, List.length_append] at hlength hsize ⊢
        omega
      · omega
    · have hinsert := toList_insert_of_not_mem hknown p.2
      have hsize := congrArg List.length hinsert
      rcases ih (e.insert p.1 p.2) with h | h
      · left
        rw [h, hinsert]
        simp
      · right
        simp only [size, List.length_append, List.length_singleton] at hsize h ⊢
        omega

/-- The pairs of a map give the map back. -/
theorem ofList_toList (e : Entries) : ofList e.toList = e :=
  ext (toList_foldl_insert (e := empty) e.nodup)

/-- As many pairs as a map has give that map only if they are its pairs. -/
theorem ofList_eq_iff {l : List (String × String)} {e : Entries} (h : l.length = e.size) :
    ofList l = e ↔ l = e.toList := by
  constructor
  · rintro rfl
    rcases toList_foldl_insert_or l empty with hall | hless
    · exact hall.symm
    · exact absurd h (Nat.ne_of_gt (by simpa [ofList, size] using hless))
  · rintro rfl
    exact ofList_toList e

/-- Sorting only reorders. -/
theorem sortKeys_perm (e : Entries) : e.sortKeys.toList.Perm e.toList :=
  List.mergeSort_perm _ _

end Entries

end LiveConfig
