/-!
# Members sorted by name

Association lists whose names are kept in increasing order, so that each set of members has one
list. Names are compared character by character.

## Main statements

- `lookup_insert`: inserting sets one name and no other, whatever list it starts from.
- `ordered_insert`: inserting keeps the order of the names.
- `ofList_of_ordered`: members in order stay as they are.
- `nodup_ofList`, `mem_of_mem_ofList`: sorted members have each name once, and are among those that
  were sorted.
- `lookup_eq_some_iff`: in an ordered list the members are what a look-up finds.
-/

namespace LiveConfig.Sorted

variable {α : Type}

/-- Insert a member; a known name gets the new value. -/
def insert (name : String) (value : α) : List (String × α) → List (String × α)
  | [] => [(name, value)]
  | (n, v) :: rest =>
    if name = n then (name, value) :: rest
    else if name < n then (name, value) :: (n, v) :: rest
    else (n, v) :: insert name value rest

/-- The members sorted by name; of members with one name the last counts. -/
def ofList (members : List (String × α)) : List (String × α) :=
  members.foldl (fun acc m => insert m.1 m.2 acc) []

/-- The names increase, so that none occurs twice. -/
def Ordered (l : List (String × α)) : Prop := (l.map Prod.fst).Pairwise (· < ·)

theorem ordered_nil : Ordered ([] : List (String × α)) := List.Pairwise.nil

/-- The names after an insertion are the old ones and the new one. -/
theorem mem_names_insert (name : String) (value : α) (l : List (String × α)) (k : String)
    (h : k ∈ (insert name value l).map Prod.fst) : k = name ∨ k ∈ l.map Prod.fst := by
  induction l with
  | nil => simpa [insert] using h
  | cons p rest ih =>
    obtain ⟨n, v⟩ := p
    simp only [insert] at h
    split at h
    · next hn =>
      subst hn
      simp only [List.map_cons, List.mem_cons] at h ⊢
      exact h.imp id .inr
    · split at h
      · simpa using h
      · simp only [List.map_cons, List.mem_cons] at h ⊢
        rcases h with h | h
        · exact .inr (.inl h)
        · exact (ih h).imp id .inr

/-- Inserting keeps the order of the names. -/
theorem ordered_insert (name : String) (value : α) (l : List (String × α)) (h : Ordered l) :
    Ordered (insert name value l) := by
  induction l with
  | nil => simp [Ordered, insert]
  | cons p rest ih =>
    obtain ⟨n, v⟩ := p
    obtain ⟨hhead, htail⟩ := List.pairwise_cons.1 h
    simp only [insert]
    split
    · next hn =>
      subst hn
      exact List.pairwise_cons.2 ⟨hhead, htail⟩
    · next hn =>
      split
      · next hlt =>
        refine List.pairwise_cons.2 ⟨fun k hk => ?_, h⟩
        rcases List.mem_cons.1 hk with rfl | hk
        · exact hlt
        · exact String.lt_trans hlt (hhead k hk)
      · next hlt =>
        refine List.pairwise_cons.2 ⟨fun k hk => ?_, ih htail⟩
        rcases mem_names_insert name value rest k hk with rfl | hk
        · have hle : n ≤ k := String.not_lt.1 hlt
          exact Decidable.byContradiction fun hge =>
            hn (String.le_antisymm (String.not_lt.1 hge) hle)
        · exact hhead k hk

/-- Members that are inserted one after the other are ordered. -/
theorem ordered_ofList (members : List (String × α)) : Ordered (ofList members) := by
  have aux : ∀ l : List (String × α), Ordered l →
      Ordered (members.foldl (fun acc m => insert m.1 m.2 acc) l) := by
    induction members with
    | nil => exact fun l h => h
    | cons m rest ih => exact fun l h => ih _ (ordered_insert m.1 m.2 l h)
  exact aux [] ordered_nil

/-- A name behind all others is inserted at the end. -/
theorem insert_of_forall_lt {name : String} {l : List (String × α)} (value : α)
    (h : ∀ p ∈ l, p.1 < name) : insert name value l = l ++ [(name, value)] := by
  induction l with
  | nil => rfl
  | cons p rest ih =>
    obtain ⟨hp, hrest⟩ := List.forall_mem_cons.1 h
    have hne : name ≠ p.1 := fun heq => String.lt_irrefl p.1 (heq ▸ hp)
    have hbehind : ¬name < p.1 := fun hlt => String.lt_irrefl p.1 (String.lt_trans hp hlt)
    rw [insert, if_neg hne, if_neg hbehind, ih hrest, List.cons_append]

/-- Members in order are sorted already. -/
theorem ofList_of_ordered {l : List (String × α)} (h : Ordered l) : ofList l = l := by
  have aux : ∀ rest front : List (String × α), Ordered (front ++ rest) →
      rest.foldl (fun acc m => insert m.1 m.2 acc) front = front ++ rest := by
    intro rest
    induction rest with
    | nil => exact fun front _ => (List.append_nil front).symm
    | cons m rest ih =>
      intro front hordered
      have hbehind : ∀ p ∈ front, p.1 < m.1 := by
        intro p hp
        rw [Ordered, List.map_append] at hordered
        exact (List.pairwise_append.1 hordered).2.2 _ (List.mem_map_of_mem hp) _
          List.mem_cons_self
      rw [List.foldl_cons, insert_of_forall_lt m.2 hbehind, ih _ (by simpa using hordered),
        List.append_assoc, List.singleton_append]
  exact aux l [] h

/-- No name occurs twice among members that have been sorted. -/
theorem nodup_ofList (members : List (String × α)) : ((ofList members).map Prod.fst).Nodup :=
  List.Pairwise.imp (fun {a b} (hlt : a < b) (heq : a = b) => String.lt_irrefl b (heq ▸ hlt))
    (ordered_ofList members)

theorem mem_of_mem_insert {name : String} {value : α} {l : List (String × α)} {m : String × α}
    (h : m ∈ insert name value l) : m = (name, value) ∨ m ∈ l := by
  induction l with
  | nil => exact .inl (List.mem_singleton.1 h)
  | cons p rest ih =>
    simp only [insert] at h
    split at h
    · exact (List.mem_cons.1 h).imp_right (List.mem_cons_of_mem _)
    · split at h
      · exact List.mem_cons.1 h
      · rcases List.mem_cons.1 h with rfl | h
        · exact .inr List.mem_cons_self
        · exact (ih h).imp_right (List.mem_cons_of_mem _)

/-- Sorting adds no member. -/
theorem mem_of_mem_ofList {members : List (String × α)} {m : String × α}
    (h : m ∈ ofList members) : m ∈ members := by
  have aux : ∀ l : List (String × α),
      m ∈ members.foldl (fun acc p => insert p.1 p.2 acc) l → m ∈ l ∨ m ∈ members := by
    clear h
    induction members with
    | nil => exact fun l h => .inl h
    | cons p rest ih =>
      intro l h
      rcases ih _ h with h | h
      · rcases mem_of_mem_insert h with rfl | h
        · exact .inr List.mem_cons_self
        · exact .inl h
      · exact .inr (List.mem_cons_of_mem _ h)
  exact (aux [] h).resolve_left (by simp)

/-- In an ordered list the members are what a look-up finds. -/
theorem lookup_eq_some_iff {l : List (String × α)} (h : Ordered l) (k : String) (v : α) :
    l.lookup k = some v ↔ (k, v) ∈ l := by
  induction l with
  | nil => simp
  | cons p rest ih =>
    obtain ⟨n, w⟩ := p
    obtain ⟨hhead, htail⟩ := List.pairwise_cons.1 h
    by_cases hk : k = n
    · subst hk
      have habsent : (k, v) ∉ rest := fun hmem =>
        String.lt_irrefl k (hhead k (List.mem_map.2 ⟨(k, v), hmem, rfl⟩))
      simp [habsent, eq_comm]
    · have hb : (k == n) = false := by simp [hk]
      simp [List.lookup_cons, hb, ih htail, hk]

/-- In an ordered list the first name does not occur again. -/
theorem lookup_tail_eq_none {n : String} {v : α} {rest : List (String × α)}
    (h : Ordered ((n, v) :: rest)) : rest.lookup n = none := by
  obtain ⟨hhead, htail⟩ := List.pairwise_cons.1 h
  refine Option.eq_none_iff_forall_ne_some.2 fun w hw => ?_
  have hmem := (lookup_eq_some_iff htail n w).1 hw
  exact String.lt_irrefl n (hhead n (List.mem_map.2 ⟨(n, w), hmem, rfl⟩))

/-- Inserting sets one name and no other. -/
theorem lookup_insert (name : String) (value : α) (l : List (String × α)) (k : String) :
    (insert name value l).lookup k = if k = name then some value else l.lookup k := by
  induction l with
  | nil =>
    by_cases h : k = name
    · simp [insert, h]
    · have hb : (k == name) = false := by simp [h]
      simp [insert, List.lookup_cons, h, hb]
  | cons p rest ih =>
    obtain ⟨n, v⟩ := p
    by_cases hn : name = n
    · subst hn
      by_cases hk : k = name
      · simp [insert, hk]
      · have hb : (k == name) = false := by simp [hk]
        simp [insert, List.lookup_cons, hk, hb]
    · by_cases hlt : name < n
      · by_cases hk : k = name
        · simp [insert, hn, hlt, hk]
        · have hb : (k == name) = false := by simp [hk]
          simp [insert, hn, hlt, List.lookup_cons, hk, hb]
      · by_cases hkn : k = n
        · subst hkn
          have hne : ¬ k = name := fun e => hn e.symm
          simp [insert, hn, hlt, hne]
        · have hb : (k == n) = false := by simp [hkn]
          simp [insert, hn, hlt, List.lookup_cons, hb, ih]

end LiveConfig.Sorted
