import LiveConfig.Json.Record
import LiveConfig.Proofs.Json.RoundTrip
import Mathlib.Data.List.TakeWhile

/-!
# Lists in documents

Documents that stand for lists. A printed list is read as the list if its items are; nothing but an
array is read as a list, and nothing but an empty array as the empty one.

## Main statements

- `Tree.list?_trees`: the items of a printed list are read one by one.
- `readRecord?_compactText`: what was printed is decoded from its tree.
- `head?_of_readTree?_array`: the text of an array begins with a bracket.
- `readTree?_eq_empty_iff`: the texts of the empty array.
-/

namespace LiveConfig.Json

/-! ## §1 Items -/

section Items

variable {α : Type} {read? : Tree → Option α} {write : α → Json} {l : List α}

theorem trees_eq_map (items : List Json) : trees items = items.map tree := by
  induction items with
  | nil => rfl
  | cons v rest ih => rw [trees, ih, List.map_cons]

theorem mapM_eq_some_iff {ts : List Tree} :
    ts.mapM read? = some l ↔ ts.map read? = l.map some := by
  induction ts generalizing l with
  | nil => cases l <;> simp
  | cons t rest ih =>
    rw [List.mapM_cons, List.map_cons]
    cases read? t with
    | none => cases l <;> simp
    | some a =>
      have hitems : (some a >>= fun a => rest.mapM read? >>= fun as => pure (a :: as))
          = (rest.mapM read?).map (a :: ·) := by
        cases rest.mapM read? <;> rfl
      rw [hitems, Option.map_eq_some_iff]
      cases l <;> simp [ih, and_comm]

/-- **What is read as a list** is an array of which every item is read. -/
theorem Tree.list?_eq_some_iff {t : Tree} :
    t.list? read? = some l ↔ ∃ ts, t = .array ts ∧ ts.map read? = l.map some := by
  cases t with
  | array ts => simp [Tree.list?, mapM_eq_some_iff]
  | _ => simp [Tree.list?]

theorem Tree.list?_trees (h : ∀ a ∈ l, read? (write a).tree = some a) :
    (Json.tree (.array (l.map write))).list? read? = some l := by
  refine Tree.list?_eq_some_iff.2 ⟨_, rfl, ?_⟩
  rw [trees_eq_map, List.map_map, List.map_map]
  exact List.map_congr_left h

/-- **What is read as a map** is a printed one, member by member. -/
theorem Tree.pairs?_treeMembers {l : List (String × α)}
    (h : ∀ p ∈ l, read? (write p.2).tree = some p.2) :
    (Json.tree (.object (l.map fun p => (p.1, write p.2)))).pairs? read? = some l := by
  induction l with
  | nil => rfl
  | cons p rest ih =>
    obtain ⟨hp, hrest⟩ := List.forall_mem_cons.1 h
    have hmembers := ih hrest
    simp only [Json.tree, pairs?, Option.bind_eq_some_iff] at hmembers
    obtain ⟨members, hnamed, hvalues⟩ := hmembers
    rw [named?] at hnamed
    simp [Json.tree, treeMembers, pairs?, named?, hnamed, hp, hvalues]

/-- An integer of 64 bits is read as it was written. -/
theorem Tree.int?_ofInt {i : Int} (h : Number.Fits 64 i) :
    int? (.number (some (.int i))) = some i := if_pos h

/-- Lists of integral values are integral. -/
theorem integral_array (h : ∀ a ∈ l, (write a).integral = true) :
    (Json.array (l.map write)).integral = true := by
  rw [integral]
  induction l with
  | nil => rfl
  | cons a rest ih =>
    obtain ⟨ha, hrest⟩ := List.forall_mem_cons.1 h
    rw [List.map_cons, integralItems, ha, ih hrest]
    rfl

/-- Maps to integral values are integral. -/
theorem integral_object {l : List (String × α)} (h : ∀ p ∈ l, (write p.2).integral = true) :
    (Json.object (l.map fun p => (p.1, write p.2))).integral = true := by
  rw [integral]
  induction l with
  | nil => rfl
  | cons p rest ih =>
    obtain ⟨hp, hrest⟩ := List.forall_mem_cons.1 h
    rw [List.map_cons, integralMembers, hp, ih hrest]
    rfl

/-- **What was printed is decoded from its tree.** -/
theorem readRecord?_compactText {v : Json} (hv : v.integral = true) :
    readRecord? read? (compactText v) = read? v.tree := by
  rw [readRecord?, compactText, String.toList_ofList, readTree?_compact hv, Option.bind_some]

end Items

/-! ## §2 Arrays -/

section Arrays

variable {fuel : Nat} {s rest : List Char} {ts : List Tree}

theorem ne_nil_of_readItems? (h : readItems? fuel s = some (ts, rest)) : ts ≠ [] := by
  cases fuel with
  | zero => cases h
  | succ fuel =>
    rw [readItems?] at h
    obtain ⟨⟨item, behind⟩, -, h⟩ := Option.bind_eq_some_iff.1 h
    dsimp only at h
    split at h
    · obtain ⟨p, -, hp⟩ := Option.map_eq_some_iff.1 h
      cases hp
      exact List.cons_ne_nil _ _
    · cases h
      exact List.cons_ne_nil _ _
    · cases h

/-- An array begins with a bracket, and it is empty only if the other one follows. -/
theorem brackets_of_readValue? (h : readValue? fuel s = some (.array ts, rest)) :
    ∃ r, skipBlanks s = '[' :: r ∧ (skipBlanks r = ']' :: rest ∨ ts ≠ []) := by
  cases fuel with
  | zero => cases h
  | succ fuel =>
    rw [readValue?] at h
    split at h
    case h_3 r hopen =>
      refine ⟨r, hopen, ?_⟩
      split at h
      · next hclose =>
        cases h
        exact .inl hclose
      · obtain ⟨p, hitems, hp⟩ := Option.map_eq_some_iff.1 h
        cases hp
        exact .inr (ne_nil_of_readItems? hitems)
    case h_2 =>
      split at h
      · cases h
      · simp at h
    all_goals simp at h

/-- A text that is read ends in blanks. -/
theorem readTree?_eq_some_iff {t : Tree} : readTree? s = some t ↔
    ∃ rest, readValue? (s.length + 1) s = some (t, rest) ∧ skipBlanks rest = [] := by
  unfold readTree?
  split
  · next t' rest hvalue =>
    simp [hvalue]
    tauto
  · next hvalue => simp [hvalue]

/-- **The text of an array begins with a bracket**, behind blanks. -/
theorem head?_of_readTree?_array (h : readTree? s = some (.array ts)) :
    (skipBlanks s).head? = some '[' := by
  obtain ⟨rest, hvalue, -⟩ := readTree?_eq_some_iff.1 h
  obtain ⟨r, hopen, -⟩ := brackets_of_readValue? hvalue
  rw [hopen]
  rfl

/-- A text without its blanks. -/
def dense (s : List Char) : List Char := s.filter fun c => !isBlank c

theorem dense_skipBlanks (s : List Char) : dense (skipBlanks s) = dense s := by
  induction s with
  | nil => rfl
  | cons c s ih =>
    by_cases hc : isBlank c = true
    · simpa [dense, skipBlanks, hc] using ih
    · simp [dense, skipBlanks, hc]

theorem skipBlanks_eq_nil_iff : skipBlanks s = [] ↔ dense s = [] := by
  simp [skipBlanks, dense, List.dropWhile_eq_nil_iff, List.filter_eq_nil_iff]

/-- Behind its blanks a text goes on as it does without any. -/
theorem skipBlanks_of_dense {c : Char} {t : List Char} (h : dense s = c :: t) :
    ∃ r, skipBlanks s = c :: r ∧ dense r = t := by
  induction s with
  | nil => cases h
  | cons x s ih =>
    by_cases hx : isBlank x = true
    · have hdense : dense (x :: s) = dense s := by simp [dense, hx]
      obtain ⟨r, hopen, hr⟩ := ih (hdense ▸ h)
      exact ⟨r, by simpa [skipBlanks, hx] using hopen, hr⟩
    · have hdense : dense (x :: s) = x :: dense s := by simp [dense, hx]
      rw [hdense] at h
      cases h
      exact ⟨s, by simp [skipBlanks, hx], rfl⟩

/-- **The texts of the empty array** are its two brackets, with blanks anywhere. -/
theorem readTree?_eq_empty_iff (s : List Char) :
    readTree? s = some (.array []) ↔ dense s = ['[', ']'] := by
  have hbracket (c : Char) (hc : isBlank c = false) (t : List Char) :
      dense (c :: t) = c :: dense t := by
    simp [dense, hc]
  rw [readTree?_eq_some_iff]
  constructor
  · rintro ⟨rest, hvalue, hend⟩
    obtain ⟨r, hopen, hclose⟩ := brackets_of_readValue? hvalue
    have hclose : skipBlanks r = ']' :: rest := hclose.resolve_right (fun hne => hne rfl)
    rw [← dense_skipBlanks, hopen, hbracket '[' rfl, ← dense_skipBlanks, hclose, hbracket ']' rfl,
      skipBlanks_eq_nil_iff.1 hend]
  · intro hdense
    obtain ⟨r, hopen, hr⟩ := skipBlanks_of_dense hdense
    obtain ⟨rest, hclose, hrest⟩ := skipBlanks_of_dense hr
    refine ⟨rest, ?_, skipBlanks_eq_nil_iff.2 hrest⟩
    rw [readValue?_congr (t := '[' :: r) hopen, readValue?_bracket, hclose]
    rfl

end Arrays

end LiveConfig.Json
