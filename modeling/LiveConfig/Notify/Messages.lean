import LiveConfig.Json.Printer
import LiveConfig.Json.Record
import LiveConfig.Sorted

/-!
# Notification messages

The numbers that a notification attaches to a release, one per key. Merging keeps the highest number
of each key, so nothing that was announced is taken back.

## Main statements

- `get?_merge`: a merge sets every key to the larger of both numbers.
- `highest?_mergeInto`: merged messages say as much as the two they were made of.
-/

namespace LiveConfig

/-- Numbers by key, in the order of the keys. -/
structure Messages where
  details : List (String × Int) := []
  ordered : Sorted.Ordered details := by exact Sorted.ordered_nil
deriving DecidableEq, Repr

namespace Messages

instance : Inhabited Messages := ⟨{}⟩

/-- The number of a key. -/
def get? (m : Messages) (key : String) : Option Int := m.details.lookup key

/-- Whether there is no number. -/
def isEmpty (m : Messages) : Bool := m.details.isEmpty

/-- Raise the number of a key to at least `id`. -/
def raise (m : Messages) (key : String) (id : Int) : Messages where
  details := Sorted.insert key (match m.get? key with
    | some old => max old id
    | none => id) m.details
  ordered := Sorted.ordered_insert _ _ _ m.ordered

/-- The highest number of each key. -/
def merge (m other : Messages) : Messages := other.details.foldl (fun m p => m.raise p.1 p.2) m

/-- The numbers of pairs; of pairs with one key the last counts. -/
def ofList (pairs : List (String × Int)) : Messages where
  details := Sorted.ofList pairs
  ordered := Sorted.ordered_ofList pairs

/-- Messages that may be missing, merged into others that may be missing. -/
def mergeInto (m : Option Messages) (other : Messages) : Option Messages :=
  some ((m.getD {}).merge other)

@[simp] theorem get?_default (key : String) : ({} : Messages).get? key = none := rfl

/-- Raising sets one key to the larger of both numbers and no other key. -/
theorem get?_raise (m : Messages) (key k : String) (id : Int) :
    (m.raise key id).get? k = if k = key then max (m.get? key) (some id) else m.get? k := by
  have h := Sorted.lookup_insert key (match m.get? key with
    | some old => max old id
    | none => id) m.details k
  refine h.trans ?_
  cases m.get? key <;> rfl

/-- **A merge sets every key to the larger of both numbers.** -/
theorem get?_merge (m other : Messages) (k : String) :
    (m.merge other).get? k = max (m.get? k) (other.get? k) := by
  have aux : ∀ l : List (String × Int), Sorted.Ordered l → ∀ m : Messages,
      (l.foldl (fun m p => m.raise p.1 p.2) m).get? k = max (m.get? k) (l.lookup k) := by
    intro l
    induction l with
    | nil => intro _ m; simp
    | cons p rest ih =>
      intro h m
      obtain ⟨key, id⟩ := p
      rw [List.foldl_cons, ih (List.pairwise_cons.1 h).2, get?_raise]
      by_cases hk : k = key
      · subst hk
        simp [Sorted.lookup_tail_eq_none h]
      · have hb : (k == key) = false := by simp [hk]
        simp [List.lookup_cons, hb, hk]
  exact aux other.details other.ordered m

/-! ## The highest numbers -/

instance : Std.Associative (max : Option Int → Option Int → Option Int) where
  assoc a b c := by cases a <;> cases b <;> cases c <;> simp [Int.max_assoc]

instance : Std.Commutative (max : Option Int → Option Int → Option Int) where
  comm a b := by cases a <;> cases b <;> simp [Int.max_comm]

theorem id_le_rfl {a : Option Int} : a ≤ a := by
  cases a <;> simp

theorem id_le_max_left {a b : Option Int} : a ≤ max a b :=
  Option.left_le_max Int.le_refl Int.le_max_left

theorem id_le_max_right {a b : Option Int} : b ≤ max a b :=
  Option.right_le_max Int.le_refl Int.le_max_right

theorem id_le_trans {a b c : Option Int} (h : a ≤ b) (h' : b ≤ c) : a ≤ c := by
  cases a with
  | none => simp
  | some x =>
    cases b with
    | none => simp at h
    | some y =>
      cases c with
      | none => simp at h'
      | some z =>
        rw [Option.some_le_some] at h h' ⊢
        exact Int.le_trans h h'

/-- The highest number of a key in several messages, if one of them has the key. -/
def highest? (k : String) (l : List Messages) : Option Int := (l.filterMap (·.get? k)).max?

@[simp] theorem highest?_nil (k : String) : highest? k [] = none := rfl

theorem highest?_cons (k : String) (m : Messages) (l : List Messages) :
    highest? k (m :: l) = max (m.get? k) (highest? k l) := by
  cases h : m.get? k with
  | none => simp [highest?, h]
  | some n =>
    cases hl : (l.filterMap (·.get? k)).max? <;> simp [highest?, h, hl]

theorem highest?_append (k : String) (l l' : List Messages) :
    highest? k (l ++ l') = max (highest? k l) (highest? k l') := by
  induction l with
  | nil => simp
  | cons m l ih =>
    rw [List.cons_append, highest?_cons, highest?_cons, ih]
    ac_rfl

/-- Merged messages say as much as the two they were made of. -/
theorem highest?_mergeInto (k : String) (m : Option Messages) (other : Messages) :
    highest? k (mergeInto m other).toList = max (highest? k m.toList) (other.get? k) := by
  cases m <;> simp [mergeInto, highest?_cons, get?_merge]

/-! ## Documents -/

/-- The messages as a document. -/
def toJson (m : Messages) : Json :=
  .object [("details", .object (m.details.map fun p => (p.1, .ofInt p.2)))]

/-- The compact text of the messages. -/
def text (m : Messages) : String := Json.compactText m.toJson

/-- The messages of a record; without details there are none. -/
def ofTree? (t : Json.Tree) : Option Messages :=
  match t.fields? [["details"]] with
  | some [details] =>
    Json.Tree.defaulted? {} (fun t => (t.pairs? Json.Tree.int?).map ofList) details
  | _ => none

end Messages

end LiveConfig
