import LiveConfig.Proofs.Document.Routes

/-!
# Names of leaves

The name of a leaf is made of its route: member names joined by dots, positions in brackets. A dot
stands only behind some text, so a member at the top has its own name, and one below an empty name
as well.

## Ambiguity

A name does not tell its route where a member name holds a mark of the syntax (`a.b` at the top, or
`b` below `a`), or where it is empty. Without such names the route can be read off: a member name
ends at the next mark, and so do the digits of a position.

## Main statements

- `leaves_eq`: flattening gives every leaf the name of its route.
- `nameOf_injective`: clear routes of different leaves have different names.
-/

namespace LiveConfig.Document

open Json (Step Route routes itemRoutes memberRoutes)

/-! ## §1 Names of routes -/

/-- The name behind one more step. -/
def extend (path : String) : Step → String
  | .member name => memberPath path name
  | .item index => itemPath path index

/-- The name of a route that goes on behind a path. -/
def nameFrom (path : String) (r : Route) : String := r.foldl extend path

/-- **The name of a route.** -/
def nameOf (r : Route) : String := nameFrom "" r

/-- A leaf under the name of its route. -/
def named (path : String) (p : Route × String) : String × String := (nameFrom path p.1, p.2)

theorem map_named_under (path : String) (s : Step) (l : List (Route × String)) :
    (l.map (Json.under s)).map (named path) = l.map (named (extend path s)) := by
  rw [List.map_map]
  rfl

mutual
/-- **Every leaf has the name of its route.** -/
theorem leaves_eq : (v : Json) → (path : String) → leaves path v = v.routes.map (named path)
  | .null, _ => rfl
  | .bool _, _ => rfl
  | .number _, _ => rfl
  | .text _, _ => rfl
  | .array items, path => itemLeaves_eq items path 0
  | .object members, path => memberLeaves_eq members path

theorem itemLeaves_eq : (items : List Json) → (path : String) → (index : Nat) →
    itemLeaves path index items = (itemRoutes index items).map (named path)
  | [], _, _ => rfl
  | v :: rest, path, index => by
    rw [itemLeaves, itemRoutes, List.map_append, map_named_under, leaves_eq v,
      itemLeaves_eq rest path (index + 1)]
    rfl

theorem memberLeaves_eq : (members : List (String × Json)) → (path : String) →
    memberLeaves path members = (memberRoutes members).map (named path)
  | [], _ => rfl
  | (name, v) :: rest, path => by
    rw [memberLeaves, memberRoutes, List.map_append, map_named_under, leaves_eq v,
      memberLeaves_eq rest path]
    rfl
end

/-! ## §2 Reading a name -/

/-- The marks of the syntax of names. -/
def isMark (c : Char) : Bool := c == '.' || c == '[' || c == ']'

/-- **A clear route**: no member name on it is empty or holds a mark. -/
def Clear (r : Route) : Prop :=
  ∀ name, .member name ∈ r → name ≠ "" ∧ ∀ c ∈ name.toList, isMark c = false

theorem clear_cons {s : Step} {r : Route} :
    Clear (s :: r)
      ↔ (∀ name, s = .member name → name ≠ "" ∧ ∀ c ∈ name.toList, isMark c = false) ∧ Clear r := by
  simp only [Clear, List.mem_cons]
  constructor
  · intro h
    exact ⟨fun name hs => h name (.inl hs.symm), fun name hr => h name (.inr hr)⟩
  · rintro ⟨hs, hr⟩ name (h | h)
    · exact hs name h.symm
    · exact hr name h

/-- What a step adds to some text. -/
def stepText : Step → List Char
  | .member name => '.' :: name.toList
  | .item index => '[' :: Number.decimal index ++ [']']

theorem extend_ne_empty {path : String} (h : path ≠ "") (s : Step) : extend path s ≠ "" := by
  cases s <;> simp [extend, memberPath, itemPath, h]

theorem toList_extend {path : String} (h : path ≠ "") (s : Step) :
    (extend path s).toList = path.toList ++ stepText s := by
  cases s <;> simp [extend, memberPath, itemPath, stepText, Number.decimalText, h]

theorem toList_nameFrom {path : String} (h : path ≠ "") (r : Route) :
    (nameFrom path r).toList = path.toList ++ r.flatMap stepText := by
  induction r generalizing path with
  | nil => simp [nameFrom]
  | cons s r ih =>
    have hrest := ih (extend_ne_empty h s)
    rw [toList_extend h, List.append_assoc] at hrest
    exact hrest

/-- In front of the first member there is no dot. -/
theorem toList_nameOf {name : String} (h : name ≠ "") (r : Route) :
    (nameOf (.member name :: r)).toList = name.toList ++ r.flatMap stepText :=
  @toList_nameFrom (memberPath "" name) h r

theorem isMark_of_mem_decimal {n : Nat} {c : Char} (h : c ∈ Number.decimal n) :
    isMark c = false := by
  have hdigit : c.isDigit = true := Nat.isDigit_of_mem_toDigits (by decide) (by decide) h
  -- No mark is a digit.
  by_contra hmark
  simp only [isMark, Bool.not_eq_false, Bool.or_eq_true, beq_iff_eq] at hmark
  rcases hmark with (rfl | rfl) | rfl <;> cases hdigit

theorem decimal_injective {m n : Nat} (h : Number.decimal m = Number.decimal n) : m = n :=
  calc
    m = Nat.ofDigitChars 10 (Number.decimal m) 0 := Nat.ofDigitChars_ten_toDigits.symm
    _ = Nat.ofDigitChars 10 (Number.decimal n) 0 := by rw [h]
    _ = n := Nat.ofDigitChars_ten_toDigits

/-- Behind a text without marks, what begins with a mark can be told from it. -/
theorem append_inj_of_marks {a b s t : List Char} (ha : ∀ c ∈ a, isMark c = false)
    (hb : ∀ c ∈ b, isMark c = false) (hs : s.head?.all isMark = true)
    (ht : t.head?.all isMark = true) (h : a ++ s = b ++ t) : a = b ∧ s = t := by
  have hfront {u v : List Char} (hu : ∀ c ∈ u, isMark c = false) (hv : v.head?.all isMark = true) :
      (u ++ v).takeWhile (fun c => !isMark c) = u := by
    rw [List.takeWhile_append_of_pos (by simpa using hu)]
    cases v with
    | nil => simp
    | cons c v =>
      have hc : isMark c = true := hv
      simp [hc]
  have hab : a = b := by rw [← hfront ha hs, h, hfront hb ht]
  exact ⟨hab, List.append_cancel_left (hab ▸ h)⟩

theorem head?_flatMap_stepText (r : Route) : (r.flatMap stepText).head?.all isMark = true := by
  cases r with
  | nil => rfl
  | cons s r => cases s <;> rfl

/-- The texts of steps can be told apart, one after the other. -/
theorem flatMap_stepText_injective {r q : Route} (hr : Clear r) (hq : Clear q)
    (h : r.flatMap stepText = q.flatMap stepText) : r = q := by
  induction r generalizing q with
  | nil =>
    cases q with
    | nil => rfl
    | cons s q => cases s <;> cases h
  | cons s r ih =>
    obtain ⟨hs, hr'⟩ := clear_cons.1 hr
    cases q with
    | nil => cases s <;> cases h
    | cons u q =>
      obtain ⟨hu, hq'⟩ := clear_cons.1 hq
      have hrest := head?_flatMap_stepText
      cases s with
      | member name =>
        cases u with
        | item _ => cases (List.cons.inj h).1
        | member name' =>
          obtain ⟨hname, htail⟩ := append_inj_of_marks (hs name rfl).2 (hu name' rfl).2
            (hrest r) (hrest q) (List.cons.inj h).2
          rw [String.toList_inj.1 hname, ih hr' hq' htail]
      | item i =>
        cases u with
        | member _ => cases (List.cons.inj h).1
        | item j =>
          -- The closing bracket ends the digits.
          simp only [List.flatMap_cons, stepText, List.cons_append, List.append_assoc,
            List.cons.injEq, true_and] at h
          obtain ⟨hdigits, htail⟩ := append_inj_of_marks (fun _ => isMark_of_mem_decimal)
            (fun _ => isMark_of_mem_decimal) rfl rfl h
          rw [decimal_injective hdigits, ih hr' hq' (List.cons.inj htail).2]

/-- **Clear routes have names of their own** if they begin at a member. -/
theorem nameOf_injective {name name' : String} {r q : Route} (hr : Clear (.member name :: r))
    (hq : Clear (.member name' :: q))
    (h : nameOf (.member name :: r) = nameOf (.member name' :: q)) :
    Step.member name :: r = Step.member name' :: q := by
  obtain ⟨hname, hr⟩ := clear_cons.1 hr
  obtain ⟨hname', hq⟩ := clear_cons.1 hq
  obtain ⟨hne, hplain⟩ := hname name rfl
  obtain ⟨hne', hplain'⟩ := hname' name' rfl
  have htext := congrArg String.toList h
  rw [toList_nameOf hne, toList_nameOf hne'] at htext
  obtain ⟨hfirst, hrest⟩ := append_inj_of_marks hplain hplain' (head?_flatMap_stepText r)
    (head?_flatMap_stepText q) htext
  rw [String.toList_inj.1 hfirst, flatMap_stepText_injective hr hq hrest]

end LiveConfig.Document
