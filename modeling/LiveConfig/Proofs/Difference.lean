import LiveConfig.Proofs.ChangeSet
import LiveConfig.Proofs.Entries

/-!
# What a difference says

The difference of two snapshots lists each key whose value differs, once, with what happened to it,
and nothing else. Read backwards it is the difference the other way round.

## Layers

- **One key**: `Change.between?` is turned round by `Change.inverse`.
- **One list**: which keys a difference lists, and in which order.
- **Both together**: what it says of a key, what it leads to, and what it is read backwards.

## Main statements

- `ChangeSet.get?_diff`: what a difference says of a key.
- `ChangeSet.keys_diff`: the keys in their order.
- `ChangeSet.diff_exact`: a difference is exact.
-/

namespace LiveConfig

namespace Change

/-- The change that takes another one back. -/
def inverse : Change → Change
  | added new => deleted new
  | modified old new => modified new old
  | deleted old => added old

theorem between?_swap (a b : Option String) :
    between? b a = (between? a b).map inverse := by
  cases a with
  | none => cases b <;> rfl
  | some v =>
    cases b with
    | none => rfl
    | some w => by_cases h : v = w <;> simp [between?, h, eq_comm, inverse]

/-- A change lies between its two values, if they differ. -/
theorem between?_eq_some_iff {a b : Option String} {c : Change} :
    between? a b = some c ↔ c.old? = a ∧ c.new? = b ∧ a ≠ b := by
  constructor
  · intro h
    refine ⟨old?_of_between? h, new?_of_between? h, ?_⟩
    intro hsame
    rw [(between?_eq_none_iff a b).2 hsame] at h
    cases h
  · rintro ⟨rfl, rfl, hdiffers⟩
    cases c with
    | added | deleted => rfl
    | modified v w =>
      have hne : v ≠ w := fun heq => hdiffers (congrArg some heq)
      show (if v = w then none else some (modified v w)) = some (modified v w)
      exact if_neg hne

end Change

namespace ChangeSet

variable {old new : Snapshot} {k : String} {c : Change}

/-! ## §1 The keys in their order -/

theorem map_fst_filterMap (old new : Entries) (keys : List String) :
    (keys.filterMap (changeOf? old new)).map Prod.fst
      = keys.filter fun k => old.get? k ≠ new.get? k := by
  induction keys with
  | nil => rfl
  | cons key rest ih =>
    by_cases hsame : old.get? key = new.get? key
    · have hnone : changeOf? old new key = none := by
        simp [changeOf?, (Change.between?_eq_none_iff _ _).2 hsame]
      simp [hnone, hsame, ih]
    · obtain ⟨change, hchange⟩ := Option.ne_none_iff_exists'.1
        (mt (Change.between?_eq_none_iff _ _).1 hsame)
      have hsome : changeOf? old new key = some (key, change) := by simp [changeOf?, hchange]
      simp [hsome, hsame, ih]

/-- **The keys of a difference**: those of the new content that are new or have another value, then
those that only the old content has. -/
theorem keys_diff (old new : Snapshot) :
    (diff old new).keys = (new.entries.keys.filter fun k => old.get? k ≠ new.get? k)
      ++ old.entries.keys.filter fun k => (new.get? k).isNone := by
  -- A key that only the old content has differs anyway.
  have hgone : (old.entries.keys.filter fun k => (new.entries.get? k).isNone).filter
        (fun k => old.entries.get? k ≠ new.entries.get? k)
      = old.entries.keys.filter fun k => (new.entries.get? k).isNone := by
    apply List.filter_eq_self.2
    intro k hk
    obtain ⟨hold, hnew⟩ := List.mem_filter.1 hk
    rw [Entries.mem_keys_iff, Option.isSome_iff_ne_none] at hold
    rw [Option.isNone_iff_eq_none] at hnew
    simpa [hnew] using hold
  unfold keys diff
  rw [List.map_append, map_fst_filterMap, map_fst_filterMap, hgone]
  rfl

theorem nodup_keys_diff (old new : Snapshot) : (diff old new).keys.Nodup := by
  rw [keys_diff, List.nodup_append]
  refine ⟨new.entries.nodup.filter _, old.entries.nodup.filter _, ?_⟩
  rintro a ha b hb rfl
  -- A key of the first half has a value in the new content, one of the second half has none.
  have hthere := (new.entries.mem_keys_iff a).1 (List.mem_filter.1 ha).1
  have hgone : (new.get? a).isNone = true := (List.mem_filter.1 hb).2
  rw [Option.isNone_iff_eq_none] at hgone
  change (new.get? a).isSome = true at hthere
  simp [hgone] at hthere

/-! ## §2 What is said of a key -/

/-- **What a difference says of a key** is what happened to its value. -/
theorem get?_diff (old new : Snapshot) (k : String) :
    (diff old new).get? k = Change.between? (old.get? k) (new.get? k) := by
  cases hget : (diff old new).get? k with
  | some change =>
    exact (between?_of_mem_diff (Assoc.mem_of_lookup hget)).symm
  | none =>
    -- A key with another value would be listed, and then something would be found.
    symm
    rw [Change.between?_eq_none_iff]
    by_contra hdiffers
    obtain ⟨p, hp, rfl⟩ := List.mem_map.1 (mem_keys_diff.2 hdiffers)
    have hunequal := List.lookup_eq_none_iff.1 hget p hp
    simp at hunequal

theorem mem_changes_diff_iff :
    (k, c) ∈ (diff old new).changes ↔ Change.between? (old.get? k) (new.get? k) = some c := by
  rw [← get?_diff]
  exact (Assoc.lookup_eq_some_iff (nodup_keys_diff old new)).symm

/-- A change is said of a key exactly if it leads from one of its values to another one. -/
theorem get?_diff_eq_some_iff :
    (diff old new).get? k = some c
      ↔ c.old? = old.get? k ∧ c.new? = new.get? k ∧ old.get? k ≠ new.get? k := by
  rw [get?_diff, Change.between?_eq_some_iff]

/-! ## §3 The difference as a whole -/

theorem isEmpty_diff_iff_perm :
    (diff old new).isEmpty = true ↔ old.entries.toList.Perm new.entries.toList := by
  rw [isEmpty_diff_iff, Entries.perm_iff]
  rfl

theorem apply_diff_perm (old new : Snapshot) :
    ((diff old new).apply old.entries).toList.Perm new.entries.toList := by
  apply Entries.perm_iff.2
  intro k
  exact get?_apply_diff_of_agree (fun _ => .inl rfl) k

/-- The difference the other way round takes every change back. -/
theorem changes_diff_swap (old new : Snapshot) :
    (diff new old).changes.Perm ((diff old new).changes.map fun p => (p.1, p.2.inverse)) := by
  have hkeys : (((diff old new).changes.map fun p => (p.1, p.2.inverse)).map Prod.fst).Nodup := by
    rw [List.map_map]
    exact nodup_keys_diff old new
  have hnodup : (diff new old).changes.Nodup := (nodup_keys_diff new old).of_map
  apply (List.perm_ext_iff_of_nodup hnodup hkeys.of_map).2
  rintro ⟨k, c⟩
  rw [mem_changes_diff_iff, Change.between?_swap, Option.map_eq_some_iff, List.mem_map]
  constructor
  · rintro ⟨change, hchange, rfl⟩
    exact ⟨(k, change), mem_changes_diff_iff.2 hchange, rfl⟩
  · rintro ⟨⟨key, change⟩, hmem, hsame⟩
    obtain ⟨rfl, rfl⟩ := Prod.mk.inj hsame
    exact ⟨change, mem_changes_diff_iff.1 hmem, rfl⟩

/-- **A difference is exact.** It lists a key exactly if the two contents disagree about it, and
says what happened to it: added, modified or deleted, with the values of both contents. It is empty
exactly if the contents are the same up to their order, and replayed on the old content it gives the
new one. The difference the other way round lists the same keys, with each change taken back. The
keys come in the order of the new content, then those that are gone in the order of the old one, and
none comes twice. -/
theorem diff_exact (old new : Snapshot) :
    (∀ k, k ∈ (diff old new).keys ↔ old.get? k ≠ new.get? k)
      ∧ (∀ k v, (diff old new).get? k = some (.added v) ↔ old.get? k = none ∧ new.get? k = some v)
      ∧ (∀ k v w, (diff old new).get? k = some (.modified v w)
          ↔ old.get? k = some v ∧ new.get? k = some w ∧ v ≠ w)
      ∧ (∀ k v, (diff old new).get? k = some (.deleted v)
          ↔ old.get? k = some v ∧ new.get? k = none)
      ∧ ((diff old new).isEmpty = true ↔ old.entries.toList.Perm new.entries.toList)
      ∧ ((diff old new).apply old.entries).toList.Perm new.entries.toList
      ∧ (∀ k, (diff new old).get? k = ((diff old new).get? k).map Change.inverse)
      ∧ (diff new old).changes.Perm ((diff old new).changes.map fun p => (p.1, p.2.inverse))
      ∧ (diff old new).keys = (new.entries.keys.filter fun k => old.get? k ≠ new.get? k)
          ++ (old.entries.keys.filter fun k => (new.get? k).isNone)
      ∧ (diff old new).keys.Nodup := by
  refine ⟨fun _ => mem_keys_diff, ?added, ?modified, ?deleted, isEmpty_diff_iff_perm,
    apply_diff_perm old new, ?backwards, changes_diff_swap old new, keys_diff old new,
    nodup_keys_diff old new⟩
  case added =>
    intro k v
    rw [get?_diff_eq_some_iff]
    constructor
    · rintro ⟨hold, hnew, -⟩
      exact ⟨hold.symm, hnew.symm⟩
    · rintro ⟨hold, hnew⟩
      simp [hold, hnew, Change.old?, Change.new?]
  case modified =>
    intro k v w
    rw [get?_diff_eq_some_iff]
    constructor
    · rintro ⟨hold, hnew, hdiffers⟩
      refine ⟨hold.symm, hnew.symm, ?_⟩
      rintro rfl
      exact hdiffers (hold.symm.trans hnew)
    · rintro ⟨hold, hnew, hne⟩
      simp [hold, hnew, hne, Change.old?, Change.new?]
  case deleted =>
    intro k v
    rw [get?_diff_eq_some_iff]
    constructor
    · rintro ⟨hold, hnew, -⟩
      exact ⟨hold.symm, hnew.symm⟩
    · rintro ⟨hold, hnew⟩
      simp [hold, hnew, Change.old?, Change.new?]
  case backwards =>
    intro k
    rw [get?_diff, get?_diff, Change.between?_swap]

end ChangeSet

end LiveConfig
