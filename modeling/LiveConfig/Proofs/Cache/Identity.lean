import LiveConfig.Proofs.Cache.Crash
import LiveConfig.Sync.Refresh

/-!
# Whose record a cache file holds

A record says for which application, cluster and namespace it was written, and a namespace that
starts takes the record in its file as it is. So what is shown bears the name that the record gives,
which need not be the name that was asked for.

## What holds

A cache whose files were written by its own saves and by nothing else holds each record under the
name that it bears, wherever the saves were stopped.

## Main statements

- `CacheStore.faithful_of_saving`: a save keeps every record under its name.
- `CacheStore.faithful_of_ownSaves`: any number of saves do.
- `CacheStore.faithful_of_directories`: so does an empty cache.
- `Sync.identity_of_start`: what a namespace starts with.
- `Sync.foreign_record_served`: a record of another namespace is shown.
-/

namespace LiveConfig

/-! ## §1 Records and their names -/

/-- A record of this application, this cluster and this namespace. -/
structure CacheRecord.BelongsTo (c : CacheStore) (ns : String) (r : CacheRecord) : Prop where
  appId_eq : r.appId = c.appId
  cluster_eq : r.cluster = c.cluster
  ns_eq : r.ns = ns

namespace CacheStore

/-- **Every record that is found for a namespace is one of it.** -/
def Faithful (c : CacheStore) (f : Files) : Prop :=
  ∀ given ns r, Namespace.normalize given = .ok ns → c.lookUp f ns = .found r → r.BelongsTo c ns

/-- The trees that the saves of a cache lead to, each of them done or stopped anywhere. -/
inductive OwnSaves (c : CacheStore) (f₀ : Files) : Files → Prop
  | nothing : OwnSaves c f₀ f₀
  | save {f g : Files} {number given ns : String} {snapshot : Snapshot} {p : Progress}
      (before : OwnSaves c f₀ f) (hname : Namespace.normalize given = .ok ns)
      (hsave : c.Saving number f ns snapshot g p) : OwnSaves c f₀ g

section Saves

variable {c : CacheStore} {f f₀ g : Files} {number given ns : String} {snapshot : Snapshot}
  {p : Progress} {r : CacheRecord}

theorem lookUp_eq_found_iff : c.lookUp f ns = .found r ↔
    ∃ text, f.read c.base (c.path ns) = .ok text ∧ CacheRecord.read? text = some r := by
  unfold lookUp
  split
  · next h => simp [h]
  · next h => simp [h]
  · next text h =>
    simp only [h, Except.ok.injEq, exists_eq_left']
    split
    · next found hfound => simp [hfound]
    · next hnone => simp [hnone]

theorem belongsTo_of_ofSnapshot?
    (h : CacheRecord.ofSnapshot? c.appId c.cluster ns snapshot = some r) : r.BelongsTo c ns := by
  obtain ⟨release, -, rfl⟩ := Option.map_eq_some_iff.1 h
  exact ⟨rfl, rfl, rfl⟩

/-- Where there are directories only, no record is found. -/
theorem faithful_of_directories (h : ∀ n ∈ f.nodes, n.2 = .directory) : c.Faithful f := by
  have hnofile (q : Place) (held : FileContents) : f.get? q ≠ some (.file held) := by
    intro hfile
    unfold Files.get? at hfile
    split at hfile
    · cases hfile
    · obtain ⟨before, after, hnodes, -⟩ := List.lookup_eq_some_iff.1 hfile
      have hdirectory := h (q, .file held) (by simp [hnodes])
      cases hdirectory
  intro given ns r _ hfound
  obtain ⟨text, hread, -⟩ := lookUp_eq_found_iff.1 hfound
  unfold Files.read at hread
  cases hlocate : f.locate c.base (c.path ns) with
  | error e =>
    rw [hlocate] at hread
    cases hread
  | ok q =>
    rw [hlocate] at hread
    simp only [bind, Except.bind] at hread
    split at hread
    · next text' hfile => exact absurd hfile (hnofile q _)
    all_goals cases hread

/-- **A save keeps every record under its name**, wherever it is stopped. -/
theorem faithful_of_saving (hname : Namespace.normalize given = .ok ns) (h : c.Faithful f)
    (hsave : c.Saving number f ns snapshot g p) : c.Faithful g := by
  intro given' other r hother hfound
  by_cases heq : ns = other
  · subst heq
    by_cases hp : p = .replaced
    · -- The record is the new one.
      subst hp
      obtain ⟨new, hnew, hthere⟩ := lookUp_of_replaced hsave
      rw [hthere] at hfound
      cases hfound
      exact belongsTo_of_ofSnapshot? hnew
    · rw [lookUp_of_saving hsave hp] at hfound
      exact h given ns r hname hfound
  · -- Accepted names do not share a file, so that the other one is as it was.
    have hapart := not_shares_of_normalize (c := c) (f := f) hname hother heq
    obtain ⟨text, hread, hrecord⟩ := lookUp_eq_found_iff.1 hfound
    rw [read_other_of_saving hsave hapart] at hread
    exact h given' other r hother (lookUp_eq_found_iff.2 ⟨text, hread, hrecord⟩)

/-- **Any number of saves keep every record under its name.** -/
theorem faithful_of_ownSaves (h : c.Faithful f₀) (hsaves : c.OwnSaves f₀ f) : c.Faithful f := by
  induction hsaves with
  | nothing => exact h
  | save _ hname hsave ih => exact faithful_of_saving hname ih hsave

end Saves

end CacheStore

/-! ## §2 Starts -/

/-- A view of a namespace, under its name and in its format throughout. -/
structure View.Bears {L : Type} (ns : String) (v : View L) : Prop where
  ns_eq : v.ns = ns
  snapshot_eq : v.snapshot.ns = ns
  format_eq : v.format = Format.ofNamespace ns

/-- The view of a first snapshot bears the name that the snapshot gives. -/
theorem View.bears_ofSnapshot {L : Type} (s : Snapshot) : (ofSnapshot s : View L).Bears s.ns :=
  ⟨rfl, rfl, rfl⟩

namespace Sync

variable {L : Type} {setting : SyncSetting} {f : Files} {given ns : String} {now : Instant}
  {s : Sync L} {events : List (SyncEvent L)}

/-- What a namespace shows at its start: the record in its file, or nothing. -/
theorem start_cases (hstart : start setting f ns now = (s, events)) :
    s.ns = ns ∧ ((∃ c r, setting.cache = some c ∧ c.lookUp f ns = .found r
        ∧ s.view = .ofSnapshot r.toSnapshot)
      ∨ (∀ c r, setting.cache = some c → c.lookUp f ns ≠ .found r)
        ∧ s.view = .ofSnapshot (.empty ns)) := by
  unfold start at hstart
  cases hcache : setting.cache with
  | none =>
    simp only [hcache, Option.map_none] at hstart
    cases hstart
    exact ⟨rfl, .inr ⟨nofun, rfl⟩⟩
  | some c =>
    simp only [hcache, Option.map_some] at hstart
    cases hfound : c.lookUp f ns with
    | found r =>
      simp only [hfound] at hstart
      cases hstart
      exact ⟨rfl, .inl ⟨c, r, rfl, hfound, rfl⟩⟩
    | absent | unreadable =>
      simp only [hfound] at hstart
      cases hstart
      refine ⟨rfl, .inr ⟨fun c' r hc hr => ?_, rfl⟩⟩
      cases hc
      rw [hfound] at hr
      cases hr

/-- **What a namespace starts with.** It keeps the name that it was asked for. Its view bears the
name in the record that its file holds, or its own name if there is no record. So the view bears
the name of the namespace exactly if the record does; and this is so, for the application and the
cluster as well, in every tree to which the saves of the cache alone have led. -/
theorem identity_of_start (hname : Namespace.normalize given = .ok ns)
    (hstart : start setting f ns now = (s, events)) :
    s.ns = ns
      ∧ (∀ c r, setting.cache = some c → c.lookUp f ns = .found r →
        s.view.snapshot = r.toSnapshot ∧ s.view.Bears r.ns)
      ∧ ((∀ c r, setting.cache = some c → c.lookUp f ns ≠ .found r) →
        s.view.snapshot = .empty ns ∧ s.view.Bears ns)
      ∧ (s.view.Bears ns ↔
        ∀ c r, setting.cache = some c → c.lookUp f ns = .found r → r.ns = ns)
      ∧ ∀ c f₀, setting.cache = some c → c.Faithful f₀ → c.OwnSaves f₀ f →
        s.view.Bears ns ∧ ∀ r, c.lookUp f ns = .found r → r.BelongsTo c ns := by
  obtain ⟨hns, hview⟩ := start_cases hstart
  have hfound (c : CacheStore) (r : CacheRecord) (hcache : setting.cache = some c)
      (hr : c.lookUp f ns = .found r) : s.view = .ofSnapshot r.toSnapshot := by
    rcases hview with ⟨c', r', hcache', hr', hshown⟩ | ⟨hnone, -⟩
    · -- There is one cache, and it finds one record.
      obtain rfl := Option.some.inj (hcache.symm.trans hcache')
      rw [hr] at hr'
      cases hr'
      exact hshown
    · exact absurd hr (hnone c r hcache)
  have hbears : s.view.Bears ns ↔
      ∀ c r, setting.cache = some c → c.lookUp f ns = .found r → r.ns = ns := by
    constructor
    · intro h c r hcache hr
      have hrecord := h.ns_eq
      rwa [hfound c r hcache hr] at hrecord
    · intro h
      rcases hview with ⟨c, r, hcache, hr, hshown⟩ | ⟨-, hshown⟩
      · rw [hshown, ← h c r hcache hr]
        exact View.bears_ofSnapshot r.toSnapshot
      · rw [hshown]
        exact View.bears_ofSnapshot (.empty ns)
  refine ⟨hns, fun c r hcache hr => ?_, fun hnone => ?_, hbears, fun c f₀ hcache h hsaves => ?_⟩
  · rw [hfound c r hcache hr]
    exact ⟨rfl, View.bears_ofSnapshot r.toSnapshot⟩
  · rcases hview with ⟨c, r, hcache, hr, -⟩ | ⟨-, hshown⟩
    · exact absurd hr (hnone c r hcache)
    · rw [hshown]
      exact ⟨rfl, View.bears_ofSnapshot (.empty ns)⟩
  · have hfaithful := CacheStore.faithful_of_ownSaves h hsaves
    refine ⟨hbears.2 fun c' r hcache' hr => ?_, fun r hr => hfaithful given ns r hname hr⟩
    obtain rfl := Option.some.inj (hcache.symm.trans hcache')
    exact (hfaithful given ns r hname hr).ns_eq

/-- A namespace that starts with what its cache has saved. -/
theorem identity_of_start_saved :
    ∃ (c : CacheStore) (f₀ f : Files) (s : Sync Unit) (events : List (SyncEvent Unit))
      (r : CacheRecord),
      Namespace.normalize " application " = .ok "application" ∧ c.Faithful f₀ ∧ c.OwnSaves f₀ f
        ∧ start { cache := some c } f "application" 0 = (s, events)
        ∧ c.lookUp f "application" = .found r ∧ s.view.snapshot = r.toSnapshot
        ∧ s.view.Bears "application" ∧ r.BelongsTo c "application" := by
  let c : CacheStore := ⟨["cache"], "demo/config-cache", "demo", "default"⟩
  let f₀ : Files := ⟨[(["cache", "demo", "config-cache"], .directory),
    (["cache", "demo"], .directory), (["cache"], .directory)]⟩
  let snapshot : Snapshot := ⟨"application", some "r1", .remote, .ofList [("a", "1")]⟩
  let f : Files := (c.save f₀ "application" snapshot).1
  have hname : Namespace.normalize " application " = .ok "application" := by decide
  have hfaithful : c.Faithful f₀ := CacheStore.faithful_of_directories (by decide)
  obtain ⟨p, hsaving, -⟩ := CacheStore.saving_saveWith none c f₀ "application" snapshot
  have hsaves : c.OwnSaves f₀ f := .save .nothing hname hsaving
  have hlookUp : c.lookUp f "application" = .found ⟨"demo", "default", "application", "r1",
    .ofList [("a", "1")]⟩ := by decide +kernel
  have hstart : start { cache := some c } f "application" 0
      = (start (L := Unit) { cache := some c } f "application" 0) := rfl
  obtain ⟨-, hshown, -, -, hown⟩ := identity_of_start hname hstart
  obtain ⟨hbears, hbelongs⟩ := hown c f₀ rfl hfaithful hsaves
  exact ⟨c, f₀, f, _, _, _, hname, hfaithful, hsaves, rfl, hlookUp, (hshown c _ rfl hlookUp).1,
    hbears, hbelongs _ hlookUp⟩

/-- **A record of another namespace is shown**, although it says that it is none of this one, nor
of this application and this cluster: the view bears its name, and has its format. -/
theorem foreign_record_served :
    ∃ (c : CacheStore) (f : Files) (s : Sync Unit) (events : List (SyncEvent Unit))
      (r : CacheRecord),
      Namespace.normalize "application" = .ok "application"
        ∧ f.read c.base (c.path "application") = .ok r.text
        ∧ start { cache := some c } f "application" 0 = (s, events)
        ∧ r.ns = "other.yml" ∧ r.appId ≠ c.appId ∧ r.cluster ≠ c.cluster
        ∧ s.view.snapshot = r.toSnapshot ∧ s.view.ns ≠ "application"
        ∧ s.view.snapshot.ns ≠ "application"
        ∧ s.view.format ≠ Format.ofNamespace "application" := by
  let c : CacheStore := ⟨["cache"], "demo/config-cache", "demo", "default"⟩
  let r : CacheRecord := ⟨"else", "east", "other.yml", "r9", .ofList [("k", "v")]⟩
  let dir : Place := ["cache", "demo", "config-cache"]
  let f : Files := ⟨[(dir ++ ["demo+default+application.json"], .file (.text r.text)), (dir, .directory),
    (["cache", "demo"], .directory), (["cache"], .directory)]⟩
  have hread : f.read c.base (c.path "application") = .ok r.text := by decide +kernel
  have hlookUp : c.lookUp f "application" = .found r :=
    CacheStore.lookUp_eq_found_iff.2 ⟨r.text, hread, CacheRecord.read?_text r⟩
  have hstart : start (L := Unit) { cache := some c } f "application" 0
      = ({ ns := "application", view := .ofSnapshot r.toSnapshot, lastConfirmed := 0 },
        [.observed (.localFallback "application")]) := by
    unfold start
    simp only [Option.map_some, hlookUp]
  refine ⟨c, f, _, _, r, by decide, hread, hstart, rfl, by decide, by decide, rfl, ?_, ?_, ?_⟩
  · show "other.yml" ≠ "application"
    decide
  · show "other.yml" ≠ "application"
    decide
  · show Format.ofNamespace "other.yml" ≠ Format.ofNamespace "application"
    decide +kernel

end Sync

end LiveConfig
