import LiveConfig.Config.Settings
import LiveConfig.Proofs.Config.Sanitise

/-!
# What settings resolve to

Whatever the layers of settings say, there are three outcomes: no configuration because the
application has no name, no configuration because a span of time runs over, and a valid
configuration. The sum of the hold time of a long poll and the margin of its timeout is the only one
that can run over.

## Main statements

- `overruns_iff`: for which hold times and timeouts the corrections run over.
- `resolve_cases`: the three outcomes, for all settings.
- `resolve_longest_hold`: settings of an environment for which the sum runs over.
-/

namespace LiveConfig.Settings

/-- The name of the application, if there is one. -/
def name? (s : Settings) : Option String := s.appId.bind Text.nonBlank?

/-- **The hold time leaves no room** for a timeout above it, and one is needed: the timeout that is
set, or the default one, does not exceed it. -/
def HoldsTooLong (s : Settings) : Prop :=
  ∃ hold, s.pollHoldSecs = some hold ∧ UInt64.size ≤ hold.toNat + 30
    ∧ ∀ timeout, s.pollTimeoutSecs = some timeout → timeout ≤ hold

/-! ## §1 The only sum -/

theorem ofSecs_le_ofSecs (a b : UInt64) : Duration.ofSecs a ≤ .ofSecs b ↔ a ≤ b := by
  show a.toNat * 1000000000 ≤ b.toNat * 1000000000 ↔ a ≤ b
  rw [UInt64.le_iff_toNat_le]
  omega

/-- **The corrections run over** exactly if the hold time leaves no room. -/
theorem overruns_iff (s : Settings) (appId : String) (e : Duration.SumError) :
    (s.withDefaults { appId }).sanitise = .error e ↔ s.HoldsTooLong := by
  rw [SyncConfig.sanitise_eq_error_iff]
  show secondsOr s.pollTimeoutSecs (.ofSecs 90) ≤ secondsOr s.pollHoldSecs (.ofSecs 60)
      ∧ UInt64.size * 1000000000
        ≤ (secondsOr s.pollHoldSecs (.ofSecs 60)).nanos + 30 * 1000000000 ↔ _
  unfold HoldsTooLong
  cases s.pollHoldSecs with
  | none =>
    -- The default hold time is far from the end of the range.
    constructor
    · intro h
      exact absurd h.2 (by decide)
    · intro h
      obtain ⟨hold, hset, -⟩ := h
      cases hset
  | some hold =>
    have hroom : UInt64.size * 1000000000 ≤ (Duration.ofSecs hold).nanos + 30 * 1000000000
        ↔ UInt64.size ≤ hold.toNat + 30 := by
      show _ ≤ hold.toNat * 1000000000 + _ ↔ _
      omega
    show _ ≤ Duration.ofSecs hold ∧ _ ≤ (Duration.ofSecs hold).nanos + _ ↔ _
    rw [hroom]
    cases s.pollTimeoutSecs with
    | none =>
      -- A hold time at the end of the range exceeds the default timeout anyway.
      have hdefault (hlong : UInt64.size ≤ hold.toNat + 30) :
          Duration.ofSecs 90 ≤ .ofSecs hold := by
        rw [ofSecs_le_ofSecs, UInt64.le_iff_toNat_le]
        show 90 ≤ hold.toNat
        have : UInt64.size = 18446744073709551616 := rfl
        omega
      constructor
      · intro h
        exact ⟨hold, rfl, h.2, nofun⟩
      · intro h
        obtain ⟨_, ⟨⟩, hlong, -⟩ := h
        exact ⟨hdefault hlong, hlong⟩
    | some timeout =>
      show Duration.ofSecs timeout ≤ .ofSecs hold ∧ _ ↔ _
      rw [ofSecs_le_ofSecs]
      constructor
      · intro h
        refine ⟨hold, rfl, h.2, fun other hset => ?_⟩
        cases hset
        exact h.1
      · intro h
        obtain ⟨_, ⟨⟩, hlong, hshort⟩ := h
        exact ⟨hshort timeout rfl, hlong⟩

/-! ## §2 The three outcomes -/

theorem resolve_of_named {s : Settings} {appId : String} (h : s.name? = some appId) :
    s.resolve = (s.withDefaults { appId }).sanitise.mapError .overflow := by
  have hconfig : s.toConfig? = .ok (s.withDefaults { appId }) := by
    unfold toConfig?
    rw [show s.appId.bind Text.nonBlank? = some appId from h]
  unfold resolve
  rw [hconfig]
  cases hresult : (s.withDefaults { appId }).sanitise with
  | error e => simp [hresult, Except.mapError]
  | ok r => simp [hresult, Except.mapError]

/-- **What settings resolve to**: without a name nothing; with a name a valid configuration, unless
the hold time leaves no room, in which case the sum of durations runs over. -/
theorem resolve_cases (s : Settings) :
    (s.name? = none → s.resolve = .error (.settings .missingAppId))
      ∧ ∀ appId, s.name? = some appId →
        (s.HoldsTooLong → s.resolve = .error (.overflow .overflow))
          ∧ (¬s.HoldsTooLong → ∃ d warnings,
            s.resolve = .ok (d, warnings) ∧ d.appId = appId ∧ d.Valid) := by
  refine ⟨fun hnone => ?_, fun appId hname => ⟨fun hlong => ?_, fun hroom => ?_⟩⟩
  · have hconfig : s.toConfig? = .error .missingAppId := by
      unfold toConfig?
      rw [show s.appId.bind Text.nonBlank? = none from hnone]
    rw [resolve, hconfig]
  · rw [resolve_of_named hname, (overruns_iff s appId .overflow).2 hlong]
    rfl
  · cases hresult : (s.withDefaults { appId }).sanitise with
    | error e => exact absurd ((overruns_iff s appId e).1 hresult) hroom
    | ok r =>
      obtain ⟨d, warnings⟩ := r
      refine ⟨d, warnings, ?_, ?_, SyncConfig.valid_of_sanitise hresult⟩
      · rw [resolve_of_named hname, hresult]
        rfl
      · rw [SyncConfig.withNamed_of_sanitise hresult]
        rfl

/-- Settings with the longest hold time that leaves room for the margin. -/
def withLastRoom : Settings := { appId := some " demo ", pollHoldSecs := some 18446744073709551585 }

/-- They lead to a configuration. -/
theorem resolve_cases_with_last_room :
    withLastRoom.name? = some "demo" ∧ ∃ d warnings,
      withLastRoom.resolve = .ok (d, warnings) ∧ d.appId = "demo" ∧ d.Valid := by
  have hname : withLastRoom.name? = some "demo" := by decide
  have hroom : ¬withLastRoom.HoldsTooLong := by
    rintro ⟨_, ⟨⟩, hlong, -⟩
    exact absurd hlong (by decide)
  exact ⟨hname, ((resolve_cases withLastRoom).2 "demo" hname).2 hroom⟩

/-- **Settings that lead to no configuration although the application has a name**: an environment
sets the longest hold time that can be read. -/
theorem resolve_longest_hold :
    (ofEnvironment [("CONFIG_SYNC_APP_ID", "demo"),
      ("CONFIG_SYNC_LONG_POLL_HOLD_SECS", "18446744073709551615")]).1.resolve
      = .error (.overflow .overflow) := by
  rfl

end LiveConfig.Settings
