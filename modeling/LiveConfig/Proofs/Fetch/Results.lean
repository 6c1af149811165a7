import LiveConfig.Fetch.Rotation

/-!
# What a fetch ends with

Instance after instance may be asked, but what a fetch delivers in the end is what one of them has
said. A release that it delivers therefore has a name and counts as delivered by the server.

## Main statements

- `Rotation.Asked.yields`: a fetch ends with an error or with what an answer says.
- `FetchConfig.Yields.exists_body`: a release that is delivered is the one of a body.
-/

namespace LiveConfig

variable {c : FetchConfig} {ns : String}

/-- A result of fetches of a namespace: an error, or what an answer says about the namespace. -/
def FetchConfig.Yields (c : FetchConfig) (ns : String) (result : FetchResult) : Prop :=
  ∀ outcome, result = .ok outcome → ∃ answer, outcome = c.outcomeOf ns answer

theorem FetchConfig.yields_outcomeOf (c : FetchConfig) (ns : String)
    (answer : Http.Outcome FetchConfig.Body) : c.Yields ns (.ok (c.outcomeOf ns answer)) :=
  fun _ h => ⟨answer, (Except.ok.inj h).symm⟩

theorem FetchConfig.yields_error (c : FetchConfig) (ns : String) (e : FetchError) :
    c.Yields ns (.error e) :=
  fun _ h => nomatch h

theorem FetchConfig.Yields.exists_body {s : Snapshot} (h : c.Yields ns (.ok (.updated s))) :
    ∃ body, s = c.snapshotOf ns body := by
  obtain ⟨answer, hanswer⟩ := h _ rfl
  cases answer with
  | body b => exact ⟨b, FetchOutcome.updated.inj hanswer⟩
  | notModified => cases hanswer
  | notFound => cases hanswer

theorem FetchConfig.Yields.release_isSome {s : Snapshot} (h : c.Yields ns (.ok (.updated s))) :
    s.release.isSome = true := by
  obtain ⟨body, rfl⟩ := h.exists_body
  rfl

theorem FetchConfig.Yields.source_eq {s : Snapshot} (h : c.Yields ns (.ok (.updated s))) :
    s.source = .remote := by
  obtain ⟨body, rfl⟩ := h.exists_body
  rfl

namespace Rotation

/-- A fetch of a namespace under way: it has been told endpoints, and what answers say. -/
inductive Asked (c : FetchConfig) (ns : String) (config : BackoffConfig) : Rotation → Prop
  | begin (limit : Nat) : Asked c ns config (.ofLimit limit)
  | picked {r : Rotation} (endpoint : Option Endpoint) :
      Asked c ns config r → Asked c ns config (r.picked endpoint)
  | reply {r r' : Rotation} {b b' : Backoff}
      {answer : Except Http.CallError (Http.Outcome FetchConfig.Body)} :
      Asked c ns config r → r.reply config b (answer.map (c.outcomeOf ns)) = .ok (r', b') →
      Asked c ns config r'
  | resume {r : Rotation} : Asked c ns config r → Asked c ns config r.resume

theorem yields_exhausted {r : Rotation} {result : FetchResult}
    (h : r.exhausted.result? = some result) : c.Yields ns result := by
  unfold exhausted result? at h
  cases hlast : r.lastError with
  | none =>
    simp only [hlast, Option.some.injEq] at h
    exact h ▸ c.yields_error ns _
  | some last =>
    simp only [hlast, Option.some.injEq] at h
    exact h ▸ c.yields_error ns _

/-- **A fetch ends with an error or with what an answer says**, however many instances it asks. -/
theorem Asked.yields {config : BackoffConfig} {r : Rotation} {result : FetchResult}
    (h : Asked c ns config r) (hresult : r.result? = some result) : c.Yields ns result := by
  cases h with
  | begin limit => cases hresult
  | picked endpoint _ =>
    cases endpoint with
    | none => exact yields_exhausted hresult
    | some e => cases hresult
  | @reply before _ b _ answer _ hreply =>
    cases answer with
    | ok body =>
      cases hreply
      cases hresult
      exact c.yields_outcomeOf ns body
    | error e =>
      simp only [Except.map, Rotation.reply] at hreply
      split at hreply
      · -- After a passing error the fetch goes on.
        cases hdelay : config.delay? b.registerError.errors with
        | error _ =>
          rw [hdelay] at hreply
          cases hreply
        | ok delay =>
          rw [hdelay] at hreply
          cases hreply
          cases hresult
      · cases hreply
        cases hresult
        exact c.yields_error ns _
  | @resume before _ =>
    unfold Rotation.resume at hresult
    split at hresult
    · cases hresult
    · exact yields_exhausted hresult

end Rotation

end LiveConfig
