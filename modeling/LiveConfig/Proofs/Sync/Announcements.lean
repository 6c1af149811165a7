import LiveConfig.Proofs.Notify.Requests
import LiveConfig.Proofs.Sync.Step

/-!
# What becomes of announced messages

Messages that notifications announce wait until a refresh takes them, travel with its fetch, and
wait again if the fetch fails. None is lost on the way, and none is made up.

## The account

For every key the highest number that was ever announced is the highest one among the messages that
wait, those that a refresh holds, and those that fetches have carried to an answer. Every move keeps
this account.

## Main statements

- `SyncMachine.highest?_of_step`: a move keeps the account of every key.
- `SyncMachine.retains_of_step`: a refresh that fails gives back what it has taken.
- `SyncRun.highest?_announced`: both, for whole runs.
-/

namespace LiveConfig

open Messages

variable {L : Type}

/-! ## §1 Where messages are -/

/-- The messages that a step announces. -/
def SyncStep.announced (s : SyncStep L) : Option Messages :=
  match s.move with
  | .announce messages => messages
  | _ => none

/-- The messages that a step carries to an answer. -/
def SyncStep.carried (s : SyncStep L) : Option Messages :=
  match s.move, s.before.active with
  | .answer (.ok _) _, some ⟨_, .fetching flight⟩ => flight.messages
  | _, _ => none

/-- All messages that have been announced. -/
def announced (history : List (SyncStep L)) : List Messages :=
  history.filterMap SyncStep.announced

/-- All messages that went with a fetch which the server has answered. -/
def carried (history : List (SyncStep L)) : List Messages :=
  history.filterMap SyncStep.carried

/-- The messages that a refresh holds until its fetch has ended. -/
def RefreshPhase.messages : RefreshPhase L → Option Messages
  | .queued flight | .fetching flight => flight.messages
  | _ => none

namespace SyncMachine

/-- The messages that wait for the next refresh. -/
def waiting (m : SyncMachine L) : List Messages := m.sync.pending.toList

/-- The messages that the refresh under way holds. -/
def inFlight (m : SyncMachine L) : List Messages :=
  (m.active.bind fun a => a.phase.messages).toList

end SyncMachine

section Parts

variable {m : SyncMachine L} {a : ActiveRefresh L} {caller : Nat} {s : SyncStep L} {k : String}

theorem announced_concat (history : List (SyncStep L)) (s : SyncStep L) :
    LiveConfig.announced (history ++ [s]) = LiveConfig.announced history ++ s.announced.toList := by
  cases h : s.announced <;> simp [LiveConfig.announced, h]

theorem carried_concat (history : List (SyncStep L)) (s : SyncStep L) :
    carried (history ++ [s]) = carried history ++ s.carried.toList := by
  cases h : s.carried <;> simp [carried, h]

theorem SyncMachine.inFlight_of_none (h : m.active = none) : m.inFlight = [] := by
  simp [SyncMachine.inFlight, h]

theorem SyncMachine.inFlight_of_some (h : m.active = some a) :
    m.inFlight = a.phase.messages.toList := by
  simp [SyncMachine.inFlight, h]

/-- Whatever remains of a refresh after its answer, it holds no messages any more. -/
@[simp] theorem SyncMachine.inFlight_proceed {r : Remaining} :
    (m.proceed caller r).1.inFlight = [] := by
  cases r with
  | nothing => exact inFlight_of_none (active_letGo ..)
  | saving | delivering => rfl

@[simp] theorem SyncMachine.inFlight_tell {changes : ChangeSet} {left : List (Registration L)}
    {outcome : RefreshOutcome} : (m.tell caller changes left outcome).1.inFlight = [] := by
  cases left with
  | nil => exact inFlight_of_none (active_letGo ..)
  | cons => rfl

theorem Sync.pending_start (setting : SyncSetting) (f : Files) (ns : String) (now : Instant) :
    (Sync.start (L := L) setting f ns now).1.pending = none := by
  unfold Sync.start
  split <;> rfl

/-- Messages that are kept raise the numbers of those that wait. -/
theorem Sync.highest?_queueMessages (sync : Sync L) (messages : Option Messages) :
    highest? k (sync.queueMessages messages).pending.toList
      = max (highest? k sync.pending.toList) (highest? k messages.toList) := by
  cases messages with
  | none => simp [Sync.queueMessages]
  | some messages => simp [Sync.queueMessages, highest?_mergeInto, highest?_cons]

end Parts

/-- An answer leaves the messages that wait alone, and a failure adds those of the fetch to them. -/
theorem Sync.Answer.pending_eq {setting : SyncSetting} {now : Instant} {flight : Flight}
    {s s' : Sync L} {result : FetchResult} {events : List (SyncEvent L)} {remaining : Remaining}
    (answer : Answer setting now flight s result s' events remaining) :
    s'.pending = match result with
      | .ok _ => s.pending
      | .error _ => (s.queueMessages flight.messages).pending := by
  cases answer <;> rfl

/-! ## §2 No message is lost or made up -/

namespace SyncMachine

variable {frame : SyncFrame L} {now : Instant} {m m' : SyncMachine L} {f f' : Files}
  {move : SyncMove L} {events : List (SyncEvent L)}

/-- **A move keeps the account of every key**: what waits, is held or has been carried after it is
what waited, was held or is announced by it. -/
theorem highest?_of_step (step : m.Step frame now f move m' f' events)
    (hmove : ∀ caller, move ≠ .abandon caller) (k : String) :
    highest? k (m'.waiting ++ m'.inFlight
        ++ (SyncStep.mk now move m m' f' events).carried.toList)
      = highest? k (m.waiting ++ m.inFlight
        ++ (SyncStep.mk now move m m' f' events).announced.toList) := by
  cases step with
  | @announce messages =>
    have hwaiting : highest? k (m.sync.queueMessages messages).pending.toList
        = max (highest? k m.waiting) (highest? k messages.toList) :=
      Sync.highest?_queueMessages ..
    show highest? k ((m.sync.queueMessages messages).pending.toList ++ m.inFlight ++ [])
      = highest? k (m.waiting ++ m.inFlight ++ messages.toList)
    simp only [highest?_append, hwaiting, highest?_nil, Option.max_none_right]
    ac_rfl
  | enter _ hfree =>
    -- Nothing is held before, so all that is held now has waited.
    rw [inFlight_of_none hfree]
    simp [waiting, inFlight, RefreshPhase.messages, SyncStep.carried, SyncStep.announced]
  | permit hactive =>
    rw [inFlight_of_some hactive]
    rfl
  | @answer _ flight result backoff _ _ _ hactive hanswer =>
    have hpending := hanswer.pending_eq
    rw [inFlight_of_some hactive, inFlight_proceed, waiting, sync_proceed, hpending]
    cases result with
    | ok => simp [SyncStep.carried, SyncStep.announced, hactive, waiting, RefreshPhase.messages]
    | error =>
      -- The messages of the fetch go back to those that wait.
      have hback := Sync.highest?_queueMessages (k := k) { m.sync with backoff } flight.messages
      simpa [SyncStep.carried, SyncStep.announced, waiting, RefreshPhase.messages,
        highest?_append] using hback
  | saved hactive =>
    rw [inFlight_of_some hactive]
    rfl
  | gather hactive =>
    rw [inFlight_of_some hactive, inFlight_tell]
    simp [waiting]
    rfl
  | deliver hactive =>
    rw [inFlight_of_some hactive, inFlight_tell]
    simp [waiting]
    rfl
  | abandon => exact absurd rfl (hmove _)
  | _ => rfl

end SyncMachine

/-! ## §3 A failure gives back what was taken -/

/-- The caller whose refresh has failed, if an event says so. -/
def SyncEvent.failed? : SyncEvent L → Option Nat
  | .ended caller .failed => some caller
  | _ => none

theorem SyncEvent.failed?_eq_some_iff {e : SyncEvent L} {caller : Nat} :
    e.failed? = some caller ↔ e = .ended caller .failed := by
  cases e with
  | ended _ outcome => cases outcome <;> simp [failed?]
  | _ => simp [failed?]

/-- How a refresh ends, as far as its answer has decided that. -/
def Remaining.outcome? : Remaining → Option RefreshOutcome
  | .nothing outcome | .delivering _ outcome => some outcome
  | .saving .. => none

theorem Sync.Answer.error_of_failed {setting : SyncSetting} {now : Instant} {flight : Flight}
    {s s' : Sync L} {result : FetchResult} {events : List (SyncEvent L)} {remaining : Remaining}
    (answer : Answer setting now flight s result s' events remaining)
    (h : remaining.outcome? = some .failed) : ∃ e, result = .error e := by
  cases answer with
  | failed | expired => exact ⟨_, rfl⟩
  | _ => cases h

theorem Sync.Answer.not_ended {setting : SyncSetting} {now : Instant} {flight : Flight}
    {s s' : Sync L} {result : FetchResult} {events : List (SyncEvent L)} {remaining : Remaining}
    (answer : Answer setting now flight s result s' events remaining) {caller : Nat}
    {outcome : RefreshOutcome} : SyncEvent.ended caller outcome ∉ events := by
  cases answer <;> simp [Sync.failed]

/-- A refresh that its answer makes fail gives back what it has taken. -/
theorem Sync.Answer.least_le_of_failed {setting : SyncSetting} {now : Instant} {flight : Flight}
    {s s' : Sync L} {result : FetchResult} {events : List (SyncEvent L)} {remaining : Remaining}
    (answer : Answer setting now flight s result s' events remaining) {k : String}
    {least : Option Int} (hleast : least ≤ highest? k flight.messages.toList)
    (h : remaining.outcome? = some .failed) : least ≤ highest? k s'.pending.toList := by
  obtain ⟨e, rfl⟩ := answer.error_of_failed h
  rw [answer.pending_eq, Sync.highest?_queueMessages]
  exact id_le_trans hleast id_le_max_right

theorem Sync.not_ended_save {setting : SyncSetting} {fault : Option CacheStore.Fault}
    {snapshot : Snapshot} {f : Files} {s : Sync L} {caller : Nat} {outcome : RefreshOutcome} :
    SyncEvent.ended caller outcome ∉ (s.save setting fault snapshot f).2 := by
  unfold Sync.save
  split
  · simp
  · split <;> simp

theorem Sync.not_ended_deliver {react : L → ChangeSet → Listeners.Reaction L} {changes : ChangeSet}
    {recipient : Registration L} {s : Sync L} {caller : Nat} {outcome : RefreshOutcome} :
    SyncEvent.ended caller outcome ∉ (s.deliver react changes recipient).2 := by
  unfold Sync.deliver
  cases h : (s.view.listeners.call react changes recipient).2 <;> simp [h]

/-- What a refresh has taken is at least kept: it holds it, or it has given it back if it is going
to fail. -/
def RefreshPhase.Retains (k : String) (least : Option Int) (waiting : List Messages) :
    RefreshPhase L → Prop
  | .queued flight | .fetching flight => least ≤ highest? k flight.messages.toList
  | .saving .. => True
  | .committed _ outcome | .delivering _ _ outcome =>
    outcome = .failed → least ≤ highest? k waiting

theorem RefreshPhase.Retains.mono {k : String} {least : Option Int}
    {waiting waiting' : List Messages} {phase : RefreshPhase L} (h : phase.Retains k least waiting)
    (hle : highest? k waiting ≤ highest? k waiting') : phase.Retains k least waiting' := by
  cases phase with
  | queued | fetching | saving => exact h
  | committed | delivering => exact fun ho => id_le_trans (h ho) hle

namespace SyncMachine

/-- The refresh under way at least keeps what it has taken. -/
def Retains (k : String) (least : Option Int) (m : SyncMachine L) : Prop :=
  ∀ a, m.active = some a → a.phase.Retains k least m.waiting

section Parts

variable {m : SyncMachine L} {a : ActiveRefresh L} {caller c : Nat} {outcome o : RefreshOutcome}
  {k : String} {least : Option Int}

theorem retains_of_none (h : m.active = none) : m.Retains k least := forall_active_of_none h

theorem retains_of_some (h : m.active = some a) (hretains : a.phase.Retains k least m.waiting) :
    m.Retains k least :=
  forall_active_of_some h hretains

@[simp] theorem waiting_tell {changes : ChangeSet} {left : List (Registration L)} :
    (m.tell caller changes left outcome).1.waiting = m.waiting := by
  simp [waiting]

theorem retains_proceed {r : Remaining}
    (h : r.outcome? = some .failed → least ≤ highest? k m.waiting) :
    (m.proceed caller r).1.Retains k least := by
  cases r with
  | nothing => exact retains_of_none (active_letGo ..)
  | saving => exact retains_of_some rfl trivial
  | delivering _ outcome => exact retains_of_some rfl fun ho => h (congrArg some ho)

theorem retains_tell {changes : ChangeSet} {left : List (Registration L)}
    (h : outcome = .failed → least ≤ highest? k m.waiting) :
    (m.tell caller changes left outcome).1.Retains k least := by
  cases left with
  | nil => exact retains_of_none (active_letGo ..)
  | cons => exact retains_of_some rfl h

theorem outcome_of_ended_proceed {r : Remaining}
    (h : SyncEvent.ended c o ∈ (m.proceed caller r).2) : r.outcome? = some o := by
  cases r with
  | nothing => simp_all [proceed, Remaining.outcome?]
  | saving | delivering => cases h

theorem outcome_of_ended_tell {changes : ChangeSet} {left : List (Registration L)}
    (h : SyncEvent.ended c o ∈ (m.tell caller changes left outcome).2) : outcome = o := by
  cases left with
  | nil => cases outcome <;> simp_all [tell, Sync.concluded]
  | cons => cases h

end Parts

variable {frame : SyncFrame L} {now : Instant} {m m' : SyncMachine L} {f f' : Files}
  {move : SyncMove L} {events : List (SyncEvent L)} {k : String} {least : Option Int}

/-- Only the beginning of a refresh takes messages away. -/
theorem waiting_le_of_step (step : m.Step frame now f move m' f' events)
    (hmove : ∀ caller, move ≠ .enter caller) :
    highest? k m.waiting ≤ highest? k m'.waiting := by
  cases step with
  | announce => exact Sync.highest?_queueMessages (k := k) m.sync _ ▸ id_le_max_left
  | enter => exact absurd rfl (hmove _)
  | @answer _ flight result backoff _ _ _ _ hanswer =>
    rw [waiting, waiting, sync_proceed, hanswer.pending_eq]
    cases result with
    | ok => exact id_le_rfl
    | error =>
      -- The messages of the fetch come on top of those that wait.
      have hback := Sync.highest?_queueMessages (k := k) { m.sync with backoff } flight.messages
      exact hback ▸ id_le_max_left
  | gather | deliver =>
    rw [waiting_tell]
    exact id_le_rfl
  | _ => exact id_le_rfl

/-- **A refresh keeps what it has taken** until it has ended, and gives it back if it fails,
whatever is announced meanwhile. -/
theorem retains_of_step (hm : m.Retains k least) (step : m.Step frame now f move m' f' events)
    (hmove : ∀ caller, move ≠ .enter caller) : m'.Retains k least := by
  have hmono := waiting_le_of_step (k := k) step hmove
  cases step with
  | enter => exact absurd rfl (hmove _)
  | permit hactive => exact retains_of_some rfl (hm _ hactive :)
  | answer hactive hanswer =>
    -- From its answer on a refresh that is going to fail has given back what it had.
    exact retains_proceed fun hfailed => hanswer.least_le_of_failed (hm _ hactive :) hfailed
  -- Only a fetch that was answered leads to saving, so there is nothing to give back.
  | saved => exact retains_of_some rfl nofun
  | gather hactive => exact retains_tell (hm _ hactive :)
  | deliver hactive => exact retains_tell (hm _ hactive :)
  | abandon =>
    intro a ha
    exact hm a (Option.filter_eq_some_iff.1 ha).1
  | announce =>
    -- What has been given back stays, for nothing is taken.
    intro a ha
    exact (hm a ha).mono hmono
  | _ => exact hm

/-- A refresh that ends with a failure has given back what it had taken. -/
theorem least_le_of_failed (hm : m.Retains k least) (step : m.Step frame now f move m' f' events)
    {caller : Nat} (hended : .ended caller .failed ∈ events) :
    least ≤ highest? k m'.waiting := by
  cases step with
  | answer hactive hanswer =>
    -- The end is told by what remains to be done, not by taking in the answer.
    have hended := (List.mem_append.1 hended).resolve_left hanswer.not_ended
    rw [waiting, sync_proceed]
    exact hanswer.least_le_of_failed (hm _ hactive :) (outcome_of_ended_proceed hended)
  | saved => exact absurd hended Sync.not_ended_save
  | gather hactive =>
    rw [waiting_tell]
    exact hm _ hactive (outcome_of_ended_tell hended)
  | deliver hactive =>
    rw [waiting_tell]
    have hended := (List.mem_append.1 hended).resolve_left Sync.not_ended_deliver
    exact hm _ hactive (outcome_of_ended_tell hended)
  | _ => cases hended

/-- A refresh that begins takes all that waits. -/
theorem retains_of_enter {caller : Nat} (step : m.Step frame now f (.enter caller) m' f' events) :
    m'.Retains k (highest? k m.waiting) := by
  cases step
  exact retains_of_some rfl id_le_rfl

end SyncMachine

/-! ## §4 Runs -/

namespace SyncRun

private theorem account_concat {x x' x₀ c c' a a' : Option Int} (hmove : max x' c' = max x a')
    (h : max x c = max x₀ a) : max x' (max c c') = max x₀ (max a a') := by
  calc
    max x' (max c c') = max (max x' c') c := by ac_rfl
    _ = max (max x c) a' := by rw [hmove]; ac_rfl
    _ = max x₀ (max a a') := by rw [h]; ac_rfl

variable {frame : SyncFrame L} {m₀ m : SyncMachine L} {f₀ f : Files} {h : List (SyncStep L)}
  {k : String} {least : Option Int}

/-- **No message is lost or made up**, as long as nobody gives up. -/
theorem highest?_account (run : SyncRun frame m₀ f₀ h m f) (hc : Completed h) :
    highest? k (m.waiting ++ m.inFlight ++ carried h)
      = highest? k (m₀.waiting ++ m₀.inFlight ++ announced h) := by
  induction run with
  | nil => rfl
  | snoc run hstep ih =>
    obtain ⟨hc, hlast⟩ := completed_append.1 hc
    have hmove := SyncMachine.highest?_of_step (SyncMachine.step_of_step? hstep)
      (hlast _ (List.mem_singleton_self _)) k
    have ih := ih hc
    simp only [announced_concat, carried_concat, highest?_append] at hmove ih ⊢
    exact account_concat hmove ih

/-- As long as no other refresh begins, what a refresh has taken is kept; once it has failed, it
waits again. -/
theorem least_le_of_ended (run : SyncRun frame m₀ f₀ h m f) (h₀ : m₀.Retains k least)
    (hnone : ∀ s ∈ h, ∀ caller, s.move ≠ .enter caller) :
    m.Retains k least
      ∧ ∀ s ∈ h, ∀ caller, SyncEvent.ended caller .failed ∈ s.events →
        least ≤ highest? k m.waiting := by
  induction run with
  | nil => exact ⟨h₀, fun _ hs => absurd hs List.not_mem_nil⟩
  | snoc run hstep ih =>
    have step := SyncMachine.step_of_step? hstep
    have hmove := hnone _ (List.mem_append_right _ (List.mem_singleton_self _))
    obtain ⟨hretains, hended⟩ := ih fun s hs => hnone s (List.mem_append_left _ hs)
    refine ⟨SyncMachine.retains_of_step hretains step hmove, fun s hs caller hfailed => ?_⟩
    rcases List.mem_append.1 hs with hs | hs
    · -- It failed earlier, and nothing has been taken since.
      exact id_le_trans (hended s hs caller hfailed) (SyncMachine.waiting_le_of_step step hmove)
    · obtain rfl := List.mem_singleton.1 hs
      exact SyncMachine.least_le_of_failed hretains step hfailed

/-- **The account of the messages.** In every run in which nobody gives up, the highest number that
was ever announced for a key is the highest one among the messages that wait, those in flight and
those that an answered fetch has carried; and a refresh that has failed leaves at least what it had
taken waiting, until another one begins. What is in flight is what the request of the fetch tells
the server, wherever it is sent. -/
theorem highest?_announced {ns : String} {now : Instant}
    (run : SyncRun frame (SyncMachine.start frame.setting f₀ ns now).1 f₀ h m f)
    (hc : Completed h) (k : String) :
    highest? k (announced h) = highest? k (m.waiting ++ m.inFlight ++ carried h)
      ∧ (∀ (h₁ h₂ : List (SyncStep L)) (s : SyncStep L) (caller : Nat), h = h₁ ++ s :: h₂ →
        s.move = .enter caller → (∀ t ∈ h₂, ∀ c, t.move ≠ .enter c) →
        (∃ t ∈ h₂, SyncEvent.ended caller .failed ∈ t.events) →
        highest? k s.before.waiting ≤ highest? k m.waiting)
      ∧ ∀ (caller : Nat) (flight : Flight), m.active = some ⟨caller, .fetching flight⟩ →
        (∀ messages ∈ flight.messages, messages.Fitting) →
        ∀ (c : FetchConfig) (base : String) (u : Url),
          c.address base m.sync.ns flight.previous.release flight.messages = .ok u →
          ∃ u₀, Http.address base ["configs", c.appId, c.cluster, m.sync.ns] = .ok u₀
            ∧ u = u₀.withPairs (c.pairs flight.previous.release flight.messages)
            ∧ highest? k (FetchConfig.told (c.pairs flight.previous.release flight.messages))
              = highest? k m.inFlight := by
  refine ⟨?_, ?_, ?_⟩
  · have haccount := run.highest?_account (k := k) hc
    have hwaiting : (SyncMachine.start (L := L) frame.setting f₀ ns now).1.waiting = [] :=
      congrArg Option.toList (Sync.pending_start ..)
    have hidle : (SyncMachine.start (L := L) frame.setting f₀ ns now).1.inFlight = [] :=
      SyncMachine.inFlight_of_none rfl
    rw [hwaiting, hidle] at haccount
    exact haccount.symm
  · rintro h₁ h₂ s caller rfl hmove hnone ⟨t, ht, hfailed⟩
    -- The run is cut where the refresh begins, which is where it takes what waits.
    obtain ⟨_, hstep⟩ := run.step_of_mem (s := s) (by simp)
    rw [hmove] at hstep
    have htaken := SyncMachine.retains_of_enter (k := k) (SyncMachine.step_of_step? hstep)
    exact (run.cut.2.least_le_of_ended htaken hnone).2 t ht caller hfailed
  · intro caller flight hactive hfitting c base u hu
    obtain ⟨u₀, hu₀, rfl⟩ := FetchConfig.address_eq_ok_iff.1 hu
    refine ⟨u₀, hu₀, rfl, ?_⟩
    rw [FetchConfig.highest?_told hfitting, SyncMachine.inFlight_of_some hactive]
    rfl

/-- Messages that are announced while a fetch fails, and those that it had taken, wait together. The
request of the fetch has told those that it had taken. -/
theorem highest?_announced_failed_fetch :
    ∃ (h₁ h₂ : List (SyncStep Unit)) (s : SyncStep Unit) (m : SyncMachine Unit) (f : Files),
      SyncRun .plain (SyncMachine.start SyncFrame.plain.setting {} "app" 0).1 {} (h₁ ++ s :: h₂) m f
        ∧ Completed (h₁ ++ s :: h₂) ∧ s.move = .enter workerId
        ∧ (∃ t ∈ h₂, SyncEvent.ended workerId .failed ∈ t.events)
        ∧ (∀ k, highest? k (announced (h₁ ++ s :: h₂))
            = highest? k (m.waiting ++ m.inFlight ++ carried (h₁ ++ s :: h₂))
          ∧ highest? k s.before.waiting ≤ highest? k m.waiting)
        ∧ ∃ (h : List (SyncStep Unit)) (m : SyncMachine Unit) (f : Files) (flight : Flight)
          (c : FetchConfig) (u : Url),
          SyncRun .plain (SyncMachine.start SyncFrame.plain.setting {} "app" 0).1 {} h m f
            ∧ m.active = some ⟨workerId, .fetching flight⟩
            ∧ c.address "http://[::1]/" m.sync.ns flight.previous.release flight.messages = .ok u
            ∧ highest? "a" (FetchConfig.told (c.pairs flight.previous.release flight.messages))
              = some 5 := by
  have hplayed := SyncRun.exists_of_play? .plain
    (SyncMachine.start SyncFrame.plain.setting {} "app" 0).1 {}
    [(0, .announce (some (.ofList [("a", 5), ("b", 1)]))), (0, .launch), (0, .enter workerId),
      (0, .permit), (0, .announce (some (.ofList [("b", 2)]))),
      (0, .answer (.error .noEndpoint) {})]
    (fun seen => seen.1.length == 6 && (seen.1.drop 3).any fun t => t.events.any fun e =>
      e.failed? == some workerId)
    (by decide)
  obtain ⟨h, m, f, run, hmoves, hseen⟩ := hplayed
  simp only [Bool.and_eq_true, beq_iff_eq, List.any_eq_true] at hseen
  obtain ⟨hlength, t, ht, e, he, hfailed⟩ := hseen
  obtain rfl := SyncEvent.failed?_eq_some_iff.1 hfailed
  -- The third move is the one with which the refresh begins.
  have hsplit : h = h.take 2 ++ h[2] :: h.drop 3 := by simp
  have hcompleted : Completed h := by simp [completed_iff_moves, hmoves]
  have henter : h[2].move = .enter workerId := by
    have hthird := congrArg (·[2]?) hmoves
    simpa [List.getElem?_eq_getElem (show 2 < h.length by omega)] using hthird
  have hnone : ∀ t ∈ h.drop 3, ∀ c, t.move ≠ .enter c := by
    have hrest : ∀ move ∈ (h.drop 3).map SyncStep.move, ∀ c, move ≠ .enter c := by
      rw [List.map_drop, hmoves]
      simp
    exact fun t ht => hrest _ (List.mem_map_of_mem ht)
  have hended : ∃ t ∈ h.drop 3, SyncEvent.ended workerId .failed ∈ t.events := ⟨t, ht, he⟩
  refine ⟨h.take 2, h.drop 3, h[2], m, f, hsplit ▸ run, hsplit ▸ hcompleted, henter, hended,
    fun k => ?_, ?_⟩
  · obtain ⟨haccount, hback, -⟩ := run.highest?_announced hcompleted k
    exact ⟨hsplit ▸ haccount, hback _ _ _ workerId hsplit henter hnone hended⟩
  · let flight : Flight := ⟨some (.ofList [("a", 5), ("b", 1)]), .empty "app"⟩
    let c : FetchConfig := { appId := "demo", cluster := "default" }
    obtain ⟨h, m, f, run, hmoves, hseen⟩ := SyncRun.exists_of_play? .plain
      (SyncMachine.start SyncFrame.plain.setting {} "app" 0).1 {}
      [(0, .announce (some (.ofList [("a", 5), ("b", 1)]))), (0, .launch), (0, .enter workerId),
        (0, .permit)]
      (fun seen => seen.2.1.active = some ⟨workerId, .fetching flight⟩ && seen.2.1.sync.ns = "app")
      (by decide)
    simp only [Bool.and_eq_true, decide_eq_true_eq] at hseen
    obtain ⟨hactive, hns⟩ := hseen
    have hcompleted : Completed h := by simp [completed_iff_moves, hmoves]
    have hbase : (Http.address "http://[::1]/"
        ["configs", c.appId, c.cluster, "app"]).isOk = true := by decide +kernel
    cases hu₀ : Http.address "http://[::1]/" ["configs", c.appId, c.cluster, "app"] with
    | error e => simp [hu₀, Except.isOk, Except.toBool] at hbase
    | ok u₀ =>
      have hu : c.address "http://[::1]/" "app" flight.previous.release flight.messages
          = .ok (u₀.withPairs (c.pairs flight.previous.release flight.messages)) :=
        FetchConfig.address_eq_ok_iff.2 ⟨u₀, hu₀, rfl⟩
      obtain ⟨-, -, htold⟩ := run.highest?_announced hcompleted "a"
      rw [← hns] at hu
      obtain ⟨-, -, -, hhighest⟩ :=
        htold workerId flight hactive (by decide) c "http://[::1]/" _ hu
      refine ⟨h, m, f, flight, c, _, run, hactive, hu, hhighest.trans ?_⟩
      rw [SyncMachine.inFlight_of_some hactive]
      decide

end SyncRun

end LiveConfig
