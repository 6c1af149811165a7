import LiveConfig.Health
import Mathlib.Algebra.Ring.Nat
import Mathlib.Data.List.DropRight

/-!
# Which failures are reported

Between two resets the log reports the first failure, and from then on a failure as soon as the
interval has passed since the last report; each report says how many were held back before it. The
log itself knows only when its window began and how many it holds back. What ties these two to the
reports is kept by every call, and everything else is read off it.

The counter never exceeds the failures of its stretch, so 64 bits hold it as long as they hold that
number.

## Layout

- **§1** the two things that recording a failure can do;
- **§2** the failures since the last reset, with what became of each;
- **§3** what one more failure keeps, and then any calls.

## Main statements

- `record_of_due`, `record_of_not_due`: a failure is reported, or it is held back.
- `Tied.next`: after every call the window begins with the last report, and what is held back came
  after it.
- `Accounted.failure`: one more failure leaves all failures accounted for.
- `accounted_stretch`: after any calls they are.
- `reported_or_counted`: every stretch of failures between two resets.
-/

namespace LiveConfig.FailureLog

variable {interval : Duration} {now : Instant} {l : FailureLog}

/-! ## §1 One failure -/

/-- No window has begun, or the interval has passed since then. -/
def Due (interval : Duration) (now : Instant) (l : FailureLog) : Prop :=
  ∀ start ∈ l.windowStart, interval.nanos ≤ now - start

/-- A failure that is due is reported, and opens a window. -/
theorem record_of_due (h : l.Due interval now) :
    l.record interval now = (⟨some now, 0⟩, some l.suppressed) := by
  unfold record
  split
  · next start hstart => rw [if_neg (Nat.not_lt.2 (h start hstart))]
  · rfl

/-- Any other failure is held back. -/
theorem record_of_not_due (h : ¬l.Due interval now) :
    l.record interval now = ({ l with suppressed := l.suppressed + 1 }, none) := by
  simp only [Due, not_forall, Nat.not_le] at h
  obtain ⟨start, hstart, hrecent⟩ := h
  have hwindow : l.windowStart = some start := hstart
  simp only [record, hwindow, if_pos hrecent]

theorem record_isSome_iff : (l.record interval now).2.isSome = true ↔ l.Due interval now := by
  by_cases h : l.Due interval now
  · simp [record_of_due h, h]
  · simp [record_of_not_due h, h]

theorem eq_suppressed_of_record {n : Nat} (h : (l.record interval now).2 = some n) :
    n = l.suppressed := by
  by_cases hdue : l.Due interval now
  · rw [record_of_due hdue] at h
    exact (Option.some.inj h).symm
  · rw [record_of_not_due hdue] at h
    cases h

/-! ## §2 Failures since the last reset -/

/-- What the log is told. -/
inductive Call
  /-- There was a failure. -/
  | failure (now : Instant)
  /-- There was an answer. -/
  | reset
deriving DecidableEq

/-- When a failure was recorded. -/
def Call.moment? : Call → Option Instant
  | .failure now => some now
  | .reset => none

/-- A failure that was recorded. -/
structure Entry where
  moment : Instant
  /-- What was reported with it: nothing, or how many failures had been held back before it. -/
  report : Option Nat
deriving DecidableEq

/-- The failure was reported. -/
def Entry.isLoud (e : Entry) : Bool := e.report.isSome

/-- The log, with the failures that it has recorded since it was last reset. -/
structure Stretch where
  log : FailureLog := {}
  entries : List Entry := []
deriving DecidableEq

/-- One call. -/
def Stretch.next (interval : Duration) (s : Stretch) : Call → Stretch
  | .failure now =>
    let (log, report) := s.log.record interval now
    ⟨log, s.entries ++ [⟨now, report⟩]⟩
  | .reset => ⟨s.log.reset, []⟩

/-- **The stretch of failures** that a new log is in after some calls. -/
def stretch (interval : Duration) (calls : List Call) : Stretch :=
  calls.foldl (Stretch.next interval) {}

/-- The moments of the reports among failures. -/
def loudMoments (entries : List Entry) : List Instant :=
  (entries.filter Entry.isLoud).map Entry.moment

/-- What the reports among failures say: the numbers held back before each of them. -/
def carried (entries : List Entry) : List Nat := entries.filterMap Entry.report

/-- How many failures came after the last report. -/
def heldBack (entries : List Entry) : Nat := (entries.rtakeWhile fun e => !e.isLoud).length

section Entries

variable {entries : List Entry} {n : Nat}

theorem loudMoments_loud :
    loudMoments (entries ++ [⟨now, some n⟩]) = loudMoments entries ++ [now] := by
  rw [loudMoments, List.filter_append, List.map_append]
  rfl

theorem loudMoments_quiet : loudMoments (entries ++ [⟨now, none⟩]) = loudMoments entries := by
  rw [loudMoments, List.filter_append, List.map_append]
  exact List.append_nil _

theorem heldBack_loud : heldBack (entries ++ [⟨now, some n⟩]) = 0 := by
  rw [heldBack, List.rtakeWhile_concat_neg _ _ _ Bool.false_ne_true]
  rfl

theorem heldBack_quiet : heldBack (entries ++ [⟨now, none⟩]) = heldBack entries + 1 := by
  rw [heldBack, List.rtakeWhile_concat_pos _ _ _ rfl, List.length_append]
  rfl

theorem carried_concat (e : Entry) :
    carried (entries ++ [e]) = carried entries ++ e.report.toList := by
  cases h : e.report <;> simp [carried, h]

/-- One failure among others and one more: it is that one, or it is one of the others. -/
theorem eq_or_prefix_of_prefix_concat {earlier : List Entry} {e new : Entry}
    (h : earlier ++ [e] <+: entries ++ [new]) :
    earlier = entries ∧ e = new ∨ earlier ++ [e] <+: entries := by
  rcases List.prefix_concat_iff.1 h with hall | hpart
  · obtain ⟨hearlier, hlast⟩ := List.append_inj' hall rfl
    exact .inl ⟨hearlier, List.singleton_inj.1 hlast⟩
  · exact .inr hpart

end Entries

/-- The state of the log says when the last report was made, and how many failures came after it. -/
structure Stretch.Tied (s : Stretch) : Prop where
  windowStart_eq : s.log.windowStart = (loudMoments s.entries).getLast?
  suppressed_eq : s.log.suppressed = heldBack s.entries

/-- **What becomes of failures** in a stretch. -/
structure Stretch.Accounted (interval : Duration) (s : Stretch) : Prop where
  /-- Any two reports are at least the interval apart. -/
  apart : (loudMoments s.entries).Pairwise fun a b => a + interval.nanos ≤ b
  /-- A failure is reported exactly if none before it was, or the interval has passed since the last
  one that was. -/
  loud_iff : ∀ earlier e, earlier ++ [e] <+: s.entries →
    (e.isLoud = true ↔ ∀ last ∈ (loudMoments earlier).getLast?, last + interval.nanos ≤ e.moment)
  /-- A report says how many failures came since the one before it. -/
  carried_eq : ∀ earlier e n, earlier ++ [e] <+: s.entries → e.report = some n →
    n = heldBack earlier
  /-- The reports, what they say, and what is still held back are all failures together. -/
  balance : (carried s.entries).length + (carried s.entries).sum + s.log.suppressed
    = s.entries.length

theorem Stretch.Accounted.nil : ({} : Stretch).Accounted interval where
  apart := List.Pairwise.nil
  loud_iff earlier e h := by simp at h
  carried_eq earlier e n h := by simp at h
  balance := rfl

/-! ## §3 Calls one after the other -/

namespace Stretch

variable {s : Stretch}

theorem next_failure : s.next interval (.failure now)
    = ⟨(s.log.record interval now).1, s.entries ++ [⟨now, (s.log.record interval now).2⟩]⟩ := rfl

/-- **Every call keeps the window and the counter tied** to the reports. -/
theorem Tied.next (hs : Tied s) (c : Call) : Tied (s.next interval c) := by
  cases c with
  | reset => exact ⟨rfl, rfl⟩
  | failure now =>
    by_cases hdue : s.log.Due interval now
    · simp only [next_failure, record_of_due hdue]
      refine ⟨?_, heldBack_loud.symm⟩
      rw [loudMoments_loud, List.getLast?_concat]
    · simp only [next_failure, record_of_not_due hdue]
      refine ⟨?_, ?_⟩
      · rw [loudMoments_quiet]
        exact hs.windowStart_eq
      · rw [heldBack_quiet, ← hs.suppressed_eq]

/-- Whether a failure is due, from the reports before it. -/
theorem Tied.due_iff (interval : Duration) (hs : Tied s)
    (horder : ∀ e ∈ s.entries, e.moment ≤ now) :
    s.log.Due interval now
      ↔ ∀ last ∈ (loudMoments s.entries).getLast?, last + interval.nanos ≤ now := by
  rw [Due, hs.windowStart_eq]
  refine forall₂_congr fun last hlast => ?_
  obtain ⟨e, he, rfl⟩ := List.mem_map.1 (List.mem_of_getLast? hlast)
  exact Nat.le_sub_iff_add_le' (horder e (List.mem_filter.1 he).1)

/-- Once the interval has passed since the last report, it has passed since all of them. -/
theorem Accounted.passed (hs : s.Accounted interval)
    (hlast : ∀ last ∈ (loudMoments s.entries).getLast?, last + interval.nanos ≤ now) :
    ∀ a ∈ loudMoments s.entries, a + interval.nanos ≤ now := by
  intro a ha
  rcases List.eq_nil_or_concat (loudMoments s.entries) with hnone | ⟨front, last, hsplit⟩
  · rw [hnone] at ha
    cases ha
  · rw [List.concat_eq_append] at hsplit
    have hapart := hs.apart
    rw [hsplit] at ha hapart hlast
    have hpassed : last + interval.nanos ≤ now := hlast last List.getLast?_concat
    rcases List.mem_append.1 ha with hfront | ha
    · -- An earlier report lies the interval before the last one already.
      have hbefore : a + interval.nanos ≤ last :=
        (List.pairwise_append.1 hapart).2.2 a hfront last (List.mem_singleton_self last)
      exact hbefore.trans ((Nat.le_add_right last _).trans hpassed)
    · rw [List.mem_singleton.1 ha]
      exact hpassed

/-- **One more failure** leaves all failures accounted for. -/
theorem Accounted.failure (hs : s.Accounted interval) (htied : Tied s)
    (horder : ∀ e ∈ s.entries, e.moment ≤ now) :
    (s.next interval (.failure now)).Accounted interval := by
  have hdue := htied.due_iff interval horder
  refine ⟨?apart, fun earlier e hprefix => ?loud, fun earlier e n hprefix hreport => ?carried,
    ?balance⟩
  case apart =>
    by_cases h : s.log.Due interval now
    · simp only [next_failure, record_of_due h]
      rw [loudMoments_loud, List.pairwise_append]
      refine ⟨hs.apart, List.pairwise_singleton _ now, fun a ha b hb => ?_⟩
      rw [List.mem_singleton.1 hb]
      exact hs.passed (hdue.1 h) a ha
    · simp only [next_failure, record_of_not_due h]
      rw [loudMoments_quiet]
      exact hs.apart
  case loud =>
    rcases eq_or_prefix_of_prefix_concat hprefix with ⟨rfl, rfl⟩ | hpart
    · exact record_isSome_iff.trans hdue
    · exact hs.loud_iff earlier e hpart
  case carried =>
    rcases eq_or_prefix_of_prefix_concat hprefix with ⟨rfl, rfl⟩ | hpart
    · -- What was held back came after the last report, and goes into this one.
      rw [← htied.suppressed_eq]
      exact eq_suppressed_of_record hreport
    · exact hs.carried_eq earlier e n hpart hreport
  case balance =>
    have hbefore := hs.balance
    have hone := record_conserves interval now s.log
    simp only [next_failure, carried_concat, List.length_append, List.sum_append,
      List.length_singleton]
    cases h : (s.log.record interval now).2 with
    | none =>
      rw [h] at hone
      simp only [Option.map_none, Option.getD_none, Option.toList_none, List.length_nil,
        List.sum_nil] at hone ⊢
      omega
    | some n =>
      rw [h] at hone
      simp only [Option.map_some, Option.getD_some, Option.toList_some, List.length_singleton,
        List.sum_singleton] at hone ⊢
      omega

/-- The first failure is reported, with nothing held back before it. -/
theorem Accounted.first (hs : s.Accounted interval) :
    ∀ e ∈ s.entries.head?, e.report = some 0 := by
  intro e he
  obtain ⟨rest, hentries⟩ := List.head?_eq_some_iff.1 he
  have hfirst : [] ++ [e] <+: s.entries := hentries ▸ List.prefix_append [e] rest
  have hloud : e.isLoud = true := (hs.loud_iff [] e hfirst).2 nofun
  obtain ⟨n, hreport⟩ := Option.isSome_iff_exists.1 hloud
  rw [hreport, hs.carried_eq [] e n hfirst hreport]
  rfl

end Stretch

variable {calls earlier later : List Call} {moments : List Instant}

theorem stretch_concat (c : Call) :
    stretch interval (calls ++ [c]) = (stretch interval calls).next interval c :=
  List.foldl_concat ..

theorem tied_stretch (interval : Duration) (calls : List Call) :
    (stretch interval calls).Tied := by
  induction calls using List.reverseRecOn with
  | nil => exact ⟨rfl, rfl⟩
  | append_singleton calls c ih =>
    rw [stretch_concat]
    exact ih.next c

/-- Only failures that the log was told of are recorded. -/
theorem moment_mem_of_mem_entries {e : Entry} (he : e ∈ (stretch interval calls).entries) :
    e.moment ∈ calls.filterMap Call.moment? := by
  induction calls using List.reverseRecOn with
  | nil => cases he
  | append_singleton calls c ih =>
    rw [stretch_concat] at he
    rw [List.filterMap_append, List.mem_append]
    cases c with
    | reset => cases he
    | failure now =>
      rcases List.mem_append.1 he with he | he
      · exact .inl (ih he)
      · rw [List.mem_singleton.1 he]
        exact .inr (List.mem_singleton_self now)

/-- **After any calls** the failures since the last reset are accounted for. -/
theorem accounted_stretch (horder : (calls.filterMap Call.moment?).Pairwise (· ≤ ·)) :
    (stretch interval calls).Accounted interval := by
  -- By induction on the calls: the tie between the log and the reports says which failure is due,
  -- and a reset begins a stretch in which there is nothing to account for.
  induction calls using List.reverseRecOn with
  | nil => exact .nil
  | append_singleton calls c ih =>
    rw [List.filterMap_append, List.pairwise_append] at horder
    obtain ⟨hbefore, -, hlater⟩ := horder
    rw [stretch_concat]
    cases c with
    | reset => exact .nil
    | failure now =>
      exact (ih hbefore).failure (tied_stretch interval calls) fun e he =>
        hlater e.moment (moment_mem_of_mem_entries he) now (List.mem_singleton_self now)

/-- What came before a reset leaves no trace. -/
theorem stretch_append (hbegins : ∀ c ∈ earlier.getLast?, c = .reset) :
    stretch interval (earlier ++ calls) = stretch interval calls := by
  have hfresh : stretch interval earlier = {} := by
    rcases List.eq_nil_or_concat earlier with rfl | ⟨front, c, rfl⟩
    · rfl
    · -- A reset log is a new one.
      rw [List.concat_eq_append] at hbegins ⊢
      rw [stretch_concat, hbegins c List.getLast?_concat]
      rfl
  rw [stretch, List.foldl_append, ← stretch, hfresh, stretch]

/-- The failures of a stretch are recorded one after the other. -/
theorem moments_stretch (interval : Duration) (moments : List Instant) :
    (stretch interval (moments.map .failure)).entries.map Entry.moment = moments := by
  induction moments using List.reverseRecOn with
  | nil => rfl
  | append_singleton moments now ih =>
    rw [List.map_append, List.map_singleton, stretch_concat]
    show ((stretch interval (moments.map .failure)).entries ++ [_]).map Entry.moment = _
    rw [List.map_append, ih]
    rfl

/-- **A failure is reported or counted**: however the log was used, wherever its calls stand in a
stretch of failures that began with a reset, or with the log. The first failure of the stretch is
reported, with nothing held back before it; reports are at least the interval apart, and a failure
that comes the interval after the last report is one; and the reports, what they carry, and what is
still held back are exactly the failures of the stretch. -/
theorem reported_or_counted (interval : Duration)
    (horder : (calls.filterMap Call.moment?).Pairwise (· ≤ ·))
    (hcalls : calls = earlier ++ moments.map .failure ++ later)
    (hbegins : ∀ c ∈ earlier.getLast?, c = .reset) :
    (stretch interval (earlier ++ moments.map .failure)).entries.map Entry.moment = moments
      ∧ (∀ e ∈ (stretch interval (earlier ++ moments.map .failure)).entries.head?,
        e.report = some 0)
      ∧ (stretch interval (earlier ++ moments.map .failure)).Accounted interval := by
  have hfailures : (stretch interval (earlier ++ moments.map .failure)).Accounted interval := by
    rw [hcalls, List.filterMap_append] at horder
    exact accounted_stretch (List.pairwise_append.1 horder).1
  refine ⟨?_, hfailures.first, hfailures⟩
  rw [stretch_append hbegins]
  exact moments_stretch interval moments

/-- Two failures at one moment, one just before a minute has passed, one at its end, one more. -/
def aroundMinute : List Instant := [1000000000, 1000000000, 60999999999, 61000000000, 62000000000]

theorem reported_or_counted_around_minute :
    (([.failure 0, .reset] ++ aroundMinute.map .failure ++ [.reset, .failure 62000000000]
        : List Call).filterMap Call.moment?).Pairwise (· ≤ ·)
      ∧ (∀ c ∈ ([.failure 0, .reset] : List Call).getLast?, c = .reset)
      ∧ stretch (.ofSecs 60) ([.failure 0, .reset] ++ aroundMinute.map .failure)
        = ⟨⟨some 61000000000, 1⟩,
          [⟨1000000000, some 0⟩, ⟨1000000000, none⟩, ⟨60999999999, none⟩, ⟨61000000000, some 2⟩,
            ⟨62000000000, none⟩]⟩
      ∧ (stretch (.ofSecs 60) ([.failure 0, .reset] ++ aroundMinute.map .failure)).Accounted
        (.ofSecs 60) := by
  have horder : (([.failure 0, .reset] ++ aroundMinute.map .failure
      ++ [.reset, .failure 62000000000] : List Call).filterMap Call.moment?).Pairwise (· ≤ ·) := by
    decide
  have hbegins : ∀ c ∈ ([.failure 0, .reset] : List Call).getLast?, c = .reset := by decide
  exact ⟨horder, hbegins, by decide +kernel,
    (reported_or_counted (.ofSecs 60) horder rfl hbegins).2.2⟩

end LiveConfig.FailureLog
