import LiveConfig.Sync.Event
import LiveConfig.Text.Quoted
import LiveConfig.View.Basic

/-!
# Queries

Everything that can be asked of a view, as data, with what is answered and what is reported to the
operators. Only a value that cannot be read as the type it was asked for is reported.

## Main statements

- `answer_keys`: the keys are those of the shown snapshot.
- `report?_eq_none`: a question for anything but a typed value reports nothing.
-/

namespace LiveConfig

/-! ## §1 Questions and answers -/

/-- A question to a view. -/
inductive ViewQuery
  | get (key : String)
  | getOr (key default : String)
  | getList (key delimiter : String)
  /-- A typed value, with another one for when there is none. -/
  | getParsed (key : String) (t : ValueType) (default : Option ParsedValue)
  | keys
  | content
  | properties
  | summary
  | current
  /-- The shown snapshot as if it came from somewhere else. -/
  | withSource (source : Provenance)

/-- What is said about a view as a whole. -/
structure ViewSummary where
  ns : String
  format : Format
  release : Option String
  source : Provenance
  listeners : Nat
deriving DecidableEq, Repr

/-- An answer of a view. -/
inductive ViewAnswer
  | text (s : Option String)
  | texts (l : List String)
  | entries (r : Except Format.ViewError Entries)
  | summary (s : ViewSummary)
  | snapshot (s : Snapshot)

namespace View

variable {L : Type}

/-- What is said about the view as a whole. -/
def summary (v : View L) : ViewSummary :=
  ⟨v.ns, v.format, v.snapshot.release, v.snapshot.source, v.listeners.size⟩

/-- The value that was read, or the other one. -/
def Reading.valueOr (default : Option ParsedValue) : Reading → Option ParsedValue
  | .read value => some value
  | .missing | .unreadable _ => default

/-- **The answer to a question.** -/
def answer (v : View L) : ViewQuery → ViewAnswer
  | .get key => .text (v.get? key)
  | .getOr key default => .text (some (v.getOr key default))
  | .getList key delimiter => .texts (v.getList key delimiter)
  | .getParsed key t default =>
    .text (((v.getParsed key t).valueOr default).map ParsedValue.toText)
  | .keys => .texts v.keys
  | .content => .text v.content?
  | .properties => .entries v.properties
  | .summary => .summary v.summary
  | .current => .snapshot v.snapshot
  | .withSource source => .snapshot (v.snapshot.withSource source)

/-- What a question makes the view report, if anything. -/
def report? (v : View L) : ViewQuery → Option LogLine
  | .getParsed key t _ =>
    match v.getParsed key t with
    | .unreadable raw => some (SyncEvent.unparsedLine v.ns key raw)
    | .missing | .read _ => none
  | _ => none

/-- The keys are those of the shown snapshot. -/
theorem answer_keys (v : View L) : v.answer .keys = .texts v.snapshot.entries.keys := rfl

/-- A question for anything but a typed value reports nothing. -/
theorem report?_eq_none (v : View L) (q : ViewQuery)
    (h : ∀ key t default, q ≠ .getParsed key t default) : v.report? q = none := by
  cases q with
  | getParsed key t default => exact absurd rfl (h key t default)
  | _ => rfl

/-! ## §2 Texts for developers -/

/-- A text that may be missing, in a text for developers. -/
def optionText (s : Option String) : String :=
  match s with
  | some s => "Some(" ++ Text.quoted s ++ ")"
  | none => "None"

/-- The name of a provenance in a text for developers. -/
def sourceText : Provenance → String
  | .remote => "Remote"
  | .localFallback => "LocalFallback"
  | .none => "None"

/-- The view in one line. -/
def text (v : View L) : String :=
  "SnapshotView \x7b namespace: " ++ Text.quoted v.ns ++ ", format: " ++ v.format.name
    ++ ", release_key: " ++ optionText v.snapshot.release ++ ", source: "
    ++ sourceText v.snapshot.source ++ ", listeners: " ++ Number.decimalText v.listeners.size
    ++ " \x7d"

end View

/-! ## §3 Sessions -/

/-- A step of a session with a view. -/
inductive ViewStep
  | query (q : ViewQuery)
  | subscribe (filter : ListenerFilter)
  | unsubscribe (id : Nat)

/-- What a step of a session gives. -/
inductive ViewResult
  | answer (a : ViewAnswer)
  | subscribed (id : Nat)
  | unsubscribed (found : Bool)

namespace View

/-- One step of a session: the result, the view, and what was reported. -/
def step (v : View Unit) : ViewStep → ViewResult × View Unit × List LogLine
  | .query q => (.answer (v.answer q), v, (v.report? q).toList)
  | .subscribe filter =>
    let (id, v) := v.subscribe () filter
    (.subscribed id, v, [])
  | .unsubscribe id =>
    let (found, v) := v.unsubscribe id
    (.unsubscribed found, v, [])

/-- **A session with a view**: the results and what was reported, in order. -/
def session (v : View Unit) : List ViewStep → List ViewResult × List LogLine
  | [] => ([], [])
  | s :: rest =>
    let (result, v, lines) := v.step s
    let (results, more) := v.session rest
    (result :: results, lines ++ more)

end View

end LiveConfig
