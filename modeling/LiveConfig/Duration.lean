import LiveConfig.Number.FloatText

/-!
# Durations

Spans of time in whole nanoseconds, up to the largest one whose seconds fit into sixty-four bits.

## Main statements

- `add?_eq_some_iff`, `add?_eq_none_iff`: a sum exists exactly when it stays below the bound.
- `lt_of_add?`: adding a positive span to a span makes it longer.
- `le_of_after`: a moment after another does not come before it.
-/

namespace LiveConfig

/-- A moment, in nanoseconds since the program began. -/
abbrev Instant := Nat

/-- A span of time. -/
@[ext] structure Duration where
  nanos : Nat
  inRange : nanos < UInt64.size * 1000000000 := by decide
deriving DecidableEq

namespace Duration

instance : Inhabited Duration := ⟨⟨0, by decide⟩⟩

instance : LT Duration := ⟨fun a b => a.nanos < b.nanos⟩
instance : LE Duration := ⟨fun a b => a.nanos ≤ b.nanos⟩
instance (a b : Duration) : Decidable (a < b) := inferInstanceAs (Decidable (a.nanos < b.nanos))
instance (a b : Duration) : Decidable (a ≤ b) := inferInstanceAs (Decidable (a.nanos ≤ b.nanos))

/-! ## §1 Constructors -/

/-- No time at all. -/
def zero : Duration := ⟨0, by decide⟩

/-- A span of whole seconds. -/
def ofSecs (s : UInt64) : Duration :=
  ⟨s.toNat * 1000000000, by have := s.toNat_lt_size; omega⟩

/-- A span of whole milliseconds. -/
def ofMillis (ms : UInt64) : Duration :=
  ⟨ms.toNat * 1000000, by have := ms.toNat_lt_size; omega⟩

/-- A span of whole nanoseconds. -/
def ofNanos (ns : UInt64) : Duration := ⟨ns.toNat, by have := ns.toNat_lt_size; omega⟩

/-- The span of so many nanoseconds, if it is in range. -/
def ofNanos? (n : Nat) : Option Duration :=
  if h : n < UInt64.size * 1000000000 then some ⟨n, h⟩ else none

/-- The span between two moments, zero if the second comes first. -/
def between (since now : Instant) : Duration := (ofNanos? (now - since)).getD zero

/-- Whether no time passes. -/
def isZero (d : Duration) : Bool := d.nanos == 0

/-- Whole seconds, rounded down. -/
def secs (d : Duration) : Nat := d.nanos / 1000000000

/-- Whole milliseconds, rounded down. -/
def millis (d : Duration) : Nat := d.nanos / 1000000

/-- The sum of two spans, if it is in range. -/
def add? (a b : Duration) : Option Duration := ofNanos? (a.nanos + b.nanos)

/-- Why two spans have no sum. -/
inductive SumError
  | overflow
deriving DecidableEq, Repr

/-- What a failed sum says. -/
def SumError.message : SumError → String
  | .overflow => "overflow when adding durations"

/-- The sum of two spans, or that it is out of range. -/
def sum (a b : Duration) : Except SumError Duration :=
  match a.add? b with
  | some c => .ok c
  | none => .error .overflow

/-- The least span of whole milliseconds that is not shorter, as a number of milliseconds. -/
def ceilMillis (d : Duration) : Nat := (d.nanos + 999999) / 1000000

/-- The longest pause, in milliseconds: thirty years of 365 days. -/
def longestPause : Nat := 30 * 365 * 86400000

/-- How long a pause of so many milliseconds lasts. -/
def pause (millis : Nat) : Nat := min millis longestPause

theorem pause_le (millis : Nat) : pause millis ≤ millis := Nat.min_le_left millis longestPause

/-- A sum exists exactly when it stays below the bound. -/
theorem add?_eq_some_iff (a b c : Duration) :
    a.add? b = some c ↔ c.nanos = a.nanos + b.nanos := by
  unfold add? ofNanos?
  constructor
  · intro h
    split at h
    · cases h; rfl
    · cases h
  · intro h
    have hlt : a.nanos + b.nanos < UInt64.size * 1000000000 := h ▸ c.inRange
    rw [dif_pos hlt]
    exact congrArg some (Duration.ext h.symm)

theorem add?_eq_none_iff (a b : Duration) :
    a.add? b = none ↔ UInt64.size * 1000000000 ≤ a.nanos + b.nanos := by
  unfold add? ofNanos?
  rw [dite_eq_right_iff]
  simp

theorem sum_eq_ok_iff (a b c : Duration) : a.sum b = .ok c ↔ a.add? b = some c := by
  unfold sum
  cases a.add? b <;> simp

theorem sum_eq_error_iff (a b : Duration) (e : SumError) :
    a.sum b = .error e ↔ a.add? b = none := by
  unfold sum
  cases a.add? b <;> simp

/-- Adding a positive span makes a span longer. -/
theorem lt_of_add? {a b c : Duration} (h : a.add? b = some c) (hb : zero < b) : a < c := by
  have hc := (add?_eq_some_iff a b c).1 h
  have : 0 < b.nanos := hb
  show a.nanos < c.nanos
  omega

/-! ## §2 Moments -/

/-- Why there is no moment after another. -/
inductive MomentError
  | overflow
deriving DecidableEq, Repr

/-- What is said about a moment that does not exist. -/
def MomentError.message : MomentError → String
  | .overflow => "overflow when adding duration to instant"

/-- A clock counts its seconds below this bound. It ran before the program began. -/
def lastSecond : Nat := (1 <<< 63) - 1

/-- The moment so long after another, unless no clock counts so far. -/
def after (now : Instant) (d : Duration) : Except MomentError Instant :=
  if now / 1000000000 + d.secs < lastSecond then .ok (now + d.nanos) else .error .overflow

/-- A moment after another does not come before it. -/
theorem le_of_after {now moment : Instant} {d : Duration} (h : after now d = .ok moment) :
    now ≤ moment := by
  unfold after at h
  split at h
  · cases h
    exact Nat.le_add_right now d.nanos
  · cases h

/-! ## §3 Seconds as doubles -/

/-- Why a number of seconds is no span of time. -/
inductive SecondsError
  | negative
  | tooLarge
deriving DecidableEq, Repr

/-- What a failed conversion from seconds says. -/
def SecondsError.message : SecondsError → String
  | .negative => "cannot convert float seconds to Duration: value is negative"
  | .tooLarge => "cannot convert float seconds to Duration: value is either too big or NaN"

/-- The span in seconds as a double: whole seconds and the fraction are converted one by one. -/
def toSeconds (d : Duration) : Float :=
  (UInt64.ofNat d.secs).toFloat + (UInt64.ofNat (d.nanos % 1000000000)).toFloat / 1000000000.0

/-- The span nearest to a number of seconds; a tie goes to the even nanosecond. -/
def ofSeconds (x : Float) : Except SecondsError Duration :=
  match Number.Binary64.ofFloat x with
  | .nan => .error .tooLarge
  | .infinite true => .error .negative
  | .infinite false => .error .tooLarge
  | .finite negative m q =>
    if negative && m ≠ 0 then .error .negative
    else
      let nanos := Number.roundDiv ((m <<< q.toNat) * 1000000000) (1 <<< (-q).toNat)
      match ofNanos? nanos with
      | some d => .ok d
      | none => .error .tooLarge

/-! ## §4 Text -/

/-- Digits of a fraction of `width` places, without trailing zeros. -/
def fractionDigits (width n : Nat) : List Char :=
  let ds := Number.decimal n
  let padded := List.replicate (width - ds.length) '0' ++ ds
  (padded.reverse.dropWhile (· == '0')).reverse

/-- A whole number of units and a fraction of one, with the unit behind. -/
def unitText (whole width fraction : Nat) (unit : String) : String :=
  let ds := fractionDigits width fraction
  let tail := if ds.isEmpty then [] else '.' :: ds
  String.ofList (Number.decimal whole ++ tail) ++ unit

/-- The span in its largest unit among seconds, milliseconds, microseconds and nanoseconds. -/
def text (d : Duration) : String :=
  if 1000000000 ≤ d.nanos then unitText (d.nanos / 1000000000) 9 (d.nanos % 1000000000) "s"
  else if 1000000 ≤ d.nanos then unitText (d.nanos / 1000000) 6 (d.nanos % 1000000) "ms"
  else if 1000 ≤ d.nanos then unitText (d.nanos / 1000) 3 (d.nanos % 1000) "µs"
  else unitText d.nanos 0 0 "ns"

/-- The span in seconds with all nine places. -/
def fixedText (d : Duration) : String :=
  let ds := Number.decimal (d.nanos % 1000000000)
  String.ofList
    (Number.decimal d.secs ++ '.' :: (List.replicate (9 - ds.length) '0' ++ ds))

end Duration

end LiveConfig
