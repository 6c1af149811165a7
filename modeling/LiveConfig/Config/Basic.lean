import LiveConfig.Backoff
import LiveConfig.Text.Blank

/-!
# Configuration of the client

Everything that the client of one application is told at its start, and the corrections that keep it
workable: each bad value is replaced on its own, with a warning.

## Order of the corrections

A correction may look at the result of an earlier one: the timeout of the long poll at the corrected
hold time, the expiry at the corrected refresh interval.
-/

namespace LiveConfig

/-! ## §1 The configuration -/

/-- What a namespace serves while the service stays silent. -/
inductive FallbackPolicy
  /-- The last known content, forever. -/
  | serveStale
  /-- The last known content for so long, then nothing. -/
  | expireAfter (ttl : Duration)
deriving DecidableEq

/-- The configuration of a client. -/
structure SyncConfig where
  appId : String
  cluster : String := "default"
  dataCenter : Option String := none
  /-- The label of a grey release, sent with every fetch. -/
  label : Option String := none
  /-- The address that the client claims to have. -/
  clientIp : Option String := none
  /-- Where the instances of the service are listed. -/
  metaServer : String := "http://localhost:8080"
  /-- Fixed instances; with any of them there is no discovery. -/
  serviceUrls : List String := []
  /-- The root of the cache; none for the place that the system gives temporary files. -/
  cacheDir : Option String := none
  /-- Whether entries keep the order in which the server sends them. -/
  keepOrder : Bool := false
  discoveryInterval : Duration := .ofSecs 300
  discoveryTimeout : Duration := .ofSecs 1
  fetchTimeout : Duration := .ofSecs 5
  /-- How long the server holds a long poll open. -/
  pollHold : Duration := .ofSecs 60
  pollTimeout : Duration := .ofSecs 90
  maxAttempts : Nat := 3
  fetchBackoff : BackoffConfig := .fetchRetry
  pollBackoff : BackoffConfig := .longPoll
  refreshInterval : Duration := .ofSecs 300
  /-- Fetches per second; zero is no limit. -/
  fetchRate : Float := 2.0
  /-- Long polls per second; zero is no limit. -/
  pollRate : Float := 2.0
  /-- How many namespaces may fetch at once. -/
  poolSize : Nat := 8
  failureLogInterval : Duration := .ofSecs 60
  /-- How long a shutdown waits for refreshes that are under way. -/
  shutdownGrace : Duration := .ofSecs 5
  fallback : FallbackPolicy := .serveStale

namespace SyncConfig

/-! ## §2 Warnings -/

/-- A correction that was made. -/
inductive Warning
  | emptyCluster
  | intervalTooShort (name : String) (given used : Duration)
  | notPositive (name : String) (used : Duration)
  | timeoutWithinHold (timeout hold used : Duration)
  | noAttempts
  | noPoolSlots
  | capBelowBase (name : String) (cap base : Duration)
  | badFactor (name : String) (factor : Float)
  | badRate (name : String) (rate : Float)
  | rateTooLow (name : String) (rate : Float)
  | expiryTooShort (ttl interval : Duration)

/-- The shortest periodic interval. -/
def minInterval : Duration := .ofSecs 1

/-- The smallest rate that is not zero. -/
def minRate : Float := 0.01

/-- How much the timeout of a long poll exceeds the hold time after a correction. -/
def timeoutMargin : Duration := .ofSecs 30

/-- A number in a message. -/
def numberText (x : Float) : String := Number.floatText .message x

/-- What a correction says. -/
def Warning.message : Warning → String
  | .emptyCluster => "empty cluster name; using default"
  | .intervalTooShort name given used =>
    name ++ " " ++ given.text ++ " is below the minimum " ++ minInterval.text ++ "; using "
      ++ used.text ++ " instead"
  | .notPositive name used => name ++ " must be positive; using " ++ used.text
  | .timeoutWithinHold timeout hold used =>
    "long poll timeout " ++ timeout.text ++ " does not exceed the server hold " ++ hold.text
      ++ "; using " ++ used.text
  | .noAttempts => "fetch attempt ceiling must be at least 1; using 1"
  | .noPoolSlots => "worker pool size must be at least 1; using 1"
  | .capBelowBase name cap base =>
    name ++ " backoff cap " ++ cap.text ++ " is below its base " ++ base.text ++ "; raising the cap"
  | .badFactor name factor =>
    name ++ " backoff factor " ++ numberText factor ++ " is invalid; using 2"
  | .badRate name rate => name ++ " qps " ++ numberText rate ++ " is invalid; disabling the limit"
  | .rateTooLow name rate =>
    name ++ " qps " ++ numberText rate ++ " is below the minimum " ++ numberText minRate
      ++ "; using " ++ numberText minRate
  | .expiryTooShort ttl interval =>
    "fallback expiry " ++ ttl.text ++ " is shorter than the refresh interval " ++ interval.text
      ++ "; using the refresh interval"

/-! ## §3 Corrections of single values -/

/-- A cluster has a name. -/
def correctCluster (cluster : String) : String × List Warning :=
  if Text.allBlank cluster then ("default", [.emptyCluster]) else (cluster, [])

/-- A periodic interval is not too short. -/
def correctInterval (name : String) (default d : Duration) : Duration × List Warning :=
  if d < minInterval then (default, [.intervalTooShort name d default]) else (d, [])

/-- A span is positive. -/
def correctSpan (name : String) (default d : Duration) : Duration × List Warning :=
  if d.isZero then (default, [.notPositive name default]) else (d, [])

/-- The timeout of a long poll exceeds the hold time. -/
def correctTimeout (hold timeout : Duration) : Except Duration.SumError (Duration × List Warning) :=
  -- A hold time near the end of the range leaves no room for the margin.
  if timeout ≤ hold then do
    let used ← hold.sum timeoutMargin
    pure (used, [.timeoutWithinHold timeout hold used])
  else pure (timeout, [])

/-- A count is at least one. -/
def correctCount (warning : Warning) (n : Nat) : Nat × List Warning :=
  if n = 0 then (1, [warning]) else (n, [])

/-- The cap of a back-off is not below its base. -/
def correctCap (name : String) (b : BackoffConfig) : BackoffConfig × List Warning :=
  if b.cap < b.base then ({ b with cap := b.base }, [.capBelowBase name b.cap b.base]) else (b, [])

/-- A back-off does not shrink. -/
def correctFactor (name : String) (b : BackoffConfig) : BackoffConfig × List Warning :=
  -- What is no number is not at least one either.
  if 1.0 ≤ b.factor then (b, []) else ({ b with factor := 2.0 }, [.badFactor name b.factor])

/-- A back-off with a workable cap and factor. -/
def correctBackoff (name : String) (b : BackoffConfig) : BackoffConfig × List Warning :=
  let (b, w₁) := correctCap name b
  let (b, w₂) := correctFactor name b
  (b, w₁ ++ w₂)

/-- A rate is zero or not too low. -/
def correctRate (name : String) (rate : Float) : Float × List Warning :=
  if !rate.isFinite || rate < 0.0 then (0.0, [.badRate name rate])
  else if 0.0 < rate && rate < minRate then (minRate, [.rateTooLow name rate])
  else (rate, [])

/-- An expiry is not shorter than the interval between refreshes. -/
def correctFallback (interval : Duration) (p : FallbackPolicy) : FallbackPolicy × List Warning :=
  match p with
  | .serveStale => (p, [])
  | .expireAfter ttl =>
    if ttl < interval then (.expireAfter interval, [.expiryTooShort ttl interval]) else (p, [])

/-! ## §4 The corrected configuration -/

/-- **The configuration with every bad value replaced**, and what was replaced, in order. -/
def sanitise (c : SyncConfig) : Except Duration.SumError (SyncConfig × List Warning) := do
  let (cluster, w₁) := correctCluster c.cluster
  let (refreshInterval, w₂) :=
    correctInterval "refresh interval" (.ofSecs 300) c.refreshInterval
  let (discoveryInterval, w₃) :=
    correctInterval "discovery refresh interval" (.ofSecs 300) c.discoveryInterval
  let (discoveryTimeout, w₄) := correctSpan "discovery timeout" (.ofSecs 1) c.discoveryTimeout
  let (fetchTimeout, w₅) := correctSpan "fetch timeout" (.ofSecs 5) c.fetchTimeout
  let (pollHold, w₆) := correctSpan "long poll hold" (.ofSecs 60) c.pollHold
  let (shutdownGrace, w₇) := correctSpan "shutdown grace" (.ofSecs 5) c.shutdownGrace
  let (pollTimeout, w₈) ← correctTimeout pollHold c.pollTimeout
  let (maxAttempts, w₉) := correctCount .noAttempts c.maxAttempts
  let (poolSize, w₁₀) := correctCount .noPoolSlots c.poolSize
  let (fetchBackoff, w₁₁) := correctBackoff "fetch" c.fetchBackoff
  let (pollBackoff, w₁₂) := correctBackoff "long poll" c.pollBackoff
  let (fetchRate, w₁₃) := correctRate "fetch" c.fetchRate
  let (pollRate, w₁₄) := correctRate "long poll" c.pollRate
  let (fallback, w₁₅) := correctFallback refreshInterval c.fallback
  pure ({ c with
      cluster, refreshInterval, discoveryInterval, discoveryTimeout, fetchTimeout, pollHold,
      shutdownGrace, pollTimeout, maxAttempts, poolSize, fetchBackoff, pollBackoff, fetchRate,
      pollRate, fallback },
    w₁ ++ w₂ ++ w₃ ++ w₄ ++ w₅ ++ w₆ ++ w₇ ++ w₈ ++ w₉ ++ w₁₀ ++ w₁₁ ++ w₁₂ ++ w₁₃ ++ w₁₄ ++ w₁₅)

end SyncConfig

end LiveConfig
