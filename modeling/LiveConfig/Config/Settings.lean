import LiveConfig.Config.Basic
import LiveConfig.Document
import LiveConfig.Text.Quoted

/-!
# Layered settings

Optional values from the environment and from YAML files. Layers are laid over each other, the later
one winning where it is set, and the result over the defaults.

## Main statements

- `overlay_empty`: a layer without values changes nothing.
-/

namespace LiveConfig

/-! ## §1 The settings -/

/-- Settings that may each be left open. -/
structure Settings where
  appId : Option String := none
  cluster : Option String := none
  dataCenter : Option String := none
  label : Option String := none
  clientIp : Option String := none
  metaServer : Option String := none
  serviceUrls : Option (List String) := none
  cacheDir : Option String := none
  keepOrder : Option Bool := none
  /-- The namespaces that are loaded at the start. -/
  namespaces : Option (List String) := none
  refreshSecs : Option UInt64 := none
  discoveryRefreshSecs : Option UInt64 := none
  discoveryTimeoutSecs : Option UInt64 := none
  fetchTimeoutSecs : Option UInt64 := none
  pollHoldSecs : Option UInt64 := none
  pollTimeoutSecs : Option UInt64 := none
  maxAttempts : Option UInt32 := none
  fetchBaseMillis : Option UInt64 := none
  fetchCapMillis : Option UInt64 := none
  pollBaseMillis : Option UInt64 := none
  pollCapMillis : Option UInt64 := none
  fetchRate : Option Float := none
  pollRate : Option Float := none
  poolSize : Option UInt64 := none
  failureLogSecs : Option UInt64 := none
  shutdownGraceSecs : Option UInt64 := none
  /-- Zero stands for no expiry. -/
  expirySecs : Option UInt64 := none

namespace Settings

/-- **Lay a layer over settings.** A value that the layer sets wins. -/
def overlay (below above : Settings) : Settings where
  appId := above.appId <|> below.appId
  cluster := above.cluster <|> below.cluster
  dataCenter := above.dataCenter <|> below.dataCenter
  label := above.label <|> below.label
  clientIp := above.clientIp <|> below.clientIp
  metaServer := above.metaServer <|> below.metaServer
  serviceUrls := above.serviceUrls <|> below.serviceUrls
  cacheDir := above.cacheDir <|> below.cacheDir
  keepOrder := above.keepOrder <|> below.keepOrder
  namespaces := above.namespaces <|> below.namespaces
  refreshSecs := above.refreshSecs <|> below.refreshSecs
  discoveryRefreshSecs := above.discoveryRefreshSecs <|> below.discoveryRefreshSecs
  discoveryTimeoutSecs := above.discoveryTimeoutSecs <|> below.discoveryTimeoutSecs
  fetchTimeoutSecs := above.fetchTimeoutSecs <|> below.fetchTimeoutSecs
  pollHoldSecs := above.pollHoldSecs <|> below.pollHoldSecs
  pollTimeoutSecs := above.pollTimeoutSecs <|> below.pollTimeoutSecs
  maxAttempts := above.maxAttempts <|> below.maxAttempts
  fetchBaseMillis := above.fetchBaseMillis <|> below.fetchBaseMillis
  fetchCapMillis := above.fetchCapMillis <|> below.fetchCapMillis
  pollBaseMillis := above.pollBaseMillis <|> below.pollBaseMillis
  pollCapMillis := above.pollCapMillis <|> below.pollCapMillis
  fetchRate := above.fetchRate <|> below.fetchRate
  pollRate := above.pollRate <|> below.pollRate
  poolSize := above.poolSize <|> below.poolSize
  failureLogSecs := above.failureLogSecs <|> below.failureLogSecs
  shutdownGraceSecs := above.shutdownGraceSecs <|> below.shutdownGraceSecs
  expirySecs := above.expirySecs <|> below.expirySecs

/-- A layer without values changes nothing. -/
theorem overlay_empty (s : Settings) : s.overlay {} = s := rfl

/-! ## §2 The environment -/

/-- What the names of the variables begin with. -/
def variablePrefix : String := "CONFIG_SYNC_"

/-- A variable of the environment that could not be used. -/
inductive Warning
  | unknownBool (value : String)
  | badValue (value name : String)
deriving DecidableEq, Repr

/-- What is said about an unusable variable. -/
def Warning.message : Warning → String
  | .unknownBool value => "ignoring unrecognised boolean setting value " ++ Text.quoted value
  | .badValue value name =>
    "ignoring invalid value " ++ Text.quoted value ++ " for " ++ variablePrefix ++ name

/-- Why a process cannot have a variable. -/
inductive VariableFault
  /-- A name is not empty and holds no equals sign. -/
  | badName
  /-- Neither a name nor a value holds the character zero. -/
  | zero
deriving DecidableEq, Repr

/-- A variable that a process cannot have. -/
structure VariableError where
  name : String
  value : String
  fault : VariableFault
deriving DecidableEq, Repr

/-- What is said about a fault of a variable. -/
def VariableFault.message : VariableFault → String
  | .badName => "Invalid argument (os error 22)"
  | .zero => "file name contained an unexpected NUL byte"

/-- A name or a value in quotes, apostrophes marked as well. -/
def quotedVariable (s : String) : String :=
  String.ofList ('"' :: s.toList.flatMap (fun c => if c = '\'' then ['\\', c] else Text.quoteChar c)
    ++ ['"'])

/-- What is said about a variable that a process cannot have. -/
def VariableError.message (e : VariableError) : String :=
  "failed to set environment variable `" ++ quotedVariable e.name ++ "` to `"
    ++ quotedVariable e.value ++ "`: " ++ e.fault.message

/-- What is wrong with a variable. -/
def variableFault? (name value : String) : Option VariableFault :=
  if (name ++ value).toList.contains '\x00' then some .zero
  else if name.isEmpty || name.toList.contains '=' then some .badName
  else none

/-- The variables of a process in which some are set one after the other. A name that is set again
keeps its place. -/
def processOf (given : List (String × String)) : Except VariableError (List (String × String)) :=
  match given.findSome? fun p => (variableFault? p.1 p.2).map (VariableError.mk p.1 p.2) with
  | some e => .error e
  | none => .ok (Entries.ofList given).toList

/-- The variables by their names in lower case, without what all names begin with. -/
abbrev Variables := List (String × String)

/-- A text in lower case, as far as it is ASCII. -/
def lowered (s : List Char) : List Char := s.map Char.toLower

/-- The variables among those of a process; others are ignored. -/
def variablesOf (environment : List (String × String)) : Variables :=
  environment.filterMap fun p =>
    if variablePrefix.toList.isPrefixOf p.1.toList then
      some (String.ofList (lowered (p.1.toList.drop variablePrefix.length)), p.2)
    else none

namespace Variables

/-- The value of a variable: of several with one name the last counts. -/
def get? (vars : Variables) (name : String) : Option String := vars.reverse.lookup name

/-- A text setting; blanks alone leave it open. -/
def text? (vars : Variables) (name : String) : Option String :=
  (vars.get? name).bind Text.nonBlank?

/-- The items between commas, without blanks around them and without empty ones. -/
def splitList (s : String) : List String :=
  (s.toList.splitOn ',').filterMap fun item => Text.nonBlank? (String.ofList item)

/-- A list setting. -/
def list? (vars : Variables) (name : String) : Option (List String) :=
  (vars.text? name).map splitList

/-- The words for true. -/
def trueWords : List String := ["1", "true", "t", "yes", "y"]

/-- The words for false. -/
def falseWords : List String := ["0", "false", "f", "no", "n"]

/-- A truth value; blanks alone leave it open. -/
def bool? (vars : Variables) (name : String) : Option Bool × List Warning :=
  match vars.get? name with
  | none => (none, [])
  | some raw =>
    let word := String.ofList (lowered (Text.trim raw.toList))
    if trueWords.contains word then (some true, [])
    else if falseWords.contains word then (some false, [])
    else if word.isEmpty then (none, [])
    else (none, [.unknownBool word])

/-- A number; blanks alone leave it open. -/
def number? {α : Type} (read? : List Char → Option α) (vars : Variables) (name : String) :
    Option α × List Warning :=
  match vars.text? name with
  | none => (none, [])
  | some raw =>
    match read? raw.toList with
    | some n => (some n, [])
    | none => (none, [.badValue raw name.toUpper])

/-- A number of 64 bits. -/
def wide? : Variables → String → Option UInt64 × List Warning :=
  number? fun s => (Number.readUnsigned? 64 10 s).map UInt64.ofNat

/-- A number of 32 bits. -/
def narrow? : Variables → String → Option UInt32 × List Warning :=
  number? fun s => (Number.readUnsigned? 32 10 s).map UInt32.ofNat

/-- A double. -/
def float? : Variables → String → Option Float × List Warning := number? Number.readFloat?

end Variables

/-- **The settings of an environment**, and the variables that could not be used, in order. -/
def ofEnvironment (environment : List (String × String)) : Settings × List Warning :=
  let vars := variablesOf environment
  let (keepOrder, w₁) := vars.bool? "property_order"
  let (refreshSecs, w₂) := vars.wide? "refresh_interval_secs"
  let (discoveryRefreshSecs, w₃) := vars.wide? "discovery_refresh_interval_secs"
  let (discoveryTimeoutSecs, w₄) := vars.wide? "discovery_timeout_secs"
  let (fetchTimeoutSecs, w₅) := vars.wide? "fetch_timeout_secs"
  let (pollHoldSecs, w₆) := vars.wide? "long_poll_hold_secs"
  let (pollTimeoutSecs, w₇) := vars.wide? "long_poll_timeout_secs"
  let (maxAttempts, w₈) := vars.narrow? "max_fetch_attempts"
  let (fetchBaseMillis, w₉) := vars.wide? "fetch_backoff_base_ms"
  let (fetchCapMillis, w₁₀) := vars.wide? "fetch_backoff_cap_ms"
  let (pollBaseMillis, w₁₁) := vars.wide? "long_poll_backoff_base_ms"
  let (pollCapMillis, w₁₂) := vars.wide? "long_poll_backoff_cap_ms"
  let (fetchRate, w₁₃) := vars.float? "fetch_qps"
  let (pollRate, w₁₄) := vars.float? "long_poll_qps"
  let (poolSize, w₁₅) := vars.wide? "worker_pool_size"
  let (failureLogSecs, w₁₆) := vars.wide? "failure_log_interval_secs"
  let (shutdownGraceSecs, w₁₇) := vars.wide? "shutdown_grace_secs"
  let (expirySecs, w₁₈) := vars.wide? "fallback_expiry_secs"
  ({ appId := vars.text? "app_id"
     cluster := vars.text? "cluster"
     dataCenter := vars.text? "data_center"
     label := vars.text? "label"
     clientIp := vars.text? "client_ip"
     metaServer := vars.text? "meta_server"
     serviceUrls := vars.list? "config_service_urls"
     cacheDir := vars.text? "cache_dir"
     namespaces := vars.list? "namespaces"
     keepOrder, refreshSecs, discoveryRefreshSecs, discoveryTimeoutSecs, fetchTimeoutSecs,
     pollHoldSecs, pollTimeoutSecs, maxAttempts, fetchBaseMillis, fetchCapMillis, pollBaseMillis,
     pollCapMillis, fetchRate, pollRate, poolSize, failureLogSecs, shutdownGraceSecs, expirySecs },
   w₁ ++ w₂ ++ w₃ ++ w₄ ++ w₅ ++ w₆ ++ w₇ ++ w₈ ++ w₉ ++ w₁₀ ++ w₁₁ ++ w₁₂ ++ w₁₃ ++ w₁₄ ++ w₁₅
     ++ w₁₆ ++ w₁₇ ++ w₁₈)

/-! ## §3 YAML files -/

/-- Members of a YAML document by name. -/
abbrev Members := List (String × Yaml.Value)

namespace Members

/-- A setting of a document: nothing and null leave it open, anything but a value of its type is an
error. -/
def setting? {α : Type} (read? : Yaml.Value → Option α) (members : Members) (name : String) :
    Option (Option α) :=
  match members.lookup name with
  | none | some .null => some none
  | some v => (read? v).map some

/-- A text. -/
def text? : Yaml.Value → Option String
  | .text s => some s
  | _ => none

/-- A truth value. -/
def bool? : Yaml.Value → Option Bool
  | .bool b => some b
  | _ => none

/-- A list of texts. -/
def texts? : Yaml.Value → Option (List String)
  | .list items => items.mapM text?
  | _ => none

/-- A number below a bound. -/
def below? (bound : Nat) : Yaml.Value → Option Nat
  | .int i => if 0 ≤ i ∧ i < bound then some i.toNat else none
  | _ => none

/-- A number of 64 bits. -/
def wide? (v : Yaml.Value) : Option UInt64 := (below? UInt64.size v).map UInt64.ofNat

/-- A number of 32 bits. -/
def narrow? (v : Yaml.Value) : Option UInt32 := (below? UInt32.size v).map UInt32.ofNat

/-- A double; an integer is read as the nearest one. -/
def float? : Yaml.Value → Option Float
  | .int i => some (Number.nearestFloat (i < 0) i.natAbs 1)
  | .float x => some x
  | _ => none

end Members

/-- The settings of the members of a document; unknown members are ignored. -/
def ofMembers? (m : Members) : Option Settings := do
  pure {
    appId := ← m.setting? Members.text? "app_id"
    cluster := ← m.setting? Members.text? "cluster"
    dataCenter := ← m.setting? Members.text? "data_center"
    label := ← m.setting? Members.text? "label"
    clientIp := ← m.setting? Members.text? "client_ip"
    metaServer := ← m.setting? Members.text? "meta_server"
    serviceUrls := ← m.setting? Members.texts? "config_service_urls"
    cacheDir := ← m.setting? Members.text? "cache_dir"
    keepOrder := ← m.setting? Members.bool? "property_order"
    namespaces := ← m.setting? Members.texts? "namespaces"
    refreshSecs := ← m.setting? Members.wide? "refresh_interval_secs"
    discoveryRefreshSecs := ← m.setting? Members.wide? "discovery_refresh_interval_secs"
    discoveryTimeoutSecs := ← m.setting? Members.wide? "discovery_timeout_secs"
    fetchTimeoutSecs := ← m.setting? Members.wide? "fetch_timeout_secs"
    pollHoldSecs := ← m.setting? Members.wide? "long_poll_hold_secs"
    pollTimeoutSecs := ← m.setting? Members.wide? "long_poll_timeout_secs"
    maxAttempts := ← m.setting? Members.narrow? "max_fetch_attempts"
    fetchBaseMillis := ← m.setting? Members.wide? "fetch_backoff_base_ms"
    fetchCapMillis := ← m.setting? Members.wide? "fetch_backoff_cap_ms"
    pollBaseMillis := ← m.setting? Members.wide? "long_poll_backoff_base_ms"
    pollCapMillis := ← m.setting? Members.wide? "long_poll_backoff_cap_ms"
    fetchRate := ← m.setting? Members.float? "fetch_qps"
    pollRate := ← m.setting? Members.float? "long_poll_qps"
    poolSize := ← m.setting? Members.wide? "worker_pool_size"
    failureLogSecs := ← m.setting? Members.wide? "failure_log_interval_secs"
    shutdownGraceSecs := ← m.setting? Members.wide? "shutdown_grace_secs"
    expirySecs := ← m.setting? Members.wide? "fallback_expiry_secs" }

/-- What is found at the path of a settings file. -/
inductive FileAt
  | nothing
  | directory
  | file (text : String)
deriving DecidableEq, Repr

/-- Why a layer or a configuration cannot be had. -/
inductive SettingsError
  | unreadable
  | missingFile
  | missingAppId
  | badVariable (e : VariableError)
deriving DecidableEq, Repr

/-- What is said about an error, where it does not depend on a place in a file. -/
def SettingsError.message? : SettingsError → Option String
  | .missingAppId => some "an application id is required"
  | .badVariable e => some e.message
  | .unreadable | .missingFile => none

/-- **The settings of a YAML text.** An integer of more than 64 bits anywhere makes it
unreadable. -/
def ofYaml (text : String) : Except SettingsError Settings :=
  match (Yaml.read? text).bind fun m => (Yaml.toJsonMembers? m).bind fun _ => ofMembers? m with
  | some s => .ok s
  | none => .error .unreadable

/-- The settings of a YAML file. -/
def ofYamlFile : FileAt → Except SettingsError Settings
  | .file text => ofYaml text
  | .nothing | .directory => .error .missingFile

/-! ## §4 The configuration -/

/-- A span of seconds, if one is set. -/
def secondsOr (s : Option UInt64) (d : Duration) : Duration := (s.map Duration.ofSecs).getD d

/-- A span of milliseconds, if one is set. -/
def millisOr (s : Option UInt64) (d : Duration) : Duration := (s.map Duration.ofMillis).getD d

/-- A back-off with the base and the cap that are set. -/
def backoffOr (base cap : Option UInt64) (b : BackoffConfig) : BackoffConfig :=
  { b with base := millisOr base b.base, cap := millisOr cap b.cap }

/-- What is served while the service stays silent. -/
def fallbackOf (expiry : Option UInt64) : FallbackPolicy :=
  match expiry with
  | none => .serveStale
  | some s => if s = 0 then .serveStale else .expireAfter (.ofSecs s)

/-- The settings over the defaults of a configuration, for an application. -/
def withDefaults (s : Settings) (d : SyncConfig) : SyncConfig :=
  { d with
    cluster := s.cluster.getD d.cluster
    dataCenter := s.dataCenter
    label := s.label
    clientIp := s.clientIp
    metaServer := s.metaServer.getD d.metaServer
    serviceUrls := s.serviceUrls.getD d.serviceUrls
    cacheDir := s.cacheDir <|> d.cacheDir
    keepOrder := s.keepOrder.getD d.keepOrder
    refreshInterval := secondsOr s.refreshSecs d.refreshInterval
    discoveryInterval := secondsOr s.discoveryRefreshSecs d.discoveryInterval
    discoveryTimeout := secondsOr s.discoveryTimeoutSecs d.discoveryTimeout
    fetchTimeout := secondsOr s.fetchTimeoutSecs d.fetchTimeout
    pollHold := secondsOr s.pollHoldSecs d.pollHold
    pollTimeout := secondsOr s.pollTimeoutSecs d.pollTimeout
    failureLogInterval := secondsOr s.failureLogSecs d.failureLogInterval
    shutdownGrace := secondsOr s.shutdownGraceSecs d.shutdownGrace
    maxAttempts := (s.maxAttempts.map UInt32.toNat).getD d.maxAttempts
    fetchBackoff := backoffOr s.fetchBaseMillis s.fetchCapMillis d.fetchBackoff
    pollBackoff := backoffOr s.pollBaseMillis s.pollCapMillis d.pollBackoff
    fetchRate := s.fetchRate.getD d.fetchRate
    pollRate := s.pollRate.getD d.pollRate
    poolSize := (s.poolSize.map UInt64.toNat).getD d.poolSize
    fallback := fallbackOf s.expirySecs }

/-- The configuration before corrections; an application has a name. -/
def toConfig? (s : Settings) : Except SettingsError SyncConfig :=
  match s.appId.bind Text.nonBlank? with
  | some appId => .ok (s.withDefaults { appId })
  | none => .error .missingAppId

/-- Why settings lead to no configuration. -/
inductive ResolveError
  | settings (e : SettingsError)
  | overflow (e : Duration.SumError)
deriving DecidableEq, Repr

/-- **The configuration that settings resolve to**, with the corrections that were made. -/
def resolve (s : Settings) : Except ResolveError (SyncConfig × List SyncConfig.Warning) :=
  match s.toConfig? with
  | .error e => .error (.settings e)
  | .ok c =>
    match c.sanitise with
    | .error e => .error (.overflow e)
    | .ok r => .ok r

end Settings

end LiveConfig
