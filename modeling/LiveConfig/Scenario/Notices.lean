import LiveConfig.Scenario.Instances
import LiveConfig.View.Query

/-!
# Scenarios of the notification channel

Someone works the channel step by step while its poll loop may be under way. Triggers carry a label
instead of leading to a namespace.
-/

namespace LiveConfig.Simulation.World

/-- What observers have seen since it was last taken out. -/
def takeObserved (w : World) : List (Shown Observed) × World :=
  (ordered w.observed, { w with observed := [] })

/-- The triggers that have been fired since they were last taken out. -/
def takeTriggers (w : World) : List (Shown Trigger) × World :=
  (ordered w.triggers, { w with triggers := [] })

end LiveConfig.Simulation.World

namespace LiveConfig

/-! ## §1 Texts for developers -/

/-- The parameters of a back-off in one line. -/
def BackoffConfig.text (b : BackoffConfig) : String :=
  "BackoffConfig \x7b base: " ++ b.base.text ++ ", max_backoff: " ++ b.cap.text ++ ", factor: "
    ++ Number.floatText .report b.factor ++ ", recovery_interval: "
    ++ Number.decimalText b.recovery ++ " \x7d"

/-- The parameters of long polls in one line. -/
def PollConfig.text (c : PollConfig) : String :=
  "LongPollConfig \x7b app_id: " ++ Text.quoted c.appId ++ ", cluster: " ++ Text.quoted c.cluster
    ++ ", data_center: " ++ View.optionText c.dataCenter ++ ", client_ip: "
    ++ View.optionText c.clientIp ++ ", timeout: " ++ c.timeout.text ++ ", backoff: "
    ++ c.backoff.text ++ " \x7d"

/-- The channel in one line. -/
def Channel.text {T : Type} (config : PollConfig) (c : Channel T) : String :=
  "NotificationChannel \x7b config: " ++ config.text ++ ", namespaces: "
    ++ Text.quotedList c.names ++ " \x7d"

end LiveConfig

namespace LiveConfig.Scenario

open Simulation

/-! ## §2 Steps -/

/-- A step of the scenario. -/
inductive ChannelStep
  | subscribe (ns label : String)
  | dispatch (notifications : List Notification)
  | poll (base : String)
  /-- Start the loop. -/
  | launch
  | cancel
  | wait (millis : Nat)
  | describe

/-- What a step gives. -/
inductive ChannelResult
  | nothing
  /-- So many triggers were fired. -/
  | fired (count : Nat)
  | polled (notifications : Option (List Notification))
  | failed (e : Http.CallError)
  | text (s : String)

/-- What is seen after a step. -/
structure ChannelReport where
  result : ChannelResult
  moment : Nat
  /-- The latest notification of each namespace, in the order of the names. -/
  ids : List (String × Int)
  triggers : List (Shown Trigger)
  /-- Whether the loop is under way; none if it was never started. -/
  running : Option Bool
  observed : List (Shown Observed)
  requests : List Sent
  logs : List (Shown LogLine)

/-- Do what a step says. -/
def ChannelStep.act : ChannelStep → Client ChannelResult
  | .subscribe ns label => do
    Activity.change fun w => { w with channel := w.channel.subscribe ns (.inr label) }
    pure .nothing
  | .dispatch notifications => do
    pure (.fired (← Activity.update (World.dispatch notifications)))
  | .poll base => do
    match ← Client.poll base with
    | .ok notifications => pure (.polled notifications)
    | .error e => pure (.failed e)
  | .launch => do
    Activity.change (World.start .polling)
    pure .nothing
  | .cancel => do
    Activity.change World.cancel
    pure .nothing
  | .wait millis => do
    Client.pauseMillis millis
    pure .nothing
  | .describe => do
    pure (.text (← Activity.look fun w => w.channel.text w.pollConfig))

/-- A step, and what is seen after it. -/
def ChannelStep.run (s : ChannelStep) : Client ChannelReport := do
  let result ← s.act
  breathe
  Activity.update fun w =>
    let (requests, w) := w.requests
    let (logs, w) := w.takeLogs
    let (observed, w) := w.takeObserved
    let (triggers, w) := w.takeTriggers
    ({ result, moment := w.now, ids := w.channel.subscriptions.map fun p => (p.1, p.2.id),
       triggers, running := w.running? .polling, observed, requests, logs }, w)

/-- **Work the channel**: what is seen after each step. -/
def channelReports (steps : List ChannelStep) : Client (List ChannelReport) :=
  Activity.forEach steps ChannelStep.run

end LiveConfig.Scenario
