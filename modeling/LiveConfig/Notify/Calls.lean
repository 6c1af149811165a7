import LiveConfig.Notify.Channel

/-!
# Calls of the channel

What can be called on the channel, one call after the other, and how the calls read afterwards:
which namespaces they subscribe, what they bring for each of them, and which of it is new.

## Reading calls

Nothing here looks at the channel. What counts as new is said by the notifications alone, so it can
be held against what the channel remembers and fires.
-/

namespace LiveConfig

variable {T : Type}

/-- A call of the channel. -/
inductive ChannelCall (T : Type)
  | subscribe (ns : String) (trigger : T)
  | dispatch (notifications : List Notification)

namespace ChannelCall

/-- Whether a call subscribes a namespace. -/
def subscribes (ns : String) : ChannelCall T → Bool
  | .subscribe name _ => name = ns
  | .dispatch _ => false

/-- What a call brings for a namespace. -/
def brings (ns : String) : ChannelCall T → List Notification
  | .subscribe .. => []
  | .dispatch notifications => notifications.filter (·.ns = ns)

/-- The trigger that a call gives a namespace. -/
def gives? (ns : String) : ChannelCall T → Option T
  | .subscribe name trigger => if name = ns then some trigger else none
  | .dispatch _ => none

end ChannelCall

namespace Channel

/-- Make a call: the channel, and the triggers that the call fires. -/
def call (c : Channel T) : ChannelCall T → Channel T × List (Fired T)
  | .subscribe ns trigger => (c.subscribe ns trigger, [])
  | .dispatch notifications =>
    let (c, fired, _) := c.dispatch notifications
    (c, fired)

/-- Make calls one after the other: the channel, and the triggers that each of them fires. -/
def play (c : Channel T) : List (ChannelCall T) → Channel T × List (List (Fired T))
  | [] => (c, [])
  | call :: rest =>
    let (c, fired) := c.call call
    let (c, others) := c.play rest
    (c, fired :: others)

/-- Whether calls subscribe a namespace. -/
def subscribed (ns : String) (calls : List (ChannelCall T)) : Bool :=
  calls.any (·.subscribes ns)

/-- What calls bring for a namespace from its first subscription on. -/
def heardSince (ns : String) (calls : List (ChannelCall T)) : List Notification :=
  (calls.dropWhile (!·.subscribes ns)).flatMap (·.brings ns)

/-- The trigger that a namespace was given last. -/
def trigger? (ns : String) (calls : List (ChannelCall T)) : Option T :=
  (calls.filterMap (·.gives? ns)).getLast?

/-- The triggers that calls fire for a namespace. -/
def firedFor (ns : String) (fired : List (List (Fired T))) : List (Fired T) :=
  fired.flatten.filter (·.ns = ns)

end Channel

/-! ## What is new -/

namespace Notification

/-- The highest number among notifications, and the initial one if none is higher. -/
def latest (l : List Notification) : Int := (l.map (·.id)).foldl max initialId

/-- Whether a notification is newer than the initial one and all that came before it. -/
def isNew (before : List Notification) (n : Notification) : Bool :=
  initialId < n.id && before.all (·.id < n.id)

/-- The new notifications of a list that comes after others. -/
def newAfter (before : List Notification) : List Notification → List Notification
  | [] => []
  | n :: rest =>
    if n.isNew before then n :: newAfter (before ++ [n]) rest else newAfter (before ++ [n]) rest

/-- The notifications of a list that are newer than all before them. -/
def new (l : List Notification) : List Notification := newAfter [] l

/-- For each notification of a list, all up to and including it. -/
def upToEach (l : List Notification) : List (List Notification) :=
  (List.range l.length).map fun i => l.take (i + 1)

end Notification

end LiveConfig
