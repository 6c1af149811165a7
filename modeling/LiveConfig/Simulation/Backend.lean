import LiveConfig.Url.Address

/-!
# A backend with scripted replies

The other side of the network: a list of addresses with the replies that are given there, one for
each request, and what becomes of a connection on the way.
-/

namespace LiveConfig.Simulation

/-- What becomes of the connection of a reply. -/
inductive Delivery
  | complete
  /-- No connection comes about, so that no request arrives. -/
  | refused
  /-- The answer never comes. -/
  | hang
  /-- The connection is closed without an answer. -/
  | reset
  /-- The connection is closed within the body. -/
  | cut
  /-- The body never ends. -/
  | stall
deriving DecidableEq, Repr

/-- A scripted reply. -/
structure Reply where
  status : Nat := 200
  /-- The body, unless it is no text. -/
  body : Option String := some ""
  headers : List (String × String) := []
  /-- Milliseconds between request and reply. -/
  delay : Nat := 0
  delivery : Delivery := .complete
deriving DecidableEq, Repr

/-- The replies that are left at an address without query. -/
structure Route where
  url : String
  replies : List Reply
deriving DecidableEq, Repr

/-- Take the next reply of the first route at an address. -/
def Route.take (url : String) : List Route → Option Reply × List Route
  | [] => (none, [])
  | r :: rest =>
    if r.url = url then
      match r.replies with
      | [] => (none, r :: rest)
      | reply :: more => (some reply, { r with replies := more } :: rest)
    else let (reply, rest) := take url rest; (reply, r :: rest)

/-- A request that has arrived. -/
structure Sent where
  moment : Nat
  /-- The address without query. -/
  path : String
  /-- The address with query. -/
  url : String
deriving DecidableEq, Repr

/-- The statuses that send a caller elsewhere. -/
def redirects : List Nat := [301, 302, 303, 307, 308]

/-- Where a reply sends the caller. -/
def Reply.location? (r : Reply) : Option String :=
  if redirects.contains r.status then
    (r.headers.find? fun h => h.1.toLower = "location").map Prod.snd
  else none

/-- The address that a reply from `u` sends the caller to, as a text. -/
def locationFrom (u : Url) (location : String) : String :=
  match Url.readScheme? (Url.clean location.toList) with
  | some _ => location
  | none =>
    let authority := (u.authority.map Url.Authority.text).getD ""
    if location.startsWith "//" then u.scheme ++ ":" ++ location
    else if location.startsWith "/" then u.scheme ++ ":" ++ authority ++ location
    else if location.startsWith "?" then u.textToPath ++ location
    else if location.isEmpty || location.startsWith "#" then u.textToQuery ++ location
    else
      let directory := (u.textToPath.toList.reverse.dropWhile (· != '/')).reverse
      String.ofList directory ++ location

/-- The address without user and fragment, as it is sent. -/
def plain (u : Url) : Url :=
  { u with authority := u.authority.map fun a => { a with user := "" }, fragment := none }

end LiveConfig.Simulation
