import LiveConfig.Duration
import LiveConfig.Url.Address

/-!
# Errors of calls

How a call to the service can fail, and which failures are worth another attempt.

## Main statements

- `classify_server`: a status in the five hundreds is a failure of the server.
-/

namespace LiveConfig.Http

/-! ## §1 Errors -/

/-- Why a call failed. -/
inductive CallError
  /-- The credentials were rejected. -/
  | unauthorized (status : Nat)
  /-- The request was rejected, or redirected for no reason. -/
  | client (status : Nat)
  /-- The server failed. -/
  | retryable (status : Nat)
  /-- There was no answer in time. -/
  | timeout (limit : Duration)
  /-- The connection could not be made, or broke. -/
  | transport
  /-- The body is not what was asked for. -/
  | decode
  /-- There is no address to call, or no way to introduce oneself. -/
  | invalidUrl (reason : String)
deriving DecidableEq

namespace CallError

/-- Whether another attempt may go better. -/
def isTransient : CallError → Bool
  | retryable _ | timeout _ | transport => true
  | _ => false

/-- What is said about an error; of a broken connection and of a bad body the details depend on the
system and are left out. -/
def message : CallError → String
  | unauthorized s => "unauthorized: status " ++ Number.decimalText s
  | client s => "client error or unexpected redirect: status " ++ Number.decimalText s
  | retryable s => "transient backend error: status " ++ Number.decimalText s
  | timeout d => "request timed out after " ++ d.text
  | transport => "transport error"
  | decode => "failed to decode response body"
  | invalidUrl reason => "invalid url: " ++ reason

/-- The kind of an error. -/
def name : CallError → String
  | unauthorized _ => "Unauthorized"
  | client _ => "Client"
  | retryable _ => "Retryable"
  | timeout _ => "Timeout"
  | transport => "Transport"
  | decode => "Decode"
  | invalidUrl _ => "InvalidUrl"

/-- The family of an error, for logs. -/
def family : CallError → String
  | unauthorized _ => "unauthorized"
  | client _ => "client-error"
  | retryable _ => "server-error"
  | timeout _ => "timeout"
  | transport => "transport"
  | decode => "decode"
  | invalidUrl _ => "invalid-url"

end CallError

/-- The address of path segments under a base. -/
def address (base : String) (segments : List String) : Except CallError Url :=
  match Url.build? base segments with
  | .ok u => .ok u
  | .error fault => .error (.invalidUrl (base ++ ": " ++ fault.reason))

/-! ## §2 Statuses -/

/-- What a status says about the body that comes with it. -/
inductive Verdict
  /-- The body is the answer. -/
  | success
  /-- What the caller has is current. -/
  | notModified
  /-- There is no such resource. -/
  | notFound
deriving DecidableEq, Repr

/-- **How a status is read.** -/
def classify (status : Nat) : Except CallError Verdict :=
  if 200 ≤ status ∧ status < 300 then .ok .success
  else if status = 304 then .ok .notModified
  else if status = 404 then .ok .notFound
  else if status = 401 ∨ status = 403 then .error (.unauthorized status)
  else if 500 ≤ status ∧ status < 600 then .error (.retryable status)
  else .error (.client status)

/-- A status in the five hundreds is a failure of the server. -/
theorem classify_server (status : Nat) (h : 500 ≤ status) (h' : status < 600) :
    classify status = .error (.retryable status) := by
  unfold classify
  rw [if_neg (by omega), if_neg (by omega), if_neg (by omega), if_neg (by omega),
    if_pos ⟨h, h'⟩]

/-- The answer to a conditional call. -/
inductive Outcome (α : Type)
  | body (value : α)
  | notModified
  | notFound
deriving DecidableEq, Repr

/-! ## §3 Introductions -/

/-- Whether a character may stand in a header. -/
def isHeaderChar (c : Char) : Bool := (0x20 ≤ c.toNat && c.toNat ≠ 0x7F) || c == '\t'

/-- How the client introduces itself unless told otherwise. -/
def defaultAgent : String := "config-sync/0.1.0"

/-- What the client accepts. -/
def accepted : String := "application/json"

/-- The error of an introduction that is no header, if it is none. -/
def agentError? (agent : String) : Option CallError :=
  if agent.toList.all isHeaderChar then none else some (.invalidUrl ("user agent " ++ agent))

end LiveConfig.Http
