/-!
# Log lines

What the program reports to its operators.
-/

namespace LiveConfig

/-- How serious a log line is. -/
inductive LogLevel
  | warn
  | error
deriving DecidableEq, Repr

/-- The name of a level. -/
def LogLevel.name : LogLevel → String
  | .warn => "WARN"
  | .error => "ERROR"

/-- A line of the log, with its named values. -/
structure LogLine where
  level : LogLevel
  message : String
  fields : List (String × String) := []
deriving DecidableEq, Repr

/-- A warning. -/
def LogLine.warning (message : String) (fields : List (String × String)) : LogLine :=
  ⟨.warn, message, fields⟩

end LiveConfig
