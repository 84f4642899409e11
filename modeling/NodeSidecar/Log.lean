/-
**Log lines.**

What the sidecar reports about its work: a level and a message.
-/

set_option autoImplicit false

namespace NodeSidecar

/-- How serious a report is. -/
inductive LogLevel where
  | info
  | warn
  | error
  deriving DecidableEq, Repr

/-- The name of a level. -/
def LogLevel.name : LogLevel → String
  | .info => "INFO"
  | .warn => "WARN"
  | .error => "ERROR"

/-- A report. -/
structure LogLine where
  level : LogLevel
  message : String
  deriving DecidableEq, Repr

namespace LogLine

/-- A report of normal work. -/
def info (message : String) : LogLine := ⟨.info, message⟩

/-- A report of a fault that the sidecar copes with. -/
def warn (message : String) : LogLine := ⟨.warn, message⟩

/-- A report of a failure. -/
def error (message : String) : LogLine := ⟨.error, message⟩

/-- A report with its level in front. -/
def text (l : LogLine) : String := l.level.name ++ " " ++ l.message

end LogLine

end NodeSidecar
