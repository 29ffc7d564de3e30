/-!
# Log entries
-/

namespace VirtualNet

/-- How grave a log entry is. -/
inductive LogLevel where
  | info
  | warn
  | error
  deriving DecidableEq, Repr

/-- The name of a level. -/
def LogLevel.name : LogLevel → String
  | .info => "INFO"
  | .warn => "WARN"
  | .error => "ERROR"

/-- A line of the log. -/
structure LogEntry where
  level : LogLevel
  text : String
  deriving DecidableEq, Repr

instance : ToString LogEntry where
  toString entry := s!"{entry.level.name} {entry.text}"

end VirtualNet
