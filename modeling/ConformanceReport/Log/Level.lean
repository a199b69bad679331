/-!
# Levels of log messages

Levels range from errors, the gravest, to messages for debugging. A log of some level holds the
messages of that level and of the graver ones.
-/

namespace ConformanceReport

namespace Log

/-- How grave a message is. -/
inductive Level where
  | error
  | warning
  | information
  | debugging
  deriving DecidableEq, Repr

namespace Level

/-- The name of a level in a log. -/
def shown : Level → String
  | .error => "ERROR"
  | .warning => "WARN"
  | .information => "INFO"
  | .debugging => "DEBUG"

/-- The place of a level, from the gravest on. -/
def rank : Level → Nat
  | .error => 0
  | .warning => 1
  | .information => 2
  | .debugging => 3

/-- Whether a log of this level holds messages of another one. -/
def holds (level message : Level) : Bool :=
  message.rank ≤ level.rank

end Level

end Log

end ConformanceReport
