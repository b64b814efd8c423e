/-! Lines of the log. -/

namespace BookingOffice

/-- How serious a line of the log is. -/
inductive Level where
  | error
  | warn
  | info
  deriving DecidableEq, Repr

/-- The word for a level. -/
def Level.text : Level → String
  | .error => "ERROR"
  | .warn => "WARN"
  | .info => "INFO"

/-- A line of the log. -/
structure LogLine where
  level : Level
  message : String
  deriving DecidableEq, Repr

/-- The line as it is written. -/
def LogLine.text (line : LogLine) : String := s!"{line.level.text} {line.message}"

end BookingOffice
