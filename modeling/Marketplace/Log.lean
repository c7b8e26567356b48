/-!
# Log lines

A `LogLine` is a text with a level; `LogLine.render` is the line as it is printed.
-/

namespace Marketplace

/-- How much a line matters. -/
inductive LogLevel where
  | debug
  | info
  | warn
  | error
  deriving DecidableEq, Repr

/-- The level in front of a line. -/
def LogLevel.label : LogLevel → String
  | .debug => "DEBUG"
  | .info => "INFO"
  | .warn => "WARN"
  | .error => "ERROR"

/-- One line of the log. -/
structure LogLine where
  level : LogLevel
  text : String
  deriving DecidableEq, Repr

/-- The level, a space and the text. -/
def LogLine.render (line : LogLine) : String := line.level.label ++ " " ++ line.text

end Marketplace
