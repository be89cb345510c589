/-!
# Log events

What happens during a scan is told as a list of events.
-/

namespace PhraseMark

inductive LogLevel where
  | debug
  | info
  | warn
  | error
  deriving DecidableEq, Repr

def LogLevel.name : LogLevel → String
  | debug => "DEBUG"
  | info => "INFO"
  | warn => "WARN"
  | error => "ERROR"

/-- One line of the log. -/
structure LogEvent where
  level : LogLevel
  text : String
  deriving DecidableEq, Repr

namespace LogEvent

def debug (text : String) : LogEvent := ⟨.debug, text⟩

def info (text : String) : LogEvent := ⟨.info, text⟩

def warn (text : String) : LogEvent := ⟨.warn, text⟩

def error (text : String) : LogEvent := ⟨.error, text⟩

def line (e : LogEvent) : String := e.level.name ++ " " ++ e.text

end LogEvent

end PhraseMark
