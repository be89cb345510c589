import PhraseMark.Channel.Message
import PhraseMark.Scan.Log
import PhraseMark.Text.Quoted

/-!
# Observers

Observers are handed every envelope, one after another in the order of their registration. They
answer nothing.
-/

namespace PhraseMark

inductive Observer where
  /-- Keeps every envelope under its name. -/
  | recorder (name : String)
  /-- Writes every detection to the log and counts it. -/
  | detectionLogger
  deriving DecidableEq, Repr

/-- What observers kept, counted and logged. -/
structure Observed where
  seen : List (String × Envelope) := []
  logged : Nat := 0
  events : List LogEvent := []
  deriving DecidableEq, Repr

/-- What was observed first, and then what was observed later. -/
def Observed.append (a b : Observed) : Observed :=
  { seen := a.seen ++ b.seen
    logged := a.logged + b.logged
    events := a.events ++ b.events }

namespace Observer

def detectionLoggerName : String := "DetectionLogger"

def name : Observer → String
  | recorder name => name
  | detectionLogger => detectionLoggerName

/-- The observer with a name: the detection logger or a recorder. -/
def ofName (name : String) : Observer :=
  if name == detectionLoggerName then detectionLogger else recorder name

def registration (o : Observer) : LogEvent :=
  .debug ("[ObserverManager] Registered observer: " ++ o.name)

def observe (o : Observer) (e : Envelope) : Observed :=
  match o, e.message with
  | recorder name, _ => { seen := [(name, e)] }
  | detectionLogger, .detected patterns count =>
    { logged := 1
      events :=
        [.info ("[DetectionLogger] Dark patterns detected on: " ++ e.url),
          .info ("[DetectionLogger] Patterns (" ++ Nat.repr count ++ "): " ++
            Text.quotedList patterns)] }

def dispatch (observers : List Observer) (e : Envelope) : Observed :=
  observers.foldl (fun seen o => seen.append (o.observe e)) {}

end Observer

end PhraseMark
