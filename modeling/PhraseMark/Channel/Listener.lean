import PhraseMark.Channel.Bus
import PhraseMark.Channel.Observer

/-!
# The background listener

A listener hands every envelope it receives to its observers until the bus is closed and drained.
Missed messages are logged, and it goes on.
-/

namespace PhraseMark.Listener

def start (observers : List Observer) : LogEvent :=
  .info ("[BackgroundService] Listening with " ++ Nat.repr observers.length ++ " observer(s)")

def handle (observers : List Observer) : Reception Envelope → Observed
  | .message e =>
    Observed.append
      { events := [.debug ("[BackgroundService] Message from " ++ e.url)] }
      (Observer.dispatch observers e)
  | .lagged missed =>
    { events :=
        [.warn ("[BackgroundService] Dropped " ++ Nat.repr missed ++
          " message(s); receiver lagged")] }
  | .closed => { events := [.info "[BackgroundService] Channel closed"] }
  | .empty => {}

def handleAll (observers : List Observer) (answers : List (Reception Envelope)) : Observed :=
  answers.foldl (fun seen r => seen.append (handle observers r)) {}

/-- Registers observers and listens from a position of the bus until nothing is left. -/
def run (observers : List Observer) (bus : Bus Envelope) (position : Nat) : Observed :=
  Observed.append
    { events := observers.map Observer.registration ++ [start observers] }
    (handleAll observers (bus.drain position))

def publishAll (bus : Bus Envelope) (envelopes : List Envelope) : List LogEvent × Bus Envelope :=
  envelopes.foldl
    (fun (events, bus) e =>
      match bus.publish? e with
      | some (more, bus) => (events ++ more, bus)
      | none => (events, bus))
    ([], bus)

/-- A whole life of a bus: messages before anyone listens, messages for one listener, the end of
the bus, and the run of the listener. -/
def session (capacity : Nat) (observers : List Observer) (before messages : List Envelope) :
    Observed :=
  let (early, bus) := publishAll (.ofCapacity capacity) before
  match bus.subscribe? with
  | none => { events := early }
  | some (_, listening) =>
    let (late, bus') := publishAll listening messages
    Observed.append { events := early ++ late } (run observers bus'.close bus.published)

end PhraseMark.Listener
