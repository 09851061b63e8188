import Timebox.Text.Glob
import Timebox.Value.Basic
import Timebox.Duration.Basic

/-! # Events

An executor publishes an event when a caller gives up waiting (`deadline.timeout`) and when
a work given up on ends later (`deadline.abandoned.done`).

An `Emitter` hands published events to the handlers subscribed to their topic. Its consumer
listens to the pattern `*`, so a published topic reaches it when the topic, read as a
pattern, matches the name `*`, or else when `*` matches the topic (a topic with no `/`). A
malformed topic reaches no one. The consumer then calls the handlers subscribed to exactly
that topic, in the order they subscribed, each with the first argument of the event, or nil.
-/

namespace Timebox

namespace Event

/-- The topic of a caller giving up. -/
def timeoutTopic : String := "deadline.timeout"

/-- The topic of a work given up on that has ended. -/
def abandonedDoneTopic : String := "deadline.abandoned.done"

/-- What an executor publishes. -/
inductive Payload where
  /-- A caller gave up on a job: the executor, the job's name and arguments, the deadline and
  where the job was made. -/
  | timeout (executor job : String) (args : List Value) (deadline : Duration) (caller : String)
  | abandonedDone (executor job : String) (err : Option Fault)

end Event

/-- A published event. -/
structure Event where
  topic : String
  payload : Event.Payload

namespace Event

/-- The event of a caller giving up. -/
def timeout (executor job : String) (args : List Value) (deadline : Duration)
    (caller : String) : Event :=
  ⟨timeoutTopic, .timeout executor job args deadline caller⟩

/-- The event of a work given up on that has ended. -/
def abandonedDone (executor job : String) (err : Option Fault) : Event :=
  ⟨abandonedDoneTopic, .abandonedDone executor job err⟩

/-- Whether a published topic reaches a consumer of the pattern `*`. -/
def reachesAll (topic : String) : Bool :=
  match Glob.matchName topic "*" with
  | none => false
  | some true => true
  | some false => Glob.matchName "*" topic == some true

/-- The handlers subscribed to each topic, in the order they subscribed. -/
structure Emitter where
  handlers : List (String × String)

namespace Emitter

/-- An emitter with no handlers. -/
def empty : Emitter := ⟨[]⟩

/-- Subscribes a handler to a topic. -/
def subscribe (e : Emitter) (topic handler : String) : Emitter := ⟨e.handlers ++ [(topic, handler)]⟩

/-- The handler calls a published event makes: each handler and the value it is given. -/
def publish (e : Emitter) (topic : String) (args : List Value) : List (String × Value) :=
  if reachesAll topic then
    (e.handlers.filter (·.1 == topic)).map fun (_, h) => (h, args.headD .nil)
  else []

end Emitter

end Event

end Timebox
