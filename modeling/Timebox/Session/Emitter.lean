import Timebox.Event.Emitter
import Timebox.Report.Session

/-! # Scripted sessions with an emitter

Handlers subscribe to topics, then events are published one by one, each delivered before
the next. The answer holds the first `expect` handler calls, each the handler and the value
it was given, in report order by their text (`Report.arrange`), and how many calls came
beyond those.
-/

namespace Timebox

namespace Session

/-- The handler calls of publishing events in order. -/
def deliveries (e : Event.Emitter) (events : List (String × List Value)) : List (String × Value) :=
  events.flatMap fun (topic, args) => e.publish topic args

/-- The answer of an emitter script. -/
def emitterAnswer (subscriptions : List (String × String)) (events : List (String × List Value))
    (expect : Nat) : Json :=
  let e := subscriptions.foldl (fun e (topic, handler) => e.subscribe topic handler) Event.Emitter.empty
  let calls := deliveries e events
  let received := (calls.take expect).map fun (h, v) =>
    Json.obj [("handler", .str h), ("payload", v.toJson)]
  .obj [("received", .arr (Report.sorted received)), ("extra", .int (calls.length - expect))]

end Session

end Timebox
