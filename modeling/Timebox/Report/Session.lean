import Timebox.Session.Executor
import Timebox.Report.Value
import Timebox.Report.Metrics
import Timebox.Report.Order

/-! # Outcomes, log entries, events and sessions as JSON documents

* An outcome is `{state, completed, failed, timed_out, value, ok, err, result_value,
  result_err, string}`. The wait of a timed out outcome is written `<elapsed>`, since it
  depends on the clock of the run and not on the program.
* A log entry is `{level, message, logger, fields}`; fields are an object in which a later
  field replaces an earlier one of the same key. The position of the call and the elapsed
  time are left out. The executor's name stands as a text, a duration as its nanoseconds,
  a ready field given as a value as the field's printed structure, and any other value as
  a typed value.
* An event is `{topic, payload}`; as in log entries, the place a job was made is left out.
* A session answer holds the step results, the executor's name (when it was given one), its
  count of abandoned calls, the log entries and the events, each in report order by their text (`arrange`), and
  the gathered metrics with histograms given by their counts.
-/

namespace Timebox

namespace Report

/-- A job name as reports show it: the closure of a described work is `<anonymous>`, since
its name depends on the code that makes it. -/
def shown (name : String) : String := if name = Session.closureName then "<anonymous>" else name

/-- The text of an elapsed time in reports. -/
def elapsedMark : String := "<elapsed>"

/-- The members of an outcome object. -/
def outcomeMembers (o : Outcome) : List (String × Json) :=
  let (rv, re) := o.resultWith elapsedMark
  [("state", .str o.stateName), ("completed", .bool o.isCompleted), ("failed", .bool o.isFailed),
    ("timed_out", .bool o.isTimedOut), ("value", o.value.toJson), ("ok", .bool o.isCompleted),
    ("err", match o.err with
      | some e => e.toJson
      | none => .null),
    ("result_value", rv.toJson),
    ("result_err", match re with
      | some e => e.toJson
      | none => .null),
    ("string", .str (o.textWith elapsedMark))]

/-- An outcome object. -/
def outcome (o : Outcome) : Json := .obj (outcomeMembers o)

/-- A list of arguments as a typed value. -/
def argsJson (args : List Value) : Json := (Value.slice .any args).toJson

/-- The printed structure of a ready field: its key, type code, integer, text and value. -/
def fieldText (key : String) : Value → String
  | .int _ i => "\x7b" ++ key ++ " 11 " ++ toString i ++ "  <nil>\x7d"
  | .str s => "\x7b" ++ key ++ " 15 0 " ++ s ++ " <nil>\x7d"
  | v => "\x7b" ++ key ++ " 23 0  " ++ v.show ++ "\x7d"

/-- The report of a field. -/
def datum (key : String) : Log.Datum → Json
  | .value (.str s) =>
    if key = "executor" then .str s
    else if key = "job" then (Value.str (shown s)).toJson
    else (Value.str s).toJson
  | .value (.duration ns) => .int ns
  | .value v => v.toJson
  | .field k v => .obj [("type", .str "zapcore.Field"), ("v", .str (fieldText k v))]

/-- The fields of an entry, the last of each key kept, without the call position and the
elapsed time. -/
def fieldsJson (fields : List (String × Log.Datum)) : Json :=
  let kept := fields.filter fun (k, _) => k ≠ "caller" ∧ k ≠ "elapsed"
  let last := kept.foldl (fun acc (k, d) => (acc.filter (·.1 ≠ k)) ++ [(k, d)]) []
  .obj (last.map fun (k, d) => (k, datum k d))

/-- A log entry. -/
def entry (e : Log.Entry) : Json :=
  .obj [("level", .str e.level.name), ("message", .str e.message), ("logger", .str e.logger),
    ("fields", fieldsJson e.fields)]

/-- An event. -/
def event (e : Event) : Json :=
  let payload : Json := match e.payload with
    | .timeout executor job args deadline _ =>
      .obj [("executor", .str executor), ("job", .str (shown job)), ("args", argsJson args),
        ("deadline", .int deadline.ns)]
    | .abandonedDone executor job err =>
      .obj [("executor", .str executor), ("job", .str (shown job)),
        ("err", match err with
          | some f => f.toJson
          | none => .null)]
  .obj [("topic", .str e.topic), ("payload", payload)]

/-- Documents in report order, keyed by their text (`arrange`). -/
def sorted (js : List Json) : List Json := arrange (js.map Json.sortText) js

/-- The report of a panic of a step. -/
def panicJson (v : Value) : Json :=
  match v with
  | .error e => e.answer
  | v => .obj [("error", .str "panic"), ("message", .str v.show), ("is", .arr [])]

/-- The report of one call through a wrapped function. -/
def callResult : Session.CallResult → Json
  | .outcome o => outcome o
  | .rejected o e => .obj (outcomeMembers o ++ [("call_error", e.answer)])

/-- The report of a step. -/
def stepResult : Session.StepResult → Json
  | .outcome o job args =>
    .obj (outcomeMembers o ++ (job.map fun n => [("job", Json.str (shown n))]).getD [] ++
      (args.map fun a => [("args", argsJson a)]).getD [])
  | .refused e => e.answer
  | .panicked v => .obj [("panic", panicJson v)]
  | .workNil => .obj [("work_nil", .bool true)]
  | .bindError e => .obj [("bind_error", e.answer)]
  | .wrapError e => .obj [("wrap_error", e.answer)]
  | .calls rs => .obj [("calls", .arr (rs.map callResult))]
  | .waited all n => .obj [("all_finished", .bool all), ("abandoned", .int n)]
  | .abandoned n => .obj [("abandoned", .int n)]

/-- The answer of a session; `stepsOnly` keeps only the step results. -/
def session (s : Session.Setup) (stepsOnly : Bool) (w : World) (results : List Session.StepResult) :
    Json :=
  let steps := ("steps", Json.arr (results.map stepResult))
  if stepsOnly then .obj [steps]
  else
    let name := if s.name.isEmpty ∨ s.nilExecutor then [] else [("name", Json.str s.name)]
    let own := if s.nilExecutor then []
      else [("abandoned", Json.int (w.abandoned .main)), ("logs", Json.arr (sorted (w.logs.map entry)))]
    let metrics := if s.metrics.isSome then [("metrics", w.registry.toJson true shown)] else []
    let events := if s.events then [("events", Json.arr (sorted (w.events.map event)))] else []
    .obj ([steps] ++ name ++ own ++ metrics ++ events)

end Report

end Timebox
