import Timebox.Command.Run
import Timebox.Report.Value
import Timebox.Encoding.Decode
import Timebox.Run.Executor

/-! # Answers about commands

A command answers its path and arguments, the line it is executed as, whether its path
is an executable file, and its name and arguments as a job.

A run of a command adds its result (`null` when it has none) and its error. Run under a
deadline, on an executor named `cmd` whose log is observed, it adds the state of the
outcome, the result inside an exit error, whether the abandoned work ended within three
seconds (for a timeout that cancels), and how many warnings were logged.
-/

namespace Timebox

namespace Command

/-- The fields describing a command to run. -/
def describe (work : FileTree) (c : Command) : List (String × Json) :=
  [("path", .str c.path), ("args", .arr (c.args.map .str)), ("string", .str c.text),
    ("executable", .bool (c.isExecutable work))]

/-- The answer describing a command, with its name and arguments as a job. -/
def answer (work : FileTree) (c : Command) : Json :=
  .obj (describe work c ++ [("job", .str c.jobName), ("job_args", c.jobArgs.toJson)])

/-- The report of a run's result value: the result, or `null`. -/
def resultJson : Value → Json
  | .output r => Report.runOutput r
  | _ => .null

/-- The report of a run's error, or `null`. -/
def errJson : Option Fault → Json
  | some f => f.toJson
  | none => .null

/-- The answer of running a command and waiting for it. -/
def executeAnswer (work : FileTree) (c : Command) (caller : Process.Env) : Json :=
  let (v, e) := (c.execute work caller).getD (Value.zero resultTy, none)
  .obj (describe work c ++ [("result", resultJson v), ("err", errJson e)])

/-- How long the wait for abandoned works lasts after a run that timed out. -/
def abandonWait : Int := 3000000000

/-- The answer of running a command under a deadline. -/
def deadlineAnswer (work : FileTree) (c : Command) (caller : Process.Env) (deadline : Int)
    (cancel : Bool) : Json :=
  let exec := Executor.make "cmd" "" cancel none false true
  let w : World := ⟨0, Metrics.Registry.empty ⟨"", "", []⟩, [], [], exec, Executor.fallback⟩
  let (w, r) := w.run .main resultTy RunContext.background (some (c.job work caller Frame.unknown)) deadline
  match r with
  | .error (.error f) => f.answer
  | .error (.panic v) => .obj [("error", .str "panic"), ("message", .str v.show)]
  | .ok o =>
    let (w, finished) : World × List (String × Json) :=
      if o.isTimedOut ∧ cancel then
        let (w, b) := w.waitAbandoned .main abandonWait
        (w, [("all_finished", .bool b)])
      else (w, [])
    let warnings := (w.logs.filter (·.level = .warn)).length
    let exitPart : List (String × Json) := match o.err.bind Fault.exitOutput? with
      | some out => [("exit_result", Report.runOutput out)]
      | none => []
    .obj (describe work c ++ [("state", .str o.stateName), ("result", resultJson o.value),
      ("err", errJson o.err)] ++ exitPart ++ finished ++ [("warnings", .int warnings)])

end Command

/-- The answer of looking an encoding up by a label: its preferred name, or the error. -/
def Encoding.lookupAnswer (label : String) : Json :=
  match Encoding.lookup label with
  | .ok e => .obj [("name", .str e.name)]
  | .error f => f.answer

end Timebox
