import Timebox.Log.Entry
import Timebox.Report.Session
import Timebox.Log.Sinks

/-! # Scripted sessions with a logger

* `logCalls`: a logger, optionally named and given context arguments, logs a list of calls.
  A call at the panic level logs its entry and then panics with its message, which ends the
  script.
* `writerRun`: a writer at a level with context arguments takes chunks of text, then is
  closed unless told not to be.
* `levelAnswer`: a logger is made from options, its lowest level is asked, its thresholds
  are changed, and its lowest level is asked again.
-/

namespace Timebox

namespace Session

/-- A log call: its level, message and arguments. -/
structure LogCall where
  level : Log.Level
  msg : String
  args : List Log.Arg

/-- The entries of the calls, or the message of the panic that ended them. -/
def logCalls (l : Log.Logger) : List LogCall → Except String (List Log.Entry)
  | [] => .ok []
  | c :: rest =>
    if c.level = .panic then .error c.msg
    else (logCalls l rest).map (l.entry c.level c.msg c.args :: ·)

/-- The answer of a log script. -/
def logAnswer (name : String) (context : List Log.Arg) (calls : List LogCall) : Json :=
  let l := (Log.Logger.root.named name).withArgs context
  match logCalls l calls with
  | .ok es => .obj [("entries", .arr (es.map Report.entry))]
  | .error msg => .obj [("error", .str "panic"), ("message", .str msg)]

/-- The entries a writer logs for the chunks written to it, and on closing unless `keepOpen`. -/
def writerRun (level : Log.Level) (context : List Log.Arg) (chunks : List String) (keepOpen : Bool) :
    List Log.Entry :=
  let w := Log.Writer.make (Log.Logger.root.withArgs context) level
  let (w, es) := chunks.foldl (fun (w, acc) chunk => let (w1, es) := w.write chunk; (w1, acc ++ es)) (w, [])
  if keepOpen then es else es ++ w.close.2

/-- The answer of a writer script. -/
def writerAnswer (level : Log.Level) (context : List Log.Arg) (chunks : List String) (keepOpen : Bool) :
    Json :=
  .obj [("entries", .arr ((writerRun level context chunks keepOpen).map Report.entry))]

/-- The lowest level of a logger made from options, and again after new console and file
thresholds, where given, are set; or the error of opening its files. -/
def levelAnswer (tree : FileTree) (o : LoggerOptions) (env : List (String × String))
    (setConsole setFile : Option Log.Level) : Json :=
  match Log.Sinks.make tree o env with
  | .error e => e.answer
  | .ok (_, s) =>
    let after := { s with console := setConsole.getD s.console, file := setFile.getD s.file }
    .obj [("level", .str s.level.name), ("after", .str after.level.name)]

end Session

end Timebox
