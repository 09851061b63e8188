import Timebox.Settings.Write
import Timebox.Report.Value

/-! # Answers about settings

Settings answer as an object under their file names, with the deadline and the wait for
abandoned work also in nanoseconds; a failed load answers its error, or the panic it
stops with. Written settings answer the text written and how loading it back went.
-/

namespace Timebox

namespace Settings

/-- The logger options as an object. -/
def loggerJson (o : LoggerOptions) : Json :=
  .obj [("file_path", .str o.filePath), ("error_file_path", .str o.errorFilePath),
    ("file_encoder", .str o.fileEncoder), ("file_level", .str o.fileLevel), ("console_level", .str o.consoleLevel)]

/-- The metrics options as an object. -/
def metricsJson (o : MetricsOptions) : Json :=
  .obj [("namespace", .str o.namespaceName), ("subsystem", .str o.subsystem), ("listen", .str o.listen)]

/-- The settings as an object, with the two durations in nanoseconds. -/
def toJson (s : Settings) : Json :=
  .obj [("deadline", Json.ofDouble s.deadline), ("cancel_on_timeout", .bool s.cancelOnTimeout),
    ("wait_abandoned", Json.ofDouble s.waitAbandoned), ("output_encoding", .str s.outputEncoding),
    ("logger", loggerJson s.logger), ("metrics", metricsJson s.metrics),
    ("deadline_ns", .int s.deadlineDuration.ns), ("wait_abandoned_ns", .int s.waitAbandonedDuration.ns)]

/-- The answer of a failed load. -/
def LoadError.answer : LoadError → Json
  | .error e => e.answer
  | .panic msg => .obj [("error", .str "panic"), ("message", .str msg)]

/-- The answer of a load: the settings, or for a copy only that it succeeded. -/
def loadAnswer (tree : FileTree) (names : List String) (target : Target) : Json :=
  match load tree names target with
  | .ok s =>
    match target with
    | .copy _ => .obj [("ok", .bool true)]
    | _ => .obj [("settings", s.toJson)]
  | .error e => e.answer

/-- The answer of writing settings: the text written and whether loading it back into empty
settings gives the same settings, or why loading it back failed. -/
def writeAnswer (tree : FileTree) (s : Settings) (name : String) : Json :=
  match write tree s name with
  | .error e => e.answer
  | .ok (tree, text) =>
    match load tree [name] (.settings {}) with
    | .ok back => .obj [("content", .str text), ("roundtrip_equal", .bool (s.same back))]
    | .error e => .obj [("content", .str text), ("reload_error", e.answer)]

end Settings

end Timebox
