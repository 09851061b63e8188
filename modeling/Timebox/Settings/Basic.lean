import Timebox.Yaml.Decode
import Timebox.Duration.Seconds

/-! # Settings of a timed run

`Settings` is what a run is configured by: the deadline and the time to wait for
abandoned work, in seconds; whether to cancel on timeout; the encoding of the command's
output; where and how to log; and what to name and where to serve metrics.

In a settings file each field has a snake-case name (`Settings.fieldNames`), and the file
is decoded by the shape `Settings.shape`. `Settings.defaults` are the settings before any
file: a 30-second deadline, console file encoding, and console logging from warnings up
unless the environment names a console level.
-/

namespace Timebox

/-- Where and how to log. -/
structure LoggerOptions where
  filePath : String := ""
  errorFilePath : String := ""
  fileEncoder : String := ""
  fileLevel : String := ""
  consoleLevel : String := ""
deriving DecidableEq, Repr, Inhabited

/-- What to name metrics and where to serve them; an empty address serves none. -/
structure MetricsOptions where
  namespaceName : String := ""
  subsystem : String := ""
  listen : String := ""
deriving DecidableEq, Repr, Inhabited

/-- The settings of a timed run. -/
structure Settings where
  /-- Seconds a run may take. -/
  deadline : Double := Double.zero
  cancelOnTimeout : Bool := false
  /-- Seconds to wait for work that went past its deadline; zero waits not at all. -/
  waitAbandoned : Double := Double.zero
  outputEncoding : String := ""
  logger : LoggerOptions := {}
  metrics : MetricsOptions := {}
deriving Repr, Inhabited

namespace Settings

/-- The settings before any file; `consoleFromEnv` when the environment names the console
level, which then stays empty here. -/
def defaultsWith (consoleFromEnv : Bool) : Settings :=
  { deadline := Double.ofInt 30
    logger := { fileEncoder := "console", consoleLevel := if consoleFromEnv then "" else "warning" }
    metrics := { namespaceName := "deadline" } }

/-- The settings before any file, with no console level in the environment. -/
def defaults : Settings := defaultsWith false

/-- The deadline as a duration. -/
def deadlineDuration (s : Settings) : Duration := Duration.ofSeconds s.deadline

/-- The wait for abandoned work as a duration. -/
def waitAbandonedDuration (s : Settings) : Duration := Duration.ofSeconds s.waitAbandoned

/-- Whether two settings are equal field by field, the numbers compared as numbers (so a
not-a-number deadline equals nothing). -/
def same (a b : Settings) : Bool :=
  a.deadline.eq b.deadline ∧ a.cancelOnTimeout = b.cancelOnTimeout ∧
    a.waitAbandoned.eq b.waitAbandoned ∧ a.outputEncoding = b.outputEncoding ∧
    a.logger = b.logger ∧ a.metrics = b.metrics

end Settings

namespace LoggerOptions

/-- The shape of the logger options in a file. -/
def shape : Yaml.Shape :=
  .record "logger.LoggerOptions"
    [("file_path", .text), ("error_file_path", .text), ("file_encoder", .text), ("file_level", .text),
      ("console_level", .text)]

/-- The options as a decoded record. -/
def toDatum (o : LoggerOptions) : Yaml.Datum :=
  .record [("file_path", .text o.filePath), ("error_file_path", .text o.errorFilePath),
    ("file_encoder", .text o.fileEncoder), ("file_level", .text o.fileLevel),
    ("console_level", .text o.consoleLevel)]

end LoggerOptions

namespace MetricsOptions

/-- The shape of the metrics options in a file. -/
def shape : Yaml.Shape :=
  .record "conf.MetricsOptions" [("namespace", .text), ("subsystem", .text), ("listen", .text)]

/-- The options as a decoded record. -/
def toDatum (o : MetricsOptions) : Yaml.Datum :=
  .record [("namespace", .text o.namespaceName), ("subsystem", .text o.subsystem), ("listen", .text o.listen)]

end MetricsOptions

namespace Yaml.Datum

/-- A text field of a record, or a fallback. -/
def textAt (d : Datum) (name : String) (dflt : String) : String :=
  match d.field name with
  | .text s => s
  | _ => dflt

/-- A float field of a record, or a fallback. -/
def floatAt (d : Datum) (name : String) (dflt : Double) : Double :=
  match d.field name with
  | .float x => x
  | _ => dflt

/-- A boolean field of a record, or a fallback. -/
def boolAt (d : Datum) (name : String) (dflt : Bool) : Bool :=
  match d.field name with
  | .bool b => b
  | _ => dflt

end Yaml.Datum

namespace LoggerOptions

/-- The options a decoded record holds, the given ones where it holds none. -/
def ofDatum (o : LoggerOptions) (d : Yaml.Datum) : LoggerOptions :=
  { filePath := d.textAt "file_path" o.filePath
    errorFilePath := d.textAt "error_file_path" o.errorFilePath
    fileEncoder := d.textAt "file_encoder" o.fileEncoder
    fileLevel := d.textAt "file_level" o.fileLevel
    consoleLevel := d.textAt "console_level" o.consoleLevel }

end LoggerOptions

namespace MetricsOptions

/-- The options a decoded record holds, the given ones where it holds none. -/
def ofDatum (o : MetricsOptions) (d : Yaml.Datum) : MetricsOptions :=
  { namespaceName := d.textAt "namespace" o.namespaceName
    subsystem := d.textAt "subsystem" o.subsystem
    listen := d.textAt "listen" o.listen }

end MetricsOptions

namespace Settings

/-- The shape of settings in a file. -/
def shape : Yaml.Shape :=
  .record "conf.Settings"
    [("deadline", .float), ("cancel_on_timeout", .bool), ("wait_abandoned", .float),
      ("output_encoding", .text), ("logger", LoggerOptions.shape), ("metrics", MetricsOptions.shape)]

/-- The settings as a decoded record. -/
def toDatum (s : Settings) : Yaml.Datum :=
  .record [("deadline", .float s.deadline), ("cancel_on_timeout", .bool s.cancelOnTimeout),
    ("wait_abandoned", .float s.waitAbandoned), ("output_encoding", .text s.outputEncoding),
    ("logger", s.logger.toDatum), ("metrics", s.metrics.toDatum)]

/-- The settings a decoded record holds, the given ones where it holds none. -/
def ofDatum (s : Settings) (d : Yaml.Datum) : Settings :=
  { deadline := d.floatAt "deadline" s.deadline
    cancelOnTimeout := d.boolAt "cancel_on_timeout" s.cancelOnTimeout
    waitAbandoned := d.floatAt "wait_abandoned" s.waitAbandoned
    outputEncoding := d.textAt "output_encoding" s.outputEncoding
    logger := s.logger.ofDatum (d.field "logger")
    metrics := s.metrics.ofDatum (d.field "metrics") }

end Settings

end Timebox
