import Timebox.Log.Entry
import Timebox.Files.Tree
import Timebox.Settings.Basic
import Timebox.Text.Space
import Timebox.Text.Unicode

/-! # Where a logger writes, and from which level

A logger made from options writes to these sinks:

* the console, for levels from its console threshold up to but excluding `error`;
* the error stream, for `error` and above;
* with a file path, a file for levels from its file threshold up to but excluding
  `error`, and a file for `error` and above: the error file if one is named, else the same
  file.

A threshold is read from a setting (`Level.ofSetting`): trimmed and in lower case; empty
is `debug`, `disabled` is `error`, `warning` is `warn`, a level name is that level, and
anything else is `debug`. An empty option falls back to the environment: the console level
to `ZAP_CONSOLE_LOG_LEVEL`, the file level to `ZAP_LOG_LEVEL`.

`Sinks.level` is the lowest level any sink writes. Opening the file sinks makes the
directories of their files; a file named twice is opened once.
-/

namespace Timebox

namespace Log

/-- The level a threshold setting names. -/
def Level.ofSetting (s : String) : Level :=
  let t := String.map Text.toLower (Text.trimSpace s)
  if t = "" then .debug
  else if t = "disabled" then .error
  else if t = "warning" then .warn
  else (Level.all.find? (·.name = t)).getD .debug

/-- The environment variable of the console threshold. -/
def consoleLevelVariable : String := "ZAP_CONSOLE_LOG_LEVEL"

/-- The environment variable of the file threshold. -/
def fileLevelVariable : String := "ZAP_LOG_LEVEL"

/-- The thresholds of a logger's sinks, and whether it writes to files. -/
structure Sinks where
  console : Level
  file : Level
  toFile : Bool
deriving Repr, Inhabited

namespace Sinks

/-- The lowest level a sink below `error` writes, if it writes any. -/
def below (threshold : Level) : Option Level :=
  if threshold.rank < Level.error.rank then some threshold else none

/-- The lower of two levels. -/
def lower (a b : Level) : Level := if a.rank ≤ b.rank then a else b

/-- The lowest level any sink writes: the error stream always writes `error`. -/
def level (s : Sinks) : Level :=
  let levels := [below s.console, some .error, if s.toFile then below s.file else none]
  levels.foldl (fun acc l => match l with
    | some l => lower acc l
    | none => acc) .error

/-- A setting, or the environment's value when the setting is empty. -/
def settingOr (setting : String) (env : List (String × String)) (var : String) : String :=
  if setting ≠ "" then setting else (env.lookup var).getD ""

/-- Opens the file of a sink: makes its directory, unless the file is open already. -/
def openFile (tree : FileTree) (opened : List String) (path : String) :
    Except Fault (FileTree × List String) :=
  if opened.contains path then .ok (tree, opened)
  else
    match tree.mkdirAll (FileTree.dirName path) with
    | .ok t => .ok (t, opened ++ [path])
    | .error e => .error e

/-- The sinks of a logger made from options in an environment, and the tree after its
files' directories are made. -/
def make (tree : FileTree) (o : LoggerOptions) (env : List (String × String)) : Except Fault (FileTree × Sinks) := do
  let console := Level.ofSetting (settingOr o.consoleLevel env consoleLevelVariable)
  let file := Level.ofSetting (settingOr o.fileLevel env fileLevelVariable)
  if o.filePath = "" then return (tree, { console, file, toFile := false })
  let (tree, opened) ← openFile tree [] o.filePath
  let (tree, _) ← if o.errorFilePath ≠ "" then openFile tree opened o.errorFilePath else pure (tree, opened)
  return (tree, { console, file, toFile := true })

end Sinks

end Log

end Timebox
