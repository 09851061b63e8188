import Timebox.Settings.Validate
import Timebox.Files.Tree
import Timebox.Text.Unicode

/-! # Loading settings files

`Settings.load` reads settings files in turn into one place, each file overriding what
the ones before it set, and then checks the rules. A file is read as YAML (of which JSON is
a part) when its extension is `.json`, `.json5`, `.yaml` or `.yml` in any case; any other
extension is refused, after the file has been read.

The place is usually settings to update (`Target.settings`). It may also be a copy of
settings, which decoding cannot write into; an integer or a map, which have no rules to
check; or nothing at all, which a document cannot be decoded into.
-/

namespace Timebox

namespace Settings

/-- What settings files are loaded into. -/
inductive Target where
  /-- Settings to update, starting from these. -/
  | settings (start : Settings)
  /-- A copy of settings: decoding may read it but not write into it. -/
  | copy (s : Settings)
  | int
  | textMap
  /-- No place at all. -/
  | nothing
deriving Inhabited

/-- Why loading failed: an error, or a fault of the caller's place that stops the program
with a message. -/
inductive LoadError where
  | error (e : Fault)
  | panic (message : String)
deriving Inhabited

/-- The extension of a file name: from the last dot of its last part, or empty. -/
def extension (name : String) : String :=
  let last := name.toList.reverse.takeWhile (· ≠ '/')
  match last.findIdx? (· = '.') with
  | some i => String.ofList (last.take (i + 1)).reverse
  | none => ""

/-- Whether an extension is one of a JSON file. -/
def isJsonExtension (ext : String) : Bool := Text.equalFold ext ".json" || Text.equalFold ext ".json5"

/-- Whether an extension is one of a YAML file. -/
def isYamlExtension (ext : String) : Bool := Text.equalFold ext ".yaml" || Text.equalFold ext ".yml"

/-- The shape of a target, whether it can be written, and what it holds. -/
def Target.place : Target → Yaml.Shape × Bool × Yaml.Datum
  | .settings s => (Settings.shape, true, s.toDatum)
  | .copy s => (Settings.shape, false, s.toDatum)
  | .int => (.int, true, .int 0)
  | .textMap => (.textMap, true, .null)
  | .nothing => (.any, true, .null)

/-- The message of a write into a read-only place. -/
def readOnlyMessage (method : String) : String := "reflect: " ++ method ++ " using unaddressable value"

/-- The message of decoding a document into no place. -/
def noPlaceMessage : String := "reflect: call of reflect.Value.Type on zero Value"

/-- What a place holds after one file's text is decoded into it. -/
def decodeFile (name : String) (target : Target) (text : String) (cur : Yaml.Datum) :
    Except LoadError Yaml.Datum :=
  let wrap (e : Yaml.ReadError) : LoadError :=
    .error (.wrap ("unmarshal settings file \"" ++ name ++ "\" error") (.plain e.message))
  let (shape, settable, _) := target.place
  match target with
  | .nothing =>
    match Yaml.compose text with
    | .error e => .error (wrap e)
    | .ok tree => if tree.root.isSome then .error (.panic noPlaceMessage) else .ok cur
  | _ =>
    match Yaml.decodeInto text shape settable cur with
    | .ok v => .ok v
    | .error (.read e) => .error (wrap e)
    | .error (.readOnly m) => .error (.panic (readOnlyMessage m))
    | .error (.unhashable t) => .error (.panic ("runtime error: hash of unhashable type " ++ t))

/-- What a place holds after the files are decoded into it in turn. -/
def loadFiles (tree : FileTree) (target : Target) : List String → Yaml.Datum → Except LoadError Yaml.Datum
  | [], cur => .ok cur
  | name :: rest, cur =>
    match tree.read name with
    | .error e => .error (.error (.wrap "read settings file error" e))
    | .ok text =>
      let ext := extension name
      if isJsonExtension ext || isYamlExtension ext then
        match decodeFile name target text cur with
        | .ok v => loadFiles tree target rest v
        | .error e => .error e
      else .error (.error (.fundamental ("unsupported settings format of \"" ++ name ++ "\"")))

/-- The error of checking rules on a place that is not settings. -/
def notSettings (typeName : String) : LoadError :=
  .error (.wrap "validate settings error" (.plain ("validator: (" ++ typeName ++ ")")))

/-- The settings loaded from files into a target and checked; for a target that is no
settings, the error that it cannot be checked. -/
def load (tree : FileTree) (names : List String) (target : Target) : Except LoadError Settings :=
  let (_, _, start) := target.place
  match loadFiles tree target names start with
  | .error e => .error e
  | .ok v =>
    match target with
    | .settings s | .copy s =>
      match (s.ofDatum v).validate with
      | .ok r => .ok r
      | .error e => .error (.error e)
    | .int => .error (notSettings "nil *int")
    | .textMap => .error (notSettings "nil *map[string]interface {}")
    | .nothing => .error (notSettings "nil")

end Settings

end Timebox
