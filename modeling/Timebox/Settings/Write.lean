import Timebox.Settings.Load
import Timebox.Yaml.Emit
import Timebox.Json.Basic

/-! # Writing settings files

`Settings.write` writes settings to a file in the format its extension names: JSON for
`.json` and `.json5`, YAML for `.yaml` and `.yml`, in any case.

* JSON (`Settings.jsonText`) has one field per line, indented by two spaces per level,
  in the order of the fields; numbers with their shortest digits, positional from `1e-6`
  up to `1e21` and with two-digit exponents outside; `<`, `>` and `&` escaped. A number
  that is not finite cannot be written.
* YAML (`Settings.yamlText`) has a block mapping indented by four spaces per level;
  numbers in the general format of their shortest digits, texts quoted only where they
  would not read back as texts.
-/

namespace Timebox

namespace Settings

/-- The JSON text of a number, or the error of one that is not finite. -/
def jsonNumber (x : Double) : Except Fault String :=
  if x.isNaN ∨ x.isInf then .error (.plain ("unsupported value: " ++ x.toShortest))
  else .ok x.toPaddedJsonText

/-- A JSON object of ready members, indented by `pad` and two more spaces inside. -/
def jsonObject (pad : String) (members : List (String × String)) : String :=
  let inner := pad ++ "  "
  "\x7b\n" ++ ",\n".intercalate (members.map fun (k, v) => inner ++ Json.quote true k ++ ": " ++ v) ++
    "\n" ++ pad ++ "\x7d"

/-- A JSON string literal, with `<`, `>` and `&` escaped. -/
def jsonString (s : String) : String := Json.quote true s

/-- The settings as the text of a JSON file. -/
def jsonText (s : Settings) : Except Fault String := do
  let deadline ← jsonNumber s.deadline
  let wait ← jsonNumber s.waitAbandoned
  let l := s.logger
  let m := s.metrics
  pure (jsonObject ""
    [("deadline", deadline), ("cancel_on_timeout", if s.cancelOnTimeout then "true" else "false"),
     ("wait_abandoned", wait), ("output_encoding", jsonString s.outputEncoding),
     ("logger", jsonObject "  "
        [("file_path", jsonString l.filePath), ("error_file_path", jsonString l.errorFilePath),
         ("file_encoder", jsonString l.fileEncoder), ("file_level", jsonString l.fileLevel),
         ("console_level", jsonString l.consoleLevel)]),
     ("metrics", jsonObject "  "
        [("namespace", jsonString m.namespaceName), ("subsystem", jsonString m.subsystem),
         ("listen", jsonString m.listen)])])

/-- The settings as a YAML document. -/
def toDoc (s : Settings) : Yaml.Doc :=
  let l := s.logger
  let m := s.metrics
  .mapping
    [("deadline", .ofDouble s.deadline), ("cancel_on_timeout", .ofBool s.cancelOnTimeout),
     ("wait_abandoned", .ofDouble s.waitAbandoned), ("output_encoding", .ofText s.outputEncoding),
     ("logger", .mapping
        [("file_path", .ofText l.filePath), ("error_file_path", .ofText l.errorFilePath),
         ("file_encoder", .ofText l.fileEncoder), ("file_level", .ofText l.fileLevel),
         ("console_level", .ofText l.consoleLevel)]),
     ("metrics", .mapping
        [("namespace", .ofText m.namespaceName), ("subsystem", .ofText m.subsystem),
         ("listen", .ofText m.listen)])]

/-- The settings as the text of a YAML file. -/
def yamlText (s : Settings) : String := s.toDoc.render

/-- The text of a settings file in the format its name's extension names. -/
def fileText (s : Settings) (name : String) : Except Fault String :=
  let ext := extension name
  let text :=
    if isJsonExtension ext then s.jsonText
    else if isYamlExtension ext then .ok s.yamlText
    else .error (.fundamental ("the extension of file \"" ++ name ++ "\" must be .json,.yaml,.yml"))
  match text with
  | .ok t => .ok t
  | .error e => .error (.wrap "marshal settings error" e)

/-- The tree with the settings written to a file, and the text written. -/
def write (tree : FileTree) (s : Settings) (name : String) : Except Fault (FileTree × String) := do
  let text ← s.fileText name
  match tree.write name text with
  | .ok t => pure (t, text)
  | .error e => throw (.wrap "write settings file error" e)

end Settings

end Timebox
