import Timebox.Settings.Basic
import Timebox.Net.HostPort
import Timebox.Value.Basic

/-! # The rules settings must keep

* the deadline is greater than zero;
* the wait for abandoned work is at least zero;
* a file encoder, if given, is `console` or `json`;
* a metrics address, if given, is `host:port` (`Net.isHostnamePort`).

A not-a-number breaks both number rules. `Settings.violations` lists the rules broken,
each naming its field by the path of snake-case names under `Settings`; the messages of
all of them, sorted, make the error of `Settings.validate`.
-/

namespace Timebox

/-- A rule a field of the settings breaks, with the field's path. -/
inductive Violation where
  | notAbove (field : String) (bound : String)
  | below (field : String) (bound : String)
  | notOneOf (field : String) (choices : List String)
  | notHostPort (field : String)
deriving DecidableEq, Repr

/-- The message of a broken rule. -/
def Violation.message : Violation → String
  | .notAbove f b => "settings \"" ++ f ++ "\" must be greater than " ++ b
  | .below f b => "settings \"" ++ f ++ "\" must be at least " ++ b
  | .notOneOf f cs => "settings \"" ++ f ++ "\" must be one of [" ++ " ".intercalate cs ++ "]"
  | .notHostPort f => "settings \"" ++ f ++ "\" must be host:port"

namespace Settings

/-- The encoders a log file may use. -/
def fileEncoders : List String := ["console", "json"]

/-- The rules the settings break, in the order of the fields. -/
def violations (s : Settings) : List Violation :=
  (if !Double.zero.lt s.deadline then
      [.notAbove "Settings.deadline" "0"] else []) ++
  (if !Double.zero.le s.waitAbandoned then
      [.below "Settings.wait_abandoned" "0"] else []) ++
  (if s.logger.fileEncoder ≠ "" ∧ !fileEncoders.contains s.logger.fileEncoder then
      [.notOneOf "Settings.logger.file_encoder" fileEncoders] else []) ++
  (if s.metrics.listen ≠ "" ∧ !Net.isHostnamePort s.metrics.listen then
      [.notHostPort "Settings.metrics.listen"] else [])

/-- The messages of the broken rules, sorted, one per line; none if the settings keep all. -/
def validationMessage (s : Settings) : Option String :=
  match s.violations with
  | [] => none
  | vs => some ("\n".intercalate ((vs.map Violation.message).mergeSort fun a b => decide (a ≤ b)))

/-- The settings if they keep every rule, else the error listing the rules broken. -/
def validate (s : Settings) : Except Fault Settings :=
  match s.validationMessage with
  | none => .ok s
  | some msg => .error (.fundamental msg)

end Settings

end Timebox
