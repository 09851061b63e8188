import Timebox.Program.Options

/-! # The parts of a path: `basename` and `dirname`

`basename name [suffix]` writes the last part of a path, without the suffix when the part
is longer than it and ends in it; with `-a` (or `-s suffix`, which implies it) every operand
is a path. Options stand only before the first operand. `dirname path…` writes the
directory part of each path. With `-z` each answer ends in a zero byte instead of a
newline.
-/

namespace Timebox

namespace Program

open Options (Spec)

/-- The options of `basename`. -/
def basenameSpecs : List Spec :=
  [{ key := "a", letter := some 'a', long := some "multiple" },
   { key := "s", letter := some 's', long := some "suffix", value := true },
   { key := "z", letter := some 'z', long := some "zero" },
   { key := "help", long := some "help" },
   { key := "version", long := some "version" }]

/-- `basename`. -/
def basename (inv : Invocation) : Effect :=
  match Options.scan inv.name 1 basenameSpecs inv.args true with
  | .error e => e
  | .ok (settings, ops) =>
    let ending := if Options.has settings "z" then "\x00" else "\n"
    let suffix := Options.last? settings "s"
    let multiple := Options.has settings "a" || suffix.isSome
    let write (names : List String) (sfx : String) : Effect :=
      names.foldl (fun e p => e.say (baseNameOf p sfx ++ ending)) {}
    match ops with
    | [] => usageError inv.name "missing operand"
    | [p] => write [p] (suffix.getD "")
    | p :: rest =>
      if multiple then write (p :: rest) (suffix.getD "")
      else
        match rest with
        | [s] => write [p] s
        | _ => usageError inv.name ("extra operand " ++ Printf.quoteArg (rest.getD 1 ""))

/-- The options of `dirname`. -/
def dirnameSpecs : List Spec :=
  [{ key := "z", letter := some 'z', long := some "zero" },
   { key := "help", long := some "help" },
   { key := "version", long := some "version" }]

/-- `dirname`. -/
def dirname (inv : Invocation) : Effect :=
  match Options.scan inv.name 1 dirnameSpecs inv.args with
  | .error e => e
  | .ok (settings, ops) =>
    let ending := if Options.has settings "z" then "\x00" else "\n"
    if ops.isEmpty then usageError inv.name "missing operand"
    else ops.foldl (fun e p => e.say (dirNameOf p ++ ending)) {}

end Program

end Timebox
