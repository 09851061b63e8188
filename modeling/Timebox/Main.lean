import Timebox.Cli.Program

/-! # The deadline-run command

The command line of `Cli.process`: it reads the settings files its arguments name from the
working directory, takes the search path and home from its environment, runs, writes the
two outputs and exits with the status. It opens no network connection: every metrics
address is taken as one it can listen on.
-/

open Timebox

/-- Reads a file of the working directory, if it can be read. -/
def readIfPresent (name : String) : IO (Option (String × String)) := do
  try
    let text ← IO.FS.readFile name
    return some (name, text)
  catch _ =>
    return none

def main (args : List String) : IO UInt32 := do
  let files ← (Cli.configFiles args).filterMapM readIfPresent
  let names := ["PATH", "HOME", "ZAP_CONSOLE_LOG_LEVEL"]
  let env ← names.filterMapM fun n => do
    return (← IO.getEnv n).map (n, ·)
  let e := Cli.process (fun _ => none) args (FileTree.ofFiles files) env
  let out ← IO.getStdout
  out.write (ByteArray.mk e.stdout.toArray)
  out.flush
  let err ← IO.getStderr
  err.write (ByteArray.mk e.stderr.toArray)
  err.flush
  return e.status.toUInt32
