import Timebox.Cli.Flags
import Timebox.Report.Command
import Timebox.Settings.Load
import Timebox.Settings.Validate
import Timebox.Log.Sinks

/-! # The deadline-run program

`deadline-run [flags] -- command [args...]` runs a command under a deadline and exits as
the `timeout` tool of the core utilities does: with the command's own exit code when it
ends in time (0 when it succeeds), 124 when the deadline passes first, 127 when the command
cannot start, 1 when the run fails otherwise, and 2 for a wrong call, after the message
`deadline-run: …`.

Its settings are the defaults, then each settings file given with `-c` in turn (checked as
they load), then the flags; they are checked again. A single operand is a command line
(`Command.ofLine`), several are a program and its arguments. The command's output goes to
the program's own output, decoded from `--output-encoding` when it is given, as far as the
command wrote it before the program exits: after a timeout the program waits at most
`--wait-abandoned` for the command, which runs on unless `--cancel-on-timeout` kills it.

`Cli.execute` is the program's entry point, from the arguments, the working tree and the
environment to the exit code and the two outputs; `Cli.process` is the program as a process,
whose exit status is that code modulo 256. Serving the metrics (`--metrics-listen`) registers
the executor's collectors, which panics on a namespace or subsystem that makes no valid
metric name, and listens on the address, which may fail.
-/

namespace Timebox

namespace Cli

open Process

/-- The program's name, in its messages. -/
def programName : String := "deadline-run"

/-- The flags of the program. -/
def flags : List FlagSpec :=
  [{ name := "config", short := some 'c', kind := .texts, usage := "JSON/YAML 配置文件, 可以多个, 后面的覆盖前面的" },
   { name := "deadline", short := some 'd', kind := .text, usage := "最多等待的时间, 比如: 2.5, 2.5s, 300ms" },
   { name := "cancel-on-timeout", kind := .switch, usage := "超时后终止命令" },
   { name := "wait-abandoned", kind := .text, usage := "超时后, 退出前最多再等待命令的时间, 比如: 5s" },
   { name := "output-encoding", kind := .text, usage := "命令输出的编码, 比如: gbk" },
   { name := "metrics-listen", kind := .text, usage := "提供 /metrics 的地址, 比如: 127.0.0.1:9100" },
   { name := "log-output", kind := .switch, usage := "同时将命令的输出写入日志" },
   { name := "help", short := some 'h', kind := .switch, usage := "help for deadline-run" }]

/-- What the program does, as its help says. -/
def description : String :=
  "deadline-run 在限定时间内运行一个命令, 超时后不再等待它, 以124退出。\n\n默认情况下超时的命令不会被终止, 会在后台继续运行, 直到本进程退出。\n\n使用示例：\n  # 最多等待2.5秒\n  deadline-run --deadline 2.5 -- curl -s http://example.com\n\n  # 只有一个参数时, 按shell的规则解析, 管道、重定向交给shell运行\n  deadline-run --deadline 300ms \"sleep 1 | echo done\"\n\n  # 超时后终止命令\n  deadline-run --deadline 1s --cancel-on-timeout -- sleep 10"

/-- How the program is called. -/
def useLine : String := "deadline-run [flags] -- command [args...]"

/-- The help text. -/
def helpText : String :=
  description ++ "\n\nUsage:\n  " ++ useLine ++ "\n\nFlags:\n" ++ Flags.usage flags ++ "\n"

/-- What a call of the program's entry point returns: the exit code, and what it wrote. The
code is the command's own when the command exited with one, which is `-1` for a command a
signal ended. -/
structure Exit where
  code : Int
  stdout : List UInt8 := []
  stderr : List UInt8 := []
deriving Inhabited

/-- How the program ends as a process: the exit status its parent sees, and what it wrote. -/
structure Exited where
  status : Nat
  stdout : List UInt8
  stderr : List UInt8

/-- A wrong call: the message, exit code 2. -/
def invalid (msg : String) : Exit := { code := 2, stderr := Text.utf8Bytes (programName ++ ": " ++ msg ++ "\n") }

/-- The exit codes of the program. -/
def exitTimedOut : Int := 124

/-- The exit code of a command that cannot start. -/
def exitNotStarted : Int := 127

/-- The settings files a command line names. -/
def configFiles (args : List String) : List String :=
  match Flags.parse flags args with
  | .ok v => v.list "config"
  | .error _ => []

/-- The seconds of a duration flag, or its error. -/
def durationFlag (name text : String) : Except String Double :=
  match Duration.read text with
  | .ok d => .ok d.seconds
  | .error e => .error ("--" ++ name ++ ": " ++ e.message)

/-- The settings of a run: defaults, files, flags, checked. -/
def settingsOf (work : FileTree) (env : Env) (v : FlagValues) : Except String Settings := do
  let base := Settings.defaultsWith (env.any fun (k, val) => k = "ZAP_CONSOLE_LOG_LEVEL" ∧ val ≠ "")
  let configs := v.list "config"
  let s ← if configs.isEmpty then pure base else
    match Settings.load work configs (.settings base) with
    | .ok s => pure s
    | .error (.error e) => throw e.message
    | .error (.panic m) => throw m
  let s ← match v.last? "deadline" with
    | some t => do let d ← durationFlag "deadline" t; pure { s with deadline := d }
    | none => pure s
  let s ← match v.last? "wait-abandoned" with
    | some t => do let d ← durationFlag "wait-abandoned" t; pure { s with waitAbandoned := d }
    | none => pure s
  let s := if v.changed "cancel-on-timeout" then { s with cancelOnTimeout := v.switch "cancel-on-timeout" } else s
  let s := match v.last? "output-encoding" with
    | some e => { s with outputEncoding := e }
    | none => s
  let s := match v.last? "metrics-listen" with
    | some l => { s with metrics := { s.metrics with listen := l } }
    | none => s
  match s.validate with
  | .ok s => pure s
  | .error e => throw e.message

/-- The command of the operands: one is a command line, more are a program and its
arguments; decoded from the settings' encoding when they name one. -/
def commandOf (work : FileTree) (s : Settings) (operands : List String) : Except String Command := do
  let enc ← if s.outputEncoding.isEmpty then pure none else
    match Encoding.lookup s.outputEncoding with
    | .ok e => pure (some e)
    | .error f => throw f.message
  let c ← match operands with
    | [line] => match Command.ofLine work line with
      | .ok c => pure c
      | .error f => throw f.message
    | p :: args => pure (Command.make work p args)
    | [] => throw "no command"
  pure { c with encoding := enc }

/-- Where the program makes the job of its command: in `run` of its command-line package,
the file named relative to the module's root. -/
def runSite : Frame := ⟨"gopkg.in/go-mixed/deadline.v1/cli.run", "cli/root.go", 274⟩

/-- The exit status a process gives its parent when it exits with a code: the code modulo
256, so that a signal's −1 reads as 255. -/
def exitByte (code : Int) : Nat := (code % 256).toNat

/-- The executor's metrics of a run: with a listen address, its collectors registered in a
new registry under the settings' namespace and subsystem, or the panic of registering them
under names the registry refuses; without one, no collectors. -/
def metricsOf (s : Settings) : Except String (Metrics.Registry × Option Metrics.Collectors) :=
  if s.metrics.listen.isEmpty then .ok (Metrics.Registry.empty ⟨"", "", []⟩, none)
  else
    match Metrics.Collectors.make.run (Metrics.Registry.empty ⟨s.metrics.namespaceName, s.metrics.subsystem, []⟩) with
    | .ok c r => .ok (r, some c)
    | .error e _ => .error e

/-- Why the metrics of the settings cannot be served: the error of listening on their
address, given by `listen`, when they have one. -/
def serveError (listen : String → Option String) (s : Settings) : Option String :=
  if s.metrics.listen.isEmpty then none
  else (listen s.metrics.listen).map fun e => "listen metrics on " ++ s.metrics.listen ++ ": " ++ e

/-- The world the program runs its command in: its own executor, named after the program,
with the collectors of its metrics if any and with events, its entries observed, on a clock
at zero. -/
def runWorld (s : Settings) (registry : Metrics.Registry) (collectors : Option Metrics.Collectors) :
    World :=
  ⟨0, registry, [], [], Executor.make programName "" s.cancelOnTimeout collectors true true,
    Executor.fallback⟩

/-- The exit code for an outcome of the command, and the message the program adds: 0 when
it completed; when it failed, the exit code of the command that exited, else 127 with the
error when it could not start, else 1 with the error; 124 when it timed out. -/
def outcomeExit (o : Outcome) : Int × Option String :=
  match o.state with
  | some .completed => (0, none)
  | some .failed =>
    match o.err with
    | some e =>
      match e.exitCode? with
      | some x => (x, none)
      | none => if e.hasStartFailure then (exitNotStarted, some e.message) else (1, some e.message)
    | none => (1, none)
  | _ => (exitTimedOut, none)

/-- Runs the command once on the program's world, and ends by its outcome: a run that is
refused is a wrong call, and a panic of the run escapes. Gives the panic, or the exit code
and what the program and the command wrote. -/
def runCommand (s : Settings) (w : World) (work : FileTree) (env : Env) (c : Command) :
    Except String Exit :=
  let (w, r) := w.run .main Command.resultTy RunContext.background
    (some (c.job work env runSite)) s.deadlineDuration.ns
  match r with
  | .error (.error f) => .ok (invalid f.message)
  | .error (.panic p) => .error p.show
  | .ok o =>
    let (code, msg) := outcomeExit o
    -- after a timeout the program waits for the command a while before it exits
    let w := match o.state with
      | some .completed | some .failed => w
      | _ =>
        let wait := s.waitAbandonedDuration.ns
        if wait > 0 then (w.waitAbandoned .main wait).1 else w
    let ends := w.clock
    let (out, err) := match c.start work env with
      | .ok (path, inv) =>
        let ran : Ran := Machine.run path inv 4000
        let doneAt : Option Int :=
          if s.cancelOnTimeout ∧ o.state = some State.timedOut then some s.deadlineDuration.ns else none
        let cut := (Act.cutAt (ran.status.map fun _ => ran.elapsed) spawnNs doneAt).map (· - spawnNs)
        let (seen, _, _) := Command.captured ran cut
        let shown := seen.chunks.filter fun (ch : Chunk) => spawnNs + ch.time ≤ ends
        let on (fd : Nat) : List UInt8 := (shown.filter fun (ch : Chunk) => ch.fd = fd).flatMap Chunk.bytes
        (c.decodeOutput (on 1), c.decodeOutput (on 2))
      | .error _ => ([], [])
    let err := match msg with
      | some m => err ++ Text.utf8Bytes (programName ++ ": " ++ m ++ "\n")
      | none => err
    .ok { code, stdout := out, stderr := err }

/-- The program's entry point, with its arguments, in a working tree and an environment;
`listen` tells whether an address can be listened on. It returns the exit code, or panics
when registering its metrics does. -/
def execute (listen : String → Option String) (args : List String) (work : FileTree) (env : Env) :
    Except String Exit :=
  match Flags.parse flags args with
  | .error e => .ok (invalid e.message)
  | .ok v =>
    if v.switch "help" then .ok { code := 0, stdout := Text.utf8Bytes helpText }
    else if v.operands.isEmpty then
      .ok (invalid ("requires at least 1 arg(s), only received " ++ toString v.operands.length))
    else
      match settingsOf work env v with
      | .error msg => .ok (invalid msg)
      | .ok s =>
        match Log.Sinks.make work s.logger env with
        | .error e => .ok (invalid e.message)
        | .ok _ =>
          match metricsOf s with
          | .error p => .error p
          | .ok (registry, collectors) =>
            match serveError listen s with
            | some msg => .ok (invalid msg)
            | none =>
              match commandOf work s v.operands with
              | .error msg => .ok (invalid msg)
              | .ok c => runCommand s (runWorld s registry collectors) work env c

/-- The program as a process: it exits with the code its entry point returns, which the
system takes modulo 256; a panic that escapes ends it with status 2 after the panic's
message (the goroutine's stack, which follows, is left out). -/
def process (listen : String → Option String) (args : List String) (work : FileTree) (env : Env) :
    Exited :=
  match execute listen args work env with
  | .ok e => ⟨exitByte e.code, e.stdout, e.stderr⟩
  | .error p => ⟨2, [], Text.utf8Bytes ("panic: " ++ p ++ "\n\ngoroutine 1 [running]:\n")⟩

end Cli

end Timebox
