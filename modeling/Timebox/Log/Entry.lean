import Timebox.Format.Value

/-! # Log entries and the arguments that make their fields

A log call takes a message and a list of arguments. The arguments are read into fields
(`parseFields`) from left to right:

* a ready field is kept as it is;
* a text is a key, and the argument after it, whatever it is, is its value; a key with
  nothing after it is dropped;
* any other argument is skipped.

A value given with a key is stored as the logging library stores any value (`anyValue`):
`int` and `uint` widen to 64 bits, lists of strings or ints become lists of dynamic values,
and an error is kept as its message. A ready field given where a value is expected is kept
as the field itself.

A `Logger` has a dotted name and context fields that go before the fields of each entry.
A `Writer` turns text written to it into one entry per line: a line is logged when its line
feed arrives, a partial line waits for the next write, and closing logs what is left unless
nothing is.
-/

namespace Timebox

namespace Log

/-- The severity of an entry. -/
inductive Level where
  | debug
  | info
  | warn
  | error
  | dpanic
  | panic
  | fatal
deriving DecidableEq, Repr, Inhabited

namespace Level

/-- The rank of a level: debug is -1, info 0, up to fatal 5. -/
def rank : Level → Int
  | .debug => -1
  | .info => 0
  | .warn => 1
  | .error => 2
  | .dpanic => 3
  | .panic => 4
  | .fatal => 5

/-- The name of a level in lower case. -/
def name : Level → String
  | .debug => "debug"
  | .info => "info"
  | .warn => "warn"
  | .error => "error"
  | .dpanic => "dpanic"
  | .panic => "panic"
  | .fatal => "fatal"

/-- All levels, lowest first. -/
def all : List Level := [.debug, .info, .warn, .error, .dpanic, .panic, .fatal]

/-- Reads a level name, in lower or upper case; the empty name is info. -/
def read (s : String) : Option Level :=
  if s = "" then some .info
  else all.find? fun l => l.name = s ∨ l.name.toUpper = s

end Level

/-- An argument of a log call. -/
inductive Arg where
  /-- A ready field. -/
  | field (key : String) (value : Value)
  /-- Any other value; a text among them is a key. -/
  | value (v : Value)
deriving Inhabited

/-- What a field holds. -/
inductive Datum where
  | value (v : Value)
  /-- A ready field given as the value of a key. -/
  | field (key : String) (value : Value)
deriving Inhabited

/-- A value as the logging library stores it. -/
def anyValue : Value → Value
  | .int .int i => .int .int64 i
  | .int .uint i => .int .uint64 i
  | .slice .string items => .slice .any items
  | .slice (.int .int) items => .slice .any items
  | .error e => .str e.message
  | v => v

/-- What an argument given after a key is stored as: a value as the logging library stores
any value, a ready field as the field itself. -/
def Datum.ofArg : Arg → Datum
  | .value v => .value (anyValue v)
  | .field k v => .field k v

/-- Reads the arguments from place `i` on, after the fields `acc` read before it. A ready
field moves the place on by one; a key takes the argument after it and moves on by two, or
ends the reading when it is the last argument; anything else moves on by one. -/
def parseFieldsFrom (args : Array Arg) (i : Nat) (acc : Array (String × Datum)) :
    Array (String × Datum) :=
  if h : i < args.size then
    match args[i] with
    | .field k v => parseFieldsFrom args (i + 1) (acc.push (k, .value v))
    | .value (.str k) =>
      if h1 : i + 1 < args.size then
        parseFieldsFrom args (i + 2) (acc.push (k, .ofArg args[i + 1]))
      else acc
    | .value _ => parseFieldsFrom args (i + 1) acc
  else acc
termination_by args.size - i

/-- The fields of a list of arguments. -/
def parseFields (args : List Arg) : List (String × Datum) :=
  (parseFieldsFrom args.toArray 0 #[]).toList

/-- A log entry. -/
structure Entry where
  level : Level
  message : String
  logger : String
  fields : List (String × Datum)
deriving Inhabited

/-- A logger: its name and the fields it adds to each entry. -/
structure Logger where
  name : String
  context : List (String × Datum)
deriving Inhabited

namespace Logger

/-- The logger with no name and no fields. -/
def root : Logger := ⟨"", []⟩

/-- The logger with a name segment added; an empty segment changes nothing. -/
def named (l : Logger) (s : String) : Logger :=
  if s.isEmpty then l
  else { l with name := if l.name.isEmpty then s else l.name ++ "." ++ s }

/-- The logger with more context fields. -/
def withArgs (l : Logger) (args : List Arg) : Logger :=
  { l with context := l.context ++ parseFields args }

/-- The entry of a log call. -/
def entry (l : Logger) (level : Level) (msg : String) (args : List Arg) : Entry :=
  ⟨level, msg, l.name, l.context ++ parseFields args⟩

end Logger

/-- A writer that logs each line written to it. -/
structure Writer where
  logger : Logger
  level : Level
  /-- The partial line not yet logged. -/
  pending : List Char

namespace Writer

/-- A writer with nothing pending. -/
def make (logger : Logger) (level : Level) : Writer := ⟨logger, level, []⟩

/-- The entry of one line. -/
def line (w : Writer) (cs : List Char) : Entry := w.logger.entry w.level (String.ofList cs) []

/-- Writes characters, giving the entries of the lines they complete. -/
def feed (w : Writer) : List Char → Writer × List Entry
  | [] => (w, [])
  | '\n' :: rest =>
    let e := w.line w.pending
    let (w2, es) := feed { w with pending := [] } rest
    (w2, e :: es)
  | c :: rest => feed { w with pending := w.pending ++ [c] } rest

/-- Writes a chunk of text. -/
def write (w : Writer) (chunk : String) : Writer × List Entry := w.feed chunk.toList

/-- Closes the writer: the partial line is logged unless it is empty. -/
def close (w : Writer) : Writer × List Entry :=
  if w.pending.isEmpty then (w, [])
  else ({ w with pending := [] }, [w.line w.pending])

end Writer

end Log

end Timebox
