/-! # Capturing a command's output

While a command runs, its standard output and its standard error are copied into memory, each
by a thread of its own that reads the stream's pipe and writes each chunk it reads into the
stream's writer. That writer passes the chunk through the decoder of the command's encoding,
when it has one (`Stage`), and hands what comes out to its writers in order, stopping at the
first one that fails: the stream's own buffer, the combined buffer that both streams share,
then the writers the caller added. The combined buffer takes a chunk at a time under its
lock. Nothing else orders the two threads, and a writer of the caller may fail at any write,
which ends the copy of that stream. A decoder may also fail a write, which ends the copy once
what it passed on is written.

Once the process has ended and both copies are done, the decoders are closed, standard
output's first: each passes on what it still holds, to the same writers.

`State.turn` takes one step of a stream's thread, or of the closing once both copies are done;
a writer of the caller reached in that step takes the chunk when the turn says so.
`State.run` takes any sequence of turns, and `State.output` reads the three buffers.
-/

namespace Timebox

namespace Capture

/-- The bytes of one write. -/
abbrev Chunk := List UInt8

/-- The two output streams of a process. -/
inductive Stream where
  | out
  | err
deriving DecidableEq, Repr

/-- What a stream's writer does before its writers see the bytes: decode them from the
command's encoding, or nothing. A write takes a chunk, passes chunks on in order and tells
whether it succeeded; closing passes on what is still held. -/
structure Stage (σ : Type) where
  init : σ
  write : σ → Chunk → σ × List Chunk × Bool
  close : σ → List Chunk

/-- The writer of a command without an encoding: a chunk is passed on as it is, and closing
passes nothing. -/
def Stage.plain : Stage Unit where
  init := ()
  write _ c := ((), [c], true)
  close _ := []

/-- Where a stream's thread is. -/
structure Copier (σ : Type) where
  stage : σ
  /-- The chunks its pipe still delivers. -/
  pipe : List Chunk
  /-- The chunks the current write still passes on, the first one at writer `next`. -/
  pending : List Chunk
  /-- The writer the first pending chunk goes to next: 0 is the stream's buffer, 1 the
  combined buffer, and from 2 on come the caller's writers. -/
  next : Nat
  /-- Whether the copy reads on once the pending chunks are written. -/
  reading : Bool
deriving DecidableEq, Repr

/-- A copy is over: nothing is pending and nothing more is read. -/
def Copier.ended {σ : Type} (c : Copier σ) : Bool := c.pending.isEmpty && !c.reading

/-- The chunk has gone through writer `next`: on to the following writer, or, after the last of
the `customs` writers of the caller, on to the next chunk. -/
def Copier.passed {σ : Type} (customs : Nat) (c : Copier σ) : Copier σ :=
  if c.next + 1 < customs + 2 then { c with next := c.next + 1 }
  else { c with pending := c.pending.tail, next := 0 }

/-- A write failed: the rest of it is dropped and the copy is over. -/
def Copier.failed {σ : Type} (c : Copier σ) : Copier σ := { c with pending := [], reading := false }

/-- What the run is doing: copying the output, closing one stream's writer, or done. -/
inductive Phase where
  | copying
  | closing (s : Stream)
  | done
deriving DecidableEq, Repr

/-- The three buffers and both threads. -/
structure State (σ : Type) where
  out : List Chunk
  err : List Chunk
  combined : List Chunk
  outCopier : Copier σ
  errCopier : Copier σ
  phase : Phase
deriving DecidableEq, Repr

/-- A turn of the run: a step of a stream's thread, in which a writer of the caller that the
step reaches takes the chunk when `ok`. In the closing, the stream being closed steps. -/
structure Turn where
  stream : Stream
  ok : Bool
deriving DecidableEq, Repr

/-- What the three buffers hold once the run is done. -/
structure Output where
  stdout : List UInt8
  stderr : List UInt8
  combined : List UInt8
deriving DecidableEq, Repr

namespace State

variable {σ : Type}

/-- The run when the process starts: empty buffers, and each thread about to read its pipe. -/
def start (stage : Stage σ) (outPipe errPipe : List Chunk) : State σ :=
  ⟨[], [], [], ⟨stage.init, outPipe, [], 0, true⟩, ⟨stage.init, errPipe, [], 0, true⟩, .copying⟩

/-- A stream's own buffer. -/
def buf (st : State σ) : Stream → List Chunk
  | .out => st.out
  | .err => st.err

/-- A stream's thread. -/
def copier (st : State σ) : Stream → Copier σ
  | .out => st.outCopier
  | .err => st.errCopier

/-- The run with a stream's thread replaced. -/
def setCopier (st : State σ) : Stream → Copier σ → State σ
  | .out, c => { st with outCopier := c }
  | .err, c => { st with errCopier := c }

/-- The run with a chunk added to a stream's own buffer. -/
def appendBuf (st : State σ) : Stream → Chunk → State σ
  | .out, p => { st with out := st.out ++ [p] }
  | .err, p => { st with err := st.err ++ [p] }

@[simp] theorem buf_setCopier (st : State σ) (s t : Stream) (c : Copier σ) :
    (st.setCopier s c).buf t = st.buf t := by
  cases s <;> cases t <;> rfl

@[simp] theorem copier_setCopier (st : State σ) (s t : Stream) (c : Copier σ) :
    (st.setCopier s c).copier t = if t = s then c else st.copier t := by
  cases s <;> cases t <;> rfl

@[simp] theorem combined_setCopier (st : State σ) (s : Stream) (c : Copier σ) :
    (st.setCopier s c).combined = st.combined := by
  cases s <;> rfl

@[simp] theorem phase_setCopier (st : State σ) (s : Stream) (c : Copier σ) :
    (st.setCopier s c).phase = st.phase := by
  cases s <;> rfl

@[simp] theorem buf_appendBuf (st : State σ) (s t : Stream) (p : Chunk) :
    (st.appendBuf s p).buf t = if t = s then st.buf t ++ [p] else st.buf t := by
  cases s <;> cases t <;> rfl

@[simp] theorem copier_appendBuf (st : State σ) (s t : Stream) (p : Chunk) :
    (st.appendBuf s p).copier t = st.copier t := by
  cases s <;> cases t <;> rfl

@[simp] theorem combined_appendBuf (st : State σ) (s : Stream) (p : Chunk) :
    (st.appendBuf s p).combined = st.combined := by
  cases s <;> rfl

@[simp] theorem phase_appendBuf (st : State σ) (s : Stream) (p : Chunk) :
    (st.appendBuf s p).phase = st.phase := by
  cases s <;> rfl

@[simp] theorem buf_setCombined (st : State σ) (zs : List Chunk) (t : Stream) :
    State.buf { st with combined := zs } t = st.buf t := by
  cases t <;> rfl

@[simp] theorem copier_setCombined (st : State σ) (zs : List Chunk) (t : Stream) :
    State.copier { st with combined := zs } t = st.copier t := by
  cases t <;> rfl

@[simp] theorem buf_setPhase (st : State σ) (ph : Phase) (t : Stream) :
    State.buf { st with phase := ph } t = st.buf t := by
  cases t <;> rfl

@[simp] theorem copier_setPhase (st : State σ) (ph : Phase) (t : Stream) :
    State.copier { st with phase := ph } t = st.copier t := by
  cases t <;> rfl

/-- The first pending chunk of a stream goes to its next writer. The stream's buffer and the
combined buffer always take it; a writer of the caller takes it when `ok`, and otherwise the
write fails. -/
def writeStep (customs : Nat) (ok : Bool) (s : Stream) (st : State σ) : State σ :=
  let c := st.copier s
  match c.pending with
  | [] => st
  | p :: _ =>
    match c.next with
    | 0 => (st.appendBuf s p).setCopier s (c.passed customs)
    | 1 => { st with combined := st.combined ++ [p] }.setCopier s (c.passed customs)
    | _ + 2 => if ok then st.setCopier s (c.passed customs) else st.setCopier s c.failed

/-- A step of a stream's thread while the output is copied: writing a pending chunk on, or
reading the next chunk of the pipe into the writer (the copy is over at the end of the pipe). -/
def copyStep (stage : Stage σ) (customs : Nat) (ok : Bool) (s : Stream) (st : State σ) :
    State σ :=
  let c := st.copier s
  match c.pending, c.reading with
  | _ :: _, _ => st.writeStep customs ok s
  | [], false => st
  | [], true =>
    match c.pipe with
    | [] => st.setCopier s { c with reading := false }
    | chunk :: rest =>
      let (stage', ds, good) := stage.write c.stage chunk
      st.setCopier s ⟨stage', rest, ds, 0, good⟩

/-- A stream's writer is closed: its decoder passes on what it still holds. -/
def closeStream (stage : Stage σ) (s : Stream) (st : State σ) : State σ :=
  let c := st.copier s
  { st.setCopier s { c with pending := stage.close c.stage, next := 0 } with phase := .closing s }

@[simp] theorem buf_closeStream (stage : Stage σ) (s t : Stream) (st : State σ) :
    (st.closeStream stage s).buf t = st.buf t :=
  (buf_setPhase _ _ t).trans (buf_setCopier _ _ _ _)

@[simp] theorem copier_closeStream (stage : Stage σ) (s t : Stream) (st : State σ) :
    (st.closeStream stage s).copier t =
      if t = s then { st.copier s with pending := stage.close (st.copier s).stage, next := 0 }
      else st.copier t :=
  (copier_setPhase _ _ t).trans (copier_setCopier _ _ _ _)

@[simp] theorem combined_closeStream (stage : Stage σ) (s : Stream) (st : State σ) :
    (st.closeStream stage s).combined = st.combined :=
  combined_setCopier _ _ _

@[simp] theorem phase_closeStream (stage : Stage σ) (s : Stream) (st : State σ) :
    (st.closeStream stage s).phase = .closing s := rfl

/-- One turn. While copying, the stream's thread steps; once both copies are over, standard
output's writer is closed, and once its last chunk is written, standard error's; once that is
written too, the run is done. -/
def turn (stage : Stage σ) (customs : Stream → Nat) (st : State σ) (t : Turn) : State σ :=
  match st.phase with
  | .copying =>
    if st.outCopier.ended && st.errCopier.ended then st.closeStream stage .out
    else st.copyStep stage (customs t.stream) t.ok t.stream
  | .closing .out =>
    if st.outCopier.pending.isEmpty then st.closeStream stage .err
    else st.writeStep (customs .out) t.ok .out
  | .closing .err =>
    if st.errCopier.pending.isEmpty then { st with phase := .done }
    else st.writeStep (customs .err) t.ok .err
  | .done => st

/-- The run after a sequence of turns. -/
def run (stage : Stage σ) (customs : Stream → Nat) (st : State σ) (ts : List Turn) : State σ :=
  ts.foldl (turn stage customs) st

@[simp] theorem run_nil (stage : Stage σ) (customs : Stream → Nat) (st : State σ) :
    st.run stage customs [] = st := rfl

theorem run_append (stage : Stage σ) (customs : Stream → Nat) (st : State σ)
    (ts ts' : List Turn) :
    st.run stage customs (ts ++ ts') = (st.run stage customs ts).run stage customs ts' :=
  List.foldl_append

/-- What the buffers hold, each as one text. -/
def output (st : State σ) : Output := ⟨st.out.flatten, st.err.flatten, st.combined.flatten⟩

end State

end Capture

end Timebox
