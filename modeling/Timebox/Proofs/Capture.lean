import Mathlib
import Timebox.Command.Capture
import Timebox.Command.Run
/-! # The combined output shuffles the two streams

Whatever order the two copying threads and the closing of the decoders take their steps in,
and whichever writers of the caller fail, the combined buffer of a finished run is a shuffle of
standard output and standard error (`combined_shuffles`): it holds each stream's chunks in that
stream's order and nothing else.

The argument is an invariant of every turn (`Inv`). A chunk reaches a stream's own buffer one
step before it reaches the combined buffer, so each stream's buffer is what the combined buffer
has taken from that stream followed by at most one chunk in flight (`Copier.inFlight`), and
what the combined buffer has taken is a shuffle. A stream's writer is closed, and the run ends,
only once nothing of it is pending, so at the end nothing is in flight.

The result of a command keeps each stream decoded in full and the combined output as standard
output followed by standard error. Through any stage that decodes as the command does, the
schedule that copies standard output first gives the two streams of the result, and its
combined output exactly when the decoder holds nothing back between them
(`result_of_decoder`); without an encoding it gives the result exactly (`result_eq_outFirst`).
So every pair of pipes has a run that ends.
-/

namespace Timebox.Capture

/-- `Shuffle xs ys zs`: `zs` interleaves `xs` and `ys`, keeping the order of each, with nothing
else. It is built the way the combined buffer grows, one element of either side at a time. -/
inductive Shuffle {α : Type} : List α → List α → List α → Prop where
  | nil : Shuffle [] [] []
  | left {xs ys zs : List α} (x : α) : Shuffle xs ys zs → Shuffle (xs ++ [x]) ys (zs ++ [x])
  | right {xs ys zs : List α} (y : α) : Shuffle xs ys zs → Shuffle xs (ys ++ [y]) (zs ++ [y])

namespace Shuffle

variable {α : Type} {xs ys zs : List α}

/-- A shuffle holds exactly the elements of both sides. -/
theorem perm (h : Shuffle xs ys zs) : zs.Perm (xs ++ ys) := by
  induction h with
  | nil => exact List.Perm.refl []
  | @left xs ys zs x _ ih =>
    calc (zs ++ [x]).Perm (xs ++ ys ++ [x]) := ih.append_right [x]
      _ = xs ++ (ys ++ [x]) := List.append_assoc xs ys [x]
      List.Perm _ (xs ++ ([x] ++ ys)) := List.perm_append_comm.append_left xs
      _ = xs ++ [x] ++ ys := (List.append_assoc xs [x] ys).symm
  | @right xs ys zs y _ ih => simpa using ih.append_right [y]

theorem sublist_left (h : Shuffle xs ys zs) : xs.Sublist zs := by
  induction h with
  | nil => exact List.Sublist.refl []
  | left x _ ih => exact ih.append (List.Sublist.refl [x])
  | right y _ ih => exact ih.trans (List.sublist_append_left _ [y])

theorem sublist_right (h : Shuffle xs ys zs) : ys.Sublist zs := by
  induction h with
  | nil => exact List.Sublist.refl []
  | left x _ ih => exact ih.trans (List.sublist_append_left _ [x])
  | right y _ ih => exact ih.append (List.Sublist.refl [y])

end Shuffle

variable {σ : Type}

/-- What the combined buffer has taken from each stream, with one more chunk from stream `s`. -/
def push (side : Stream → List Chunk) (s : Stream) (p : Chunk) : Stream → List Chunk :=
  fun t => if t = s then side t ++ [p] else side t

theorem Shuffle.push {side : Stream → List Chunk} {zs : List Chunk}
    (h : Shuffle (side .out) (side .err) zs) (s : Stream) (p : Chunk) :
    Shuffle (Capture.push side s p .out) (Capture.push side s p .err) (zs ++ [p]) := by
  cases s with
  | out => simpa [Capture.push] using h.left p
  | err => simpa [Capture.push] using h.right p

/-- The chunk a stream's buffer holds and the combined buffer does not yet: the first pending
chunk, between its write to the stream's buffer and its write to the combined buffer. -/
def Copier.inFlight (c : Copier σ) : List Chunk := if c.next = 1 then c.pending.take 1 else []

namespace Copier

variable {c : Copier σ}

theorem inFlight_of_pending_nil (h : c.pending = []) : c.inFlight = [] := by
  simp [inFlight, h]

theorem inFlight_of_next_ne_one (h : c.next ≠ 1) : c.inFlight = [] := by
  simp [inFlight, h]

theorem inFlight_of_next_one {p : Chunk} {rest : List Chunk} (hn : c.next = 1)
    (hp : c.pending = p :: rest) : c.inFlight = [p] := by
  simp [inFlight, hn, hp]

/-- Past the stream's own buffer the first pending chunk is in flight; past the combined
buffer it no longer is. -/
theorem inFlight_passed (customs : Nat) :
    (c.passed customs).inFlight = if c.next = 0 then c.pending.take 1 else [] := by
  by_cases h : c.next + 1 < customs + 2
  · simp [passed, inFlight, h]
  · have : c.next ≠ 0 := by omega
    simp [passed, inFlight, h, this]

@[simp] theorem inFlight_failed : c.failed.inFlight = [] := by
  simp [failed, inFlight]

end Copier

/-- A stream that no longer writes in a phase: the other stream while one stream's writer is
closed, and both once the run is done. -/
def Phase.idle : Phase → Stream → Bool
  | .copying, _ => false
  | .closing t, s => s != t
  | .done, _ => true

namespace State

variable {st : State σ} {stage : Stage σ} {customs : Nat} {ok : Bool} {s : Stream}

/-- Each stream's buffer is what the combined buffer has taken from it (`side`) followed by its
chunk in flight, and what the combined buffer has taken is a shuffle. -/
def Balanced (st : State σ) : Prop :=
  ∃ side : Stream → List Chunk, Shuffle (side .out) (side .err) st.combined ∧
    ∀ s, st.buf s = side s ++ (st.copier s).inFlight

/-- What every turn keeps: the buffers are balanced, and a stream idle in the phase has nothing
pending. -/
structure Inv (st : State σ) : Prop where
  balanced : st.Balanced
  idle : ∀ s, st.phase.idle s = true → (st.copier s).pending = []

theorem inv_start (outPipe errPipe : List Chunk) : Inv (start stage outPipe errPipe) := by
  refine ⟨⟨fun _ => [], Shuffle.nil, fun s => ?_⟩, fun s hs => ?_⟩
  · cases s <;> rfl
  · simp [start, Phase.idle] at hs

/-- A thread replaced by one with nothing in flight keeps the buffers balanced, when the one it
replaces had nothing in flight either. -/
theorem Balanced.setCopier {c : Copier σ} (h : st.Balanced) (hold : (st.copier s).inFlight = [])
    (hnew : c.inFlight = []) : (st.setCopier s c).Balanced := by
  obtain ⟨side, hsh, hbuf⟩ := h
  refine ⟨side, by simpa using hsh, fun t => ?_⟩
  by_cases hts : t = s
  · subst hts
    simp [hbuf t, hold, hnew]
  · simp [hts, hbuf t]

theorem Balanced.setPhase (h : st.Balanced) (ph : Phase) :
    State.Balanced { st with phase := ph } := by
  obtain ⟨side, hsh, hbuf⟩ := h
  exact ⟨side, hsh, fun t => by simpa using hbuf t⟩

/-- A stream with something pending is not idle. -/
theorem Inv.busy {p : Chunk} {rest : List Chunk} (h : Inv st)
    (hp : (st.copier s).pending = p :: rest) : st.phase.idle s = false := by
  cases hs : st.phase.idle s with
  | false => rfl
  | true => simp [h.idle s hs] at hp

/-- A step that moves only a stream that is not idle, and keeps the phase, keeps the idle streams
without anything pending. -/
theorem Inv.idle_of_frame {st' : State σ} (h : Inv st) (hs : st.phase.idle s = false)
    (hph : st'.phase = st.phase) (hframe : ∀ t, t ≠ s → st'.copier t = st.copier t) :
    ∀ t, st'.phase.idle t = true → (st'.copier t).pending = [] := by
  intro t ht
  rw [hph] at ht
  have hts : t ≠ s := by
    rintro rfl
    simp [hs] at ht
  rw [hframe t hts]
  exact h.idle t ht

/-- A thread that is not idle, replaced by one with nothing in flight while it had nothing in
flight either, keeps the invariant. -/
theorem Inv.setCopier {c : Copier σ} (h : Inv st) (hs : st.phase.idle s = false)
    (hold : (st.copier s).inFlight = []) (hnew : c.inFlight = []) : Inv (st.setCopier s c) :=
  ⟨h.balanced.setCopier hold hnew, h.idle_of_frame hs (by simp) (fun t ht => by simp [ht])⟩

/-! ### Writing a pending chunk on -/

section Write

variable {p : Chunk} {rest : List Chunk}

theorem writeStep_of_pending_nil (h : (st.copier s).pending = []) :
    st.writeStep customs ok s = st := by
  simp [writeStep, h]

/-- The stream's own buffer takes the first pending chunk. -/
theorem writeStep_own (hp : (st.copier s).pending = p :: rest) (hn : (st.copier s).next = 0) :
    st.writeStep customs ok s = (st.appendBuf s p).setCopier s ((st.copier s).passed customs) := by
  simp [writeStep, hp, hn]

/-- The combined buffer takes the first pending chunk. -/
theorem writeStep_combined (hp : (st.copier s).pending = p :: rest)
    (hn : (st.copier s).next = 1) :
    st.writeStep customs ok s =
      { st with combined := st.combined ++ [p] }.setCopier s ((st.copier s).passed customs) := by
  simp [writeStep, hp, hn]

/-- A writer of the caller takes the first pending chunk when it can, and otherwise the write
fails. -/
theorem writeStep_custom {k : Nat} (hp : (st.copier s).pending = p :: rest)
    (hn : (st.copier s).next = k + 2) :
    st.writeStep customs ok s =
      if ok then st.setCopier s ((st.copier s).passed customs)
      else st.setCopier s (st.copier s).failed := by
  simp [writeStep, hp, hn]

end Write

theorem Inv.writeStep (h : Inv st) : Inv (st.writeStep customs ok s) := by
  rcases hp : (st.copier s).pending with _ | ⟨p, rest⟩
  · rwa [writeStep_of_pending_nil hp]
  have hs := h.busy hp
  obtain ⟨side, hsh, hbuf⟩ := h.balanced
  rcases hn : (st.copier s).next with _ | _ | k
  · -- the stream's own buffer takes the chunk, which is then in flight
    rw [writeStep_own hp hn]
    refine ⟨⟨side, by simpa using hsh, fun t => ?_⟩,
      h.idle_of_frame hs (by simp) (fun t ht => by simp [ht])⟩
    by_cases hts : t = s
    · subst hts
      simp [hbuf t, Copier.inFlight_passed, hn, hp, Copier.inFlight_of_next_ne_one]
    · simp [hts, hbuf t]
  · -- the combined buffer takes the chunk in flight
    rw [writeStep_combined hp hn]
    refine ⟨⟨push side s p, by simpa using hsh.push s p, fun t => ?_⟩,
      h.idle_of_frame hs (by simp) (fun t ht => by simp [ht])⟩
    by_cases hts : t = s
    · subst hts
      simp [hbuf t, Copier.inFlight_passed, hn, push, Copier.inFlight_of_next_one hn hp]
    · simp [hts, hbuf t, push]
  · -- a writer of the caller takes the chunk or fails: nothing was or is in flight
    rw [writeStep_custom hp hn]
    have hold : (st.copier s).inFlight = [] := Copier.inFlight_of_next_ne_one (by omega)
    split
    · exact h.setCopier hs hold (by simp [Copier.inFlight_passed, hn])
    · exact h.setCopier hs hold Copier.inFlight_failed

/-! ### Copying -/

section Copy

variable {p : Chunk} {rest : List Chunk}

theorem copyStep_of_pending_cons (hp : (st.copier s).pending = p :: rest) :
    st.copyStep stage customs ok s = st.writeStep customs ok s := by
  simp [copyStep, hp]

theorem copyStep_of_not_reading (hp : (st.copier s).pending = [])
    (hr : (st.copier s).reading = false) : st.copyStep stage customs ok s = st := by
  simp [copyStep, hp, hr]

/-- At the end of the pipe the copy is over. -/
theorem copyStep_pipe_end (hp : (st.copier s).pending = []) (hr : (st.copier s).reading = true)
    (hpipe : (st.copier s).pipe = []) :
    st.copyStep stage customs ok s = st.setCopier s { st.copier s with reading := false } := by
  simp [copyStep, hp, hr, hpipe]

/-- The next chunk of the pipe goes through the stage, and what it passes on is pending, bound
for the stream's own buffer first. -/
theorem copyStep_read (hp : (st.copier s).pending = []) (hr : (st.copier s).reading = true)
    (hpipe : (st.copier s).pipe = p :: rest) :
    st.copyStep stage customs ok s =
      let w := stage.write (st.copier s).stage p
      st.setCopier s ⟨w.1, rest, w.2.1, 0, w.2.2⟩ := by
  simp [copyStep, hp, hr, hpipe]

end Copy

theorem Inv.copyStep (h : Inv st) (hs : st.phase.idle s = false) :
    Inv (st.copyStep stage customs ok s) := by
  rcases hp : (st.copier s).pending with _ | ⟨p, rest⟩
  · have hold := Copier.inFlight_of_pending_nil hp
    cases hr : (st.copier s).reading with
    | false => rwa [copyStep_of_not_reading hp hr]
    | true =>
      rcases hpipe : (st.copier s).pipe with _ | ⟨p, rest⟩
      · rw [copyStep_pipe_end hp hr hpipe]
        exact h.setCopier hs hold (Copier.inFlight_of_pending_nil hp)
      · rw [copyStep_read hp hr hpipe]
        exact h.setCopier hs hold (Copier.inFlight_of_next_ne_one (by simp))
  · rw [copyStep_of_pending_cons hp]
    exact h.writeStep

/-! ### Closing -/

/-- A stream's writer is closed once nothing of it is pending, and while the other stream has
nothing pending either; what its stage still holds becomes pending. -/
theorem Inv.closeStream (h : Inv st) (hs : (st.copier s).pending = [])
    (hother : ∀ t, t ≠ s → (st.copier t).pending = []) : Inv (st.closeStream stage s) := by
  have hbal := (h.balanced.setCopier (Copier.inFlight_of_pending_nil hs)
    (c := { st.copier s with pending := stage.close (st.copier s).stage, next := 0 })
    (Copier.inFlight_of_next_ne_one (by simp))).setPhase (.closing s)
  refine ⟨hbal, fun t ht => ?_⟩
  have hts : t ≠ s := by simpa [Phase.idle] using ht
  simpa [hts] using hother t hts

/-- The run is done once nothing of either stream is pending. -/
theorem Inv.finish (h : Inv st) (hpend : ∀ t, (st.copier t).pending = []) :
    Inv { st with phase := .done } :=
  ⟨h.balanced.setPhase .done, fun t _ => by simpa using hpend t⟩

theorem Copier.pending_of_ended {c : Copier σ} (h : c.ended = true) : c.pending = [] := by
  simp_all [Copier.ended]

/-! ### Turns and runs -/

theorem Inv.turn (h : Inv st) (customs : Stream → Nat) (t : Turn) :
    Inv (st.turn stage customs t) := by
  unfold State.turn
  split
  · rename_i hph
    split
    · -- both copies are over: standard output's writer is closed
      rename_i hend
      simp only [Bool.and_eq_true] at hend
      have hout := Copier.pending_of_ended hend.1
      have herr := Copier.pending_of_ended hend.2
      exact h.closeStream hout (fun u _ => by cases u <;> assumption)
    · exact h.copyStep (by simp [hph, Phase.idle])
  · rename_i hph
    split
    · -- standard output's writer has written all: standard error's is closed
      rename_i hout
      have herr := h.idle .err (by simp [hph, Phase.idle])
      exact h.closeStream herr (fun u hu => by cases u <;> simp_all [copier])
    · exact h.writeStep
  · rename_i hph
    split
    · -- standard error's writer has written all too: the run is done
      rename_i herr
      have hout := h.idle .out (by simp [hph, Phase.idle])
      exact h.finish (fun u => by cases u <;> simp_all [copier])
    · exact h.writeStep
  · exact h

theorem Inv.run (h : Inv st) (customs : Stream → Nat) (ts : List Turn) :
    Inv (st.run stage customs ts) := by
  induction ts generalizing st with
  | nil => exact h
  | cons t ts ih => exact ih (h.turn customs t)

/-- Once the run is done nothing is in flight, so the stream buffers are exactly what the
combined buffer took from them. -/
theorem Inv.shuffle_of_done (h : Inv st) (hdone : st.phase = .done) :
    Shuffle st.out st.err st.combined := by
  obtain ⟨side, hsh, hbuf⟩ := h.balanced
  have hpend (t : Stream) : (st.copier t).inFlight = [] :=
    Copier.inFlight_of_pending_nil (h.idle t (by simp [hdone, Phase.idle]))
  have hout : st.buf .out = side .out := by simpa [hpend] using hbuf .out
  have herr : st.buf .err = side .err := by simpa [hpend] using hbuf .err
  rw [show st.out = st.buf .out from rfl, show st.err = st.buf .err from rfl, hout, herr]
  exact hsh

end State

/-- Whatever order the two copying threads and the closing of the writers take their steps in,
whatever the stage and however many writers the caller added to each stream, whichever of them
fail: once the run is done, the combined buffer interleaves the chunks of standard output and
standard error, each in its order, and holds nothing else; so its text holds exactly the bytes
of both. -/
theorem combined_shuffles (stage : Stage σ) (customs : Stream → Nat)
    (outPipe errPipe : List Chunk) (ts : List Turn)
    (hdone : ((State.start stage outPipe errPipe).run stage customs ts).phase = .done) :
    let st := (State.start stage outPipe errPipe).run stage customs ts
    Shuffle st.out st.err st.combined ∧ st.combined.Perm (st.out ++ st.err) ∧
      st.out.Sublist st.combined ∧ st.err.Sublist st.combined ∧
      st.output.combined.Perm (st.output.stdout ++ st.output.stderr) := by
  intro st
  have hsh : Shuffle st.out st.err st.combined :=
    ((State.inv_start outPipe errPipe).run customs ts).shuffle_of_done hdone
  refine ⟨hsh, hsh.perm, hsh.sublist_left, hsh.sublist_right, ?_⟩
  simpa [State.output] using hsh.perm.flatten

/-- A run in which standard output's one writer of the caller fails at the first chunk, so its
second chunk is never read, while standard error's chunk reaches the combined buffer first. -/
theorem combined_shuffles_failed_writer :
    let st := (State.start Stage.plain [[1], [2]] [[3]]).run Stage.plain
      (fun s => if s = .out then 1 else 0)
      [⟨.out, true⟩, ⟨.err, true⟩, ⟨.out, true⟩, ⟨.err, true⟩, ⟨.err, true⟩, ⟨.out, true⟩,
        ⟨.out, false⟩, ⟨.err, true⟩, ⟨.err, true⟩, ⟨.err, true⟩, ⟨.err, true⟩]
    st.phase = .done ∧ st.output = ⟨[1], [3], [3, 1]⟩ ∧
      (Shuffle st.out st.err st.combined ∧ st.combined.Perm (st.out ++ st.err) ∧
        st.out.Sublist st.combined ∧ st.err.Sublist st.combined ∧
        st.output.combined.Perm (st.output.stdout ++ st.output.stderr)) :=
  ⟨by decide, by decide, combined_shuffles _ _ _ _ _ (by decide)⟩

/-! ### The schedule that copies standard output first

A command's result keeps standard output and standard error each decoded in full, and the
combined output as the one followed by the other. The capture gives that on the schedule that
copies standard output's pipe before standard error's thread starts, then closes both writers
(`inOrder`), through any stage that decodes as the command does (`Stage.Decodes`): the two
streams exactly, and the combined buffer up to order, exactly when standard error's writes pass
nothing on before the close or standard output's close passes nothing on
(`result_of_decoder`). Without an encoding the stage passes each chunk on as it comes, and the
schedule is `outFirst` (`result_eq_outFirst`). -/

/-- What a stage's writes pass on, chunk after chunk from a state, and the state they leave. -/
def Stage.feed (stage : Stage σ) : σ → List Chunk → σ × List Chunk
  | s, [] => (s, [])
  | s, p :: ps =>
    ((stage.feed (stage.write s p).1 ps).1,
      (stage.write s p).2.1 ++ (stage.feed (stage.write s p).1 ps).2)

/-- A stage decodes as `f` does: none of its writes fails, and what its writes and then its
close pass on, from its first state, is `f` of the bytes written, however they come in chunks. -/
structure Stage.Decodes (stage : Stage σ) (f : List UInt8 → List UInt8) : Prop where
  write_ok : ∀ s p, (stage.write s p).2.2 = true
  feed_close : ∀ ps : List Chunk,
    ((stage.feed stage.init ps).2 ++ stage.close (stage.feed stage.init ps).1).flatten = f ps.flatten

/-- The schedule that copies standard output's pipe through the stage, then standard error's,
and then closes both writers. Once both copies are over, which stream takes a turn does not
matter. -/
def inOrder (stage : Stage σ) (outPipe errPipe : List Chunk) : List Turn :=
  List.replicate (outPipe.length + 2 * (stage.feed stage.init outPipe).2.length) ⟨.out, true⟩ ++
    [⟨.out, true⟩] ++
    List.replicate (errPipe.length + 2 * (stage.feed stage.init errPipe).2.length) ⟨.err, true⟩ ++
    [⟨.err, true⟩, ⟨.err, true⟩] ++
    List.replicate (2 * (stage.close (stage.feed stage.init outPipe).1).length) ⟨.err, true⟩ ++
    [⟨.err, true⟩] ++
    List.replicate (2 * (stage.close (stage.feed stage.init errPipe).1).length) ⟨.err, true⟩ ++
    [⟨.err, true⟩]

/-- Two turns a chunk: the turns for one more chunk come first. -/
theorem replicate_two_mul_succ (n : Nat) (t : Turn) :
    List.replicate (2 * (n + 1)) t = List.replicate 2 t ++ List.replicate (2 * n) t := by
  rw [show 2 * (n + 1) = 2 + 2 * n by omega, List.replicate_add]

/-- The turns copying a pipe takes, a read and two turns for each chunk passed on, split at
the first chunk. -/
theorem copyTurns_cons (stage : Stage σ) (s : σ) (p : Chunk) (ps : List Chunk) :
    (p :: ps).length + 2 * (stage.feed s (p :: ps)).2.length =
      1 + 2 * (stage.write s p).2.1.length +
        (ps.length + 2 * (stage.feed (stage.write s p).1 ps).2.length) := by
  simp only [Stage.feed, List.length_cons, List.length_append]
  omega

section InOrder

variable (stage : Stage σ)

/-- Standard output's thread writes its pending chunks on, two turns a chunk: to its buffer,
then to the combined one. -/
theorem run_write_out (ds o e cmb ps : List Chunk) (s : σ) (ec : Copier σ) :
    (State.mk o e cmb ⟨s, ps, ds, 0, true⟩ ec .copying).run stage (fun _ => 0)
        (List.replicate (2 * ds.length) ⟨.out, true⟩) =
      ⟨o ++ ds, e, cmb ++ ds, ⟨s, ps, [], 0, true⟩, ec, .copying⟩ := by
  induction ds generalizing o cmb with
  | nil => simp
  | cons d ds ih =>
    have hstep : (State.mk o e cmb ⟨s, ps, d :: ds, 0, true⟩ ec .copying).run stage (fun _ => 0)
        (List.replicate 2 ⟨.out, true⟩) =
          ⟨o ++ [d], e, cmb ++ [d], ⟨s, ps, ds, 0, true⟩, ec, .copying⟩ := rfl
    rw [List.length_cons, replicate_two_mul_succ, State.run_append, hstep, ih]
    simp

theorem run_read_out (p : Chunk) (ps o e cmb : List Chunk) (s : σ) (ec : Copier σ) :
    (State.mk o e cmb ⟨s, p :: ps, [], 0, true⟩ ec .copying).run stage (fun _ => 0)
        [⟨.out, true⟩] =
      ⟨o, e, cmb, ⟨(stage.write s p).1, ps, (stage.write s p).2.1, 0, (stage.write s p).2.2⟩, ec,
        .copying⟩ := rfl

/-- Standard error's thread writes its pending chunks on once standard output's copy is over. -/
theorem run_write_err (ds o e cmb ps : List Chunk) (so s : σ) :
    (State.mk o e cmb ⟨so, [], [], 0, false⟩ ⟨s, ps, ds, 0, true⟩ .copying).run stage (fun _ => 0)
        (List.replicate (2 * ds.length) ⟨.err, true⟩) =
      ⟨o, e ++ ds, cmb ++ ds, ⟨so, [], [], 0, false⟩, ⟨s, ps, [], 0, true⟩, .copying⟩ := by
  induction ds generalizing e cmb with
  | nil => simp
  | cons d ds ih =>
    have hstep : (State.mk o e cmb ⟨so, [], [], 0, false⟩ ⟨s, ps, d :: ds, 0, true⟩ .copying).run
        stage (fun _ => 0) (List.replicate 2 ⟨.err, true⟩) =
          ⟨o, e ++ [d], cmb ++ [d], ⟨so, [], [], 0, false⟩, ⟨s, ps, ds, 0, true⟩, .copying⟩ := rfl
    rw [List.length_cons, replicate_two_mul_succ, State.run_append, hstep, ih]
    simp

theorem run_read_err (p : Chunk) (ps o e cmb : List Chunk) (so s : σ) :
    (State.mk o e cmb ⟨so, [], [], 0, false⟩ ⟨s, p :: ps, [], 0, true⟩ .copying).run stage
        (fun _ => 0) [⟨.err, true⟩] =
      ⟨o, e, cmb, ⟨so, [], [], 0, false⟩,
        ⟨(stage.write s p).1, ps, (stage.write s p).2.1, 0, (stage.write s p).2.2⟩, .copying⟩ := rfl

/-- Standard output's writer, being closed, writes on what its stage passed on when closed. -/
theorem run_write_close_out (ds o e cmb : List Chunk) (s : σ) (ec : Copier σ) :
    (State.mk o e cmb ⟨s, [], ds, 0, false⟩ ec (.closing .out)).run stage (fun _ => 0)
        (List.replicate (2 * ds.length) ⟨.err, true⟩) =
      ⟨o ++ ds, e, cmb ++ ds, ⟨s, [], [], 0, false⟩, ec, .closing .out⟩ := by
  induction ds generalizing o cmb with
  | nil => simp
  | cons d ds ih =>
    have hstep : (State.mk o e cmb ⟨s, [], d :: ds, 0, false⟩ ec (.closing .out)).run stage
        (fun _ => 0) (List.replicate 2 ⟨.err, true⟩) =
          ⟨o ++ [d], e, cmb ++ [d], ⟨s, [], ds, 0, false⟩, ec, .closing .out⟩ := rfl
    rw [List.length_cons, replicate_two_mul_succ, State.run_append, hstep, ih]
    simp

theorem run_write_close_err (ds o e cmb : List Chunk) (oc : Copier σ) (s : σ) :
    (State.mk o e cmb oc ⟨s, [], ds, 0, false⟩ (.closing .err)).run stage (fun _ => 0)
        (List.replicate (2 * ds.length) ⟨.err, true⟩) =
      ⟨o, e ++ ds, cmb ++ ds, oc, ⟨s, [], [], 0, false⟩, .closing .err⟩ := by
  induction ds generalizing e cmb with
  | nil => simp
  | cons d ds ih =>
    have hstep : (State.mk o e cmb oc ⟨s, [], d :: ds, 0, false⟩ (.closing .err)).run stage
        (fun _ => 0) (List.replicate 2 ⟨.err, true⟩) =
          ⟨o, e ++ [d], cmb ++ [d], oc, ⟨s, [], ds, 0, false⟩, .closing .err⟩ := rfl
    rw [List.length_cons, replicate_two_mul_succ, State.run_append, hstep, ih]
    simp

/-- Standard output's pipe ends. -/
theorem run_end_out (o e cmb : List Chunk) (s : σ) (ec : Copier σ) :
    (State.mk o e cmb ⟨s, [], [], 0, true⟩ ec .copying).run stage (fun _ => 0) [⟨.out, true⟩] =
      ⟨o, e, cmb, ⟨s, [], [], 0, false⟩, ec, .copying⟩ := rfl

/-- Standard error's pipe ends, and then standard output's writer is closed. -/
theorem run_end_err (o e cmb : List Chunk) (so s : σ) :
    (State.mk o e cmb ⟨so, [], [], 0, false⟩ ⟨s, [], [], 0, true⟩ .copying).run stage
        (fun _ => 0) [⟨.err, true⟩, ⟨.err, true⟩] =
      ⟨o, e, cmb, ⟨so, [], stage.close so, 0, false⟩, ⟨s, [], [], 0, false⟩, .closing .out⟩ := rfl

/-- Once standard output's writer has written all, standard error's is closed. -/
theorem run_close_err (o e cmb : List Chunk) (so s : σ) :
    (State.mk o e cmb ⟨so, [], [], 0, false⟩ ⟨s, [], [], 0, false⟩ (.closing .out)).run stage
        (fun _ => 0) [⟨.err, true⟩] =
      ⟨o, e, cmb, ⟨so, [], [], 0, false⟩, ⟨s, [], stage.close s, 0, false⟩, .closing .err⟩ := rfl

/-- Once standard error's writer has written all too, the run is done. -/
theorem run_done (o e cmb : List Chunk) (oc : Copier σ) (s : σ) :
    (State.mk o e cmb oc ⟨s, [], [], 0, false⟩ (.closing .err)).run stage (fun _ => 0)
        [⟨.err, true⟩] =
      ⟨o, e, cmb, oc, ⟨s, [], [], 0, false⟩, .done⟩ := rfl

variable {stage} (hw : ∀ s p, (stage.write s p).2.2 = true)
include hw

/-- Standard output's thread copies its whole pipe through the stage, whatever standard error's
holds: a read, then two turns for each chunk the write passes on, chunk after chunk. -/
theorem run_copy_out (ps o e cmb : List Chunk) (s : σ) (ec : Copier σ) :
    (State.mk o e cmb ⟨s, ps, [], 0, true⟩ ec .copying).run stage (fun _ => 0)
        (List.replicate (ps.length + 2 * (stage.feed s ps).2.length) ⟨.out, true⟩) =
      ⟨o ++ (stage.feed s ps).2, e, cmb ++ (stage.feed s ps).2,
        ⟨(stage.feed s ps).1, [], [], 0, true⟩, ec, .copying⟩ := by
  induction ps generalizing s o cmb with
  | nil => simp [Stage.feed]
  | cons p ps ih =>
    -- the read of the chunk, what its write passes on, then the rest from the state it leaves
    rw [copyTurns_cons, List.replicate_add, List.replicate_add, State.run_append, State.run_append,
      List.replicate_one, run_read_out, hw, run_write_out, ih]
    simp [Stage.feed]

/-- Standard error's thread copies its whole pipe once standard output's copy is over. -/
theorem run_copy_err (ps o e cmb : List Chunk) (so s : σ) :
    (State.mk o e cmb ⟨so, [], [], 0, false⟩ ⟨s, ps, [], 0, true⟩ .copying).run stage (fun _ => 0)
        (List.replicate (ps.length + 2 * (stage.feed s ps).2.length) ⟨.err, true⟩) =
      ⟨o, e ++ (stage.feed s ps).2, cmb ++ (stage.feed s ps).2, ⟨so, [], [], 0, false⟩,
        ⟨(stage.feed s ps).1, [], [], 0, true⟩, .copying⟩ := by
  induction ps generalizing s e cmb with
  | nil => simp [Stage.feed]
  | cons p ps ih =>
    rw [copyTurns_cons, List.replicate_add, List.replicate_add, State.run_append, State.run_append,
      List.replicate_one, run_read_err, hw, run_write_err, ih]
    simp [Stage.feed]

/-- Copying standard output first through a stage whose writes do not fail ends the run with
each stream's buffer holding what the stage passed on for it, writing and then closing, and the
combined buffer holding what the writes of standard output passed on, then those of standard
error, then what each passed on when closed. -/
theorem run_inOrder (outPipe errPipe : List Chunk) :
    (State.start stage outPipe errPipe).run stage (fun _ => 0) (inOrder stage outPipe errPipe) =
      ⟨(stage.feed stage.init outPipe).2 ++ stage.close (stage.feed stage.init outPipe).1,
        (stage.feed stage.init errPipe).2 ++ stage.close (stage.feed stage.init errPipe).1,
        (stage.feed stage.init outPipe).2 ++ (stage.feed stage.init errPipe).2 ++
          stage.close (stage.feed stage.init outPipe).1 ++
          stage.close (stage.feed stage.init errPipe).1,
        ⟨(stage.feed stage.init outPipe).1, [], [], 0, false⟩,
        ⟨(stage.feed stage.init errPipe).1, [], [], 0, false⟩, .done⟩ := by
  simp only [inOrder, State.run_append]
  rw [State.start, run_copy_out hw, run_end_out, run_copy_err hw, run_end_err,
    run_write_close_out, run_close_err, run_write_close_err, run_done]
  simp

end InOrder

/-- The chunks a process wrote to a descriptor, in order: what the descriptor's pipe delivers. -/
def pipeOf (r : Process.Ran) (fd : Nat) : List Chunk :=
  (r.chunks.filter (·.fd = fd)).map (·.bytes)

theorem flatten_pipeOf (r : Process.Ran) (fd : Nat) : (pipeOf r fd).flatten = r.bytesOn fd := by
  simp [pipeOf, Process.Ran.bytesOn, List.flatMap_def]

/-- **The result of a command, through any decoder.** On the schedule that copies standard
output first, a stage that decodes as the command does ends the run with the standard output
and the standard error of the command's result. The combined buffer holds the same bytes as
the result's combined output, and exactly it when standard error's writes pass nothing on
before the close or standard output's close passes nothing on: the result's combined output is
what a decoder gives that holds nothing back across that boundary. -/
theorem result_of_decoder (c : Command) (r : Process.Ran) (stage : Stage σ)
    (hd : stage.Decodes c.decodeOutput) :
    let st := (State.start stage (pipeOf r 1) (pipeOf r 2)).run stage (fun _ => 0)
      (inOrder stage (pipeOf r 1) (pipeOf r 2))
    st.phase = .done ∧ st.output.stdout = (c.result r).stdout ∧
      st.output.stderr = (c.result r).stderr ∧ st.output.combined.Perm (c.result r).combined ∧
      ((stage.feed stage.init (pipeOf r 2)).2 = [] ∨
          stage.close (stage.feed stage.init (pipeOf r 1)).1 = [] →
        st.output.combined = (c.result r).combined) := by
  intro st
  have hst : st = _ := run_inOrder hd.write_ok (pipeOf r 1) (pipeOf r 2)
  have hout := hd.feed_close (pipeOf r 1)
  have herr := hd.feed_close (pipeOf r 2)
  rw [flatten_pipeOf] at hout herr
  -- the writes of standard error come between what standard output passes on
  have hperm : ((stage.feed stage.init (pipeOf r 2)).2.flatten ++
      (stage.close (stage.feed stage.init (pipeOf r 1)).1).flatten).Perm
      ((stage.close (stage.feed stage.init (pipeOf r 1)).1).flatten ++
        (stage.feed stage.init (pipeOf r 2)).2.flatten) := List.perm_append_comm
  refine ⟨by rw [hst], ?_, ?_, ?_, ?_⟩
  · rw [hst]
    simpa [State.output, Command.result] using hout
  · rw [hst]
    simpa [State.output, Command.result] using herr
  · rw [hst, Command.result, ← hout, ← herr]
    simpa [State.output] using (hperm.append_left _).append_right _
  · rintro (h | h) <;>
      rw [hst, Command.result, ← hout, ← herr] <;> simp [State.output, h]

/-- A stage that holds every byte written and passes on `f` of them when closed. -/
def Stage.holding (f : List UInt8 → List UInt8) : Stage (List UInt8) where
  init := []
  write held p := (held ++ p, [], true)
  close held := [f held]

section Holding

variable (f : List UInt8 → List UInt8)

@[simp] theorem holding_init : (Stage.holding f).init = [] := rfl

@[simp] theorem holding_write (held p : List UInt8) :
    (Stage.holding f).write held p = (held ++ p, [], true) := rfl

@[simp] theorem holding_close (held : List UInt8) : (Stage.holding f).close held = [f held] := rfl

theorem feed_holding (held : List UInt8) (ps : List Chunk) :
    (Stage.holding f).feed held ps = (held ++ ps.flatten, []) := by
  induction ps generalizing held with
  | nil => simp [Stage.feed]
  | cons p ps ih => simp [Stage.feed, ih]

theorem holding_decodes : (Stage.holding f).Decodes f :=
  ⟨fun _ _ => rfl, fun ps => by simp [feed_holding]⟩

end Holding

/-- A command decoding GBK output, through a decoder that passes its text on when closed: the
capture gives the result exactly. -/
theorem result_of_decoder_gbk :
    let c : Command := { path := "/bin/sh", args := [], encoding := some .gbk }
    let r : Process.Ran := { (default : Process.Ran) with
      chunks := [⟨0, 1, [0xC4, 0xE3], 0⟩, ⟨1, 2, [0x21], 0⟩, ⟨2, 1, [0xBA, 0xC3], 0⟩] }
    (Stage.holding c.decodeOutput).Decodes c.decodeOutput ∧
      ((State.start (Stage.holding c.decodeOutput) (pipeOf r 1) (pipeOf r 2)).run
        (Stage.holding c.decodeOutput) (fun _ => 0)
        (inOrder (Stage.holding c.decodeOutput) (pipeOf r 1) (pipeOf r 2))).output =
        ⟨(c.result r).stdout, (c.result r).stderr, (c.result r).combined⟩ := by
  intro c r
  have hd := holding_decodes c.decodeOutput
  obtain ⟨-, hout, herr, -, hcmb⟩ := result_of_decoder c r _ hd
  exact ⟨hd, by rw [← hout, ← herr, ← hcmb (.inl (by rw [feed_holding]))]⟩

@[simp] theorem plain_init : Stage.plain.init = () := rfl

@[simp] theorem plain_write (p : Chunk) : Stage.plain.write () p = ((), [p], true) := rfl

@[simp] theorem plain_close : Stage.plain.close () = [] := rfl

theorem feed_plain (ps : List Chunk) : Stage.plain.feed () ps = ((), ps) := by
  induction ps with
  | nil => rfl
  | cons p ps ih => simp [Stage.feed, ih]

/-- Standard output's thread copies its pipe, three turns a chunk, and ends; then standard
error's does; then the closing of both writers and the end of the run. -/
def outFirst (outPipe errPipe : List Chunk) : List Turn :=
  List.replicate (3 * outPipe.length) ⟨.out, true⟩ ++ [⟨.out, true⟩] ++
    List.replicate (3 * errPipe.length) ⟨.err, true⟩ ++
    [⟨.err, true⟩, ⟨.err, true⟩, ⟨.err, true⟩, ⟨.err, true⟩]

/-- Without an encoding, the schedule that copies standard output first is `outFirst`. -/
theorem inOrder_plain (outPipe errPipe : List Chunk) :
    inOrder Stage.plain outPipe errPipe = outFirst outPipe errPipe := by
  simp only [inOrder, outFirst, plain_init, feed_plain, plain_close]
  rw [show outPipe.length + 2 * outPipe.length = 3 * outPipe.length by omega,
    show errPipe.length + 2 * errPipe.length = 3 * errPipe.length by omega]
  simp

/-- The result of a command without an encoding is what the capture of its process's output
gives on the schedule that copies standard output first: the combined output is standard
output followed by standard error, one of the shuffles every schedule gives. -/
theorem result_eq_outFirst (c : Command) (r : Process.Ran) (hc : c.encoding = none) :
    ((State.start Stage.plain (pipeOf r 1) (pipeOf r 2)).run Stage.plain (fun _ => 0)
        (outFirst (pipeOf r 1) (pipeOf r 2))).output =
      ⟨(c.result r).stdout, (c.result r).stderr, (c.result r).combined⟩ := by
  have hd : Stage.plain.Decodes c.decodeOutput :=
    ⟨fun _ _ => rfl, fun ps => by simp [feed_plain, Command.decodeOutput, hc]⟩
  obtain ⟨-, hout, herr, -, hcmb⟩ := result_of_decoder c r _ hd
  rw [← inOrder_plain, ← hout, ← herr, ← hcmb (.inr rfl)]

end Timebox.Capture
