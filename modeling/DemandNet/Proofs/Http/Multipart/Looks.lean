import DemandNet.Proofs.Http.Multipart.Skipping

/-!
# Looks at the Buffer

What a decoder does in the course of a call, one look at its buffer after the other.

A call comes to an answer, a decoder and what is left of the input, and how it came to them
cannot be told from these. Whether the buffer grew too long in between, and whether a chunk
was asked for too soon, is a question about every single attempt. So the attempts of every
operation are listed here, each with the decoder that it found and the one that it left, and
with the chunks that were still to come.

The lists say nothing about results: these are taken from the operations themselves. What a
reader makes of a result does not matter either. At every call the decoder has one task, or
none, and what happens at the call is what the task comes to.

## Main definitions

* `Look`: One attempt on the buffer.
* `Decoder.watch`: The looks of a run.
* `Decoder.nextLooks`, `Decoder.chunkLooks`, `Decoder.allLooks`: The looks of an operation.
* `Task`, `Reader.task`: What the decoder has to do at a call.
* `Reader.history`, `Reader.yielded`: All looks and all chunks of a part, call by call.
* `Performs`: A task is done, and what is said is what was found.

## Theorems

* `call_performs`: A call does its task and nothing else.
-/

namespace DemandNet

namespace Http

namespace Multipart

open Decoder (Found)

/-- What a decoder is after when it looks at its buffer. -/
inductive Stage where
  /-- The next delimiter, whatever stands in front of it. -/
  | delimiter
  /-- The rest of a boundary line, behind the delimiter. -/
  | line
  | headers
  | body
  deriving Repr, DecidableEq

/-- One look at the buffer. -/
structure Look where
  stage : Stage
  /-- The decoder as it is found. -/
  before : Decoder
  /-- The decoder as it is left. -/
  after : Decoder
  /-- The buffer is not enough, and a chunk is asked for. -/
  asked : Bool
  /-- The chunks that are still to come by then. -/
  coming : List Bytes

/-- The attempt asks for a chunk. -/
def Attempt.asks : Attempt α → Bool
  | .more => true
  | _ => false

namespace Decoder

/-- The looks of a run: a first one, and another one for every chunk that was asked for and
    came. -/
def watchOn (stage : Stage) (attempt : Decoder → Attempt α × Decoder) (d : Decoder) :
    List Bytes → List Look
  | [] => [⟨stage, d, (attempt d).2, (attempt d).1.asks, []⟩]
  | chunk :: rest =>
      ⟨stage, d, (attempt d).2, (attempt d).1.asks, chunk :: rest⟩ ::
        if (attempt d).1.asks then watchOn stage attempt ((attempt d).2.feed chunk) rest else []

/-- The looks of a run on an input. -/
def watch (stage : Stage) (attempt : Decoder → Attempt α × Decoder) (d : Decoder) (i : Input) :
    List Look :=
  watchOn stage attempt d i.chunks

/-- The looks on the way to the end of the next boundary line. -/
def skipLooks (d : Decoder) (i : Input) : List Look :=
  d.watch .delimiter skipAttempt i ++
    match d.run skipAttempt i with
    | (.done (), d, i) => d.watch .line suffixAttempt i
    | _ => []

/-- The looks on the way to the next part. -/
def nextLooks (d : Decoder) (i : Input) : List Look :=
  match d.place with
  | .epilogue => []
  | .headers => d.watch .headers headersAttempt i
  | _ =>
      d.skipLooks i ++
        match d.skipToDelimiter i with
        | (.done (), d, i) => if d.place = .headers then d.watch .headers headersAttempt i else []
        | _ => []

/-- The looks for the next bytes of a body. -/
def chunkLooks (d : Decoder) (i : Input) : List Look :=
  d.watch .body bodyAttempt i ++
    match d.run bodyAttempt i with
    | (.done .delimiter, d, i) => d.watch .line suffixAttempt i
    | _ => []

/-- The looks for at most `fuel` chunks of a body. -/
def allLooks (d : Decoder) (i : Input) : Nat → List Look
  | 0 => []
  | fuel + 1 =>
      d.chunkLooks i ++
        match d.bodyChunk i with
        | (.done (some _), d, i) => d.allLooks i fuel
        | _ => []

end Decoder

/-! ### What is done at a call -/

/-- What a decoder has to do. -/
inductive Task where
  | still
  | next
  | chunk
  | all
  deriving Repr, DecidableEq

/-- The chunk that was found. -/
def Outcome.handed : Outcome (Option Bytes) → List Bytes
  | .done (some bs) => [bs]
  | _ => []

namespace Task

/-- What a task comes to, whatever it finds. -/
def perform : Task → Decoder → Input → Outcome Unit × Decoder × Input
  | .still, d, i => (.done (), d, i)
  | .next, d, i => ((d.nextPart i).1.as (), (d.nextPart i).2)
  | .chunk, d, i => ((d.bodyChunk i).1.as (), (d.bodyChunk i).2)
  | .all, d, i => (d.readChunks i).2

/-- The chunks of a part that a task finds. -/
def yields : Task → Decoder → Input → List Bytes
  | .still, _, _ | .next, _, _ => []
  | .chunk, d, i => (d.bodyChunk i).1.handed
  | .all, d, i => (d.readChunks i).1

/-- The looks of a task. -/
def looks : Task → Decoder → Input → List Look
  | .still, _, _ => []
  | .next, d, i => d.nextLooks i
  | .chunk, d, i => d.chunkLooks i
  | .all, d, i => d.allLooks i (d.remaining i + 1)

end Task

namespace Reader

/-- What the decoder has to do at a call. A part that has ended is not looked at again. -/
def task (r : Reader) (c : Call) : Task :=
  match c, r.part with
  | .nextPart, _ => .next
  | .pull, some p => if p.ended then .still else .chunk
  | .chunk, some ⟨ended, false⟩ => if ended then .still else .chunk
  | .bytes, some ⟨ended, false⟩ | .skip, some ⟨ended, false⟩ => if ended then .still else .all
  | _, _ => .still

/-- The looks of a call. -/
def looks (r : Reader) (c : Call) : List Look := (r.task c).looks r.decoder r.input

/-- The chunks that the part yields at a call, to whoever calls or to what is done there. -/
def yields (r : Reader) (c : Call) : List Bytes := (r.task c).yields r.decoder r.input

/-- All looks, one call after the other. -/
def history (r : Reader) : List Call → List Look
  | [] => []
  | c :: rest => r.looks c ++ (r.call c).2.history rest

/-- All chunks that parts yield, one call after the other. -/
def yielded (r : Reader) : List Call → List Bytes
  | [] => []
  | c :: rest => r.yields c ++ (r.call c).2.yielded rest

theorem run_cons (r : Reader) (c : Call) (rest : List Call) :
    (r.run (c :: rest)).2 = ((r.call c).2.run rest).2 := rfl

end Reader

/-- A decoder did its task, and what is said is what it found. -/
structure Performs (t : Task) (d : Decoder) (i : Input) (said : Answer × Reader) : Prop where
  decoder_eq : said.2.decoder = (t.perform d i).2.1
  input_eq : said.2.input = (t.perform d i).2.2
  stalled : said.1 = .stalled → (t.perform d i).1 = .stalled
  chunk : ∀ bs, said.1 = .chunk bs → t.yields d i = [bs]
  bytes : ∀ bs, said.1 = .bytes bs → (t.yields d i).flatten = bs

namespace Performs

variable {d d' : Decoder} {i i' : Input}

theorem of_next {o : Outcome (Option Headers)} (h : d.nextPart i = (o, d', i'))
    (part : Option HeldPart) : Performs .next d i (.ofNext o, ⟨d', i', part⟩) where
  decoder_eq := by rw [Task.perform, h]
  input_eq := by rw [Task.perform, h]
  stalled := by
    rw [Task.perform, h]
    rcases o with (_ | headers) | e | _ <;> rintro ⟨⟩
    rfl
  chunk := by
    intro bs hbs
    rcases o with (_ | headers) | e | _ <;> cases hbs
  bytes := by
    intro bs hbs
    rcases o with (_ | headers) | e | _ <;> cases hbs

theorem of_chunk {o : Outcome (Option Bytes)} (h : d.bodyChunk i = (o, d', i'))
    (part : Option HeldPart) : Performs .chunk d i (.ofChunk o, ⟨d', i', part⟩) where
  decoder_eq := by rw [Task.perform, h]
  input_eq := by rw [Task.perform, h]
  stalled := by
    rw [Task.perform, h]
    rcases o with (_ | found) | e | _ <;> rintro ⟨⟩
    rfl
  chunk := by
    intro bs hbs
    rw [Task.yields, h]
    rcases o with (_ | found) | e | _ <;> cases hbs
    rfl
  bytes := by
    intro bs hbs
    rcases o with (_ | found) | e | _ <;> cases hbs

theorem of_all {chunks : List Bytes} {u : Outcome Unit}
    (h : d.readChunks i = (chunks, u, d', i')) {a : Answer}
    (ha : a = .bytes chunks.flatten ∨ a = .ofSkip u) (part : Option HeldPart) :
    Performs .all d i (a, ⟨d', i', part⟩) where
  decoder_eq := by rw [Task.perform, h]
  input_eq := by rw [Task.perform, h]
  stalled := by
    rw [Task.perform, h]
    rcases ha with rfl | rfl
    · rintro ⟨⟩
    · rcases u with u | e | _ <;> rintro ⟨⟩
      rfl
  chunk := by
    intro bs hbs
    rcases ha with rfl | rfl
    · cases hbs
    · rcases u with u | e | _ <;> cases hbs
  bytes := by
    intro bs hbs
    rw [Task.yields, h]
    rcases ha with rfl | rfl
    · cases hbs
      rfl
    · rcases u with u | e | _ <;> cases hbs

end Performs

theorem nextPart_performs (r : Reader) : Performs .next r.decoder r.input r.nextPart := by
  unfold Reader.nextPart
  rcases h : r.decoder.nextPart r.input with ⟨(_ | headers) | e | _, d', i'⟩ <;>
    exact .of_next h _

theorem chunk_performs (r : Reader) (p : HeldPart) (hp : p.ended = false) :
    Performs .chunk r.decoder r.input (r.chunk p) := by
  unfold Reader.chunk Decoder.partChunk
  rw [hp, if_neg Bool.false_ne_true]
  rcases h : r.decoder.bodyChunk r.input with ⟨(_ | found) | e | _, d', i'⟩ <;>
    exact .of_chunk h _

theorem pull_performs (r : Reader) (p : HeldPart) (hp : p.ended = false) :
    Performs .chunk r.decoder r.input (r.pull p) := by
  unfold Reader.pull Decoder.partChunk
  rw [hp, if_neg Bool.false_ne_true]
  rcases h : r.decoder.bodyChunk r.input with ⟨(_ | found) | e | _, d', i'⟩ <;>
    exact .of_chunk h _

theorem bytes_performs (r : Reader) (p : HeldPart) (hp : p.ended = false) :
    Performs .all r.decoder r.input (r.bytes p) := by
  unfold Reader.bytes Decoder.readBody
  rw [hp, if_neg Bool.false_ne_true]
  rcases h : r.decoder.readChunks r.input with ⟨chunks, u | e | _, d', i'⟩
  · exact .of_all h (Or.inl rfl) _
  · exact .of_all h (Or.inr rfl) _
  · exact .of_all h (Or.inr rfl) _

theorem skip_performs (r : Reader) (p : HeldPart) (hp : p.ended = false) :
    Performs .all r.decoder r.input (r.skip p) := by
  unfold Reader.skip
  rw [hp, if_neg Bool.false_ne_true]
  rcases h : r.decoder.readChunks r.input with ⟨chunks, u, d', i'⟩
  exact .of_all h (Or.inr rfl) _

-- Everything that happens at a call is its task; the rest is what is said about it.
theorem call_performs (r : Reader) (c : Call) :
    Performs (r.task c) r.decoder r.input (r.call c) := by
  rcases r with ⟨d, i, _ | ⟨_ | _, _ | _⟩⟩ <;> cases c
  case none.nextPart | some.false.false.nextPart | some.false.true.nextPart |
    some.true.false.nextPart | some.true.true.nextPart => exact nextPart_performs _
  case some.false.false.pull => exact pull_performs _ ⟨false, false⟩ rfl
  case some.false.true.pull => exact pull_performs _ ⟨false, true⟩ rfl
  case some.false.false.chunk => exact chunk_performs _ ⟨false, false⟩ rfl
  case some.false.false.bytes => exact bytes_performs _ ⟨false, false⟩ rfl
  case some.false.false.skip => exact skip_performs _ ⟨false, false⟩ rfl
  -- No part is held that could be looked at, or it has ended.
  all_goals exact ⟨rfl, rfl, by rintro ⟨⟩, by rintro bs ⟨⟩, by rintro bs ⟨⟩ <;> rfl⟩

end Multipart

end Http

end DemandNet
