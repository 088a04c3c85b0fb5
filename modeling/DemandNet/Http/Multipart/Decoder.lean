import DemandNet.Http.Multipart.Boundary
import DemandNet.Http.Multipart.Part

/-!
# Bodies in Parts

Decoding a body in parts that arrives in chunks.

The parts are separated by delimiters: a line end, two dashes and the boundary. The
decoder keeps what it has not yet used in a buffer, and never more of a body than it
takes to recognise a delimiter that was cut in two by a chunk end. The first delimiter
may stand at the very beginning, so the buffer starts with a line end of its own.

Every operation is an attempt on the buffer that either comes to an end or asks for
more input; `Decoder.run` repeats an attempt with one more chunk each time. When the
input breaks off, so does the operation. What it did to the buffer until then stays
done, and the decoder's place in the body changes only at the end of a boundary line.

## Main definitions

* `Input`: The chunks that are still to come, and how the input ends.
* `Decoder`: The decoder's buffer and place.
* `Decoder.nextPart`: The headers of the next part.
* `Decoder.bodyChunk`, `Decoder.readBody`: The body of the part.
* `Decoder.partChunk`: The body of a part that is held.
-/

namespace DemandNet

namespace Http

namespace Multipart

/-- How an input ends. -/
inductive Ending where
  | ended
  | failed (e : NetError)
  /-- It does not end, but nothing more comes. -/
  | stalled
  deriving Repr, DecidableEq

/-- The chunks that are still to come, how the input ends after them, and how often it
    was asked so far. -/
structure Input where
  chunks : List Bytes
  ending : Ending
  pulls : Nat

/-- The outcome of an operation. -/
inductive Outcome (α : Type) where
  | done (a : α)
  | failed (e : NetError)
  /-- The operation could not be finished because nothing more came. -/
  | stalled
  deriving Repr

/-- The outcome of an operation that needs more input than there is. -/
def Ending.outcome : Ending → Outcome α
  | ended => .failed (.decode "multipart body truncated")
  | failed e => .failed e
  | stalled => .stalled

/-- The end of an input that was already reached: an error is not repeated. -/
def Ending.after : Ending → Ending
  | failed _ => ended
  | e => e

/-- Where in the body a decoder is. -/
inductive Place where
  | preamble
  | headers
  | body
  | epilogue
  deriving Repr, DecidableEq, Inhabited

/-- A decoder: what it has not used yet, and where it is. -/
structure Decoder where
  buffer : Bytes
  boundary : String
  place : Place
  deriving Repr, DecidableEq, Inhabited

/-- A line end: carriage return, line feed. -/
def lineEnd : Bytes := [13, 10]

/-- Two dashes. -/
def dashes : Bytes := [45, 45]

/-- The most bytes that a block of part headers may have. -/
def maxHeaderBytes : Nat := 16384

/-- The first place at which a pattern occurs, counted from `n`. -/
def indexFrom? (pattern : Bytes) (n : Nat) : Bytes → Option Nat
  | [] => if pattern.isEmpty then some n else none
  | b :: rest =>
      if pattern.isPrefixOf (b :: rest) then some n else indexFrom? pattern (n + 1) rest

/-- The first place at which a pattern occurs. -/
def indexOf? (pattern bs : Bytes) : Option Nat := indexFrom? pattern 0 bs

/-- How far an attempt came. -/
inductive Attempt (α : Type) where
  | done (a : α)
  | failed (e : NetError)
  | more
  deriving Repr

namespace Decoder

/-- A decoder at the beginning of a body. -/
def withBoundary (boundary : String) : Decoder :=
  { buffer := lineEnd, boundary, place := .preamble }

/-- What separates the parts. -/
def delimiter (d : Decoder) : Bytes := lineEnd ++ dashes ++ Bytes.ofText d.boundary

/-- One more chunk arrives. -/
def feed (d : Decoder) (chunk : Bytes) : Decoder := { d with buffer := d.buffer ++ chunk }

/-- Repeat an attempt with one more chunk each time it asks for more. -/
def runOn (attempt : Decoder → Attempt α × Decoder) (ending : Ending) (d : Decoder)
    (pulls : Nat) : List Bytes → Outcome α × Decoder × Input
  | [] =>
      match attempt d with
      | (.done a, d) => (.done a, d, ⟨[], ending, pulls⟩)
      | (.failed e, d) => (.failed e, d, ⟨[], ending, pulls⟩)
      | (.more, d) => (ending.outcome, d, ⟨[], ending.after, pulls + 1⟩)
  | chunk :: rest =>
      match attempt d with
      | (.done a, d) => (.done a, d, ⟨chunk :: rest, ending, pulls⟩)
      | (.failed e, d) => (.failed e, d, ⟨chunk :: rest, ending, pulls⟩)
      | (.more, d) => runOn attempt ending (d.feed chunk) (pulls + 1) rest

/-- Repeat an attempt until it needs no more input. -/
def run (attempt : Decoder → Attempt α × Decoder) (d : Decoder) (i : Input) :
    Outcome α × Decoder × Input :=
  runOn attempt i.ending d i.pulls i.chunks

/-- Drop everything up to and including the next delimiter. Of a buffer without one
    only an end that may be the beginning of one is kept. -/
def skipAttempt (d : Decoder) : Attempt Unit × Decoder :=
  match indexOf? d.delimiter d.buffer with
  | some n => (.done (), { d with buffer := d.buffer.drop (n + d.delimiter.length) })
  | none =>
      let keep := d.delimiter.length - 1
      (.more, { d with buffer := d.buffer.drop (d.buffer.length - keep) })

/-- A space or a tab. -/
def isPaddingByte (b : UInt8) : Bool := b == 32 || b == 9

/-- What follows a delimiter: perhaps blanks, then two dashes after the last part, or a
    line end before another one. -/
def suffixAttempt (d : Decoder) : Attempt Unit × Decoder :=
  let d := { d with buffer := d.buffer.dropWhile isPaddingByte }
  if d.buffer.length < 2 then (.more, d)
  else if dashes.isPrefixOf d.buffer then
    (.done (), { d with buffer := d.buffer.drop 2, place := .epilogue })
  else if lineEnd.isPrefixOf d.buffer then
    (.done (), { d with buffer := d.buffer.drop 2, place := .headers })
  else (.failed (.decode "malformed boundary line"), d)

/-- The headers of a part: nothing before an empty line, or what stands before the first
    empty line. -/
def headersAttempt (d : Decoder) : Attempt Headers × Decoder :=
  if lineEnd.isPrefixOf d.buffer then (.done [], { d with buffer := d.buffer.drop 2 })
  else
    match indexOf? (lineEnd ++ lineEnd) d.buffer with
    | some n =>
        let d' := { d with buffer := d.buffer.drop (n + 4) }
        match parseHeaders (d.buffer.take n) with
        | .ok h => (.done h, d')
        | .error e => (.failed e, d')
    | none =>
        if maxHeaderBytes < d.buffer.length then (.failed (.decode "part headers too large"), d)
        else (.more, d)

/-- What an attempt finds in the body of a part. -/
inductive Found where
  | chunk (bs : Bytes)
  /-- The delimiter, which is dropped. -/
  | delimiter
  /-- The decoder is not in a body. -/
  | nothing
  deriving Repr, DecidableEq

/-- The next bytes of a body: those before the next delimiter, or all that cannot be the
    beginning of one. -/
def bodyAttempt (d : Decoder) : Attempt Found × Decoder :=
  if d.place ≠ .body then (.done .nothing, d)
  else
    match indexOf? d.delimiter d.buffer with
    | some 0 => (.done .delimiter, { d with buffer := d.buffer.drop d.delimiter.length })
    | some n => (.done (.chunk (d.buffer.take n)), { d with buffer := d.buffer.drop n })
    | none =>
        let sure := d.buffer.length - (d.delimiter.length - 1)
        if 0 < sure then
          (.done (.chunk (d.buffer.take sure)), { d with buffer := d.buffer.drop sure })
        else (.more, d)

/-- Go to the end of the next boundary line. -/
def skipToDelimiter (d : Decoder) (i : Input) : Outcome Unit × Decoder × Input :=
  match d.run skipAttempt i with
  | (.done (), d, i) => d.run suffixAttempt i
  | r => r

/-- Read the headers of the part that begins here. -/
def readHeaders (d : Decoder) (i : Input) : Outcome (Option Headers) × Decoder × Input :=
  match d.run headersAttempt i with
  | (.done h, d, i) => (.done (some h), { d with place := .body }, i)
  | (.failed e, d, i) => (.failed e, d, i)
  | (.stalled, d, i) => (.stalled, d, i)

/-- The headers of the next part, after what is left of the present one; `none` after
    the last part. -/
def nextPart (d : Decoder) (i : Input) : Outcome (Option Headers) × Decoder × Input :=
  match d.place with
  | .epilogue => (.done none, d, i)
  | .headers => d.readHeaders i
  | _ =>
      match d.skipToDelimiter i with
      | (.done (), d, i) =>
          if d.place = .headers then d.readHeaders i else (.done none, d, i)
      | (.failed e, d, i) => (.failed e, d, i)
      | (.stalled, d, i) => (.stalled, d, i)

/-- The next bytes of the body of a part; `none` at its end. -/
def bodyChunk (d : Decoder) (i : Input) : Outcome (Option Bytes) × Decoder × Input :=
  match d.run bodyAttempt i with
  | (.done (.chunk bs), d, i) => (.done (some bs), d, i)
  | (.done .nothing, d, i) => (.done none, d, i)
  | (.done .delimiter, d, i) =>
      match d.run suffixAttempt i with
      | (.done (), d, i) => (.done none, d, i)
      | (.failed e, d, i) => (.failed e, d, i)
      | (.stalled, d, i) => (.stalled, d, i)
  | (.failed e, d, i) => (.failed e, d, i)
  | (.stalled, d, i) => (.stalled, d, i)

/-- The next bytes of a part, and whether it has ended by then. A part that has ended is
    not looked at again; one that has failed is. -/
def partChunk (d : Decoder) (i : Input) (ended : Bool) :
    (Outcome (Option Bytes) × Bool) × Decoder × Input :=
  if ended then ((.done none, true), d, i)
  else
    match d.bodyChunk i with
    | (.done none, d, i) => ((.done none, true), d, i)
    | (r, d, i) => ((r, false), d, i)

/-- The number of bytes that a decoder can still come to see. -/
def remaining (d : Decoder) (i : Input) : Nat :=
  d.buffer.length + i.chunks.flatten.length

/-- At most `fuel` chunks of the body of a part, up to its end or a failure. -/
def chunksUpTo (d : Decoder) (i : Input) : Nat → List Bytes × Outcome Unit × Decoder × Input
  | 0 => ([], .done (), d, i)
  | fuel + 1 =>
      match d.bodyChunk i with
      | (.done (some bs), d, i) =>
          let (more, r) := d.chunksUpTo i fuel
          (bs :: more, r)
      | (.done none, d, i) => ([], .done (), d, i)
      | (.failed e, d, i) => ([], .failed e, d, i)
      | (.stalled, d, i) => ([], .stalled, d, i)

/-- The chunks of the body of a part up to its end or a failure, and which of the two it
    was. Every chunk holds at least one byte, so there are no more chunks than bytes. -/
def readChunks (d : Decoder) (i : Input) : List Bytes × Outcome Unit × Decoder × Input :=
  d.chunksUpTo i (d.remaining i + 1)

/-- The whole body of a part. -/
def readBody (d : Decoder) (i : Input) : Outcome Bytes × Decoder × Input :=
  match d.readChunks i with
  | (chunks, .done (), r) => (.done chunks.flatten, r)
  | (_, .failed e, r) => (.failed e, r)
  | (_, .stalled, r) => (.stalled, r)

end Decoder

end Multipart

end Http

end DemandNet
