import DemandNet.Flow.Feeder
import DemandNet.Http.Multipart.Decoder

/-!
# Bodies behind a Bridge

A body in parts whose chunks reach the decoder through a bridge.

The decoder attaches with a window and asks for a chunk whenever an operation needs one.
What it will receive is settled from the start, because only the decoder itself asks;
`Input.ofFeeder` is that sequence, and the feeder keeps the account of how far the
producer has come.

## Main definitions

* `Input.ofFeeder`: What a consumer of a feeder receives.
* `Body`: A decoder with its input and the feeder behind it.
* `Body.nextPart`, `Body.partChunk`: The decoder's operations on a body.
-/

namespace DemandNet

namespace Http

namespace Multipart

/-- At most `fuel` items that a consumer receives, and what it finds after them. -/
def collectItems (f : Flow.Feeder Bytes) : Nat → List Bytes × Ending
  | 0 => ([], .stalled)
  | fuel + 1 =>
      match f.pull with
      | (.item a, f) =>
          let (items, ending) := collectItems f fuel
          (a :: items, ending)
      | (.failed e, _) => ([], .failed e)
      | (.ended, _) => ([], .ended)
      | (.pending, _) => ([], .stalled)

/-- What a consumer that asks as often as it can receives from a feeder. -/
def Input.ofFeeder (f : Flow.Feeder Bytes) : Input :=
  let (chunks, ending) := collectItems f (f.waiting.length + f.bridge.queue.length + 1)
  ⟨chunks, ending, 0⟩

/-- A decoder, its input and the feeder that the input comes from. -/
structure Body where
  decoder : Decoder
  input : Input
  feeder : Flow.Feeder Bytes

namespace Body

/-- A body at its beginning. -/
def start (boundary : String) (feeder : Flow.Feeder Bytes) : Body :=
  { decoder := .withBoundary boundary, input := .ofFeeder feeder, feeder }

/-- An operation of the decoder on a body. The feeder has its turn at the end, and
    whenever the decoder asks for a chunk. -/
def operate (b : Body) (f : Decoder → Input → ρ × Decoder × Input) : ρ × Body :=
  let (r, decoder, input) := f b.decoder b.input
  let feeder := b.feeder.pullMany (input.pulls - b.input.pulls)
  (r, { decoder, input, feeder := feeder.flow })

/-- The headers of the next part. -/
def nextPart (b : Body) : Outcome (Option Headers) × Body :=
  b.operate Decoder.nextPart

/-- The next bytes of a part, and whether it has ended by then. -/
def partChunk (b : Body) (ended : Bool) : (Outcome (Option Bytes) × Bool) × Body :=
  b.operate fun d i => d.partChunk i ended

/-- The whole body of a part. -/
def readBody (b : Body) : Outcome Bytes × Body :=
  b.operate Decoder.readBody

/-- The chunks of the body of a part, and whether its end was reached. -/
def readChunks (b : Body) : (List Bytes × Outcome Unit) × Body :=
  b.operate fun d i =>
    let (chunks, r, d, i) := d.readChunks i
    ((chunks, r), d, i)

/-- The next `n` chunks of a part. A part that has ended or failed goes on being asked,
    and a part that has ended stays so. -/
def takeChunks (b : Body) (ended : Bool) : Nat → List (Outcome (Option Bytes)) × Body
  | 0 => ([], b)
  | n + 1 =>
      let ((r, ended), b) := b.partChunk ended
      let (rs, b) := b.takeChunks ended n
      (r :: rs, b)

end Body

end Multipart

end Http

end DemandNet
