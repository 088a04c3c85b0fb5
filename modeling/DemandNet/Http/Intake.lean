import DemandNet.Connection.Pipeline
import DemandNet.Flow.Bridge

/-!
# Bodies on Their Way In

How the body of a message gets from the codec to whoever reads it.

The codec hands the body over in frames. A pump takes the next frame only when something
is wanted, passes its data through the pipeline and delivers it. Frames without data,
and trailers, are passed over. The end of the body, good or bad, is a frame like the
others: it is only met when something is wanted.

## Main definitions

* `BodyFrame`, `BodyEnd`: What the codec hands over.
* `Intake`: A body with its bridge.
* `Intake.pump`: The pump goes on until it has to wait.
* `Intake.pull`: A reader looks for the next chunk, waiting if it has to.
* `Intake.collect`: A reader takes everything.
-/

namespace DemandNet

namespace Http

/-- A piece of a body. -/
inductive BodyFrame where
  | data (chunk : Bytes)
  | trailers
  deriving Repr, DecidableEq

/-- How a body ends. -/
inductive BodyEnd where
  | complete
  | broken (e : NetError)
  deriving Repr, DecidableEq

/-- A body on its way in. -/
structure Intake where
  pipeline : Connection.Pipeline
  bridge : Flow.Bridge Bytes
  /-- The frames that the pump has not taken yet. -/
  frames : List BodyFrame
  /-- What follows the frames; nothing yet if more of them may come. -/
  ending : Option BodyEnd

namespace Intake

/-- A body that nobody has read from. -/
def start (pipeline : Connection.Pipeline) (frames : List BodyFrame) (ending : Option BodyEnd) :
    Intake :=
  { pipeline, bridge := .empty, frames, ending }

/-- The end of a body arrives at its reader. -/
def conclude (b : Flow.Bridge Bytes) : Option BodyEnd → Flow.Bridge Bytes
  | some .complete => b.finish
  | some (.broken e) => b.finishWith e
  | none => b

/-- Take frames while something is wanted; the answer is the bridge after that and the
    frames that are left. -/
def pumpFrames (pipeline : Connection.Pipeline) (b : Flow.Bridge Bytes)
    (ending : Option BodyEnd) : List BodyFrame → Flow.Bridge Bytes × List BodyFrame
  | [] =>
      match b.readiness? with
      | none => (b, [])
      | some .closed => (b.finish, [])
      | some .wanted => (conclude b ending, [])
  | frame :: rest =>
      match b.readiness?, frame with
      | none, _ => (b, frame :: rest)
      | some .closed, _ => (b.finish, frame :: rest)
      | some .wanted, .trailers => pumpFrames pipeline b ending rest
      | some .wanted, .data chunk =>
          let b := if chunk.isEmpty then b else (b.tryEmit (pipeline.inbound chunk)).2
          pumpFrames pipeline b ending rest

/-- The pump goes on until it has to wait. -/
def pump (i : Intake) : Intake :=
  let (bridge, frames) := pumpFrames i.pipeline i.bridge i.ending i.frames
  { i with bridge, frames }

/-- Attach a reader. -/
def attach (i : Intake) (mode : Flow.Mode) : Except NetError (Flow.Consumer × Intake) :=
  (i.bridge.attach mode).map fun (c, bridge) => (c, { i with bridge })

/-- The reader looks for the next chunk and, if there is none, again after the pump had
    its turn. -/
def pull (i : Intake) (c : Flow.Consumer) : Flow.Poll Bytes × Flow.Consumer × Intake :=
  match i.bridge.poll c with
  | (.pending, c, bridge) =>
      let i := { i with bridge }.pump
      let (p, c, bridge) := i.bridge.poll c
      (p, c, { i with bridge }.pump)
  | (p, c, bridge) => (p, c, { i with bridge }.pump)

/-- Take at most `fuel` chunks. There is no outcome if the reader would have to wait for
    the codec. -/
def collectUpTo (i : Intake) (c : Flow.Consumer) (taken : Bytes) :
    Nat → Option (Except NetError Bytes) × Flow.Consumer × Intake
  | 0 => (none, c, i)
  | fuel + 1 =>
      match i.pull c with
      | (.item chunk, c, i) => i.collectUpTo c (taken ++ chunk) fuel
      | (.failed e, c, i) => (some (.error e), c, i)
      | (.ended, c, i) => (some (.ok taken), c, i)
      | (.pending, c, i) => (none, c, i)

/-- A reader takes everything and leaves. Every chunk but those in the queue comes from a
    frame. -/
def collect (i : Intake) (window : Flow.Window) : Option (Except NetError Bytes) × Intake :=
  match i.attach (.window window) with
  | .error e => (some (.error e), i)
  | .ok (c, i) =>
      let (r, c, i) := i.collectUpTo c [] (i.bridge.queue.length + i.frames.length + 1)
      (r, { i with bridge := i.bridge.detach c })

/-- Nobody will read from the body any more. -/
def abandon (i : Intake) : Intake := { i with bridge := i.bridge.abandon }.pump

end Intake

end Http

end DemandNet
