import DemandNet.Flow.Bridge

/-!
# Feeders

A producer that has its items ready and delivers them as they are wanted.

## Main definitions

* `Feeder`: A bridge with its consumer, the items to come and how the stream ends.
* `Feeder.flow`: The producer delivers what is wanted.
* `Feeder.pull`: The consumer looks for the next item, waiting if it has to.
-/

namespace DemandNet

namespace Flow

/-- How a stream ends once its items are delivered. -/
inductive StreamEnd where
  | finish
  | finishWith (e : NetError)
  /-- The producer stays. -/
  | stay
  deriving Repr, DecidableEq

/-- A bridge with an attached consumer and a producer that has its items ready. -/
structure Feeder (α : Type) where
  bridge : Bridge α
  consumer : Consumer
  waiting : List α
  streamEnd : StreamEnd
  /-- The number of items delivered so far. -/
  fed : Nat

namespace Feeder

variable {α : Type}

/-- A feeder to which a consumer has just attached. -/
def start (mode : Mode) (items : List α) (streamEnd : StreamEnd) : Feeder α :=
  let consumer := { mode, reads := true, primed := false, received := 0, done := false }
  { bridge := { Bridge.empty with attached := true, readEnd := .held }, consumer,
    waiting := items, streamEnd, fed := 0 }

/-- The producer ends the stream, if it has not done so. -/
def conclude (b : Bridge α) : StreamEnd → Bridge α
  | .finish => b.finish
  | .finishWith e => b.finishWith e
  | .stay => b

/-- The items that are delivered at once, with the bridge after them and the items
    left. -/
def deliverAll (b : Bridge α) (fed : Nat) : List α → Bridge α × Nat × List α
  | [] => (b, fed, [])
  | a :: rest =>
      match b.deliver a with
      | (some (.ok ()), b) => deliverAll b (fed + 1) rest
      | _ => (b, fed, a :: rest)

/-- The producer delivers what is wanted, and ends the stream after the last item. -/
def flow (f : Feeder α) : Feeder α :=
  if f.bridge.terminated then f
  else
    let (bridge, fed, waiting) := deliverAll f.bridge f.fed f.waiting
    let bridge := if waiting.isEmpty then conclude bridge f.streamEnd else bridge
    { f with bridge, fed, waiting }

/-- The consumer looks once. -/
def poll (f : Feeder α) : Poll α × Feeder α :=
  let (p, consumer, bridge) := f.bridge.poll f.consumer
  (p, { f with bridge, consumer })

/-- The consumer looks for the next item and, if there is none, again after the producer
    had its turn. -/
def pull (f : Feeder α) : Poll α × Feeder α :=
  match f.poll with
  | (.pending, f) =>
      let (p, f) := f.flow.poll
      (p, f.flow)
  | (p, f) => (p, f.flow)

/-- The consumer looks for an item a number of times. -/
def pullMany (f : Feeder α) : Nat → Feeder α
  | 0 => f
  | n + 1 => (f.pull).2.pullMany n

end Feeder

end Flow

end DemandNet
