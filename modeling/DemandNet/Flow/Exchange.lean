import DemandNet.Flow.Bridge

/-!
# Exchanges

A bridge together with its producer and every consumer that ever attached to it.

An exchange is what a run of bridge operations acts on. The consumers are numbered
in the order in which they attached; one that has left keeps its number and is
`none`. The producer may be waiting with an item in its hands: then it can do
nothing else until the item is delivered or the wait is given up, which gives up the
producer too. A delivery that is set aside waits with its item while the producer goes
on; there may be several, each may be given up alone, and all of them end when the
producer leaves.

## Main definitions

* `Exchange`: The bridge, its producer and its consumers.
* `Step`: One operation of either side.
* `Answer`: What an operation returns.
* `Exchange.step`: One operation.
* `Exchange.run`: Operations in order, with their answers.
-/

namespace DemandNet

namespace Flow

/-- The producing side of a bridge. -/
inductive Producer (α : Type) where
  | idle
  /-- It waits for demand with an item in its hands. -/
  | delivering (a : α)
  | gone
  deriving Repr

/-- A bridge, its producer, and every consumer that ever attached. -/
structure Exchange (α : Type) where
  bridge : Bridge α
  producer : Producer α
  /-- The deliveries that were set aside, in that order; `none` once one is over. -/
  aside : List (Option α)
  /-- By the order of attaching; `none` once the consumer has left. -/
  consumers : List (Option Consumer)

/-- One operation on a bridge. -/
inductive Step (α : Type) where
  | attach (mode : Mode)
  | request (consumer : Nat) (n : Nat)
  | poll (consumer : Nat)
  | detach (consumer : Nat)
  | abandon
  | emit (a : α)
  | tryEmit (a : α)
  | deliver (a : α)
  | pollDelivery
  | dropDelivery
  | setAside
  | pollAside (delivery : Nat)
  | dropAside (delivery : Nat)
  | finish
  | finishWith (e : NetError)

/-- What an operation returns. -/
inductive Answer (α : Type) where
  | done
  | failed (e : NetError)
  | polled (p : Poll α)
  /-- The item came back because none was wanted. -/
  | handedBack (a : α)
  /-- The delivery has to wait. -/
  | waiting
  | noConsumer
  | noProducer
  /-- The producer is waiting with an item. -/
  | busy
  | noDelivery
  deriving Repr

namespace Exchange

variable {α : Type}

/-- A bridge with its producer, before anyone attached. -/
def empty : Exchange α :=
  { bridge := .empty, producer := .idle, aside := [], consumers := [] }

instance : Inhabited (Exchange α) := ⟨empty⟩

/-- A consumer that has not left. -/
def consumer? (x : Exchange α) (i : Nat) : Option Consumer :=
  (x.consumers[i]?).join

/-- The number of the consumer that attached last, unless it has left. -/
def current? (x : Exchange α) : Option Nat :=
  let i := x.consumers.length - 1
  (x.consumer? i).map fun _ => i

/-- The outcome of an operation that either succeeds or fails. -/
def Answer.ofExcept : Except NetError Unit → Answer α
  | .ok () => .done
  | .error e => .failed e

/-- The producer tries to deliver the item it holds. -/
def offer (x : Exchange α) (a : α) : Answer α × Exchange α :=
  match x.bridge.deliver a with
  | (none, b) => (.waiting, { x with bridge := b, producer := .delivering a })
  | (some r, b) => (Answer.ofExcept r, { x with bridge := b, producer := .idle })

/-- The item of a delivery that was set aside and is not over. -/
def aside? (x : Exchange α) (i : Nat) : Option α :=
  (x.aside[i]?).join

/-- A delivery that was set aside tries again. -/
def offerAside (x : Exchange α) (i : Nat) (a : α) : Answer α × Exchange α :=
  match x.bridge.deliver a with
  | (none, b) => (.waiting, { x with bridge := b })
  | (some r, b) => (Answer.ofExcept r, { x with bridge := b, aside := x.aside.set i none })

/-- The producer leaves, and every delivery with it. -/
def leave (x : Exchange α) (b : Bridge α) : Answer α × Exchange α :=
  (.done, { x with bridge := b, producer := .gone, aside := [] })

/-- An operation of the producer, which has to be there and free. -/
def produce (x : Exchange α) (f : Exchange α → Answer α × Exchange α) :
    Answer α × Exchange α :=
  match x.producer with
  | .gone => (.noProducer, x)
  | .delivering _ => (.busy, x)
  | .idle => f x

/-- One operation. -/
def step (x : Exchange α) : Step α → Answer α × Exchange α
  | .attach mode =>
      match x.bridge.attach mode with
      | .error e => (.failed e, x)
      | .ok (c, b) => (.done, { x with bridge := b, consumers := x.consumers ++ [some c] })
  | .request i n =>
      match x.consumer? i with
      | none => (.noConsumer, x)
      | some c => (.done, { x with bridge := x.bridge.request c n })
  | .poll i =>
      match x.consumer? i with
      | none => (.noConsumer, x)
      | some c =>
          let (p, c, b) := x.bridge.poll c
          (.polled p, { x with bridge := b, consumers := x.consumers.set i (some c) })
  | .detach i =>
      match x.consumer? i with
      | none => (.noConsumer, x)
      | some c =>
          (.done, { x with bridge := x.bridge.detach c, consumers := x.consumers.set i none })
  | .abandon => (.done, { x with bridge := x.bridge.abandon })
  | .emit a =>
      x.produce fun x =>
        let (r, b) := x.bridge.emit a
        (Answer.ofExcept r, { x with bridge := b })
  | .tryEmit a =>
      x.produce fun x =>
        let (taken, b) := x.bridge.tryEmit a
        (if taken then .done else .handedBack a, { x with bridge := b })
  | .deliver a => x.produce fun x => x.offer a
  | .pollDelivery =>
      match x.producer with
      | .delivering a => x.offer a
      | _ => (.noDelivery, x)
  | .dropDelivery =>
      match x.producer with
      | .delivering _ => x.leave x.bridge.finish
      | _ => (.noDelivery, x)
  | .setAside =>
      match x.producer with
      | .delivering a => (.done, { x with producer := .idle, aside := x.aside ++ [some a] })
      | _ => (.noDelivery, x)
  | .pollAside i =>
      match x.aside? i with
      | none => (.noDelivery, x)
      | some a => x.offerAside i a
  | .dropAside i =>
      match x.aside? i with
      | none => (.noDelivery, x)
      | some _ => (.done, { x with aside := x.aside.set i none })
  | .finish => x.produce fun x => x.leave x.bridge.finish
  | .finishWith e => x.produce fun x => x.leave (x.bridge.finishWith e)

/-- Operations in order, with their answers. -/
def run (x : Exchange α) : List (Step α) → List (Answer α) × Exchange α
  | [] => ([], x)
  | s :: rest =>
      let (r, x) := x.step s
      let (rs, x) := x.run rest
      (r :: rs, x)

/-- Up to `fuel` polls of a consumer, ending with the first that yields nothing. -/
def drainUpTo (x : Exchange α) (i : Nat) : Nat → List (Poll α) × Exchange α
  | 0 => ([], x)
  | fuel + 1 =>
      match x.step (.poll i) with
      | (.polled .pending, x) => ([.pending], x)
      | (.polled .ended, x) => ([.ended], x)
      | (.polled p, x) =>
          let (ps, x) := x.drainUpTo i fuel
          (p :: ps, x)
      | (_, x) => ([], x)

/-- The polls of a consumer up to the first that yields nothing. Every other poll
    takes something from the queue, and an error is followed by the end. -/
def drain (x : Exchange α) (i : Nat) : List (Poll α) × Exchange α :=
  x.drainUpTo i (x.bridge.queue.length + 2)

/-- Emit items until one is refused; the number that was accepted. -/
def emitMany (x : Exchange α) : List α → Nat × Exchange α
  | [] => (0, x)
  | a :: rest =>
      match x.step (.emit a) with
      | (.done, x) =>
          let (n, x) := x.emitMany rest
          (n + 1, x)
      | (_, x) => (0, x)

end Exchange

end Flow

end DemandNet
