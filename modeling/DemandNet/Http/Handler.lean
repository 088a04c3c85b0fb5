import DemandNet.Http.Exchange

/-!
# Handlers

What a handler does with an exchange.

A handler is a tree: at each node it performs an operation, and the answer decides where
it goes on. Every path ends in a result, or the handler breaks down. One that breaks down
while it is waited for is caught, and its result is a failure like others. One that breaks
down before there is anything to wait for is not caught: it collapses, and takes whoever
called it with it.

## Main definitions

* `HandlerOp`: What a handler can do.
* `HandlerAnswer`: What it learns.
* `Handler`: A handler.
* `Outcome`, `Outcome.caught?`: How a handler ends, and what is learned of that.
* `Handler.run`: A handler at work.
* `Handler.ofOps`: A handler that ignores all answers.
-/

namespace DemandNet

namespace Http

/-- What a handler can do with an exchange. -/
inductive HandlerOp where
  | setStatus (status : Nat)
  | setHeader (name : String) (value : Bytes)
  | addHeader (name : String) (value : Bytes)
  | sendHeaders
  | send (chunk : Bytes)
  | sendAll (chunks : List Bytes)
  | upgrade (protocols : Option String)
  /-- Ask whether the head was flushed. -/
  | headSent
  /-- Look at the head as it stands. -/
  | pendingHead
  | receive (mode : Flow.Mode)
  | receiveMultipart
  | pull
  | request (n : Nat)
  | cancel

/-- What a handler learns from an operation. -/
inductive HandlerAnswer where
  | done
  | failed (e : NetError)
  /-- The writer has to wait, and the handler with it. -/
  | waiting
  | flag (b : Bool)
  | head (h : ResponseHead)
  | accepted (a : WebSocket.Accepted)
  | decoding (d : Multipart.Decoder)
  | polled (p : Flow.Poll Bytes)
  | noReader

namespace HandlerAnswer

/-- The answer to an operation that may fail. -/
def ofResult : Except NetError Unit → HandlerAnswer
  | .ok () => done
  | .error e => failed e

/-- The answer to a write. -/
def ofWrite : Option (Except NetError Unit) → HandlerAnswer
  | some r => ofResult r
  | none => waiting

end HandlerAnswer

/-- Perform an operation of a handler. -/
def Exchange.perform (x : Exchange) : HandlerOp → HandlerAnswer × Exchange
  | .setStatus status =>
      let (r, x) := x.setStatus status
      (.ofResult r, x)
  | .setHeader name value =>
      let (r, x) := x.setHeader name value
      (.ofResult r, x)
  | .addHeader name value =>
      let (r, x) := x.addHeader name value
      (.ofResult r, x)
  | .sendHeaders =>
      let (flushed, x) := x.sendHeaders
      (.flag flushed, x)
  | .send chunk =>
      let (r, x) := x.send chunk
      (.ofWrite r, x)
  | .sendAll chunks =>
      let (r, x) := x.sendAll chunks
      (.ofWrite r, x)
  | .upgrade protocols =>
      match x.upgrade protocols with
      | (.ok a, x) => (.accepted a, x)
      | (.error e, x) => (.failed e, x)
  | .headSent => (.flag x.headSent, x)
  | .pendingHead => (.head x.pending, x)
  | .receive mode =>
      let (r, x) := x.receive mode
      (.ofResult r, x)
  | .receiveMultipart =>
      match x.receiveMultipart with
      | (.ok d, x) => (.decoding d, x)
      | (.error e, x) => (.failed e, x)
  | .pull =>
      let (p, x) := x.pull
      ((p.map HandlerAnswer.polled).getD .noReader, x)
  | .request n => (.done, x.request n)
  | .cancel => (.done, x.cancel)

/-- A handler: operations, each chosen by the answers before it, and a result. -/
inductive Handler where
  | finish (result : Except NetError Unit)
  | act (op : HandlerOp) (next : HandlerAnswer → Handler)
  /-- It breaks down while it is waited for. -/
  | breakDown
  /-- It breaks down before that, and nobody is there to catch it. -/
  | collapse

/-- How a handler ends. -/
inductive Outcome where
  | returned (r : Except NetError Unit)
  | brokeDown
  | collapsed

/-- The failure of a handler that broke down. -/
def panicked : NetError := .handler "handler panicked"

/-- What comes of waiting for a handler, if anything does. -/
def Outcome.caught? : Outcome → Option (Except NetError Unit)
  | returned r => some r
  | brokeDown => some (.error panicked)
  | collapsed => none

namespace Handler

/-- A handler that does nothing. -/
def ok : Handler := finish (.ok ())

/-- A handler that fails. -/
def fail (e : NetError) : Handler := finish (.error e)

/-- A handler at work: its outcome, and the exchange it leaves. -/
def run : Handler → Exchange → Outcome × Exchange
  | finish result, x => (.returned result, x)
  | breakDown, x => (.brokeDown, x)
  | collapse, x => (.collapsed, x)
  | act op next, x =>
      let (a, x) := x.perform op
      (next a).run x

/-- Perform operations whatever their answers are, and end with a result. -/
def ofOps (result : Except NetError Unit) : List HandlerOp → Handler
  | [] => finish result
  | op :: rest => act op fun _ => ofOps result rest

/-- Perform an operation and go on unless it fails. -/
def attempt (op : HandlerOp) (next : Handler) : Handler :=
  act op fun
    | .failed e => fail e
    | _ => next

/-- Perform operations up to the first that fails. -/
def attemptAll : List HandlerOp → Handler
  | [] => ok
  | op :: rest => attempt op (attemptAll rest)

end Handler

end Http

end DemandNet
