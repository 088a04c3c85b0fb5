import DemandNet.Error
import DemandNet.Flow.Window

/-!
# Bridges

A bridge hands items from one producer to one consumer at a time, and only as many
as the consumers asked for.

The items that were emitted and not yet received wait in a queue. Its reading end
belongs to the bridge while nobody is attached and to the attached consumer
otherwise. A consumer that leaves returns it, so the items still queued are there
for the next one; a consumer that has seen the end of the stream drops it, for
nothing will follow. A consumer that attaches after that finds an empty stream.

Demand belongs to the attached consumer: leaving sets it to zero, so an item the
producer still holds waits until the next consumer asks.

## Main definitions

* `Bridge`: The state that both sides share.
* `Consumer`: The state of an attached consumer.
* `Bridge.attach`, `Bridge.request`, `Bridge.poll`, `Bridge.detach`: The consumer's
  side.
* `Bridge.emit`, `Bridge.tryEmit`, `Bridge.deliver`, `Bridge.finish`: The
  producer's side.
-/

namespace DemandNet

namespace Flow

/-- Who holds the reading end of the queue. -/
inductive ReadEnd where
  /-- It waits for the next consumer. -/
  | parked
  /-- The attached consumer has it. -/
  | held
  /-- It was dropped after the end of the stream had been seen. -/
  | dropped
  deriving Repr, DecidableEq, Inhabited

/-- The state shared by the producer and the consumers of a stream. -/
structure Bridge (α : Type) where
  /-- What was emitted and not yet received: items, at the end perhaps an error. -/
  queue : List (Except NetError α)
  readEnd : ReadEnd
  /-- What the attached consumer asked for and the producer has not emitted. -/
  demand : Nat
  attached : Bool
  /-- The producer is gone. -/
  terminated : Bool
  /-- No consumer will ever attach again. -/
  abandoned : Bool

/-- The state of an attached consumer. -/
structure Consumer where
  mode : Mode
  /-- It reads the queue of the bridge, not the empty stream that a latecomer gets. -/
  reads : Bool
  /-- The window was asked for. -/
  primed : Bool
  /-- The items received since the window was last topped up. -/
  received : Nat
  /-- It has seen the end of the stream. -/
  done : Bool
  deriving Repr, DecidableEq, Inhabited

/-- What a consumer finds when it looks for the next item. -/
inductive Poll (α : Type) where
  | pending
  | ended
  | item (a : α)
  | failed (e : NetError)
  deriving Repr

/-- What a producer finds when it asks whether it may emit. -/
inductive Readiness where
  | wanted
  | closed
  deriving Repr, DecidableEq, Inhabited

namespace Bridge

variable {α : Type}

/-- A bridge to which nobody is attached, with its producer. -/
def empty : Bridge α :=
  { queue := [], readEnd := .parked, demand := 0, attached := false, terminated := false,
    abandoned := false }

instance : Inhabited (Bridge α) := ⟨empty⟩

/-- Nothing may be emitted for the time being. -/
def isPaused (b : Bridge α) : Bool := b.demand == 0

/-- The producer is gone, or no consumer will attach any more. -/
def isClosed (b : Bridge α) : Bool := b.terminated || b.abandoned

/-- Attach the one consumer. It takes the reading end if that is still there. -/
def attach (b : Bridge α) (mode : Mode) : Except NetError (Consumer × Bridge α) :=
  if b.attached then .error .alreadySubscribed
  else
    let consumer reads : Consumer :=
      { mode, reads, primed := false, received := 0, done := false }
    match b.readEnd with
    | .parked => .ok (consumer true, { b with attached := true, readEnd := .held })
    | _ => .ok (consumer false, { b with attached := true })

/-- Ask for `n` more items; a consumer that has seen the end asks in vain. -/
def request (b : Bridge α) (c : Consumer) (n : Nat) : Bridge α :=
  if c.done then b else { b with demand := grant b.demand n }

/-- Ask for the window, the first time the consumer looks for an item. -/
def prime (b : Bridge α) (c : Consumer) : Consumer × Bridge α :=
  if c.primed then (c, b)
  else
    match c.mode with
    | .window w => ({ c with primed := true }, { b with demand := grant b.demand w.size })
    | .manual => ({ c with primed := true }, b)

/-- Count a received item, and top the window up when it is time. -/
def countReceived (b : Bridge α) (c : Consumer) : Consumer × Bridge α :=
  match c.mode with
  | .manual => (c, b)
  | .window w =>
      if w.isUnlimited then (c, b)
      else if w.topUp ≤ c.received + 1 then
        ({ c with received := 0 }, { b with demand := grant b.demand w.topUp })
      else ({ c with received := c.received + 1 }, b)

/-- Look for the next item. -/
def poll (b : Bridge α) (c : Consumer) : Poll α × Consumer × Bridge α :=
  if c.done then (.ended, c, b)
  else
    let (c, b) := b.prime c
    if !c.reads then (.ended, { c with done := true }, b)
    else
      match b.queue with
      | .ok a :: rest =>
          let (c, b) := { b with queue := rest }.countReceived c
          (.item a, c, b)
      | .error e :: rest => (.failed e, { c with done := true }, { b with queue := rest })
      | [] =>
          if b.terminated then (.ended, { c with done := true }, b)
          else (.pending, c, b)

/-- The consumer leaves. What it asked for is forgotten, and what it has not
    received stays, unless it has seen the end. -/
def detach (b : Bridge α) (c : Consumer) : Bridge α :=
  let b := { b with demand := 0, attached := false }
  if !c.reads then b
  else if c.done then { b with readEnd := .dropped, queue := [] }
  else { b with readEnd := .parked }

/-- No consumer will attach any more. -/
def abandon (b : Bridge α) : Bridge α :=
  { b with abandoned := true }

/-- Put something into the queue; it is refused when nobody can ever read it. -/
def push (b : Bridge α) (s : Except NetError α) : Bool × Bridge α :=
  if b.readEnd = .dropped then (false, b) else (true, { b with queue := b.queue ++ [s] })

/-- Emit one item, using up one unit of demand. -/
def emit (b : Bridge α) (a : α) : Except NetError Unit × Bridge α :=
  if b.terminated then (.error (.notRunning "stream already terminated"), b)
  else
    match takeOne? b.demand with
    | none => (.error .noDemand, b)
    | some rest =>
        match { b with demand := rest }.push (.ok a) with
        | (true, b) => (.ok (), b)
        | (false, b) => (.error (.notRunning "bridge dropped"), b)

/-- Emit one item if one is wanted; the answer says whether it was. -/
def tryEmit (b : Bridge α) (a : α) : Bool × Bridge α :=
  match takeOne? b.demand with
  | none => (false, b)
  | some rest => (true, ({ b with demand := rest }.push (.ok a)).2)

/-- What the producer learns about the bridge, or `none` while it has to wait. -/
def readiness? (b : Bridge α) : Option Readiness :=
  if b.isClosed then some .closed
  else if b.demand = 0 then none
  else some .wanted

/-- Emit an item as soon as one is wanted: `none` while the producer has to wait. It
    fails only once the bridge has closed. -/
def deliver (b : Bridge α) (a : α) : Option (Except NetError Unit) × Bridge α :=
  match b.readiness? with
  | none => (none, b)
  | some .closed => (some (.error (.notRunning "bridge closed")), b)
  | some .wanted =>
      match b.tryEmit a with
      | (true, b) => (some (.ok ()), b)
      | (false, b) => (none, b)

/-- The producer leaves; the stream ends after what is queued. -/
def finish (b : Bridge α) : Bridge α :=
  { b with terminated := true }

/-- The producer leaves with an error; the stream ends with it. -/
def finishWith (b : Bridge α) (e : NetError) : Bridge α :=
  (b.push (.error e)).2.finish

end Bridge

end Flow

end DemandNet
