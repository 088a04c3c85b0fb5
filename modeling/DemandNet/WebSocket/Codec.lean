import DemandNet.WebSocket.Frame

/-!
# The Codec

What either side of a session knows about the closing handshake, and what it does by
itself.

A side that reads a ping owes a pong; one that reads a close owes a close with the same
reason. What is owed is sent before the next frame is read, or when the side is flushed.
Once a side has sent a close it sends nothing more, not even pongs. The server ends the
connection as soon as both closes were exchanged; a client waits for that.

A frame with a defect ends the reading of a side: one that holds more than it may, or a text
that is not UTF-8.

## Main definitions

* `Handshake`: How far the closing handshake has come.
* `Frame.defect?`: What is wrong with a frame.
* `Codec`: What a side knows.
* `Codec.send`, `Codec.close`, `Codec.flush`: What a side writes.
* `Codec.read`: The next frame.
-/

namespace DemandNet

namespace WebSocket

/-- The two sides of a session. Who asked for the upgrade is the client. -/
inductive Role where
  | client
  | server
  deriving Repr, DecidableEq, Inhabited

/-- How far the closing handshake has come, as one side sees it. -/
inductive Handshake where
  | active
  /-- This side has sent a close. -/
  | closedByUs
  /-- The other side has sent a close. -/
  | closedByPeer
  /-- The other side has answered the close of this one. -/
  | acknowledged
  /-- Nothing more can be read or written. -/
  | terminated
  deriving Repr, DecidableEq, Inhabited

namespace Handshake

/-- The other side may still send frames. -/
def canRead : Handshake → Bool
  | active | closedByUs => true
  | _ => false

/-- The end of the data is no surprise. -/
def isOrderly : Handshake → Bool
  | closedByPeer | acknowledged => true
  | _ => false

end Handshake

/-- Why a side cannot read or write. -/
inductive CodecError where
  /-- The closing handshake is complete. -/
  | closed
  /-- It has been complete for a while. -/
  | alreadyClosed
  /-- Nothing may be sent after a close. -/
  | sendAfterClosing
  /-- Something was received after a close. -/
  | receivedAfterClosing
  /-- The data ended without a closing handshake. -/
  | reset
  /-- A frame holds more than it may. -/
  | oversized
  /-- A text is not UTF-8. -/
  | garbled
  /-- The other side is gone. -/
  | disconnected
  deriving Repr, DecidableEq, Inhabited

namespace CodecError

/-- The session is over as it should be. -/
def isOrderly : CodecError → Bool
  | closed | alreadyClosed => true
  | _ => false

end CodecError

/-- What is wrong with a frame that was received. -/
def Frame.defect? (f : Frame) : Option CodecError :=
  if f.isOversized then some .oversized
  else if f.isGarbled then some .garbled
  else none

/-- What one side of a session knows. -/
structure Codec where
  role : Role
  handshake : Handshake
  /-- What it owes the other side. -/
  owed : Option Frame
  deriving Repr, DecidableEq, Inhabited

/-- What a side finds when it reads. -/
inductive Reading where
  | pending
  | frame (f : Frame)
  /-- The session is over as it should be. -/
  | finished
  | failed (e : CodecError)
  deriving Repr, DecidableEq, Inhabited

namespace Codec

/-- A side of a new session. -/
def start (role : Role) : Codec := { role, handshake := .active, owed := none }

/-- The server has nothing more to do. -/
def isDone (c : Codec) : Bool := c.role == .server && !c.handshake.canRead

/-- Send what is owed. A server that has then nothing more to do is done. -/
def flush (c : Codec) (s : Socket) : Except CodecError Unit × Codec × Socket :=
  let paid := { c with owed := none }
  match c.owed with
  | none => if c.isDone then (.error .closed, { c with handshake := .terminated }, s)
      else (.ok (), c, s)
  | some f =>
      match s.write? f with
      | none => (.error .disconnected, paid, s)
      | some s =>
          if c.isDone then (.error .closed, { paid with handshake := .terminated }, s)
          else (.ok (), paid, s)

/-- Send a close and what is owed, unless one was sent or received before. -/
def close (c : Codec) (s : Socket) (reason : Option CloseReason) :
    Except CodecError Unit × Codec × Socket :=
  if c.handshake = .active then
    let c := { c with handshake := .closedByUs }
    match s.write? (.close reason) with
    | none => (.error .disconnected, c, s)
    | some s => c.flush s
  else c.flush s

/-- Send a frame and what is owed. -/
def send (c : Codec) (s : Socket) (f : Frame) : Except CodecError Unit × Codec × Socket :=
  if c.handshake = .terminated then (.error .alreadyClosed, c, s)
  else if c.handshake ≠ .active then (.error .sendAfterClosing, c, s)
  else
    match f with
    | .close reason => c.close s reason
    | f =>
        match s.write? f with
        | none => (.error .disconnected, c, s)
        | some s => c.flush s

/-- The reason of a close that is answered, and how. -/
def answerTo (reason : Option CloseReason) : Option CloseReason :=
  reason.map fun r => if r.isAllowed then r else .violation

/-- Take note of a frame that was read. -/
def receive (c : Codec) (f : Frame) : Reading × Codec :=
  if !c.handshake.canRead then (.failed .receivedAfterClosing, c)
  else
    match f.defect?, f with
    | some e, _ => (.failed e, c)
    | none, .ping payload =>
        (.frame f, if c.handshake = .active then { c with owed := some (.pong payload) } else c)
    | none, .close reason =>
        if c.handshake = .active then
          let reason := answerTo reason
          (.frame (.close reason),
            { c with handshake := .closedByPeer, owed := some (.close reason) })
        else (.frame f, { c with handshake := .acknowledged })
    | none, f => (.frame f, c)

/-- The next frame from the socket. -/
def take (c : Codec) (s : Socket) : Reading × Codec × Socket :=
  match s.inbox.frames with
  | f :: rest =>
      let (r, c) := c.receive f
      (r, c, { s with inbox := { s.inbox with frames := rest } })
  | [] =>
      if !s.inbox.ended then (.pending, c, s)
      else (if c.handshake.isOrderly then .finished else .failed .reset,
        { c with handshake := .terminated }, s)

/-- The next frame; what is owed is sent first. -/
def read (c : Codec) (s : Socket) : Reading × Codec × Socket :=
  if c.handshake = .terminated then (.finished, c, s)
  else if c.owed.isNone && !c.isDone then c.take s
  else
    match c.flush s with
    | (.ok (), c, s) => c.take s
    | (.error e, c, s) => (if e.isOrderly then .finished else .failed e, c, s)

end Codec

end WebSocket

end DemandNet
