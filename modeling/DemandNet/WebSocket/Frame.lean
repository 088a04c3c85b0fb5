import DemandNet.Bytes

/-!
# Frames

What travels on a socket after the upgrade, and the socket itself.

A socket consists of two wires, one in either direction. What was written stays on its
wire until the other side reads it, even if the writer is gone by then; but nothing can
be written to a side that is gone.

## Main definitions

* `CloseReason`: Why a session is closed.
* `Frame`: A frame.
* `Wire`: One direction of a socket.
* `Socket`: A socket as one of its sides sees it.
-/

namespace DemandNet

namespace WebSocket

/-- Why a session is closed: a number and a text. -/
structure CloseReason where
  code : Nat
  text : String
  deriving Repr, DecidableEq, Inhabited

namespace CloseReason

/-- The numbers that may be sent. The others are reserved, or stand for situations in
    which no reason was sent. -/
def isAllowed (r : CloseReason) : Bool :=
  (1000 ≤ r.code && r.code ≤ 1003) || (1007 ≤ r.code && r.code ≤ 1013)
  || (3000 ≤ r.code && r.code ≤ 4999)

/-- What is answered to a reason with a number that may not be sent. -/
def violation : CloseReason := ⟨1002, "Protocol violation"⟩

end CloseReason

/-- A frame. Text is kept in its UTF-8 form, or what is meant to be it. -/
inductive Frame where
  | text (payload : Bytes)
  | binary (payload : Bytes)
  | ping (payload : Bytes)
  | pong (payload : Bytes)
  | close (reason : Option CloseReason)
  deriving Repr, DecidableEq, Inhabited

namespace Frame

/-- The most bytes that a frame may hold. -/
def limit : Frame → Nat
  | text _ | binary _ => 16777216
  | ping _ | pong _ | close _ => 125

/-- The number of bytes that a frame holds. -/
def size : Frame → Nat
  | text payload | binary payload | ping payload | pong payload => payload.length
  | close none => 0
  | close (some r) => 2 + (Bytes.ofText r.text).length

/-- A frame that holds more than it may. -/
def isOversized (f : Frame) : Bool := f.limit < f.size

/-- A text that is not UTF-8. -/
def isGarbled : Frame → Bool
  | text payload => (Bytes.toText? payload).isNone
  | _ => false

end Frame

/-- One direction of a socket. -/
structure Wire where
  /-- What was written and not yet read. -/
  frames : List Frame
  /-- The writing side is gone. -/
  ended : Bool
  /-- The reading side is gone. -/
  broken : Bool
  deriving Repr, DecidableEq, Inhabited

namespace Wire

/-- A wire on which nothing was written. -/
def fresh : Wire := { frames := [], ended := false, broken := false }

end Wire

/-- A socket as one of its sides sees it. -/
structure Socket where
  inbox : Wire
  outbox : Wire
  deriving Repr, DecidableEq, Inhabited

namespace Socket

/-- A socket on which nothing was written. -/
def fresh : Socket := ⟨.fresh, .fresh⟩

/-- The socket as the other side sees it. -/
def flip (s : Socket) : Socket := ⟨s.outbox, s.inbox⟩

/-- This side goes away. -/
def drop (s : Socket) : Socket :=
  ⟨{ s.inbox with broken := true }, { s.outbox with ended := true }⟩

/-- Write a frame; `none` if the other side is gone. -/
def write? (s : Socket) (f : Frame) : Option Socket :=
  if s.outbox.broken then none
  else some { s with outbox := { s.outbox with frames := s.outbox.frames ++ [f] } }

end Socket

end WebSocket

end DemandNet
