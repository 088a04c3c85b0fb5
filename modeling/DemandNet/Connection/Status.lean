/-!
# The Status of a Connection

A connection is open, then closing, then closed, and never goes back.

## Main definitions

* `Status`: Open, closing or closed.
* `Status.markClosing`, `Status.markClosed`: The two ways on.
-/

namespace DemandNet

namespace Connection

/-- How far a connection has come. -/
inductive Status where
  /-- Data flows both ways. -/
  | opened
  /-- A write failed or somebody asked to close. -/
  | closing
  /-- The socket is released. -/
  | closed
  deriving Repr, DecidableEq, Inhabited

namespace Status

/-- An open connection begins to close. -/
def markClosing : Status → Status
  | opened => closing
  | s => s

/-- The connection is closed. -/
def markClosed (_ : Status) : Status := closed

/-- The name of a status. -/
def name : Status → String
  | opened => "open"
  | closing => "closing"
  | closed => "closed"

end Status

end Connection

end DemandNet
