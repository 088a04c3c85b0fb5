import DemandNet.Address.Socket

/-!
# Connection Info

What is known of a connection as long as it lives.

Every connection has a number of its own, given out in order and never twice, so a number
stands for its connection wherever connections are listed.

## Main definitions

* `Transport`: What a connection runs on.
* `Info`: The standing facts about a connection.
-/

namespace DemandNet

namespace Connection

/-- What a connection runs on. -/
inductive Transport where
  | tcp
  | udp
  | http
  deriving Repr, DecidableEq, Inhabited

/-- The name of a transport. -/
def Transport.name : Transport → String
  | tcp => "tcp"
  | udp => "udp"
  | http => "http"

/-- The transport of a name; what has no name of its own is taken for a stream. -/
def Transport.ofName (name : String) : Transport :=
  if name = "udp" then udp else if name = "http" then http else tcp

/-- The standing facts about a connection: its number, what it runs on, and the addresses of
    its two ends. -/
structure Info where
  id : Nat
  transport : Transport
  remote : Address.Socket
  near : Address.Socket
  deriving Repr, DecidableEq, Inhabited

end Connection

end DemandNet
