import DemandNet.Address.Bind

/-!
# Hosts

The host on which servers and clients run: one whose network interfaces are all down.

Servers can be started on such a host, because an address of version 4 is bound without
asking whether it belongs to an interface. Of version 6 only the unspecified address and
those that stand for version 4 can be bound. Nobody can be reached, not even the host
itself, and no multicast group can be joined.

## Main definitions

* `Host`: What a host has bound.
* `Host.bind`, `Host.unbind`: Bind an address, and let it go.
* `Host.connectFailure`: Why somebody cannot be reached.
-/

namespace DemandNet

namespace Server

open Address

/-- What a host has bound. -/
structure Host where
  taken : List Socket
  /-- The next port that is handed out for port zero. -/
  freePort : Nat
  deriving Repr, DecidableEq, Inhabited

namespace Host

/-- A host that has bound nothing. Free ports are those that are never registered. -/
def fresh : Host := { taken := [], freePort := 49152 }

/-- The address can be bound without an interface. -/
def canBind : Ip → Bool
  | .v4 _ => true
  | .v6 ip => (Ip.v6 ip).isUnspecified || ip.groups.take 6 == [0, 0, 0, 0, 0, 65535]

/-- Bind an address. -/
def bind (h : Host) (a : Socket) : Except IoError (Socket × Host) :=
  if !canBind a.ip then .error .addressNotAvailable
  else if a.port = 0 then
    let a := { a with port := h.freePort }
    .ok (a, { taken := a :: h.taken, freePort := h.freePort + 1 })
  else if h.taken.contains a then .error .addressInUse
  else .ok (a, { h with taken := a :: h.taken })

/-- Let an address go. -/
def unbind (h : Host) (a : Socket) : Host := { h with taken := h.taken.erase a }

/-- Bind an address for a server that was configured with the text `configured`. -/
def bindFor (h : Host) (configured : String) (a : Socket) : Except NetError (Socket × Host) :=
  match h.bind a with
  | .ok r => .ok r
  | .error e => .error (.bind configured e)

/-- Why nobody can be reached at an address or name. Names other than the own one would
    have to be looked up. -/
def connectFailure (name : String) : IoError :=
  if (Ipv4.parse? name).isSome || name == "localhost" then .unreachable else .lookupFailed

end Host

end Server

end DemandNet
