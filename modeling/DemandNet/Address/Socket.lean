import DemandNet.Address.Ip

/-!
# Socket Addresses

An internet address with a port.

A version 6 address stands in square brackets and may have a zone, the number of the
interface it is meant for, after a percent sign. Zone zero is no zone and is not
written.

## Main definitions

* `Socket`: An address, a port and a zone.
* `Socket.parse?`: The socket address that a text spells.
* `Socket.text`: The text of a socket address.
-/

namespace DemandNet

namespace Address

/-- An address, a port and, for version 6, a zone. -/
structure Socket where
  ip : Ip
  port : Nat
  zone : Nat
  deriving Repr, DecidableEq, Inhabited

namespace Socket

/-- A colon and a port. -/
def readPort? (cs : List Char) : Option (Nat × List Char) :=
  (readChar? ':' cs).bind (readNumber? 10 none true 65536)

/-- A percent sign and a zone; nothing is zone zero. A percent sign without a number
    is not taken. -/
def readZone (cs : List Char) : Nat × List Char :=
  ((readChar? '%' cs).bind (readNumber? 10 none true 4294967296)).getD (0, cs)

/-- A version 4 address with a port. -/
def readV4? (cs : List Char) : Option (Socket × List Char) := do
  let (ip, cs) ← Ipv4.read? cs
  let (port, cs) ← readPort? cs
  return (⟨.v4 ip, port, 0⟩, cs)

/-- A version 6 address in brackets with a port. -/
def readV6? (cs : List Char) : Option (Socket × List Char) := do
  let cs ← readChar? '[' cs
  let (ip, cs) ← Ipv6.read? cs
  let (zone, cs) := readZone cs
  let cs ← readChar? ']' cs
  let (port, cs) ← readPort? cs
  return (⟨.v6 ip, port, zone⟩, cs)

/-- The socket address that a whole text spells. -/
def parse? (s : String) : Option Socket :=
  match (readV4? s.toList).orElse fun _ => readV6? s.toList with
  | some (a, []) => some a
  | _ => none

/-- The text of a socket address. -/
def text (s : Socket) : String :=
  match s.ip with
  | .v4 ip => ip.text ++ ":" ++ toString s.port
  | .v6 ip =>
      let zone := if s.zone = 0 then "" else "%" ++ toString s.zone
      "[" ++ ip.text ++ zone ++ "]:" ++ toString s.port

end Socket

end Address

end DemandNet
