import DemandNet.Address.Socket
import DemandNet.Error

/-!
# Bind Addresses

The address that a server binds, given the one it was configured with and the
protocol family it is to use.

An address of the other family is refused, unless it stands for all addresses: that
means the same in either family, so it is replaced by its counterpart.

## Main definitions

* `Family`: The protocol family of a server.
* `resolveBind`: The address to bind.
-/

namespace DemandNet

namespace Address

/-- The protocol family of a server. -/
inductive Family where
  | any
  | ipv4
  | ipv6
  deriving Repr, DecidableEq, Inhabited

namespace Family

/-- The name of a family in messages. -/
def name : Family → String
  | any => "Default"
  | ipv4 => "Ipv4"
  | ipv6 => "Ipv6"

/-- An address of this version belongs to the family. -/
def admits : Family → Ip → Bool
  | any, _ => true
  | ipv4, ip => ip.isV4
  | ipv6, ip => !ip.isV4

/-- The address of the family that stands for all addresses. -/
def unspecified : Family → Ip
  | ipv6 => .v6 .unspecified
  | _ => .v4 .unspecified

end Family

/-- The message about a text that spells no socket address. -/
def socketSyntaxError : String := "invalid socket address syntax"

/-- A failure to use the configured address. -/
def bindError (address reason : String) : NetError :=
  .bind address ⟨.invalidInput, reason⟩

/-- The address to bind. -/
def resolveBind (address : String) (family : Family) : Except NetError Socket :=
  match Socket.parse? address with
  | none => .error (bindError address socketSyntaxError)
  | some s =>
      if family.admits s.ip then .ok s
      else if s.ip.isUnspecified then .ok ⟨family.unspecified, s.port, 0⟩
      else
        .error (bindError address
          ("address family does not match protocol family " ++ family.name))

end Address

end DemandNet
