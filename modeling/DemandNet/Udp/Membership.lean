import DemandNet.Config.Options
import DemandNet.Error

/-!
# Multicast Membership

Joining and leaving multicast groups.

The interface has to be given in the way that the version of the group asks for: by an
address for version 4, by a number for version 6. Without one the system chooses. What
the system makes of the rest depends on the host; on one without interfaces there is no
group to be joined, and none to be left.

## Main definitions

* `checkInterface`: The interface suits the group.
* `joinGroup`, `leaveGroup`: What the system answers.
-/

namespace DemandNet

namespace Udp

open Address Config

/-- The failure of a request to a server without a socket. -/
def notBound : NetError := .notRunning "UDP socket is not bound"

/-- The interface suits the group. -/
def checkInterface (group : Ip) (interface : Option MulticastInterface) :
    Except NetError Unit :=
  match group, interface with
  | .v4 _, some (.index _) =>
      .error (.io ⟨.invalidInput, "IPv4 multicast needs an interface address"⟩)
  | .v6 _, some (.address _) =>
      .error (.io ⟨.invalidInput, "IPv6 multicast needs an interface index"⟩)
  | _, _ => .ok ()

/-- Join a group through a socket of version 4. -/
def joinGroup (group : Ip) (interface : Option MulticastInterface) : Except NetError Unit :=
  match checkInterface group interface, group with
  | .error e, _ => .error e
  | .ok (), .v4 ip =>
      if ip.isMulticast then .error (.io .noDevice) else .error (.io .invalidArgument)
  | .ok (), .v6 _ => .error (.io .protocolNotAvailable)

/-- Leave a group through a socket of version 4. Where an interface was given it is only
    missed as that of a membership. -/
def leaveGroup (group : Ip) (interface : Option MulticastInterface) : Except NetError Unit :=
  match checkInterface group interface, group with
  | .error e, _ => .error e
  | .ok (), .v4 _ =>
      match interface with
      | some (.address ip) =>
          if ip = .unspecified then .error (.io .noDevice)
          else .error (.io .addressNotAvailable)
      | _ => .error (.io .noDevice)
  | .ok (), .v6 _ => .error (.io .protocolNotAvailable)

end Udp

end DemandNet
