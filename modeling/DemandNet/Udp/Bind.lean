import DemandNet.Config.Options
import DemandNet.Server.Host

/-!
# Datagram Sockets

Binding the socket of a datagram server.

The configured address is first brought in line with the protocol family. If binding
fails, the message names the address that was tried, not the one that was configured.

## Main definitions

* `bindDatagram`: Bind the socket of a datagram server.
-/

namespace DemandNet

namespace Udp

/-- Bind the socket of a datagram server. -/
def bindDatagram (h : Server.Host) (o : Config.ServerOptions) :
    Except NetError (Address.Socket × Server.Host) :=
  match Address.resolveBind o.bindAddress o.protocolFamily with
  | .error e => .error e
  | .ok a => h.bindFor a.text a

end Udp

end DemandNet
