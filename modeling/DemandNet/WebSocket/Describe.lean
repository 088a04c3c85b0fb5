import DemandNet.Flow.Describe
import DemandNet.WebSocket.Duet

/-!
# Descriptions of Sessions

A session as text, for logs.

## Main definitions

* `Session.description`: A session as text.
-/

namespace DemandNet

namespace WebSocket

/-- A session with its subprotocol as text. -/
def Session.description (s : Session) (protocol : Option String) : String :=
  Text.record "WebSocketSession" [("protocol", Text.optionalQuoted protocol),
    ("closed", Text.truth s.isClosed)]

end WebSocket

end DemandNet
