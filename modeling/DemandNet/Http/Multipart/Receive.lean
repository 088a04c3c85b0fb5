import DemandNet.Flow.Bridge
import DemandNet.Http.Multipart.Decoder

/-!
# Receiving Parts

Reading the body of a message as parts.

The reader of the parts is the one consumer of the body. If the headers do not say how
the parts are told apart the consumer leaves again, and the body is as it was: whatever
was queued is there for the next consumer.

## Main definitions

* `decode`: A decoder for a consumer that is attached.
* `receive`: A decoder with a consumer of its own.
-/

namespace DemandNet

namespace Http

namespace Multipart

/-- A decoder for the body of which `c` is the consumer. Without a boundary the consumer
    leaves. -/
def decode (h : Headers) (c : Flow.Consumer) (b : Flow.Bridge Bytes) :
    Except NetError Decoder × Flow.Bridge Bytes :=
  match extractBoundary h with
  | .ok boundary => (.ok (.withBoundary boundary), b)
  | .error e => (.error e, b.detach c)

/-- Attach a consumer to a body and decode it. -/
def receive (h : Headers) (mode : Flow.Mode) (b : Flow.Bridge Bytes) :
    Except NetError (Decoder × Flow.Consumer) × Flow.Bridge Bytes :=
  match b.attach mode with
  | .error e => (.error e, b)
  | .ok (c, b) =>
      let (r, b) := decode h c b
      (r.map fun d => (d, c), b)

end Multipart

end Http

end DemandNet
