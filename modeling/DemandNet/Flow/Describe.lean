import DemandNet.Flow.Bridge

/-!
# Bridges as Text

The descriptions that logs show of a bridge, its consumer and its producer.

## Main definitions

* `record`: A name with named fields between braces.
* `Bridge.description`, `Consumer.description`, `Bridge.producerDescription`: The
  three descriptions.
-/

namespace DemandNet

namespace Text

/-- A name followed by named fields between braces. -/
def record (name : String) (fields : List (String × String)) : String :=
  name ++ " \x7b " ++ ", ".intercalate (fields.map fun f => f.1 ++ ": " ++ f.2) ++ " \x7d"

/-- A truth value as descriptions show it. -/
def truth (b : Bool) : String :=
  if b then "true" else "false"

end Text

namespace Flow

open Text

/-- How a consumer asks, as text. -/
def Mode.description : Mode → String
  | .manual => "Manual"
  | .window w => "Window(Prefetch(" ++ toString w.size ++ "))"

variable {α : Type}

/-- A bridge as text. -/
def Bridge.description (b : Bridge α) : String :=
  record "DemandBridge" [("demand", toString b.demand), ("attached", truth b.attached),
    ("terminated", truth b.terminated)]

/-- A consumer as text. -/
def Consumer.description (c : Consumer) (b : Bridge α) : String :=
  record "Inbound" [("demand", c.mode.description), ("outstanding", toString b.demand),
    ("done", truth c.done)]

/-- The producer of a bridge as text. -/
def Bridge.producerDescription (b : Bridge α) : String :=
  record "BridgeProducer" [("demand", toString b.demand)]

end Flow

end DemandNet
