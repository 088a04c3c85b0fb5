import DemandNet.Bytes
import DemandNet.Connection.Info

/-!
# Pipelines

The transformations that chunks pass between the wire and the handlers.

A pipeline is a list of stages. What comes in passes them from first to last, what
goes out from last to first, so the first stage is the one next to the wire. A stage
may log what reaches it.

A pipeline is built by adding stages at either end. Whoever sets connections up says which
stages are added to a new one, behind the wire log if that is wanted.

## Main definitions

* `Stage`: A named pair of transformations.
* `Pipeline`: Stages in order.
* `Addition`: A stage for one of the ends.
* `Pipeline.addAll`: Stages are added one after the other.
* `SetUp`: The stages that a new connection gets.
* `Pipeline.inbound`, `Pipeline.outbound`: The way in and the way out.
* `Pipeline.inboundLog`, `Pipeline.outboundLog`: What the logging stages saw.
* `Pipeline.forConnection`: The pipeline of a new connection.
-/

namespace DemandNet

namespace Connection

/-- A named pair of transformations, one for each direction. -/
structure Stage where
  name : String
  inbound : Bytes → Bytes
  outbound : Bytes → Bytes
  /-- The stage logs every chunk that reaches it. -/
  logs : Bool

namespace Stage

/-- The stage that logs chunks and leaves them as they are. -/
def wireLog : Stage :=
  { name := "wire-log", inbound := id, outbound := id, logs := true }

/-- A stage that does not log. -/
def silent (name : String) (inbound outbound : Bytes → Bytes) : Stage :=
  { name, inbound, outbound, logs := false }

end Stage

/-- Stages in order, the one next to the wire first. -/
abbrev Pipeline := List Stage

/-- A stage that is added to a pipeline, at the wire's end or at the handlers' end. -/
inductive Addition where
  | first (s : Stage)
  | last (s : Stage)

/-- The stages that are added for a new connection. That may depend on the connection, and on
    the number of stages that are there before. -/
abbrev SetUp := Info → Nat → List Addition

namespace Pipeline

/-- A pipeline with one more stage at the handlers' end. -/
def addLast (p : Pipeline) (s : Stage) : Pipeline := p ++ [s]

/-- A pipeline with one more stage at the wire's end. -/
def addFirst (p : Pipeline) (s : Stage) : Pipeline := s :: p

/-- A pipeline with a stage added. -/
def add (p : Pipeline) : Addition → Pipeline
  | .first s => p.addFirst s
  | .last s => p.addLast s

/-- A pipeline with stages added one after the other. -/
def addAll (p : Pipeline) (additions : List Addition) : Pipeline := additions.foldl add p

/-- A chunk from the wire, as handlers see it. -/
def inbound (p : Pipeline) (chunk : Bytes) : Bytes :=
  p.foldl (fun c s => s.inbound c) chunk

/-- A chunk of a handler, as the wire sees it. -/
def outbound (p : Pipeline) (chunk : Bytes) : Bytes :=
  p.foldr (fun s c => s.outbound c) chunk

/-- The chunks that logging stages see while one chunk comes in. -/
def inboundLog : Pipeline → Bytes → List Bytes
  | [], _ => []
  | s :: rest, chunk =>
      (if s.logs then [chunk] else []) ++ inboundLog rest (s.inbound chunk)

/-- The chunks that logging stages see while one chunk goes out. -/
def outboundLog : Pipeline → Bytes → List Bytes
  | [], _ => []
  | s :: rest, chunk =>
      outboundLog rest chunk ++ (if s.logs then [outbound rest chunk] else [])

/-- The names of the stages. -/
def names (p : Pipeline) : List String := p.map Stage.name

/-- The pipeline of a new connection: the wire log if it is wanted, then whatever the
    set-up adds. -/
def forConnection (wireLogging : Bool) (setUp : Option SetUp) (info : Info) : Pipeline :=
  let start : Pipeline := if wireLogging then Pipeline.addLast [] Stage.wireLog else []
  match setUp with
  | none => start
  | some f => start.addAll (f info start.length)

end Pipeline

/-- The number of bytes of a chunk that the wire log shows. -/
def wireLogPreview : Nat := 64

/-- What the wire log shows of a chunk. -/
def wireLogText (chunk : Bytes) : String :=
  Bytes.lossyText (chunk.take wireLogPreview)

end Connection

end DemandNet
