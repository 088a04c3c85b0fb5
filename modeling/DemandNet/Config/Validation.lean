import DemandNet.Config.Options

/-!
# Validation

What a configuration must satisfy beyond being spelled correctly.

Every problem is reported, not only the first: those of the server in the order of its
checks, then that of the metrics address, then those of the directories. The metrics
address counts only if metrics are enabled.

## Main definitions

* `Problem`: An option with what is wrong about it.
* `ServerOptions.problems`: The problems of the options of a server.
* `AppConfig.problems`: The problems of a configuration.
-/

namespace DemandNet

namespace Config

/-- What may be wrong about an option. -/
inductive Defect where
  | notAnAddress
  | notPositive
  | notRooted
  | isEmpty
  deriving Repr, DecidableEq, Inhabited

namespace Defect

/-- The wording of a defect. -/
def message : Defect → String
  | notAnAddress => "not a socket address"
  | notPositive => "must be greater than 0"
  | notRooted => "must start with '/'"
  | isEmpty => "must not be empty"

end Defect

/-- An option with what is wrong about it. -/
structure Problem where
  field : String
  defect : Defect
  deriving Repr, DecidableEq, Inhabited

namespace Problem

/-- The wording of a problem. -/
def message (p : Problem) : String := p.field ++ ": " ++ p.defect.message

end Problem

/-- The problem of an option, if it has the defect. -/
def problemIf (bad : Bool) (field : String) (defect : Defect) : List Problem :=
  if bad then [⟨field, defect⟩] else []

/-- The problems of the options of a server. -/
def ServerOptions.problems (o : ServerOptions) : List Problem :=
  problemIf o.socketAddress?.isNone "server.bind_address" .notAnAddress
  ++ problemIf (o.ioThreads == some 0) "server.io_threads" .notPositive
  ++ problemIf (o.prefetch.size == 0) "server.prefetch" .notPositive
  ++ problemIf (o.maxConnections == 0) "server.max_connections" .notPositive
  ++ problemIf (o.shutdownTimeoutSecs == 0) "server.shutdown_timeout_secs" .notPositive
  ++ problemIf (o.connectTimeoutMs == 0) "server.connect_timeout_ms" .notPositive

/-- The problems of what a process is to report about itself. -/
def Observability.problems (o : Observability) : List Problem :=
  problemIf (o.metricsEnabled && (Address.Socket.parse? o.metricsAddress).isNone)
    "observability.metrics_address" .notAnAddress

/-- The problems of the directory at a place of the list. -/
def Mount.problems (m : Mount) (place : Nat) : List Problem :=
  let name := "mounts[" ++ toString place ++ "]."
  problemIf (m.prefixPath.toList.head? != some '/') (name ++ "prefix") .notRooted
  ++ problemIf m.root.isEmpty (name ++ "root") .isEmpty

/-- The problems of a configuration. -/
def AppConfig.problems (c : AppConfig) : List Problem :=
  c.server.problems ++ c.observability.problems
  ++ (c.mounts.zipIdx.map fun (m, i) => m.problems i).flatten

end Config

end DemandNet
