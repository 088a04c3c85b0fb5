import DemandNet.Error

/-!
# Server Phases

The life of a server, from its creation to its end.

A server starts once. A start that fails leads back to where it began, so it may be
tried again; a shutdown is final.

## Main definitions

* `Phase`: Where a server is in its life.
* `Phase.beginStart`: What a call of start finds.
* `Phase.ShutdownStep`, `Phase.shutdownStep`: What a call of shutdown has to do.
-/

namespace DemandNet

namespace Lifecycle

/-- Where a server is in its life. -/
inductive Phase where
  | unstarted
  | starting
  | started
  | shuttingDown
  | shutdown
  deriving Repr, DecidableEq, Inhabited

namespace Phase

/-- What a call of shutdown has to do. -/
inductive ShutdownStep where
  /-- Something is bound: release it. -/
  | proceed
  /-- Nothing is bound, or somebody is already releasing it. -/
  | noop
  deriving Repr, DecidableEq, Inhabited

/-- The phase that a call of start leads to. -/
def beginStart : Phase → Except NetError Phase
  | unstarted => .ok starting
  | shuttingDown | shutdown => .error (.notRunning "server was shut down")
  | starting | started => .error .alreadyStarted

/-- What a call of shutdown has to do in a phase. -/
def shutdownStep : Phase → ShutdownStep
  | started => .proceed
  | _ => .noop

/-- The server serves. -/
def isRunning (p : Phase) : Bool := p == started

/-- The server has ended. -/
def isTerminated (p : Phase) : Bool := p == shutdown

/-- The name of a phase. -/
def name : Phase → String
  | unstarted => "unstarted"
  | starting => "starting"
  | started => "started"
  | shuttingDown => "shutting-down"
  | shutdown => "shutdown"

/-- The phase of a name; an unknown name is that of a server nobody started. -/
def ofName (s : String) : Phase :=
  ([starting, started, shuttingDown, shutdown].find? (·.name == s)).getD unstarted

end Phase

end Lifecycle

end DemandNet
