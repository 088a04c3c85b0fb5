import DemandNet.Flow.Describe

/-!
# Event Loops

The threads that run the tasks of a server.

A group has at least one loop. New connections get the loops in turn; the cursor counts
on and on and is taken modulo the size of the group.

## Main definitions

* `EventLoops`: A group of loops.
* `EventLoops.next`: The loop of the next connection.
* `EventLoops.threadName`: The name of a loop's thread.
-/

namespace DemandNet

namespace Server

/-- A group of loops. -/
structure EventLoops where
  name : String
  size : Nat
  /-- The number of loops handed out so far, in a word of 64 bits. -/
  cursor : Nat
  isShutDown : Bool
  deriving Repr, DecidableEq, Inhabited

namespace EventLoops

/-- A new group, with at least one loop. -/
def start (name : String) (threads : Nat) : EventLoops :=
  { name, size := max threads 1, cursor := 0, isShutDown := false }

/-- The loop of the next connection. -/
def next (g : EventLoops) : Nat × EventLoops :=
  (g.cursor % g.size, { g with cursor := (g.cursor + 1) % 0x10000000000000000 })

/-- The loops of the next `n` connections. -/
def nextMany (g : EventLoops) : Nat → List Nat × EventLoops
  | 0 => ([], g)
  | n + 1 =>
      let (i, g) := g.next
      let (is, g) := g.nextMany n
      (i :: is, g)

/-- The loop at a place, if there is one. -/
def get? (g : EventLoops) (i : Nat) : Option Nat :=
  if i < g.size then some i else none

/-- The name of the thread of a loop. -/
def threadName (g : EventLoops) (i : Nat) : String := g.name ++ "-" ++ toString i

/-- The thread that runs a task given to a loop; none does after the end. -/
def runner? (g : EventLoops) (i : Nat) : Option String :=
  if g.isShutDown then none else some (g.threadName i)

/-- All loops stop. -/
def stop (g : EventLoops) : EventLoops := { g with isShutDown := true }

/-- A group as text. -/
def description (g : EventLoops) : String :=
  Text.record "EventLoopGroup" [("name", Text.quoted g.name), ("loops", toString g.size),
    ("shut_down", Text.truth g.isShutDown)]

end EventLoops

end Server

end DemandNet
