import DemandNet.Flow.Exchange

/-!
# Handles

The handles through which a bridge is reached.

Whoever wants to attach to a bridge, or to say that nobody will any more, needs a handle on
it. Handles can be copied, and each can be dropped; there is no way back from the last one.
The reading end of the queue is kept by the handles together and by the consumer that holds
it. So when the last handle is gone it goes too, with whatever is queued, at once if it was
waiting for a consumer, and otherwise when the consumer that holds it leaves without having
seen the end. The producer has no part in this: it can be there longer than the queue.

## Main definitions

* `Step.onHandle`: The operations of a handle.
* `Bridge.letGo`, `Exchange.letGo`: The reading end is dropped with what is queued.
* `Shared`: An exchange and the number of handles on its bridge.
* `Shared.Move`: An operation, a new handle, or one less.
* `Shared.step`: One move.
* `Shared.run`: Moves in order, with their answers.
-/

namespace DemandNet

namespace Flow

variable {α : Type}

/-- The operation is one of a handle, neither of the producer nor of a consumer. -/
def Step.onHandle : Step α → Bool
  | .attach _ | .abandon => true
  | _ => false

/-- The reading end is dropped with what is queued. -/
def Bridge.letGo (b : Bridge α) : Bridge α := { b with readEnd := .dropped, queue := [] }

/-- The exchange after the reading end of its bridge was dropped. -/
def Exchange.letGo (x : Exchange α) : Exchange α := { x with bridge := x.bridge.letGo }

/-- An exchange, and the number of handles on its bridge. -/
structure Shared (α : Type) where
  exchange : Exchange α
  handles : Nat

namespace Shared

/-- What can happen to a bridge and to the handles on it. -/
inductive Move (α : Type) where
  | use (s : Step α)
  | clone
  | drop

/-- A new bridge has one handle. -/
def start : Shared α := { exchange := .empty, handles := 1 }

instance : Inhabited (Shared α) := ⟨start⟩

/-- Somebody is there for the operation. -/
def allows (x : Shared α) (s : Step α) : Bool := !s.onHandle || x.handles != 0

/-- The reading end is dropped once it is with nobody. -/
def settled (x : Shared α) : Shared α :=
  if x.handles = 0 ∧ x.exchange.bridge.readEnd = .parked then
    { x with exchange := x.exchange.letGo }
  else x

/-- One move; there is no answer if it takes a handle and there is none. -/
def step (x : Shared α) : Move α → Option (Answer α) × Shared α
  | .use s =>
      if x.allows s then
        (some (x.exchange.step s).1, settled { x with exchange := (x.exchange.step s).2 })
      else (none, x)
  | .clone =>
      if x.handles = 0 then (none, x)
      else (some .done, { x with handles := x.handles + 1 })
  | .drop =>
      if x.handles = 0 then (none, x)
      else (some .done, settled { x with handles := x.handles - 1 })

/-- Moves in order, with their answers. -/
def run (x : Shared α) : List (Move α) → List (Option (Answer α)) × Shared α
  | [] => ([], x)
  | m :: rest =>
      let (r, x) := x.step m
      let (rs, x) := x.run rest
      (r :: rs, x)

end Shared

end Flow

end DemandNet
