/-!
# Connection Slots

How a listener limits the number of connections.

Who wants to accept a connection first takes a slot, and waits for one in the order of
asking if there is none. An accept that fails or is given up returns its slot; one that
succeeds passes it on to the connection, which returns it when it ends. A slot that is
returned goes to whoever has waited longest.

## Main definitions

* `Holder`: Who has a slot, or waits for one.
* `Slots`: The slots of a listener.
* `Slots.begin`, `Slots.complete`, `Slots.giveUp`, `Slots.release`: What happens to them.
-/

namespace DemandNet

namespace Server

/-- The life of one accept and of the connection that it yields. -/
inductive Holder where
  /-- It waits for a slot. -/
  | waiting
  /-- It has a slot and waits for a connection. -/
  | accepting
  /-- The connection has the slot. -/
  | connected
  | gone
  deriving Repr, DecidableEq, Inhabited

namespace Holder

/-- It has a slot. -/
def isLive : Holder → Bool
  | accepting | connected => true
  | _ => false

end Holder

/-- The slots of a listener. -/
structure Slots where
  /-- The slots that nobody has. -/
  available : Nat
  /-- All accepts so far, in the order of their beginning. -/
  holders : List Holder
  deriving Repr, DecidableEq, Inhabited

namespace Slots

/-- The most slots that can be counted. -/
def limit : Nat := 0xFFFFFFFFFFFFFFFF / 8

/-- Slots for a number of connections, at least one; `none` if there are too many to be
    counted. -/
def ofSize? (n : Nat) : Option Slots :=
  if max n 1 ≤ limit then some { available := max n 1, holders := [] } else none

/-- The number of slots that somebody has. -/
def live (s : Slots) : Nat := s.holders.countP Holder.isLive

/-- What an accept is doing. -/
def holder (s : Slots) (i : Nat) : Holder := s.holders[i]?.getD .gone

/-- An accept goes on to something else. -/
def put (s : Slots) (i : Nat) (h : Holder) : Slots := { s with holders := s.holders.set i h }

/-- A slot is returned; it goes to whoever has waited longest. -/
def give (s : Slots) : Slots :=
  match s.holders.findIdx? (· == .waiting) with
  | some i => s.put i .accepting
  | none => { s with available := s.available + 1 }

/-- An accept begins; the answer is its number. -/
def begin (s : Slots) : Nat × Slots :=
  let i := s.holders.length
  if 0 < s.available then
    (i, { available := s.available - 1, holders := s.holders ++ [.accepting] })
  else (i, { s with holders := s.holders ++ [.waiting] })

/-- A connection arrives for an accept that has a slot. -/
def complete (s : Slots) (i : Nat) : Slots :=
  if s.holder i = .accepting then s.put i .connected else s

/-- An accept fails or is given up. -/
def giveUp (s : Slots) (i : Nat) : Slots :=
  match s.holder i with
  | .waiting => s.put i .gone
  | .accepting => (s.put i .gone).give
  | _ => s

/-- A connection ends. -/
def release (s : Slots) (i : Nat) : Slots :=
  if s.holder i = .connected then (s.put i .gone).give else s

end Slots

end Server

end DemandNet
