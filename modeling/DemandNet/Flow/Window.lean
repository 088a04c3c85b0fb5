/-!
# Demand and Windows

How much a consumer asks for, and when it asks again.

Demand is a number of items. The largest number that fits a 64-bit word stands for
demand without bound: once outstanding demand has reached it, flow control is off
and nothing counts it down any more. Adding demand therefore stops at that number
instead of passing it.

A consumer with a window asks for the whole window when it first looks for an item
and for three quarters of it, rounded up, each time it has received that many. The
quarter that is still outstanding at that moment keeps the producer busy while the
new demand is on its way.

## Main definitions

* `unbounded`: The demand that is never used up.
* `grant`: Outstanding demand after more was asked for.
* `takeOne?`: Outstanding demand after one item, if there was any.
* `Window`: A demand window and its top-up.
* `Mode`: How an attached consumer asks for items.
-/

namespace DemandNet

namespace Flow

/-- The demand that is never used up: the greatest number of 64 bits. -/
def unbounded : Nat := 0xFFFFFFFFFFFFFFFF

/-- Outstanding demand after `n` more items were asked for. -/
def grant (current n : Nat) : Nat :=
  if current = unbounded then unbounded else min (current + n) unbounded

/-- Outstanding demand after one item was emitted; `none` if no item is wanted. -/
def takeOne? (current : Nat) : Option Nat :=
  if current = unbounded then some unbounded
  else if current = 0 then none
  else some (current - 1)

/-- The number of items a windowed consumer keeps asked for. -/
structure Window where
  size : Nat
  deriving Repr, DecidableEq, Inhabited

namespace Window

/-- No flow control. -/
def unlimited : Window := ⟨unbounded⟩

/-- A window of the given size; an empty one would never ask for anything, so the
    least size is one. -/
def bounded (n : Nat) : Window := ⟨max n 1⟩

/-- The window switches flow control off. -/
def isUnlimited (w : Window) : Bool := w.size == unbounded

/-- The number of items after which the window asks for as many again: three
    quarters of it, rounded up, and at least one. -/
def topUp (w : Window) : Nat := max (w.size - w.size / 4) 1

end Window

/-- How an attached consumer asks for items. -/
inductive Mode where
  /-- It asks for the window at first and for the top-up as items arrive. -/
  | window (w : Window)
  /-- It asks explicitly. -/
  | manual
  deriving Repr, DecidableEq, Inhabited

end Flow

end DemandNet
