import DemandNet.Flow.Exchange
import DemandNet.Proofs.Flow.BridgeLemmas

/-!
# Histories of an Exchange

What a run of an exchange shows to somebody who watches it.

An exchange keeps no record of what happened to it: the items that were received are
gone, and so are the amounts that were asked for. Statements about a whole run need
both, so a run is given a history, the list of its events in order. An event is read off
an operation and its answer. Asking for items is an event too, because a look asks for
the window and tops it up without being told to; those grants stand in front of the
outcome of the look that made them.

## Main definitions

* `Event`: Something that happened in a run.
* `Exchange.offered?`: The item an operation of the producer tries to hand over.
* `Exchange.grants`: What an operation of a consumer asks for.
* `Exchange.events`: The events of one operation.
* `Exchange.after`, `Exchange.history`: The state and the events of a run.
* `accepted`, `yielded`, `terminals`, `failures`: Parts of a history.
* `pollsOf`, `grantsOf`: What one consumer contributed to it.
* `Silent`: Events that hand nothing over and tell nothing.

## Theorems

* `parts_of_look`, `parts_of_leaving`: What a look, and a producer that leaves,
  contribute to each part of a history.
* `grantsOf_granted`, `grantsOf_look`, `grantsOf_leaving`: What was asked for there.
-/

namespace DemandNet

namespace Flow

variable {α : Type}

/-- Something that happened in a run. -/
inductive Event (α : Type) where
  /-- A consumer asked for items. -/
  | granted (consumer : Nat) (n : Nat)
  /-- The bridge took an item from the producer. -/
  | accepted (a : α)
  | polled (consumer : Nat) (p : Poll α)
  /-- The producer left with an error. -/
  | failed (e : NetError)

namespace Exchange

/-- The item that an operation tries to hand over. -/
def offered? (x : Exchange α) : Step α → Option α
  | .emit a => some a
  | .tryEmit a => some a
  | .deliver a => some a
  | .pollDelivery =>
      match x.producer with
      | .delivering a => some a
      | _ => none
  | .pollAside i => x.aside? i
  | _ => none

/-- What an operation of a consumer asks for. -/
def grants (x : Exchange α) : Step α → List Nat
  | .request i n =>
      match x.consumer? i with
      | some c => if c.done then [] else [n]
      | none => []
  | .poll i =>
      match x.consumer? i with
      | some c => x.bridge.lookGrants c
      | none => []
  | _ => []

/-- The events of one operation, by its answer. -/
def events (x : Exchange α) (s : Step α) : List (Event α) :=
  match s, (x.step s).1 with
  | .request i _, .done => (x.grants s).map (.granted i)
  | .poll i, .polled p => (x.grants s).map (.granted i) ++ [.polled i p]
  | .finishWith e, .done => [.failed e]
  | s, .done => (x.offered? s).toList.map .accepted
  | _, _ => []

/-- The exchange after a run. -/
def after (x : Exchange α) (steps : List (Step α)) : Exchange α := (x.run steps).2

/-- The events of a run. -/
def history (x : Exchange α) : List (Step α) → List (Event α)
  | [] => []
  | s :: rest => x.events s ++ history (x.step s).2 rest

theorem after_cons (x : Exchange α) (s : Step α) (rest : List (Step α)) :
    x.after (s :: rest) = (x.step s).2.after rest := rfl

end Exchange

/-! ### Parts of a history -/

/-- The items that were taken from the producer. -/
def accepted (es : List (Event α)) : List α :=
  es.filterMap fun
    | .accepted a => some a
    | _ => none

/-- The items that consumers received, whichever consumer it was. -/
def yielded (es : List (Event α)) : List α :=
  es.filterMap fun
    | .polled _ p => p.item?
    | _ => none

/-- The outcomes that ended the stream for some consumer. -/
def terminals (es : List (Event α)) : List (Poll α) :=
  es.filterMap fun
    | .polled _ p => if p.isTerminal then some p else none
    | _ => none

/-- The errors that the producer left with. -/
def failures (es : List (Event α)) : List NetError :=
  es.filterMap fun
    | .failed e => some e
    | _ => none

/-- The outcomes of the looks of one consumer. -/
def pollsOf (i : Nat) (es : List (Event α)) : List (Poll α) :=
  es.filterMap fun
    | .polled j p => if j = i then some p else none
    | _ => none

/-- What one consumer asked for. -/
def grantsOf (i : Nat) (es : List (Event α)) : List Nat :=
  es.filterMap fun
    | .granted j n => if j = i then some n else none
    | _ => none

theorem accepted_append (es fs : List (Event α)) :
    accepted (es ++ fs) = accepted es ++ accepted fs := List.filterMap_append

theorem yielded_append (es fs : List (Event α)) :
    yielded (es ++ fs) = yielded es ++ yielded fs := List.filterMap_append

theorem terminals_append (es fs : List (Event α)) :
    terminals (es ++ fs) = terminals es ++ terminals fs := List.filterMap_append

theorem failures_append (es fs : List (Event α)) :
    failures (es ++ fs) = failures es ++ failures fs := List.filterMap_append

theorem pollsOf_append (i : Nat) (es fs : List (Event α)) :
    pollsOf i (es ++ fs) = pollsOf i es ++ pollsOf i fs := List.filterMap_append

theorem grantsOf_append (i : Nat) (es fs : List (Event α)) :
    grantsOf i (es ++ fs) = grantsOf i es ++ grantsOf i fs := List.filterMap_append

-- Grants take no part in what does not ask for them.
theorem filterMap_granted {β : Type} (f : Event α → Option β) (i : Nat)
    (hf : ∀ n, f (.granted i n) = none) (gs : List Nat) :
    (gs.map (Event.granted i)).filterMap f = [] := by
  induction gs with
  | nil => rfl
  | cons g rest ih => rw [List.map_cons, List.filterMap_cons_none (hf g), ih]

/-- Events that hand nothing over and tell nothing: grants at most. -/
structure Silent (es : List (Event α)) : Prop where
  accepted : accepted es = []
  yielded : yielded es = []
  terminals : terminals es = []
  failures : failures es = []
  polls : ∀ i, pollsOf i es = []

theorem silent_nil : Silent ([] : List (Event α)) := ⟨rfl, rfl, rfl, rfl, fun _ => rfl⟩

theorem silent_granted (i : Nat) (gs : List Nat) :
    Silent (gs.map (Event.granted (α := α) i)) :=
  ⟨filterMap_granted _ i (fun _ => rfl) gs, filterMap_granted _ i (fun _ => rfl) gs,
    filterMap_granted _ i (fun _ => rfl) gs, filterMap_granted _ i (fun _ => rfl) gs,
    fun _ => filterMap_granted _ i (fun _ => rfl) gs⟩

-- A look leaves its grants and its outcome in the history.
theorem parts_of_look (i : Nat) (gs : List Nat) (p : Poll α) :
    let es := gs.map (Event.granted i) ++ [.polled i p]
    accepted es = [] ∧ yielded es = p.item?.toList ∧
      terminals es = (if p.isTerminal then [p] else []) ∧ failures es = [] ∧
      ∀ j, pollsOf j es = if i = j then [p] else [] := by
  have hg := silent_granted (α := α) i gs
  refine ⟨?_, ?_, ?_, ?_, fun j => ?_⟩
  · rw [accepted_append, hg.accepted]
    rfl
  · rw [yielded_append, hg.yielded]
    cases p <;> rfl
  · rw [terminals_append, hg.terminals]
    cases p <;> rfl
  · rw [failures_append, hg.failures]
    rfl
  · rw [pollsOf_append, hg.polls]
    by_cases hj : i = j
    · simp only [pollsOf, hj, if_true, List.filterMap_cons, List.filterMap_nil, List.nil_append]
    · simp only [pollsOf, hj, if_false, List.filterMap_cons, List.filterMap_nil,
        List.nil_append]

-- A producer that leaves shows its error and nothing else.
theorem parts_of_leaving (e : Option NetError) :
    let es : List (Event α) := e.toList.map .failed
    accepted es = [] ∧ yielded es = [] ∧ terminals es = [] ∧ failures es = e.toList ∧
      ∀ j, pollsOf j es = [] := by
  cases e <;> exact ⟨rfl, rfl, rfl, rfl, fun _ => rfl⟩

theorem grantsOf_granted (i : Nat) (gs : List Nat) :
    grantsOf i (gs.map (Event.granted (α := α) i)) = gs := by
  unfold grantsOf
  induction gs with
  | nil => rfl
  | cons g rest ih =>
      rw [List.map_cons, List.filterMap_cons_some (b := g) (by simp only [if_true]), ih]

theorem grantsOf_look (i : Nat) (gs : List Nat) (p : Poll α) :
    grantsOf i (gs.map (.granted i) ++ [.polled i p]) = gs := by
  rw [grantsOf_append, grantsOf_granted]
  exact List.append_nil gs

theorem grantsOf_leaving (i : Nat) (e : Option NetError) :
    grantsOf i (e.toList.map (Event.failed (α := α))) = [] := by
  cases e <;> rfl

end Flow

end DemandNet
