import DemandNet.Connection.Tracker
import DemandNet.Proofs.Schedule
import Mathlib.Data.List.Nodup

/-!
# What a Tracker Knows

The connections that are still there, and what those are told who wait for the last one.

A tracker has no way of looking at the guards that it gave out. It has a list and a count,
changed one after the other when a guard comes or goes, and both have to stay what the
guards say. They do because no two connections have the same number: what a guard takes out
of the list when it goes is what was put in for it and nothing else. So the count is never
lowered at zero.

A wait only looks at the count when it is told to, and the others do not wait for it to
look. What holds of a wait that goes on is that it has something to look at, or else that it
has looked: then the count is not zero and its time has not come. At a moment when nobody
has anything to look at there is thus no wait for connections that are all gone, and none
beyond its deadline. A wait that fails was passed by every such moment before, and each time
a guard was there.

## Main definitions

* `Turn`: One step of one party.
* `after`, `recorded`: The roster after a schedule, and what was recorded in it.
* `live`: What the guards were made for that are still there.
* `Settled`: Nobody who waits has anything to look at.
* `Exact`: The tracker knows what the guards say.
* `Passes`: What a turn does to a wait.
* `Waiting`: What holds of a wait that goes on or failed.
* `Tracked`: What the tracker says through every handle.
* `since`, `Drains`: The moments since a wait began, and what becomes of it.

## Theorems

* `exact_turn`: What a turn keeps of the tracker.
* `Waiting.passes`: What a turn keeps of a wait.
* `Waits.drained`: A wait has succeeded when nothing is left and everybody has looked.
* `zero_of_true`: A wait does not succeed unless nothing was left.
* `tracked_exactly_and_drained`: What every handle says, and what every wait is told.
-/

namespace DemandNet

namespace Connection

namespace Roster

/-- One step of one of those who have to do with a tracker. -/
inductive Turn where
  | track (handle : Nat) (info : Info)
  | drop (guard : Nat)
  | clone (handle : Nat)
  | discard (handle : Nat)
  | wait (handle length : Nat)
  /-- A wait has its turn. -/
  | look (wait : Nat)
  | pass (time : Nat)
  deriving Repr, DecidableEq

/-- A roster after a turn. -/
def turn (r : Roster) : Turn → Roster
  | .track handle info => r.track handle info
  | .drop guard => r.drop guard
  | .clone handle => r.clone handle
  | .discard handle => r.discard handle
  | .wait handle length => r.wait handle length
  | .look wait => r.look wait
  | .pass time => r.pass time

/-- A fresh roster after a schedule. -/
def after (ts : List Turn) : Roster := Schedule.after turn fresh ts

/-- The connection that is recorded in a turn. -/
def recordings (r : Roster) : Turn → List Info
  | .track handle info => if r.holds handle then [info] else []
  | _ => []

/-- The connections that are recorded in a schedule, in order. -/
def recorded (ts : List Turn) : List Info := Schedule.watch turn recordings fresh ts

/-- What the guards were made for that have not been dropped. -/
def live (r : Roster) : List Info := r.guards.filterMap id

/-- Nobody who waits has anything to look at. -/
def Settled (r : Roster) : Prop := ∀ w ∈ r.waits, w.outcome = none → w.due = false

instance (r : Roster) : Decidable r.Settled :=
  inferInstanceAs (Decidable (∀ w ∈ r.waits, w.outcome = none → w.due = false))

/-! ### The tracker and the guards -/

/-- The tracker knows what the guards say that are still there. -/
structure Exact (h : List Info) (r : Roster) : Prop where
  opened : r.tracker.opened.Perm r.live
  count : r.tracker.count = r.live.length
  known : r.live.Sublist h

variable {r r' : Roster} {h : List Info}

theorem Exact.same (he : Exact h r) (htracker : r'.tracker = r.tracker)
    (hguards : r'.guards = r.guards) : Exact h r' := by
  have hlive : r'.live = r.live := congrArg (List.filterMap id) hguards
  refine ⟨?_, ?_, hlive ▸ he.known⟩
  · rw [htracker, hlive]
    exact he.opened
  · rw [htracker, hlive]
    exact he.count

theorem filter_id_of_new {infos : List Info} {id : Nat} (hnew : ∀ i ∈ infos, i.id ≠ id) :
    infos.filter (fun i => i.id != id) = infos :=
  List.filter_eq_self.2 fun i hi => bne_iff_ne.2 (hnew i hi)

-- A number that was not used before is not that of a connection in the list.
theorem Exact.track (he : Exact h r) {handle : Nat} {info : Info} (hheld : r.holds handle = true)
    (hnodup : ((h ++ [info]).map Info.id).Nodup) : Exact (h ++ [info]) (r.track handle info) := by
  have hlive : (r.track handle info).live = r.live ++ [info] := by
    rw [Roster.track, if_pos hheld]
    exact List.filterMap_append
  have htracker : (r.track handle info).tracker = r.tracker.record info := by
    rw [Roster.track, if_pos hheld]
  have hnew : ∀ i ∈ r.tracker.opened, i.id ≠ info.id := by
    intro i hi heq
    rw [List.map_append, List.nodup_append] at hnodup
    refine hnodup.2.2 i.id (List.mem_map_of_mem ?_) info.id (List.mem_singleton_self _) heq
    exact he.known.subset (he.opened.mem_iff.1 hi)
  refine ⟨?_, ?_, ?_⟩
  · rw [htracker, hlive, Tracker.record, filter_id_of_new hnew]
    exact he.opened.append_right _
  · rw [htracker, hlive, Tracker.record, he.count, List.length_append]
    rfl
  · rw [hlive]
    exact he.known.append (List.Sublist.refl _)

theorem guards_split {guard : Nat} {info : Info} (hguard : r.guard? guard = some info) :
    ∃ front back, r.guards = front ++ some info :: back ∧
      r.guards.set guard none = front ++ none :: back := by
  rcases Option.join_eq_some_iff.1 hguard with hget
  rcases List.getElem?_eq_some_iff.1 hget with ⟨hlt, hat⟩
  refine ⟨r.guards.take guard, r.guards.drop (guard + 1), ?_, ?_⟩
  · rw [← hat, List.getElem_cons_drop, List.take_append_drop]
  · rw [List.set_eq_take_append_cons_drop, if_pos hlt]

theorem live_split {guard : Nat} {info : Info} (hguard : r.guard? guard = some info) :
    ∃ front back, r.live = front ++ info :: back ∧ (r.drop guard).live = front ++ back := by
  rcases guards_split hguard with ⟨front, back, hguards, hset⟩
  refine ⟨front.filterMap id, back.filterMap id, ?_, ?_⟩
  · rw [live, hguards, List.filterMap_append]
    rfl
  · rw [Roster.drop, hguard]
    refine (congrArg (List.filterMap id) hset).trans ?_
    rw [List.filterMap_append]
    rfl

-- What goes is the entry of this guard, since no other one has its number.
theorem filter_live_of_split {front back : List Info} {info : Info}
    (hids : ((front ++ info :: back).map Info.id).Nodup) :
    (front ++ info :: back).filter (fun i => i.id != info.id) = front ++ back := by
  rw [List.map_append, List.map_cons, List.nodup_append, List.nodup_cons] at hids
  rcases hids with ⟨-, ⟨hback, -⟩, hfront⟩
  have hgone : ([info].filter fun i => i.id != info.id) = [] := by
    rw [List.filter_singleton, bne_self_eq_false]
    rfl
  rw [List.filter_append, ← List.singleton_append, List.filter_append, hgone, List.nil_append]
  congr 1
  · exact filter_id_of_new fun i hi =>
      hfront i.id (List.mem_map_of_mem hi) info.id List.mem_cons_self
  · refine filter_id_of_new fun i hi heq => hback ?_
    rw [← heq]
    exact List.mem_map_of_mem hi

theorem Exact.drop (he : Exact h r) {guard : Nat} {info : Info}
    (hguard : r.guard? guard = some info) (hnodup : (h.map Info.id).Nodup) :
    Exact h (r.drop guard) := by
  rcases live_split hguard with ⟨front, back, hlive, hleft⟩
  have htracker : (r.drop guard).tracker = r.tracker.release info.id := by
    rw [Roster.drop, hguard]
  have hids : (r.live.map Info.id).Nodup := hnodup.sublist (he.known.map _)
  refine ⟨?_, ?_, ?_⟩
  · rw [htracker, hleft, ← filter_live_of_split (hlive ▸ hids), ← hlive]
    exact he.opened.filter _
  · have hcount : (r.tracker.release info.id).count = r.live.length - 1 :=
      congrArg (· - 1) he.count
    rw [htracker, hcount, hlive, hleft, List.length_append, List.length_append,
      List.length_cons]
    rfl
  · rw [hleft]
    refine List.Sublist.trans ?_ (hlive ▸ he.known)
    exact (List.sublist_cons_self _ _).append_left _

theorem exact_turn (t : Turn) (hnodup : ((h ++ r.recordings t).map Info.id).Nodup)
    (he : Exact h r) : Exact (h ++ r.recordings t) (r.turn t) := by
  have hquiet : Exact (h ++ []) r := by
    rw [List.append_nil]
    exact he
  cases t with
  | track handle info =>
      rw [recordings] at hnodup ⊢
      by_cases hheld : r.holds handle = true
      · rw [if_pos hheld] at hnodup ⊢
        exact he.track hheld hnodup
      · rw [if_neg hheld, turn, Roster.track, if_neg hheld]
        exact hquiet
  | drop guard =>
      have hquiet' : h ++ r.recordings (.drop guard) = h := List.append_nil h
      rw [hquiet'] at hnodup ⊢
      rcases hguard : r.guard? guard with _ | info
      · rw [turn, Roster.drop, hguard]
        exact he
      · exact he.drop hguard hnodup
  | wait handle length =>
      rw [turn, Roster.wait]
      split
      · exact hquiet.same rfl rfl
      · exact hquiet
  | clone | discard | look | pass => exact hquiet.same rfl rfl

theorem exact_after (ts : List Turn) (hnodup : ((recorded ts).map Info.id).Nodup) :
    Exact (recorded ts) (after ts) := by
  refine Schedule.invariant_after (P := fun r h => (h.map Info.id).Nodup → Exact h r)
    (fun r h t hp hnodup => exact_turn t hnodup (hp ?_)) fresh []
    (fun _ => ⟨List.Perm.refl _, rfl, List.Sublist.refl _⟩) ts hnodup
  rw [List.map_append] at hnodup
  exact hnodup.of_append_left

/-! ### What a turn does to a wait -/

/-- What a turn does to one of those who wait. -/
inductive Passes (r r' : Roster) (w : Wait) : Wait → Prop where
  | kept (hcount : r'.tracker.count = r.tracker.count) (hnow : r'.now = r.now) : Passes r r' w w
  /-- The count may have changed, and it is told. -/
  | told (hnow : r'.now = r.now) : Passes r r' w w.notify
  | aged (hcount : r'.tracker.count = r.tracker.count) (hnow : r.now ≤ r'.now) :
      Passes r r' w (w.ring r'.now)
  | looked (hcount : r'.tracker.count = r.tracker.count) (hnow : r'.now = r.now) :
      Passes r r' w (w.look r.tracker.count r.now)

theorem passes_turn {k : Nat} {w : Wait} (hw : r.waits[k]? = some w) (t : Turn) :
    ∃ w', (r.turn t).waits[k]? = some w' ∧ Passes r (r.turn t) w w' := by
  have htold : (r.waits.map Wait.notify)[k]? = some w.notify := by
    rw [List.getElem?_map, hw]
    rfl
  cases t with
  | track handle info =>
      rw [turn, Roster.track]
      split
      · exact ⟨_, htold, .told rfl⟩
      · exact ⟨w, hw, .kept rfl rfl⟩
  | drop guard =>
      rw [turn, Roster.drop]
      split
      · exact ⟨w, hw, .kept rfl rfl⟩
      · exact ⟨_, htold, .told rfl⟩
  | clone handle | discard handle => exact ⟨w, hw, .kept rfl rfl⟩
  | wait handle length =>
      rw [turn, Roster.wait]
      split
      · refine ⟨w, ?_, .kept rfl rfl⟩
        rcases List.getElem?_eq_some_iff.1 hw with ⟨hlt, -⟩
        exact (List.getElem?_append_left hlt).trans hw
      · exact ⟨w, hw, .kept rfl rfl⟩
  | look j =>
      have hget : (r.turn (.look j)).waits[k]? =
          (fun w => if j = k then w.look r.tracker.count r.now else w) <$> r.waits[k]? :=
        List.getElem?_modify ..
      rw [hw] at hget
      by_cases hj : j = k
      · exact ⟨_, hget.trans (congrArg some (if_pos hj)), .looked rfl rfl⟩
      · exact ⟨_, hget.trans (congrArg some (if_neg hj)), .kept rfl rfl⟩
  | pass time =>
      refine ⟨_, ?_, .aged rfl (Nat.le_add_right _ _)⟩
      refine (List.getElem?_map ..).trans ?_
      rw [hw]
      rfl

/-- A wait that goes on has something to look at or has looked, and one that failed did so at
    its deadline. -/
structure Waiting (r : Roster) (w : Wait) : Prop where
  looked : w.outcome = none → w.due = false → r.tracker.count ≠ 0 ∧ r.now < w.deadline
  failed : w.outcome = some false → w.deadline ≤ r.now

theorem look_of_over {w : Wait} {b : Bool} (h : w.outcome = some b) (count now : Nat) :
    w.look count now = w := by
  rw [Wait.look, h]

theorem look_cases {w : Wait} (h : w.outcome = none) (count now : Nat) :
    count = 0 ∧ (w.look count now).outcome = some true ∨
      count ≠ 0 ∧ w.deadline ≤ now ∧ (w.look count now).outcome = some false ∨
      count ≠ 0 ∧ now < w.deadline ∧ (w.look count now).outcome = none := by
  rw [Wait.look, h]
  dsimp only
  by_cases hcount : count = 0
  · rw [if_pos hcount]
    exact Or.inl ⟨hcount, rfl⟩
  · rw [if_neg hcount]
    by_cases hlate : w.deadline ≤ now
    · rw [if_pos hlate]
      exact Or.inr (Or.inl ⟨hcount, hlate, rfl⟩)
    · rw [if_neg hlate]
      exact Or.inr (Or.inr ⟨hcount, Nat.lt_of_not_le hlate, rfl⟩)

theorem deadline_look (w : Wait) (count now : Nat) : (w.look count now).deadline = w.deadline := by
  unfold Wait.look
  split
  · rfl
  · split
    · rfl
    · split
      · rfl
      · rfl

theorem deadline_ring (w : Wait) (now : Nat) : (w.ring now).deadline = w.deadline := by
  unfold Wait.ring
  split
  · rfl
  · rfl

theorem outcome_ring (w : Wait) (now : Nat) : (w.ring now).outcome = w.outcome := by
  unfold Wait.ring
  split
  · rfl
  · rfl

theorem Passes.deadline {w w' : Wait} (hp : Passes r r' w w') : w'.deadline = w.deadline := by
  cases hp with
  | kept | told => rfl
  | aged => exact deadline_ring w _
  | looked => exact deadline_look w _ _

theorem Passes.outcome {w w' : Wait} {b : Bool} (hp : Passes r r' w w')
    (hb : w.outcome = some b) : w'.outcome = some b := by
  cases hp with
  | kept | told => exact hb
  | aged => exact (outcome_ring w _).trans hb
  | looked =>
      rw [look_of_over hb]
      exact hb

theorem Waiting.same {w : Wait} (hw : Waiting r w)
    (hcount : r'.tracker.count = r.tracker.count) (hnow : r'.now = r.now) : Waiting r' w := by
  constructor
  · rw [hcount, hnow]
    exact hw.looked
  · rw [hnow]
    exact hw.failed

theorem Waiting.look {w : Wait} (hw : Waiting r w) :
    Waiting r (w.look r.tracker.count r.now) := by
  rcases houtcome : w.outcome with _ | b
  · constructor
    · intro hopen _
      rw [deadline_look]
      rcases look_cases houtcome r.tracker.count r.now with ⟨-, h⟩ | ⟨-, -, h⟩ | ⟨hcount, hnow, -⟩
      · exact absurd (h.symm.trans hopen) (Option.some_ne_none true)
      · exact absurd (h.symm.trans hopen) (Option.some_ne_none false)
      · exact ⟨hcount, hnow⟩
    · intro hfailed
      rw [deadline_look]
      rcases look_cases houtcome r.tracker.count r.now with ⟨-, h⟩ | ⟨-, hlate, -⟩ | ⟨-, -, h⟩
      · exact absurd (Option.some.inj (h.symm.trans hfailed)) Bool.false_ne_true.symm
      · exact hlate
      · exact absurd (h.symm.trans hfailed) (Option.some_ne_none false).symm
  · rw [look_of_over houtcome]
    exact hw

-- The clock alone cannot make a wait late that has nothing to look at: it is told then.
theorem Waiting.ring {w : Wait} (hw : Waiting r w) (hcount : r'.tracker.count = r.tracker.count)
    (hnow : r.now ≤ r'.now) : Waiting r' (w.ring r'.now) := by
  have hfailed : w.outcome = some false → w.deadline ≤ r'.now :=
    fun h => Nat.le_trans (hw.failed h) hnow
  rw [Wait.ring]
  by_cases hlate : w.deadline ≤ r'.now
  · rw [if_pos hlate]
    exact ⟨fun _ hdue => absurd hdue Bool.false_ne_true.symm, hfailed⟩
  · rw [if_neg hlate]
    refine ⟨fun hopen hdue => ⟨?_, Nat.lt_of_not_le hlate⟩, hfailed⟩
    rw [hcount]
    exact (hw.looked hopen hdue).1

theorem Waiting.passes {w w' : Wait} (hw : Waiting r w) (hp : Passes r r' w w') :
    Waiting r' w' := by
  cases hp with
  | kept hcount hnow => exact hw.same hcount hnow
  | told hnow => exact ⟨fun _ hdue => absurd hdue Bool.false_ne_true.symm, hnow ▸ hw.failed⟩
  | aged hcount hnow => exact hw.ring hcount hnow
  | looked hcount hnow => exact hw.look.same hcount hnow

/-! ### What becomes of a wait -/

/-- A wait of a number that has this deadline. -/
def Waits (r : Roster) (k deadline : Nat) : Prop :=
  ∃ w, r.waits[k]? = some w ∧ w.deadline = deadline ∧ Waiting r w

theorem wait_of_held {handle : Nat} (hheld : r.holds handle = true) (length : Nat) :
    r.wait handle length =
      { r with waits := r.waits ++ [.start r.tracker.count r.now length] } := if_pos hheld

theorem waits_wait {handle : Nat} (hheld : r.holds handle = true) (length : Nat) :
    (r.wait handle length).Waits r.waits.length (r.now + length) := by
  refine ⟨.start r.tracker.count r.now length, ?_, deadline_look _ _ _, ?_⟩
  · rw [wait_of_held hheld]
    exact List.getElem?_concat_length
  · have hnew : Waiting r { deadline := r.now + length, due := true, outcome := none } :=
      ⟨fun _ hdue => absurd hdue Bool.false_ne_true.symm,
        fun h => absurd h (Option.some_ne_none false).symm⟩
    rw [wait_of_held hheld]
    exact hnew.look.same rfl rfl

theorem Waits.turn {k deadline : Nat} (hw : r.Waits k deadline) (t : Turn) :
    (r.turn t).Waits k deadline := by
  rcases hw with ⟨w, hget, rfl, hwaiting⟩
  rcases passes_turn hget t with ⟨w', hget', hpasses⟩
  exact ⟨w', hget', hpasses.deadline, hwaiting.passes hpasses⟩

theorem Waits.after {k deadline : Nat} (ts : List Turn) :
    ∀ {r : Roster}, r.Waits k deadline → (Schedule.after Roster.turn r ts).Waits k deadline := by
  induction ts with
  | nil => exact fun hw => hw
  | cons t rest ih => exact fun hw => ih (hw.turn t)

theorem outcome_turn {k deadline : Nat} (hw : r.Waits k deadline) {b : Bool}
    (hb : r.outcome? k = some b) (t : Turn) : (r.turn t).outcome? k = some b := by
  rcases hw with ⟨w, hget, -, -⟩
  rcases passes_turn hget t with ⟨w', hget', hpasses⟩
  rw [outcome?, hget] at hb
  rw [outcome?, hget']
  exact hpasses.outcome hb

theorem outcome_stays {k deadline : Nat} {b : Bool} (ts : List Turn) :
    ∀ {r : Roster}, r.Waits k deadline → r.outcome? k = some b →
      (Schedule.after Roster.turn r ts).outcome? k = some b := by
  induction ts with
  | nil => exact fun _ hb => hb
  | cons t rest ih => exact fun hw hb => ih (hw.turn t) (outcome_turn hw hb t)

-- Nobody has anything to look at, so a wait that goes on has looked.
theorem Waits.settled {k deadline : Nat} (hw : r.Waits k deadline) (hsettled : r.Settled) :
    r.outcome? k = none → r.tracker.count ≠ 0 ∧ r.now < deadline := by
  rcases hw with ⟨w, hget, rfl, hwaiting⟩
  intro hopen
  rw [outcome?, hget] at hopen
  exact hwaiting.looked hopen (hsettled w (List.mem_of_getElem? hget) hopen)

theorem Waits.late {k deadline : Nat} (hw : r.Waits k deadline)
    (hfailed : r.outcome? k = some false) : deadline ≤ r.now := by
  rcases hw with ⟨w, hget, rfl, hwaiting⟩
  rw [outcome?, hget] at hfailed
  exact hwaiting.failed hfailed

theorem Waits.drained {k deadline : Nat} (hw : r.Waits k deadline) (hsettled : r.Settled)
    (hearly : r.now < deadline) (hzero : r.tracker.count = 0) : r.outcome? k = some true := by
  rcases houtcome : r.outcome? k with _ | _ | _
  · exact absurd hzero (hw.settled hsettled houtcome).1
  · exact absurd (hw.late houtcome) (Nat.not_le_of_lt hearly)
  · rfl

-- A wait succeeds when it looks, and what it sees then is that there is nothing left.
theorem Passes.succeeds {w w' : Wait} (hp : Passes r r' w w') (hopen : w.outcome ≠ some true)
    (htrue : w'.outcome = some true) : r.tracker.count = 0 := by
  cases hp with
  | kept | told => exact absurd htrue hopen
  | aged => exact absurd ((outcome_ring w _).symm.trans htrue) hopen
  | looked =>
      rcases houtcome : w.outcome with _ | b
      · rcases look_cases houtcome r.tracker.count r.now with ⟨h, -⟩ | ⟨-, -, h⟩ | ⟨-, -, h⟩
        · exact h
        · exact absurd (Option.some.inj (h.symm.trans htrue)) Bool.false_ne_true
        · exact absurd (h.symm.trans htrue) (Option.some_ne_none true).symm
      · rw [look_of_over houtcome] at htrue
        exact absurd htrue hopen

-- A wait looks when it begins, so it can succeed at once.
theorem zero_of_wait {handle length : Nat} (hheld : r.holds handle = true)
    (htrue : (r.wait handle length).outcome? r.waits.length = some true) :
    (r.wait handle length).tracker.count = 0 := by
  rw [wait_of_held hheld] at htrue ⊢
  have hget : (r.waits ++ [Wait.start r.tracker.count r.now length])[r.waits.length]? =
      some (Wait.start r.tracker.count r.now length) := List.getElem?_concat_length
  rw [outcome?, hget] at htrue
  have hlooked : Passes r r { deadline := r.now + length, due := true, outcome := none }
    (Wait.start r.tracker.count r.now length) := .looked rfl rfl
  exact hlooked.succeeds (Option.some_ne_none true).symm htrue

theorem zero_of_true {k deadline : Nat} (ts : List Turn) :
    ∀ {r : Roster}, r.Waits k deadline → r.outcome? k ≠ some true →
      (Schedule.after Roster.turn r ts).outcome? k = some true →
      ∃ mid later, ts = mid ++ later ∧ (Schedule.after Roster.turn r mid).tracker.count = 0 := by
  induction ts with
  | nil => exact fun _ hopen htrue => absurd htrue hopen
  | cons t rest ih =>
      intro r hw hopen htrue
      by_cases hnow : (r.turn t).outcome? k = some true
      · refine ⟨[], t :: rest, rfl, ?_⟩
        rcases hw with ⟨w, hget, -, -⟩
        rcases passes_turn hget t with ⟨w', hget', hpasses⟩
        rw [outcome?, hget] at hopen
        rw [outcome?, hget'] at hnow
        exact hpasses.succeeds hopen hnow
      · rcases ih (hw.turn t) hnow htrue with ⟨mid, later, rfl, hzero⟩
        exact ⟨t :: mid, later, rfl, hzero⟩

/-- What the tracker says through every handle. -/
structure Tracked (r : Roster) : Prop where
  counted : ∀ handle, r.holds handle = true → r.activeCount? handle = some r.live.length
  listed : ∀ handle, r.holds handle = true →
    ∃ infos, r.connections? handle = some infos ∧ infos.Perm r.live
  /-- When a guard goes there is something to take away from the count. -/
  positive : ∀ guard info, r.guard? guard = some info →
    r.tracker.count ≠ 0 ∧ (r.drop guard).tracker.count + 1 = r.tracker.count

/-- The roster at a moment after a wait began. -/
def since (before : List Turn) (handle length : Nat) (mid : List Turn) : Roster :=
  after (before ++ .wait handle length :: mid)

/-- What becomes of a wait that begins after some turns, while others follow. Moments are
    given by the turns that were taken since it began. -/
structure Drains (before : List Turn) (handle length : Nat) (during : List Turn) : Prop where
  /-- It has succeeded if nothing was left at some settled moment before its deadline. -/
  succeeds : ∀ mid later, during = mid ++ later → (since before handle length mid).Settled →
    (since before handle length mid).now < (after before).now + length →
    (since before handle length mid).live = [] →
    (since before handle length during).outcome? (after before).waits.length = some true
  /-- If it failed its time had come, and there was something left at every such moment. -/
  fails : (since before handle length during).outcome? (after before).waits.length = some false →
    (after before).now + length ≤ (since before handle length during).now ∧
      ∀ mid later, during = mid ++ later → (since before handle length mid).Settled →
        (since before handle length mid).now < (after before).now + length →
        (since before handle length mid).live ≠ []
  /-- It does not succeed unless nothing was left at some moment. -/
  drained : (since before handle length during).outcome? (after before).waits.length = some true →
    ∃ mid later, during = mid ++ later ∧ (since before handle length mid).live = []
  /-- It does not go on once its time has come and everybody has looked. -/
  ends : (since before handle length during).Settled →
    (after before).now + length ≤ (since before handle length during).now →
    (since before handle length during).outcome? (after before).waits.length ≠ none

theorem Exact.tracked (he : Exact h r) (hnodup : (h.map Info.id).Nodup) : Tracked r where
  counted handle hheld := by
    rw [activeCount?, if_pos hheld, he.count]
  listed handle hheld := ⟨r.tracker.opened, if_pos hheld, he.opened⟩
  positive guard info hguard := by
    rcases live_split hguard with ⟨front, back, hlive, hleft⟩
    have hcount : r.tracker.count = (r.drop guard).live.length + 1 := by
      rw [he.count, hlive, hleft, List.length_append, List.length_append, List.length_cons]
      rfl
    rw [(he.drop hguard hnodup).count, hcount]
    exact ⟨Nat.succ_ne_zero _, rfl⟩

theorem Exact.live_eq_nil_iff (he : Exact h r) : r.live = [] ↔ r.tracker.count = 0 := by
  rw [he.count, List.length_eq_zero_iff]

theorem recorded_nodup_of_append {ts : List Turn} (us : List Turn)
    (hnodup : ((recorded (ts ++ us)).map Info.id).Nodup) : ((recorded ts).map Info.id).Nodup := by
  rw [recorded, Schedule.watch_append, List.map_append] at hnodup
  exact hnodup.of_append_left

section Since

variable {before during : List Turn} {handle length : Nat}

theorem since_eq (mid : List Turn) : since before handle length mid =
    Schedule.after turn ((after before).wait handle length) mid :=
  Schedule.after_append fresh before (.wait handle length :: mid)

theorem since_append (mid later : List Turn) : since before handle length (mid ++ later) =
    Schedule.after turn (since before handle length mid) later := by
  rw [since_eq, since_eq, Schedule.after_append]

theorem since_waits (hheld : (after before).holds handle = true) (mid : List Turn) :
    (since before handle length mid).Waits (after before).waits.length
      ((after before).now + length) := by
  rw [since_eq]
  exact (waits_wait hheld length).after mid

theorem since_live_eq_nil_iff {mid later : List Turn}
    (hnodup : ((recorded (before ++ .wait handle length :: (mid ++ later))).map Info.id).Nodup) :
    (since before handle length mid).live = [] ↔
      (since before handle length mid).tracker.count = 0 := by
  refine (exact_after _ (recorded_nodup_of_append later ?_)).live_eq_nil_iff
  rw [List.append_assoc]
  exact hnodup

theorem since_drained (hheld : (after before).holds handle = true)
    (htrue : (since before handle length during).outcome? (after before).waits.length = some true) :
    ∃ mid later, during = mid ++ later ∧ (since before handle length mid).tracker.count = 0 := by
  rw [since_eq] at htrue
  by_cases hnow : ((after before).wait handle length).outcome? (after before).waits.length =
      some true
  · refine ⟨[], during, rfl, ?_⟩
    rw [since_eq]
    exact zero_of_wait hheld hnow
  · rcases zero_of_true during (waits_wait hheld length) hnow htrue with ⟨mid, later, heq, hzero⟩
    exact ⟨mid, later, heq, (since_eq mid).symm ▸ hzero⟩

theorem drains (hheld : (after before).holds handle = true)
    (hnodup : ((recorded (before ++ .wait handle length :: during)).map Info.id).Nodup) :
    Drains before handle length during where
  succeeds mid later hduring hsettled hearly hlive := by
    rw [hduring] at hnodup ⊢
    have hzero := (since_live_eq_nil_iff hnodup).1 hlive
    rw [since_append]
    exact outcome_stays later (since_waits hheld mid)
      ((since_waits hheld mid).drained hsettled hearly hzero)
  fails hfailed := by
    refine ⟨(since_waits hheld during).late hfailed, ?_⟩
    intro mid later hduring hsettled hearly hlive
    rw [hduring] at hnodup hfailed
    have hzero := (since_live_eq_nil_iff hnodup).1 hlive
    have htrue := outcome_stays later (since_waits hheld mid)
      ((since_waits hheld mid).drained hsettled hearly hzero)
    rw [since_append, htrue] at hfailed
    exact absurd (Option.some.inj hfailed) Bool.false_ne_true.symm
  drained htrue := by
    rcases since_drained hheld htrue with ⟨mid, later, hduring, hzero⟩
    rw [hduring] at hnodup
    exact ⟨mid, later, hduring, (since_live_eq_nil_iff hnodup).2 hzero⟩
  ends hsettled hlate hopen :=
    absurd ((since_waits hheld during).settled hsettled hopen).2 (Nat.not_lt_of_le hlate)

end Since

/-- As long as no number is used twice, a tracker says through every handle which connections
    are there, and it tells those who wait for the last one. -/
theorem tracked_exactly_and_drained (ts : List Turn) (h : ((recorded ts).map Info.id).Nodup) :
    Tracked (after ts) ∧
      ∀ before handle length during, ts = before ++ .wait handle length :: during →
        (after before).holds handle = true → Drains before handle length during := by
  refine ⟨(exact_after ts h).tracked h, ?_⟩
  rintro before handle length during rfl hheld
  exact drains hheld h

/-- A connection of this number. -/
def numbered (id : Nat) : Info := { id, transport := .tcp, remote := default, near := default }

/-- Two connections, one of them recorded through a clone of the first handle. -/
def twoRecorded : List Turn := [.track 0 (numbered 1), .clone 0, .track 1 (numbered 2)]

/-- A shorter wait begins and fails, with one connection left, and then that one goes. -/
def oneLeftTooLong : List Turn :=
  [.wait 0 2, .drop 0, .look 0, .pass 3, .look 1, .drop 1, .look 0]

theorem drained_for_longer_wait :
    let ts := twoRecorded ++ .wait 1 10 :: oneLeftTooLong
    ((recorded ts).map Info.id).Nodup ∧ (after ts).outcome? 0 = some true ∧
      (after ts).outcome? 1 = some false ∧
      (after (twoRecorded ++ .wait 1 10 :: oneLeftTooLong.take 5)).live = [numbered 2] := by
  have hnodup : ((recorded (twoRecorded ++ .wait 1 10 :: oneLeftTooLong)).map Info.id).Nodup := by
    decide
  have hlonger := (tracked_exactly_and_drained _ hnodup).2 twoRecorded 1 10 oneLeftTooLong rfl
    (by decide)
  refine ⟨hnodup, ?_, by decide, by decide⟩
  exact hlonger.succeeds oneLeftTooLong [] rfl (by decide) (by decide) (by decide)

end Roster

end Connection

end DemandNet
