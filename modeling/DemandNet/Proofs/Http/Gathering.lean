import DemandNet.Proofs.Http.Underway
import DemandNet.Proofs.Schedule

/-!
# Gathering a Body

A reader with a window takes a whole body, while the pump hands it over.

What might go wrong is that both wait for each other, or that a chunk is lost on the way.
Neither happens, whatever the size of the window and however the body was cut into frames.
This is shown of the fixed order in which `Intake.collect` takes a body, where the pump goes
on until it rests whenever the reader has looked, and of every schedule. The first is an
induction on what is left to take; in the second every turn either does nothing or leaves
less to do, and one of the two can always go on.

## Main definitions

* `Pulled`: What a reader gets that waits for the pump.
* `Unread`: A body to which nobody is attached and whose end nobody has met.
* `Gathering`: A body that a reader takes.
* `Gathering.rank`: The turns that are still needed, at most.

## Theorems

* `underway_pump`: The pump goes on until it rests.
* `Unread.underway`: The body is under way as soon as a reader has attached.
* `collect_gathers`: A reader that takes everything gets what is left, or the failure.
* `Gathering.outcome_of_schedule`: Whatever the order, it gets nothing else.
* `Gathering.outcome_of_rounds`: It gets that once both had a turn often enough.
-/

namespace DemandNet

namespace Http

open DemandNet.Connection (Pipeline)
open DemandNet.Flow (Bridge Consumer Poll Window)

section Order

variable {w : Window} {e : BodyEnd} {p : Pipeline} {total taken : Bytes} {i : Intake}
  {c : Consumer}

/-! ### In a fixed order -/

theorem Underway.wanted_iff (hu : Underway w e p total i c taken) :
    i.bridge.readiness? = some .wanted ↔ ¬ i.Rests := by
  unfold Intake.Rests
  by_cases ht : i.bridge.terminated = true
  · rw [readiness_of_terminated ht]
    exact ⟨fun h => (by cases h), fun h => absurd (Or.inl ht) h⟩
  · rw [readiness_open ((Bool.not_eq_true _).mp ht) hu.expected]
    by_cases hd : i.bridge.demand = 0
    · rw [if_pos hd]
      exact ⟨fun h => (by cases h), fun h => absurd (Or.inr hd) h⟩
    · rw [if_neg hd]
      exact ⟨fun _ h => h.elim ht hd, fun _ => rfl⟩

-- The pump takes a frame and goes on,
theorem pump_of_wanted (hwanted : i.bridge.readiness? = some .wanted) (hf : i.frames ≠ []) :
    i.pump = i.step.pump := by
  rcases i with ⟨p, b, frames, ending⟩
  dsimp only at hwanted
  cases frames with
  | nil => exact absurd rfl hf
  | cons frame rest =>
      cases frame with
      | trailers => simp only [Intake.pump, Intake.step, Intake.pumpFrames, hwanted]
      | data chunk => simp only [Intake.pump, Intake.step, Intake.pumpFrames, hwanted]

-- unless there is none, or none is wanted.
theorem pump_of_last (h : i.bridge.readiness? ≠ some .wanted ∨ i.frames = []) :
    i.pump = i.step := by
  rcases i with ⟨p, b, frames, ending⟩
  dsimp only at h
  cases hready : b.readiness? with
  | none => cases frames <;> simp only [Intake.pump, Intake.step, Intake.pumpFrames, hready]
  | some r =>
      cases r with
      | closed => cases frames <;> simp only [Intake.pump, Intake.step, Intake.pumpFrames, hready]
      | wanted =>
          rcases h with hnot | hnone
          · exact absurd hready hnot
          · rw [hnone]
            simp only [Intake.pump, Intake.step, Intake.pumpFrames, hready]

theorem Pumped.rested {i' : Intake} (h : Pumped e i i') (hrests : i.Rests) : i' = i := by
  cases h with
  | waits _ => rfl
  | ends hbusy _ => exact absurd hrests hbusy
  | skips _ _ hbusy _ _ => exact absurd hrests hbusy
  | hands _ _ _ hbusy _ _ _ => exact absurd hrests hbusy

theorem Pumped.tail {i' : Intake} (h : Pumped e i i') (hbusy : ¬ i.Rests) :
    i'.frames = i.frames.tail := by
  cases h with
  | waits h => exact absurd h hbusy
  | ends _ hf =>
      dsimp only
      rw [hf, List.tail_nil]
  | skips _ _ _ hf _ => rw [hf, List.tail_cons]
  | hands _ _ _ _ hf _ _ => rw [hf, List.tail_cons]

-- The pump goes on until it rests, whether frames are left or not.
theorem underway_pump (frames : List BodyFrame) : ∀ i : Intake, i.frames = frames →
    Underway w e p total i c taken →
    Underway w e p total i.pump c taken ∧ i.pump.Rests ∧ i.pump.left ≤ i.left := by
  induction frames with
  | nil =>
      intro i hf hu
      have hpumped := hu.pumped
      rw [pump_of_last (Or.inr hf)]
      refine ⟨underway_step hu, ?_, hpumped.left_le⟩
      generalize i.step = i' at hpumped
      cases hpumped with
      | waits h => exact h
      | ends _ _ => exact Or.inl rfl
      | skips _ _ _ hsome _ =>
          rw [hf] at hsome
          cases hsome
      | hands _ _ _ _ hsome _ _ =>
          rw [hf] at hsome
          cases hsome
  | cons frame rest ih =>
      intro i hf hu
      have hpumped := hu.pumped
      by_cases hrests : i.Rests
      · rw [pump_of_last (Or.inl fun h => hu.wanted_iff.1 h hrests), hpumped.rested hrests]
        exact ⟨hu, hrests, Nat.le_refl _⟩
      · have htail : i.step.frames = rest := by
          rw [hpumped.tail hrests, hf, List.tail_cons]
        rw [pump_of_wanted (hu.wanted_iff.2 hrests) (by rw [hf]; exact List.cons_ne_nil _ _)]
        rcases ih i.step htail (underway_step hu) with ⟨hkept, hrested, hle⟩
        exact ⟨hkept, hrested, Nat.le_trans hle hpumped.left_le⟩

/-- What a reader gets that waits for the pump if it has to. It never gets nothing. -/
def Pulled (w : Window) (e : BodyEnd) (p : Pipeline) (total taken : Bytes) (left : Nat) :
    Poll Bytes × Consumer × Intake → Prop
  | (.item chunk, c, i) => Underway w e p total i c (taken ++ chunk) ∧ i.left < left
  | (.ended, _, _) => gathered e total = .ok taken
  | (.failed err, _, _) => gathered e total = .error err
  | (.pending, _, _) => False

theorem Pulled.mono {left left' : Nat} {look : Poll Bytes × Consumer × Intake}
    (h : Pulled w e p total taken left look) (hle : left ≤ left') :
    Pulled w e p total taken left' look := by
  rcases look with ⟨found, c', i'⟩
  cases found with
  | item chunk => exact ⟨h.1, Nat.lt_of_lt_of_le h.2 hle⟩
  | ended => exact h
  | failed err => exact h
  | pending => exact h

-- After a look that found something the pump has its turn.
theorem pulled_pumped {found : Poll Bytes} {c' : Consumer} {i' : Intake}
    (h : Looked w e p total i c taken found c' i') (hsome : found ≠ .pending) :
    Pulled w e p total taken i.left (found, c', i'.pump) := by
  cases h with
  | chunk chunk _ _ hu hprimed hf ht hqueue hitems =>
      rcases underway_pump i'.frames i' rfl hu with ⟨hkept, -, hle⟩
      refine ⟨hkept, Nat.lt_of_le_of_lt hle ?_⟩
      unfold Intake.left
      rw [hitems, hf]
      omega
  | nothing _ _ _ _ _ _ _ _ => exact absurd rfl hsome
  | ended _ _ htotal ht => exact htotal
  | failed err _ _ htotal ht => exact htotal

-- A pump that rests has left something in the queue or is done.
theorem found_of_rests (hw : 1 ≤ w.size) (hu : Underway w e p total i c taken)
    (hprimed : c.primed = true) (hrests : i.Rests) {found : Poll Bytes} {c' : Consumer}
    {i' : Intake} (h : Looked w e p total i c taken found c' i') : found ≠ .pending := by
  intro hnone
  rw [hnone] at h
  cases h with
  | nothing _ _ _ _ _ ht hq _ => exact not_rests_of_nothing hw hu hprimed ht.1 hq.1 hrests

-- So a reader that waits for the pump does not wait in vain.
theorem pulled_pull (hw : 1 ≤ w.size) (hu : Underway w e p total i c taken) :
    Pulled w e p total taken i.left (i.pull c) := by
  have hfound := underway_poll hu
  unfold Intake.pull
  generalize i.bridge.poll c = look at hfound ⊢
  rcases look with ⟨found, c', b⟩
  dsimp only at hfound ⊢
  cases found with
  | item chunk => exact pulled_pumped hfound nofun
  | ended => exact pulled_pumped hfound nofun
  | failed err => exact pulled_pumped hfound nofun
  | pending =>
      cases hfound with
      | nothing _ _ hu' hprimed hf ht hq _ =>
          rcases underway_pump _ _ rfl hu' with ⟨hpumped, hrests, hle⟩
          have hlook := underway_poll hpumped
          have hsome := found_of_rests hw hpumped hprimed hrests hlook
          refine (pulled_pumped hlook hsome).mono (Nat.le_trans hle ?_)
          unfold Intake.left Bridge.items
          rw [hq.1, hq.2, hf]

theorem collectUpTo_gathers (hw : 1 ≤ w.size) (fuel : Nat) :
    ∀ (i : Intake) (c : Consumer) (taken : Bytes), Underway w e p total i c taken →
      i.left < fuel → (i.collectUpTo c taken fuel).1 = some (gathered e total) := by
  induction fuel with
  | zero => exact fun _ _ _ _ hfuel => absurd hfuel (Nat.not_lt_zero _)
  | succ fuel ih =>
      intro i c taken hu hfuel
      have hpulled := pulled_pull hw hu
      rw [Intake.collectUpTo]
      generalize i.pull c = look at hpulled
      rcases look with ⟨found, c', i'⟩
      cases found with
      | item chunk => exact ih i' c' _ hpulled.1 (by have := hpulled.2; omega)
      | ended => exact congrArg some (Eq.symm hpulled)
      | failed err => exact congrArg some (Eq.symm hpulled)
      | pending => exact hpulled.elim

/-- The reader that takes a whole body, as it is when it was attached. -/
def reader (w : Window) : Consumer :=
  { mode := .window w, reads := true, primed := false, received := 0, done := false }

/-- A body whose reader was attached. -/
def Intake.attached (i : Intake) : Intake :=
  { i with bridge := { i.bridge with attached := true, readEnd := .held } }

/-- A body to which nobody is attached and whose end nobody has met, and what is left of it. -/
structure Unread (e : BodyEnd) (p : Pipeline) (rest : Bytes) (i : Intake) : Prop where
  pipeline : i.pipeline = p
  ending : i.ending = some e
  vacant : i.bridge.attached = false
  parked : i.bridge.readEnd = .parked
  expected : i.bridge.abandoned = false
  unwanted : i.bridge.demand = 0
  /-- What is queued and what is to come are left. -/
  order : i.bridge.items.flatten ++ bytesThrough p i.frames = rest
  queue : i.bridge.queue = i.bridge.items.map .ok ++ (i.trailing e).map .error
  frames : i.bridge.terminated = true → i.frames = []

theorem unread_start (p : Pipeline) (frames : List BodyFrame) (e : BodyEnd) :
    Unread e p (bytesThrough p frames) (Intake.start p frames (some e)) where
  pipeline := rfl
  ending := rfl
  vacant := rfl
  parked := rfl
  expected := rfl
  unwanted := rfl
  order := rfl
  queue := rfl
  frames := nofun

variable {rest : Bytes}

theorem Unread.attach (hr : Unread e p rest i) (w : Window) :
    i.attach (.window w) = .ok (reader w, i.attached) := by
  unfold Intake.attach
  rw [Bridge.attach_eq, hr.vacant, if_neg Bool.false_ne_true]
  unfold Bridge.newcomer Bridge.seated reader Intake.attached
  rw [hr.parked]
  rfl

theorem Unread.underway (hr : Unread e p rest i) (w : Window) :
    Underway w e p rest i.attached (reader w) [] where
  pipeline := hr.pipeline
  ending := hr.ending
  readable := nofun
  expected := hr.expected
  mode := rfl
  reads := rfl
  going := rfl
  order := hr.order
  queue := hr.queue
  frames := hr.frames
  idle := fun _ => ⟨hr.unwanted, rfl⟩
  balance := nofun

-- The reader gets all that is left, whatever its window.
theorem collect_gathers (hw : 1 ≤ w.size) (hr : Unread e p rest i) :
    (i.collect w).1 = some (gathered e rest) := by
  unfold Intake.collect
  rw [hr.attach w]
  refine collectUpTo_gathers hw _ _ _ _ (hr.underway w) ?_
  have hitems : i.bridge.items.length ≤ i.bridge.queue.length := List.length_filterMap_le _ _
  change i.bridge.items.length + i.frames.length < i.bridge.queue.length + i.frames.length + 1
  omega

/-! ### In any order -/

/-- A body that a reader takes. -/
structure Gathering where
  intake : Intake
  consumer : Consumer
  taken : Bytes
  /-- What came of it, once the reader has met the end. -/
  outcome : Option (Except NetError Bytes)

namespace Gathering

/-- Who has a turn. -/
inductive Turn where
  | pump
  | look
  deriving Repr, DecidableEq

/-- What the reader keeps of what it found. -/
def keep (g : Gathering) (consumer : Consumer) (intake : Intake) : Poll Bytes → Gathering
  | .pending => { g with consumer, intake }
  | .item chunk => { g with consumer, intake, taken := g.taken ++ chunk }
  | .ended => { g with consumer, intake, outcome := some (.ok g.taken) }
  | .failed err => { g with consumer, intake, outcome := some (.error err) }

/-- The reader looks once. -/
def look (g : Gathering) : Gathering :=
  let (found, consumer, bridge) := g.intake.bridge.poll g.consumer
  g.keep consumer { g.intake with bridge } found

/-- One turn. A reader that has met the end does not look again. -/
def turn (g : Gathering) : Turn → Gathering
  | .pump => { g with intake := g.intake.step }
  | .look => if g.outcome.isSome then g else g.look

/-- The state after a schedule. -/
def after (g : Gathering) (ts : List Turn) : Gathering := Schedule.after turn g ts

/-- A body whose reader has not looked yet. -/
def start (consumer : Consumer) (intake : Intake) : Gathering :=
  { intake, consumer, taken := [], outcome := none }

/-- What holds of a body until the reader has met the end, and then. -/
def Keeps (w : Window) (e : BodyEnd) (p : Pipeline) (total : Bytes) (g : Gathering) : Prop :=
  match g.outcome with
  | none => Underway w e p total g.intake g.consumer g.taken
  | some r => r = gathered e total ∧ g.intake.bridge.terminated = true

/-- The turns that are still needed, at most. -/
def rank (g : Gathering) : Nat :=
  if g.outcome.isSome then 0 else (if g.consumer.primed then 0 else 1) + g.intake.load

variable {g : Gathering}

theorem Keeps.underway (hk : g.Keeps w e p total) (hopen : g.outcome = none) :
    Underway w e p total g.intake g.consumer g.taken := by
  unfold Keeps at hk
  rw [hopen] at hk
  exact hk

theorem rank_of_open (g : Gathering) (hopen : g.outcome = none) :
    g.rank = (if g.consumer.primed then 0 else 1) + g.intake.load := by
  unfold rank
  rw [hopen, Option.isSome_none, if_neg Bool.false_ne_true]

theorem rank_pos (hopen : g.outcome = none) : 0 < g.rank := by
  rw [rank_of_open g hopen]
  unfold Intake.load
  split <;> split <;> omega

theorem turn_of_done (hk : g.Keeps w e p total) (hdone : g.outcome.isSome = true) (t : Turn) :
    g.turn t = g := by
  cases t with
  | look => exact if_pos hdone
  | pump =>
      have hterminated : g.intake.bridge.terminated = true := by
        unfold Keeps at hk
        rcases Option.isSome_iff_exists.1 hdone with ⟨r, hr⟩
        rw [hr] at hk
        exact hk.2
      unfold turn
      rw [step_of_terminated hterminated]

theorem turn_pump (hopen : g.outcome = none)
    (hu : Underway w e p total g.intake g.consumer g.taken) :
    (g.turn .pump).Keeps w e p total ∧
      (g.turn .pump = g ∧ g.intake.Rests ∨ (g.turn .pump).rank < g.rank) := by
  have hkept : (g.turn .pump).Keeps w e p total := by
    unfold turn Keeps
    dsimp only
    rw [hopen]
    exact underway_step hu
  refine ⟨hkept, ?_⟩
  rcases hu.pumped.load with ⟨hsame, hrests⟩ | hless
  · refine Or.inl ⟨?_, hrests⟩
    unfold turn
    rw [hsame]
  · refine Or.inr ?_
    rw [rank_of_open g hopen, rank_of_open (g.turn .pump) hopen]
    exact Nat.add_lt_add_left hless _

-- A reader that found something, or looked for the first time, is a step further.
theorem keep_found (hopen : g.outcome = none) {found : Poll Bytes} {c' : Consumer} {i' : Intake}
    (h : Looked w e p total g.intake g.consumer g.taken found c' i') :
    (g.keep c' i' found).Keeps w e p total ∧
      (g.keep c' i' found = g ∧ g.consumer.primed = true ∧
          g.intake.bridge.terminated = false ∧ g.intake.bridge.queue = [] ∨
        (g.keep c' i' found).rank < g.rank) := by
  have hpos := rank_pos hopen
  rw [rank_of_open g hopen] at hpos ⊢
  cases h with
  | chunk chunk _ _ hu hprimed hf ht hqueue _ =>
      refine ⟨?_, Or.inr ?_⟩
      · unfold keep Keeps
        dsimp only
        rw [hopen]
        exact hu
      · rw [rank_of_open (g.keep c' i' (.item chunk)) hopen]
        unfold keep Intake.load
        dsimp only
        rw [if_pos hprimed, hf, ht, hqueue]
        omega
  | nothing _ _ hu hprimed hf ht hq hsame =>
      refine ⟨?_, ?_⟩
      · unfold keep Keeps
        dsimp only
        rw [hopen]
        exact hu
      · cases hp : g.consumer.primed with
        | true =>
            rcases hsame hp with ⟨rfl, rfl⟩
            exact Or.inl ⟨rfl, rfl, ht.1, hq.1⟩
        | false =>
            refine Or.inr ?_
            rw [rank_of_open (g.keep c' i' .pending) hopen]
            unfold keep Intake.load
            dsimp only
            rw [if_pos hprimed, if_neg Bool.false_ne_true, hf, ht.1, ht.2, hq.1, hq.2]
            omega
  | ended _ _ htotal ht => exact ⟨⟨htotal.symm, ht⟩, Or.inr hpos⟩
  | failed err _ _ htotal ht => exact ⟨⟨htotal.symm, ht⟩, Or.inr hpos⟩

theorem turn_look (hopen : g.outcome = none)
    (hu : Underway w e p total g.intake g.consumer g.taken) :
    (g.turn .look).Keeps w e p total ∧
      (g.turn .look = g ∧ g.consumer.primed = true ∧ g.intake.bridge.terminated = false ∧
          g.intake.bridge.queue = [] ∨
        (g.turn .look).rank < g.rank) := by
  unfold turn
  dsimp only
  rw [hopen, Option.isSome_none, if_neg Bool.false_ne_true]
  exact keep_found hopen (underway_poll hu)

theorem turn_progress (hk : g.Keeps w e p total) (t : Turn) :
    (g.turn t).Keeps w e p total ∧ (g.turn t = g ∨ (g.turn t).rank < g.rank) := by
  cases hopen : g.outcome with
  | some r =>
      have hsame := turn_of_done hk (by rw [hopen]; rfl) t
      rw [hsame]
      exact ⟨hk, Or.inl rfl⟩
  | none =>
      have hu := hk.underway hopen
      cases t with
      | pump => exact (turn_pump hopen hu).imp id (Or.imp And.left id)
      | look => exact (turn_look hopen hu).imp id (Or.imp And.left id)

-- As long as the end was not met, the pump or the reader can go on.
theorem busy_of_open (hw : 1 ≤ w.size) (hk : g.Keeps w e p total) (hopen : g.outcome = none) :
    ∃ t ∈ [Turn.pump, Turn.look], (g.turn t).rank < g.rank := by
  have hu := hk.underway hopen
  rcases (turn_pump hopen hu).2 with ⟨-, hrests⟩ | hless
  · rcases (turn_look hopen hu).2 with ⟨-, hprimed, ht, hq⟩ | hless
    · exact absurd hrests (not_rests_of_nothing hw hu hprimed ht hq)
    · exact ⟨.look, List.mem_cons_of_mem _ List.mem_cons_self, hless⟩
  · exact ⟨.pump, List.mem_cons_self, hless⟩

theorem advances (hw : 1 ≤ w.size) :
    Schedule.Advances turn (Keeps w e p total) (fun g => g.outcome.isSome = true) rank
      [.pump, .look] where
  keeps := fun g t hk => (turn_progress hk t).1
  counts := fun g t hk => (turn_progress hk t).2
  busy := fun g hk hgoing => by
    rw [Bool.not_eq_true, Option.isSome_eq_false_iff, Option.isNone_iff_eq_none] at hgoing
    exact busy_of_open hw hk hgoing
  stays := fun g t hk hdone => by
    rw [turn_of_done hk hdone t]
    exact hdone

section Attached

variable {rest : Bytes}

-- Whatever the order, the reader gets nothing but the body.
theorem outcome_of_schedule (hw : 1 ≤ w.size) (hr : Unread e p rest i) (ts : List Turn)
    (r : Except NetError Bytes)
    (houtcome : ((start (reader w) i.attached).after ts).outcome = some r) :
    r = gathered e rest := by
  have hkept := ((advances hw).after ts (start (reader w) i.attached) (hr.underway w)).1
  unfold after at houtcome
  unfold Keeps at hkept
  rw [houtcome] at hkept
  exact hkept.1

-- It gets the body if both have a turn often enough.
theorem outcome_of_rounds (hw : 1 ≤ w.size) (hr : Unread e p rest i) (rounds : List (List Turn))
    (hrounds : ∀ round ∈ rounds, Turn.pump ∈ round ∧ Turn.look ∈ round)
    (henough : 2 * i.frames.length + i.bridge.queue.length + 4 ≤ rounds.length) :
    ((start (reader w) i.attached).after rounds.flatten).outcome = some (gathered e rest) := by
  have hneeded : ∀ round ∈ rounds, ∀ t ∈ [Turn.pump, Turn.look], t ∈ round := by
    intro round hround
    rcases hrounds round hround with ⟨hpump, hlook⟩
    exact List.forall_mem_cons.2 ⟨hpump, List.forall_mem_singleton.2 hlook⟩
  have hrank : (start (reader w) i.attached).rank ≤
      1 + (2 * i.frames.length + i.bridge.queue.length + 3) := by
    rw [rank_of_open _ rfl]
    unfold Intake.load
    refine Nat.add_le_add (Nat.le_refl 1) (Nat.add_le_add_left ?_ _)
    split <;> omega
  have hdone := Schedule.done_of_rounds (advances hw) rounds hneeded
    (start (reader w) i.attached) (hr.underway w) (by omega)
  rcases Option.isSome_iff_exists.1 hdone with ⟨r, houtcome⟩
  rw [← outcome_of_schedule hw hr rounds.flatten r houtcome]
  exact houtcome

end Attached

end Gathering

end Order

end Http

end DemandNet
