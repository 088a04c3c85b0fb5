import DemandNet.Http.Intake
import DemandNet.Proofs.Flow.WindowAccount

/-!
# Bodies Under Way

What the pump and a reader with a window do to a body, step by step.

The reader asks for the window when it first looks and for more as chunks arrive; the pump
takes a frame only where something is wanted, and the end of the body is a frame like the
others. What was taken, what is queued and what is still in the frames make up the body at
all times, and what is wanted, queued and received since the last top-up makes up the window.
`Underway` says this of a body whose end the reader has not met yet.

A step of the pump and a look of the reader are each described once, by `Pumped` and `Looked`.
Both keep what holds. They also get on: the pump does something unless it has to wait, and it
does not have to where the reader has just found nothing.

## Main definitions

* `Intake.step`: The pump takes one frame.
* `bytesThrough`, `gathered`: The bytes of a body, and what comes of reading it.
* `Underway`: What holds until the reader has met the end of the body.
* `Intake.Rests`: There is nothing to do for the pump.
* `Pumped`, `Looked`: What the pump and the reader can do.
* `Intake.load`: What is left to do.
* `Intake.left`: What is left to hand over and to take.

## Theorems

* `underway_step`, `underway_poll`: The pump and the reader keep what holds.
* `Pumped.load`: The pump does something unless it has to wait.
* `not_rests_of_nothing`: A reader that finds nothing leaves something to do for the pump.
-/

namespace DemandNet

namespace Http

open DemandNet.Connection (Pipeline)
open DemandNet.Flow (Bridge Consumer Look Poll Window grant takeOne? unbounded)
open DemandNet.Flow.Exchange (isUnlimited_of_lt topUp_bounds)

/-- The pump takes one frame, or meets the end of the body, if something is wanted. -/
def Intake.step (i : Intake) : Intake :=
  match i.bridge.readiness?, i.frames with
  | none, _ => i
  | some .closed, _ => { i with bridge := i.bridge.finish }
  | some .wanted, [] => { i with bridge := conclude i.bridge i.ending }
  | some .wanted, .trailers :: rest => { i with frames := rest }
  | some .wanted, .data chunk :: rest =>
      { i with
        bridge := if chunk.isEmpty then i.bridge else
          (i.bridge.tryEmit (i.pipeline.inbound chunk)).2
        frames := rest }

/-- What a frame brings to the reader. -/
def BodyFrame.chunk (p : Pipeline) : BodyFrame → Bytes
  | .data chunk => if chunk.isEmpty then [] else p.inbound chunk
  | .trailers => []

/-- The bytes of a body behind its pipeline. -/
def bytesThrough (p : Pipeline) (frames : List BodyFrame) : Bytes :=
  frames.flatMap (BodyFrame.chunk p)

/-- The failure with which a body ends. -/
def BodyEnd.failure? : BodyEnd → Option NetError
  | .complete => none
  | .broken e => some e

/-- What comes of reading a body to its end. -/
def gathered (e : BodyEnd) (bytes : Bytes) : Except NetError Bytes :=
  match e with
  | .complete => .ok bytes
  | .broken e => .error e

/-- The account of a window: all that is wanted, or what is wanted, queued and received covers
    it, and the next top-up is still to come. -/
def Balanced (w : Window) (wanted queued received : Nat) : Prop :=
  wanted = unbounded ∨
    w.size < unbounded ∧ w.size ≤ wanted + queued + received ∧ received < w.topUp

/-- The failure that stands behind the chunks of the queue once the pump has met it. -/
def Intake.trailing (i : Intake) (e : BodyEnd) : List NetError :=
  if i.bridge.terminated then e.failure?.toList else []

/-- What holds of a body, its reader and the bytes that were taken, until the reader has met
    the end. -/
structure Underway (w : Window) (e : BodyEnd) (p : Pipeline) (total : Bytes) (i : Intake)
    (c : Consumer) (taken : Bytes) : Prop where
  pipeline : i.pipeline = p
  ending : i.ending = some e
  readable : i.bridge.readEnd ≠ .dropped
  expected : i.bridge.abandoned = false
  mode : c.mode = .window w
  reads : c.reads = true
  going : c.done = false
  /-- What was taken, what is queued and what is to come are the body. -/
  order : taken ++ i.bridge.items.flatten ++ bytesThrough p i.frames = total
  queue : i.bridge.queue = i.bridge.items.map .ok ++ (i.trailing e).map .error
  frames : i.bridge.terminated = true → i.frames = []
  idle : c.primed = false → i.bridge.demand = 0 ∧ c.received = 0
  balance : c.primed = true → Balanced w i.bridge.demand i.bridge.items.length c.received

/-! ### The pump -/

/-- There is nothing to do for the pump. -/
def Intake.Rests (i : Intake) : Prop := i.bridge.terminated = true ∨ i.bridge.demand = 0

/-- What the pump can do with a body that ends. -/
inductive Pumped (e : BodyEnd) (i : Intake) : Intake → Prop
  | waits (h : i.Rests) : Pumped e i i
  | ends (hbusy : ¬ i.Rests) (hf : i.frames = []) :
      Pumped e i { i with bridge := i.bridge.concluded e.failure? }
  | skips (frame : BodyFrame) (rest : List BodyFrame) (hbusy : ¬ i.Rests)
      (hf : i.frames = frame :: rest) (hnone : frame.chunk i.pipeline = []) :
      Pumped e i { i with frames := rest }
  | hands (chunk : Bytes) (rest : List BodyFrame) (left : Nat) (hbusy : ¬ i.Rests)
      (hf : i.frames = .data chunk :: rest)
      (hchunk : BodyFrame.chunk i.pipeline (.data chunk) = i.pipeline.inbound chunk)
      (htake : takeOne? i.bridge.demand = some left) :
      Pumped e i
        { i with
          bridge := i.bridge.accepting (i.pipeline.inbound chunk) left
          frames := rest }

section Body

variable {w : Window} {e : BodyEnd} {p : Pipeline} {total taken : Bytes} {i : Intake}
  {c : Consumer}

theorem finish_of_terminated {b : Bridge Bytes} (ht : b.terminated = true) : b.finish = b := by
  unfold Bridge.finish
  rw [← ht]

theorem readiness_of_terminated {b : Bridge Bytes} (ht : b.terminated = true) :
    b.readiness? = some .closed := by
  unfold Bridge.readiness? Bridge.isClosed
  rw [ht]
  rfl

-- The end was found, and nothing happens any more.
theorem step_of_terminated (ht : i.bridge.terminated = true) : i.step = i := by
  unfold Intake.step
  rw [readiness_of_terminated ht, finish_of_terminated ht]

theorem conclude_eq {b : Bridge Bytes} (hr : b.readEnd ≠ .dropped) (e : BodyEnd) :
    Intake.conclude b (some e) = b.concluded e.failure? := by
  cases e with
  | complete => exact b.finish_eq
  | broken e => exact b.finishWith_of_open e hr

theorem readiness_open {b : Bridge Bytes} (ht : b.terminated = false) (ha : b.abandoned = false)
    : b.readiness? = if b.demand = 0 then none else some .wanted := by
  unfold Bridge.readiness? Bridge.isClosed
  rw [ht, ha]
  rfl

theorem terminated_of_busy (hbusy : ¬ i.Rests) : i.bridge.terminated = false := by
  rw [← Bool.not_eq_true]
  exact fun ht => hbusy (Or.inl ht)

theorem pumped_step (hending : i.ending = some e) (hreadable : i.bridge.readEnd ≠ .dropped)
    (hexpected : i.bridge.abandoned = false) : Pumped e i i.step := by
  by_cases ht : i.bridge.terminated = true
  · rw [step_of_terminated ht]
    exact .waits (Or.inl ht)
  · rw [Bool.not_eq_true] at ht
    unfold Intake.step
    rw [readiness_open ht hexpected]
    by_cases hd : i.bridge.demand = 0
    · rw [if_pos hd]
      exact .waits (Or.inr hd)
    · have hbusy : ¬ i.Rests := by
        rintro (hterminated | hunwanted)
        · rw [ht] at hterminated
          cases hterminated
        · exact hd hunwanted
      rw [if_neg hd]
      cases hf : i.frames with
      | nil =>
          dsimp only
          rw [hending, conclude_eq hreadable]
          have hends := Pumped.ends (e := e) hbusy hf
          rw [hf, hending] at hends
          exact hends
      | cons frame rest =>
          cases frame with
          | trailers => exact .skips .trailers rest hbusy hf rfl
          | data chunk =>
              dsimp only
              by_cases hempty : chunk.isEmpty = true
              · rw [if_pos hempty]
                exact .skips (.data chunk) rest hbusy hf (if_pos hempty)
              · rw [if_neg hempty, Bridge.tryEmit_of_open _ _ hreadable]
                cases htake : takeOne? i.bridge.demand with
                | none => exact absurd ((Flow.takeOne?_eq_none_iff _).1 htake) hd
                | some left => exact .hands chunk rest left hbusy hf (if_neg hempty) htake

theorem Underway.pumped (hu : Underway w e p total i c taken) : Pumped e i i.step :=
  pumped_step hu.ending hu.readable hu.expected

theorem trailing_of_busy (hbusy : ¬ i.Rests) : i.trailing e = [] := by
  unfold Intake.trailing
  rw [terminated_of_busy hbusy, if_neg Bool.false_ne_true]

-- The pump has something to do only after the reader has looked.
theorem Underway.primed_of_busy (hu : Underway w e p total i c taken) (hbusy : ¬ i.Rests) :
    c.primed = true := by
  rw [← Bool.not_eq_false]
  exact fun hidle => hbusy (Or.inr (hu.idle hidle).1)

-- The end of the body goes behind what is queued,
theorem Underway.concluded (hu : Underway w e p total i c taken) (hbusy : ¬ i.Rests)
    (hf : i.frames = []) :
    Underway w e p total { i with bridge := i.bridge.concluded e.failure? } c taken := by
  have hqueue := hu.queue
  rw [trailing_of_busy hbusy, List.map_nil, List.append_nil] at hqueue
  have hprimed := hu.primed_of_busy hbusy
  refine { hu with order := ?_, queue := ?_, frames := fun _ => hf, idle := ?_, balance := ?_ }
  · rw [Bridge.items_concluded]
    exact hu.order
  · rw [Bridge.items_concluded, ← hqueue]
    rfl
  · intro hidle
    rw [hprimed] at hidle
    cases hidle
  · rw [Bridge.items_concluded]
    exact hu.balance

-- a frame that brings nothing goes away,
theorem Underway.skipped (hu : Underway w e p total i c taken) (hbusy : ¬ i.Rests)
    {frame : BodyFrame} {rest : List BodyFrame} (hf : i.frames = frame :: rest)
    (hnone : frame.chunk i.pipeline = []) :
    Underway w e p total { i with frames := rest } c taken := by
  have horder := hu.order
  unfold bytesThrough at horder
  rw [hf, List.flatMap_cons, ← hu.pipeline, hnone, List.nil_append, hu.pipeline] at horder
  refine { hu with order := horder, frames := fun ht => ?_ }
  exact absurd (Or.inl ht) hbusy

-- and what is handed over moves from the frames to the queue.
theorem Underway.handed (hu : Underway w e p total i c taken) (hbusy : ¬ i.Rests)
    {chunk : Bytes} {rest : List BodyFrame} {left : Nat} (hf : i.frames = .data chunk :: rest)
    (hchunk : BodyFrame.chunk i.pipeline (.data chunk) = i.pipeline.inbound chunk)
    (htake : takeOne? i.bridge.demand = some left) :
    Underway w e p total
      { i with
        bridge := i.bridge.accepting (i.pipeline.inbound chunk) left
        frames := rest } c taken := by
  have horder := hu.order
  unfold bytesThrough at horder
  rw [hf, List.flatMap_cons, ← hu.pipeline, hchunk, hu.pipeline] at horder
  have hqueue := hu.queue
  have htrailing := trailing_of_busy (e := e) hbusy
  have hprimed := hu.primed_of_busy hbusy
  rw [htrailing, List.map_nil, List.append_nil] at hqueue
  refine { hu with order := ?_, queue := ?_, frames := ?_, idle := ?_, balance := fun _ => ?_ }
  · rw [Bridge.items_accepting, List.flatten_append, List.flatten_singleton, hu.pipeline,
      ← horder]
    simp only [bytesThrough, List.append_assoc]
  · change i.bridge.queue ++ [_] = _ ++ (i.trailing e).map .error
    rw [Bridge.items_accepting, htrailing, List.map_nil, List.append_nil, List.map_append,
      ← hqueue]
    rfl
  · exact fun ht => absurd (Or.inl ht) hbusy
  · intro hidle
    rw [hprimed] at hidle
    cases hidle
  · rw [Bridge.items_accepting, List.length_append, List.length_singleton]
    rcases Flow.takeOne?_eq_some _ _ htake with ⟨-, hleft⟩ | ⟨hpos, hbounded, hleft⟩
    · exact Or.inl hleft
    · rcases hu.balance hprimed with hall | ⟨hsize, hcovered, hbelow⟩
      · exact absurd hall hbounded
      · refine Or.inr ⟨hsize, ?_, hbelow⟩
        change _ ≤ left + _ + _
        omega

theorem Pumped.underway {i' : Intake} (h : Pumped e i i')
    (hu : Underway w e p total i c taken) : Underway w e p total i' c taken := by
  cases h with
  | waits _ => exact hu
  | ends hbusy hf => exact hu.concluded hbusy hf
  | skips frame rest hbusy hf hnone => exact hu.skipped hbusy hf hnone
  | hands chunk rest left hbusy hf hchunk htake => exact hu.handed hbusy hf hchunk htake

theorem underway_step (hu : Underway w e p total i c taken) :
    Underway w e p total i.step c taken := hu.pumped.underway hu

/-- What is left to do for a body: two turns for a frame, one for a chunk in the queue, and
    those that bring its end to the reader. -/
def Intake.load (i : Intake) : Nat :=
  2 * i.frames.length + i.bridge.queue.length + if i.bridge.terminated then 1 else 3

-- The pump does something unless it has to wait or is done.
theorem Pumped.load {i' : Intake} (h : Pumped e i i') :
    i' = i ∧ i.Rests ∨ i'.load < i.load := by
  unfold Intake.load
  cases h with
  | waits h => exact Or.inl ⟨rfl, h⟩
  | ends hbusy hf =>
      refine Or.inr ?_
      have hqueue : (i.bridge.concluded e.failure?).queue.length ≤ i.bridge.queue.length + 1 := by
        unfold Bridge.concluded
        cases e <;> simp only [BodyEnd.failure?, Option.toList_none, Option.toList_some,
          List.map_nil, List.map_cons, List.append_nil, List.length_append, List.length_singleton,
          Nat.le_add_right, Nat.le_refl]
      have hdone : (i.bridge.concluded e.failure?).terminated = true := rfl
      dsimp only
      rw [hdone, terminated_of_busy hbusy, if_pos rfl, if_neg Bool.false_ne_true]
      omega
  | skips frame rest hbusy hf hnone =>
      refine Or.inr ?_
      rw [hf, List.length_cons]
      dsimp only
      omega
  | hands chunk rest left hbusy hf hchunk htake =>
      refine Or.inr ?_
      rw [hf, List.length_cons]
      unfold Bridge.accepting
      simp only [List.length_append, List.length_singleton]
      omega

/-- What is left to hand over and to take. -/
def Intake.left (i : Intake) : Nat := i.bridge.items.length + i.frames.length

theorem Pumped.left_le {i' : Intake} (h : Pumped e i i') : i'.left ≤ i.left := by
  unfold Intake.left
  cases h with
  | waits h => exact Nat.le_refl _
  | ends hbusy hf =>
      rw [Bridge.items_concluded]
  | skips frame rest hbusy hf hnone =>
      rw [hf, List.length_cons]
      dsimp only
      omega
  | hands chunk rest left hbusy hf hchunk htake =>
      rw [Bridge.items_accepting, hf, List.length_append, List.length_singleton, List.length_cons]
      dsimp only
      omega

/-! ### The reader -/

/-- What the reader can find, and what it and the body are then. -/
inductive Looked (w : Window) (e : BodyEnd) (p : Pipeline) (total : Bytes) (i : Intake)
    (c : Consumer) (taken : Bytes) : Poll Bytes → Consumer → Intake → Prop
  | chunk (chunk : Bytes) (c' : Consumer) (i' : Intake)
      (hu : Underway w e p total i' c' (taken ++ chunk)) (hprimed : c'.primed = true)
      (hf : i'.frames = i.frames) (ht : i'.bridge.terminated = i.bridge.terminated)
      (hqueue : i.bridge.queue.length = i'.bridge.queue.length + 1)
      (hitems : i.bridge.items.length = i'.bridge.items.length + 1) :
      Looked w e p total i c taken (.item chunk) c' i'
  | nothing (c' : Consumer) (i' : Intake) (hu : Underway w e p total i' c' taken)
      (hprimed : c'.primed = true) (hf : i'.frames = i.frames)
      (ht : i.bridge.terminated = false ∧ i'.bridge.terminated = false)
      (hq : i.bridge.queue = [] ∧ i'.bridge.queue = [])
      (hsame : c.primed = true → c' = c ∧ i' = i) :
      Looked w e p total i c taken .pending c' i'
  | ended (c' : Consumer) (i' : Intake) (htotal : gathered e total = .ok taken)
      (ht : i'.bridge.terminated = true) : Looked w e p total i c taken .ended c' i'
  | failed (err : NetError) (c' : Consumer) (i' : Intake)
      (htotal : gathered e total = .error err) (ht : i'.bridge.terminated = true) :
      Looked w e p total i c taken (.failed err) c' i'

theorem opening_of_primed (hp : c.primed = true) : c.opening = [] := by
  unfold Consumer.opening
  rw [hp, if_pos rfl]

-- A reader with a window asks for it when it first looks.
theorem balanced_opening (hu : Underway w e p total i c taken) :
    Balanced w (c.opening.foldl grant i.bridge.demand) i.bridge.items.length c.received := by
  cases hp : c.primed with
  | true =>
      rw [opening_of_primed hp, List.foldl_nil]
      exact hu.balance hp
  | false =>
      rcases hu.idle hp with ⟨hdemand, hreceived⟩
      unfold Consumer.opening
      rw [hp, if_neg Bool.false_ne_true, hu.mode, hdemand, hreceived]
      simp only [List.foldl_cons, List.foldl_nil]
      by_cases hsize : w.size < unbounded
      · rw [Flow.grant_of_lt 0 w.size (by omega)]
        refine Or.inr ⟨hsize, by omega, ?_⟩
        unfold Window.topUp
        omega
      · exact Or.inl (Flow.grant_of_le 0 w.size (by omega))

theorem grants_of_unbounded (gs : List Nat) : gs.foldl grant unbounded = unbounded :=
  Flow.foldl_grant_of_le gs unbounded (Nat.le_refl _) (Nat.le_add_right _ _)

-- A chunk that is taken is counted, and more is asked for when it is time.
theorem Balanced.receive {wanted queued : Nat} (hm : c.mode = .window w)
    (h : Balanced w wanted (queued + 1) c.received) :
    Balanced w (c.topUps.foldl grant wanted) queued c.counted := by
  rcases h with hall | ⟨hsize, hcovered, hbelow⟩
  · rw [hall]
    exact Or.inl (grants_of_unbounded _)
  · unfold Consumer.topUps Consumer.counted
    rw [hm]
    simp only [isUnlimited_of_lt w hsize, Bool.false_eq_true, if_false]
    by_cases htop : w.topUp ≤ c.received + 1
    · rw [if_pos htop, if_pos htop, List.foldl_cons, List.foldl_nil]
      by_cases hfits : wanted + w.topUp < unbounded
      · rw [Flow.grant_of_lt wanted w.topUp hfits]
        exact Or.inr ⟨hsize, by omega, by omega⟩
      · exact Or.inl (Flow.grant_of_le wanted w.topUp (by omega))
    · rw [if_neg htop, if_neg htop, List.foldl_nil]
      exact Or.inr ⟨hsize, by omega, by omega⟩

theorem items_of_queue {b : Bridge Bytes} {a : Bytes} {rest : List (Except NetError Bytes)}
    (hq : b.queue = .ok a :: rest) : b.items = a :: rest.filterMap Except.toOption := by
  unfold Bridge.items
  rw [hq]
  rfl

-- The rest of the queue is as the queue was.
theorem rest_of_queue {a : Bytes} {rest : List (Except NetError Bytes)} (errors : List NetError)
    (hq : i.bridge.queue = .ok a :: rest)
    (h : i.bridge.queue = i.bridge.items.map .ok ++ errors.map .error) :
    rest = (rest.filterMap Except.toOption).map .ok ++ errors.map .error := by
  rw [items_of_queue hq, hq, List.map_cons, List.cons_append, List.cons.injEq] at h
  exact h.2

theorem found_chunk (hu : Underway w e p total i c taken) (a : Bytes)
    (rest : List (Except NetError Bytes)) (hq : i.bridge.queue = .ok a :: rest) :
    Looked w e p total i c taken (.item a) { c with primed := true, received := c.counted }
      { i with
        bridge := { i.bridge with
          queue := rest, demand := (c.opening ++ c.topUps).foldl grant i.bridge.demand } } := by
  have hitems := items_of_queue hq
  have horder := hu.order
  have hopened := balanced_opening hu
  rw [hitems, List.flatten_cons, ← List.append_assoc] at horder
  rw [hitems, List.length_cons] at hopened
  refine .chunk a _ _ { hu with order := horder, queue := ?_, idle := nofun, balance := ?_ }
    rfl rfl rfl ?_ ?_
  · exact rest_of_queue _ hq hu.queue
  · intro _
    dsimp only
    rw [List.foldl_append]
    exact hopened.receive hu.mode
  · rw [hq, List.length_cons]
  · rw [hitems]
    rfl

-- A failure at the head of the queue is that of the body.
theorem found_failure (hu : Underway w e p total i c taken) (err : NetError)
    (rest : List (Except NetError Bytes)) (hq : i.bridge.queue = .error err :: rest) :
    gathered e total = .error err ∧ i.bridge.terminated = true := by
  have hqueue := hu.queue
  have hitems : i.bridge.items = [] := by
    cases hitems : i.bridge.items with
    | nil => rfl
    | cons a more =>
        rw [hitems, hq] at hqueue
        cases hqueue
  unfold Intake.trailing at hqueue
  rw [hitems, List.map_nil, List.nil_append, hq] at hqueue
  by_cases ht : i.bridge.terminated = true
  · rw [if_pos ht] at hqueue
    cases e with
    | complete => cases hqueue
    | broken e =>
        cases hqueue
        exact ⟨rfl, ht⟩
  · rw [if_neg ht] at hqueue
    cases hqueue

-- The end of the queue is that of a body which is complete.
theorem found_end (hu : Underway w e p total i c taken) (hq : i.bridge.queue = [])
    (ht : i.bridge.terminated = true) : gathered e total = .ok taken := by
  have hqueue := hu.queue
  have horder := hu.order
  unfold Intake.trailing at hqueue
  rw [hq, if_pos ht] at hqueue
  rcases List.append_eq_nil_iff.1 hqueue.symm with ⟨hitems, hnone⟩
  rw [List.map_eq_nil_iff.1 hitems, hu.frames ht] at horder
  cases e with
  | broken e => cases hnone
  | complete =>
      rw [← horder]
      exact congrArg Except.ok (by simp only [List.flatten_nil, bytesThrough, List.flatMap_nil,
        List.append_nil])

theorem underway_poll (hu : Underway w e p total i c taken) :
    Looked w e p total i c taken (i.bridge.poll c).1 (i.bridge.poll c).2.1
      { i with bridge := (i.bridge.poll c).2.2 } := by
  have hlook := i.bridge.poll_look c
  generalize (i.bridge.poll c).1 = r at hlook ⊢
  generalize (i.bridge.poll c).2.1 = c' at hlook ⊢
  generalize (i.bridge.poll c).2.2 = b' at hlook ⊢
  cases hlook with
  | finished hd =>
      rw [hu.going] at hd
      cases hd
  | outside _ hr =>
      rw [hu.reads] at hr
      cases hr
  | item a rest _ _ hq => exact found_chunk hu a rest hq
  | failure err rest _ _ hq =>
      rcases found_failure hu err rest hq with ⟨htotal, ht⟩
      exact .failed err _ _ htotal ht
  | exhausted _ _ hq ht => exact .ended _ _ (found_end hu hq ht) ht
  | nothingYet _ _ hq ht =>
      refine .nothing _ _
        { hu with
          idle := nofun
          balance := fun _ => balanced_opening hu } rfl rfl ⟨ht, ht⟩ ⟨hq, hq⟩ (fun hp => ?_)
      rw [← hp, opening_of_primed hp]
      exact ⟨rfl, rfl⟩

-- A reader that finds nothing leaves something wanted, so it never waits for a pump that
-- waits for it.
theorem not_rests_of_nothing (hw : 1 ≤ w.size) (hu : Underway w e p total i c taken)
    (hprimed : c.primed = true) (ht : i.bridge.terminated = false) (hq : i.bridge.queue = []) :
    ¬ i.Rests := by
  unfold Intake.Rests
  rw [ht]
  rintro (hterminated | hunwanted)
  · cases hterminated
  · have hitems : i.bridge.items = [] := by
      unfold Bridge.items
      rw [hq]
      rfl
    rcases hu.balance hprimed with hall | ⟨-, hcovered, hbelow⟩
    · rw [hall] at hunwanted
      cases hunwanted
    · have hbounds := topUp_bounds w hw
      rw [hitems, List.length_nil] at hcovered
      omega

end Body

end Http

end DemandNet
