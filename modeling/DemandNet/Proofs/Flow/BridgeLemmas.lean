import DemandNet.Flow.Bridge
import Mathlib.Algebra.Order.Ring.Nat
import Mathlib.Tactic.Common

/-!
# Operations on a Bridge

What each operation of a bridge does, said once, so that no later argument opens the
operations again.

A look at a bridge has six outcomes and does up to three things: it asks for the window
the first time, takes the head of the queue, and may top the window up. `Look` lists
the outcomes with the state after each of them. Demand is changed in one way only, by
adding grants one after the other, so `Look` gives it as a fold over the grants that the
look made.

The producer's side is stated for a bridge whose producer is still there. Then the
queue has a reader or will have one, and an item that demand was taken for is always
queued.

## Main definitions

* `Bridge.items`: The items in the queue, without the error at its end.
* `Consumer.opening`: What a consumer asks for when it looks the first time.
* `Consumer.topUps`: What it asks for because it received an item.
* `Consumer.counted`: Its count of received items after one more.
* `Bridge.lookGrants`: What a look asks for.
* `Look`: The outcomes of a look.
* `Bridge.accepting`, `Bridge.concluded`: The bridge after an item was queued, and
  after the producer left.

## Theorems

* `grant_of_lt`: A grant below the limit is added.
* `grant_of_le`: A grant that reaches the limit gives unbounded demand.
* `grant_le`: Demand never passes the limit.
* `foldl_grant_of_lt`: Grants below the limit are added up.
* `foldl_grant_of_le`: Grants that reach the limit give unbounded demand.
* `takeOne?_eq_none_iff`, `takeOne?_eq_some`: What becomes of demand when an item is
  taken.
* `poll_look`: Every look has one of the outcomes of `Look`.
* `emit_of_open`, `tryEmit_of_open`, `deliver_of_open`, `finishWith_of_open`: The
  producer's operations on a bridge with a reader.
-/

namespace DemandNet

namespace Flow

/-! ### Demand -/

theorem grant_of_lt (d n : Nat) (h : d + n < unbounded) : grant d n = d + n := by
  unfold grant
  rw [if_neg (by omega), Nat.min_eq_left (by omega)]

theorem grant_of_le (d n : Nat) (h : unbounded ≤ d + n) : grant d n = unbounded := by
  unfold grant
  by_cases hd : d = unbounded
  · rw [if_pos hd]
  · rw [if_neg hd, Nat.min_eq_right h]

theorem grant_le (d n : Nat) : grant d n ≤ unbounded := by
  by_cases h : d + n < unbounded
  · rw [grant_of_lt d n h]
    omega
  · exact Nat.le_of_eq (grant_of_le d n (by omega))

theorem foldl_grant_of_lt (gs : List Nat) :
    ∀ d : Nat, d + gs.sum < unbounded → gs.foldl grant d = d + gs.sum := by
  induction gs with
  | nil => intro d _; simp only [List.foldl_nil, List.sum_nil, Nat.add_zero]
  | cons g rest ih =>
      intro d h
      rw [List.sum_cons] at h ⊢
      rw [List.foldl_cons, grant_of_lt d g (by omega), ih (d + g) (by omega)]
      omega

theorem foldl_grant_of_le (gs : List Nat) :
    ∀ d : Nat, d ≤ unbounded → unbounded ≤ d + gs.sum → gs.foldl grant d = unbounded := by
  induction gs with
  | nil =>
      intro d hd h
      rw [List.sum_nil] at h
      rw [List.foldl_nil]
      omega
  | cons g rest ih =>
      intro d _ h
      rw [List.sum_cons] at h
      rw [List.foldl_cons]
      refine ih (grant d g) (grant_le d g) ?_
      by_cases hg : d + g < unbounded
      · rw [grant_of_lt d g hg]
        omega
      · rw [grant_of_le d g (by omega)]
        omega

theorem foldl_grant_le (gs : List Nat) (d : Nat) (h : d ≤ unbounded) :
    gs.foldl grant d ≤ unbounded := by
  by_cases hs : d + gs.sum < unbounded
  · rw [foldl_grant_of_lt gs d hs]
    omega
  · exact Nat.le_of_eq (foldl_grant_of_le gs d h (by omega))

theorem takeOne?_zero : takeOne? 0 = none := by
  unfold takeOne?
  rw [if_neg (by unfold unbounded; omega), if_pos rfl]

-- Demand is refused only where there is none.
theorem takeOne?_eq_none_iff (d : Nat) : takeOne? d = none ↔ d = 0 := by
  unfold takeOne?
  by_cases hu : d = unbounded
  · rw [if_pos hu, hu]
    simp only [reduceCtorEq, unbounded]
  · rw [if_neg hu]
    by_cases h0 : d = 0
    · rw [if_pos h0]
      simp only [h0]
    · rw [if_neg h0]
      simp only [reduceCtorEq, h0]

-- Bounded demand goes down by one; unbounded demand stays.
theorem takeOne?_eq_some (d left : Nat) (h : takeOne? d = some left) :
    (d = unbounded ∧ left = unbounded) ∨ (0 < d ∧ d ≠ unbounded ∧ left + 1 = d) := by
  unfold takeOne? at h
  by_cases hu : d = unbounded
  · rw [if_pos hu, Option.some.injEq] at h
    exact Or.inl ⟨hu, h.symm⟩
  · rw [if_neg hu] at h
    by_cases h0 : d = 0
    · rw [if_pos h0] at h
      cases h
    · rw [if_neg h0, Option.some.injEq] at h
      exact Or.inr ⟨by omega, hu, by omega⟩

/-! ### The queue -/

/-- Items and then perhaps an error, which is there only if the producer is gone. -/
def Orderly {α : Type} (q : List (Except NetError α)) (ended : Bool) : Prop :=
  ∃ (as : List α) (e : Option NetError),
    q = as.map .ok ++ e.toList.map .error ∧ (e ≠ none → ended = true)

theorem filterMap_toOption {α : Type} (as : List α) (es : List NetError) :
    (as.map Except.ok ++ es.map Except.error).filterMap Except.toOption = as := by
  induction as with
  | nil =>
      induction es with
      | nil => rfl
      | cons e rest ih => exact ih
  | cons a rest ih => exact congrArg (a :: ·) ih

theorem Orderly.of_cons {α : Type} {r : Except NetError α} {rest : List (Except NetError α)}
    {ended : Bool} (h : Orderly (r :: rest) ended) : Orderly rest ended := by
  rcases h with ⟨as, e, hq, he⟩
  cases as with
  | cons a more =>
      rw [List.map_cons, List.cons_append, List.cons.injEq] at hq
      exact ⟨more, e, hq.2, he⟩
  | nil =>
      cases e with
      | none => cases hq
      | some e =>
          rw [List.map_nil, List.nil_append, Option.toList_some, List.map_cons, List.map_nil,
            List.cons.injEq] at hq
          exact ⟨[], none, hq.2, fun hne => absurd rfl hne⟩

-- An error at the head is all there is.
theorem Orderly.of_error {α : Type} {e : NetError} {rest : List (Except NetError α)}
    {ended : Bool} (h : Orderly (.error e :: rest) ended) : rest = [] ∧ ended = true := by
  rcases h with ⟨as, f, hq, hf⟩
  cases as with
  | cons a more =>
      rw [List.map_cons, List.cons_append, List.cons.injEq] at hq
      exact absurd hq.1 (by rintro ⟨⟩)
  | nil =>
      cases f with
      | none => cases hq
      | some f =>
          rw [List.map_nil, List.nil_append, Option.toList_some, List.map_cons, List.map_nil,
            List.cons.injEq] at hq
          exact ⟨hq.2, hf (by rintro ⟨⟩)⟩

-- While the producer is there the queue holds items only.
theorem Orderly.of_running {α : Type} {q : List (Except NetError α)} (h : Orderly q false) :
    q = (q.filterMap Except.toOption).map .ok := by
  rcases h with ⟨as, e, hq, he⟩
  cases e with
  | some e => exact absurd (he (by rintro ⟨⟩)) Bool.false_ne_true
  | none =>
      rw [hq, filterMap_toOption, Option.toList_none, List.map_nil, List.append_nil]

theorem Orderly.snoc {α : Type} {q : List (Except NetError α)} (h : Orderly q false) (a : α)
    (ended : Bool) : Orderly (q ++ [.ok a]) ended := by
  refine ⟨q.filterMap Except.toOption ++ [a], none, ?_, fun hne => absurd rfl hne⟩
  rw [List.map_append, ← h.of_running, Option.toList_none, List.map_nil, List.append_nil]
  rfl

theorem Orderly.conclude {α : Type} {q : List (Except NetError α)} (h : Orderly q false)
    (e : Option NetError) : Orderly (q ++ e.toList.map .error) true :=
  ⟨q.filterMap Except.toOption, e, by rw [← h.of_running], fun _ => rfl⟩

theorem orderly_nil {α : Type} (ended : Bool) :
    Orderly ([] : List (Except NetError α)) ended :=
  ⟨[], none, rfl, fun hne => absurd rfl hne⟩

/-! ### Looking -/

/-- What a consumer asks for when it looks the first time. -/
def Consumer.opening (c : Consumer) : List Nat :=
  if c.primed then []
  else
    match c.mode with
    | .window w => [w.size]
    | .manual => []

/-- What a consumer asks for because it received one more item. -/
def Consumer.topUps (c : Consumer) : List Nat :=
  match c.mode with
  | .manual => []
  | .window w =>
      if w.isUnlimited then []
      else if w.topUp ≤ c.received + 1 then [w.topUp]
      else []

/-- The count of received items after one more. -/
def Consumer.counted (c : Consumer) : Nat :=
  match c.mode with
  | .manual => c.received
  | .window w =>
      if w.isUnlimited then c.received
      else if w.topUp ≤ c.received + 1 then 0
      else c.received + 1

namespace Bridge

variable {α : Type}

/-- The items that were emitted and not yet received. -/
def items (b : Bridge α) : List α := b.queue.filterMap Except.toOption

/-- What a look asks for. -/
def lookGrants (b : Bridge α) (c : Consumer) : List Nat :=
  if c.done then []
  else
    match c.reads, b.queue with
    | true, .ok _ :: _ => c.opening ++ c.topUps
    | _, _ => c.opening

theorem prime_eq (b : Bridge α) (c : Consumer) :
    b.prime c = ({ c with primed := true }, { b with demand := c.opening.foldl grant b.demand })
      := by
  unfold prime Consumer.opening
  by_cases hp : c.primed = true
  · rw [if_pos hp, if_pos hp, List.foldl_nil, ← hp]
  · rw [if_neg hp, if_neg hp]
    cases c.mode with
    | window w => simp only [List.foldl_cons, List.foldl_nil]
    | manual => simp only [List.foldl_nil]

theorem countReceived_eq (b : Bridge α) (c : Consumer) :
    b.countReceived c
      = ({ c with received := c.counted }, { b with demand := c.topUps.foldl grant b.demand })
      := by
  unfold countReceived Consumer.counted Consumer.topUps
  rcases c with ⟨mode, reads, primed, received, done⟩
  cases mode with
  | manual => simp only [List.foldl_nil]
  | window w =>
      by_cases hu : w.isUnlimited = true
      · simp only [hu, if_true, List.foldl_nil]
      · by_cases ht : w.topUp ≤ received + 1
        · simp only [hu, if_false, ht, if_true, List.foldl_cons, List.foldl_nil,
            Bool.false_eq_true]
        · simp only [hu, if_false, ht, List.foldl_nil, Bool.false_eq_true]

end Bridge

/-- The outcome ends the stream for the consumer that sees it. -/
def Poll.isTerminal {α : Type} : Poll α → Bool
  | .ended => true
  | .failed _ => true
  | .pending => false
  | .item _ => false

/-- The item that an outcome brings. -/
def Poll.item? {α : Type} : Poll α → Option α
  | .item a => some a
  | .pending => none
  | .ended => none
  | .failed _ => none

theorem Poll.item?_of_terminal {α : Type} (p : Poll α) (h : p.isTerminal = true) :
    p.item? = none := by
  cases p with
  | item a => exact absurd h Bool.false_ne_true
  | pending | ended | failed _ => rfl

/-- The outcomes of a look at a bridge, with the consumer and the bridge after it. -/
inductive Look {α : Type} (b : Bridge α) (c : Consumer) :
    Poll α → Consumer → Bridge α → Prop
  /-- It has seen the end before. -/
  | finished (hd : c.done = true) : Look b c .ended c b
  /-- It reads the empty stream of a latecomer. -/
  | outside (hd : c.done = false) (hr : c.reads = false) :
      Look b c .ended { c with primed := true, done := true }
        { b with demand := c.opening.foldl grant b.demand }
  | item (a : α) (rest : List (Except NetError α)) (hd : c.done = false)
      (hr : c.reads = true) (hq : b.queue = .ok a :: rest) :
      Look b c (.item a) { c with primed := true, received := c.counted }
        { b with queue := rest, demand := (c.opening ++ c.topUps).foldl grant b.demand }
  | failure (e : NetError) (rest : List (Except NetError α)) (hd : c.done = false)
      (hr : c.reads = true) (hq : b.queue = .error e :: rest) :
      Look b c (.failed e) { c with primed := true, done := true }
        { b with queue := rest, demand := c.opening.foldl grant b.demand }
  | exhausted (hd : c.done = false) (hr : c.reads = true) (hq : b.queue = [])
      (ht : b.terminated = true) :
      Look b c .ended { c with primed := true, done := true }
        { b with demand := c.opening.foldl grant b.demand }
  | nothingYet (hd : c.done = false) (hr : c.reads = true) (hq : b.queue = [])
      (ht : b.terminated = false) :
      Look b c .pending { c with primed := true }
        { b with demand := c.opening.foldl grant b.demand }

namespace Bridge

variable {α : Type}

theorem poll_look (b : Bridge α) (c : Consumer) :
    Look b c (b.poll c).1 (b.poll c).2.1 (b.poll c).2.2 := by
  rcases c with ⟨mode, reads, primed, received, done⟩
  rcases b with ⟨queue, readEnd, demand, attached, terminated, abandoned⟩
  unfold poll
  cases done with
  | true => exact Look.finished rfl
  | false =>
      simp only [Bool.false_eq_true, if_false, prime_eq]
      cases reads with
      | false => exact Look.outside rfl rfl
      | true =>
          simp only [Bool.not_true, Bool.false_eq_true, if_false]
          cases queue with
          | nil =>
              cases terminated with
              | true => exact Look.exhausted rfl rfl rfl rfl
              | false => exact Look.nothingYet rfl rfl rfl rfl
          | cons r rest =>
              cases r with
              | ok a =>
                  simp only [countReceived_eq]
                  have h := Look.item (b := ⟨.ok a :: rest, readEnd, demand, attached, terminated,
                    abandoned⟩) (c := ⟨mode, true, primed, received, false⟩) a rest rfl rfl rfl
                  rw [List.foldl_append] at h
                  exact h
              | error e => exact Look.failure e rest rfl rfl rfl

-- What a look leaves alone, and what it does to demand.
theorem look_frame (b b' : Bridge α) (c c' : Consumer) (p : Poll α) (h : Look b c p c' b') :
    b'.readEnd = b.readEnd ∧ b'.attached = b.attached ∧ b'.terminated = b.terminated ∧
      c'.reads = c.reads ∧ c'.mode = c.mode ∧
      b'.demand = (b.lookGrants c).foldl grant b.demand := by
  unfold lookGrants
  cases h with
  | finished hd => simp only [hd, if_true, List.foldl_nil, and_self]
  | outside hd hr => simp only [hd, hr, if_false, Bool.false_eq_true, and_self]
  | item a rest hd hr hq => simp only [hd, hr, hq, if_false, Bool.false_eq_true, and_self]
  | failure e rest hd hr hq => simp only [hd, hr, hq, if_false, Bool.false_eq_true, and_self]
  | exhausted hd hr hq ht => simp only [hd, hr, hq, if_false, Bool.false_eq_true, and_self]
  | nothingYet hd hr hq ht => simp only [hd, hr, hq, if_false, Bool.false_eq_true, and_self]

-- A look takes at most the head of the queue.
theorem look_queue (b b' : Bridge α) (c c' : Consumer) (p : Poll α) (h : Look b c p c' b') :
    b'.queue = b.queue ∨ ∃ r, b.queue = r :: b'.queue := by
  cases h with
  | item a rest _ _ hq => exact Or.inr ⟨_, hq⟩
  | failure e rest _ _ hq => exact Or.inr ⟨_, hq⟩
  | finished _ | outside _ _ | exhausted _ _ _ _ | nothingYet _ _ _ _ => exact Or.inl rfl

-- The item that a look brings is the first of those in the queue.
theorem look_items (b b' : Bridge α) (c c' : Consumer) (p : Poll α) (h : Look b c p c' b') :
    b.items = p.item?.toList ++ b'.items := by
  unfold items
  cases h with
  | item a rest _ _ hq => rw [hq]; rfl
  | failure e rest _ _ hq => rw [hq]; rfl
  | finished _ | outside _ _ | exhausted _ _ _ _ | nothingYet _ _ _ _ => rfl

theorem lookGrants_of_item (b : Bridge α) (c : Consumer) (a : α)
    (rest : List (Except NetError α)) (hd : c.done = false) (hr : c.reads = true)
    (hq : b.queue = .ok a :: rest) : b.lookGrants c = c.opening ++ c.topUps := by
  unfold lookGrants
  rw [hd, hr, hq]
  rfl

-- A look that brings no item asks for the window at most.
theorem lookGrants_of_no_item (b b' : Bridge α) (c c' : Consumer) (p : Poll α)
    (h : Look b c p c' b') (hd : c.done = false) (hp : p.item? = none) :
    b.lookGrants c = c.opening := by
  unfold lookGrants
  rw [hd]
  cases h with
  | finished hdone => exact absurd (hd.symm.trans hdone) Bool.false_ne_true
  | item a rest _ _ _ => cases hp
  | outside _ hr => rw [hr]; rfl
  | failure e rest _ hr hq => rw [hr, hq]; rfl
  | exhausted _ hr hq _ => rw [hr, hq]; rfl
  | nothingYet _ hr hq _ => rw [hr, hq]; rfl

-- Whoever sees the end has seen it from then on, and sees nothing else.
theorem look_done (b b' : Bridge α) (c c' : Consumer) (p : Poll α) (h : Look b c p c' b') :
    (p.isTerminal = true → c'.done = true) ∧ (c.done = true → c'.done = true ∧ p = .ended) := by
  cases h with
  | finished hd => exact ⟨fun _ => hd, fun _ => ⟨hd, rfl⟩⟩
  | outside hd _ | failure _ _ hd _ _ | exhausted hd _ _ _ =>
      refine ⟨fun _ => rfl, fun hdone => ?_⟩
      rw [hd] at hdone
      exact absurd hdone Bool.false_ne_true
  | item _ _ hd _ _ | nothingYet hd _ _ _ =>
      refine ⟨fun ht => absurd ht Bool.false_ne_true, fun hdone => ?_⟩
      rw [hd] at hdone
      exact absurd hdone Bool.false_ne_true

/-! ### Emitting -/

/-- The bridge after an item was queued, with the demand that was left. -/
def accepting (b : Bridge α) (a : α) (left : Nat) : Bridge α :=
  { b with demand := left, queue := b.queue ++ [.ok a] }

theorem items_accepting (b : Bridge α) (a : α) (left : Nat) :
    (b.accepting a left).items = b.items ++ [a] := by
  unfold items accepting
  rw [List.filterMap_append]
  rfl

theorem push_of_open (b : Bridge α) (s : Except NetError α) (hr : b.readEnd ≠ .dropped) :
    b.push s = (true, { b with queue := b.queue ++ [s] }) := by
  unfold push
  rw [if_neg hr]

-- An emission needs demand and nothing else while the producer and a reader are
-- there.
theorem emit_of_open (b : Bridge α) (a : α) (hr : b.readEnd ≠ .dropped)
    (ht : b.terminated = false) :
    b.emit a = match takeOne? b.demand with
      | none => (.error .noDemand, b)
      | some left => (.ok (), b.accepting a left) := by
  unfold emit
  rw [if_neg (by rw [ht]; exact Bool.false_ne_true)]
  cases htake : takeOne? b.demand with
  | none => rfl
  | some left =>
      simp only []
      rw [push_of_open { b with demand := left } _ hr]
      rfl

theorem tryEmit_of_open (b : Bridge α) (a : α) (hr : b.readEnd ≠ .dropped) :
    b.tryEmit a = match takeOne? b.demand with
      | none => (false, b)
      | some left => (true, b.accepting a left) := by
  unfold tryEmit
  cases htake : takeOne? b.demand with
  | none => rfl
  | some left =>
      simp only []
      rw [push_of_open { b with demand := left } _ hr]
      rfl

-- A delivery is an emission that waits for demand, unless no consumer will come any
-- more.
theorem deliver_of_open (b : Bridge α) (a : α) (hr : b.readEnd ≠ .dropped)
    (ht : b.terminated = false) :
    b.deliver a =
      if b.abandoned then (some (.error (.notRunning "bridge closed")), b)
      else match takeOne? b.demand with
        | none => (none, b)
        | some left => (some (.ok ()), b.accepting a left) := by
  unfold deliver readiness? isClosed
  rw [ht, Bool.false_or]
  cases hab : b.abandoned with
  | true => rfl
  | false =>
      simp only [Bool.false_eq_true, if_false]
      by_cases hd : b.demand = 0
      · rw [if_pos hd, hd, takeOne?_zero]
      · rw [if_neg hd]
        simp only []
        rw [tryEmit_of_open b a hr]
        cases htake : takeOne? b.demand with
        | none => exact absurd ((takeOne?_eq_none_iff _).mp htake) hd
        | some left => rfl

/-- The bridge after its producer left, perhaps with an error. -/
def concluded (b : Bridge α) (e : Option NetError) : Bridge α :=
  { b with queue := b.queue ++ e.toList.map .error, terminated := true }

theorem items_concluded (b : Bridge α) (e : Option NetError) :
    (b.concluded e).items = b.items := by
  unfold items concluded
  rw [List.filterMap_append]
  cases e <;> exact List.append_nil _

theorem finish_eq (b : Bridge α) : b.finish = b.concluded none := by
  unfold finish concluded
  rw [Option.toList_none, List.map_nil, List.append_nil]

theorem finishWith_of_open (b : Bridge α) (e : NetError) (hr : b.readEnd ≠ .dropped) :
    b.finishWith e = b.concluded (some e) := by
  unfold finishWith
  rw [push_of_open _ _ hr]
  rfl

end Bridge

end Flow

end DemandNet
