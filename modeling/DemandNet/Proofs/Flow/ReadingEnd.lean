import DemandNet.Proofs.Flow.Conservation

/-!
# The Reading End

The reading end of a queue is there as long as it matters, while there are handles on the
bridge.

Two things are done without a look at what comes of them. An item that was paid for with
demand is put into the queue, and whether the queue took it is not asked again. And a
consumer that finds no reading end to take gets an empty stream instead of a complaint. Both
would lose items if the reading end could be dropped while somebody wants something or while
something is left to be read.

Of the consumers, only one that leaves after it has seen the end of the stream drops the
reading end, and the end is seen only after the producer has gone and every item was
received. So as far as they go the reading end waits for a consumer or is held by the one
that is attached while the producer is there, and whatever was accepted is in the queue.
Somebody who finds no reading end comes after another consumer was told of the end.

That the end was told, and not only that it could have been, is not part of what relates an
exchange to its history. It is added here: no operation makes a consumer know of the end, or
drops the reading end, unless it tells of the end or somebody knew of it before.

## Main definitions

* `Readable`: The reading end is in somebody's hands, or waits for the next consumer.

## Theorems

* `Sound.readable`, `Sound.reader_of_demand`: A producer has a reader, or a place for one.
* `Sound.enqueued`: An operation that reports success has queued its item.
* `telling_of_effect`, `told_after`: Nobody knows of the end before somebody was told.
* `latecomer_after_end`: An empty stream is for those who come after the end was told.
-/

namespace DemandNet

namespace Flow

namespace Exchange

variable {α : Type}

/-- The reading end waits for the next consumer, or the one that is attached holds it. -/
inductive Readable (x : Exchange α) : Prop
  | parked (hnone : ∀ i, x.consumer? i = none) (hr : x.bridge.readEnd = .parked)
  | held (i : Nat) (c : Consumer) (hc : x.consumer? i = some c) (hreads : c.reads = true)
      (hr : x.bridge.readEnd = .held)

/-! ### While the producer is there -/

theorem Sound.readable (x : Exchange α) (h : Sound x) (hp : x.producer ≠ .gone) :
    Readable x := by
  have hopen := (h.open_of_present x hp).1
  cases h.seating with
  | vacant hnone _ _ hheld =>
      refine .parked hnone ?_
      cases hr : x.bridge.readEnd with
      | parked => rfl
      | held => exact absurd hr hheld
      | dropped => exact absurd hr hopen
  | taken i c hc _ hr _ =>
      have hhere : x.consumer? i = some c := by rw [hc i, if_pos rfl]
      by_cases hreads : c.reads = true
      · rw [if_pos hreads] at hr
        exact .held i c hhere hreads hr
      · rw [if_neg hreads] at hr
        exact absurd hr hopen

-- Only a consumer that is attached wants something.
theorem Sound.reader_of_demand (x : Exchange α) (h : Sound x) (hp : x.producer ≠ .gone)
    (hd : 0 < x.bridge.demand) :
    ∃ i c, x.consumer? i = some c ∧ c.reads = true ∧ x.bridge.readEnd = .held := by
  cases h.readable x hp with
  | held i c hc hreads hr => exact ⟨i, c, hc, hreads, hr⟩
  | parked hnone _ =>
      cases h.seating with
      | vacant _ _ hzero _ => omega
      | taken i c hc _ _ _ =>
          have hhere := hnone i
          rw [hc i, if_pos rfl] at hhere
          cases hhere

theorem Sound.emit_outcome (x : Exchange α) (h : Sound x) (hp : x.producer ≠ .gone) (a : α) :
    (x.bridge.emit a).1 = .ok () ∨ (x.bridge.emit a).1 = .error .noDemand := by
  rcases h.open_of_present x hp with ⟨hopen, hrun⟩
  rw [Bridge.emit_of_open x.bridge a hopen hrun]
  cases takeOne? x.bridge.demand with
  | none => exact Or.inr rfl
  | some left => exact Or.inl rfl

/-! ### What was accepted -/

-- Of all the effects only one hands an item over, and it uses up demand.
theorem accepted_of_effect (x x' : Exchange α) (es : List (Event α)) (he : Effect x es x')
    (a : α) (ha : accepted es = [a]) :
    ∃ left, takeOne? x.bridge.demand = some left ∧ x'.bridge = x.bridge.accepting a left ∧
      x.producer ≠ .gone ∧ x'.producer ≠ .gone := by
  cases he with
  | quiet _ _ _ _ _ | attached _ _ | left _ _ _ | abandoned => cases ha
  | requested i n c _ =>
      rw [(silent_granted i _).accepted] at ha
      cases ha
  | looked i c _ p _ _ _ =>
      rw [(parts_of_look i _ p).1] at ha
      cases ha
  | concluded e _ =>
      rw [(parts_of_leaving e).1] at ha
      cases ha
  | accepted _ b left hp ht hb _ hp' =>
      have hsame : b = a := List.singleton_inj.mp ha
      subst hsame
      exact ⟨left, ht, hb, hp, hp'⟩

-- An operation that reports success has queued its item, for the consumer that wanted it.
theorem Sound.enqueued (x : Exchange α) (h : Sound x) (s : Step α) (a : α)
    (ho : x.offered? s = some a) (hdone : (x.step s).1 = .done) :
    0 < x.bridge.demand ∧ (x.step s).2.bridge.queue = x.bridge.queue ++ [.ok a] ∧
      (x.step s).2.bridge.readEnd = .held ∧ Readable (x.step s).2 := by
  have he := step_effect x h s
  have hs' := effect_sound x _ _ h he
  rw [events_of_offered x (x.step s).2 s a (Prod.ext hdone rfl) ho] at he
  rcases accepted_of_effect x _ _ he a rfl with ⟨left, ht, hb, hp, hp'⟩
  have hd : 0 < x.bridge.demand :=
    Nat.pos_of_ne_zero fun hzero => by rw [hzero, takeOne?_zero] at ht; cases ht
  rcases h.reader_of_demand x hp hd with ⟨_, _, _, _, hheld⟩
  refine ⟨hd, ?_, ?_, hs'.readable _ hp'⟩
  · rw [hb]
    rfl
  · rw [hb]
    exact hheld

/-! ### Who was told of the end -/

theorem telling_congr (x x' : Exchange α) (hb : x'.bridge.readEnd = x.bridge.readEnd)
    (hc : x'.consumers = x.consumers) (ht : Telling x') : Telling x := by
  rcases ht with hr | ⟨i, c, hi, hdone⟩
  · rw [hb] at hr
    exact Or.inl hr
  · rw [consumer?_congr x x' hc] at hi
    exact Or.inr ⟨i, c, hi, hdone⟩

theorem telling_set (x x' : Exchange α) (i : Nat) (v : Option Consumer)
    (hi : i < x.consumers.length) (hc : x'.consumers = x.consumers.set i v) (ht : Telling x') :
    x'.bridge.readEnd = .dropped ∨ (∃ c, v = some c ∧ c.done = true) ∨ Telling x := by
  rcases ht with hr | ⟨j, c, hj, hdone⟩
  · exact Or.inl hr
  · rw [consumer?_set x x' i v hi hc] at hj
    by_cases hji : j = i
    · rw [if_pos hji] at hj
      exact Or.inr (Or.inl ⟨c, hj, hdone⟩)
    · rw [if_neg hji] at hj
      exact Or.inr (Or.inr (Or.inr ⟨j, c, hj, hdone⟩))

-- What a consumer knows of the end it knew before or is told now, and it does not drop the
-- reading end without knowing.
theorem telling_of_effect (x x' : Exchange α) (es : List (Event α)) (hs : Sound x)
    (he : Effect x es x') (ht : Telling x') : Telling x ∨ terminals es ≠ [] := by
  cases he with
  | quiet _ hb hc _ _ => exact Or.inl (telling_congr x x' (congrArg Bridge.readEnd hb) hc ht)
  | accepted _ a left _ _ hb hc _ =>
      have hr : x'.bridge.readEnd = x.bridge.readEnd := by rw [hb]; rfl
      exact Or.inl (telling_congr x x' hr hc ht)
  | abandoned | concluded e _ => exact Or.inl ht
  | attached mode ha =>
      refine Or.inl ?_
      rcases ht with hr | ⟨i, c, hi, hdone⟩
      · refine Or.inl ?_
        simp only [Bridge.seated] at hr
        by_cases hparked : x.bridge.readEnd = .parked
        · rw [if_pos hparked] at hr
          cases hr
        · rw [if_neg hparked] at hr
          exact hr
      · -- The newcomer has seen nothing yet.
        rw [consumer?_append x _ _ rfl] at hi
        by_cases hlast : i = x.consumers.length
        · rw [if_pos hlast, Option.some.injEq] at hi
          rw [← hi] at hdone
          cases hdone
        · rw [if_neg hlast] at hi
          exact Or.inr ⟨i, c, hi, hdone⟩
  | requested i n c _ =>
      refine Or.inl ?_
      unfold Bridge.request at ht
      by_cases hdone : c.done = true
      · rw [if_pos hdone] at ht
        exact ht
      · rw [if_neg hdone] at ht
        exact ht
  | looked i c c' p b' hc hl =>
      rcases telling_set x _ i (some c') (lt_of_consumer? x i c hc) rfl ht with
        hr | ⟨d, hd, hdone⟩ | hbefore
      · refine Or.inl (Or.inl ?_)
        rw [← (Bridge.look_frame _ _ _ _ _ hl).1]
        exact hr
      · -- The consumer that looked knew of the end, or the look told it.
        rw [Option.some.injEq] at hd
        rw [← hd] at hdone
        rw [(parts_of_look i _ p).2.2.1]
        cases hl with
        | finished hknew => exact Or.inl (Or.inr ⟨i, c, hc, hknew⟩)
        | outside _ _ | failure _ _ _ _ _ | exhausted _ _ _ _ =>
            exact Or.inr (List.cons_ne_nil _ _)
        | item _ _ hrun _ _ | nothingYet hrun _ _ _ =>
            exact absurd (hrun.symm.trans hdone) Bool.false_ne_true
      · exact Or.inl hbefore
  | left i c hc =>
      refine Or.inl ?_
      rcases telling_set x _ i none (lt_of_consumer? x i c hc) rfl ht with
        hdrop | ⟨d, hd, _⟩ | hbefore
      · have hr := (hs.seating.acting x i c hc).2.2.1
        by_cases hdone : c.done = true
        · exact Or.inr ⟨i, c, hc, hdone⟩
        · by_cases hreads : c.reads = true
          · simp only [Bridge.detach, hreads, hdone, Bool.not_true, Bool.false_eq_true, if_false,
              reduceCtorEq] at hdrop
          · rw [if_neg hreads] at hr
            exact Or.inl hr
      · cases hd
      · exact hbefore

-- By induction on the run: its first operation is the one that is looked at.
theorem told_after (x : Exchange α) (hs : Sound x) (steps : List (Step α))
    (ht : Telling (x.after steps)) : Telling x ∨ terminals (x.history steps) ≠ [] := by
  induction steps generalizing x with
  | nil => exact Or.inl ht
  | cons s rest ih =>
      have he := step_effect x hs s
      rw [history, terminals_append]
      rcases ih (x.step s).2 (effect_sound x _ _ hs he) ht with hnext | hlater
      · rcases telling_of_effect x _ _ hs he hnext with hbefore | hnow
        · exact Or.inl hbefore
        · exact Or.inr fun hnil => hnow (List.append_eq_nil_iff.mp hnil).1
      · exact Or.inr fun hnil => hlater (List.append_eq_nil_iff.mp hnil).2

theorem not_telling_empty : ¬ Telling (empty : Exchange α) := by
  rintro (hr | ⟨i, c, hc, _⟩)
  · cases hr
  · cases hc

/-! ### Latecomers -/

-- A consumer that gets no reading end attached where it had been dropped.
theorem dropped_of_latecomer (x y : Exchange α) (hs : Sound x) (mode : Mode) (c : Consumer)
    (hy : x.step (.attach mode) = (.done, y))
    (hc : y.consumer? x.consumers.length = some c) (hreads : c.reads = false) :
    x.bridge.readEnd = .dropped := by
  have hat : x.bridge.attached = false := by
    refine Bool.eq_false_iff.mpr fun ha => ?_
    simp only [step, Bridge.attach_eq, ha, if_true, Prod.mk.injEq, reduceCtorEq, false_and] at hy
  have hyeq : y = { x with
      bridge := x.bridge.seated, consumers := x.consumers ++ [some (x.bridge.newcomer mode)] } := by
    simp only [step, Bridge.attach_eq, hat, Bool.false_eq_true, if_false, Prod.mk.injEq,
      true_and] at hy
    exact hy.symm
  rw [hyeq, consumer?_append x _ _ rfl, if_pos rfl, Option.some.injEq] at hc
  have hparked : x.bridge.readEnd ≠ .parked := by
    rw [← hc, Bridge.newcomer] at hreads
    exact ne_of_beq_false hreads
  cases hr : x.bridge.readEnd with
  | parked => exact absurd hr hparked
  | held => exact absurd hr (hs.seating.vacancy x hat).2.2
  | dropped => rfl

-- A consumer gets an empty stream only after the producer left, every item was received and
-- the end was told, the producer's error first.
theorem latecomer_after_end (steps : List (Step α)) (mode : Mode) (y : Exchange α) (c : Consumer)
    (hy : (empty.after steps).step (.attach mode) = (.done, y))
    (hc : y.consumer? (empty.after steps).consumers.length = some c) (hreads : c.reads = false) :
    Closed (empty.after steps) (empty.history steps) ∧
      yielded (empty.history steps) = accepted (empty.history steps) ∧
      terminals (empty.history steps) ≠ [] := by
  have hs : Sound (empty.after steps) := after_sound empty empty_sound steps
  have h : Conserved (empty.after steps) (empty.history steps) :=
    conserved_after empty [] empty_sound empty_conserved steps
  have htelling : Telling (empty.after steps) :=
    Or.inl (dropped_of_latecomer _ y hs mode c hy hc hreads)
  have hclosed := h.told htelling
  refine ⟨hclosed, ?_, (told_after empty empty_sound steps htelling).resolve_left
    not_telling_empty⟩
  have horder := h.order
  unfold Bridge.items at horder
  rw [hclosed.2.1, List.filterMap_nil, List.append_nil] at horder
  exact horder.symm

end Exchange

end Flow

end DemandNet
