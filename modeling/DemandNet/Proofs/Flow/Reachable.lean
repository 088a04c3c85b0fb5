import DemandNet.Proofs.Flow.Effect

/-!
# Reachable Exchanges

What every run of an exchange keeps.

Every effect keeps an exchange sound, so every run does, and all the exchanges that a
run leads to are sound. A consumer that has left does not come back, because numbers are
not given again; so one that is there at the end of a run was there all the time.

## Main definitions

* `Reachable`: A run leads to the exchange.

## Theorems

* `effect_sound`: Every effect keeps an exchange sound.
* `after_sound`: A run keeps an exchange sound.
* `gone_consumer_after`: A consumer that has left does not come back.
* `present_of_present_after`: A consumer that is there was there in between.
* `Reachable.sound`: Every reachable exchange is sound.
-/

namespace DemandNet

namespace Flow

variable {α : Type}

namespace Exchange

/-! ### Soundness is kept -/

-- Taking an item does not change who is attached.
theorem Sound.accepting (x x' : Exchange α) (h : Sound x) (a : α) (left : Nat)
    (hp : x.producer ≠ .gone) (ht : takeOne? x.bridge.demand = some left)
    (hb : x'.bridge = x.bridge.accepting a left) (hc : x'.consumers = x.consumers)
    (hp' : x'.producer ≠ .gone) : Sound x' := by
  rcases h.open_of_present x hp with ⟨hopen, hrun⟩
  have hle := h.demand_le
  have htake := takeOne?_eq_some _ _ ht
  have hord := h.queue_orderly
  rw [hrun] at hord
  refine ⟨?_, ?_, fun hg => absurd hg hp', ?_, ?_, ?_⟩
  · cases h.seating with
    | vacant _ _ hd _ =>
        -- Nobody is attached, so nothing is wanted, so nothing can be taken.
        rw [hd, takeOne?_zero] at ht
        cases ht
    | taken i c hcs ha hr hd =>
        refine Seating.taken i c (fun j => ?_) ?_ ?_ fun hdone => ?_
        · rw [consumer?_congr x x' hc, hcs]
        · rw [hb]
          exact ha
        · rw [hb]
          exact hr
        · rw [(hd hdone).1] at hrun
          cases hrun
  · rw [hb]
    exact ⟨fun htrue => absurd (hrun.symm.trans htrue) Bool.false_ne_true,
      fun hg => absurd hg hp'⟩
  · rw [hb]
    exact fun hdrop => absurd hdrop hopen
  · rw [hb]
    exact hord.snoc a _
  · rw [hb]
    change left ≤ unbounded
    omega

-- A look changes the one consumer that looks, and takes at most the head of the
-- queue.
theorem Sound.looking (x : Exchange α) (h : Sound x) (i : Nat) (c c' : Consumer) (p : Poll α)
    (b' : Bridge α) (hc : x.consumer? i = some c) (hl : Look x.bridge c p c' b') :
    Sound { x with bridge := b', consumers := x.consumers.set i (some c') } := by
  rcases h.seating.acting x i c hc with ⟨hcs, ha, hr, hd⟩
  rcases Bridge.look_frame _ _ _ _ _ hl with ⟨hreadEnd, hatt, hterm, hreads, _, hdemand⟩
  have hseat : ∀ j, Exchange.consumer?
      { x with bridge := b', consumers := x.consumers.set i (some c') } j
        = if j = i then some c' else none := by
    intro j
    rw [consumer?_set x _ i (some c') (lt_of_consumer? x i c hc) rfl, hcs]
    by_cases hj : j = i
    · rw [if_pos hj, if_pos hj]
    · rw [if_neg hj, if_neg hj, if_neg hj]
  have hqueue := Bridge.look_queue _ _ _ _ _ hl
  have hord : Orderly b'.queue b'.terminated := by
    rw [hterm]
    rcases hqueue with hq | ⟨r, hq⟩
    · rw [hq]
      exact h.queue_orderly
    · exact (hq ▸ h.queue_orderly : Orderly (r :: b'.queue) _).of_cons
  -- The end is seen only where nothing is queued and nothing will be.
  have hend : c'.done = true → b'.terminated = true ∧ b'.queue = [] := by
    rw [hterm]
    intro hdone
    cases hl with
    | finished hold => exact hd hold
    | outside _ hout =>
        rw [hout] at hr
        exact h.dropped hr
    | item _ _ hrun _ _ =>
        change c.done = true at hdone
        exact absurd (hrun.symm.trans hdone) Bool.false_ne_true
    | failure e rest _ _ hq =>
        have he := (hq ▸ h.queue_orderly : Orderly _ _).of_error
        exact ⟨he.2, he.1⟩
    | exhausted _ _ hq ht => exact ⟨ht, hq⟩
    | nothingYet hrun _ _ _ =>
        change c.done = true at hdone
        exact absurd (hrun.symm.trans hdone) Bool.false_ne_true
  refine ⟨Seating.taken i c' hseat ?_ ?_ hend, ?_, h.aside_nil, ?_, hord, ?_⟩
  · exact hatt.trans ha
  · rw [hreads]
    exact hreadEnd.trans hr
  · change b'.terminated = true ↔ _
    rw [hterm]
    exact h.gone_iff
  · intro hdrop
    change b'.readEnd = _ at hdrop
    rw [hreadEnd] at hdrop
    rcases h.dropped hdrop with ⟨ht, hq⟩
    rcases hqueue with hq' | ⟨r, hq'⟩
    · exact ⟨hterm.trans ht, hq'.trans hq⟩
    · cases hq.symm.trans hq'
  · change b'.demand ≤ _
    rw [hdemand]
    exact foldl_grant_le _ _ h.demand_le

-- A consumer that attaches finds an empty chair, so it is the only one.
theorem Sound.attaching (x : Exchange α) (h : Sound x) (mode : Mode)
    (ha : x.bridge.attached = false) :
    Sound { x with
      bridge := x.bridge.seated, consumers := x.consumers ++ [some (x.bridge.newcomer mode)] } := by
  rcases h.seating.vacancy x ha with ⟨hnone, _, hheld⟩
  refine ⟨Seating.taken x.consumers.length (x.bridge.newcomer mode) (fun j => ?_) rfl ?_
    (by rintro ⟨⟩), h.gone_iff, h.aside_nil, fun hdrop => h.dropped ?_, h.queue_orderly,
    h.demand_le⟩
  · rw [consumer?_append x _ (x.bridge.newcomer mode) rfl, hnone]
  · cases hr : x.bridge.readEnd with
    | parked => simp only [Bridge.seated, Bridge.newcomer, hr, beq_self_eq_true, if_true]
    | held => exact absurd hr hheld
    | dropped =>
        simp only [Bridge.seated, Bridge.newcomer, hr, reduceCtorEq, if_false, beq_iff_eq]
  · cases hr : x.bridge.readEnd with
    | parked => simp only [Bridge.seated, hr, if_true, reduceCtorEq] at hdrop
    | held => simp only [Bridge.seated, hr, reduceCtorEq, if_false] at hdrop
    | dropped => rfl

-- A consumer that leaves takes its demand with it and leaves the reading end behind,
-- unless it has seen the end.
theorem Sound.leaving (x : Exchange α) (h : Sound x) (i : Nat) (c : Consumer)
    (hc : x.consumer? i = some c) :
    Sound { x with bridge := x.bridge.detach c, consumers := x.consumers.set i none } := by
  rcases h.seating.acting x i c hc with ⟨hcs, _, hr, hd⟩
  have hnone : ∀ j, Exchange.consumer?
      { x with bridge := x.bridge.detach c, consumers := x.consumers.set i none } j = none := by
    intro j
    rw [consumer?_set x _ i none (lt_of_consumer? x i c hc) rfl, hcs]
    by_cases hj : j = i
    · rw [if_pos hj]
    · rw [if_neg hj, if_neg hj]
  have hgone := h.gone_iff
  have hdropped := h.dropped
  have hord := h.queue_orderly
  rcases c with ⟨mode, reads, primed, received, done⟩
  cases reads with
  | false =>
      refine ⟨Seating.vacant hnone rfl rfl ?_, hgone, h.aside_nil, hdropped, hord, Nat.zero_le _⟩
      change x.bridge.readEnd ≠ _
      rw [hr]
      rintro ⟨⟩
  | true =>
      cases done with
      | false =>
          exact ⟨Seating.vacant hnone rfl rfl (by rintro ⟨⟩), hgone, h.aside_nil,
            by rintro ⟨⟩, hord, Nat.zero_le _⟩
      | true =>
          exact ⟨Seating.vacant hnone rfl rfl (by rintro ⟨⟩), hgone, h.aside_nil,
            fun _ => ⟨(hd rfl).1, rfl⟩, orderly_nil _, Nat.zero_le _⟩

theorem effect_sound (x x' : Exchange α) (es : List (Event α)) (h : Sound x)
    (he : Effect x es x') : Sound x' := by
  cases he with
  | quiet _ hb hc hp ha =>
      refine ⟨?_, ?_, fun hg => ?_, ?_, ?_, ?_⟩
      · cases h.seating with
        | vacant hv hat hd hr =>
            refine Seating.vacant (fun j => ?_) (hb ▸ hat) (hb ▸ hd) (hb ▸ hr)
            rw [consumer?_congr x x' hc, hv]
        | taken i c hv hat hr hd =>
            refine Seating.taken i c (fun j => ?_) (hb ▸ hat) (hb ▸ hr) (hb ▸ hd)
            rw [consumer?_congr x x' hc, hv]
      · rw [hb, hp]
        exact h.gone_iff
      · rw [ha (hp.mp hg)]
        exact h.aside_nil (hp.mp hg)
      · rw [hb]
        exact h.dropped
      · rw [hb]
        exact h.queue_orderly
      · rw [hb]
        exact h.demand_le
  | attached mode ha => exact h.attaching x mode ha
  | requested i n c hc =>
      rcases h.seating.acting x i c hc with ⟨hcs, hat, hr, hd⟩
      unfold Bridge.request
      by_cases hdone : c.done = true
      · rw [if_pos hdone]
        exact h
      · rw [if_neg hdone]
        exact ⟨Seating.taken i c hcs hat hr hd, h.gone_iff, h.aside_nil, h.dropped,
          h.queue_orderly, grant_le _ _⟩
  | looked i c c' p b' hc hl => exact h.looking x i c c' p b' hc hl
  | left i c hc => exact h.leaving x i c hc
  | abandoned =>
      refine ⟨?_, h.gone_iff, h.aside_nil, h.dropped, h.queue_orderly, h.demand_le⟩
      cases h.seating with
      | vacant hv hat hd hr => exact Seating.vacant hv hat hd hr
      | taken i c hv hat hr hd => exact Seating.taken i c hv hat hr hd
  | accepted _ a left hp ht hb hc hp' => exact h.accepting x x' a left hp ht hb hc hp'
  | concluded e hp =>
      rcases h.open_of_present x hp with ⟨hopen, hrun⟩
      have hord := h.queue_orderly
      rw [hrun] at hord
      refine ⟨?_, ⟨fun _ => rfl, fun _ => rfl⟩, fun _ => rfl, fun hdrop => absurd hdrop hopen,
        hord.conclude e, h.demand_le⟩
      cases h.seating with
      | vacant hv hat hd hr => exact Seating.vacant hv hat hd hr
      | taken i c hv hat hr hd =>
          refine Seating.taken i c hv hat hr fun hdone => ?_
          rw [(hd hdone).1] at hrun
          cases hrun

/-! ### Runs -/

theorem after_sound (x : Exchange α) (h : Sound x) (steps : List (Step α)) :
    Sound (x.after steps) := by
  induction steps generalizing x with
  | nil => exact h
  | cons s rest ih => exact ih (x.step s).2 (effect_sound x _ _ h (step_effect x h s))

-- Numbers of consumers are not given again.
theorem length_le_of_effect (x x' : Exchange α) (es : List (Event α)) (he : Effect x es x') :
    x.consumers.length ≤ x'.consumers.length := by
  cases he with
  | quiet _ _ hc _ _ => exact Nat.le_of_eq (congrArg List.length hc).symm
  | attached mode _ =>
      rw [List.length_append]
      exact Nat.le_add_right _ _
  | requested _ _ _ _ => exact Nat.le_refl _
  | looked _ _ _ _ _ _ _ => exact Nat.le_of_eq List.length_set.symm
  | left _ _ _ => exact Nat.le_of_eq List.length_set.symm
  | abandoned => exact Nat.le_refl _
  | accepted _ _ _ _ _ _ hc _ => exact Nat.le_of_eq (congrArg List.length hc).symm
  | concluded _ _ => exact Nat.le_refl _

-- A consumer that has left does not come back.
theorem gone_consumer_of_effect (x x' : Exchange α) (es : List (Event α)) (he : Effect x es x')
    (i : Nat) (hi : i < x.consumers.length) (hgone : x.consumer? i = none) :
    x'.consumer? i = none := by
  cases he with
  | quiet _ _ hc _ _ =>
      rw [consumer?_congr x x' hc]
      exact hgone
  | attached mode _ =>
      rw [consumer?_append x _ _ rfl, if_neg (by omega)]
      exact hgone
  | requested j n c _ => exact hgone
  | looked j c c' p b' hc _ =>
      have hne : i ≠ j := fun heq => by rw [heq, hc] at hgone; cases hgone
      rw [consumer?_set x _ j (some c') (lt_of_consumer? x j c hc) rfl, if_neg hne]
      exact hgone
  | left j c hc =>
      have hne : i ≠ j := fun heq => by rw [heq, hc] at hgone; cases hgone
      rw [consumer?_set x _ j none (lt_of_consumer? x j c hc) rfl, if_neg hne]
      exact hgone
  | abandoned => exact hgone
  | accepted _ _ _ _ _ _ hc _ =>
      rw [consumer?_congr x x' hc]
      exact hgone
  | concluded _ _ => exact hgone

theorem gone_consumer_after (x : Exchange α) (h : Sound x) (i : Nat)
    (hi : i < x.consumers.length) (hgone : x.consumer? i = none) (steps : List (Step α)) :
    (x.after steps).consumer? i = none := by
  induction steps generalizing x with
  | nil => exact hgone
  | cons s rest ih =>
      have he := step_effect x h s
      exact ih (x.step s).2 (effect_sound x _ _ h he)
        (Nat.lt_of_lt_of_le hi (length_le_of_effect x _ _ he))
        (gone_consumer_of_effect x _ _ he i hi hgone)

-- A consumer that is there after a run was there all the time, if it was there at the
-- start.
theorem present_of_present_after (x : Exchange α) (h : Sound x) (i : Nat)
    (hi : x.consumer? i ≠ none) (s : Step α) (rest : List (Step α))
    (hend : (x.after (s :: rest)).consumer? i ≠ none) : (x.step s).2.consumer? i ≠ none := by
  intro hgone
  rcases Option.ne_none_iff_exists'.mp hi with ⟨c, hc⟩
  have he := step_effect x h s
  have hlt := Nat.lt_of_lt_of_le (lt_of_consumer? x i c hc) (length_le_of_effect x _ _ he)
  exact hend (gone_consumer_after (x.step s).2 (effect_sound x _ _ h he) i hlt hgone rest)

/-! ### Reachable exchanges -/

/-- A run leads to the exchange from one to which nobody was attached. -/
def Reachable (x : Exchange α) : Prop :=
  ∃ steps, x = empty.after steps

theorem Reachable.sound (x : Exchange α) (h : x.Reachable) : Sound x := by
  rcases h with ⟨steps, hx⟩
  rw [hx]
  exact after_sound empty empty_sound steps

end Exchange

end Flow

end DemandNet
