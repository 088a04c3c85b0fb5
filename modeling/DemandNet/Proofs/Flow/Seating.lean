import DemandNet.Flow.Exchange
import DemandNet.Proofs.Flow.BridgeLemmas

/-!
# Who Is Attached

What holds of an exchange between two operations.

Some operations behave differently on exchanges that no run leads to. A bridge whose
reader is gone for good would take an item and lose it, and it is only because the
producer left first that this cannot happen. `Sound` is what every run keeps, and its
heart is `Seating`: at most one consumer is there, the bridge knows whether one is, and
without one nothing is wanted.

## Main definitions

* `Bridge.newcomer`, `Bridge.seated`: The consumer that attaches, and the bridge after it.
* `Seating`: Who is attached, and what that means for the bridge.
* `Sound`: What holds of an exchange between two operations.

## Theorems

* `consumer?_append`, `consumer?_set`, `consumer?_congr`: The consumers by number.
* `Seating.acting`, `Seating.sole`: Only the consumer that is there can act.
* `Seating.vacancy`: The bridge while nobody is attached.
* `empty_sound`: A new exchange is sound.
-/

namespace DemandNet

namespace Flow

variable {α : Type}

namespace Bridge

/-- The consumer that attaches to a bridge. -/
def newcomer (b : Bridge α) (mode : Mode) : Consumer :=
  { mode, reads := b.readEnd == .parked, primed := false, received := 0, done := false }

/-- A bridge to which a consumer has just attached. -/
def seated (b : Bridge α) : Bridge α :=
  { b with attached := true, readEnd := if b.readEnd = .parked then .held else b.readEnd }

theorem attach_eq (b : Bridge α) (mode : Mode) :
    b.attach mode = if b.attached then .error .alreadySubscribed
      else .ok (b.newcomer mode, b.seated) := by
  rcases b with ⟨queue, readEnd, demand, attached, terminated, abandoned⟩
  cases attached <;> cases readEnd <;> rfl

end Bridge

namespace Exchange

/-! ### Consumers by number -/

theorem lt_of_consumer? (x : Exchange α) (i : Nat) (c : Consumer)
    (h : x.consumer? i = some c) : i < x.consumers.length := by
  by_contra hlt
  unfold consumer? at h
  rw [List.getElem?_eq_none (Nat.le_of_not_lt hlt)] at h
  simp only [Option.join_none, reduceCtorEq] at h

theorem consumer?_append (x x' : Exchange α) (c : Consumer)
    (h : x'.consumers = x.consumers ++ [some c]) (j : Nat) :
    x'.consumer? j = if j = x.consumers.length then some c else x.consumer? j := by
  unfold consumer?
  rw [h]
  rcases Nat.lt_trichotomy j x.consumers.length with hj | hj | hj
  · rw [if_neg (by omega), List.getElem?_append_left hj]
  · rw [if_pos hj, hj, List.getElem?_concat_length]
    rfl
  · have hlen : (x.consumers ++ [some c]).length ≤ j := by
      rw [List.length_append, List.length_singleton]
      omega
    rw [if_neg (by omega), List.getElem?_eq_none hlen, List.getElem?_eq_none (by omega)]

theorem consumer?_set (x x' : Exchange α) (i : Nat) (v : Option Consumer)
    (hi : i < x.consumers.length) (h : x'.consumers = x.consumers.set i v) (j : Nat) :
    x'.consumer? j = if j = i then v else x.consumer? j := by
  unfold consumer?
  rw [h]
  by_cases hj : j = i
  · rw [if_pos hj, hj, List.getElem?_set_self hi]
    rfl
  · rw [if_neg hj, List.getElem?_set_ne (fun hc => hj hc.symm)]

theorem consumer?_congr (x x' : Exchange α) (h : x'.consumers = x.consumers) (j : Nat) :
    x'.consumer? j = x.consumer? j := by
  unfold consumer?
  rw [h]

/-! ### Soundness -/

/-- Who is attached, and what that means for the bridge. -/
inductive Seating (x : Exchange α) : Prop
  /-- Nobody is; then nothing is wanted, and the reading end is not in anybody's
      hands. -/
  | vacant (hc : ∀ j, x.consumer? j = none) (ha : x.bridge.attached = false)
      (hd : x.bridge.demand = 0) (hr : x.bridge.readEnd ≠ .held)
  /-- One consumer is, and it reads the queue unless the queue has been given up. -/
  | taken (i : Nat) (c : Consumer) (hc : ∀ j, x.consumer? j = if j = i then some c else none)
      (ha : x.bridge.attached = true)
      (hr : x.bridge.readEnd = if c.reads then .held else .dropped)
      (hd : c.done = true → x.bridge.terminated = true ∧ x.bridge.queue = [])

/-- What holds of an exchange between two operations. -/
structure Sound (x : Exchange α) : Prop where
  seating : Seating x
  gone_iff : x.bridge.terminated = true ↔ x.producer = .gone
  aside_nil : x.producer = .gone → x.aside = []
  /-- The queue is given up only once nothing can be added to it. -/
  dropped : x.bridge.readEnd = .dropped → x.bridge.terminated = true ∧ x.bridge.queue = []
  queue_orderly : Orderly x.bridge.queue x.bridge.terminated
  demand_le : x.bridge.demand ≤ unbounded

theorem empty_sound : Sound (Exchange.empty : Exchange α) := by
  refine ⟨Seating.vacant (fun _ => rfl) rfl rfl ?_, ?_, ?_, ?_, orderly_nil _, Nat.zero_le _⟩
  · simp only [empty, Bridge.empty, ne_eq, reduceCtorEq, not_false_eq_true]
  · simp only [empty, Bridge.empty, Bool.false_eq_true, reduceCtorEq]
  · intro _
    rfl
  · intro h
    simp only [empty, Bridge.empty, reduceCtorEq] at h

-- While the producer is there, so is a reader or a place for one.
theorem Sound.open_of_present (x : Exchange α) (h : Sound x) (hp : x.producer ≠ .gone) :
    x.bridge.readEnd ≠ .dropped ∧ x.bridge.terminated = false := by
  have ht : x.bridge.terminated = false :=
    Bool.eq_false_iff.mpr fun ht => hp (h.gone_iff.mp ht)
  refine ⟨fun hr => ?_, ht⟩
  have := (h.dropped hr).1
  rw [ht] at this
  exact Bool.false_ne_true this

-- The numbers of the consumers tell how they are seated: only the one that is there
-- can be the one that acts.
theorem Seating.acting (x : Exchange α) (h : Seating x) (i : Nat) (c : Consumer)
    (hc : x.consumer? i = some c) :
    (∀ j, x.consumer? j = if j = i then some c else none) ∧ x.bridge.attached = true ∧
      x.bridge.readEnd = (if c.reads then .held else .dropped) ∧
      (c.done = true → x.bridge.terminated = true ∧ x.bridge.queue = []) := by
  cases h with
  | vacant hv _ _ _ =>
      rw [hv i] at hc
      cases hc
  | taken k d hk ha hr hd =>
      have hik : i = k := by
        by_contra hne
        rw [hk i, if_neg hne] at hc
        cases hc
      subst hik
      rw [hk i, if_pos rfl, Option.some.injEq] at hc
      subst hc
      exact ⟨hk, ha, hr, hd⟩

theorem Seating.vacancy (x : Exchange α) (h : Seating x) (ha : x.bridge.attached = false) :
    (∀ j, x.consumer? j = none) ∧ x.bridge.demand = 0 ∧ x.bridge.readEnd ≠ .held := by
  cases h with
  | vacant hc _ hd hr => exact ⟨hc, hd, hr⟩
  | taken _ _ _ ha' _ _ =>
      rw [ha] at ha'
      exact absurd ha' Bool.false_ne_true

-- Whoever acts is the one that is there.
theorem Seating.sole (x : Exchange α) (h : Seating x) (i j : Nat) (c d : Consumer)
    (hc : x.consumer? i = some c) (hd : x.consumer? j = some d) : j = i ∧ d = c := by
  rcases h.acting x i c hc with ⟨hseat, _, _, _⟩
  rw [hseat j] at hd
  by_cases hji : j = i
  · rw [if_pos hji, Option.some.injEq] at hd
    exact ⟨hji, hd.symm⟩
  · rw [if_neg hji] at hd
    cases hd

end Exchange

end Flow

end DemandNet
