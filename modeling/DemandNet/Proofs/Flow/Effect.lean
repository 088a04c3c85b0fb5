import DemandNet.Proofs.Flow.History
import DemandNet.Proofs.Flow.Seating

/-!
# What an Operation Does

The operations of an exchange, sorted by what they do to it.

Fifteen operations in any order leave a large case analysis in every invariant, and most
of the cases are the same: a refused operation changes nothing, and the producer hands
over an item in five ways that differ only in what becomes of its hands. `Effect` keeps
eight cases, each with its events and the exchange after it, and `step_effect` says that
every operation has one of them. An invariant of a run is then a case analysis on the
effect and an induction on the run.

## Main definitions

* `Answer.isRefusal`: An answer that tells of nothing done.
* `Effect`: What an operation does.

## Theorems

* `refused_effect`, `accepted_effect`: What refusals have in common, and what the ways to
  hand over an item have.
* `events_of_offered`: What is reported as handed over is the item that was offered.
* `step_effect`: Every operation of a sound exchange has an effect.
-/

namespace DemandNet

namespace Flow

variable {α : Type}

/-- An answer that tells of nothing done: neither a success nor a look. -/
def Answer.isRefusal : Answer α → Bool
  | .done | .polled _ => false
  | _ => true

namespace Exchange

/-! ### Effects -/

/-- What an operation does: its events, and the exchange after it. -/
inductive Effect (x : Exchange α) : List (Event α) → Exchange α → Prop
  /-- Nothing that the bridge or a consumer could notice. -/
  | quiet (x' : Exchange α) (hb : x'.bridge = x.bridge) (hc : x'.consumers = x.consumers)
      (hp : x'.producer = .gone ↔ x.producer = .gone)
      (ha : x.producer = .gone → x'.aside = x.aside) : Effect x [] x'
  | attached (mode : Mode) (h : x.bridge.attached = false) :
      Effect x [] { x with
        bridge := x.bridge.seated, consumers := x.consumers ++ [some (x.bridge.newcomer mode)] }
  | requested (i n : Nat) (c : Consumer) (h : x.consumer? i = some c) :
      Effect x ((if c.done then [] else [n]).map (.granted i))
        { x with bridge := x.bridge.request c n }
  | looked (i : Nat) (c c' : Consumer) (p : Poll α) (b' : Bridge α)
      (h : x.consumer? i = some c) (hl : Look x.bridge c p c' b') :
      Effect x ((x.bridge.lookGrants c).map (.granted i) ++ [.polled i p])
        { x with bridge := b', consumers := x.consumers.set i (some c') }
  | left (i : Nat) (c : Consumer) (h : x.consumer? i = some c) :
      Effect x [] { x with bridge := x.bridge.detach c, consumers := x.consumers.set i none }
  | abandoned : Effect x [] { x with bridge := x.bridge.abandon }
  | accepted (x' : Exchange α) (a : α) (left : Nat) (hp : x.producer ≠ .gone)
      (ht : takeOne? x.bridge.demand = some left) (hb : x'.bridge = x.bridge.accepting a left)
      (hc : x'.consumers = x.consumers) (hp' : x'.producer ≠ .gone) :
      Effect x [.accepted a] x'
  /-- The producer leaves, perhaps with an error. -/
  | concluded (e : Option NetError) (hp : x.producer ≠ .gone) :
      Effect x (e.toList.map .failed)
        { x with bridge := x.bridge.concluded e, producer := .gone, aside := [] }

/-! ### Every operation has an effect -/

theorem events_of_refusal (x x' : Exchange α) (s : Step α) (r : Answer α)
    (hs : x.step s = (r, x')) (hr : r.isRefusal = true) : x.events s = [] := by
  unfold events
  rw [hs]
  cases r with
  | done | polled _ => cases hr
  | failed _ | handedBack _ | waiting | noConsumer | noProducer | busy | noDelivery =>
      cases s <;> rfl

theorem refused_effect (x : Exchange α) (s : Step α) (r : Answer α) (hs : x.step s = (r, x))
    (hr : r.isRefusal = true) : Effect x (x.events s) (x.step s).2 := by
  rw [events_of_refusal x x s r hs hr, hs]
  exact Effect.quiet x rfl rfl Iff.rfl fun _ => rfl

-- An offer that succeeds is all that happens then.
theorem events_of_offered (x x' : Exchange α) (s : Step α) (a : α) (hs : x.step s = (.done, x'))
    (ho : x.offered? s = some a) : x.events s = [.accepted a] := by
  unfold events
  rw [hs]
  cases s with
  | request _ _ | poll _ | finishWith _ => simp only [offered?, reduceCtorEq] at ho
  | attach _ | detach _ | abandon | emit _ | tryEmit _ | deliver _ | pollDelivery
  | dropDelivery | setAside | pollAside _ | dropAside _ | finish =>
      simp only [ho, Option.toList_some, List.map_cons, List.map_nil]

-- An operation of the producer that hands an item over.
theorem accepted_effect (x x' : Exchange α) (s : Step α) (a : α) (left : Nat)
    (hs : x.step s = (.done, x')) (ho : x.offered? s = some a) (hp : x.producer ≠ .gone)
    (ht : takeOne? x.bridge.demand = some left) (hb : x'.bridge = x.bridge.accepting a left)
    (hc : x'.consumers = x.consumers) (hp' : x'.producer ≠ .gone) :
    Effect x (x.events s) (x.step s).2 := by
  rw [events_of_offered x x' s a hs ho, hs]
  exact Effect.accepted x' a left hp ht hb hc hp'

-- An operation that only a free producer can carry out.
theorem unavailable_effect (x : Exchange α) (s : Step α)
    (f : Exchange α → Answer α × Exchange α) (hs : x.step s = x.produce f)
    (hp : x.producer ≠ .idle) : Effect x (x.events s) (x.step s).2 := by
  unfold produce at hs
  cases hprod : x.producer with
  | idle => exact absurd hprod hp
  | gone =>
      rw [hprod] at hs
      exact refused_effect x s _ hs rfl
  | delivering _ =>
      rw [hprod] at hs
      exact refused_effect x s _ hs rfl

theorem offer_of_open (x : Exchange α) (a : α) (hr : x.bridge.readEnd ≠ .dropped)
    (ht : x.bridge.terminated = false) :
    x.offer a =
      if x.bridge.abandoned then
        (.failed (.notRunning "bridge closed"), { x with producer := .idle })
      else match takeOne? x.bridge.demand with
        | none => (.waiting, { x with producer := .delivering a })
        | some left =>
            (.done, { x with bridge := x.bridge.accepting a left, producer := .idle }) := by
  unfold offer
  rw [Bridge.deliver_of_open x.bridge a hr ht]
  by_cases hab : x.bridge.abandoned = true
  · rw [if_pos hab, if_pos hab]
    rfl
  · rw [if_neg hab, if_neg hab]
    cases takeOne? x.bridge.demand with
    | none => rfl
    | some left => rfl

theorem offerAside_of_open (x : Exchange α) (i : Nat) (a : α)
    (hr : x.bridge.readEnd ≠ .dropped) (ht : x.bridge.terminated = false) :
    x.offerAside i a =
      if x.bridge.abandoned then
        (.failed (.notRunning "bridge closed"), { x with aside := x.aside.set i none })
      else match takeOne? x.bridge.demand with
        | none => (.waiting, x)
        | some left =>
            (.done, { x with
              bridge := x.bridge.accepting a left, aside := x.aside.set i none }) := by
  unfold offerAside
  rw [Bridge.deliver_of_open x.bridge a hr ht]
  by_cases hab : x.bridge.abandoned = true
  · rw [if_pos hab, if_pos hab]
    rfl
  · rw [if_neg hab, if_neg hab]
    cases takeOne? x.bridge.demand with
    | none => rfl
    | some left => rfl

theorem attach_effect (x : Exchange α) (mode : Mode) :
    Effect x (x.events (.attach mode)) (x.step (.attach mode)).2 := by
  by_cases ha : x.bridge.attached = true
  · exact refused_effect x _ (.failed .alreadySubscribed)
      (by simp only [step, Bridge.attach_eq, ha, if_true]) rfl
  · have hs : x.step (.attach mode) = (.done, { x with
        bridge := x.bridge.seated, consumers := x.consumers ++ [some (x.bridge.newcomer mode)] })
        := by
      simp only [step, Bridge.attach_eq, ha, if_false, Bool.false_eq_true]
    have he : x.events (.attach mode) = [] := by
      simp only [events, hs, offered?, Option.toList_none, List.map_nil]
    rw [he, hs]
    exact Effect.attached mode (Bool.eq_false_iff.mpr ha)

theorem request_effect (x : Exchange α) (i n : Nat) :
    Effect x (x.events (.request i n)) (x.step (.request i n)).2 := by
  cases hc : x.consumer? i with
  | none => exact refused_effect x _ .noConsumer (by simp only [step, hc]) rfl
  | some c =>
      have hs : x.step (.request i n) = (.done, { x with bridge := x.bridge.request c n }) := by
        simp only [step, hc]
      have he : x.events (.request i n) = (if c.done then [] else [n]).map (.granted i) := by
        simp only [events, hs, grants, hc]
      rw [he, hs]
      exact Effect.requested i n c hc

theorem poll_effect (x : Exchange α) (i : Nat) :
    Effect x (x.events (.poll i)) (x.step (.poll i)).2 := by
  cases hc : x.consumer? i with
  | none => exact refused_effect x _ .noConsumer (by simp only [step, hc]) rfl
  | some c =>
      have hs : x.step (.poll i) = (.polled (x.bridge.poll c).1, { x with
          bridge := (x.bridge.poll c).2.2,
          consumers := x.consumers.set i (some (x.bridge.poll c).2.1) }) := by
        simp only [step, hc]
      have he : x.events (.poll i)
          = (x.bridge.lookGrants c).map (.granted i) ++ [.polled i (x.bridge.poll c).1] := by
        simp only [events, hs, grants, hc]
      rw [he, hs]
      exact Effect.looked i c _ _ _ hc (Bridge.poll_look x.bridge c)

theorem detach_effect (x : Exchange α) (i : Nat) :
    Effect x (x.events (.detach i)) (x.step (.detach i)).2 := by
  cases hc : x.consumer? i with
  | none => exact refused_effect x _ .noConsumer (by simp only [step, hc]) rfl
  | some c =>
      have hs : x.step (.detach i) = (.done, { x with
          bridge := x.bridge.detach c, consumers := x.consumers.set i none }) := by
        simp only [step, hc]
      have he : x.events (.detach i) = [] := by
        simp only [events, hs, offered?, Option.toList_none, List.map_nil]
      rw [he, hs]
      exact Effect.left i c hc

theorem emit_effect (x : Exchange α) (h : Sound x) (a : α) :
    Effect x (x.events (.emit a)) (x.step (.emit a)).2 := by
  by_cases hp : x.producer = .idle
  · have hpresent : x.producer ≠ .gone := by rw [hp]; rintro ⟨⟩
    rcases h.open_of_present x hpresent with ⟨hr, ht⟩
    have hs : x.step (.emit a) = (Answer.ofExcept (x.bridge.emit a).1,
        { x with bridge := (x.bridge.emit a).2 }) := by
      simp only [step, produce, hp]
    rw [Bridge.emit_of_open x.bridge a hr ht] at hs
    cases htake : takeOne? x.bridge.demand with
    | none =>
        rw [htake] at hs
        exact refused_effect x _ (.failed .noDemand) hs rfl
    | some left =>
        rw [htake] at hs
        exact accepted_effect x _ _ a left hs rfl hpresent htake rfl rfl hpresent
  · exact unavailable_effect x _ _ (by rw [step]) hp

theorem tryEmit_effect (x : Exchange α) (h : Sound x) (a : α) :
    Effect x (x.events (.tryEmit a)) (x.step (.tryEmit a)).2 := by
  by_cases hp : x.producer = .idle
  · have hpresent : x.producer ≠ .gone := by rw [hp]; rintro ⟨⟩
    have hr := (h.open_of_present x hpresent).1
    have hs : x.step (.tryEmit a) = (if (x.bridge.tryEmit a).1 then .done else .handedBack a,
        { x with bridge := (x.bridge.tryEmit a).2 }) := by
      simp only [step, produce, hp]
    rw [Bridge.tryEmit_of_open x.bridge a hr] at hs
    cases htake : takeOne? x.bridge.demand with
    | none =>
        rw [htake] at hs
        exact refused_effect x _ (.handedBack a) hs rfl
    | some left =>
        rw [htake] at hs
        exact accepted_effect x _ _ a left hs rfl hpresent htake rfl rfl hpresent
  · exact unavailable_effect x _ _ (by rw [step]) hp

-- The producer offers an item that it holds or has just been given.
theorem offer_effect (x : Exchange α) (h : Sound x) (s : Step α) (a : α)
    (hs : x.step s = x.offer a) (ho : x.offered? s = some a) (hp : x.producer ≠ .gone) :
    Effect x (x.events s) (x.step s).2 := by
  rcases h.open_of_present x hp with ⟨hr, ht⟩
  rw [offer_of_open x a hr ht] at hs
  by_cases hab : x.bridge.abandoned = true
  · rw [if_pos hab] at hs
    rw [events_of_refusal x _ s _ hs rfl, hs]
    exact Effect.quiet _ rfl rfl ⟨by rintro ⟨⟩, fun hg => absurd hg hp⟩ fun _ => rfl
  · rw [if_neg hab] at hs
    cases htake : takeOne? x.bridge.demand with
    | none =>
        rw [htake] at hs
        rw [events_of_refusal x _ s _ hs rfl, hs]
        exact Effect.quiet _ rfl rfl ⟨by rintro ⟨⟩, fun hg => absurd hg hp⟩ fun _ => rfl
    | some left =>
        rw [htake] at hs
        exact accepted_effect x _ s a left hs ho hp htake rfl rfl (by rintro ⟨⟩)

theorem deliver_effect (x : Exchange α) (h : Sound x) (a : α) :
    Effect x (x.events (.deliver a)) (x.step (.deliver a)).2 := by
  by_cases hp : x.producer = .idle
  · exact offer_effect x h _ a (by simp only [step, produce, hp]) rfl (by rw [hp]; rintro ⟨⟩)
  · exact unavailable_effect x _ _ (by rw [step]) hp

theorem pollDelivery_effect (x : Exchange α) (h : Sound x) :
    Effect x (x.events .pollDelivery) (x.step .pollDelivery).2 := by
  cases hp : x.producer with
  | delivering a =>
      exact offer_effect x h _ a (by simp only [step, hp]) (by simp only [offered?, hp])
        (by rw [hp]; rintro ⟨⟩)
  | idle | gone => exact refused_effect x _ .noDelivery (by simp only [step, hp]) rfl

theorem pollAside_effect (x : Exchange α) (h : Sound x) (i : Nat) :
    Effect x (x.events (.pollAside i)) (x.step (.pollAside i)).2 := by
  cases ha : x.aside? i with
  | none => exact refused_effect x _ .noDelivery (by simp only [step, ha]) rfl
  | some a =>
      have hp : x.producer ≠ .gone := by
        intro hg
        unfold aside? at ha
        rw [h.aside_nil hg, List.getElem?_nil] at ha
        cases ha
      rcases h.open_of_present x hp with ⟨hr, ht⟩
      have hs : x.step (.pollAside i) = x.offerAside i a := by simp only [step, ha]
      rw [offerAside_of_open x i a hr ht] at hs
      by_cases hab : x.bridge.abandoned = true
      · rw [if_pos hab] at hs
        rw [events_of_refusal x _ _ _ hs rfl, hs]
        exact Effect.quiet _ rfl rfl Iff.rfl fun hg => absurd hg hp
      · rw [if_neg hab] at hs
        cases htake : takeOne? x.bridge.demand with
        | none =>
            rw [htake] at hs
            exact refused_effect x _ .waiting hs rfl
        | some left =>
            rw [htake] at hs
            exact accepted_effect x _ _ a left hs ha hp htake rfl rfl hp

theorem setAside_effect (x : Exchange α) :
    Effect x (x.events .setAside) (x.step .setAside).2 := by
  cases hp : x.producer with
  | delivering a =>
      have hs : x.step .setAside
          = (.done, { x with producer := .idle, aside := x.aside ++ [some a] }) := by
        simp only [step, hp]
      have he : x.events .setAside = [] := by
        simp only [events, hs, offered?, Option.toList_none, List.map_nil]
      have hpresent : x.producer ≠ .gone := by rw [hp]; rintro ⟨⟩
      rw [he, hs]
      exact Effect.quiet _ rfl rfl ⟨by rintro ⟨⟩, fun hg => absurd hg hpresent⟩
        fun hg => absurd hg hpresent
  | idle | gone => exact refused_effect x _ .noDelivery (by simp only [step, hp]) rfl

theorem dropAside_effect (x : Exchange α) (h : Sound x) (i : Nat) :
    Effect x (x.events (.dropAside i)) (x.step (.dropAside i)).2 := by
  cases ha : x.aside? i with
  | none => exact refused_effect x _ .noDelivery (by simp only [step, ha]) rfl
  | some a =>
      have hs : x.step (.dropAside i) = (.done, { x with aside := x.aside.set i none }) := by
        simp only [step, ha]
      have he : x.events (.dropAside i) = [] := by
        simp only [events, hs, offered?, Option.toList_none, List.map_nil]
      rw [he, hs]
      refine Effect.quiet _ rfl rfl Iff.rfl fun hg => ?_
      rw [h.aside_nil hg]
      rfl

theorem dropDelivery_effect (x : Exchange α) :
    Effect x (x.events .dropDelivery) (x.step .dropDelivery).2 := by
  cases hp : x.producer with
  | delivering a =>
      have hs : x.step .dropDelivery = x.leave x.bridge.finish := by simp only [step, hp]
      have he : x.events .dropDelivery = [] := by
        simp only [events, hs, leave, offered?, Option.toList_none, List.map_nil]
      rw [he, hs, Bridge.finish_eq]
      exact Effect.concluded none (by rw [hp]; rintro ⟨⟩)
  | idle | gone => exact refused_effect x _ .noDelivery (by simp only [step, hp]) rfl

theorem finish_effect (x : Exchange α) :
    Effect x (x.events .finish) (x.step .finish).2 := by
  by_cases hp : x.producer = .idle
  · have hs : x.step .finish = x.leave x.bridge.finish := by simp only [step, produce, hp]
    have he : x.events .finish = [] := by
      simp only [events, hs, leave, offered?, Option.toList_none, List.map_nil]
    rw [he, hs, Bridge.finish_eq]
    exact Effect.concluded none (by rw [hp]; rintro ⟨⟩)
  · exact unavailable_effect x _ _ (by rw [step]) hp

theorem finishWith_effect (x : Exchange α) (h : Sound x) (e : NetError) :
    Effect x (x.events (.finishWith e)) (x.step (.finishWith e)).2 := by
  by_cases hp : x.producer = .idle
  · have hpresent : x.producer ≠ .gone := by rw [hp]; rintro ⟨⟩
    have hs : x.step (.finishWith e) = x.leave (x.bridge.finishWith e) := by
      simp only [step, produce, hp]
    have he : x.events (.finishWith e) = [.failed e] := by simp only [events, hs, leave]
    rw [he, hs, Bridge.finishWith_of_open x.bridge e (h.open_of_present x hpresent).1]
    exact Effect.concluded (some e) hpresent
  · exact unavailable_effect x _ _ (by rw [step]) hp

theorem step_effect (x : Exchange α) (h : Sound x) (s : Step α) :
    Effect x (x.events s) (x.step s).2 := by
  cases s with
  | attach mode => exact attach_effect x mode
  | request i n => exact request_effect x i n
  | poll i => exact poll_effect x i
  | detach i => exact detach_effect x i
  | abandon =>
      have he : x.events .abandon = [] := by
        simp only [events, step, offered?, Option.toList_none, List.map_nil]
      rw [he]
      exact Effect.abandoned
  | emit a => exact emit_effect x h a
  | tryEmit a => exact tryEmit_effect x h a
  | deliver a => exact deliver_effect x h a
  | pollDelivery => exact pollDelivery_effect x h
  | dropDelivery => exact dropDelivery_effect x
  | setAside => exact setAside_effect x
  | pollAside i => exact pollAside_effect x h i
  | dropAside i => exact dropAside_effect x h i
  | finish => exact finish_effect x
  | finishWith e => exact finishWith_effect x h e

end Exchange

end Flow

end DemandNet
