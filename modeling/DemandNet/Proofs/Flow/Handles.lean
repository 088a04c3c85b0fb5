import DemandNet.Flow.Handles
import DemandNet.Proofs.Flow.ReadingEnd
import DemandNet.Proofs.Flow.Unused

/-!
# Without Handles

What becomes of a bridge once nobody has a handle on it.

Handles are dropped while the producer is there, and so the reading end can go before the
producer does: whoever answers a request drops the handle on its body with the answer, read
or not. An item that was put into the queue then would be lost without a word.

None is. The reading end goes with the last handle only if it is with nobody, and then nobody
is attached, so nothing is wanted, and nobody can attach any more, so nothing ever will be.
What the producer tries to hand over stays with it. Nobody can tell from an answer that the
reading end is gone: those are the answers it would get if the reading end were kept. So what
is left of an exchange is followed beside one that keeps its reading end, and what holds of
that one answers for both.

## Main definitions

* `Shared.after`, `Shared.history`: The state and the events of a run.
* `Mirrors`: An exchange that keeps its reading end, and what is left of it.

## Theorems

* `step_letGo`: No operation notices that the reading end is gone, but those of a handle.
* `mirrors_step`, `mirrors_after`: A run is followed by one that keeps the reading end.
* `reading_end_there_while_wanted`: Nothing is lost for want of a reading end.
-/

namespace DemandNet

namespace Flow

variable {α : Type}

/-! ### Where nothing is wanted -/

namespace Bridge

theorem emit_of_unwanted (b : Bridge α) (hd : b.demand = 0) (a : α) :
    b.emit a = (.error (if b.terminated then .notRunning "stream already terminated"
      else .noDemand), b) := by
  unfold emit
  rw [hd, takeOne?_zero]
  cases b.terminated <;> rfl

theorem tryEmit_of_unwanted (b : Bridge α) (hd : b.demand = 0) (a : α) :
    b.tryEmit a = (false, b) := by
  unfold tryEmit
  rw [hd, takeOne?_zero]

theorem deliver_of_unwanted (b : Bridge α) (hd : b.demand = 0) (a : α) :
    b.deliver a =
      (if b.isClosed then some (.error (.notRunning "bridge closed")) else none, b) := by
  unfold deliver readiness?
  rw [hd]
  cases b.isClosed <;> rfl

-- The queue is asked only for an item that demand was taken for, and its error is not missed.
theorem blind_letGo (b : Bridge α) (hd : b.demand = 0) : Blind letGo b where
  emit a := by
    rw [emit_of_unwanted b hd, emit_of_unwanted b.letGo hd]
    rfl
  tryEmit a := by rw [tryEmit_of_unwanted b hd, tryEmit_of_unwanted b.letGo hd]
  deliver a := by
    rw [deliver_of_unwanted b hd, deliver_of_unwanted b.letGo hd]
    rfl
  finish := rfl
  finishWith e := by
    unfold finishWith push
    cases b.readEnd <;> rfl
  abandon := rfl

end Bridge

namespace Exchange

variable (x : Exchange α)

-- Where the reading end waits for a consumer there is none.
theorem Sound.vacant_of_parked (h : Sound x) (hr : x.bridge.readEnd = .parked) :
    (∀ i, x.consumer? i = none) ∧ x.bridge.attached = false ∧ x.bridge.demand = 0 := by
  cases h.seating with
  | vacant hc ha hd _ => exact ⟨hc, ha, hd⟩
  | taken i c _ _ hheld _ =>
      rw [hr] at hheld
      cases hreads : c.reads with
      | true => rw [hreads] at hheld; cases hheld
      | false => rw [hreads] at hheld; cases hheld

-- Only a handle leads to the reading end, and only demand to the queue.
theorem step_letGo (hs : Sound x) (hr : x.bridge.readEnd = .parked) (s : Step α)
    (hside : s.onHandle = false) :
    x.letGo.step s = ((x.step s).1, (x.step s).2.letGo) ∧
      (x.step s).2.bridge.readEnd = .parked := by
  rcases hs.vacant_of_parked x hr with ⟨hnone, hvacant, hd⟩
  cases hconsumer : s.isOfConsumer with
  | true =>
      have hletGo : ∀ i, x.letGo.consumer? i = none := hnone
      cases s with
      | attach mode => cases hside
      | request i n | poll i | detach i =>
          simp only [step, hnone i, hletGo i, hr, and_self]
      | abandon | emit | tryEmit | deliver | pollDelivery | dropDelivery | setAside | pollAside
      | dropAside | finish | finishWith => cases hconsumer
  | false =>
      refine ⟨?_, (vacant_step hs hvacant hconsumer).2.trans hr⟩
      refine (step_blind (x.bridge.blind_letGo hd) hconsumer x.consumers).trans ?_
      rw [← consumers_step hconsumer x]
      rfl

theorem events_letGo (hs : Sound x) (hr : x.bridge.readEnd = .parked) (s : Step α)
    (hside : s.onHandle = false) : x.letGo.events s = x.events s := by
  have hstep : (x.letGo.step s).1 = (x.step s).1 := by rw [(step_letGo x hs hr s hside).1]
  rcases hs.vacant_of_parked x hr with ⟨hnone, _, _⟩
  have hletGo : ∀ i, x.letGo.consumer? i = none := hnone
  have hoffered : x.letGo.offered? = x.offered? := by
    funext s
    cases s <;> rfl
  have hgrants : x.letGo.grants = x.grants := by
    funext s
    cases s with
    | request i n | poll i => simp only [grants, hnone i, hletGo i]
    | _ => rfl
  unfold events
  rw [hstep, hoffered, hgrants]

end Exchange

/-! ### Runs -/

namespace Shared

/-- The operation of the exchange that a move carries out. -/
def carries? (x : Shared α) : Move α → Option (Step α)
  | .use s => if x.allows s then some s else none
  | .clone | .drop => none

/-- The exchange and its handles after a run. -/
def after (x : Shared α) (moves : List (Move α)) : Shared α := (x.run moves).2

/-- The events of a run. -/
def history (x : Shared α) : List (Move α) → List (Event α)
  | [] => []
  | m :: rest =>
      (x.carries? m).elim [] x.exchange.events ++ history (x.step m).2 rest

/-- What is left of an exchange that would keep its reading end. -/
inductive Mirrors (y : Exchange α) (x : Shared α) : Prop
  | whole (he : x.exchange = y) (hr : x.handles = 0 → y.bridge.readEnd ≠ .parked)
  | bare (he : x.exchange = y.letGo) (hr : y.bridge.readEnd = .parked) (hnone : x.handles = 0)

theorem mirrors_settled (y : Exchange α) (x : Shared α) (he : x.exchange = y) :
    Mirrors y x.settled := by
  unfold settled
  by_cases hr : x.handles = 0 ∧ x.exchange.bridge.readEnd = .parked
  · rw [if_pos hr]
    exact .bare (congrArg Exchange.letGo he) (he ▸ hr.2) hr.1
  · rw [if_neg hr]
    exact .whole he fun hnone hparked => hr ⟨hnone, he ▸ hparked⟩

theorem settled_of_dropped (x : Shared α) (hr : x.exchange.bridge.readEnd = .dropped) :
    x.settled = x := by
  unfold settled
  rw [hr]
  exact if_neg fun h => ReadEnd.noConfusion h.2

-- An operation that is not refused for want of a handle.
theorem step_of_carries (x : Shared α) (m : Move α) (s : Step α) (hs : x.carries? m = some s) :
    x.step m =
      (some (x.exchange.step s).1, settled { x with exchange := (x.exchange.step s).2 }) ∧
      x.allows s = true := by
  cases m with
  | clone | drop => cases hs
  | use s' =>
      simp only [carries?] at hs
      by_cases hallow : x.allows s' = true
      · rw [if_pos hallow, Option.some.injEq] at hs
        rw [← hs, step, if_pos hallow]
        exact ⟨rfl, hallow⟩
      · rw [if_neg hallow] at hs
        cases hs

theorem mirrors_of_idle (y : Exchange α) (x : Shared α) (h : Mirrors y x) (m : Move α)
    (hm : x.carries? m = none) : Mirrors y (x.step m).2 := by
  cases m with
  | use s =>
      simp only [carries?] at hm
      by_cases hallow : x.allows s = true
      · rw [if_pos hallow] at hm
        cases hm
      · rw [step, if_neg hallow]
        exact h
  | clone =>
      rw [step]
      by_cases hnone : x.handles = 0
      · rw [if_pos hnone]
        exact h
      · rw [if_neg hnone]
        cases h with
        | whole he _ => exact .whole he fun hzero => absurd hzero (Nat.succ_ne_zero _)
        | bare _ _ hzero => exact absurd hzero hnone
  | drop =>
      rw [step]
      by_cases hnone : x.handles = 0
      · rw [if_pos hnone]
        exact h
      · rw [if_neg hnone]
        cases h with
        | whole he _ => exact mirrors_settled y _ he
        | bare _ _ hzero => exact absurd hzero hnone

theorem mirrors_step (y : Exchange α) (x : Shared α) (hs : Exchange.Sound y) (h : Mirrors y x)
    (m : Move α) (s : Step α) (hm : x.carries? m = some s) :
    Mirrors (y.step s).2 (x.step m).2 ∧ (x.step m).1 = some (y.step s).1 ∧
      x.exchange.events s = y.events s := by
  rcases step_of_carries x m s hm with ⟨hstep, hallow⟩
  rw [hstep]
  cases h with
  | whole he _ =>
      rw [he]
      exact ⟨mirrors_settled _ _ rfl, rfl, rfl⟩
  | bare he hr hnone =>
      have hside : s.onHandle = false := by
        unfold allows at hallow
        rw [hnone] at hallow
        simpa using hallow
      rcases Exchange.step_letGo y hs hr s hside with ⟨hsame, hparked⟩
      rw [he, hsame, settled_of_dropped _ rfl]
      exact ⟨.bare rfl hparked hnone, rfl, Exchange.events_letGo y hs hr s hside⟩

-- By induction on the run. Only the moves that carry out an operation are seen by the
-- exchange that keeps its reading end.
theorem mirrors_after (y : Exchange α) (x : Shared α) (hs : Exchange.Sound y) (h : Mirrors y x)
    (moves : List (Move α)) :
    ∃ steps, Mirrors (y.after steps) (x.after moves) ∧ x.history moves = y.history steps := by
  induction moves generalizing x y with
  | nil => exact ⟨[], h, rfl⟩
  | cons m rest ih =>
      cases hm : x.carries? m with
      | none =>
          rcases ih y (x.step m).2 hs (mirrors_of_idle y x h m hm) with ⟨steps, hend, hes⟩
          refine ⟨steps, hend, ?_⟩
          rw [history, hm]
          exact hes
      | some s =>
          rcases mirrors_step y x hs h m s hm with ⟨hnext, _, hevents⟩
          have hs' := Exchange.effect_sound y _ _ hs (Exchange.step_effect y hs s)
          rcases ih (y.step s).2 (x.step m).2 hs' hnext with ⟨steps, hend, hes⟩
          refine ⟨s :: steps, hend, ?_⟩
          rw [history, hm, hes]
          exact congrArg (· ++ _) hevents

/-! ### What is handed over, and who gets nothing -/

-- A handle on the bridge, or the consumer that is attached, keeps the reading end.
theorem Mirrors.readable (y : Exchange α) (x : Shared α) (hs : Exchange.Sound y)
    (h : Mirrors y x) (hp : x.exchange.producer ≠ .gone) :
    Exchange.Readable x.exchange ∨
      x.handles = 0 ∧ x.exchange.bridge.attached = false ∧ x.exchange.bridge.demand = 0 := by
  cases h with
  | whole he _ =>
      rw [he] at hp ⊢
      exact Or.inl (hs.readable y hp)
  | bare he hr hnone =>
      rcases hs.vacant_of_parked y hr with ⟨_, ha, hd⟩
      rw [he]
      exact Or.inr ⟨hnone, ha, hd⟩

theorem Mirrors.reader_of_demand (y : Exchange α) (x : Shared α) (hs : Exchange.Sound y)
    (h : Mirrors y x) (hp : x.exchange.producer ≠ .gone) (hd : 0 < x.exchange.bridge.demand) :
    ∃ i c, x.exchange.consumer? i = some c ∧ c.reads = true ∧
      x.exchange.bridge.readEnd = .held := by
  cases h with
  | whole he _ =>
      rw [he] at hp hd ⊢
      exact hs.reader_of_demand y hp hd
  | bare he hr _ =>
      rw [he] at hd
      exact absurd (hs.vacant_of_parked y hr).2.2 (Nat.ne_of_gt hd)

theorem Mirrors.emit_outcome (y : Exchange α) (x : Shared α) (hs : Exchange.Sound y)
    (h : Mirrors y x) (hp : x.exchange.producer ≠ .gone) (a : α) :
    (x.exchange.bridge.emit a).1 = .ok () ∨ (x.exchange.bridge.emit a).1 = .error .noDemand := by
  cases h with
  | whole he _ =>
      rw [he] at hp ⊢
      exact hs.emit_outcome y hp a
  | bare he hr _ =>
      rw [he] at hp ⊢
      have hd : y.letGo.bridge.demand = 0 := (hs.vacant_of_parked y hr).2.2
      have hrun : y.letGo.bridge.terminated = false := (hs.open_of_present y hp).2
      rw [Bridge.emit_of_unwanted y.letGo.bridge hd, hrun]
      exact Or.inr rfl

theorem Mirrors.enqueued (y : Exchange α) (x : Shared α) (hs : Exchange.Sound y)
    (h : Mirrors y x) (s : Step α) (a : α) (ho : x.exchange.offered? s = some a)
    (hdone : (x.step (.use s)).1 = some .done) :
    (x.step (.use s)).2.exchange.bridge.queue = x.exchange.bridge.queue ++ [.ok a] ∧
      Exchange.Readable (x.step (.use s)).2.exchange := by
  have hside : s.onHandle = false := by cases s <;> first | rfl | cases ho
  have hallow : x.allows s = true := by rw [allows, hside]; rfl
  rw [step, if_pos hallow] at hdone ⊢
  rw [Option.some.injEq] at hdone
  cases h with
  | whole he _ =>
      rw [he] at ho hdone ⊢
      rcases hs.enqueued y s a ho hdone with ⟨_, hq, hheld, hread⟩
      have hkept : settled { x with exchange := (y.step s).2 } =
          { x with exchange := (y.step s).2 } := by
        unfold settled
        rw [hheld]
        exact if_neg fun hgone => ReadEnd.noConfusion hgone.2
      rw [hkept]
      exact ⟨hq, hread⟩
  | bare he hr _ =>
      -- Here nothing is wanted, so success cannot be reported.
      have hoy : y.offered? s = some a := by
        rw [he] at ho
        cases s <;> exact ho
      rw [he, (Exchange.step_letGo y hs hr s hside).1] at hdone
      have hwanted := (hs.enqueued y s a hoy hdone).1
      exact absurd (hs.vacant_of_parked y hr).2.2 (Nat.ne_of_gt hwanted)

-- Whoever attaches has a handle, so the reading end was not let go.
theorem Mirrors.attached (y : Exchange α) (x : Shared α) (h : Mirrors y x) (mode : Mode)
    (z : Shared α) (hz : x.step (.use (.attach mode)) = (some .done, z)) :
    x.exchange = y ∧
      ∃ y', y.step (.attach mode) = (.done, y') ∧ z.exchange.consumers = y'.consumers := by
  have hallow : x.allows (.attach mode : Step α) = true := by
    by_contra hno
    rw [step, if_neg hno] at hz
    cases hz
  rw [step, if_pos hallow, Prod.mk.injEq, Option.some.injEq] at hz
  cases h with
  | whole he _ =>
      rw [he] at hz
      refine ⟨he, (y.step (.attach mode)).2, Prod.ext hz.1 rfl, ?_⟩
      rw [← hz.2]
      unfold settled
      split <;> rfl
  | bare _ _ hnone =>
      rw [allows, hnone] at hallow
      cases hallow

-- Handles may go while the producer is there. As long as something is wanted a consumer
-- holds the reading end; it is gone only with the last handle, and then nobody is attached
-- and nothing is wanted. So an emission is refused for want of demand and for nothing else,
-- and whatever is accepted is queued. A consumer gets an empty stream only after the producer
-- left, every item was received and the end was told, the producer's error first.
theorem reading_end_there_while_wanted (moves : List (Move α)) :
    let z : Shared α := start.after moves
    let x := z.exchange
    let es := (start : Shared α).history moves
    (x.producer ≠ .gone →
      (0 < x.bridge.demand →
        ∃ i c, x.consumer? i = some c ∧ c.reads = true ∧ x.bridge.readEnd = .held) ∧
      (Exchange.Readable x ∨
        z.handles = 0 ∧ x.bridge.attached = false ∧ x.bridge.demand = 0) ∧
      ∀ a, (x.bridge.emit a).1 = .ok () ∨ (x.bridge.emit a).1 = .error .noDemand) ∧
    (∀ s a, x.offered? s = some a → (z.step (.use s)).1 = some .done →
      (z.step (.use s)).2.exchange.bridge.queue = x.bridge.queue ++ [.ok a] ∧
        Exchange.Readable (z.step (.use s)).2.exchange) ∧
    ∀ mode z' c, z.step (.use (.attach mode)) = (some .done, z') →
      z'.exchange.consumer? x.consumers.length = some c → c.reads = false →
      x.bridge.terminated = true ∧ x.producer = .gone ∧ x.bridge.queue = [] ∧
      yielded es = accepted es ∧ terminals es ≠ [] ∧
      ∃ k, terminals es = (failures es).map .failed ++ List.replicate k .ended := by
  intro z x es
  have hstart : Mirrors (.empty : Exchange α) start :=
    .whole rfl fun hzero => absurd hzero (Nat.succ_ne_zero 0)
  rcases mirrors_after .empty start Exchange.empty_sound hstart moves with ⟨steps, h, hes⟩
  have hs : Exchange.Sound (Exchange.empty.after steps) :=
    Exchange.after_sound _ Exchange.empty_sound steps
  refine ⟨fun hp => ⟨h.reader_of_demand _ z hs hp, h.readable _ z hs hp,
    h.emit_outcome _ z hs hp⟩, h.enqueued _ z hs, fun mode z' c hz hc hreads => ?_⟩
  rcases h.attached _ z mode z' hz with ⟨hx, y', hy, hcons⟩
  rw [Exchange.consumer?_congr y' z'.exchange hcons] at hc
  change Exchange.consumer? y' z.exchange.consumers.length = some c at hc
  rw [hx] at hc
  rcases Exchange.latecomer_after_end steps mode y' c hy hc hreads with
    ⟨⟨hgone, hqueue, hends⟩, hall, htold⟩
  change z.exchange.bridge.terminated = true ∧ z.exchange.producer = .gone ∧
    z.exchange.bridge.queue = [] ∧ _
  rw [hx, show es = Exchange.empty.history steps from hes]
  exact ⟨hs.gone_iff.mpr hgone, hgone, hqueue, hall, htold, hends⟩

/-- A consumer asks for two items when the last handle has gone. -/
def askedWithoutHandles : List (Move Nat) := [.use (.attach .manual), .drop, .use (.request 0 2)]

/-- The producer leaves an item, which is received, and so is the end. -/
def servedToTheEnd : List (Move Nat) :=
  [.use (.attach .manual), .use (.request 0 1), .use (.emit 1), .use .finish, .use (.poll 0),
    .use (.poll 0), .use (.detach 0)]

theorem reader_and_latecomer :
    let x : Exchange Nat := (start.after askedWithoutHandles).exchange
    ((start.after askedWithoutHandles).handles = 0 ∧
      ∃ i c, x.consumer? i = some c ∧ c.reads = true ∧ x.bridge.readEnd = .held) ∧
    ∃ z' c, (start.after servedToTheEnd).step (.use (.attach .manual)) = (some .done, z') ∧
      z'.exchange.consumer? 1 = some c ∧ c.reads = false ∧
        yielded ((start : Shared Nat).history servedToTheEnd) =
          accepted ((start : Shared Nat).history servedToTheEnd) := by
  have hwanted := ((reading_end_there_while_wanted askedWithoutHandles).1 (by rintro ⟨⟩)).1
    (by decide)
  have hlate := (reading_end_there_while_wanted servedToTheEnd).2.2 .manual _ _ rfl rfl rfl
  exact ⟨⟨rfl, hwanted⟩, _, _, rfl, rfl, rfl, hlate.2.2.2.1⟩

/-- The consumer outlives the last handle, and gets what it asked for. The second item comes
    after it has left, and stays with the producer. -/
example : ((start : Shared Nat).run
    [.use (.attach .manual), .drop, .use (.request 0 2), .use (.emit 1), .use (.poll 0),
      .use (.detach 0), .use (.tryEmit 2), .use (.attach .manual)]).1 =
    [some .done, some .done, some .done, some .done, some (.polled (.item 1)), some .done,
      some (.handedBack 2), none] := by
  rfl

end Shared

end Flow

end DemandNet
