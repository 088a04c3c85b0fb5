import DemandNet.Proofs.Flow.Reachable

/-!
# Consumers That Do Nothing

A consumer that attaches and leaves without having looked or asked for anything.

Such a consumer takes the reading end and puts it back, or finds none and leaves none, and
it asks for nothing. Nothing is wanted while nobody is attached, so there is no demand that
could be lost when it leaves. What a producer can notice of a bridge is whether something is
wanted, whether it has closed and whether the queue was given up, and none of that depends on
who is attached. So everything goes on as if the consumer had not been there, for those who
come later and for the producer, even for what the producer did in the meantime. Only the
numbers of the later consumers are one higher.

An exchange with such a consumer, and one from which it has left, are the exchange without it
and something done to it: `joined` and `beside`. What is done to it can be exchanged with
every operation of a run, and that is all there is to show.

## Main definitions

* `Bridge.Blind`: A change of a bridge that its producer does not notice.
* `besides`, `Step.besides`: Numbers of consumers where there is one more.
* `Exchange.joined`: An exchange to which a consumer has just attached.
* `Exchange.beside`: An exchange with one more consumer that has left.
* `Exchange.runTaken`: A run in which nobody can attach.
* `Exchange.Neutral`: Attaching and leaving changes nothing.

## Theorems

* `step_blind`: What a producer does and learns does not depend on the consumers.
* `step_joined`, `run_joined`: What happens while the consumer is there.
* `step_beside`, `run_beside`: What happens after it has left.
* `neutral_of_sound`: Attaching and leaving without more changes nothing.
-/

namespace DemandNet

namespace Flow

variable {α : Type}

namespace Bridge

/-! ### What producers notice -/

/-- A change of a bridge that its producer does not notice: what it does can be done before the
    change or after it. -/
structure Blind (g : Bridge α → Bridge α) (b : Bridge α) : Prop where
  emit : ∀ a, (g b).emit a = ((b.emit a).1, g (b.emit a).2)
  tryEmit : ∀ a, (g b).tryEmit a = ((b.tryEmit a).1, g (b.tryEmit a).2)
  deliver : ∀ a, (g b).deliver a = ((b.deliver a).1, g (b.deliver a).2)
  finish : (g b).finish = g b.finish
  finishWith : ∀ e, (g b).finishWith e = g (b.finishWith e)
  abandon : (g b).abandon = g b.abandon

theorem blind_id (b : Bridge α) : Blind id b :=
  ⟨fun _ => rfl, fun _ => rfl, fun _ => rfl, rfl, fun _ => rfl, rfl⟩

-- A producer only asks of the reading end whether it was given up.
theorem emit_seated (b : Bridge α) (a : α) :
    b.seated.emit a = ((b.emit a).1, (b.emit a).2.seated) := by
  rcases b with ⟨queue, readEnd, demand, attached, terminated, abandoned⟩
  unfold emit
  dsimp only [seated]
  cases terminated with
  | true => rfl
  | false => cases takeOne? demand <;> cases readEnd <;> rfl

theorem tryEmit_seated (b : Bridge α) (a : α) :
    b.seated.tryEmit a = ((b.tryEmit a).1, (b.tryEmit a).2.seated) := by
  rcases b with ⟨queue, readEnd, demand, attached, terminated, abandoned⟩
  unfold tryEmit
  dsimp only [seated]
  cases takeOne? demand <;> cases readEnd <;> rfl

theorem deliver_seated (b : Bridge α) (a : α) :
    b.seated.deliver a = ((b.deliver a).1, (b.deliver a).2.seated) := by
  have hready : b.seated.readiness? = b.readiness? := rfl
  unfold deliver
  rw [hready, tryEmit_seated]
  cases b.readiness? with
  | none => rfl
  | some r =>
      cases r with
      | closed => rfl
      | wanted =>
          rcases b.tryEmit a with ⟨taken, b'⟩
          cases taken <;> rfl

theorem finishWith_seated (b : Bridge α) (e : NetError) :
    b.seated.finishWith e = (b.finishWith e).seated := by
  rcases b with ⟨queue, readEnd, demand, attached, terminated, abandoned⟩
  cases readEnd <;> rfl

theorem blind_seated (b : Bridge α) : Blind seated b :=
  ⟨b.emit_seated, b.tryEmit_seated, b.deliver_seated, rfl, b.finishWith_seated, rfl⟩

-- A consumer that leaves without having done anything leaves the bridge as it was.
theorem detach_seated {b : Bridge α} (hvacant : b.attached = false) (hunwanted : b.demand = 0)
    (hheld : b.readEnd ≠ .held) (mode : Mode) : b.seated.detach (b.newcomer mode) = b := by
  rcases b with ⟨queue, readEnd, demand, attached, terminated, abandoned⟩
  dsimp only at hvacant hunwanted hheld
  rw [hvacant, hunwanted]
  cases readEnd with
  | parked | dropped => rfl
  | held => exact absurd rfl hheld

end Bridge

/-- The number of a consumer where there is one more, of number `n`. -/
def besides (n i : Nat) : Nat := if i < n then i else i + 1

namespace Step

/-- The operation is one of a consumer, or the attaching of one. -/
def isOfConsumer : Step α → Bool
  | .attach _ | .request _ _ | .poll _ | .detach _ => true
  | _ => false

/-- The number of the consumer whose operation it is. -/
def actor? : Step α → Option Nat
  | .request i _ | .poll i | .detach i => some i
  | _ => none

/-- The same operation where there is one more consumer, of number `n`. -/
def besides (n : Nat) : Step α → Step α
  | .request i m => .request (Flow.besides n i) m
  | .poll i => .poll (Flow.besides n i)
  | .detach i => .detach (Flow.besides n i)
  | s => s

end Step

namespace Exchange

variable {g : Bridge α → Bridge α}

/-- An exchange with something changed that producers do not notice. -/
def unnoticed (g : Bridge α → Bridge α) (cs : List (Option Consumer)) (x : Exchange α) :
    Exchange α := { x with bridge := g x.bridge, consumers := cs }

theorem produce_blind {f : Exchange α → Answer α × Exchange α} {cs : List (Option Consumer)}
    {x : Exchange α} (hf : f (x.unnoticed g cs) = ((f x).1, (f x).2.unnoticed g cs)) :
    (x.unnoticed g cs).produce f = ((x.produce f).1, (x.produce f).2.unnoticed g cs) := by
  have hproducer : (x.unnoticed g cs).producer = x.producer := rfl
  unfold produce
  rw [hproducer, hf]
  cases x.producer <;> rfl

theorem offer_blind (cs : List (Option Consumer)) (x : Exchange α) (hg : Bridge.Blind g x.bridge)
    (a : α) :
    (x.unnoticed g cs).offer a = ((x.offer a).1, (x.offer a).2.unnoticed g cs) := by
  have hdeliver : (x.unnoticed g cs).bridge.deliver a = _ := hg.deliver a
  unfold offer
  rw [hdeliver]
  rcases x.bridge.deliver a with ⟨_ | r, b⟩ <;> rfl

theorem offerAside_blind (cs : List (Option Consumer)) (x : Exchange α)
    (hg : Bridge.Blind g x.bridge) (i : Nat) (a : α) :
    (x.unnoticed g cs).offerAside i a =
      ((x.offerAside i a).1, (x.offerAside i a).2.unnoticed g cs) := by
  have hdeliver : (x.unnoticed g cs).bridge.deliver a = _ := hg.deliver a
  unfold offerAside
  rw [hdeliver]
  rcases x.bridge.deliver a with ⟨_ | r, b⟩ <;> rfl

theorem leave_blind {b b' : Bridge α} (hb : b' = g b) (cs : List (Option Consumer))
    (x : Exchange α) : (x.unnoticed g cs).leave b' = ((x.leave b).1, (x.leave b).2.unnoticed g cs)
    := by
  rw [hb]
  rfl

theorem step_blind {x : Exchange α} (hg : Bridge.Blind g x.bridge) {s : Step α}
    (hs : s.isOfConsumer = false) (cs : List (Option Consumer)) :
    (x.unnoticed g cs).step s = ((x.step s).1, (x.step s).2.unnoticed g cs) := by
  have hproducer : (x.unnoticed g cs).producer = x.producer := rfl
  cases s with
  | attach | request | poll | detach => cases hs
  | abandon =>
      have habandon : (x.unnoticed g cs).bridge.abandon = _ := hg.abandon
      simp only [step, habandon]
      rfl
  | emit a =>
      have hemit : (x.unnoticed g cs).bridge.emit a = _ := hg.emit a
      refine produce_blind (f := fun x =>
        (Answer.ofExcept (x.bridge.emit a).1, { x with bridge := (x.bridge.emit a).2 })) ?_
      simp only [hemit]
      rfl
  | tryEmit a =>
      have hemit : (x.unnoticed g cs).bridge.tryEmit a = _ := hg.tryEmit a
      refine produce_blind (f := fun x =>
        (if (x.bridge.tryEmit a).1 then .done else .handedBack a,
          { x with bridge := (x.bridge.tryEmit a).2 })) ?_
      simp only [hemit]
      rfl
  | deliver a => exact produce_blind (f := fun x => x.offer a) (offer_blind cs x hg a)
  | pollDelivery =>
      simp only [step, hproducer]
      cases x.producer with
      | delivering a => exact offer_blind cs x hg a
      | idle | gone => rfl
  | dropDelivery =>
      simp only [step, hproducer]
      cases x.producer with
      | delivering a => exact leave_blind hg.finish cs x
      | idle | gone => rfl
  | setAside =>
      simp only [step, hproducer]
      cases x.producer <;> rfl
  | pollAside i =>
      have haside : (x.unnoticed g cs).aside? i = x.aside? i := rfl
      simp only [step, haside]
      cases x.aside? i with
      | none => rfl
      | some a => exact offerAside_blind cs x hg i a
  | dropAside i =>
      have haside : (x.unnoticed g cs).aside? i = x.aside? i := rfl
      simp only [step, haside]
      cases x.aside? i <;> rfl
  | finish =>
      exact produce_blind (f := fun x => x.leave x.bridge.finish)
        (leave_blind hg.finish cs x)
  | finishWith e =>
      exact produce_blind (f := fun x => x.leave (x.bridge.finishWith e))
        (leave_blind (hg.finishWith e) cs x)

theorem consumers_step {s : Step α} (hs : s.isOfConsumer = false) (x : Exchange α) :
    (x.step s).2.consumers = x.consumers :=
  congrArg (fun result => result.2.consumers) (step_blind x.bridge.blind_id hs x.consumers)

-- While nobody is attached nothing is wanted, so a producer does little, and nobody attaches by
-- it.
theorem vacant_step {x : Exchange α} (h : Sound x) (hvacant : x.bridge.attached = false)
    {s : Step α} (hs : s.isOfConsumer = false) :
    (x.step s).2.bridge.attached = false ∧ (x.step s).2.bridge.readEnd = x.bridge.readEnd := by
  rcases h.seating.vacancy x hvacant with ⟨hnone, hunwanted, -⟩
  have hconsumers := consumers_step hs x
  have heffect := step_effect x h s
  generalize x.events s = es at heffect
  generalize (x.step s).2 = x' at heffect hconsumers ⊢
  cases heffect with
  | quiet _ hbridge _ _ _ =>
      rw [hbridge]
      exact ⟨hvacant, rfl⟩
  | attached mode _ => exact absurd (List.append_right_eq_self.1 hconsumers) (List.cons_ne_nil _ _)
  | requested i n c hc | looked i c c' p b' hc hl | left i c hc =>
      rw [hnone i] at hc
      cases hc
  | abandoned => exact ⟨hvacant, rfl⟩
  | accepted _ a left _ htake _ _ _ =>
      rw [hunwanted, takeOne?_zero] at htake
      cases htake
  | concluded e _ => exact ⟨hvacant, rfl⟩

/-! ### After the consumer has left -/

/-- An exchange with one more consumer, of number `n`, that has left. -/
def beside (n : Nat) (x : Exchange α) : Exchange α :=
  x.unnoticed id (x.consumers.insertIdx n none)

theorem consumer?_beside (n : Nat) (x : Exchange α) (i : Nat) :
    (x.beside n).consumer? (besides n i) = x.consumer? i := by
  have hget : (x.consumers.insertIdx n none)[besides n i]? = x.consumers[i]? := by
    unfold besides
    rw [List.getElem?_insertIdx]
    by_cases hi : i < n
    · rw [if_pos hi, if_pos hi]
    · rw [if_neg hi, if_neg (by omega), if_neg (by omega), Nat.add_sub_cancel]
  exact congrArg Option.join hget

theorem set_beside (n i : Nat) (cs : List (Option Consumer)) (c : Option Consumer) :
    (cs.insertIdx n none).set (besides n i) c = (cs.set i c).insertIdx n none := by
  refine List.ext_getElem? fun j => ?_
  unfold besides
  grind

theorem concat_beside {n : Nat} {cs : List (Option Consumer)} (hn : n ≤ cs.length)
    (c : Option Consumer) : cs.insertIdx n none ++ [c] = (cs ++ [c]).insertIdx n none := by
  refine List.ext_getElem? fun j => ?_
  have hlength := List.length_insertIdx_of_le_length hn none
  grind

theorem besides_of_producer (n : Nat) {s : Step α} (hs : s.isOfConsumer = false) :
    s.besides n = s := by
  cases s with
  | attach | request | poll | detach => cases hs
  | abandon | emit | tryEmit | deliver | pollDelivery | dropDelivery | setAside | pollAside
  | dropAside | finish | finishWith => rfl

-- Nobody meets a consumer that has left.
theorem step_beside {n : Nat} {x : Exchange α} (hn : n ≤ x.consumers.length) (s : Step α) :
    (x.beside n).step (s.besides n) = ((x.step s).1, (x.step s).2.beside n) := by
  cases hs : s.isOfConsumer with
  | false =>
      rw [besides_of_producer n hs]
      unfold beside
      rw [step_blind x.bridge.blind_id hs, consumers_step hs]
  | true =>
      have hbridge : (x.beside n).bridge = x.bridge := rfl
      cases s with
      | attach mode =>
          simp only [step, Step.besides, hbridge]
          cases x.bridge.attach mode with
          | error e => rfl
          | ok attached =>
              refine congrArg (Prod.mk Answer.done) ?_
              exact congrArg (fun cs => x.unnoticed (fun _ => attached.2) cs)
                (concat_beside hn (some attached.1))
      | request i m =>
          simp only [step, Step.besides, hbridge, consumer?_beside]
          cases x.consumer? i <;> rfl
      | poll i =>
          simp only [step, Step.besides, hbridge, consumer?_beside]
          cases x.consumer? i with
          | none => rfl
          | some c =>
              refine congrArg (Prod.mk _) ?_
              exact congrArg (fun cs => x.unnoticed (fun _ => (x.bridge.poll c).2.2) cs)
                (set_beside n i x.consumers (some (x.bridge.poll c).2.1))
      | detach i =>
          simp only [step, Step.besides, hbridge, consumer?_beside]
          cases x.consumer? i with
          | none => rfl
          | some c =>
              refine congrArg (Prod.mk _) ?_
              exact congrArg (fun cs => x.unnoticed (fun _ => x.bridge.detach c) cs)
                (set_beside n i x.consumers none)
      | abandon | emit | tryEmit | deliver | pollDelivery | dropDelivery | setAside | pollAside
      | dropAside | finish | finishWith => cases hs

theorem run_cons (x : Exchange α) (s : Step α) (rest : List (Step α)) :
    x.run (s :: rest) =
      ((x.step s).1 :: ((x.step s).2.run rest).1, ((x.step s).2.run rest).2) := rfl

theorem length_le_step {x : Exchange α} (h : Sound x) (s : Step α) :
    x.consumers.length ≤ (x.step s).2.consumers.length :=
  length_le_of_effect x _ _ (step_effect x h s)

theorem run_beside {n : Nat} (steps : List (Step α)) : ∀ x : Exchange α, Sound x →
    n ≤ x.consumers.length → (x.beside n).run (steps.map (Step.besides n)) =
      ((x.run steps).1, (x.run steps).2.beside n) := by
  induction steps with
  | nil => exact fun x _ _ => rfl
  | cons s rest ih =>
      intro x h hn
      have hrest := ih (x.step s).2 (effect_sound x _ _ h (step_effect x h s))
        (Nat.le_trans hn (length_le_step h s))
      rw [List.map_cons, run_cons, step_beside hn, hrest]
      rfl

/-! ### While the consumer is there -/

/-- One operation while somebody is attached: nobody else can attach. -/
def stepTaken (x : Exchange α) : Step α → Answer α × Exchange α
  | .attach _ => (.failed .alreadySubscribed, x)
  | s => x.step s

/-- Operations in order while somebody is attached, with their answers. -/
def runTaken (x : Exchange α) : List (Step α) → List (Answer α) × Exchange α
  | [] => ([], x)
  | s :: rest =>
      let (r, x) := x.stepTaken s
      let (rs, x) := x.runTaken rest
      (r :: rs, x)

/-- An exchange to which a consumer has just attached. -/
def joined (mode : Mode) (x : Exchange α) : Exchange α :=
  x.unnoticed Bridge.seated (x.consumers ++ [some (x.bridge.newcomer mode)])

theorem step_attach {x : Exchange α} (hvacant : x.bridge.attached = false) (mode : Mode) :
    x.step (.attach mode) = (.done, x.joined mode) := by
  simp only [step]
  rw [Bridge.attach_eq, hvacant, if_neg Bool.false_ne_true]
  rfl

theorem step_of_absent {x : Exchange α} {s : Step α} {i : Nat} (hs : s.actor? = some i)
    (hnone : x.consumer? i = none) : x.step s = (.noConsumer, x) := by
  cases s with
  | request j m | poll j | detach j =>
      cases hs
      simp only [step, hnone]
  | attach | abandon | emit | tryEmit | deliver | pollDelivery | dropDelivery | setAside
  | pollAside | dropAside | finish | finishWith => cases hs

theorem consumer?_joined {x : Exchange α} (hnone : ∀ j, x.consumer? j = none) (mode : Mode)
    {i : Nat} (hi : i ≠ x.consumers.length) : (x.joined mode).consumer? i = none := by
  rw [consumer?_append x (x.joined mode) (x.bridge.newcomer mode) rfl, if_neg hi, hnone]

-- Beside somebody who does nothing everything else goes on as if nobody were attached, and
-- nobody is.
theorem step_joined {x : Exchange α} (h : Sound x) (hvacant : x.bridge.attached = false)
    (mode : Mode) {s : Step α} (hs : s.actor? ≠ some x.consumers.length) :
    (x.joined mode).step s = ((x.stepTaken s).1, (x.stepTaken s).2.joined mode) ∧
      Sound (x.stepTaken s).2 ∧ (x.stepTaken s).2.bridge.attached = false ∧
      (x.stepTaken s).2.consumers.length = x.consumers.length := by
  rcases h.seating.vacancy x hvacant with ⟨hnone, -, -⟩
  cases hside : s.isOfConsumer with
  | false =>
      have htaken : x.stepTaken s = x.step s := by
        cases s with
        | attach => cases hside
        | request | poll | detach | abandon | emit | tryEmit | deliver | pollDelivery
        | dropDelivery | setAside | pollAside | dropAside | finish | finishWith => rfl
      have hstill := vacant_step h hvacant hside
      have hconsumers := consumers_step hside x
      rw [htaken]
      refine ⟨?_, effect_sound x _ _ h (step_effect x h s), hstill.1, ?_⟩
      · have hnewcomer : (x.step s).2.bridge.newcomer mode = x.bridge.newcomer mode := by
          unfold Bridge.newcomer
          rw [hstill.2]
        unfold joined
        rw [step_blind (Bridge.blind_seated _) hside, hconsumers, hnewcomer]
      · rw [hconsumers]
  | true =>
      cases hactor : s.actor? with
      | none =>
          cases s with
          | attach m =>
              have hattached : (x.joined mode).bridge.attached = true := rfl
              refine ⟨?_, h, hvacant, rfl⟩
              simp only [step, stepTaken]
              rw [Bridge.attach_eq, hattached, if_pos rfl]
          | request | poll | detach => cases hactor
          | abandon | emit | tryEmit | deliver | pollDelivery | dropDelivery | setAside
          | pollAside | dropAside | finish | finishWith => cases hside
      | some i =>
          have hi : i ≠ x.consumers.length := fun heq => hs (heq ▸ hactor)
          have htaken : x.stepTaken s = x.step s := by
            cases s with
            | attach => cases hactor
            | request | poll | detach | abandon | emit | tryEmit | deliver | pollDelivery
            | dropDelivery | setAside | pollAside | dropAside | finish | finishWith => rfl
          rw [htaken, step_of_absent hactor (hnone i),
            step_of_absent hactor (consumer?_joined hnone mode hi)]
          exact ⟨rfl, h, hvacant, rfl⟩

theorem step_detach_joined {x : Exchange α} (h : Sound x) (hvacant : x.bridge.attached = false)
    (mode : Mode) : (x.joined mode).step (.detach x.consumers.length) =
      (.done, x.beside x.consumers.length) := by
  rcases h.seating.vacancy x hvacant with ⟨-, hunwanted, hheld⟩
  have hthere : (x.joined mode).consumer? x.consumers.length = some (x.bridge.newcomer mode) := by
    rw [consumer?_append x (x.joined mode) (x.bridge.newcomer mode) rfl, if_pos rfl]
  have hbridge : (x.joined mode).bridge.detach (x.bridge.newcomer mode) = x.bridge :=
    Bridge.detach_seated hvacant hunwanted hheld mode
  have hset : (x.joined mode).consumers.set x.consumers.length none =
      x.consumers.insertIdx x.consumers.length none := by
    have hlast := List.set_append_right (s := x.consumers) (t := [some (x.bridge.newcomer mode)])
      x.consumers.length none (Nat.le_refl _)
    rw [Nat.sub_self] at hlast
    rw [List.insertIdx_length_self]
    exact hlast
  simp only [step, hthere, hbridge, hset]
  rfl

theorem run_joined (mode : Mode) (between : List (Step α)) : ∀ x : Exchange α, Sound x →
    x.bridge.attached = false →
    (∀ s ∈ between, s.actor? ≠ some x.consumers.length) →
    (x.joined mode).run between = ((x.runTaken between).1, (x.runTaken between).2.joined mode) ∧
      Sound (x.runTaken between).2 ∧ (x.runTaken between).2.bridge.attached = false ∧
      (x.runTaken between).2.consumers.length = x.consumers.length := by
  induction between with
  | nil => exact fun x h hvacant _ => ⟨rfl, h, hvacant, rfl⟩
  | cons s rest ih =>
      intro x h hvacant hothers
      rcases List.forall_mem_cons.1 hothers with ⟨hs, hrest⟩
      rcases step_joined h hvacant mode hs with ⟨hstep, hsound, hstill, hlength⟩
      rw [← hlength] at hrest
      rcases ih (x.stepTaken s).2 hsound hstill hrest with ⟨hrun, hsound', hstill', hlength'⟩
      refine ⟨?_, hsound', hstill', hlength'.trans hlength⟩
      rw [run_cons, hstep, hrun]
      rfl

/-! ### Attaching and leaving -/

/-- That a consumer attaches and leaves, and does nothing else, changes nothing: neither for the
    others while it is there, who only cannot attach, nor afterwards. -/
structure Neutral (x : Exchange α) (mode : Mode) (between later : List (Step α)) : Prop where
  answers : (x.run (.attach mode :: between ++
      .detach x.consumers.length :: later.map (Step.besides x.consumers.length))).1 =
    .done :: (x.runTaken between).1 ++ .done :: ((x.runTaken between).2.run later).1
  left : x.after (.attach mode :: between ++
      .detach x.consumers.length :: later.map (Step.besides x.consumers.length)) =
    ((x.runTaken between).2.after later).beside x.consumers.length

theorem run_append (steps more : List (Step α)) : ∀ x : Exchange α,
    x.run (steps ++ more) =
      ((x.run steps).1 ++ ((x.after steps).run more).1, (x.after steps).after more) := by
  induction steps with
  | nil => exact fun x => rfl
  | cons s rest ih =>
      intro x
      rw [List.cons_append, run_cons, ih]
      rfl

theorem neutral_of_sound {x : Exchange α} (h : Sound x) (hvacant : x.bridge.attached = false)
    (mode : Mode) (between later : List (Step α))
    (hothers : ∀ s ∈ between, s.actor? ≠ some x.consumers.length) :
    x.Neutral mode between later := by
  rcases run_joined mode between x h hvacant hothers with ⟨hrun, hsound, hstill, hlength⟩
  have hleave := step_detach_joined hsound hstill mode
  have hlater := run_beside (n := x.consumers.length) later _ hsound (Nat.le_of_eq hlength.symm)
  rw [hlength] at hleave
  have hall : x.run (.attach mode :: between ++
      .detach x.consumers.length :: later.map (Step.besides x.consumers.length)) =
      (.done :: (x.runTaken between).1 ++ .done :: ((x.runTaken between).2.run later).1,
        ((x.runTaken between).2.after later).beside x.consumers.length) := by
    rw [List.cons_append, run_cons, step_attach hvacant, run_append, after, hrun, after, run_cons,
      hleave, hlater]
    rfl
  exact ⟨congrArg Prod.fst hall, congrArg Prod.snd hall⟩

end Exchange

end Flow

end DemandNet
