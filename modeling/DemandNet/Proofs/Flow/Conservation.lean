import DemandNet.Proofs.Flow.Reachable
import Mathlib.Data.List.Basic

/-!
# Conservation

Nothing is lost between a producer and its consumers.

In every run, whatever the order of its operations, the items that the bridge accepted
are the items that consumers received followed by the items still queued. A consumer
that leaves and another that attaches in its place make no difference to this: the
queue passes from one to the next, and an item that the producer still holds has not
been accepted.

The end of the stream is seen only after every item, and an error that the producer left
with is the first thing anybody sees of the end. This needs more than the queue. A
consumer that attaches after the end was seen reads an empty stream and is told of the
end at once, so it has to be known that the error is out of the queue by then. `Closed`
says what is left after the end has been seen, and the invariant says that everybody who
could be told of the end without looking at the queue finds the stream closed.

## Main definitions

* `Unseen`: Nobody has seen the end; the error, if there is one, is in the queue.
* `Closed`: The queue is empty for good, and the error has been seen first.
* `Telling`: Somebody would be told of the end without looking at the queue.
* `Conserved`: What relates an exchange to its history.

## Theorems

* `conserved_effect`: Every effect keeps the relation.
* `conserved_after`: A run keeps it.
* `accepted_in_order_and_one_end`: Conservation, order and the single end of a stream.
-/

namespace DemandNet

namespace Flow

namespace Exchange

variable {α : Type}

/-- Nobody has seen the end of the stream yet. -/
def Unseen (x : Exchange α) (es : List (Event α)) : Prop :=
  terminals es = [] ∧
    x.bridge.queue = x.bridge.items.map .ok ++ (failures es).map .error

/-- Nothing is queued and nothing will be; of the end, the error was seen first. -/
def Closed (x : Exchange α) (es : List (Event α)) : Prop :=
  x.producer = .gone ∧ x.bridge.queue = [] ∧
    ∃ k, terminals es = (failures es).map .failed ++ List.replicate k .ended

/-- Somebody would be told of the end without looking at the queue. -/
def Telling (x : Exchange α) : Prop :=
  x.bridge.readEnd = .dropped ∨ ∃ i c, x.consumer? i = some c ∧ c.done = true

/-- What relates an exchange to the history of the run that led to it. -/
structure Conserved (x : Exchange α) (es : List (Event α)) : Prop where
  order : accepted es = yielded es ++ x.bridge.items
  running : x.producer ≠ .gone → failures es = []
  failures_le : (failures es).length ≤ 1
  ending : Unseen x es ∨ Closed x es
  /-- Whoever is told of the end without looking at the queue is told the truth. -/
  told : Telling x → Closed x es
  ended_for_good : ∀ i, (pollsOf i es).Pairwise fun p q => p.isTerminal = true → q = .ended
  marked : ∀ i c p, x.consumer? i = some c → p ∈ pollsOf i es → p.isTerminal = true →
    c.done = true
  unnumbered : ∀ i, x.consumers.length ≤ i → pollsOf i es = []

theorem empty_conserved : Conserved (Exchange.empty : Exchange α) [] := by
  refine ⟨rfl, fun _ => rfl, Nat.zero_le _, Or.inl ⟨rfl, rfl⟩, ?_, fun _ => List.Pairwise.nil,
    ?_, fun _ _ => rfl⟩
  · rintro (hr | ⟨i, c, hc, _⟩)
    · cases hr
    · cases hc
  · intro i c p hc
    cases hc

-- An operation that touches neither the queue nor what was seen of it.
theorem Conserved.still (x x' : Exchange α) (es fs : List (Event α)) (h : Conserved x es)
    (hfs : Silent fs) (hq : x'.bridge.queue = x.bridge.queue)
    (hp : x'.producer = .gone ↔ x.producer = .gone)
    (htell : Telling x' → Telling x)
    (hmark : ∀ i c, x'.consumer? i = some c →
      pollsOf i es = [] ∨ ∃ d, x.consumer? i = some d ∧ d.done = c.done)
    (hlen : x.consumers.length ≤ x'.consumers.length) : Conserved x' (es ++ fs) := by
  rcases hfs with ⟨hacc, hyie, hter, hfai, hpol⟩
  have hitems : x'.bridge.items = x.bridge.items := by
    unfold Bridge.items
    rw [hq]
  have hclosed : Closed x es → Closed x' (es ++ fs) := by
    rintro ⟨hgone, hnil, k, hk⟩
    refine ⟨hp.mpr hgone, hq.trans hnil, k, ?_⟩
    rw [terminals_append, failures_append, hter, hfai, List.append_nil, List.append_nil, hk]
  refine ⟨?_, ?_, ?_, ?_, fun ht => hclosed (h.told (htell ht)), ?_, ?_, ?_⟩
  · rw [accepted_append, yielded_append, hacc, hyie, hitems, List.append_nil, List.append_nil]
    exact h.order
  · intro hpres
    rw [failures_append, hfai, List.append_nil]
    exact h.running fun hg => hpres (hp.mpr hg)
  · rw [failures_append, hfai, List.append_nil]
    exact h.failures_le
  · rcases h.ending with ⟨hunseen, hqueue⟩ | hc
    · refine Or.inl ⟨?_, ?_⟩
      · rw [terminals_append, hter, List.append_nil, hunseen]
      · rw [hq, hitems, failures_append, hfai, List.append_nil]
        exact hqueue
    · exact Or.inr (hclosed hc)
  · intro i
    rw [pollsOf_append, hpol, List.append_nil]
    exact h.ended_for_good i
  · intro i c p hc hmem hterm
    rw [pollsOf_append, hpol, List.append_nil] at hmem
    rcases hmark i c hc with hnone | ⟨d, hd, hdone⟩
    · rw [hnone] at hmem
      exact absurd hmem List.not_mem_nil
    · rw [← hdone]
      exact h.marked i d p hd hmem hterm
  · intro i hi
    rw [pollsOf_append, hpol, List.append_nil]
    exact h.unnumbered i (Nat.le_trans hlen hi)

-- The bridge takes an item: it goes to the end of both sides.
theorem Conserved.accepting (x x' : Exchange α) (es : List (Event α)) (hs : Sound x)
    (h : Conserved x es) (a : α) (left : Nat) (hp : x.producer ≠ .gone)
    (hb : x'.bridge = x.bridge.accepting a left) (hc : x'.consumers = x.consumers) :
    Conserved x' (es ++ [.accepted a]) := by
  have hfail := h.running hp
  have hnotold : ¬ Telling x := fun ht => hp (h.told ht).1
  have hparts : failures [Event.accepted a] = [] ∧ terminals [Event.accepted a] = [] ∧
      ∀ i, pollsOf i [Event.accepted a] = [] := ⟨rfl, rfl, fun _ => rfl⟩
  have hcons := consumer?_congr x x' hc
  refine ⟨?_, ?_, ?_, Or.inl ⟨?_, ?_⟩, ?_, ?_, ?_, ?_⟩
  · have hnone : yielded [Event.accepted a] = [] := rfl
    rw [accepted_append, yielded_append, h.order, hb, Bridge.items_accepting, hnone,
      List.append_nil, List.append_assoc]
    rfl
  · intro _
    rw [failures_append, hfail, hparts.1]
    rfl
  · rw [failures_append, hparts.1, List.append_nil]
    exact h.failures_le
  · rcases h.ending with hu | hc
    · rw [terminals_append, hu.1, hparts.2.1]
      rfl
    · exact absurd hc.1 hp
  · rcases hs.open_of_present x hp with ⟨_, hrun⟩
    have hord := hs.queue_orderly
    rw [hrun] at hord
    rw [failures_append, hfail, hparts.1, hb]
    have hnew := hord.snoc a false
    simp only [List.map_nil, List.append_nil]
    exact hnew.of_running
  · rintro (hr | ⟨i, c, hci, hdone⟩)
    · rw [hb] at hr
      exact absurd (Or.inl hr) hnotold
    · rw [hcons] at hci
      exact absurd (Or.inr ⟨i, c, hci, hdone⟩) hnotold
  · intro i
    rw [pollsOf_append, hparts.2.2, List.append_nil]
    exact h.ended_for_good i
  · intro i c p hci hmem
    rw [pollsOf_append, hparts.2.2, List.append_nil] at hmem
    rw [hcons] at hci
    exact h.marked i c p hci hmem
  · intro i hi
    rw [hc] at hi
    rw [pollsOf_append, hparts.2.2, List.append_nil]
    exact h.unnumbered i hi

-- The producer leaves: its error, if it has one, stands after the items.
theorem Conserved.concluding (x : Exchange α) (es : List (Event α)) (h : Conserved x es)
    (e : Option NetError) (hp : x.producer ≠ .gone) :
    Conserved { x with bridge := x.bridge.concluded e, producer := .gone, aside := [] }
      (es ++ e.toList.map .failed) := by
  rcases parts_of_leaving (α := α) e with ⟨hacc, hyie, hter, hfai, hpol⟩
  have hfail := h.running hp
  have hnotold : ¬ Telling x := fun ht => hp (h.told ht).1
  have hunseen : Unseen x es := by
    rcases h.ending with hu | hc
    · exact hu
    · exact absurd hc.1 hp
  have hqueue : x.bridge.queue = x.bridge.items.map .ok := by
    have := hunseen.2
    rwa [hfail, List.map_nil, List.append_nil] at this
  have hitems := Bridge.items_concluded x.bridge e
  refine ⟨?_, fun hpres => absurd rfl hpres, ?_, Or.inl ⟨?_, ?_⟩, ?_, ?_, ?_, ?_⟩
  · rw [accepted_append, yielded_append, hacc, hyie, List.append_nil, List.append_nil, hitems]
    exact h.order
  · rw [failures_append, hfail, hfai, List.nil_append]
    cases e with
    | none => exact Nat.zero_le _
    | some e => exact Nat.le_refl _
  · rw [terminals_append, hter, hunseen.1]
    rfl
  · rw [hitems, failures_append, hfail, hfai, ← hqueue]
    rfl
  · rintro (hr | hd)
    · exact absurd (Or.inl hr) hnotold
    · exact absurd (Or.inr hd) hnotold
  · intro i
    rw [pollsOf_append, hpol, List.append_nil]
    exact h.ended_for_good i
  · intro i c p hci hmem
    rw [pollsOf_append, hpol, List.append_nil] at hmem
    exact h.marked i c p hci hmem
  · intro i hi
    rw [pollsOf_append, hpol, List.append_nil]
    exact h.unnumbered i hi

-- The stream is closed for good, so whatever else is seen of it is its end.
theorem Closed.more (x x' : Exchange α) (es fs : List (Event α)) (h : Closed x es)
    (hp : x'.producer = .gone) (hq : x'.bridge.queue = []) (hfai : failures fs = [])
    (hter : terminals fs = [.ended]) : Closed x' (es ++ fs) := by
  rcases h with ⟨_, _, k, hk⟩
  refine ⟨hp, hq, k + 1, ?_⟩
  rw [terminals_append, failures_append, hter, hfai, List.append_nil, hk, List.append_assoc,
    List.replicate_succ']

-- What becomes of the end of the stream when a consumer looks.
theorem Conserved.ending_of_look (x : Exchange α) (es fs : List (Event α)) (hs : Sound x)
    (h : Conserved x es) (i : Nat) (c c' : Consumer) (p : Poll α) (b' : Bridge α)
    (hc : x.consumer? i = some c) (hl : Look x.bridge c p c' b') (hfai : failures fs = [])
    (hter : terminals fs = if p.isTerminal then [p] else []) (x' : Exchange α)
    (hx : x' = { x with bridge := b', consumers := x.consumers.set i (some c') }) :
    (p.isTerminal = true → Closed x' (es ++ fs)) ∧
      (p.isTerminal = false → Unseen x' (es ++ fs) ∨ Closed x' (es ++ fs)) := by
  rcases hs.seating.acting x i c hc with ⟨_, _, hr, hd⟩
  subst hx
  cases hl with
  | finished hdone =>
      have hclosed := h.told (Or.inr ⟨i, c, hc, hdone⟩)
      exact ⟨fun _ => hclosed.more x _ es fs hclosed.1 hclosed.2.1 hfai hter, by rintro ⟨⟩⟩
  | outside _ hout =>
      rw [hout] at hr
      have hclosed := h.told (Or.inl hr)
      exact ⟨fun _ => hclosed.more x _ es fs hclosed.1 hclosed.2.1 hfai hter, by rintro ⟨⟩⟩
  | item a rest _ _ hq =>
      refine ⟨by rintro ⟨⟩, fun _ => Or.inl ?_⟩
      rcases h.ending with ⟨hunseen, hqueue⟩ | ⟨_, hnil, _⟩
      · refine ⟨by rw [terminals_append, hunseen, hter]; rfl, ?_⟩
        have hitems : x.bridge.items = a :: rest.filterMap Except.toOption := by
          unfold Bridge.items
          rw [hq]
          rfl
        rw [hq, hitems, List.map_cons, List.cons_append, List.cons.injEq] at hqueue
        rw [failures_append, hfai, List.append_nil]
        exact hqueue.2
      · cases hnil.symm.trans hq
  | failure e rest _ _ hq =>
      refine ⟨fun _ => ?_, by rintro ⟨⟩⟩
      have hlast := (hq ▸ hs.queue_orderly : Orderly _ _).of_error
      refine ⟨hs.gone_iff.mp hlast.2, hlast.1, 0, ?_⟩
      rcases h.ending with ⟨hunseen, hqueue⟩ | ⟨_, hnil, _⟩
      · have hitems : x.bridge.items = [] := by
          unfold Bridge.items
          rw [hq, hlast.1]
          rfl
        rw [hq, hlast.1, hitems, List.map_nil, List.nil_append] at hqueue
        have hfail : failures es = [e] :=
          List.map_injective_iff.mpr (fun _ _ heq => Except.error.inj heq) hqueue.symm
        rw [terminals_append, failures_append, hunseen, hter, hfai, hfail]
        rfl
      · cases hnil.symm.trans hq
  | exhausted _ _ hq ht =>
      refine ⟨fun _ => ?_, by rintro ⟨⟩⟩
      have hgone := hs.gone_iff.mp ht
      rcases h.ending with ⟨hunseen, hqueue⟩ | hclosed
      · rw [hq, eq_comm, List.append_eq_nil_iff, List.map_eq_nil_iff, List.map_eq_nil_iff]
          at hqueue
        refine ⟨hgone, hq, 1, ?_⟩
        rw [terminals_append, failures_append, hunseen, hter, hfai, hqueue.2]
        rfl
      · exact hclosed.more x _ es fs hgone hq hfai hter
  | nothingYet _ _ hq ht =>
      refine ⟨by rintro ⟨⟩, fun _ => Or.inl ?_⟩
      rcases h.ending with ⟨hunseen, hqueue⟩ | ⟨hgone, _, _⟩
      · refine ⟨by rw [terminals_append, hunseen, hter]; rfl, ?_⟩
        rw [failures_append, hfai, List.append_nil]
        exact hqueue
      · have := hs.gone_iff.mpr hgone
        rw [ht] at this
        exact absurd this Bool.false_ne_true

-- A look receives the head of the queue, or tells of the end.
theorem Conserved.looking (x : Exchange α) (es : List (Event α)) (hs : Sound x)
    (h : Conserved x es) (i : Nat) (c c' : Consumer) (p : Poll α) (b' : Bridge α)
    (hc : x.consumer? i = some c) (hl : Look x.bridge c p c' b') :
    Conserved { x with bridge := b', consumers := x.consumers.set i (some c') }
      (es ++ ((x.bridge.lookGrants c).map (.granted i) ++ [.polled i p])) := by
  have hi := lt_of_consumer? x i c hc
  rcases hs.seating.acting x i c hc with ⟨hcs, _, hr, _⟩
  rcases Bridge.look_frame _ _ _ _ _ hl with ⟨hreadEnd, _, _, _, _, _⟩
  rcases Bridge.look_done _ _ _ _ _ hl with ⟨hmark, hover⟩
  rcases parts_of_look i (x.bridge.lookGrants c) p with ⟨hacc, hyie, hter, hfai, hpol⟩
  rcases h.ending_of_look x es _ hs i c c' p b' hc hl hfai hter _ rfl with ⟨hend, hgoing⟩
  have hcons : ∀ j d, Exchange.consumer?
      { x with bridge := b', consumers := x.consumers.set i (some c') } j = some d →
        j = i ∧ d = c' := by
    intro j d hj
    rw [consumer?_set x _ i (some c') hi rfl, hcs] at hj
    by_cases hji : j = i
    · rw [if_pos hji, Option.some.injEq] at hj
      exact ⟨hji, hj.symm⟩
    · rw [if_neg hji, if_neg hji] at hj
      cases hj
  refine ⟨?_, fun hpres => ?_, ?_, ?_, ?_, fun j => ?_, fun j d q hj hmem hq => ?_,
    fun j hj => ?_⟩
  · rw [accepted_append, yielded_append, hacc, hyie, List.append_nil, h.order,
      Bridge.look_items _ _ _ _ _ hl, List.append_assoc]
  · rw [failures_append, hfai, List.append_nil]
    exact h.running hpres
  · rw [failures_append, hfai, List.append_nil]
    exact h.failures_le
  · cases hp : p.isTerminal with
    | true => exact Or.inr (hend hp)
    | false => exact hgoing hp
  · -- Being told requires a reader that is done, or a queue that was given up before.
    intro htell
    cases hp : p.isTerminal with
    | true => exact hend hp
    | false =>
        have hnotold : Telling x → False := by
          intro ht
          have hclosed := h.told ht
          cases hl with
          | finished _ | outside _ _ | failure _ _ _ _ _ | exhausted _ _ _ _ =>
              cases hp
          | item a rest _ _ hq => cases hclosed.2.1.symm.trans hq
          | nothingYet _ _ _ hrun =>
              rw [hs.gone_iff.mpr hclosed.1] at hrun
              cases hrun
        rcases htell with hdrop | ⟨j, d, hj, hdone⟩
        · exact absurd (Or.inl (hreadEnd.symm.trans hdrop)) hnotold
        · have hd := (hcons j d hj).2
          subst hd
          cases hl with
          | finished hdone => exact absurd (Or.inr ⟨i, c, hc, hdone⟩) hnotold
          | outside _ _ | failure _ _ _ _ _ | exhausted _ _ _ _ => cases hp
          | item _ _ hrun _ _ | nothingYet hrun _ _ _ =>
              exact absurd (hrun.symm.trans hdone) Bool.false_ne_true
  · rw [pollsOf_append, hpol]
    by_cases hj : i = j
    · rw [if_pos hj, List.pairwise_append]
      refine ⟨h.ended_for_good j, List.pairwise_singleton _ _, fun q hq r hmem hterm => ?_⟩
      rw [List.mem_singleton] at hmem
      rw [hmem]
      exact (hover (h.marked i c q hc (hj ▸ hq) hterm)).2
    · rw [if_neg hj, List.append_nil]
      exact h.ended_for_good j
  · rcases hcons j d hj with ⟨hji, hd⟩
    rw [pollsOf_append, hpol, if_pos hji.symm, List.mem_append, List.mem_singleton] at hmem
    rw [hd]
    rcases hmem with hold | hnew
    · exact (hover (h.marked i c q hc (hji ▸ hold) hq)).1
    · exact hmark (hnew ▸ hq)
  · have hne : i ≠ j := by
      intro heq
      rw [List.length_set] at hj
      omega
    rw [List.length_set] at hj
    rw [pollsOf_append, hpol, if_neg hne, List.append_nil]
    exact h.unnumbered j hj

theorem Conserved.attaching (x : Exchange α) (es : List (Event α)) (hs : Sound x)
    (h : Conserved x es) (mode : Mode) (hat : x.bridge.attached = false) :
    Conserved { x with
      bridge := x.bridge.seated, consumers := x.consumers ++ [some (x.bridge.newcomer mode)] }
      (es ++ []) := by
  have hheld := (hs.seating.vacancy x hat).2.2
  have hcons := consumer?_append x { x with
    bridge := x.bridge.seated, consumers := x.consumers ++ [some (x.bridge.newcomer mode)] }
    (x.bridge.newcomer mode) rfl
  refine h.still x _ es [] silent_nil rfl Iff.rfl ?_ (fun i c hci => ?_) ?_
  · rintro (hr | ⟨i, c, hci, hdone⟩)
    · cases hrd : x.bridge.readEnd with
      | parked => simp only [Bridge.seated, hrd, if_true, reduceCtorEq] at hr
      | held => exact absurd hrd hheld
      | dropped => exact Or.inl hrd
    · rw [hcons] at hci
      by_cases hi : i = x.consumers.length
      · rw [if_pos hi, Option.some.injEq] at hci
        rw [← hci] at hdone
        cases hdone
      · rw [if_neg hi] at hci
        exact Or.inr ⟨i, c, hci, hdone⟩
  · rw [hcons] at hci
    by_cases hi : i = x.consumers.length
    · exact Or.inl (h.unnumbered i (Nat.le_of_eq hi.symm))
    · rw [if_neg hi] at hci
      exact Or.inr ⟨c, hci, rfl⟩
  · rw [List.length_append]
    exact Nat.le_add_right _ _

-- A consumer that leaves takes nothing away that was not already gone.
theorem Conserved.leaving (x : Exchange α) (es : List (Event α)) (hs : Sound x)
    (h : Conserved x es) (i : Nat) (c : Consumer) (hc : x.consumer? i = some c) :
    Conserved { x with bridge := x.bridge.detach c, consumers := x.consumers.set i none }
      (es ++ []) := by
  rcases hs.seating.acting x i c hc with ⟨_, _, hr, hd⟩
  have hstay : ∀ j d, Exchange.consumer?
      { x with bridge := x.bridge.detach c, consumers := x.consumers.set i none } j = some d →
        x.consumer? j = some d := by
    intro j d hj
    rw [consumer?_set x _ i none (lt_of_consumer? x i c hc) rfl] at hj
    by_cases hji : j = i
    · rw [if_pos hji] at hj
      cases hj
    · rwa [if_neg hji] at hj
  refine h.still x _ es [] silent_nil ?_ Iff.rfl ?_
    (fun j d hj => Or.inr ⟨d, hstay j d hj, rfl⟩) (Nat.le_of_eq List.length_set.symm)
  · unfold Bridge.detach
    by_cases hread : c.reads = true
    · by_cases hdone : c.done = true
      · simp only [hread, hdone, Bool.not_true, Bool.false_eq_true, if_false, if_true]
        exact (hd hdone).2.symm
      · simp only [hread, hdone, Bool.not_true, Bool.false_eq_true, if_false]
    · simp only [hread, Bool.not_false, if_true]
  · rintro (hdrop | ⟨j, d, hj, hdone⟩)
    · unfold Bridge.detach at hdrop
      by_cases hread : c.reads = true
      · by_cases hdone : c.done = true
        · exact Or.inr ⟨i, c, hc, hdone⟩
        · simp only [hread, hdone, Bool.not_true, Bool.false_eq_true, if_false, reduceCtorEq]
            at hdrop
      · rw [if_neg hread] at hr
        exact Or.inl hr
    · exact Or.inr ⟨j, d, hstay j d hj, hdone⟩

theorem conserved_effect (x x' : Exchange α) (es fs : List (Event α)) (hs : Sound x)
    (h : Conserved x es) (he : Effect x fs x') : Conserved x' (es ++ fs) := by
  cases he with
  | quiet _ hb hc hp _ =>
      have hcons := consumer?_congr x x' hc
      refine h.still x x' es [] silent_nil (by rw [hb]) hp ?_ (fun i c hci => ?_)
        (Nat.le_of_eq (congrArg List.length hc).symm)
      · rintro (hr | ⟨i, c, hci, hdone⟩)
        · exact Or.inl (hb ▸ hr)
        · exact Or.inr ⟨i, c, hcons i ▸ hci, hdone⟩
      · exact Or.inr ⟨c, hcons i ▸ hci, rfl⟩
  | attached mode hat => exact h.attaching x es hs mode hat
  | requested i n c hc =>
      unfold Bridge.request
      by_cases hdone : c.done = true
      · rw [if_pos hdone]
        exact h.still x x es _ (silent_granted i _) rfl Iff.rfl id
          (fun _ d hd => Or.inr ⟨d, hd, rfl⟩) (Nat.le_refl _)
      · rw [if_neg hdone]
        exact h.still x _ es _ (silent_granted i _) rfl Iff.rfl id
          (fun _ d hd => Or.inr ⟨d, hd, rfl⟩) (Nat.le_refl _)
  | looked i c c' p b' hc hl => exact h.looking x es hs i c c' p b' hc hl
  | left i c hc => exact h.leaving x es hs i c hc
  | abandoned =>
      exact h.still x _ es [] silent_nil rfl Iff.rfl id (fun _ d hd => Or.inr ⟨d, hd, rfl⟩)
        (Nat.le_refl _)
  | accepted _ a left hp _ hb hc _ => exact h.accepting x x' es hs a left hp hb hc
  | concluded e hp => exact h.concluding x es e hp

theorem conserved_after (x : Exchange α) (es : List (Event α)) (hs : Sound x)
    (h : Conserved x es) (steps : List (Step α)) :
    Conserved (x.after steps) (es ++ x.history steps) := by
  induction steps generalizing x es with
  | nil =>
      rw [history, List.append_nil]
      exact h
  | cons s rest ih =>
      have he := step_effect x hs s
      rw [history, ← List.append_assoc]
      exact ih (x.step s).2 _ (effect_sound x _ _ hs he) (conserved_effect x _ es _ hs h he)

-- A look that tells of the end comes after the producer and after every item.
theorem Conserved.end_after_items (x : Exchange α) (es : List (Event α)) (hs : Sound x)
    (h : Conserved x es) (i : Nat) (p : Poll α) (hstep : (x.step (.poll i)).1 = .polled p)
    (hp : p.isTerminal = true) : x.producer = .gone ∧ yielded es = accepted es := by
  cases hc : x.consumer? i with
  | none =>
      simp only [step, hc, reduceCtorEq] at hstep
  | some c =>
      simp only [step, hc, Answer.polled.injEq] at hstep
      subst hstep
      have hl := Bridge.poll_look x.bridge c
      rcases parts_of_look i (x.bridge.lookGrants c) (x.bridge.poll c).1 with
        ⟨hacc, hyie, hter, hfai, _⟩
      have hclosed := (h.ending_of_look x es _ hs i c _ _ _ hc hl hfai hter _ rfl).1 hp
      have horder := (h.looking x es hs i c _ _ _ hc hl).order
      refine ⟨hclosed.1, ?_⟩
      rw [accepted_append, yielded_append, hacc, hyie, Poll.item?_of_terminal _ hp,
        Option.toList_none, List.append_nil, List.append_nil] at horder
      rw [horder]
      unfold Bridge.items
      rw [hclosed.2.1, List.filterMap_nil, List.append_nil]

-- What was accepted is what was received and then what is still queued. The end of the
-- stream is told only after the producer left and everything was received; an error
-- that the producer left with is told once, before anything else is told of the end,
-- and a consumer that was told of the end is told of nothing but the end from then
-- on.
theorem accepted_in_order_and_one_end (steps : List (Step α)) :
    accepted (empty.history steps)
        = yielded (empty.history steps) ++ (empty.after steps).bridge.items ∧
      (∀ i p, ((empty.after steps).step (.poll i)).1 = .polled p → p.isTerminal = true →
        (empty.after steps).producer = .gone ∧
          yielded (empty.history steps) = accepted (empty.history steps)) ∧
      (terminals (empty.history steps) = [] ∨
        ∃ k, terminals (empty.history steps)
          = (failures (empty.history steps)).map .failed ++ List.replicate k .ended) ∧
      (failures (empty.history steps)).length ≤ 1 ∧
      ∀ i, (pollsOf i (empty.history steps)).Pairwise
        fun p q => p.isTerminal = true → q = .ended := by
  have hs : Sound (empty.after steps) := after_sound empty empty_sound steps
  have h : Conserved (empty.after steps) (empty.history steps) :=
    conserved_after empty [] empty_sound empty_conserved steps
  refine ⟨h.order, fun i p => h.end_after_items _ _ hs i p, ?_, h.failures_le,
    h.ended_for_good⟩
  rcases h.ending with hunseen | hclosed
  · exact Or.inl hunseen.1
  · exact Or.inr hclosed.2.2

/-- One consumer leaves after the first of three items; the third waits in the producer's
    hands until the next consumer asks. -/
example : yielded ((empty : Exchange Nat).history
    [.attach .manual, .request 0 2, .emit 1, .emit 2, .poll 0, .detach 0, .deliver 3,
      .attach .manual, .request 1 1, .poll 1, .pollDelivery, .poll 1]) = [1, 2, 3] := by
  rfl

end Exchange

end Flow

end DemandNet
