import DemandNet.Config.Validation
import DemandNet.Proofs.Schedule
import DemandNet.Proofs.Server.Slots
import DemandNet.Server.Listener

/-!
# What a Listener Promises

A listener has as many slots as were configured, however its accepts and connections overlap.

An accept takes several turns, and between any two of them others may begin, fail or be given
up, and connections may end. What the listener promises is therefore promised in every state
that some schedule leads to. Nothing has to be known of how the state came about: that all
slots are accounted for is kept by every turn, and the promises follow from it.

Whether a listener comes about at all is another matter. The options are checked by
themselves, and that there are at least some slots is all that is asked of their number. The
slots are counted in a number that does not go as far, so there are valid options for which
the attempt to listen breaks off.

## Main definitions

* `Host.Free`: An address that can be bound.
* `Listener.Turn`, `Listener.turn`: What can happen to a listener, one by one.
* `Listener.Limits`: What a listener promises in one state.

## Theorems

* `Listener.kept_turn`, `Listener.kept_after`: All slots are accounted for, at all times.
* `Listener.accept_runs`: An accept that does not wait is two turns in a row.
* `Listener.slots_accounted`: A listener for valid options, if it can count its slots.
-/

namespace DemandNet

namespace Server

open Address

/-- The address can be bound, and nobody has it. -/
def Host.Free (h : Host) (a : Socket) : Prop :=
  Host.canBind a.ip = true ∧ (a.port = 0 ∨ a ∉ h.taken)

theorem Host.bindFor_of_free (h : Host) (configured : String) (a : Socket) (hfree : h.Free a) :
    ∃ bound h', h.bindFor configured a = .ok (bound, h') ∧ bound.ip = a.ip ∧
      (a.port ≠ 0 → bound = a) := by
  rcases hfree with ⟨hcan, hport⟩
  unfold Host.bindFor Host.bind
  rw [hcan]
  by_cases hzero : a.port = 0
  · rw [if_neg (by decide), if_pos hzero]
    exact ⟨_, _, rfl, rfl, fun hne => absurd hzero hne⟩
  · have hnot : h.taken.contains a = false := by
      rw [Bool.eq_false_iff, ne_eq, List.contains_iff_mem]
      exact hport.resolve_left hzero
    rw [if_neg (by decide), if_neg hzero, hnot, if_neg Bool.false_ne_true]
    exact ⟨_, _, rfl, rfl, fun _ => rfl⟩

namespace Listener

/-- What can happen to a listener. -/
inductive Turn where
  /-- Somebody connects. -/
  | connect (peer : Ip)
  /-- An accept begins. -/
  | begin
  /-- An accept that has a slot takes whoever is first in the queue. -/
  | take (i : Nat)
  /-- The system has no connection for an accept that has a slot, but an error. -/
  | fail (i : Nat)
  /-- An accept is given up, whether or not it has a slot. -/
  | abandon (i : Nat)
  /-- A connection ends. -/
  | release (i : Nat)
  deriving Repr, DecidableEq

/-- The connection that an accept hands out, if it has a slot and somebody has connected. -/
def take? (l : Listener) (i : Nat) : Option (Ip × Listener) :=
  match l.slots.holder i, l.backlog with
  | .accepting, peer :: rest =>
      some (peer, { l with slots := l.slots.complete i, backlog := rest })
  | _, _ => none

/-- A listener after a turn; a turn that is not possible changes nothing. -/
def turn (l : Listener) : Turn → Listener
  | .connect peer => l.connect peer
  | .begin => { l with slots := l.slots.begin.2 }
  | .take i =>
      match l.take? i with
      | some (_, l') => l'
      | none => l
  | .fail i =>
      if l.slots.holder i = .accepting then { l with slots := l.slots.giveUp i } else l
  | .abandon i => { l with slots := l.slots.giveUp i }
  | .release i => l.release i

/-- What a listener with `n` slots promises. -/
structure Limits (n : Nat) (l : Listener) : Prop where
  configured : l.maxConnections = n
  account : l.slots.live + l.slots.available = n
  /-- An accept has a slot at once if not all are in use, and waits for one otherwise. -/
  begins : (l.turn .begin).slots.holder l.slots.holders.length =
    if l.slots.live < n then .accepting else .waiting
  /-- Whoever waits gets no connection, and waits because all slots are in use. -/
  waits : ∀ i, l.slots.holder i = .waiting → l.take? i = none ∧ l.slots.live = n
  /-- Whoever gets a connection has a slot, with fewer than `n` beside it, and keeps it. -/
  hands : ∀ i peer l', l.take? i = some (peer, l') →
    l.slots.holder i = .accepting ∧ (l.slots.put i .gone).live < n ∧
      l'.slots = l.slots.put i .connected ∧ l'.slots.live = l.slots.live
  /-- An accept that does not wait hands out a connection if one is there, and a slot. -/
  accepts : l.accept.1 =
    if l.slots.live < n then l.backlog.head?.map (l.slots.holders.length, ·) else none
  /-- An accept that does not come to its end returns its slot. -/
  returns : ∀ i, l.slots.holder i = .accepting → ∀ t, t = .fail i ∨ t = .abandon i →
    Slots.Returned (l.slots.put i .gone) (l.turn t).slots
  /-- Who gives up waiting takes no slot along. -/
  leaves : ∀ i, l.slots.holder i = .waiting → (l.turn (.abandon i)).slots = l.slots.put i .gone
  /-- A connection that ends returns its slot. -/
  ends : ∀ i, l.slots.holder i = .connected →
    Slots.Returned (l.slots.put i .gone) (l.turn (.release i)).slots

/-! ### What every turn keeps -/

theorem take?_eq_some (l : Listener) (i : Nat) (peer : Ip) (l' : Listener)
    (ht : l.take? i = some (peer, l')) :
    l.slots.holder i = .accepting ∧ l.backlog = peer :: l'.backlog ∧
      l' = { l with slots := l.slots.put i .connected, backlog := l'.backlog } := by
  unfold take? at ht
  cases hi : l.slots.holder i with
  | accepting =>
      cases hqueue : l.backlog with
      | nil => simp only [hi, hqueue, reduceCtorEq] at ht
      | cons first rest =>
          simp only [hi, hqueue, Option.some.injEq, Prod.mk.injEq] at ht
          rcases ht with ⟨rfl, rfl⟩
          refine ⟨rfl, rfl, ?_⟩
          rw [Slots.complete, if_pos hi]
  | waiting | connected | gone => simp only [hi, reduceCtorEq] at ht

theorem kept_turn (n : Nat) (l : Listener) (h : Slots.Kept n l.slots) (t : Turn) :
    Slots.Kept n (l.turn t).slots := by
  cases t with
  | connect peer => exact h
  | begin => exact h.begin
  | take i =>
      cases ht : l.take? i with
      | none =>
          simp only [turn, ht]
          exact h
      | some taken =>
          rcases take?_eq_some l i taken.1 taken.2 ht with ⟨hi, -, hl'⟩
          have hkept := h.complete n l.slots i
          rw [Slots.complete, if_pos hi] at hkept
          simp only [turn, ht]
          rw [hl']
          exact hkept
  | fail i =>
      by_cases hi : l.slots.holder i = .accepting
      · simp only [turn, if_pos hi]
        exact h.giveUp n l.slots i
      · simp only [turn, if_neg hi]
        exact h
  | abandon i => exact h.giveUp n l.slots i
  | release i => exact h.release n l.slots i

-- By induction on the schedule, one turn after the other.
theorem kept_after (n : Nat) (l : Listener) (h : Slots.Kept n l.slots) (ts : List Turn) :
    Slots.Kept n (Schedule.after turn l ts).slots := by
  induction ts generalizing l with
  | nil => exact h
  | cons t rest ih => exact ih (l.turn t) (kept_turn n l h t)

theorem maxConnections_turn (l : Listener) (t : Turn) :
    (l.turn t).maxConnections = l.maxConnections := by
  cases t with
  | connect peer | begin | abandon i | release i => rfl
  | take i =>
      cases ht : l.take? i with
      | none => simp only [turn, ht]
      | some taken =>
          simp only [turn, ht]
          rw [(take?_eq_some l i taken.1 taken.2 ht).2.2]
  | fail i =>
      by_cases hi : l.slots.holder i = .accepting
      · simp only [turn, if_pos hi]
      · simp only [turn, if_neg hi]

/-! ### An accept that does not wait -/

theorem begin_fst (s : Slots) : s.begin.1 = s.holders.length := by
  unfold Slots.begin
  by_cases hfree : 0 < s.available
  · rw [if_pos hfree]
  · rw [if_neg hfree]

-- Begun, and then either handed out or given up.
theorem accept_runs (l : Listener) : ∃ t, l.accept.2 = Schedule.after turn l [.begin, t] := by
  cases hi : l.slots.begin.2.holder l.slots.begin.1 with
  | accepting =>
      cases hqueue : l.backlog with
      | nil =>
          refine ⟨.abandon l.slots.begin.1, ?_⟩
          simp only [accept, hi, hqueue, Schedule.after, List.foldl, turn]
      | cons peer rest =>
          refine ⟨.take l.slots.begin.1, ?_⟩
          simp only [accept, hi, hqueue, Schedule.after, List.foldl, turn, take?]
  | waiting | connected | gone =>
      refine ⟨.abandon l.slots.begin.1, ?_⟩
      simp only [accept, hi, Schedule.after, List.foldl, turn]

theorem accept_answer (n : Nat) (l : Listener) (h : Slots.Kept n l.slots) :
    l.accept.1 =
      if l.slots.live < n then l.backlog.head?.map (l.slots.holders.length, ·) else none := by
  have hi := h.holder_begin
  by_cases hlive : l.slots.live < n
  · rw [if_pos hlive] at hi
    rw [if_pos hlive, ← begin_fst]
    cases hqueue : l.backlog with
    | nil => simp only [accept, hi, hqueue, List.head?_nil, Option.map_none]
    | cons peer rest => simp only [accept, hi, hqueue, List.head?_cons, Option.map_some]
  · rw [if_neg hlive] at hi
    rw [if_neg hlive]
    simp only [accept, hi]

/-! ### What is promised -/

theorem limits_of_kept (n : Nat) (l : Listener) (hn : l.maxConnections = n)
    (h : Slots.Kept n l.slots) : Limits n l where
  configured := hn
  account := h.account
  begins := by
    rw [← begin_fst]
    exact h.holder_begin
  waits := by
    intro i hi
    have hacc := h.account
    have hzero := h.scarce i hi
    refine ⟨?_, by omega⟩
    simp only [take?, hi]
  hands := by
    intro i peer l' ht
    rcases take?_eq_some l i peer l' ht with ⟨hi, -, hl'⟩
    have hslots : l'.slots = l.slots.put i .connected := by rw [hl']
    have hlt := Slots.lt_of_holder l.slots i (by rw [hi]; exact Holder.noConfusion)
    have hacc := h.account
    have hgone := Slots.live_put l.slots i .gone hlt
    have hsame := Slots.live_put l.slots i .connected hlt
    rw [hi] at hgone hsame
    simp only [Holder.share, Holder.isLive, Bool.false_eq_true, if_false, if_true] at hgone hsame
    refine ⟨hi, by omega, hslots, ?_⟩
    rw [hslots]
    exact Nat.add_right_cancel hsame
  accepts := accept_answer n l h
  returns := by
    rintro i hi t (rfl | rfl)
    · simp only [turn, Slots.giveUp, hi, if_true]
      exact Slots.give_returned _
    · simp only [turn, Slots.giveUp, hi]
      exact Slots.give_returned _
  leaves := by
    intro i hi
    simp only [turn, Slots.giveUp, hi]
  ends := by
    intro i hi
    simp only [turn, release, Slots.release, if_pos hi]
    exact Slots.give_returned _

-- Valid options ask for at least one slot, and the number of slots is all that matters then.
theorem bind_of_valid (h : Host) (o : Config.ServerOptions) (a : Socket)
    (hvalid : o.problems = []) (haddr : o.socketAddress? = some a) (hfree : h.Free a) :
    1 ≤ o.maxConnections ∧
    (Slots.limit < o.maxConnections → bind h o = .overflow) ∧
    (o.maxConnections ≤ Slots.limit → ∃ l h', bind h o = .bound l h' ∧
      l.address.ip = a.ip ∧ (a.port ≠ 0 → l.address = a) ∧
      l.maxConnections = o.maxConnections ∧
      l.slots = { available := o.maxConnections, holders := [] }) := by
  have hpos : 1 ≤ o.maxConnections := by
    unfold Config.ServerOptions.problems at hvalid
    simp only [List.append_eq_nil_iff, Config.problemIf, ite_eq_right_iff, reduceCtorEq,
      imp_false, Bool.not_eq_true, beq_eq_false_iff_ne] at hvalid
    omega
  rcases h.bindFor_of_free o.bindAddress a hfree with ⟨address, h', hbound, hip, hport⟩
  unfold Config.ServerOptions.socketAddress? at haddr
  refine ⟨hpos, fun hlarge => ?_, fun hsmall => ?_⟩
  · have hnone : Slots.ofSize? o.maxConnections = none := by
      rw [Slots.ofSize?, if_neg (by omega)]
    simp only [bind, haddr, hbound, hnone]
  · refine ⟨⟨address, o.maxConnections, ⟨o.maxConnections, []⟩, []⟩, h', ?_, hip, hport, rfl, rfl⟩
    simp only [bind, haddr, hbound, (Slots.kept_ofSize? _ hpos hsmall).1]

-- Whatever the order of what happens, every slot is accounted for, a connection is handed out
-- only to somebody who has one of them, and whoever is done with a slot returns it, to the one
-- who has waited longest if somebody has. With more slots than can be counted there is no
-- listener at all.
theorem slots_accounted (h : Host) (o : Config.ServerOptions) (a : Socket)
    (hvalid : o.problems = []) (haddr : o.socketAddress? = some a) (hfree : h.Free a) :
    1 ≤ o.maxConnections ∧
    (Slots.limit < o.maxConnections → bind h o = .overflow) ∧
    (o.maxConnections ≤ Slots.limit → ∃ l h', bind h o = .bound l h' ∧
      l.address.ip = a.ip ∧ (a.port ≠ 0 → l.address = a) ∧
      l.slots.available = o.maxConnections ∧
      ∀ ts, Limits o.maxConnections (Schedule.after turn l ts)) := by
  rcases bind_of_valid h o a hvalid haddr hfree with ⟨hpos, hlarge, hsmall⟩
  refine ⟨hpos, hlarge, fun hle => ?_⟩
  rcases hsmall hle with ⟨l, h', hbound, hip, hport, hmax, hslots⟩
  refine ⟨l, h', hbound, hip, hport, by rw [hslots], fun ts => ?_⟩
  refine limits_of_kept _ _ ?_ (kept_after _ l ?_ ts)
  · exact (Schedule.kept_after maxConnections_turn ts l).trans hmax
  · rw [hslots]
    exact (Slots.kept_ofSize? _ hpos hle).2

/-- Options for a listener at any free port of the host itself. -/
def localOptions (n : Nat) : Config.ServerOptions :=
  { bindAddress := "127.0.0.1:0", maxConnections := n }

theorem slots_accounted_one :
    (localOptions 1).problems = [] ∧
    (localOptions 1).socketAddress? = some ⟨.v4 .localhost, 0, 0⟩ ∧
    Host.fresh.Free ⟨.v4 .localhost, 0, 0⟩ ∧
    ∃ l h', bind Host.fresh (localOptions 1) = .bound l h' ∧ l.slots.available = 1 ∧
      ∀ ts, Limits 1 (Schedule.after turn l ts) := by
  have hvalid : (localOptions 1).problems = [] := by decide
  have haddr : (localOptions 1).socketAddress? = some ⟨.v4 .localhost, 0, 0⟩ := by rfl
  have hfree : Host.fresh.Free ⟨.v4 .localhost, 0, 0⟩ := ⟨rfl, Or.inl rfl⟩
  rcases slots_accounted Host.fresh (localOptions 1) _ hvalid haddr hfree with ⟨-, -, hbound⟩
  rcases hbound (by decide) with ⟨l, h', hbound, -, -, hone, hlimits⟩
  exact ⟨hvalid, haddr, hfree, l, h', hbound, hone, hlimits⟩

-- One connection more than there are slots to be counted is valid as well.
theorem valid_options_overflow :
    (localOptions (Slots.limit + 1)).problems = [] ∧
    (localOptions (Slots.limit + 1)).socketAddress? = some ⟨.v4 .localhost, 0, 0⟩ ∧
    Host.fresh.Free ⟨.v4 .localhost, 0, 0⟩ ∧
    bind Host.fresh (localOptions (Slots.limit + 1)) = .overflow := by
  refine ⟨by decide, by rfl, ⟨rfl, Or.inl rfl⟩, by rfl⟩

end Listener

end Server

end DemandNet
