import DemandNet.Lifecycle.Signal
import DemandNet.Proofs.Schedule
import Mathlib.Data.List.Induction

/-!
# What Listeners Are Told

The shutdown signal and its listeners, after anything that was done with them.

What a listener sees does not depend on when it was made or where it came from, but only on
what the coordinator did while it was there: whether it drained, whether it forced, and
whether it is gone. Of these nothing is taken back, so a wait that is over stays over, for
every listener there will be.

The two waits count a coordinator that is gone as one that forced. The flag does not: it only
asks how far the signal was raised. So it stays down, although both waits are over, if the
coordinator went away without a word, and in no other case.

## Main definitions

* `Act`, `Signal.act`, `Signal.after`: What is done with a signal, one by one and in a row.
* `called`: What was done while the coordinator was there.
* `Passage`, `passagesOf`: The listeners that came and went.
* `Standing`: How the signal stands after what was done.
* `Told`: What a listener sees.

## Theorems

* `standing_after`: The signal stands as it was left by the coordinator.
* `passages_account`: The listeners that came are there or went.
* `seen_by_every_listener`: What every listener sees, and how many there are.
* `unraised_drop_not_draining`: A coordinator that goes away without a word.
-/

namespace DemandNet

namespace Lifecycle

namespace Signal

/-- What can be done with a signal. -/
inductive Act where
  | subscribe
  /-- A listener is made from another one. -/
  | clone (i : Nat)
  | unsubscribe (i : Nat)
  | drain
  | force
  /-- The coordinator goes away. -/
  | drop
  deriving Repr, DecidableEq

/-- A signal after an act. What takes the coordinator is not done without it. -/
def act (s : Signal) : Act → Signal
  | .subscribe => (s.subscribe?.map Prod.snd).getD s
  | .clone i => (s.clone i).2
  | .unsubscribe i => s.unsubscribe i
  | .drain => if s.coordinated then s.drain else s
  | .force => if s.coordinated then s.force else s
  | .drop => s.drop

/-- A fresh signal after acts in a row. -/
def after (acts : List Act) : Signal := Schedule.after act fresh acts

/-- The acts until the coordinator goes away. -/
def called (acts : List Act) : List Act := Schedule.upTo (· == .drop) acts

/-- What happens to the listeners. -/
inductive Passage where
  | comes
  | goes
  deriving Repr, DecidableEq

/-- The listener that comes or goes with an act, if it does. -/
def passages (s : Signal) : Act → List Passage
  | .subscribe => if s.coordinated then [.comes] else []
  | .clone i => if s.listens i then [.comes] else []
  | .unsubscribe i => if s.listens i then [.goes] else []
  | _ => []

/-- The listeners that came and went, in order. -/
def passagesOf (acts : List Act) : List Passage := Schedule.watch act passages fresh acts

/-- The signal stands as the coordinator left it. -/
structure Standing (acts : List Act) (s : Signal) : Prop where
  coordinated_iff : s.coordinated = true ↔ .drop ∉ acts
  forced_iff : s.level = .forced ↔ .force ∈ called acts
  running_iff : s.level = .running ↔ .drain ∉ called acts ∧ .force ∉ called acts

/-- What a listener sees after acts. -/
structure Told (acts : List Act) (i : Nat) : Prop where
  forced : (after acts).seenBy i forcedDone = some true ↔ .force ∈ called acts ∨ .drop ∈ acts
  draining : (after acts).seenBy i drainingDone = some true ↔
    .drain ∈ called acts ∨ .force ∈ called acts ∨ .drop ∈ acts
  raised : (after acts).seenBy i isDraining = some true ↔
    .drain ∈ called acts ∨ .force ∈ called acts
  draining_of_forced : (after acts).seenBy i forcedDone = some true →
    (after acts).seenBy i drainingDone = some true
  /-- The flag and the wait differ only if the coordinator went away without a word. -/
  differ_iff : (after acts).seenBy i isDraining ≠ (after acts).seenBy i drainingDone ↔
    .drop ∈ acts ∧ .drain ∉ called acts ∧ .force ∉ called acts
  /-- All others see the same. -/
  agree : ∀ j, (after acts).listens j = true →
    (after acts).seenBy j forcedDone = (after acts).seenBy i forcedDone ∧
      (after acts).seenBy j drainingDone = (after acts).seenBy i drainingDone ∧
      (after acts).seenBy j isDraining = (after acts).seenBy i isDraining
  /-- Whoever listens later sees it too. -/
  stays : ∀ more j, (after (acts ++ more)).listens j = true →
    ((after acts).seenBy i forcedDone = some true →
        (after (acts ++ more)).seenBy j forcedDone = some true) ∧
      ((after acts).seenBy i drainingDone = some true →
        (after (acts ++ more)).seenBy j drainingDone = some true) ∧
      ((after acts).seenBy i isDraining = some true →
        (after (acts ++ more)).seenBy j isDraining = some true)

/-! ### The coordinator -/

theorem after_concat (acts : List Act) (a : Act) : after (acts ++ [a]) = (after acts).act a :=
  Schedule.after_append fresh acts [a]

theorem called_of_not_dropped {acts : List Act} (h : .drop ∉ acts) : called acts = acts := by
  exact Schedule.upTo_eq_self _ acts fun a ha =>
    beq_eq_false_iff_ne.2 (ne_of_mem_of_not_mem ha h)

theorem act_coordinated (s : Signal) (a : Act) :
    (s.act a).coordinated = true ↔ s.coordinated = true ∧ a ≠ .drop := by
  cases a with
  | subscribe | drain | force =>
      unfold act subscribe? drain force
      by_cases hc : s.coordinated = true
      · simp only [hc, if_true, Option.map_some, Option.getD_some, ne_eq, reduceCtorEq,
          not_false_eq_true, and_self, apply_ite Signal.coordinated, ite_self]
      · simp only [hc, Bool.false_eq_true, if_false, Option.map_none, Option.getD_none, false_and]
  | clone i => simp only [act, clone, ne_eq, reduceCtorEq, not_false_eq_true, and_true]
  | unsubscribe i => simp only [act, unsubscribe, ne_eq, reduceCtorEq, not_false_eq_true, and_true]
  | drop => simp only [act, drop, Bool.false_eq_true, ne_eq, not_true_eq_false, and_false]

/-- How far an act of the coordinator raises the signal. -/
def raisedBy (l : Level) : Act → Level
  | .drain => if l = .running then .draining else l
  | .force => .forced
  | _ => l

theorem act_level (s : Signal) (a : Act) :
    (s.act a).level = if s.coordinated then raisedBy s.level a else s.level := by
  cases a with
  | subscribe | drain | force =>
      unfold act subscribe? drain force raisedBy
      by_cases hc : s.coordinated = true
      · simp only [hc, if_true, Option.map_some, Option.getD_some, apply_ite Signal.level]
      · simp only [hc, Bool.false_eq_true, if_false, Option.map_none, Option.getD_none]
  | clone i | unsubscribe i | drop => exact (ite_self s.level).symm

theorem standing_act {acts : List Act} {s : Signal} (h : Standing acts s) (a : Act) :
    Standing (acts ++ [a]) (s.act a) := by
  have hcoordinated : (s.act a).coordinated = true ↔ .drop ∉ acts ++ [a] := by
    rw [act_coordinated, h.coordinated_iff, List.mem_append, List.mem_singleton, not_or, ne_comm]
  by_cases hdrop : .drop ∈ acts
  · -- Without a coordinator the signal stands as it did.
    have hgone : ¬ s.coordinated = true := fun hc => h.coordinated_iff.1 hc hdrop
    have hlevel : (s.act a).level = s.level := by rw [act_level, if_neg hgone]
    have hcalled : called (acts ++ [a]) = called acts :=
      Schedule.upTo_append_of_mem (· == Act.drop) rfl [a] acts hdrop
    refine ⟨hcoordinated, ?_, ?_⟩
    · rw [hlevel, hcalled]
      exact h.forced_iff
    · rw [hlevel, hcalled]
      exact h.running_iff
  · have hlevel : (s.act a).level = raisedBy s.level a := by
      rw [act_level, if_pos (h.coordinated_iff.2 hdrop)]
    have hcalled : called (acts ++ [a]) = called acts ++ [a] := by
      rw [called_of_not_dropped hdrop]
      exact Schedule.upTo_concat _ acts a fun b hb =>
        beq_eq_false_iff_ne.2 (ne_of_mem_of_not_mem hb hdrop)
    have hforced := h.forced_iff
    have hrunning := h.running_iff
    refine ⟨hcoordinated, ?_, ?_⟩
    · rw [hlevel, hcalled, List.mem_append, List.mem_singleton, ← hforced]
      cases a with
      | drain =>
          by_cases hl : s.level = .running
          · simp only [raisedBy, hl, if_true, reduceCtorEq, or_self]
          · simp only [raisedBy, hl, if_false, reduceCtorEq, or_false]
      | _ => simp only [raisedBy, reduceCtorEq, or_false, or_true]
    · rw [hlevel, hcalled, List.mem_append, List.mem_append, List.mem_singleton,
        List.mem_singleton, not_or, not_or]
      cases a with
      | drain =>
          by_cases hl : s.level = .running
          · simp only [raisedBy, hl, if_true, reduceCtorEq, not_true_eq_false, and_false,
              false_and]
          · simp only [raisedBy, hl, if_false, not_true_eq_false, and_false, false_and]
      | _ => simp only [raisedBy, hrunning, reduceCtorEq, not_false_eq_true, not_true_eq_false,
          and_true, and_false]

theorem standing_after (acts : List Act) : Standing acts (after acts) := by
  induction acts using List.reverseRecOn with
  | nil => exact ⟨by decide, by decide, by decide⟩
  | append_singleton acts a ih =>
      rw [after_concat]
      exact standing_act ih a

/-! ### The listeners -/

theorem passagesOf_concat (acts : List Act) (a : Act) :
    passagesOf (acts ++ [a]) = passagesOf acts ++ passages (after acts) a := by
  unfold passagesOf
  rw [Schedule.watch_append, Schedule.watch_singleton]
  rfl

theorem listens_iff (s : Signal) (i : Nat) : s.listens i = true ↔ s.listeners[i]? = some true := by
  unfold listens
  cases s.listeners[i]? with
  | none => simp only [Option.getD_none, Bool.false_eq_true, reduceCtorEq]
  | some b => simp only [Option.getD_some, Option.some.injEq]

-- One that goes was there.
theorem listenerCount_unsubscribe (s : Signal) (i : Nat) (h : s.listens i = true) :
    (s.unsubscribe i).listenerCount + 1 = s.listenerCount := by
  rcases List.getElem?_eq_some_iff.1 ((listens_iff s i).1 h) with ⟨hi, htrue⟩
  have hpos : 0 < s.listeners.countP id :=
    List.countP_pos_iff.2 ⟨true, htrue ▸ List.getElem_mem hi, rfl⟩
  unfold listenerCount unsubscribe
  rw [List.countP_set hi, htrue]
  simp only [id, if_true, Bool.false_eq_true, if_false]
  omega

theorem unsubscribe_of_not_listening (s : Signal) (i : Nat) (h : ¬ s.listens i = true) :
    (s.unsubscribe i).listenerCount = s.listenerCount := by
  unfold listenerCount unsubscribe
  by_cases hi : i < s.listeners.length
  · have hfalse : s.listeners[i] = false := by
      rw [listens_iff, List.getElem?_eq_getElem hi, Option.some.injEq] at h
      exact Bool.not_eq_true _ ▸ h
    rw [List.countP_set hi, hfalse]
    simp only [id, Bool.false_eq_true, if_false, Nat.sub_zero, Nat.add_zero]
  · rw [List.set_eq_of_length_le (Nat.le_of_not_lt hi)]

theorem listenerCount_act (s : Signal) (a : Act) :
    (s.act a).listenerCount + (passages s a).count .goes =
      s.listenerCount + (passages s a).count .comes := by
  cases a with
  | subscribe =>
      unfold act subscribe? passages listenerCount
      by_cases hc : s.coordinated = true
      · simp [hc]
      · simp [hc]
  | clone i =>
      unfold act clone passages listenerCount
      by_cases hl : s.listens i = true
      · simp [hl]
      · simp [hl]
  | unsubscribe i =>
      unfold act passages
      by_cases hl : s.listens i = true
      · have hcount := listenerCount_unsubscribe s i hl
        simp [hl, hcount]
      · have hcount := unsubscribe_of_not_listening s i hl
        simp [hl, hcount]
  | drain | force =>
      unfold act drain force passages listenerCount
      by_cases hc : s.coordinated = true
      · simp [hc, apply_ite Signal.listeners]
      · simp [hc]
  | drop => rfl

theorem passages_account (acts : List Act) :
    (after acts).listenerCount + (passagesOf acts).count .goes =
      (passagesOf acts).count .comes := by
  induction acts using List.reverseRecOn with
  | nil => rfl
  | append_singleton acts a ih =>
      have hstep := listenerCount_act (after acts) a
      rw [passagesOf_concat, List.count_append, List.count_append, after_concat]
      omega

-- The listeners that are there, by their numbers.
theorem countP_eq_length_filter_range (marks : List Bool) :
    marks.countP id = ((List.range marks.length).filter fun i => marks[i]?.getD false).length := by
  induction marks using List.reverseRecOn with
  | nil => rfl
  | append_singleton marks b ih =>
      have hbefore : (List.range marks.length).filter (fun i => (marks ++ [b])[i]?.getD false) =
          (List.range marks.length).filter fun i => marks[i]?.getD false := by
        refine List.filter_congr fun i hi => ?_
        rw [List.getElem?_append_left (List.mem_range.1 hi)]
      have hlast : (marks ++ [b])[marks.length]?.getD false = b := by
        rw [List.getElem?_concat_length, Option.getD_some]
      rw [List.length_append, List.length_singleton, List.range_succ, List.filter_append,
        List.length_append, hbefore, List.countP_append, ih, List.filter_cons, List.filter_nil,
        hlast, List.countP_singleton]
      cases b <;> rfl

theorem listenerCount_eq_length (s : Signal) (live : List Nat) (hnodup : live.Nodup)
    (hlive : ∀ i, i ∈ live ↔ s.listens i = true) : s.listenerCount = live.length := by
  have hperm : ((List.range s.listeners.length).filter fun i => s.listeners[i]?.getD false).Perm
      live := by
    refine (List.perm_ext_iff_of_nodup (List.nodup_range.filter _) hnodup).2 fun i => ?_
    rw [List.mem_filter, List.mem_range, hlive i]
    refine ⟨fun h => h.2, fun h => ⟨?_, h⟩⟩
    exact (List.getElem?_eq_some_iff.1 ((listens_iff s i).1 h)).1
  unfold listenerCount
  rw [countP_eq_length_filter_range, hperm.length_eq]

/-! ### What is seen -/

theorem seenBy_of_listens {s : Signal} {i : Nat} (h : s.listens i = true) (f : Signal → Bool) :
    s.seenBy i f = some (f s) := if_pos h

theorem seenBy_iff {s : Signal} {i : Nat} (h : s.listens i = true) (f : Signal → Bool) :
    s.seenBy i f = some true ↔ f s = true := by
  rw [seenBy_of_listens h, Option.some.injEq]

theorem forcedDone_iff (acts : List Act) :
    (after acts).forcedDone = true ↔ .force ∈ called acts ∨ .drop ∈ acts := by
  have h := standing_after acts
  unfold forcedDone
  rw [Bool.or_eq_true, beq_iff_eq, h.forced_iff, Bool.not_eq_true', ← Bool.not_eq_true,
    h.coordinated_iff, not_not]

theorem isDraining_iff (acts : List Act) :
    (after acts).isDraining = true ↔ .drain ∈ called acts ∨ .force ∈ called acts := by
  have h := standing_after acts
  unfold isDraining
  rw [bne_iff_ne, ne_eq, h.running_iff, not_and_or, not_not, not_not]

theorem drainingDone_iff (acts : List Act) : (after acts).drainingDone = true ↔
    .drain ∈ called acts ∨ .force ∈ called acts ∨ .drop ∈ acts := by
  have h := standing_after acts
  have hraised := isDraining_iff acts
  unfold isDraining at hraised
  unfold drainingDone
  rw [Bool.or_eq_true, hraised, Bool.not_eq_true', ← Bool.not_eq_true, h.coordinated_iff, not_not,
    or_assoc]

theorem told_of_listens {acts : List Act} {i : Nat} (hi : (after acts).listens i = true) :
    Told acts i where
  forced := (seenBy_iff hi _).trans (forcedDone_iff acts)
  draining := (seenBy_iff hi _).trans (drainingDone_iff acts)
  raised := (seenBy_iff hi _).trans (isDraining_iff acts)
  draining_of_forced := by
    rw [seenBy_iff hi, seenBy_iff hi, forcedDone_iff, drainingDone_iff]
    exact fun h => Or.inr h
  differ_iff := by
    have hraised := isDraining_iff acts
    have hdone := drainingDone_iff acts
    rw [seenBy_of_listens hi, seenBy_of_listens hi, ne_eq, Option.some.injEq, Bool.eq_iff_iff,
      hraised, hdone]
    tauto
  agree := by
    intro j hj
    simp only [seenBy_of_listens hi, seenBy_of_listens hj, and_self]
  stays := by
    intro more j hj
    have hcalled : ∀ a, a ∈ called acts → a ∈ called (acts ++ more) :=
      fun a => Schedule.mem_upTo_append_left _ more acts
    have hdrop : Act.drop ∈ acts → Act.drop ∈ acts ++ more := List.mem_append_left more
    rw [seenBy_iff hi, seenBy_iff hi, seenBy_iff hi, seenBy_iff hj, seenBy_iff hj, seenBy_iff hj,
      forcedDone_iff, forcedDone_iff, drainingDone_iff, drainingDone_iff, isDraining_iff,
      isDraining_iff]
    exact ⟨Or.imp (hcalled _) hdrop, Or.imp (hcalled _) (Or.imp (hcalled _) hdrop),
      Or.imp (hcalled _) (hcalled _)⟩

/-- After any acts, every listener sees that it is forced exactly if force was called or the
    coordinator is gone, and waits for draining until drain or force was called or the
    coordinator is gone; all listeners agree, and what was seen is seen by whoever listens
    later. The flag says whether drain or force was called, so it differs from the wait
    exactly if the coordinator went away before. The listeners that are counted are those
    that are there, and those that came and did not go. -/
theorem seen_by_every_listener (acts : List Act) :
    (∀ i, (after acts).listens i = true → Told acts i) ∧
      (∀ live : List Nat, live.Nodup → (∀ i, i ∈ live ↔ (after acts).listens i = true) →
        (after acts).listenerCount = live.length) ∧
      (after acts).listenerCount + (passagesOf acts).count .goes =
        (passagesOf acts).count .comes :=
  ⟨fun _ => told_of_listens, listenerCount_eq_length (after acts), passages_account acts⟩

-- Both waits are over when the coordinator goes away without a word, and the flag is down.
theorem unraised_drop_not_draining :
    (after [.subscribe, .drop]).seenBy 0 drainingDone = some true ∧
      (after [.subscribe, .drop]).seenBy 0 forcedDone = some true ∧
      (after [.subscribe, .drop]).seenBy 0 isDraining = some false := by
  decide

end Signal

end Lifecycle

end DemandNet
