import DemandNet.Proofs.Lifecycle.Schedule

/-!
# Tending to Tasks

How calls and tasks are at a time when one call at most is under way.

All calls but one are idle, and all tasks but one are over: they were forced, and an own
group was shut down once for each of them. The one task that is not over has a level, and
its group runs. What a task does by itself leaves all this as it is; what a call does to
the one task, it does to no other.

What is said of the task that may have reported holds only where no report comes between
the end of the time of a start and what that start does about it, so it has a condition
of its own.

## Main definitions

* `ServeTask.Over`, `ServeTask.Open`: The two states of a task.
* `Alone`, `Tended`: What is so of the calls and of the tasks.

## Theorems

* `Alone.append`, `Alone.set`: A call is made, or goes on.
* `Tended.acts`: A task does something.
* `Tended.change`, `Tended.spawn`: A call does something to its task, or gets one.
-/

namespace DemandNet

namespace Lifecycle

namespace ServeTask

/-- The task was told to give up, and an own group was shut down for it. -/
structure Over (t : ServeTask) : Prop where
  level_eq : t.level = .forced
  stops_eq : t.stops = t.owned.toNat

/-- The task was told this much, and its group runs. -/
structure Open (level : Level) (t : ServeTask) : Prop where
  level_eq : t.level = level
  stops_eq : t.stops = 0

end ServeTask

/-- At most the one call is under way. -/
def Alone (calls : List Call) (busy : Option Nat) : Prop :=
  ∀ (i : Nat) (c : Call), calls[i]? = some c → busy ≠ some i → c.Idle

/-- At most the one task is not over, and then it was told this much. If reports are in
    time, at most the task that was heard has said that it bound its address. -/
structure Tended (prompt : Prop) (tasks : List ServeTask) (care : Option (Nat × Level))
    (heard : Option Nat) : Prop where
  cared : ∀ j level, care = some (j, level) → ∃ t, tasks[j]? = some t ∧ t.Open level
  others : ∀ (k : Nat) (t : ServeTask), tasks[k]? = some t →
    care.map Prod.fst ≠ some k → t.Over
  bound : prompt → ∀ (k : Nat) (t : ServeTask), tasks[k]? = some t → t.Bound →
    heard = some k

open Service ServeTask

-- Calls and tasks come one behind the other, and keep their places.
theorem getElem?_concat_cases {α : Type} {l : List α} {a b : α} {k : Nat}
    (h : (l ++ [a])[k]? = some b) : l[k]? = some b ∨ k = l.length ∧ b = a := by
  by_cases hk : k < l.length
  · rw [List.getElem?_append_left hk] at h
    exact Or.inl h
  · rw [List.getElem?_append_right (Nat.le_of_not_lt hk), List.getElem?_singleton] at h
    rcases Option.ite_none_right_eq_some.1 h with ⟨hzero, h⟩
    exact Or.inr ⟨by omega, (Option.some.inj h).symm⟩

/-! ### Calls -/

section Calls

variable {calls : List Call} {busy : Option Nat}

theorem Alone.idle_of_none (h : Alone calls none) {i : Nat} {c : Call}
    (hi : calls[i]? = some c) : c.Idle := h i c hi (Option.some_ne_none i).symm

theorem Alone.eq_of_busy (h : Alone calls busy) {i : Nat} {c : Call}
    (hi : calls[i]? = some c) (hc : ¬c.Idle) : busy = some i := by
  by_contra hne
  exact hc (h i c hi hne)

theorem Alone.append (h : Alone calls busy) {c : Call} (hc : c.Idle) :
    Alone (calls ++ [c]) busy := by
  intro i d hd hne
  rcases getElem?_concat_cases hd with hold | ⟨_, rfl⟩
  · exact h i d hold hne
  · exact hc

-- The one call that is changed may be under way before, or after, or both times.
theorem Alone.set (h : Alone calls busy) {busy' : Option Nat} {i : Nat} {c : Call}
    (hb : ∀ k, k ≠ i → busy' ≠ some k → busy ≠ some k) (hc : busy' ≠ some i → c.Idle) :
    Alone (calls.set i c) busy' := by
  intro k d hd hne
  rw [List.getElem?_set] at hd
  by_cases hik : i = k
  · rw [if_pos hik] at hd
    rcases Option.ite_none_right_eq_some.1 hd with ⟨_, hd⟩
    cases hd
    rw [← hik] at hne
    exact hc hne
  · rw [if_neg hik] at hd
    exact h k d hd (hb k (Ne.symm hik) hne)

theorem Alone.enter (h : Alone calls none) (i : Nat) (c : Call) :
    Alone (calls.set i c) (some i) :=
  h.set (fun k _ _ => (Option.some_ne_none k).symm) fun hne => absurd rfl hne

theorem Alone.go {i : Nat} (h : Alone calls (some i)) (c : Call) :
    Alone (calls.set i c) (some i) := h.set (fun _ _ hne => hne) fun hne => absurd rfl hne

theorem Alone.leave {i : Nat} (h : Alone calls (some i)) {c : Call} (hc : c.Idle) :
    Alone (calls.set i c) none :=
  h.set (fun _ hne _ heq => hne (Option.some.inj heq).symm) fun _ => hc

theorem Alone.stay (h : Alone calls busy) (i : Nat) {c : Call} (hc : c.Idle) :
    Alone (calls.set i c) busy := h.set (fun _ _ hne => hne) fun _ => hc

end Calls

/-! ### Tasks -/

namespace ServeTask.Keeps

variable {t t' : ServeTask}

theorem stays_open {level : Level} (h : t.Keeps t') (ho : t.Open level) : t'.Open level :=
  ⟨h.level_eq.trans ho.level_eq, h.stops_eq.trans ho.stops_eq⟩

theorem stays_over (h : t.Keeps t') (ho : t.Over) : t'.Over := by
  refine ⟨h.level_eq.trans ho.level_eq, ?_⟩
  rw [h.stops_eq, h.owned_eq]
  exact ho.stops_eq

theorem bound (h : t.Keeps t') (hb : t'.Bound) : t.Bound ∨ t.level = .running := by
  rcases h.reported_eq with hr | ⟨_, hr⟩
  · rcases hb with ⟨address, ha⟩
    exact Or.inl ⟨address, hr.symm.trans ha⟩
  · exact Or.inr hr

end ServeTask.Keeps

theorem ServeTask.Open.drain {t : ServeTask} (h : t.Open .running) :
    t.drain.Open .draining := by
  unfold ServeTask.drain
  rw [if_pos h.level_eq]
  exact ⟨rfl, h.stops_eq⟩

theorem ServeTask.Open.force {t : ServeTask} {level : Level} (h : t.Open level) :
    t.force.Open .forced := ⟨rfl, h.stops_eq⟩

theorem ServeTask.Open.stopGroup {t : ServeTask} (h : t.Open .forced) :
    t.stopGroup.Over := by
  unfold ServeTask.stopGroup
  by_cases ho : t.owned = true
  · rw [if_pos ho]
    refine ⟨h.level_eq, ?_⟩
    simp only [ho, h.stops_eq]
    rfl
  · rw [if_neg ho]
    refine ⟨h.level_eq, ?_⟩
    rw [h.stops_eq, Bool.eq_false_iff.2 ho]
    rfl

@[simp] theorem ServeTask.drain_reported (t : ServeTask) :
    t.drain.reported = t.reported := by
  unfold drain
  split <;> rfl

@[simp] theorem ServeTask.stopGroup_reported (t : ServeTask) :
    t.stopGroup.reported = t.reported := by
  unfold stopGroup
  split <;> rfl

section Tasks

variable {prompt : Prop} {tasks : List ServeTask} {care : Option (Nat × Level)}
  {heard : Option Nat}

theorem getElem?_modify_some {i k : Nat} {f : ServeTask → ServeTask} {t' : ServeTask}
    (h : (tasks.modify i f)[k]? = some t') :
    ∃ t, tasks[k]? = some t ∧ t' = if i = k then f t else t := by
  rw [List.getElem?_modify] at h
  rcases Option.map_eq_some_iff.1 h with ⟨t, ht, rfl⟩
  exact ⟨t, ht, rfl⟩

theorem getElem?_modify_of_some (i : Nat) (f : ServeTask → ServeTask) {k : Nat}
    {t : ServeTask} (h : tasks[k]? = some t) :
    (tasks.modify i f)[k]? = some (if i = k then f t else t) := by
  rw [List.getElem?_modify, h]
  rfl

theorem Tended.over_of_none (h : Tended prompt tasks none heard) {k : Nat} {t : ServeTask}
    (hk : tasks[k]? = some t) : t.Over := h.others k t hk (Option.some_ne_none k).symm

/-- A task that was not told to stop is the one that is cared for. -/
theorem Tended.eq_of_level (h : Tended prompt tasks care heard) {k : Nat} {t : ServeTask}
    (hk : tasks[k]? = some t) (hl : t.level ≠ .forced) : care = some (k, t.level) := by
  by_cases hc : care.map Prod.fst = some k
  · rcases Option.map_eq_some_iff.1 hc with ⟨⟨j, level⟩, hcare, rfl⟩
    rcases h.cared j level hcare with ⟨u, hu, ho⟩
    rw [hk] at hu
    cases hu
    rw [hcare, ho.level_eq]
  · exact absurd (h.others k t hk hc).level_eq hl

-- A report can only come from a task that was not told to stop.
theorem Tended.acts (h : Tended prompt tasks care heard) (i : Nat)
    {f : ServeTask → ServeTask} (hf : ∀ x : ServeTask, x.Keeps (f x))
    (hr : prompt → ∀ j, care = some (j, .running) → heard = some j) :
    Tended prompt (tasks.modify i f) care heard := by
  have hkeeps : ∀ (k : Nat) (t : ServeTask), t.Keeps (if i = k then f t else t) := by
    intro k t
    split
    · exact hf t
    · exact .refl t
  refine ⟨fun j level hcare => ?_, fun k t' hk hne => ?_, fun hp k t' hk hb => ?_⟩
  · rcases h.cared j level hcare with ⟨t, ht, ho⟩
    exact ⟨_, getElem?_modify_of_some i f ht, (hkeeps j t).stays_open ho⟩
  · rcases getElem?_modify_some hk with ⟨t, ht, rfl⟩
    exact (hkeeps k t).stays_over (h.others k t ht hne)
  · rcases getElem?_modify_some hk with ⟨t, ht, rfl⟩
    rcases (hkeeps k t).bound hb with hb | hl
    · exact h.bound hp k t ht hb
    · have hcare := h.eq_of_level ht (by rw [hl]; exact Level.noConfusion)
      rw [hl] at hcare
      exact hr hp k hcare

-- The task that is cared for is told more, or its group is shut down, and then no task
-- is left to be cared for.
theorem Tended.change {j : Nat} {level : Level}
    (h : Tended prompt tasks (some (j, level)) heard) (level' : Option Level)
    {f : ServeTask → ServeTask}
    (hf : ∀ t : ServeTask, t.Open level → (f t).Over ∧ level' = none ∨
      ∃ l, (f t).Open l ∧ level' = some l)
    (hr : ∀ t : ServeTask, (f t).reported = t.reported) :
    Tended prompt (tasks.modify j f) (level'.map (j, ·)) heard := by
  rcases h.cared j level rfl with ⟨u, hu, ho⟩
  have hj : (tasks.modify j f)[j]? = some (f u) := by
    rw [getElem?_modify_of_some j f hu, if_pos rfl]
  refine ⟨fun k l hcare => ?_, fun k t' hk hne => ?_, fun hp k t' hk hb => ?_⟩
  · rcases Option.map_eq_some_iff.1 hcare with ⟨l', hl', heq⟩
    cases heq
    rcases hf u ho with ⟨_, hnone⟩ | ⟨l'', hopen, hsome⟩
    · rw [hnone] at hl'
      cases hl'
    · rw [hsome] at hl'
      cases hl'
      exact ⟨f u, hj, hopen⟩
  · rcases getElem?_modify_some hk with ⟨t, ht, rfl⟩
    by_cases hjk : j = k
    · subst hjk
      rw [hj] at hk
      rcases hf u ho with ⟨hover, _⟩ | ⟨l, _, hsome⟩
      · rw [← Option.some.inj hk]
        exact hover
      · rw [hsome] at hne
        exact absurd rfl hne
    · rw [if_neg hjk]
      exact h.others k t ht fun hjk' => hjk (Option.some.inj hjk')
  · rcases getElem?_modify_some hk with ⟨t, ht, rfl⟩
    refine h.bound hp k t ht ?_
    by_cases hjk : j = k
    · rw [if_pos hjk] at hb
      rcases hb with ⟨address, ha⟩
      exact ⟨address, (hr t).symm.trans ha⟩
    · rwa [if_neg hjk] at hb

theorem Tended.drain {j : Nat} (h : Tended prompt tasks (some (j, .running)) heard) :
    Tended prompt (tasks.modify j ServeTask.drain) (some (j, .draining)) heard :=
  h.change (some .draining) (fun _ ho => Or.inr ⟨_, ho.drain, rfl⟩) drain_reported

theorem Tended.force {j : Nat} {level : Level}
    (h : Tended prompt tasks (some (j, level)) heard) :
    Tended prompt (tasks.modify j ServeTask.force) (some (j, .forced)) heard :=
  h.change (some .forced) (fun _ ho => Or.inr ⟨_, ho.force, rfl⟩) fun _ => rfl

theorem Tended.stopGroup {j : Nat} (h : Tended prompt tasks (some (j, .forced)) heard) :
    Tended prompt (tasks.modify j ServeTask.stopGroup) none heard :=
  h.change none (fun _ ho => Or.inl ⟨ho.stopGroup, rfl⟩) stopGroup_reported

theorem Tended.spawn (h : Tended prompt tasks none none) (owned : Bool) :
    Tended prompt (tasks ++ [.fresh owned]) (some (tasks.length, .running))
      (some tasks.length) := by
  refine ⟨fun j level hcare => ?_, fun k t hk hne => ?_, fun hp k t hk hb => ?_⟩
  · cases hcare
    exact ⟨.fresh owned, List.getElem?_concat_length, rfl, rfl⟩
  · rcases getElem?_concat_cases hk with hold | ⟨hlast, _⟩
    · exact h.over_of_none hold
    · exact absurd (congrArg some hlast.symm) hne
  · rcases getElem?_concat_cases hk with hold | ⟨hlast, _⟩
    · exact absurd (h.bound hp k t hold hb) (Option.some_ne_none k).symm
    · exact congrArg some hlast.symm

theorem Tended.unheard {j : Nat} (h : Tended prompt tasks care (some j))
    (hj : ∀ t, tasks[j]? = some t → ¬t.Bound) : Tended prompt tasks care none := by
  refine ⟨h.cared, h.others, fun hp k t hk hb => ?_⟩
  cases h.bound hp k t hk hb
  exact absurd hb (hj t hk)

end Tasks

end Lifecycle

end DemandNet
