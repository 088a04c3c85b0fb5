import DemandNet.Proofs.Lifecycle.Standing

/-!
# The Laws of a Server

What can be relied on whenever calls of start and shutdown are made.

Any number of calls may be under way, and each of them goes on when it likes. The phase
moves along five arrows only; what a server holds, it holds while it is started; every
group of its own is shut down once and a group that was lent is not; and a server that was
shut down is never started again. All this is read off the standing of the server and off
what one turn can do.

Two tasks never serve at a time unless one of them was told to give up. If every start
tells its task as soon as its time has passed, there are never two that have said that
they bound their address; if a report can slip in between, there can be two of them, but
the older one is told before the newer one is made.

## Main definitions

* `Phase.Follows`: The arrows between the phases.
* `StopsGroup`: A turn shuts down the group of a task.
* `Lawful`: What can be relied on.

## Theorems

* `Move.phase`: A turn leads along an arrow or nowhere.
* `Move.comes`: Where a task comes from.
* `lawful_after`: After every schedule a server is lawful.
-/

namespace DemandNet

namespace Lifecycle

open Address Service ServeTask

/-- The arrows between the phases. -/
inductive Phase.Follows : Phase → Phase → Prop
  | start : Follows .unstarted .starting
  | succeed : Follows .starting .started
  | fail : Follows .starting .unstarted
  | stop : Follows .started .shuttingDown
  | close : Follows .shuttingDown .shutdown

/-- A turn is the stage of a start that fails, or of a shutdown, at which the group of a
    task is shut down. -/
def StopsGroup (s : Service) (t : Turn) (task : Nat) : Prop :=
  ∃ i, t = .advance i ∧
    ((∃ limit e, s.calls[i]? = some (.start limit (.stopping task e))) ∨
      s.calls[i]? = some (.shutdown (.stopping (.all task))))

/-- A start that was successful. -/
def Call.Succeeded : Call → Prop
  | .start _ (.done (.ok _)) => True
  | _ => False

/-- What can be relied on of a server. -/
structure Lawful (s : Service) : Prop where
  phase_moves : ∀ t, (s.turn t).phase = s.phase ∨ s.phase.Follows (s.turn t).phase
  /-- At most one task, whether it serves or not, was not told to give up. -/
  one_serves : ∀ (j k : Nat) (t u : ServeTask), s.tasks[j]? = some t → s.tasks[k]? = some u →
    t.level ≠ .forced → u.level ≠ .forced → j = k
  /-- All is held while the server is started, and it is that of one task. -/
  held_started : s.phase = .started → ∃ j t, s.tasks[j]? = some t ∧ s.held = .all j
  held_nothing : s.phase ≠ .started → s.held = .nothing
  /-- A group is shut down once at most, and not at all if it was lent. -/
  stops_le : ∀ t ∈ s.tasks, t.owned = !s.borrows ∧ t.stops ≤ t.owned.toNat
  /-- Where all calls have ended and nothing is served, all own groups were shut down. -/
  stops_eq : (∀ c ∈ s.calls, c.Done) → s.phase ≠ .started →
    ∀ t ∈ s.tasks, t.stops = t.owned.toNat
  stops_by : ∀ (t : Turn) (k : Nat) (x y : ServeTask), s.tasks[k]? = some x →
    (s.turn t).tasks[k]? = some y →
      y.stops = x.stops ∨ y.stops = x.stops + 1 ∧ StopsGroup s t k
  /-- The end is final, and no start is successful after it. -/
  final : s.phase = .shutdown → ∀ later, (s.after later).phase = .shutdown ∧
    ∀ (i : Nat) (c : Call), c.Succeeded → (s.after later).calls[i]? = some c →
      s.calls[i]? = some c

section Turns

variable {prompt : Prop} {s s' : Service}

theorem onHeld_phase (i : Option Nat) (f : ServeTask → ServeTask) :
    (s.onHeld i f).phase = s.phase := by
  cases i <;> rfl

/-! ### Phases -/

theorem Move.phase {t : Turn} (hm : Move s t s') (h : Standing prompt s) :
    s'.phase = s.phase ∨ s.phase.Follows s'.phase := by
  cases hm with
  | rests | calls | acts | passes => exact Or.inl rfl
  | start i limit stage stage' s' hi hm =>
      cases hm with
      | begins hp =>
          right
          rw [hp]
          exact .start
      | publishes task address =>
          right
          rw [(h.of_start hi id).1]
          exact .succeed
      | restores e =>
          right
          rw [(h.of_start hi id).1]
          exact .fail
      | refuses | misses | spawns | hears | fails | expires | givesUp | stops =>
          exact Or.inl rfl
  | shutdown i stage stage' s' hi hm =>
      cases hm with
      | proceeds hp =>
          right
          rw [hp]
          change Phase.Follows .started (Service.onHeld _ _ _).phase
          rw [onHeld_phase]
          exact .stop
      | closes =>
          right
          rw [(h.of_shutdown hi id).1]
          exact .close
      | passes | drains => exact Or.inl rfl
      | empties | forces | leaves | stops => exact Or.inl (onHeld_phase _ _)

/-! ### Calls -/

theorem Call.Succeeded.done {c : Call} (h : c.Succeeded) : c.Done := by
  cases c with
  | start limit stage =>
      cases stage with
      | done r => trivial
      | entering | acquiring | waiting | expiring | publishing | stopping | restoring =>
          exact h.elim
  | shutdown stage => exact h.elim

/-- A start can be successful only while the server is starting. -/
theorem Move.success {t : Turn} (hm : Move s t s') (h : Standing prompt s)
    (hp : s.phase ≠ .starting) {i : Nat} {c : Call} (hc : c.Succeeded)
    (hi : s'.calls[i]? = some c) : s.calls[i]? = some c := by
  cases hm with
  | rests | acts | passes => exact hi
  | calls _ d _ hd =>
      rcases getElem?_concat_cases hi with hold | ⟨_, rfl⟩
      · exact hold
      · exact absurd hc.done hd
  | start k limit stage stage' s' hk hm =>
      rcases put_cases hi with hold | hnew
      · rwa [hm.calls_eq] at hold
      · cases hnew
        cases hm with
        | publishes task address => exact absurd (h.of_start hk id).1 hp
        | refuses | begins | misses | spawns | hears | fails | expires | givesUp | stops
        | restores => exact hc.elim
  | shutdown k stage stage' s' hk hm =>
      rcases put_cases hi with hold | hnew
      · rwa [hm.calls_eq] at hold
      · cases hnew
        exact hc.elim

theorem final_after (later : List Turn) :
    ∀ s, Standing False s → s.phase = .shutdown → (s.after later).phase = .shutdown ∧
      ∀ (i : Nat) (c : Call), c.Succeeded → (s.after later).calls[i]? = some c →
        s.calls[i]? = some c := by
  induction later with
  | nil => exact fun s _ hp => ⟨hp, fun _ _ _ hi => hi⟩
  | cons t rest ih =>
      intro s hs hp
      have hp' : (s.turn t).phase = .shutdown := by
        rcases (turn_move t).phase hs with hsame | hfollows
        · rw [hsame, hp]
        · rw [hp] at hfollows
          cases hfollows
      have hrest := ih (s.turn t) ((turn_move t).standing hs False.elim) hp'
      refine ⟨hrest.1, fun i c hc hi => ?_⟩
      exact (turn_move t).success hs (by rw [hp]; exact Phase.noConfusion) hc
        (hrest.2 i c hc hi)

/-! ### Tasks -/

/-- A task has the same group as before, which may have been shut down once more. -/
structure ServeTask.Regroups (stopped : Prop) (x y : ServeTask) : Prop where
  owned_eq : y.owned = x.owned
  stops_eq : y.stops = x.stops ∨ y.stops = x.stops + 1 ∧ stopped

/-- Where a task comes from: it is new, or it was there before, with the same group. -/
def Comes (s : Service) (k : Nat) (stopped : Prop) (y : ServeTask) : Prop :=
  s.tasks[k]? = none ∧ y = .fresh !s.borrows ∨
    ∃ x, s.tasks[k]? = some x ∧ x.Regroups stopped y

theorem drain_regroups (x : ServeTask) : x.Regroups False x.drain := by
  unfold drain
  split <;> exact ⟨rfl, Or.inl rfl⟩

theorem force_regroups (x : ServeTask) : x.Regroups False x.force := ⟨rfl, Or.inl rfl⟩

theorem stopGroup_regroups (x : ServeTask) : x.Regroups True x.stopGroup := by
  unfold stopGroup
  split
  · exact ⟨rfl, Or.inr ⟨rfl, trivial⟩⟩
  · exact ⟨rfl, Or.inl rfl⟩

theorem ServeTask.Keeps.regroups {x y : ServeTask} (h : x.Keeps y) : x.Regroups False y :=
  ⟨h.owned_eq, Or.inl h.stops_eq⟩

namespace Comes

variable {k : Nat} {p q : Prop} {f : ServeTask → ServeTask} {y : ServeTask}

theorem old (hy : s.tasks[k]? = some y) : Comes s k p y :=
  Or.inr ⟨y, hy, rfl, Or.inl rfl⟩

theorem mono (h : Comes s k p y) (hpq : p → q) : Comes s k q y := by
  refine h.imp id ?_
  rintro ⟨x, hx, howned, hstops⟩
  exact ⟨x, hx, howned, hstops.imp id (And.imp id hpq)⟩

-- What is done to the group of a task is done to no other one.
theorem onTask {j : Nat} (hf : ∀ x : ServeTask, x.Regroups p (f x))
    (hy : (s.onTask j f).tasks[k]? = some y) : Comes s k (j = k ∧ p) y := by
  rcases getElem?_modify_some hy with ⟨x, hx, rfl⟩
  by_cases hjk : j = k
  · rw [if_pos hjk]
    exact Or.inr ⟨x, hx, (hf x).owned_eq, (hf x).stops_eq.imp id (And.imp id (And.intro hjk))⟩
  · rw [if_neg hjk]
    exact old hx

theorem onHeld {i : Option Nat} (hf : ∀ x : ServeTask, x.Regroups p (f x))
    (hy : (s.onHeld i f).tasks[k]? = some y) : Comes s k (i = some k ∧ p) y := by
  cases i with
  | none => exact old hy
  | some j => exact (onTask hf hy).mono fun h => ⟨congrArg some h.1, h.2⟩

end Comes

theorem StartMove.comes {stage stage' : StartStage} (h : StartMove s stage stage' s') {k : Nat}
    {y : ServeTask} (hy : s'.tasks[k]? = some y) :
    Comes s k (∃ e, stage = .stopping k e) y := by
  cases h with
  | refuses | begins | misses | hears | expires | publishes | restores => exact .old hy
  | spawns deadline =>
      rcases getElem?_concat_cases hy with hold | ⟨hlast, rfl⟩
      · exact .old hold
      · exact Or.inl ⟨List.getElem?_eq_none (Nat.le_of_eq hlast.symm), rfl⟩
  | fails | givesUp => exact (Comes.onTask force_regroups hy).mono fun h => h.2.elim
  | stops task e =>
      refine (Comes.onTask stopGroup_regroups hy).mono ?_
      rintro ⟨rfl, _⟩
      exact ⟨e, rfl⟩

theorem ShutdownMove.comes {stage stage' : ShutdownStage} (h : ShutdownMove s stage stage' s')
    {k : Nat} {y : ServeTask} (hy : s'.tasks[k]? = some y) :
    Comes s k (∃ taken, stage = .stopping taken ∧ taken.loops = some k) y := by
  cases h with
  | passes | drains | closes => exact .old hy
  | proceeds hp =>
      exact (Comes.onHeld (s := { s with phase := .shuttingDown, held := .nothing })
        drain_regroups hy).mono fun h => h.2.elim
  | empties | forces | leaves =>
      exact (Comes.onHeld force_regroups hy).mono fun h => h.2.elim
  | stops taken =>
      exact (Comes.onHeld stopGroup_regroups hy).mono fun h => ⟨taken, rfl, h.1⟩

theorem Move.comes {t : Turn} (hm : Move s t s') (h : Standing prompt s) {k : Nat}
    {y : ServeTask} (hy : s'.tasks[k]? = some y) : Comes s k (StopsGroup s t k) y := by
  cases hm with
  | rests | calls | passes => exact .old hy
  | acts _ task f _ hf =>
      exact (Comes.onTask (fun x => (hf x).regroups) hy).mono fun h => h.2.elim
  | start i limit stage stage' s' hi hm =>
      refine (hm.comes hy).mono ?_
      rintro ⟨e, rfl⟩
      exact ⟨i, rfl, Or.inl ⟨limit, e, hi⟩⟩
  | shutdown i stage stage' s' hi hm =>
      refine (hm.comes hy).mono ?_
      rintro ⟨taken, rfl, hloops⟩
      rcases h.of_shutdown hi id with ⟨_, _, _, j, _, ⟨⟩, _⟩
      cases hloops
      exact ⟨i, rfl, Or.inr hi⟩

theorem owned_after (ts : List Turn) :
    ∀ s, Standing False s → (∀ t ∈ s.tasks, t.owned = !s.borrows) →
      ∀ t ∈ (s.after ts).tasks, t.owned = !(s.after ts).borrows := by
  induction ts with
  | nil => exact fun s _ h => h
  | cons u rest ih =>
      intro s hs h
      refine ih (s.turn u) ((turn_move u).standing hs False.elim) ?_
      intro y hy
      rcases List.getElem?_of_mem hy with ⟨k, hk⟩
      rw [(turn_move u).fixed.borrows_eq]
      rcases (turn_move u).comes hs hk with ⟨_, rfl⟩ | ⟨x, hx, hxy⟩
      · rfl
      · rw [hxy.owned_eq]
        exact h x (List.mem_of_getElem? hx)

/-! ### Laws -/

theorem Standing.one_serves (h : Standing prompt s) {j k : Nat} {t u : ServeTask}
    (hj : s.tasks[j]? = some t) (hk : s.tasks[k]? = some u) (ht : t.level ≠ .forced)
    (hu : u.level ≠ .forced) : j = k := by
  rcases h.tended with ⟨care, heard, hcare⟩
  have heq := (hcare.eq_of_level hj ht).symm.trans (hcare.eq_of_level hk hu)
  exact congrArg Prod.fst (Option.some.inj heq)

theorem Standing.one_bound (h : Standing prompt s) (hp : prompt) {j k : Nat}
    {t u : ServeTask} (hj : s.tasks[j]? = some t) (hk : s.tasks[k]? = some u)
    (ht : t.Bound) (hu : u.Bound) : j = k := by
  rcases h.tended with ⟨care, heard, hcare⟩
  exact Option.some.inj ((hcare.bound hp j t hj ht).symm.trans (hcare.bound hp k u hk hu))

theorem Standing.stops_le (h : Standing prompt s) {t : ServeTask} (ht : t ∈ s.tasks) :
    t.stops ≤ t.owned.toNat := by
  rcases h.tended with ⟨care, heard, hcare⟩
  rcases List.getElem?_of_mem ht with ⟨k, hk⟩
  by_cases hc : care.map Prod.fst = some k
  · rcases Option.map_eq_some_iff.1 hc with ⟨⟨j, level⟩, hj, rfl⟩
    rcases hcare.cared j level hj with ⟨u, hu, ho⟩
    rw [hk] at hu
    cases hu
    rw [ho.stops_eq]
    exact Nat.zero_le _
  · exact Nat.le_of_eq (hcare.others k t hk hc).stops_eq

-- A server that is starting or shutting down has a call that has not ended.
theorem Standing.stops_eq (h : Standing prompt s) (hd : ∀ c ∈ s.calls, c.Done)
    (hp : s.phase ≠ .started) {t : ServeTask} (ht : t ∈ s.tasks) :
    t.stops = t.owned.toNat := by
  rcases List.getElem?_of_mem ht with ⟨k, hk⟩
  cases h with
  | unstarted _ _ _ hcare | shutdown _ _ _ _ hcare => exact (hcare.over_of_none hk).stops_eq
  | started _ hp' => exact absurd hp' hp
  | starting i limit stage care heard _ _ hi hs =>
      exact absurd (hd _ (List.mem_of_getElem? hi)).idle (hs.not_idle limit)
  | shuttingDown i j stage care _ _ hi hl =>
      exact absurd (hd _ (List.mem_of_getElem? hi)).idle hl.not_idle

theorem Standing.held_of_ne (h : Standing prompt s) (hp : s.phase ≠ .started) :
    s.held = .nothing := by
  cases h with
  | unstarted _ hh | starting _ _ _ _ _ _ hh | shuttingDown _ _ _ _ _ hh
  | shutdown _ _ hh => exact hh
  | started _ hp' => exact absurd hp' hp

-- The group of the one task that is not over can only be shut down by the call that cares
-- for it.
theorem Standing.stops_by (h : Standing prompt s) (t : Turn) {k : Nat} {x y : ServeTask}
    (hx : s.tasks[k]? = some x) (hy : (s.turn t).tasks[k]? = some y) :
    y.stops = x.stops ∨ y.stops = x.stops + 1 ∧ StopsGroup s t k := by
  rcases (turn_move t).comes h hy with ⟨hnone, _⟩ | ⟨x', hx', hxy⟩
  · rw [hx] at hnone
    cases hnone
  · rw [hx] at hx'
    cases hx'
    exact hxy.stops_eq

end Turns

-- Whatever happens to a server, it is lawful. That there are never two tasks that have
-- said that they bound their address needs that no task reports after its start gave up.
theorem lawful_after (borrows : Bool) (drainLimit : Nat) (ts : List Turn) :
    Lawful ((Service.fresh borrows drainLimit).after ts) ∧
      ((Service.fresh borrows drainLimit).after ts).borrows = borrows ∧
      ((Service.fresh borrows drainLimit).Prompt ts →
        ∀ (j k : Nat) (t u : ServeTask),
          ((Service.fresh borrows drainLimit).after ts).tasks[j]? = some t →
          ((Service.fresh borrows drainLimit).after ts).tasks[k]? = some u →
          t.Bound → u.Bound → j = k) := by
  have hs : Standing False ((Service.fresh borrows drainLimit).after ts) :=
    standing_after ts _ (standing_fresh borrows drainLimit) False.elim
  refine ⟨?_, Schedule.kept_after (fun s t => (turn_move t).fixed.borrows_eq) ts _, ?_⟩
  · constructor
    case phase_moves => exact fun t => (turn_move t).phase hs
    case one_serves =>
      intro j k t u hj hk ht hu
      exact hs.one_serves hj hk ht hu
    case held_started =>
      intro hp
      rcases hs.of_started hp with ⟨j, hheld, _, hcare⟩
      rcases hcare.cared j .running rfl with ⟨t, ht, _⟩
      exact ⟨j, t, ht, hheld⟩
    case held_nothing => exact hs.held_of_ne
    case stops_le =>
      intro t ht
      refine ⟨?_, hs.stops_le ht⟩
      exact owned_after ts _ (standing_fresh borrows drainLimit) (by simp [Service.fresh]) t ht
    case stops_eq => exact fun hd hp t ht => hs.stops_eq hd hp ht
    case stops_by => exact fun t k x y hx hy => hs.stops_by t hx hy
    case final => exact fun hp later => final_after later _ hs hp
  · intro hprompt j k t u hj hk ht hu
    have hp : Standing True ((Service.fresh borrows drainLimit).after ts) :=
      standing_after ts _ (standing_fresh borrows drainLimit) fun _ => hprompt
    exact hp.one_bound trivial hj hk ht hu

/-- A start whose time passes, a second one that is made meanwhile, and a third one. -/
def threeStarts : List Turn :=
  [.start (some 5), .advance 0, .advance 0, .start none, .advance 1, .pass 5, .advance 0,
    .advance 0, .advance 0, .advance 0, .start none, .advance 2, .advance 2,
    .report 1 (.bound default), .advance 2, .advance 2]

-- The first of them finds that its time has passed and goes on at once.
theorem one_of_three_bound :
    (Service.fresh false 0).Prompt threeStarts ∧
      ((Service.fresh false 0).after threeStarts).tasks.map (·.reported) =
        [none, some (.bound default)] ∧
      ∀ (j k : Nat) (t u : ServeTask),
        ((Service.fresh false 0).after threeStarts).tasks[j]? = some t →
        ((Service.fresh false 0).after threeStarts).tasks[k]? = some u →
        t.Bound → u.Bound → j = k := by
  have hprompt : (Service.fresh false 0).Prompt threeStarts := by
    repeat' constructor
    all_goals rintro (_ | _ | _ | i) limit task e h
    all_goals first | rfl | cases h
  exact ⟨hprompt, rfl, (lawful_after false 0 threeStarts).2.2 hprompt⟩

-- The first start shuts its group down, the second one is refused meanwhile, and the third
-- one serves.
example :
    let s := (Service.fresh false 0).after threeStarts
    (s.phase, s.held, s.tasks.map (·.stops), s.tasks.map (·.level)) =
      (.started, .all 1, [1, 0], [.forced, .running]) := by
  rfl

end Lifecycle

end DemandNet
