import DemandNet.Proofs.Lifecycle.Standing
import Mathlib.Algebra.Order.BigOperators.Group.List
import Mathlib.Algebra.Order.Ring.Nat

/-!
# Draining

How long a shutdown leaves connections alone.

A shutdown waits for the connections that count as active, and for no others. One that
counts is left to its handler until the time of the shutdown has passed. One that was
accepted, but does not count yet because its loop has not come to it, is not waited for: a
shutdown that finds no other one forces it at once.

The time is measured from the turn at which the shutdown looked at the phase. What it
waits for begins later, when the task has let its address go, so it ends no earlier.

## Main definitions

* `Service.Draining`: A shutdown is under way and has forced nothing.
* `Service.Counts`, `Service.Aged`: How far a connection has come.
* `DrainsSince`: A shutdown that drains waits long enough.

## Theorems

* `Move.ages`: No connection becomes younger.
* `Move.draining`: A shutdown that still has to wait does not force.
* `counted_connections_drain`: A connection that counts is left to its handler.
-/

namespace DemandNet

namespace Lifecycle

open Address Service ServeTask

namespace Service

/-- A shutdown is under way, and its task was told to take no new connections and no
    more. -/
def Draining (s : Service) : Prop :=
  s.phase = .shuttingDown ∧
    ∃ (i : Nat) (x : ServeTask), s.tasks[i]? = some x ∧ x.level = .draining

/-- A connection counts as active: its handler has not come to its end. -/
def Counts (s : Service) (task connection : Nat) : Prop :=
  ∃ x : ServeTask, s.tasks[task]? = some x ∧ x.connections[connection]? = some .registered

/-- A connection has come this far. -/
def Aged (s : Service) (task connection age : Nat) : Prop :=
  ∃ (x : ServeTask) (stage : ConnectionStage), s.tasks[task]? = some x ∧
    x.connections[connection]? = some stage ∧ age ≤ stage.age

end Service

/-- A shutdown that drains waits at least until a limit has passed since some time. -/
structure DrainsSince (since limit : Nat) (s : Service) : Prop where
  standing : Standing False s
  limit_eq : s.drainLimit = limit
  since_le : since ≤ s.now
  deadline_ge : ∀ (i : Nat) (taken : Holding) (deadline : Nat),
    s.calls[i]? = some (.shutdown (.draining taken deadline)) → since + limit ≤ deadline

variable {s s' : Service}

/-! ### Connections -/

theorem onTask_ages (i : Nat) {f : ServeTask → ServeTask} (hf : ∀ x : ServeTask, x.Ages (f x))
    {j : Nat} {x : ServeTask} (hj : s.tasks[j]? = some x) :
    ∃ y, (s.onTask i f).tasks[j]? = some y ∧ x.Ages y := by
  refine ⟨_, getElem?_modify_of_some i f hj, ?_⟩
  split
  · exact hf x
  · exact .of_eq rfl

theorem onHeld_ages (i : Option Nat) {f : ServeTask → ServeTask}
    (hf : ∀ x : ServeTask, x.Ages (f x)) {j : Nat} {x : ServeTask}
    (hj : s.tasks[j]? = some x) : ∃ y, (s.onHeld i f).tasks[j]? = some y ∧ x.Ages y := by
  cases i with
  | none => exact ⟨x, hj, .of_eq rfl⟩
  | some i => exact onTask_ages i hf hj

theorem drain_ages (x : ServeTask) : x.Ages x.drain := by
  unfold drain
  split <;> exact .of_eq rfl

theorem force_ages (x : ServeTask) : x.Ages x.force := .of_eq rfl

theorem stopGroup_ages (x : ServeTask) : x.Ages x.stopGroup := by
  unfold stopGroup
  split <;> exact .of_eq rfl

theorem StartMove.ages {stage stage' : StartStage} (h : StartMove s stage stage' s') {j : Nat}
    {x : ServeTask} (hj : s.tasks[j]? = some x) :
    ∃ y, s'.tasks[j]? = some y ∧ x.Ages y := by
  cases h with
  | refuses | begins | misses | hears | expires | publishes | restores =>
      exact ⟨x, hj, .of_eq rfl⟩
  | spawns deadline =>
      rcases List.getElem?_eq_some_iff.1 hj with ⟨hlt, _⟩
      exact ⟨x, by rw [List.getElem?_append_left hlt, hj], .of_eq rfl⟩
  | fails | givesUp => exact onTask_ages _ force_ages hj
  | stops => exact onTask_ages _ stopGroup_ages hj

theorem ShutdownMove.ages {stage stage' : ShutdownStage} (h : ShutdownMove s stage stage' s')
    {j : Nat} {x : ServeTask} (hj : s.tasks[j]? = some x) :
    ∃ y, s'.tasks[j]? = some y ∧ x.Ages y := by
  cases h with
  | passes | drains | closes => exact ⟨x, hj, .of_eq rfl⟩
  | proceeds hp =>
      exact onHeld_ages (s := { s with phase := .shuttingDown, held := .nothing }) _
        drain_ages hj
  | empties | forces | leaves => exact onHeld_ages _ force_ages hj
  | stops => exact onHeld_ages _ stopGroup_ages hj

theorem Move.ages {t : Turn} (hm : Move s t s') {j : Nat} {x : ServeTask}
    (hj : s.tasks[j]? = some x) : ∃ y, s'.tasks[j]? = some y ∧ x.Ages y := by
  cases hm with
  | rests | calls | passes => exact ⟨x, hj, .of_eq rfl⟩
  | acts _ task f _ hf => exact onTask_ages task (fun x => (hf x).ages) hj
  | start i limit stage stage' s' hi hm => exact hm.ages hj
  | shutdown i stage stage' s' hi hm => exact hm.ages hj

theorem aged_after (ts : List Turn) {j c age : Nat} :
    ∀ s : Service, s.Aged j c age → (s.after ts).Aged j c age := by
  induction ts with
  | nil => exact fun s h => h
  | cons t rest ih =>
      intro s h
      rcases h with ⟨x, stage, hx, hc, hage⟩
      rcases (turn_move t).ages hx with ⟨y, hy, hxy⟩
      rcases hxy c stage hc with ⟨stage', hc', hage'⟩
      exact ih (s.turn t) ⟨y, stage', hy, hc', Nat.le_trans hage hage'⟩

-- A connection that counts and will count again has not ended in between.
theorem counts_between {j c : Nat} (later : List Turn) (h : s.Aged j c 1)
    (hlater : (s.after later).Counts j c) : s.Counts j c := by
  rcases h with ⟨x, stage, hx, hc, hage⟩
  cases stage with
  | spawned => exact absurd hage (by decide)
  | registered => exact ⟨x, hx, hc⟩
  | finished =>
      rcases aged_after later s ⟨x, .finished, hx, hc, Nat.le_refl _⟩ with
        ⟨y, stage', hy, hc', hage'⟩
      rcases hlater with ⟨z, hz, hcz⟩
      rw [hy] at hz
      cases hz
      rw [hc'] at hcz
      cases hcz
      exact absurd hage' (by decide)

theorem Service.Counts.aged {j c : Nat} (h : s.Counts j c) : s.Aged j c 1 := by
  rcases h with ⟨x, hx, hc⟩
  exact ⟨x, .registered, hx, hc, Nat.le_refl 1⟩

theorem active_ne_zero {j c : Nat} (h : s.Counts j c) : s.active ≠ 0 := by
  rcases h with ⟨x, hx, hc⟩
  have hpos : 0 < x.active := List.count_pos_iff.2 (List.mem_of_getElem? hc)
  have hle : x.active ≤ (s.tasks.map ServeTask.active).sum :=
    List.le_sum_of_mem (List.mem_map_of_mem (List.mem_of_getElem? hx))
  rw [List.sum_eq_foldr] at hle
  exact Nat.ne_of_gt (Nat.lt_of_lt_of_le hpos hle)

/-! ### Time -/

theorem now_le_after (ts : List Turn) : ∀ s : Service, s.now ≤ (s.after ts).now := by
  induction ts with
  | nil => exact fun s => Nat.le_refl _
  | cons t rest ih => exact fun s => Nat.le_trans (turn_move t).fixed.now_le (ih (s.turn t))

-- The time of a shutdown begins when its task has let its address go, and that is not
-- before it was told.
theorem Move.drainsSince {since limit : Nat} {t : Turn} (hm : Move s t s')
    (h : DrainsSince since limit s) : DrainsSince since limit s' := by
  refine ⟨hm.standing h.standing False.elim, ?_, ?_, ?_⟩
  · rw [hm.fixed.drainLimit_eq, h.limit_eq]
  · exact Nat.le_trans h.since_le hm.fixed.now_le
  · intro k taken deadline hk
    cases hm with
    | rests | acts | passes => exact h.deadline_ge k taken deadline hk
    | calls _ c hc =>
        rcases getElem?_concat_cases hk with hold | ⟨_, rfl⟩
        · exact h.deadline_ge k taken deadline hold
        · exact hc.elim
    | start i lim stage stage' s' hi hm =>
        rcases put_cases hk with hold | hnew
        · rw [hm.calls_eq] at hold
          exact h.deadline_ge k taken deadline hold
        · cases hnew
    | shutdown i stage stage' s' hi hm =>
        rcases put_cases hk with hold | hnew
        · rw [hm.calls_eq] at hold
          exact h.deadline_ge k taken deadline hold
        · cases hnew
          cases hm
          rw [h.limit_eq]
          exact Nat.add_le_add_right h.since_le limit

theorem drainsSince_after {since limit : Nat} (ts : List Turn) :
    ∀ s, DrainsSince since limit s → DrainsSince since limit (s.after ts) := by
  induction ts with
  | nil => exact fun s h => h
  | cons t rest ih => exact fun s h => ih (s.turn t) ((turn_move t).drainsSince h)

theorem drainsSince_of_started (hs : Standing False s) (hp : s.phase = .started) :
    DrainsSince s.now s.drainLimit s := by
  refine ⟨hs, rfl, Nat.le_refl _, fun i taken deadline hi => ?_⟩
  rcases hs.of_started hp with ⟨_, _, hc, _⟩
  exact (hc.idle_of_none hi).elim

/-! ### Waiting -/

/-- A shutdown whose task was not forced is waiting for it, or for its connections. -/
theorem Standing.waits {prompt : Prop} (h : Standing prompt s) (hd : s.Draining) {i : Nat}
    {stage : ShutdownStage} (hi : s.calls[i]? = some (.shutdown stage))
    (hs : ¬(Call.shutdown stage).Idle) :
    (∃ taken, stage = .releasing taken) ∨ ∃ taken deadline, stage = .draining taken deadline := by
  rcases h.of_shutdown hi hs with ⟨_, _, _, j, care, hl, ht⟩
  rcases hd.2 with ⟨k, x, hx, hlevel⟩
  have hcare := ht.eq_of_level hx (by rw [hlevel]; exact Level.noConfusion)
  rw [hlevel] at hcare
  cases hl with
  | releasing => exact Or.inl ⟨_, rfl⟩
  | draining deadline => exact Or.inr ⟨_, deadline, rfl⟩
  | forcing | stopping | closing => cases hcare

theorem onTask_draining (hd : s.Draining) (i : Nat) {f : ServeTask → ServeTask}
    (hf : ∀ x : ServeTask, x.Keeps (f x)) : (s.onTask i f).Draining := by
  rcases hd with ⟨hp, k, x, hx, hlevel⟩
  refine ⟨hp, k, _, getElem?_modify_of_some i f hx, ?_⟩
  split
  · rw [(hf x).level_eq, hlevel]
  · exact hlevel

-- While a connection counts, the wait can only be over because its time has passed.
theorem Move.draining {since limit : Nat} {t : Turn} (hm : Move s t s')
    (h : DrainsSince since limit s) (hd : s.Draining) {j c : Nat} (hc : s.Counts j c)
    (htime : s.now < since + limit) : s'.Draining := by
  cases hm with
  | rests | calls | passes => exact hd
  | acts _ task f _ hf => exact onTask_draining hd task hf
  | start i lim stage stage' s' hi hm =>
      have hidle : (Call.start lim stage).Idle := by
        by_contra hs
        have hp := (h.standing.of_start hi hs).1
        rw [hd.1] at hp
        cases hp
      cases hm with
      | refuses => exact hd
      | begins hp =>
          rw [hd.1] at hp
          cases hp
      | misses | spawns | hears | fails | expires | givesUp | publishes | stops | restores =>
          exact hidle.elim
  | shutdown i stage stage' s' hi hm =>
      cases hm with
      | passes | drains => exact hd
      | proceeds hp =>
          rw [hd.1] at hp
          cases hp
      | empties taken deadline ha => exact absurd ha (active_ne_zero hc)
      | forces taken deadline hlate =>
          have hge := h.deadline_ge i taken deadline hi
          omega
      | leaves taken deadline | stops taken | closes =>
          rcases h.standing.waits hd hi id with ⟨_, heq⟩ | ⟨_, _, heq⟩ <;> cases heq

theorem draining_after {since limit j c : Nat} (later : List Turn) :
    ∀ s, DrainsSince since limit s → s.Draining → s.Counts j c →
      (s.after later).Counts j c → (s.after later).now < since + limit →
      (s.after later).Draining := by
  induction later with
  | nil => exact fun s _ hd _ _ _ => hd
  | cons t rest ih =>
      intro s h hd hc hlater htime
      have hnow := now_le_after (t :: rest) s
      have hcounts : (s.turn t).Counts j c :=
        counts_between rest (aged_after [t] s hc.aged) hlater
      have hsoon : s.now < since + limit := Nat.lt_of_le_of_lt hnow htime
      exact ih (s.turn t) ((turn_move t).drainsSince h)
        ((turn_move t).draining h hd hc hsoon) hcounts hlater htime

-- A connection that counted when nothing had been forced yet, and still counts, keeps the
-- shutdown waiting until its time has passed.
theorem counted_connections_drain (borrows : Bool) (drainLimit : Nat)
    (before early later : List Turn) (task connection : Nat) {s₀ s₁ s₂ : Service}
    (h₀ : s₀ = (Service.fresh borrows drainLimit).after before) (h₁ : s₁ = s₀.after early)
    (h₂ : s₂ = s₁.after later) (hstarted : s₀.phase = .started) (hdraining : s₁.Draining)
    (hcounts : s₁.Counts task connection) (hstill : s₂.Counts task connection)
    (htime : s₂.now < s₀.now + drainLimit) : s₂.Draining := by
  have hs : Standing False s₀ := by
    rw [h₀]
    exact standing_after before _ (standing_fresh borrows drainLimit) False.elim
  have hlimit : s₀.drainLimit = drainLimit := by
    rw [h₀]
    exact Schedule.kept_after (fun s t => (turn_move t).fixed.drainLimit_eq) before _
  have hsince := drainsSince_after early s₀ (drainsSince_of_started hs hstarted)
  rw [← h₁, hlimit] at hsince
  rw [h₂] at hstill htime ⊢
  exact draining_after later s₁ hsince hdraining hcounts hstill htime

/-- A server is started and accepts a connection, which its loop has not come to. -/
def acceptingOne : List Turn :=
  [.start none, .advance 0, .advance 0, .report 0 (.bound default), .advance 0, .advance 0,
    .accept 0]

/-- A shutdown during which the task looks at the signal. -/
def drainingIt : List Turn := [.shutdown, .advance 1, .observe 0, .advance 1]

theorem counted_connections_drain_one :
    ((((Service.fresh false 5000).after (acceptingOne ++ [.register 0 0])).after
      drainingIt).after [.pass 4999, .advance 1]).Draining := by
  have htask : ∀ s : Service, s.tasks = [
      { owned := true, stops := 0, level := .draining, reported := some (.bound default),
        released := true, connections := [.registered] }] →
      (s.phase = .shuttingDown → s.Draining) ∧ s.Counts 0 0 := by
    intro s hs
    have hget := congrArg (fun tasks : List ServeTask => tasks[0]?) hs
    exact ⟨fun hp => ⟨hp, 0, _, hget, rfl⟩, ⟨_, hget, rfl⟩⟩
  refine counted_connections_drain false 5000 (acceptingOne ++ [.register 0 0]) drainingIt
    [.pass 4999, .advance 1] 0 0 rfl rfl ?_ ?_ ?_ ?_ ?_ ?_
  · rfl
  · rfl
  · exact (htask _ rfl).1 rfl
  · exact (htask _ rfl).2
  · exact (htask _ rfl).2
  · decide

-- The same connection, had its loop come to it only when the shutdown looked for
-- connections: it is there, but nobody waits for it, and no time passes.
theorem uncounted_connection_forced :
    ((Service.fresh false 5000).after acceptingOne).phase = .started ∧
      ((Service.fresh false 5000).after acceptingOne).tasks.map
          (fun t => (t.released, t.connections)) = [(false, [.spawned])] ∧
      ((Service.fresh false 5000).after (acceptingOne ++ drainingIt ++
          [.advance 1, .register 0 0, .advance 1, .advance 1])).tasks.map
          (fun t => (t.level, t.stops, t.connections)) = [(.forced, 1, [.registered])] ∧
      ((Service.fresh false 5000).after (acceptingOne ++ drainingIt ++
          [.advance 1, .register 0 0, .advance 1, .advance 1])).phase = .shutdown ∧
      ((Service.fresh false 5000).after (acceptingOne ++ drainingIt ++
          [.advance 1, .register 0 0, .advance 1, .advance 1])).now = 0 :=
  ⟨rfl, rfl, rfl, rfl, rfl⟩

end Lifecycle

end DemandNet
