import DemandNet.Lifecycle.Service
import DemandNet.Proofs.Schedule

/-!
# Schedules of a Server

Everything that can happen to a server, in any order.

Calls are made and go on from one place where they wait, or look at the shared state, to
the next; serve tasks report, accept connections and look at the signal; connections come
and go; time passes; and groups of loops can be had at one time and not at another. A turn
is one of these things.

What a turn does is said once, by `Move`, and everything that holds of all schedules is
read off that. A task that does something never changes what it was told, nor how often
its group was shut down: only calls do.

## Main definitions

* `Turn`, `Service.turn`, `Service.after`: What happens, one by one and in a row.
* `ServeTask.Ages`, `ServeTask.Keeps`: What a task leaves as it is.
* `Fixed`: What nobody changes.
* `StartMove`, `ShutdownMove`, `Move`: What a stage of a call, and a turn, can do.
* `Prompt`: No start lets its task report after its time has passed.

## Theorems

* `start_move`, `shutdown_move`, `turn_move`: They do nothing else.
-/

namespace DemandNet

namespace Lifecycle

open Address

/-- What can happen to a server. -/
inductive Turn where
  /-- A call of start is made. -/
  | start (limit : Option Nat)
  /-- A call of shutdown is made. -/
  | shutdown
  /-- A call goes on to its next stage. -/
  | advance (call : Nat)
  | report (task : Nat) (r : Report)
  | accept (task : Nat)
  | register (task connection : Nat)
  | finish (task connection : Nat)
  | observe (task : Nat)
  | abandon (task : Nat)
  | pass (time : Nat)
  /-- From now on groups of the server's own can be made, or they cannot. -/
  | groups (failure : Option IoError)

namespace Service

/-- A server after a turn; a turn that is not possible changes nothing. -/
def turn (s : Service) : Turn → Service
  | .start limit => (s.call (.start limit .entering)).2
  | .shutdown => (s.call (.shutdown .entering)).2
  | .advance i => (s.advance i).getD s
  | .report task r => s.report task r
  | .accept task => s.accept task
  | .register task connection => s.register task connection
  | .finish task connection => s.finish task connection
  | .observe task => s.observe task
  | .abandon task => s.abandon task
  | .pass time => s.pass time
  | .groups failure => { s with groupFailure := failure }

/-- A server after a schedule. -/
def after (s : Service) (ts : List Turn) : Service := Schedule.after turn s ts

/-- Wherever a start finds that its time has passed, it is the next to go on: there it
    neither waits nor looks at the shared state, so nothing else comes between where calls
    give way at such places only. -/
def Prompt (s : Service) : List Turn → Prop
  | [] => True
  | t :: ts =>
      (∀ i limit task e, s.calls[i]? = some (.start limit (.expiring task e)) →
        t = .advance i) ∧ (s.turn t).Prompt ts

end Service

/-- How far a connection has come in its life. -/
def ConnectionStage.age : ConnectionStage → Nat
  | .spawned => 0
  | .registered => 1
  | .finished => 2

namespace ServeTask

/-- The connections of a task are still there, and none of them has become younger. -/
def Ages (t t' : ServeTask) : Prop :=
  ∀ (c : Nat) (x : ConnectionStage), t.connections[c]? = some x →
    ∃ y, t'.connections[c]? = some y ∧ x.age ≤ y.age

/-- The task has bound its address and said so. -/
def Bound (t : ServeTask) : Prop := ∃ address, t.reported = some (.bound address)

/-- What a task leaves as it is, whatever it does. -/
structure Keeps (t t' : ServeTask) : Prop where
  owned_eq : t'.owned = t.owned
  stops_eq : t'.stops = t.stops
  level_eq : t'.level = t.level
  /-- It reports once, and not after it was told to stop. -/
  reported_eq : t'.reported = t.reported ∨ t.reported = none ∧ t.level = .running
  ages : t.Ages t'

theorem Ages.of_eq {t t' : ServeTask} (h : t'.connections = t.connections) : t.Ages t' := by
  intro c x hc
  exact ⟨x, by rw [h, hc], Nat.le_refl _⟩

theorem Keeps.refl (t : ServeTask) : t.Keeps t := ⟨rfl, rfl, rfl, .inl rfl, .of_eq rfl⟩

end ServeTask

namespace Call

/-- A call that has not looked at the phase yet, or has nothing more to do. -/
def Idle : Call → Prop
  | .start _ .entering | .start _ (.done _) | .shutdown .entering | .shutdown .done => True
  | _ => False

/-- A call that has come to its end. -/
def Done : Call → Prop
  | .start _ (.done _) | .shutdown .done => True
  | _ => False

theorem Done.idle {c : Call} (h : c.Done) : c.Idle := by
  cases c with
  | start limit stage =>
      cases stage with
      | done r => trivial
      | entering | acquiring | waiting | expiring | publishing | stopping | restoring =>
          exact h.elim
  | shutdown stage =>
      cases stage with
      | done => trivial
      | entering | releasing | draining | forcing | stopping | closing => exact h.elim

end Call

open Service ServeTask

/-! ### Moves -/

/-- What a stage of a start can do, and the stage that it leads to. -/
inductive StartMove (s : Service) : StartStage → StartStage → Service → Prop
  | refuses (e : NetError) (hp : s.phase ≠ .unstarted) :
      StartMove s .entering (.done (.error e)) s
  | begins (hp : s.phase = .unstarted) :
      StartMove s .entering .acquiring { s with phase := .starting }
  /-- There is no group to be had. -/
  | misses (e : NetError) : StartMove s .acquiring (.restoring e) s
  | spawns (deadline : Option Nat) :
      StartMove s .acquiring (.waiting s.tasks.length deadline)
        { s with tasks := s.tasks ++ [.fresh !s.borrows] }
  | hears (task : Nat) (deadline : Option Nat) (address : Socket) (t : ServeTask)
      (ht : s.tasks[task]? = some t) (hr : t.reported = some (.bound address)) :
      StartMove s (.waiting task deadline) (.publishing task address) s
  /-- The report is not good. -/
  | fails (task : Nat) (deadline : Option Nat) (e : NetError)
      (hb : ∀ t, s.tasks[task]? = some t → ¬t.Bound) :
      StartMove s (.waiting task deadline) (.stopping task e) (s.onTask task force)
  | expires (task time : Nat) (e : NetError)
      (hr : ∀ t, s.tasks[task]? = some t → t.reported = none) :
      StartMove s (.waiting task (some time)) (.expiring task e) s
  | givesUp (task : Nat) (e : NetError) :
      StartMove s (.expiring task e) (.stopping task e) (s.onTask task force)
  | publishes (task : Nat) (address : Socket) :
      StartMove s (.publishing task address) (.done (.ok address))
        { s with phase := .started, address := some address, held := .all task }
  | stops (task : Nat) (e : NetError) :
      StartMove s (.stopping task e) (.restoring e) (s.onTask task stopGroup)
  | restores (e : NetError) :
      StartMove s (.restoring e) (.done (.error e)) { s with phase := .unstarted }

/-- What a stage of a shutdown can do, and the stage that it leads to. -/
inductive ShutdownMove (s : Service) : ShutdownStage → ShutdownStage → Service → Prop
  | passes (hp : s.phase ≠ .started) : ShutdownMove s .entering .done s
  | proceeds (hp : s.phase = .started) :
      ShutdownMove s .entering (.releasing s.held)
        ({ s with phase := .shuttingDown, held := .nothing }.onHeld s.held.coordinator drain)
  | drains (taken : Holding) :
      ShutdownMove s (.releasing taken) (.draining taken (s.now + s.drainLimit)) s
  /-- No connection counts as active. -/
  | empties (taken : Holding) (deadline : Nat) (ha : s.active = 0) :
      ShutdownMove s (.draining taken deadline) (.stopping taken)
        (s.onHeld taken.coordinator force)
  | forces (taken : Holding) (deadline : Nat) (hd : deadline ≤ s.now) :
      ShutdownMove s (.draining taken deadline) (.forcing taken (s.now + forceGrace))
        (s.onHeld taken.coordinator force)
  | leaves (taken : Holding) (deadline : Nat) :
      ShutdownMove s (.forcing taken deadline) (.stopping taken)
        (s.onHeld taken.coordinator force)
  | stops (taken : Holding) :
      ShutdownMove s (.stopping taken) .closing (s.onHeld taken.loops stopGroup)
  | closes : ShutdownMove s .closing .done { s with phase := .shutdown }

/-- What a turn can do. -/
inductive Move (s : Service) : Turn → Service → Prop
  | rests (t : Turn) : Move s t s
  | calls (t : Turn) (c : Call) (hc : c.Idle) (hd : ¬c.Done) :
      Move s t { s with calls := s.calls ++ [c] }
  /-- A task does something. -/
  | acts (t : Turn) (task : Nat) (f : ServeTask → ServeTask) (ht : ∀ i, t ≠ .advance i)
      (hf : ∀ x : ServeTask, x.Keeps (f x)) : Move s t (s.onTask task f)
  | passes (t : Turn) (now : Nat) (groupFailure : Option IoError) (hn : s.now ≤ now) :
      Move s t { s with now, groupFailure }
  | start (i : Nat) (limit : Option Nat) (stage stage' : StartStage) (s' : Service)
      (hi : s.calls[i]? = some (.start limit stage)) (hm : StartMove s stage stage' s') :
      Move s (.advance i) (s'.put i (.start limit stage'))
  | shutdown (i : Nat) (stage stage' : ShutdownStage) (s' : Service)
      (hi : s.calls[i]? = some (.shutdown stage)) (hm : ShutdownMove s stage stage' s') :
      Move s (.advance i) (s'.put i (.shutdown stage'))

section Moves

variable {s : Service}

theorem enterStart_move : StartMove s .entering s.enterStart.1 s.enterStart.2 := by
  unfold enterStart
  cases hp : s.phase with
  | unstarted => exact .begins hp
  | starting | started | shuttingDown | shutdown =>
      exact .refuses _ (by rw [hp]; exact Phase.noConfusion)

theorem acquire_move (limit : Option Nat) :
    StartMove s .acquiring (s.acquire limit).1 (s.acquire limit).2 := by
  unfold acquire
  cases s.groupFailure with
  | none => exact .spawns _
  | some e =>
      by_cases hb : s.borrows = true
      · dsimp only
        rw [if_pos hb]
        exact .spawns _
      · dsimp only
        rw [if_neg hb]
        exact .misses _

-- A task that is not there never reports, so nothing is asked of it.
theorem lookForReport_move {limit : Option Nat} {task : Nat} {deadline : Option Nat}
    {r : StartStage × Service} (h : s.lookForReport limit task deadline = some r) :
    StartMove s (.waiting task deadline) r.1 r.2 := by
  unfold lookForReport at h
  cases hr : (s.tasks[task]?).bind reported with
  | none =>
      rw [hr] at h
      cases deadline with
      | none => cases h
      | some time =>
          rcases Option.ite_none_right_eq_some.1 h with ⟨_, h⟩
          cases h
          refine .expires task time _ ?_
          intro t hget
          rwa [hget] at hr
  | some said =>
      rcases Option.bind_eq_some_iff.1 hr with ⟨t, hget, ht⟩
      rw [hr] at h
      cases said with
      | bound address =>
          cases h
          exact .hears task deadline address t hget ht
      | failed e | vanished =>
          cases h
          refine .fails task deadline _ ?_
          rintro u hu ⟨address, ha⟩
          rw [hget] at hu
          cases hu
          rw [ht] at ha
          cases ha

theorem start_move {limit : Option Nat} {stage : StartStage} {r : StartStage × Service}
    (h : s.advanceStart limit stage = some r) : StartMove s stage r.1 r.2 := by
  cases stage with
  | entering =>
      cases h
      exact enterStart_move
  | acquiring =>
      cases h
      exact acquire_move limit
  | waiting task deadline => exact lookForReport_move h
  | expiring task e =>
      cases h
      exact .givesUp task e
  | publishing task address =>
      cases h
      exact .publishes task address
  | stopping task e =>
      cases h
      exact .stops task e
  | restoring e =>
      cases h
      exact .restores e
  | done _ => cases h

theorem enterShutdown_move :
    ShutdownMove s .entering s.enterShutdown.1 s.enterShutdown.2 := by
  unfold enterShutdown
  cases hp : s.phase with
  | started => exact .proceeds hp
  | unstarted | starting | shuttingDown | shutdown =>
      exact .passes (by rw [hp]; exact Phase.noConfusion)

theorem shutdown_move {stage : ShutdownStage} {r : ShutdownStage × Service}
    (h : s.advanceShutdown stage = some r) : ShutdownMove s stage r.1 r.2 := by
  cases stage with
  | entering =>
      cases h
      exact enterShutdown_move
  | releasing taken =>
      rcases Option.ite_none_right_eq_some.1 h with ⟨_, h⟩
      cases h
      exact .drains taken
  | draining taken deadline =>
      simp only [advanceShutdown] at h
      by_cases ha : s.active = 0
      · rw [if_pos ha] at h
        cases h
        exact .empties taken deadline ha
      · rw [if_neg ha] at h
        rcases Option.ite_none_right_eq_some.1 h with ⟨hd, h⟩
        cases h
        exact .forces taken deadline hd
  | forcing taken deadline =>
      rcases Option.ite_none_right_eq_some.1 h with ⟨_, h⟩
      cases h
      exact .leaves taken deadline
  | stopping taken =>
      cases h
      exact .stops taken
  | closing =>
      cases h
      exact .closes
  | done => cases h

theorem advance_move (i : Nat) : Move s (.advance i) ((s.advance i).getD s) := by
  unfold advance
  cases hi : s.calls[i]? with
  | none => exact .rests _
  | some c =>
      rcases c with ⟨limit, stage⟩ | ⟨stage⟩
      · cases hm : s.advanceStart limit stage with
        | none =>
            dsimp only
            rw [hm]
            exact .rests _
        | some r =>
            dsimp only
            rw [hm]
            exact .start i limit stage r.1 r.2 hi (start_move hm)
      · cases hm : s.advanceShutdown stage with
        | none =>
            dsimp only
            rw [hm]
            exact .rests _
        | some r =>
            dsimp only
            rw [hm]
            exact .shutdown i stage r.1 r.2 hi (shutdown_move hm)

-- What a task does, it does under a condition, and otherwise it stays as it is.
theorem ServeTask.Keeps.ite (p : Prop) [Decidable p] (t t' : ServeTask)
    (h : p → t.Keeps t') : t.Keeps (if p then t' else t) := by
  by_cases hp : p
  · rw [if_pos hp]
    exact h hp
  · rw [if_neg hp]
    exact .refl t

theorem ServeTask.Ages.accept (t : ServeTask) :
    t.Ages { t with connections := t.connections ++ [.spawned] } := by
  intro c x hc
  rcases List.getElem?_eq_some_iff.1 hc with ⟨hlt, _⟩
  refine ⟨x, ?_, Nat.le_refl _⟩
  rw [List.getElem?_append_left hlt, hc]

theorem ServeTask.Ages.set (t : ServeTask) {i : Nat} {x y : ConnectionStage}
    (hi : t.connections[i]? = some x) (hxy : x.age ≤ y.age) :
    t.Ages { t with connections := t.connections.set i y } := by
  intro c z hc
  by_cases hic : i = c
  · subst hic
    rw [hi] at hc
    cases hc
    rcases List.getElem?_eq_some_iff.1 hi with ⟨hlt, _⟩
    exact ⟨y, List.getElem?_set_self hlt, hxy⟩
  · exact ⟨z, by rw [List.getElem?_set_ne hic, hc], Nat.le_refl _⟩

theorem ServeTask.Ages.abandon (t : ServeTask) :
    t.Ages { t with connections := t.connections.map fun _ => .finished } := by
  intro c x hc
  refine ⟨.finished, ?_, ?_⟩
  · rw [List.getElem?_map, hc]
    rfl
  · cases x <;> decide

theorem turn_move (t : Turn) : Move s t (s.turn t) := by
  cases t with
  | start limit => exact .calls _ _ trivial id
  | shutdown => exact .calls _ _ trivial id
  | advance i => exact advance_move i
  | pass time => exact .passes _ (s.now + time) s.groupFailure (Nat.le_add_right _ _)
  | groups failure => exact .passes _ s.now failure (Nat.le_refl _)
  | report task r =>
      refine .acts _ task _ (fun _ => Turn.noConfusion) fun x => Keeps.ite _ _ _ fun h => ?_
      simp only [Bool.and_eq_true, Option.isNone_iff_eq_none, decide_eq_true_eq] at h
      exact ⟨rfl, rfl, rfl, .inr h, .of_eq rfl⟩
  | observe task =>
      refine .acts _ task _ (fun _ => Turn.noConfusion) fun x => ?_
      by_cases h : x.level = .running
      · simp only [if_pos h]
        exact .refl x
      · simp only [if_neg h]
        exact ⟨rfl, rfl, rfl, .inl rfl, .of_eq rfl⟩
  | accept task =>
      exact .acts _ task _ (fun _ => Turn.noConfusion) fun x =>
        Keeps.ite _ _ _ fun _ => ⟨rfl, rfl, rfl, .inl rfl, .accept x⟩
  | register task connection | finish task connection =>
      exact .acts _ task _ (fun _ => Turn.noConfusion) fun x =>
        Keeps.ite _ _ _ fun h => ⟨rfl, rfl, rfl, .inl rfl, .set x h (by decide)⟩
  | abandon task =>
      exact .acts _ task _ (fun _ => Turn.noConfusion) fun x =>
        Keeps.ite _ _ _ fun _ => ⟨rfl, rfl, rfl, .inl rfl, .abandon x⟩

/-! ### What a stage leaves as it is -/

variable {s' : Service}

theorem onHeld_calls (i : Option Nat) (f : ServeTask → ServeTask) :
    (s.onHeld i f).calls = s.calls := by
  cases i <;> rfl

theorem StartMove.calls_eq {stage stage' : StartStage} (h : StartMove s stage stage' s') :
    s'.calls = s.calls := by
  cases h <;> rfl

theorem ShutdownMove.calls_eq {stage stage' : ShutdownStage}
    (h : ShutdownMove s stage stage' s') : s'.calls = s.calls := by
  cases h with
  | passes | drains | closes => rfl
  | proceeds | empties | forces | leaves | stops => exact onHeld_calls _ _


/-- What was agreed on when the server was made, and the clock. -/
structure Fixed (s s' : Service) : Prop where
  borrows_eq : s'.borrows = s.borrows
  drainLimit_eq : s'.drainLimit = s.drainLimit
  now_le : s.now ≤ s'.now

theorem onHeld_fixed (i : Option Nat) (f : ServeTask → ServeTask) :
    Fixed s (s.onHeld i f) := by
  cases i <;> exact ⟨rfl, rfl, Nat.le_refl _⟩

theorem Move.fixed {t : Turn} (h : Move s t s') : Fixed s s' := by
  cases h with
  | rests | calls | acts => exact ⟨rfl, rfl, Nat.le_refl _⟩
  | passes _ now _ hn => exact ⟨rfl, rfl, hn⟩
  | start i limit stage stage' s' hi hm => cases hm <;> exact ⟨rfl, rfl, Nat.le_refl _⟩
  | shutdown i stage stage' s' hi hm =>
      cases hm with
      | passes | drains | closes => exact ⟨rfl, rfl, Nat.le_refl _⟩
      | proceeds hp =>
          have h := onHeld_fixed (s := { s with phase := .shuttingDown, held := .nothing })
            s.held.coordinator drain
          exact ⟨h.borrows_eq, h.drainLimit_eq, h.now_le⟩
      | empties taken | forces taken | leaves taken =>
          have h := onHeld_fixed (s := s) taken.coordinator force
          exact ⟨h.borrows_eq, h.drainLimit_eq, h.now_le⟩
      | stops taken =>
          have h := onHeld_fixed (s := s) taken.loops stopGroup
          exact ⟨h.borrows_eq, h.drainLimit_eq, h.now_le⟩

end Moves

end Lifecycle

end DemandNet
