import DemandNet.Proofs.Lifecycle.Tending

/-!
# The Standing of a Server

What is so of a server at any time, by its phase.

The phase says whose turn it is to change it. While a server is starting there is one
start that has not ended, and while it is shutting down there is one shutdown; at all
other times every call is idle. The call that is under way cares for one task at most, and
so does a server that was started. How far that task is, is written beside the stage of
the call.

## Main definitions

* `Starting`, `Leaving`: What the stages of the calls say of the tasks.
* `Standing`: What is so of a server.

## Theorems

* `Standing.of_start`, `Standing.of_shutdown`: What is so where a call is under way.
* `Move.standing`, `standing_after`: It is kept by every turn, and so by every schedule.
-/

namespace DemandNet

namespace Lifecycle

open Address

/-- What a stage of a start that is under way says of the tasks. -/
inductive Starting : StartStage → Option (Nat × Level) → Option Nat → Prop
  | acquiring : Starting .acquiring none none
  | waiting (j : Nat) (deadline : Option Nat) :
      Starting (.waiting j deadline) (some (j, .running)) (some j)
  | expiring (j : Nat) (e : NetError) : Starting (.expiring j e) (some (j, .running)) none
  | publishing (j : Nat) (address : Socket) :
      Starting (.publishing j address) (some (j, .running)) (some j)
  | stopping (j : Nat) (e : NetError) : Starting (.stopping j e) (some (j, .forced)) none
  | restoring (e : NetError) : Starting (.restoring e) none none

/-- What a stage of a shutdown that is under way says of the task that it found. -/
inductive Leaving (j : Nat) : ShutdownStage → Option (Nat × Level) → Prop
  | releasing : Leaving j (.releasing (.all j)) (some (j, .draining))
  | draining (deadline : Nat) :
      Leaving j (.draining (.all j) deadline) (some (j, .draining))
  | forcing (deadline : Nat) : Leaving j (.forcing (.all j) deadline) (some (j, .forced))
  | stopping : Leaving j (.stopping (.all j)) (some (j, .forced))
  | closing : Leaving j .closing none

/-- What is so of a server, by its phase. -/
inductive Standing (prompt : Prop) (s : Service) : Prop
  | unstarted (hp : s.phase = .unstarted) (hh : s.held = .nothing)
      (hc : Alone s.calls none) (ht : Tended prompt s.tasks none none)
  | starting (i : Nat) (limit : Option Nat) (stage : StartStage)
      (care : Option (Nat × Level)) (heard : Option Nat) (hp : s.phase = .starting)
      (hh : s.held = .nothing) (hi : s.calls[i]? = some (.start limit stage))
      (hs : Starting stage care heard) (hc : Alone s.calls (some i))
      (ht : Tended prompt s.tasks care heard)
  | started (j : Nat) (hp : s.phase = .started) (hh : s.held = .all j)
      (hc : Alone s.calls none) (ht : Tended prompt s.tasks (some (j, .running)) (some j))
  | shuttingDown (i j : Nat) (stage : ShutdownStage) (care : Option (Nat × Level))
      (hp : s.phase = .shuttingDown) (hh : s.held = .nothing)
      (hi : s.calls[i]? = some (.shutdown stage)) (hl : Leaving j stage care)
      (hc : Alone s.calls (some i)) (ht : Tended prompt s.tasks care (some j))
  | shutdown (j : Nat) (hp : s.phase = .shutdown) (hh : s.held = .nothing)
      (hc : Alone s.calls none) (ht : Tended prompt s.tasks none (some j))

open Service ServeTask

/-! ### Turns -/

section Turns

variable {prompt : Prop} {s s' : Service}

theorem Starting.not_idle {stage : StartStage} {care : Option (Nat × Level)}
    {heard : Option Nat} (h : Starting stage care heard) (limit : Option Nat) :
    ¬(Call.start limit stage).Idle := by
  cases h <;> exact id

theorem Leaving.not_idle {j : Nat} {stage : ShutdownStage} {care : Option (Nat × Level)}
    (h : Leaving j stage care) : ¬(Call.shutdown stage).Idle := by
  cases h <;> exact id

theorem put_self {i : Nat} {c : Call} (hi : s.calls[i]? = some c) (c' : Call) :
    (s.put i c').calls[i]? = some c' := by
  rcases List.getElem?_eq_some_iff.1 hi with ⟨hlt, _⟩
  exact List.getElem?_set_self hlt

theorem put_ne {i k : Nat} (c : Call) (hik : i ≠ k) :
    (s.put i c).calls[k]? = s.calls[k]? := List.getElem?_set_ne hik

theorem put_cases {i k : Nat} {c d : Call} (h : (s.put i c).calls[k]? = some d) :
    s.calls[k]? = some d ∨ d = c := by
  by_cases hik : i = k
  · right
    rw [hik] at h
    rcases List.getElem?_eq_some_iff.1 h with ⟨hlt, _⟩
    rw [Service.put, List.getElem?_set_self (by simpa [Service.put] using hlt)] at h
    exact (Option.some.inj h).symm
  · left
    rwa [put_ne c hik] at h

namespace Standing

theorem of_unstarted (h : Standing prompt s) (hp : s.phase = .unstarted) :
    s.held = .nothing ∧ Alone s.calls none ∧ Tended prompt s.tasks none none := by
  cases h with
  | unstarted _ hh hc ht => exact ⟨hh, hc, ht⟩
  | starting _ _ _ _ _ hp' | started _ hp' | shuttingDown _ _ _ _ hp' | shutdown _ hp' =>
      rw [hp] at hp'
      cases hp'

theorem of_started (h : Standing prompt s) (hp : s.phase = .started) :
    ∃ j, s.held = .all j ∧ Alone s.calls none ∧
      Tended prompt s.tasks (some (j, .running)) (some j) := by
  cases h with
  | started j _ hh hc ht => exact ⟨j, hh, hc, ht⟩
  | unstarted hp' | starting _ _ _ _ _ hp' | shuttingDown _ _ _ _ hp' | shutdown _ hp' =>
      rw [hp] at hp'
      cases hp'

theorem tended (h : Standing prompt s) : ∃ care heard, Tended prompt s.tasks care heard := by
  cases h with
  | unstarted _ _ _ ht => exact ⟨_, _, ht⟩
  | starting _ _ _ care heard _ _ _ _ _ ht => exact ⟨care, heard, ht⟩
  | started _ _ _ _ ht => exact ⟨_, _, ht⟩
  | shuttingDown _ _ _ care _ _ _ _ _ ht => exact ⟨care, _, ht⟩
  | shutdown _ _ _ _ ht => exact ⟨_, _, ht⟩

/-- A start that has not ended is the one that the server is starting by. -/
theorem of_start (h : Standing prompt s) {i : Nat} {limit : Option Nat} {stage : StartStage}
    (hi : s.calls[i]? = some (.start limit stage)) (hs : ¬(Call.start limit stage).Idle) :
    s.phase = .starting ∧ s.held = .nothing ∧ Alone s.calls (some i) ∧
      ∃ care heard, Starting stage care heard ∧ Tended prompt s.tasks care heard := by
  cases h with
  | unstarted _ _ hc _ | started _ _ _ hc _ | shutdown _ _ _ hc _ =>
      exact absurd (hc.idle_of_none hi) hs
  | starting k _ _ care heard hp hh hk hstart hc ht =>
      cases hc.eq_of_busy hi hs
      rw [hi] at hk
      cases hk
      exact ⟨hp, hh, hc, care, heard, hstart, ht⟩
  | shuttingDown k _ _ _ _ _ hk _ hc _ =>
      cases hc.eq_of_busy hi hs
      rw [hi] at hk
      cases hk

/-- A shutdown that found a server that was started, and has not ended. -/
theorem of_shutdown (h : Standing prompt s) {i : Nat} {stage : ShutdownStage}
    (hi : s.calls[i]? = some (.shutdown stage)) (hs : ¬(Call.shutdown stage).Idle) :
    s.phase = .shuttingDown ∧ s.held = .nothing ∧ Alone s.calls (some i) ∧
      ∃ j care, Leaving j stage care ∧ Tended prompt s.tasks care (some j) := by
  cases h with
  | unstarted _ _ hc _ | started _ _ _ hc _ | shutdown _ _ _ hc _ =>
      exact absurd (hc.idle_of_none hi) hs
  | starting k _ _ _ _ _ _ hk _ hc _ =>
      cases hc.eq_of_busy hi hs
      rw [hi] at hk
      cases hk
  | shuttingDown k j _ care hp hh hk hl hc ht =>
      cases hc.eq_of_busy hi hs
      rw [hi] at hk
      cases hk
      exact ⟨hp, hh, hc, j, care, hl, ht⟩

-- A call that finds nothing to do makes no difference.
theorem stay (h : Standing prompt s) {i : Nat} {c c' : Call} (hi : s.calls[i]? = some c)
    (hc : c.Idle) (hc' : c'.Idle) : Standing prompt (s.put i c') := by
  have hbusy : ∀ (k : Nat) (d : Call), s.calls[k]? = some d → ¬d.Idle →
      (s.put i c').calls[k]? = some d := by
    intro k d hk hd
    rw [put_ne c' fun hik => ?_]
    · exact hk
    · rw [← hik, hi] at hk
      cases hk
      exact hd hc
  cases h with
  | unstarted hp hh ha ht => exact .unstarted hp hh (ha.stay i hc') ht
  | starting k limit stage care heard hp hh hk hs ha ht =>
      exact .starting k limit stage care heard hp hh (hbusy k _ hk (hs.not_idle limit)) hs
        (ha.stay i hc') ht
  | started j hp hh ha ht => exact .started j hp hh (ha.stay i hc') ht
  | shuttingDown k j stage care hp hh hk hl ha ht =>
      exact .shuttingDown k j stage care hp hh (hbusy k _ hk hl.not_idle) hl
        (ha.stay i hc') ht
  | shutdown j hp hh ha ht => exact .shutdown j hp hh (ha.stay i hc') ht

theorem append (h : Standing prompt s) {c : Call} (hc : c.Idle) :
    Standing prompt { s with calls := s.calls ++ [c] } := by
  have hbusy : ∀ (k : Nat) (d : Call), s.calls[k]? = some d →
      (s.calls ++ [c])[k]? = some d := by
    intro k d hk
    rcases List.getElem?_eq_some_iff.1 hk with ⟨hlt, _⟩
    rwa [List.getElem?_append_left hlt]
  cases h with
  | unstarted hp hh ha ht => exact .unstarted hp hh (ha.append hc) ht
  | starting k limit stage care heard hp hh hk hs ha ht =>
      exact .starting k limit stage care heard hp hh (hbusy k _ hk) hs (ha.append hc) ht
  | started j hp hh ha ht => exact .started j hp hh (ha.append hc) ht
  | shuttingDown k j stage care hp hh hk hl ha ht =>
      exact .shuttingDown k j stage care hp hh (hbusy k _ hk) hl (ha.append hc) ht
  | shutdown j hp hh ha ht => exact .shutdown j hp hh (ha.append hc) ht

-- The one place where it matters that a start goes on at once when its time has passed:
-- its task might report, and nobody would hear it.
theorem acts (h : Standing prompt s) (task : Nat) {f : ServeTask → ServeTask}
    (hf : ∀ x : ServeTask, x.Keeps (f x))
    (hprompt : prompt → ∀ (i : Nat) (limit : Option Nat) (j : Nat) (e : NetError),
      s.calls[i]? ≠ some (.start limit (.expiring j e))) :
    Standing prompt (s.onTask task f) := by
  cases h with
  | unstarted hp hh hc ht =>
      exact .unstarted hp hh hc (ht.acts task hf fun _ _ hj => nomatch hj)
  | starting i limit stage care heard hp hh hi hs hc ht =>
      refine .starting i limit stage care heard hp hh hi hs hc (ht.acts task hf ?_)
      intro hprompt' j hj
      cases hs with
      | waiting | publishing =>
          cases hj
          rfl
      | expiring k e => exact absurd hi (hprompt hprompt' i limit k e)
      | acquiring | stopping | restoring => cases hj
  | started j hp hh hc ht =>
      refine .started j hp hh hc (ht.acts task hf ?_)
      intro _ k hk
      cases hk
      rfl
  | shuttingDown i j stage care hp hh hi hl hc ht =>
      refine .shuttingDown i j stage care hp hh hi hl hc (ht.acts task hf ?_)
      intro _ k hk
      cases hl <;> cases hk
  | shutdown j hp hh hc ht =>
      exact .shutdown j hp hh hc (ht.acts task hf fun _ _ hk => nomatch hk)

theorem start (h : Standing prompt s) {i : Nat} {limit : Option Nat}
    {stage stage' : StartStage} (hi : s.calls[i]? = some (.start limit stage))
    (hm : StartMove s stage stage' s') :
    Standing prompt (s'.put i (.start limit stage')) := by
  cases hm with
  | refuses e hp => exact h.stay hi trivial trivial
  | begins hp =>
      rcases h.of_unstarted hp with ⟨hh, hc, ht⟩
      exact .starting i limit _ _ _ rfl hh (put_self hi _) .acquiring (hc.enter i _) ht
  | misses e =>
      rcases h.of_start hi id with ⟨hp, hh, hc, _, _, ⟨⟩, ht⟩
      exact .starting i limit _ _ _ hp hh (put_self hi _) (.restoring e) (hc.go _) ht
  | spawns deadline =>
      rcases h.of_start hi id with ⟨hp, hh, hc, _, _, ⟨⟩, ht⟩
      exact .starting i limit _ _ _ hp hh (put_self hi _) (.waiting _ deadline) (hc.go _)
        (ht.spawn _)
  | hears task deadline address t hget hr =>
      rcases h.of_start hi id with ⟨hp, hh, hc, _, _, ⟨⟩, ht⟩
      exact .starting i limit _ _ _ hp hh (put_self hi _) (.publishing task address)
        (hc.go _) ht
  | fails task deadline e hb =>
      rcases h.of_start hi id with ⟨hp, hh, hc, _, _, ⟨⟩, ht⟩
      exact .starting i limit _ _ _ hp hh (put_self hi _) (.stopping task e) (hc.go _)
        (ht.unheard hb).force
  | expires task time e hr =>
      rcases h.of_start hi id with ⟨hp, hh, hc, _, _, ⟨⟩, ht⟩
      refine .starting i limit _ _ _ hp hh (put_self hi _) (.expiring task e) (hc.go _)
        (ht.unheard ?_)
      rintro t hget ⟨address, ha⟩
      rw [hr t hget] at ha
      cases ha
  | givesUp task e =>
      rcases h.of_start hi id with ⟨hp, hh, hc, _, _, ⟨⟩, ht⟩
      exact .starting i limit _ _ _ hp hh (put_self hi _) (.stopping task e) (hc.go _)
        ht.force
  | publishes task address =>
      rcases h.of_start hi id with ⟨_, _, hc, _, _, ⟨⟩, ht⟩
      exact .started task rfl rfl (hc.leave trivial) ht
  | stops task e =>
      rcases h.of_start hi id with ⟨hp, hh, hc, _, _, ⟨⟩, ht⟩
      exact .starting i limit _ _ _ hp hh (put_self hi _) (.restoring e) (hc.go _)
        ht.stopGroup
  | restores e =>
      rcases h.of_start hi id with ⟨_, hh, hc, _, _, ⟨⟩, ht⟩
      exact .unstarted rfl hh (hc.leave trivial) ht

theorem shutdown_of (h : Standing prompt s) {i : Nat} {stage stage' : ShutdownStage}
    (hi : s.calls[i]? = some (.shutdown stage)) (hm : ShutdownMove s stage stage' s') :
    Standing prompt (s'.put i (.shutdown stage')) := by
  cases hm with
  | passes hp => exact h.stay hi trivial trivial
  | proceeds hp =>
      rcases h.of_started hp with ⟨j, hh, hc, ht⟩
      rw [hh]
      exact .shuttingDown i j _ _ rfl rfl (put_self hi _) .releasing (hc.enter i _) ht.drain
  | drains taken =>
      rcases h.of_shutdown hi id with ⟨hp, hh, hc, j, _, ⟨⟩, ht⟩
      exact .shuttingDown i j _ _ hp hh (put_self hi _) (.draining _) (hc.go _) ht
  | empties taken deadline ha =>
      rcases h.of_shutdown hi id with ⟨hp, hh, hc, j, _, ⟨⟩, ht⟩
      exact .shuttingDown i j _ _ hp hh (put_self hi _) .stopping (hc.go _) ht.force
  | forces taken deadline hd =>
      rcases h.of_shutdown hi id with ⟨hp, hh, hc, j, _, ⟨⟩, ht⟩
      exact .shuttingDown i j _ _ hp hh (put_self hi _) (.forcing _) (hc.go _) ht.force
  | leaves taken deadline =>
      rcases h.of_shutdown hi id with ⟨hp, hh, hc, j, _, ⟨⟩, ht⟩
      exact .shuttingDown i j _ _ hp hh (put_self hi _) .stopping (hc.go _) ht.force
  | stops taken =>
      rcases h.of_shutdown hi id with ⟨hp, hh, hc, j, _, ⟨⟩, ht⟩
      exact .shuttingDown i j _ _ hp hh (put_self hi _) .closing (hc.go _) ht.stopGroup
  | closes =>
      rcases h.of_shutdown hi id with ⟨_, hh, hc, j, _, ⟨⟩, ht⟩
      exact .shutdown j rfl hh (hc.leave trivial) ht

end Standing

-- One turn keeps what is so of a server; that a start is prompt is asked of one turn only.
theorem Move.standing {t : Turn} (hm : Move s t s') (h : Standing prompt s)
    (hprompt : prompt → ∀ (i : Nat) (limit : Option Nat) (j : Nat) (e : NetError),
      s.calls[i]? = some (.start limit (.expiring j e)) → t = .advance i) :
    Standing prompt s' := by
  cases hm with
  | rests => exact h
  | calls _ c hc _ => exact h.append hc
  | acts _ task f ht hf =>
      exact h.acts task hf fun hp i limit j e hi => ht i (hprompt hp i limit j e hi)
  | passes _ now groupFailure _ =>
      cases h with
      | unstarted hp hh hc ht => exact .unstarted hp hh hc ht
      | starting i limit stage care heard hp hh hi hs hc ht =>
          exact .starting i limit stage care heard hp hh hi hs hc ht
      | started j hp hh hc ht => exact .started j hp hh hc ht
      | shuttingDown i j stage care hp hh hi hl hc ht =>
          exact .shuttingDown i j stage care hp hh hi hl hc ht
      | shutdown j hp hh hc ht => exact .shutdown j hp hh hc ht
  | start i limit stage stage' s' hi hm => exact h.start hi hm
  | shutdown i stage stage' s' hi hm => exact h.shutdown_of hi hm

theorem standing_fresh (borrows : Bool) (drainLimit : Nat) :
    Standing prompt (.fresh borrows drainLimit) := by
  refine .unstarted rfl rfl (fun i c hi => ?_) ⟨fun j level hj => ?_, fun k t hk => ?_,
    fun _ k t hk => ?_⟩
  · cases hi
  · cases hj
  · cases hk
  · cases hk

-- The schedules in which every start is prompt are those of the system whose calls give
-- way only where they wait or look at the shared state.
theorem standing_after (ts : List Turn) :
    ∀ s, Standing prompt s → (prompt → s.Prompt ts) → Standing prompt (s.after ts) := by
  induction ts with
  | nil => exact fun s h _ => h
  | cons t rest ih =>
      intro s h hts
      exact ih (s.turn t) ((turn_move t).standing h fun hp => (hts hp).1) fun hp => (hts hp).2

end Turns

end Lifecycle

end DemandNet
