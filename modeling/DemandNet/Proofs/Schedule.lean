import Mathlib.Tactic.Common

/-!
# Schedules

Systems of several parties that act in any order.

Nothing in the program says when a task goes on, so what is to be relied on has to hold
whatever the order. A schedule is a list of turns, one step of one party each, and a turn
that is not possible leaves the system as it is. The system itself is left open here: a
step function says what a turn does, and another one may say what can be seen of it.

## Main definitions

* `after`: The state after a schedule.
* `watch`: What a schedule shows, in order.
* `Runs`: Some schedule leads from one state to another.
* `upTo`: A schedule as far as the first turn of a sort.
* `Advances`: There is always something to do, until it is done.

## Theorems

* `invariant_after`: What every turn keeps is kept by every schedule.
* `upTo_cases`: There is no turn of the sort, or there is a first one.
* `done_of_rounds`: Whatever the order, it is done if everybody has a turn often enough.
-/

namespace DemandNet

namespace Schedule

variable {σ τ ε : Type}

/-- The state after a schedule. -/
def after (turn : σ → τ → σ) (s : σ) (ts : List τ) : σ := ts.foldl turn s

/-- What a schedule shows, given what each turn does. -/
def watch (turn : σ → τ → σ) (shows : σ → τ → List ε) (s : σ) : List τ → List ε
  | [] => []
  | t :: ts => shows s t ++ watch turn shows (turn s t) ts

/-- Some schedule leads from one state to another. -/
def Runs (turn : σ → τ → σ) (s s' : σ) : Prop := ∃ ts, s' = after turn s ts

/-- The turns as far as the first of a sort, which is the last of them. -/
def upTo (p : τ → Bool) : List τ → List τ
  | [] => []
  | t :: ts => if p t then [t] else t :: upTo p ts

variable {turn : σ → τ → σ}

theorem after_append (s : σ) (ts us : List τ) :
    after turn s (ts ++ us) = after turn (after turn s ts) us := List.foldl_append

theorem watch_singleton (shows : σ → τ → List ε) (s : σ) (t : τ) :
    watch turn shows s [t] = shows s t := List.append_nil _

theorem watch_append (shows : σ → τ → List ε) (ts us : List τ) :
    ∀ s, watch turn shows s (ts ++ us) =
      watch turn shows s ts ++ watch turn shows (after turn s ts) us := by
  induction ts with
  | nil => exact fun s => rfl
  | cons t rest ih =>
      intro s
      rw [List.cons_append, watch, watch, ih (turn s t), List.append_assoc]
      rfl

theorem watch_eq_nil {shows : σ → τ → List ε} {P : σ → Prop} (ts : List τ)
    (hstep : ∀ t ∈ ts, ∀ s, P s → shows s t = [] ∧ P (turn s t)) :
    ∀ s, P s → watch turn shows s ts = [] ∧ P (after turn s ts) := by
  induction ts with
  | nil => exact fun s hp => ⟨rfl, hp⟩
  | cons t rest ih =>
      intro s hp
      have hturn := hstep t List.mem_cons_self s hp
      have hrest := ih (fun u hu => hstep u (List.mem_cons_of_mem _ hu)) _ hturn.2
      refine ⟨?_, hrest.2⟩
      rw [watch, hturn.1, hrest.1, List.append_nil]

theorem upTo_append_cons (p : τ → Bool) (before later : List τ) (t : τ)
    (hbefore : ∀ u ∈ before, p u = false) (ht : p t = true) :
    upTo p (before ++ t :: later) = before ++ [t] := by
  induction before with
  | nil => rw [List.nil_append, upTo, if_pos ht, List.nil_append]
  | cons u rest ih =>
      rw [List.cons_append, upTo,
        if_neg (by rw [hbefore u List.mem_cons_self]; exact Bool.false_ne_true),
        ih fun v hv => hbefore v (List.mem_cons_of_mem _ hv), List.cons_append]

theorem upTo_singleton (p : τ → Bool) (t : τ) : upTo p [t] = [t] := by
  rw [upTo, upTo, ite_self]

theorem upTo_eq_self (p : τ → Bool) (ts : List τ) (h : ∀ t ∈ ts, p t = false) :
    upTo p ts = ts := by
  induction ts with
  | nil => rfl
  | cons t rest ih =>
      rcases List.forall_mem_cons.1 h with ⟨ht, hrest⟩
      rw [upTo, if_neg (by rw [ht]; exact Bool.false_ne_true), ih hrest]

-- A first turn of the sort stays the first one, whatever comes later.
theorem upTo_append_of_mem (p : τ → Bool) {t : τ} (ht : p t = true) (us : List τ) :
    ∀ ts : List τ, t ∈ ts → upTo p (ts ++ us) = upTo p ts := by
  intro ts
  induction ts with
  | nil => exact fun h => absurd h List.not_mem_nil
  | cons u rest ih =>
      intro h
      rw [List.cons_append, upTo, upTo]
      by_cases hu : p u = true
      · rw [if_pos hu, if_pos hu]
      · have hrest : t ∈ rest := by
          rcases List.mem_cons.1 h with rfl | hrest
          · exact absurd ht hu
          · exact hrest
        rw [if_neg hu, if_neg hu, ih hrest]

theorem upTo_concat (p : τ → Bool) (ts : List τ) (t : τ) (h : ∀ u ∈ ts, p u = false) :
    upTo p (ts ++ [t]) = ts ++ [t] := by
  by_cases ht : p t = true
  · exact upTo_append_cons p ts [] t h ht
  · refine upTo_eq_self p _ fun u hu => ?_
    rcases List.mem_append.1 hu with hu | hu
    · exact h u hu
    · rw [List.mem_singleton.1 hu, Bool.eq_false_iff]
      exact ht

theorem mem_upTo_append_left (p : τ → Bool) (us : List τ) {t : τ} :
    ∀ ts : List τ, t ∈ upTo p ts → t ∈ upTo p (ts ++ us) := by
  intro ts
  induction ts with
  | nil => exact fun h => absurd h List.not_mem_nil
  | cons u rest ih =>
      rw [List.cons_append, upTo, upTo]
      by_cases hu : p u = true
      · rw [if_pos hu, if_pos hu]
        exact id
      · rw [if_neg hu, if_neg hu]
        intro h
        rcases List.mem_cons.1 h with rfl | h
        · exact List.mem_cons_self
        · exact List.mem_cons_of_mem _ (ih h)

-- Behind a turn of the sort nothing is looked at.
theorem mem_upTo_append (p : τ → Bool) (ts us : List τ) {t : τ} (ht : t ∈ upTo p (ts ++ us)) :
    t ∈ upTo p ts ∨ (∀ u ∈ ts, p u = false) ∧ t ∈ upTo p us := by
  induction ts with
  | nil => exact Or.inr ⟨fun u hu => absurd hu List.not_mem_nil, ht⟩
  | cons u rest ih =>
      rw [List.cons_append, upTo] at ht
      rw [upTo]
      by_cases hu : p u = true
      · rw [if_pos hu] at ht ⊢
        exact Or.inl ht
      · rw [if_neg hu] at ht ⊢
        rw [Bool.not_eq_true] at hu
        rcases List.mem_cons.1 ht with hfirst | hlater
        · exact Or.inl (List.mem_cons.2 (Or.inl hfirst))
        · rcases ih hlater with hrest | ⟨hnone, hus⟩
          · exact Or.inl (List.mem_cons_of_mem _ hrest)
          · exact Or.inr ⟨List.forall_mem_cons.2 ⟨hu, hnone⟩, hus⟩

-- Every argument about the first turn of a sort begins here.
theorem upTo_cases (p : τ → Bool) (ts : List τ) :
    (∀ t ∈ ts, p t = false) ∨
      ∃ before t later, ts = before ++ t :: later ∧ (∀ u ∈ before, p u = false) ∧ p t = true := by
  induction ts with
  | nil => exact Or.inl fun t ht => absurd ht List.not_mem_nil
  | cons u rest ih =>
      by_cases hu : p u = true
      · exact Or.inr ⟨[], u, rest, rfl, fun v hv => absurd hv List.not_mem_nil, hu⟩
      · rw [Bool.not_eq_true] at hu
        rcases ih with hnone | ⟨before, t, later, rfl, hbefore, ht⟩
        · exact Or.inl (List.forall_mem_cons.2 ⟨hu, hnone⟩)
        · exact Or.inr ⟨u :: before, t, later, rfl, List.forall_mem_cons.2 ⟨hu, hbefore⟩, ht⟩

-- What is to be shown of every schedule is shown of one turn. The history so far is part
-- of the statement, since a turn is seldom understood without it.
theorem invariant_after {shows : σ → τ → List ε} {P : σ → List ε → Prop}
    (hstep : ∀ s h t, P s h → P (turn s t) (h ++ shows s t)) (s : σ) (h : List ε)
    (hp : P s h) (ts : List τ) : P (after turn s ts) (h ++ watch turn shows s ts) := by
  induction ts generalizing s h with
  | nil =>
      rw [watch, List.append_nil]
      exact hp
  | cons t rest ih =>
      rw [watch, ← List.append_assoc]
      exact ih (turn s t) _ (hstep s h t hp)

theorem kept_after {α : Type} {f : σ → α} (hstep : ∀ s t, f (turn s t) = f s) (ts : List τ) :
    ∀ s, f (after turn s ts) = f s := by
  induction ts with
  | nil => exact fun s => rfl
  | cons t rest ih => exact fun s => (ih (turn s t)).trans (hstep s t)

/-- Every turn does something that counts or nothing at all, and until it is done one of the
    turns that are needed would do something. -/
structure Advances (turn : σ → τ → σ) (I done : σ → Prop) (rank : σ → Nat)
    (needed : List τ) : Prop where
  keeps : ∀ s t, I s → I (turn s t)
  counts : ∀ s t, I s → turn s t = s ∨ rank (turn s t) < rank s
  busy : ∀ s, I s → ¬ done s → ∃ t ∈ needed, rank (turn s t) < rank s
  stays : ∀ s t, I s → done s → done (turn s t)

section Rounds

variable {I done : σ → Prop} {rank : σ → Nat} {needed : List τ}

theorem Advances.after (ha : Advances turn I done rank needed) (ts : List τ) :
    ∀ s, I s → I (after turn s ts) ∧ rank (after turn s ts) ≤ rank s ∧
      (done s → done (after turn s ts)) := by
  induction ts with
  | nil => exact fun s hs => ⟨hs, Nat.le_refl _, id⟩
  | cons t rest ih =>
      intro s hs
      rcases ih (turn s t) (ha.keeps s t hs) with ⟨hkept, hle, hdone⟩
      refine ⟨hkept, ?_, fun h => hdone (ha.stays s t hs h)⟩
      rcases ha.counts s t hs with hsame | hless
      · rw [hsame] at hle
        change rank (Schedule.after turn (turn s t) rest) ≤ _
        rw [hsame]
        exact hle
      · exact Nat.le_trans hle (Nat.le_of_lt hless)

-- What would do something still does if nothing was done before.
theorem Advances.less (ha : Advances turn I done rank needed) {t : τ} (ts : List τ)
    (ht : t ∈ ts) : ∀ s, I s → rank (turn s t) < rank s → rank (Schedule.after turn s ts) < rank s
    := by
  induction ts with
  | nil => exact absurd ht List.not_mem_nil
  | cons u rest ih =>
      intro s hs hless
      change rank (Schedule.after turn (turn s u) rest) < _
      rcases ha.counts s u hs with hsame | hcounts
      · have hlater : t ∈ rest := by
          rcases List.mem_cons.1 ht with hfirst | hlater
          · rw [hfirst, hsame] at hless
            exact absurd hless (Nat.lt_irrefl _)
          · exact hlater
        rw [hsame]
        exact ih hlater s hs hless
      · exact Nat.lt_of_le_of_lt (ha.after rest _ (ha.keeps s u hs)).2.1 hcounts

-- Every round in which everybody has a turn does something that counts.
theorem done_of_rounds (ha : Advances turn I done rank needed) (rounds : List (List τ))
    (hrounds : ∀ round ∈ rounds, ∀ t ∈ needed, t ∈ round) :
    ∀ s, I s → rank s ≤ rounds.length → done (after turn s rounds.flatten) := by
  induction rounds with
  | nil =>
      intro s hs hrank
      by_contra hopen
      rcases ha.busy s hs hopen with ⟨t, -, hless⟩
      exact absurd hless (Nat.not_lt_of_le (Nat.le_trans hrank (Nat.zero_le _)))
  | cons round rest ih =>
      intro s hs hrank
      rcases List.forall_mem_cons.1 hrounds with ⟨hround, hrest⟩
      rcases ha.after round s hs with ⟨hkept, hle, hdone⟩
      rw [List.flatten_cons, after_append]
      by_cases hopen : done s
      · exact (ha.after rest.flatten _ hkept).2.2 (hdone hopen)
      · rcases ha.busy s hs hopen with ⟨t, ht, hless⟩
        have hround := ha.less round (hround t ht) s hs hless
        rw [List.length_cons] at hrank
        exact ih hrest _ hkept (by omega)

end Rounds

theorem Runs.refl (s : σ) : Runs turn s s := ⟨[], rfl⟩

theorem Runs.once (s : σ) (t : τ) : Runs turn s (turn s t) := ⟨[t], rfl⟩

theorem Runs.trans {s s' s'' : σ} (h : Runs turn s s') (h' : Runs turn s' s'') :
    Runs turn s s'' := by
  rcases h with ⟨ts, rfl⟩
  rcases h' with ⟨us, rfl⟩
  exact ⟨ts ++ us, (after_append s ts us).symm⟩

end Schedule

end DemandNet
