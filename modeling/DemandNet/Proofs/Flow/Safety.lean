import DemandNet.Proofs.Flow.Reachable

/-!
# Demand of One Consumer at a Time

Demand is what the attached consumer asked for and has not been given.

Every way of asking comes down to a grant in the history: an explicit request, the
window at the first look, a top-up. While no grant has reached the limit, outstanding
demand is the sum of the grants of the attached consumer less the number of items that
were accepted since it attached. Nothing of an earlier consumer is in this account,
because leaving sets demand to zero and nobody asks while nobody is attached. The first
grant that reaches the limit ends the account: demand is unbounded from then on, and
only leaving takes it back.

The account is kept by every effect, so it is proved for one operation and added up
along a run. A run after the limit was reached has no account to add up, only the fact
that unbounded demand absorbs everything.

## Main definitions

* `Saturated`: Some grant of a consumer reached the limit.

## Theorems

* `balance_of_effect`: The account over one operation.
* `balance_after`: The account over a run.
* `demand_of_one_consumer`: Demand and its one consumer in every reachable exchange.
-/

namespace DemandNet

namespace Flow

namespace Exchange

variable {α : Type}

/-- Some grant of a consumer in the run brought demand to the limit. -/
def Saturated (i : Nat) (x : Exchange α) : List (Step α) → Prop
  | [] => False
  | s :: rest =>
      unbounded ≤ x.bridge.demand + (grantsOf i (x.events s)).sum ∨
        Saturated i (x.step s).2 rest

instance decidableSaturated (i : Nat) :
    (x : Exchange α) → (steps : List (Step α)) → Decidable (Saturated i x steps)
  | _, [] => inferInstanceAs (Decidable False)
  | x, s :: rest =>
      @instDecidableOr _ _ inferInstance (decidableSaturated i (x.step s).2 rest)

-- Demand after grants that were added one by one.
theorem balance_of_grants (d d' : Nat) (gs : List Nat) (hd : d ≤ unbounded)
    (h : d' = gs.foldl grant d) :
    (d + gs.sum < unbounded → d' + 0 = d + gs.sum) ∧
      (unbounded ≤ d + gs.sum → d' = unbounded) := by
  rw [h]
  exact ⟨fun hlt => foldl_grant_of_lt gs d hlt, fun hle => foldl_grant_of_le gs d hd hle⟩

-- Below the limit an operation adds what the attached consumer asked for and takes
-- away what was accepted; at the limit demand is unbounded.
theorem balance_of_effect (x x' : Exchange α) (es : List (Event α)) (hs : Sound x)
    (he : Effect x es x') (i : Nat) (hi : x.consumer? i ≠ none) (hi' : x'.consumer? i ≠ none) :
    (x.bridge.demand + (grantsOf i es).sum < unbounded →
      x'.bridge.demand + (accepted es).length = x.bridge.demand + (grantsOf i es).sum) ∧
    (unbounded ≤ x.bridge.demand + (grantsOf i es).sum → x'.bridge.demand = unbounded) := by
  rcases Option.ne_none_iff_exists'.mp hi with ⟨c, hc⟩
  rcases hs.seating.acting x i c hc with ⟨_, hatt, _, _⟩
  have hle := hs.demand_le
  cases he with
  | quiet _ hb _ _ _ =>
      rw [hb]
      exact balance_of_grants _ _ [] hle rfl
  | attached mode hat =>
      rw [hatt] at hat
      cases hat
  | requested j n d hj =>
      rcases hs.seating.sole x i j c d hc hj with ⟨hji, hd⟩
      rw [hji, hd, grantsOf_granted]
      have hacc := (silent_granted (α := α) i (if c.done then [] else [n])).accepted
      rw [hacc]
      refine balance_of_grants _ _ _ hle ?_
      unfold Bridge.request
      by_cases hdone : c.done = true
      · rw [if_pos hdone, if_pos hdone, List.foldl_nil]
      · rw [if_neg hdone, if_neg hdone, List.foldl_cons, List.foldl_nil]
  | looked j d c' p b' hj hl =>
      rcases hs.seating.sole x i j c d hc hj with ⟨hji, hd⟩
      subst hji
      subst hd
      have hacc := (parts_of_look j (x.bridge.lookGrants d) p).1
      rw [hacc, grantsOf_look]
      exact balance_of_grants _ _ _ hle (Bridge.look_frame _ _ _ _ _ hl).2.2.2.2.2
  | left j d hj =>
      rcases hs.seating.sole x i j c d hc hj with ⟨hji, _⟩
      subst hji
      rw [consumer?_set x _ j none (lt_of_consumer? x j d hj) rfl, if_pos rfl] at hi'
      exact absurd rfl hi'
  | abandoned => exact balance_of_grants _ _ [] hle rfl
  | accepted _ a left _ ht hb _ _ =>
      have htake := takeOne?_eq_some _ _ ht
      rw [hb]
      change (x.bridge.demand + 0 < unbounded → left + 1 = x.bridge.demand + 0) ∧
        (unbounded ≤ x.bridge.demand + 0 → left = unbounded)
      omega
  | concluded e _ =>
      rw [grantsOf_leaving, (parts_of_leaving e).1]
      exact balance_of_grants _ _ [] hle rfl

theorem balance_after (x : Exchange α) (hs : Sound x) (i : Nat) (hi : x.consumer? i ≠ none)
    (steps : List (Step α)) (hend : (x.after steps).consumer? i ≠ none) :
    (¬ Saturated i x steps →
      (x.after steps).bridge.demand + (accepted (x.history steps)).length
        = x.bridge.demand + (grantsOf i (x.history steps)).sum) ∧
    (Saturated i x steps → (x.after steps).bridge.demand = unbounded) := by
  induction steps generalizing x with
  | nil => exact ⟨fun _ => rfl, fun h => absurd h id⟩
  | cons s rest ih =>
      have he := step_effect x hs s
      have hs' := effect_sound x _ _ hs he
      have hi' := present_of_present_after x hs i hi s rest hend
      rcases balance_of_effect x _ _ hs he i hi hi' with ⟨hadd, hsat⟩
      rcases ih (x.step s).2 hs' hi' hend with ⟨hadds, hsats⟩
      refine ⟨fun hnot => ?_, fun h => ?_⟩
      · have hhere : ¬ unbounded ≤ x.bridge.demand + (grantsOf i (x.events s)).sum :=
          fun h => hnot (Or.inl h)
        have h1 := hadd (by omega)
        have h2 := hadds fun h => hnot (Or.inr h)
        rw [history, accepted_append, grantsOf_append, List.length_append, List.sum_append,
          after_cons]
        omega
      · rcases h with hhere | hlater
        · -- Unbounded demand absorbs whatever the rest of the run does.
          have hfull := hsat hhere
          cases rest with
          | nil => exact hfull
          | cons t more =>
              refine hsats (Or.inl ?_)
              rw [hfull]
              exact Nat.le_add_right _ _
        · exact hsats hlater

/-! ### One consumer at a time -/

theorem attached_iff (x : Exchange α) (hs : Sound x) :
    x.bridge.attached = true ↔ ∃ i, x.consumer? i ≠ none := by
  cases hs.seating with
  | vacant hv ha _ _ =>
      rw [ha]
      constructor
      · rintro ⟨⟩
      · rintro ⟨i, hi⟩
        exact absurd (hv i) hi
  | taken i c hc ha _ _ =>
      refine ⟨fun _ => ⟨i, ?_⟩, fun _ => ha⟩
      rw [hc, if_pos rfl]
      rintro ⟨⟩

theorem consumer_unique (x : Exchange α) (hs : Sound x) (i j : Nat)
    (hi : x.consumer? i ≠ none) (hj : x.consumer? j ≠ none) : i = j := by
  rcases Option.ne_none_iff_exists'.mp hi with ⟨c, hc⟩
  by_contra hne
  rw [(hs.seating.acting x i c hc).1, if_neg (fun h => hne h.symm)] at hj
  exact hj rfl

-- Attaching succeeds exactly where nobody is attached, and otherwise changes
-- nothing.
theorem attach_outcome (x : Exchange α) (hs : Sound x) (mode : Mode) :
    ((x.step (.attach mode)).1 = .done ↔ ∀ i, x.consumer? i = none) ∧
      ((x.step (.attach mode)).1 ≠ .done → (x.step (.attach mode)).2 = x) := by
  have hiff := attached_iff x hs
  simp only [step, Bridge.attach_eq]
  by_cases ha : x.bridge.attached = true
  · rw [if_pos ha]
    rcases hiff.mp ha with ⟨i, hi⟩
    exact ⟨⟨by rintro ⟨⟩, fun h => absurd (h i) hi⟩, fun _ => rfl⟩
  · rw [if_neg ha]
    refine ⟨⟨fun _ i => ?_, fun _ => rfl⟩, fun h => absurd rfl h⟩
    by_contra hi
    exact ha (hiff.mpr ⟨i, hi⟩)

-- Nothing is accepted while nobody is attached.
theorem accepted_nil_of_vacant (x : Exchange α) (hs : Sound x)
    (ha : x.bridge.attached = false) (s : Step α) : accepted (x.events s) = [] := by
  have hd := (hs.seating.vacancy x ha).2.1
  have he := step_effect x hs s
  generalize x.events s = es at he ⊢
  generalize (x.step s).2 = x' at he
  cases he with
  | quiet _ _ _ _ _ | attached _ _ | left _ _ _ | abandoned => rfl
  | requested i n c _ => exact (silent_granted i _).accepted
  | looked i c _ p _ _ _ => exact (parts_of_look i _ p).1
  | concluded e _ => exact (parts_of_leaving e).1
  | accepted _ a left _ ht _ _ _ =>
      rw [hd, takeOne?_zero] at ht
      cases ht

-- A free producer is refused exactly where nothing is wanted, and a refusal changes
-- nothing.
theorem refusal_outcome (x : Exchange α) (hs : Sound x) (a : α) (hp : x.producer = .idle) :
    ((x.step (.emit a)).1 = .failed .noDemand ↔ x.bridge.demand = 0) ∧
      ((x.step (.tryEmit a)).1 = .handedBack a ↔ x.bridge.demand = 0) ∧
      (x.bridge.demand = 0 → (x.step (.emit a)).2 = x ∧ (x.step (.tryEmit a)).2 = x) := by
  rcases hs.open_of_present x (by rw [hp]; rintro ⟨⟩) with ⟨hr, ht⟩
  simp only [step, produce, hp, Bridge.emit_of_open x.bridge a hr ht,
    Bridge.tryEmit_of_open x.bridge a hr]
  have hiff := takeOne?_eq_none_iff x.bridge.demand
  cases htake : takeOne? x.bridge.demand with
  | none =>
      have hd := hiff.mp htake
      have hsame : { x with producer := .idle } = x := by rw [← hp]
      exact ⟨⟨fun _ => hd, fun _ => rfl⟩, ⟨fun _ => hd, fun _ => rfl⟩,
        fun _ => ⟨hsame, hsame⟩⟩
  | some left =>
      have hd : x.bridge.demand ≠ 0 := by
        intro hd
        rw [hiff.mpr hd] at htake
        cases htake
      exact ⟨⟨by rintro ⟨⟩, fun h => absurd h hd⟩, ⟨by rintro ⟨⟩, fun h => absurd h hd⟩,
        fun h => absurd h hd⟩

-- The exchange to which a consumer has just attached.
theorem attaching_state (x y : Exchange α) (hs : Sound x) (mode : Mode)
    (hy : x.step (.attach mode) = (.done, y)) :
    Sound y ∧ y.bridge.demand = 0 ∧ y.bridge.items = x.bridge.items ∧
      y.consumer? x.consumers.length = some (x.bridge.newcomer mode) := by
  have hvacant := (attach_outcome x hs mode).1.mp (by rw [hy])
  have hat : x.bridge.attached = false := by
    refine Bool.eq_false_iff.mpr fun ha => ?_
    rcases (attached_iff x hs).mp ha with ⟨i, hi⟩
    exact hi (hvacant i)
  have hyeq : y = { x with
      bridge := x.bridge.seated, consumers := x.consumers ++ [some (x.bridge.newcomer mode)] } := by
    simp only [step, Bridge.attach_eq, hat, Bool.false_eq_true, if_false, Prod.mk.injEq,
      true_and] at hy
    exact hy.symm
  rw [hyeq]
  refine ⟨hs.attaching x mode hat, (hs.seating.vacancy x hat).2.1, rfl, ?_⟩
  rw [consumer?_append x _ _ rfl, if_pos rfl]

-- The account of a consumer from its attaching on.
theorem balance_since_attaching (x y : Exchange α) (hs : Sound x) (mode : Mode)
    (hy : x.step (.attach mode) = (.done, y)) (later : List (Step α))
    (hend : (y.after later).consumer? x.consumers.length ≠ none) :
    (¬ Saturated x.consumers.length y later →
      (y.after later).bridge.demand + (accepted (y.history later)).length
        = (grantsOf x.consumers.length (y.history later)).sum) ∧
    (Saturated x.consumers.length y later → (y.after later).bridge.demand = unbounded) := by
  rcases attaching_state x y hs mode hy with ⟨hsy, hdemand, _, hhere⟩
  have h := balance_after y hsy x.consumers.length (by rw [hhere]; rintro ⟨⟩) later hend
  rwa [hdemand, Nat.zero_add] at h

-- In every reachable exchange at most one consumer is there and the bridge knows
-- whether one is; only then is anything wanted. What is wanted is what that consumer
-- asked for since it attached less what was accepted since, until a grant reaches the
-- limit, and unbounded from then on. A refusal changes nothing.
theorem demand_of_one_consumer (x : Exchange α) (h : x.Reachable) :
    (∀ i j, x.consumer? i ≠ none → x.consumer? j ≠ none → i = j) ∧
    (x.bridge.attached = true ↔ ∃ i, x.consumer? i ≠ none) ∧
    (∀ mode, (x.step (.attach mode)).1 = .done ↔ ∀ i, x.consumer? i = none) ∧
    (∀ mode, (x.step (.attach mode)).1 ≠ .done → (x.step (.attach mode)).2 = x) ∧
    (x.bridge.attached = false →
      x.bridge.demand = 0 ∧ ∀ s, accepted (x.events s) = []) ∧
    (∀ mode y later, x.step (.attach mode) = (.done, y) →
      (y.after later).consumer? x.consumers.length ≠ none →
      (¬ Saturated x.consumers.length y later →
        (y.after later).bridge.demand + (accepted (y.history later)).length
            = (grantsOf x.consumers.length (y.history later)).sum ∧
          (accepted (y.history later)).length
            ≤ (grantsOf x.consumers.length (y.history later)).sum) ∧
      (Saturated x.consumers.length y later → (y.after later).bridge.demand = unbounded)) ∧
    (∀ a, x.producer = .idle →
      ((x.step (.emit a)).1 = .failed .noDemand ↔ x.bridge.demand = 0) ∧
      ((x.step (.tryEmit a)).1 = .handedBack a ↔ x.bridge.demand = 0) ∧
      (x.bridge.demand = 0 → (x.step (.emit a)).2 = x ∧ (x.step (.tryEmit a)).2 = x)) := by
  have hs := h.sound
  refine ⟨consumer_unique x hs, attached_iff x hs, fun mode => (attach_outcome x hs mode).1,
    fun mode => (attach_outcome x hs mode).2, fun ha => ?_, fun mode y later hy hend => ?_,
    fun a hp => refusal_outcome x hs a hp⟩
  · exact ⟨(hs.seating.vacancy x ha).2.1, accepted_nil_of_vacant x hs ha⟩
  · rcases balance_since_attaching x y hs mode hy later hend with ⟨hadd, hsat⟩
    refine ⟨fun hnot => ?_, hsat⟩
    have hsum := hadd hnot
    exact ⟨hsum, by omega⟩

-- A second consumer asks for five items and two are accepted; the nine that the first
-- asked for are forgotten.
theorem two_of_five_after_nine_forgotten :
    let x : Exchange Nat := empty.after [.attach .manual, .request 0 9, .emit 8, .detach 0]
    let y := (x.step (.attach .manual)).2
    let later : List (Step Nat) := [.request 1 5, .emit 1, .poll 1, .tryEmit 2]
    x.Reachable ∧ x.step (.attach .manual) = (.done, y) ∧ (y.after later).consumer? 1 ≠ none ∧
      ¬ Saturated 1 y later ∧
      (y.after later).bridge.demand + (accepted (y.history later)).length = 5 := by
  intro x y later
  have hr : x.Reachable := ⟨[.attach .manual, .request 0 9, .emit 8, .detach 0], rfl⟩
  have hy : x.step (.attach .manual) = (.done, y) := rfl
  have hi : x.consumers.length = 1 := by decide
  have hstay : (y.after later).consumer? 1 ≠ none := by decide
  have hnot : ¬ Saturated 1 y later := by decide
  have hsum : (grantsOf 1 (y.history later)).sum = 5 := by decide
  have h := (demand_of_one_consumer x hr).2.2.2.2.2.1 .manual y later hy
  rw [hi, hsum] at h
  exact ⟨hr, hy, hstay, hnot, ((h hstay).1 hnot).1⟩

end Exchange

end Flow

end DemandNet
