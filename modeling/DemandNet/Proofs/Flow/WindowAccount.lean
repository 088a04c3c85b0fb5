import DemandNet.Proofs.Flow.Safety

/-!
# The Account of a Window

A consumer with a window finds some items in the queue when it attaches, asks for the
window when it first looks, and asks for three quarters of it, rounded up, each time it
has received as many. It also counts the items it found, which the window never paid
for, so the top-ups run ahead of the items that were emitted for it.

From the first look on, three numbers add up to the window and the items found: what is
wanted and not emitted, what is queued, and what was received since the last top-up. The
sum is kept by every operation. An emission turns wanted into queued, a look turns queued
into received, and a top-up turns received into wanted. What makes this more than
bookkeeping is that the count of received items stays below the top-up and the top-up
within the window: an empty queue then leaves something wanted, so a consumer that looks
and a producer that is there never wait for each other.

## Main definitions

* `Accounted`: The sum, and how often the window was topped up.
* `Windowed`: A consumer with a window and its account.

## Theorems

* `topUp_bounds`: A top-up is positive and within the window.
* `Accounted.receive`: A received item keeps the account.
* `windowed_effect`: Every operation but a request keeps the account.
* `windowed_after`: A run keeps it.
* `window_account`: The account of a window and what follows from it.
-/

namespace DemandNet

namespace Flow

namespace Exchange

variable {α : Type}

theorem topUp_bounds (w : Window) (hw : 1 ≤ w.size) : 0 < w.topUp ∧ w.topUp ≤ w.size := by
  unfold Window.topUp
  omega

theorem isUnlimited_of_lt (w : Window) (hw : w.size < unbounded) : w.isUnlimited = false := by
  unfold Window.isUnlimited
  rw [beq_eq_false_iff_ne]
  omega

/-- What is wanted, queued and received since the last top-up adds up to the window and
    the items found. The grants are the window and the top-ups, and every top-up stands
    for as many received items. -/
structure Accounted (w : Window) (found wanted queued received : Nat) (asked : List Nat)
    (taken : Nat) : Prop where
  total : wanted + queued + received = w.size + found
  below : received < w.topUp
  topped : ∃ t, asked = w.size :: List.replicate t w.topUp ∧ taken = t * w.topUp + received

-- A received item is counted, and the count becomes demand when it is time.
theorem Accounted.receive (w : Window) (found wanted queued taken : Nat) (asked : List Nat)
    (c : Consumer) (hm : c.mode = .window w) (hfit : w.size + found < unbounded)
    (h : Accounted w found wanted (queued + 1) c.received asked taken) :
    Accounted w found (c.topUps.foldl grant wanted) queued c.counted (asked ++ c.topUps)
      (taken + 1) := by
  rcases h with ⟨htotal, hbelow, t, hasked, htaken⟩
  have hu := isUnlimited_of_lt w (by omega)
  unfold Consumer.topUps Consumer.counted
  rw [hm]
  simp only [hu, Bool.false_eq_true, if_false]
  by_cases htop : w.topUp ≤ c.received + 1
  · have hfull : c.received + 1 = w.topUp := by omega
    rw [if_pos htop, if_pos htop, List.foldl_cons, List.foldl_nil,
      grant_of_lt wanted w.topUp (by omega)]
    refine ⟨by omega, by omega, t + 1, ?_, ?_⟩
    · rw [hasked, List.cons_append, List.replicate_succ']
    · rw [htaken, Nat.add_mul, Nat.one_mul]
      omega
  · rw [if_neg htop, if_neg htop, List.foldl_nil, List.append_nil]
    exact ⟨by omega, by omega, t, hasked, by omega⟩

/-- A consumer with a window, from its attaching on; `es` is what happened since. -/
structure Windowed (w : Window) (found i : Nat) (x : Exchange α) (es : List (Event α))
    (c : Consumer) : Prop where
  here : x.consumer? i = some c
  mode : c.mode = .window w
  waiting : c.primed = false → x.bridge.demand = 0 ∧ c.received = 0 ∧
    x.bridge.items.length = found ∧ grantsOf i es = [] ∧ yielded es = []
  account : c.primed = true → Accounted w found x.bridge.demand x.bridge.items.length
    c.received (grantsOf i es) (yielded es).length
  done_primed : c.done = true → c.primed = true

-- After the window was asked for, be it long ago or just now, the account is right.
theorem Windowed.opened (w : Window) (found i : Nat) (x : Exchange α) (es : List (Event α))
    (c : Consumer) (hw : 1 ≤ w.size) (hfit : w.size + found < unbounded)
    (h : Windowed w found i x es c) :
    Accounted w found (c.opening.foldl grant x.bridge.demand) x.bridge.items.length c.received
      (grantsOf i es ++ c.opening) (yielded es).length := by
  unfold Consumer.opening
  cases hp : c.primed with
  | true =>
      rw [if_pos rfl, List.foldl_nil, List.append_nil]
      exact h.account hp
  | false =>
      rcases h.waiting hp with ⟨hdemand, hreceived, hfound, hasked, hyield⟩
      rw [if_neg Bool.false_ne_true, h.mode]
      simp only [List.foldl_cons, List.foldl_nil]
      rw [hdemand, hreceived, hfound, hasked, hyield, grant_of_lt 0 w.size (by omega)]
      refine ⟨by omega, (topUp_bounds w hw).1, 0, rfl, ?_⟩
      rw [List.length_nil, Nat.zero_mul]

-- An operation that leaves the consumer and its grants alone.
theorem Windowed.still (w : Window) (found i : Nat) (x x' : Exchange α)
    (es fs : List (Event α)) (c : Consumer) (h : Windowed w found i x es c)
    (hc : x'.consumer? i = some c) (hd : x'.bridge.demand = x.bridge.demand)
    (hi : x'.bridge.items = x.bridge.items) (hg : grantsOf i fs = []) (hy : yielded fs = []) :
    Windowed w found i x' (es ++ fs) c := by
  refine ⟨hc, h.mode, fun hp => ?_, fun hp => ?_, h.done_primed⟩
  · rw [hd, hi, grantsOf_append, yielded_append, hg, hy, List.append_nil, List.append_nil]
    exact h.waiting hp
  · rw [hd, hi, grantsOf_append, yielded_append, hg, hy, List.append_nil, List.append_nil]
    exact h.account hp

-- A look asks for the window if that has not been done, and counts what it
-- receives.
theorem Windowed.looking (w : Window) (found i : Nat) (x : Exchange α) (es : List (Event α))
    (c c' : Consumer) (p : Poll α) (b' : Bridge α) (hw : 1 ≤ w.size)
    (hfit : w.size + found < unbounded) (h : Windowed w found i x es c)
    (hl : Look x.bridge c p c' b') :
    Windowed w found i { x with bridge := b', consumers := x.consumers.set i (some c') }
      (es ++ ((x.bridge.lookGrants c).map (.granted i) ++ [.polled i p])) c' ∧
      c'.primed = true := by
  have hopen := h.opened w found i x es c hw hfit
  have hhere : Exchange.consumer?
      { x with bridge := b', consumers := x.consumers.set i (some c') } i = some c' := by
    rw [consumer?_set x _ i (some c') (lt_of_consumer? x i c h.here) rfl, if_pos rfl]
  have hmode : c'.mode = .window w := (Bridge.look_frame _ _ _ _ _ hl).2.2.2.2.1.trans h.mode
  have hasked : grantsOf i (es ++ ((x.bridge.lookGrants c).map (.granted i) ++ [.polled i p]))
      = grantsOf i es ++ x.bridge.lookGrants c := by
    rw [grantsOf_append, grantsOf_look]
  have htaken : (yielded (es ++ ((x.bridge.lookGrants c).map (.granted i) ++ [.polled i p]))).length
      = (yielded es).length + p.item?.toList.length := by
    rw [yielded_append, (parts_of_look i _ p).2.1, List.length_append]
  have hitems := congrArg List.length (Bridge.look_items _ _ _ _ _ hl)
  rw [List.length_append] at hitems
  have hprimed : c'.primed = true := by
    cases hl with
    | finished hd => exact h.done_primed hd
    | outside _ _ | item _ _ _ _ _ | failure _ _ _ _ _ | exhausted _ _ _ _
    | nothingYet _ _ _ _ => rfl
  refine ⟨⟨hhere, hmode, fun hp => ?_, fun _ => ?_, fun _ => hprimed⟩, hprimed⟩
  · rw [hprimed] at hp
    cases hp
  · rw [hasked, htaken]
    cases hl with
    | finished hd =>
        have hnone : x.bridge.lookGrants c = [] := by
          unfold Bridge.lookGrants
          rw [if_pos hd]
        rw [hnone, List.append_nil]
        exact h.account hprimed
    | item a rest hd hr hq =>
        have hmore : x.bridge.items.length
            = (rest.filterMap Except.toOption).length + 1 := by
          rw [hitems, Nat.add_comm]
          rfl
        rw [hmore] at hopen
        rw [Bridge.lookGrants_of_item x.bridge c a rest hd hr hq, List.foldl_append,
          ← List.append_assoc]
        exact hopen.receive w found _ _ _ _ c h.mode hfit
    | failure e rest hd hr hq =>
        have hsame : (rest.filterMap Except.toOption).length = x.bridge.items.length := by
          rw [hitems]
          exact (Nat.zero_add _).symm
        rw [Bridge.lookGrants_of_no_item _ _ _ _ _ (Look.failure e rest hd hr hq) hd rfl]
        rw [← hsame] at hopen
        exact hopen
    | outside hd hr =>
        rw [Bridge.lookGrants_of_no_item _ _ _ _ _ (Look.outside hd hr) hd rfl]
        exact hopen
    | exhausted hd hr hq ht =>
        rw [Bridge.lookGrants_of_no_item _ _ _ _ _ (Look.exhausted hd hr hq ht) hd rfl]
        exact hopen
    | nothingYet hd hr hq ht =>
        rw [Bridge.lookGrants_of_no_item _ _ _ _ _ (Look.nothingYet hd hr hq ht) hd rfl]
        exact hopen

-- The bridge takes an item: what was wanted is queued.
theorem Windowed.accepting (w : Window) (found i : Nat) (x x' : Exchange α)
    (es : List (Event α)) (c : Consumer) (a : α) (left : Nat)
    (hfit : w.size + found < unbounded) (h : Windowed w found i x es c)
    (ht : takeOne? x.bridge.demand = some left) (hb : x'.bridge = x.bridge.accepting a left)
    (hc : x'.consumers = x.consumers) : Windowed w found i x' (es ++ [.accepted a]) c := by
  have htake := takeOne?_eq_some _ _ ht
  have hnone : grantsOf i [Event.accepted a] = [] ∧ yielded [Event.accepted a] = [] :=
    ⟨rfl, rfl⟩
  have hdemand : x'.bridge.demand = left := by rw [hb]; rfl
  have hitems : x'.bridge.items.length = x.bridge.items.length + 1 := by
    rw [hb, Bridge.items_accepting, List.length_append, List.length_singleton]
  refine ⟨(consumer?_congr x x' hc i).trans h.here, h.mode, fun hp => ?_, fun hp => ?_,
    h.done_primed⟩
  · rw [(h.waiting hp).1, takeOne?_zero] at ht
    cases ht
  · rcases h.account hp with ⟨htotal, hbelow, htopped⟩
    rw [hdemand, hitems, grantsOf_append, yielded_append, hnone.1, hnone.2, List.append_nil,
      List.append_nil]
    exact ⟨by omega, hbelow, htopped⟩

-- Every operation but a request of the consumer keeps the account.
theorem windowed_effect (w : Window) (found i : Nat) (x x' : Exchange α)
    (es fs : List (Event α)) (c : Consumer) (hw : 1 ≤ w.size)
    (hfit : w.size + found < unbounded) (hs : Sound x) (h : Windowed w found i x es c)
    (he : Effect x fs x') (hend : x'.consumer? i ≠ none) (hask : ∀ n, fs ≠ [.granted i n]) :
    ∃ c', Windowed w found i x' (es ++ fs) c' ∧
      (c.primed = true ∨ pollsOf i fs ≠ [] → c'.primed = true) := by
  rcases hs.seating.acting x i c h.here with ⟨_, hatt, _, _⟩
  have hkeep : pollsOf i fs = [] → c.primed = true ∨ pollsOf i fs ≠ [] → c.primed = true := by
    rintro hnone (hp | hpoll)
    · exact hp
    · exact absurd hnone hpoll
  cases he with
  | quiet _ hb hc _ _ =>
      exact ⟨c, h.still w found i x x' es [] c ((consumer?_congr x x' hc i).trans h.here)
        (by rw [hb]) (by rw [hb]) rfl rfl, hkeep rfl⟩
  | attached mode hat =>
      rw [hatt] at hat
      cases hat
  | requested j n d hj =>
      rcases hs.seating.sole x i j c d h.here hj with ⟨hji, hd⟩
      subst hji
      subst hd
      unfold Bridge.request
      by_cases hdone : d.done = true
      · refine ⟨d, ?_, hkeep ((silent_granted j _).polls j)⟩
        rw [if_pos hdone, if_pos hdone]
        exact h.still w found j x x es [] d h.here rfl rfl rfl rfl
      · rw [if_neg hdone] at hask
        exact absurd rfl (hask n)
  | looked j d c' p b' hj hl =>
      rcases hs.seating.sole x i j c d h.here hj with ⟨hji, hd⟩
      subst hji
      subst hd
      rcases h.looking w found j x es d c' p b' hw hfit hl with ⟨hnew, hprimed⟩
      exact ⟨c', hnew, fun _ => hprimed⟩
  | left j d hj =>
      rcases hs.seating.sole x i j c d h.here hj with ⟨hji, _⟩
      subst hji
      rw [consumer?_set x _ j none (lt_of_consumer? x j d hj) rfl, if_pos rfl] at hend
      exact absurd rfl hend
  | abandoned =>
      exact ⟨c, h.still w found i x _ es [] c h.here rfl rfl rfl rfl, hkeep rfl⟩
  | accepted _ a left _ ht hb hc _ =>
      exact ⟨c, h.accepting w found i x x' es c a left hfit ht hb hc, hkeep rfl⟩
  | concluded e hp =>
      have hparts := parts_of_leaving (α := α) e
      exact ⟨c, h.still w found i x _ es _ c h.here rfl
        (Bridge.items_concluded x.bridge e) (grantsOf_leaving i e) hparts.2.1,
        hkeep (hparts.2.2.2.2 i)⟩

-- Only a request of the consumer shows as a grant alone.
theorem events_ne_granted (x : Exchange α) (s : Step α) (i : Nat)
    (hs : ∀ n, s ≠ .request i n) (n : Nat) : x.events s ≠ [.granted i n] := by
  unfold events
  intro heq
  split at heq
  · rename_i j m _
    cases hg : x.grants (.request j m) with
    | nil =>
        rw [hg] at heq
        cases heq
    | cons g rest =>
        rw [hg, List.map_cons, List.cons.injEq, Event.granted.injEq] at heq
        exact hs m (by rw [heq.1.1])
  · have hlast := congrArg List.getLast? heq
    rw [List.getLast?_concat, List.getLast?_singleton] at hlast
    cases hlast
  · cases heq
  · rename_i t _ _ _ _ _
    cases ho : x.offered? t with
    | none =>
        rw [ho] at heq
        cases heq
    | some a =>
        rw [ho] at heq
        cases heq
  · cases heq

theorem windowed_after (w : Window) (found i : Nat) (x : Exchange α) (es : List (Event α))
    (c : Consumer) (hw : 1 ≤ w.size) (hfit : w.size + found < unbounded) (hs : Sound x)
    (h : Windowed w found i x es c) (steps : List (Step α))
    (hask : ∀ n, .request i n ∉ steps) (hend : (x.after steps).consumer? i ≠ none) :
    ∃ c', Windowed w found i (x.after steps) (es ++ x.history steps) c' ∧
      (c.primed = true ∨ pollsOf i (x.history steps) ≠ [] → c'.primed = true) := by
  induction steps generalizing x es c with
  | nil =>
      refine ⟨c, ?_, ?_⟩
      · rw [history, List.append_nil]
        exact h
      · rintro (hp | hpoll)
        · exact hp
        · exact absurd rfl hpoll
  | cons s rest ih =>
      have he := step_effect x hs s
      have hpresent := present_of_present_after x hs i (by rw [h.here]; rintro ⟨⟩) s rest hend
      have hgrant := events_ne_granted x s i fun n heq => hask n (heq ▸ List.mem_cons_self)
      rcases windowed_effect w found i x _ es _ c hw hfit hs h he hpresent hgrant with
        ⟨c₁, h₁, hprimed₁⟩
      rcases ih (x.step s).2 _ c₁ (effect_sound x _ _ hs he) h₁
        (fun n hmem => hask n (List.mem_cons_of_mem s hmem)) hend with ⟨c₂, h₂, hprimed₂⟩
      refine ⟨c₂, ?_, fun hany => hprimed₂ ?_⟩
      · rw [history, ← List.append_assoc]
        exact h₂
      · rw [history, pollsOf_append] at hany
        by_cases hhere : pollsOf i (x.events s) = []
        · rw [hhere, List.nil_append] at hany
          rcases hany with hp | hpoll
          · exact Or.inl (hprimed₁ (Or.inl hp))
          · exact Or.inr hpoll
        · exact Or.inl (hprimed₁ (Or.inr hhere))

-- A producer that is not kept waiting: what it emits, or holds, is taken.
theorem taken_of_wanted (x : Exchange α) (hs : Sound x) (hd : 0 < x.bridge.demand) (a : α) :
    (x.producer = .idle → (x.step (.emit a)).1 = .done) ∧
      (x.producer = .delivering a → x.bridge.abandoned = false →
        (x.step .pollDelivery).1 = .done) := by
  have htake : takeOne? x.bridge.demand ≠ none := fun hnone => by
    have := (takeOne?_eq_none_iff _).mp hnone
    omega
  rcases Option.ne_none_iff_exists'.mp htake with ⟨left, hleft⟩
  refine ⟨fun hp => ?_, fun hp hab => ?_⟩
  · rcases hs.open_of_present x (by rw [hp]; rintro ⟨⟩) with ⟨hr, ht⟩
    simp only [step, produce, hp, Bridge.emit_of_open x.bridge a hr ht, hleft]
    rfl
  · rcases hs.open_of_present x (by rw [hp]; rintro ⟨⟩) with ⟨hr, ht⟩
    simp only [step, hp, offer_of_open x a hr ht, hab, hleft, Bool.false_eq_true, if_false]

-- From the first look of a consumer with a window until it leaves, as long as it makes
-- no requests of its own, what is wanted, what is queued and what was received since
-- the last top-up add up to the window and the items it found in the queue. So the
-- queue stays within that sum, demand below the limit and the count below the top-up;
-- and when nothing is queued something is wanted, so that the producer is not kept
-- waiting.
theorem window_account (x y : Exchange α) (h : x.Reachable) (w : Window) (hw : 1 ≤ w.size)
    (hfit : w.size + x.bridge.items.length < unbounded)
    (hy : x.step (.attach (.window w)) = (.done, y)) (later : List (Step α))
    (hask : ∀ n, .request x.consumers.length n ∉ later)
    (hlook : pollsOf x.consumers.length (y.history later) ≠ [])
    (hstay : (y.after later).consumer? x.consumers.length ≠ none) :
    ∃ c t, (y.after later).consumer? x.consumers.length = some c ∧
      (y.after later).bridge.demand + (y.after later).bridge.items.length + c.received
        = w.size + x.bridge.items.length ∧
      grantsOf x.consumers.length (y.history later) = w.size :: List.replicate t w.topUp ∧
      (yielded (y.history later)).length = t * w.topUp + c.received ∧
      (y.after later).bridge.items.length ≤ w.size + x.bridge.items.length ∧
      c.received < w.topUp ∧
      (y.after later).bridge.demand < unbounded ∧
      ((y.after later).bridge.items = [] → 0 < (y.after later).bridge.demand ∧
        ∀ a, ((y.after later).producer = .idle →
            ((y.after later).step (.emit a)).1 = .done) ∧
          ((y.after later).producer = .delivering a →
            (y.after later).bridge.abandoned = false →
            ((y.after later).step .pollDelivery).1 = .done)) := by
  have hs := h.sound
  rcases attaching_state x y hs (.window w) hy with ⟨hsy, hdemand, hitems, hhere⟩
  have hstart : Windowed w x.bridge.items.length x.consumers.length y []
      (x.bridge.newcomer (.window w)) := by
    refine ⟨hhere, rfl, fun _ => ⟨hdemand, rfl, by rw [hitems], rfl, rfl⟩, ?_, ?_⟩ <;>
      rintro ⟨⟩
  rcases windowed_after w _ _ y [] _ hw hfit hsy hstart later hask hstay with
    ⟨c, hwin, hprimed⟩
  rw [List.nil_append] at hwin
  rcases hwin.account (hprimed (Or.inr hlook)) with ⟨htotal, hbelow, t, hasked, htaken⟩
  have htop := topUp_bounds w hw
  refine ⟨c, t, hwin.here, htotal, hasked, htaken, by omega, hbelow, by omega, fun hnil => ?_⟩
  have hpos : 0 < (y.after later).bridge.demand := by
    rw [hnil, List.length_nil] at htotal
    omega
  exact ⟨hpos, taken_of_wanted _ (after_sound y hsy later) hpos⟩

-- A window of two and one item found: after a look, an emission and another look the
-- window has been topped up with the item found as part of the count, and three items
-- are wanted.
theorem window_of_two_and_one_found :
    let x : Exchange Nat := empty.after [.attach .manual, .request 0 1, .emit 5, .detach 0]
    let y := (x.step (.attach (.window ⟨2⟩))).2
    let later : List (Step Nat) := [.poll 1, .emit 6, .poll 1]
    x.Reachable ∧ 1 ≤ (⟨2⟩ : Window).size ∧ 2 + x.bridge.items.length < unbounded ∧
      x.step (.attach (.window ⟨2⟩)) = (.done, y) ∧ (∀ n, .request 1 n ∉ later) ∧
      pollsOf 1 (y.history later) ≠ [] ∧ (y.after later).consumer? 1 ≠ none ∧
      ∃ c t, (y.after later).consumer? 1 = some c ∧
        (y.after later).bridge.demand + (y.after later).bridge.items.length + c.received = 3 ∧
        grantsOf 1 (y.history later) = 2 :: List.replicate t 2 := by
  intro x y later
  have hr : x.Reachable := ⟨[.attach .manual, .request 0 1, .emit 5, .detach 0], rfl⟩
  have hfit : 2 + x.bridge.items.length < unbounded := by decide
  have hy : x.step (.attach (.window ⟨2⟩)) = (.done, y) := rfl
  have hi : x.consumers.length = 1 := by decide
  have hfound : x.bridge.items.length = 1 := by decide
  have hask : ∀ n, .request 1 n ∉ later := by
    intro n hmem
    simp only [later, List.mem_cons, reduceCtorEq, List.not_mem_nil, or_self] at hmem
  have hlook : pollsOf 1 (y.history later) ≠ [] := List.cons_ne_nil _ _
  have hstay : (y.after later).consumer? 1 ≠ none := by decide
  have h := window_account x y hr ⟨2⟩ (by decide) hfit hy later
  rw [hi, hfound] at h
  rcases h hask hlook hstay with ⟨c, t, hc, htotal, hasked, _⟩
  exact ⟨hr, by decide, hfit, hy, hask, hlook, hstay, c, t, hc, htotal, hasked⟩

end Exchange

end Flow

end DemandNet
