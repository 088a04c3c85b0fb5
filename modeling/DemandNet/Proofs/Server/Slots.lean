import DemandNet.Server.Slots
import Mathlib.Tactic.Common

/-!
# The Account of the Slots

Slots are neither lost nor made up, and none lies idle while somebody waits for one.

Every operation changes what one accept is doing, and the returning of a slot what a second
one is doing as well. So the number of slots that somebody has is followed through one
change, and the account is balanced again by what the operation does to the slots that
nobody has.

A slot that is returned is in nobody's hands for a moment, and then somebody gets it or it
is counted again. That moment is what `Returned` is about: it starts where the former owner
is gone already and says who has the slot next.

## Main definitions

* `Holder.share`: How many slots it has.
* `Kept`: Every slot is accounted for, and whoever waits does so for want of one.
* `Returned`: What becomes of a slot that somebody had.

## Theorems

* `live_put`: The number of slots that somebody has, after one accept went on.
* `give_returned`: Who gets a slot that is returned.
* `Kept.begin`, `Kept.complete`, `Kept.giveUp`, `Kept.release`: No operation loses a slot.
* `Kept.holder_begin`: Who begins has a slot at once exactly if not all are in use.
-/

namespace DemandNet

namespace Server

/-- The number of slots that it has. -/
def Holder.share (h : Holder) : Nat := if h.isLive then 1 else 0

namespace Slots

/-- Every one of `n` slots is somebody's or can be had, and whoever waits for one does so
    because there is none to be had. -/
structure Kept (n : Nat) (s : Slots) : Prop where
  account : s.live + s.available = n
  scarce : ∀ i, s.holder i = .waiting → s.available = 0

/-- A slot has been returned: whoever has waited longest has it, or it can be had. -/
inductive Returned (s : Slots) : Slots → Prop
  | passed (i : Nat) (hi : s.holder i = .waiting) (hfirst : ∀ j, j < i → s.holder j ≠ .waiting) :
      Returned s (s.put i .accepting)
  | free (hnone : ∀ i, s.holder i ≠ .waiting) :
      Returned s { s with available := s.available + 1 }

/-! ### One accept goes on -/

theorem lt_of_holder (s : Slots) (i : Nat) (hi : s.holder i ≠ .gone) : i < s.holders.length := by
  by_contra hle
  rw [holder, List.getElem?_eq_none (by omega)] at hi
  exact hi rfl

theorem holder_put (s : Slots) (i j : Nat) (h : Holder) (hi : i < s.holders.length) :
    (s.put i h).holder j = if j = i then h else s.holder j := by
  by_cases hj : j = i
  · rw [if_pos hj, hj, holder, put, List.getElem?_set_self hi, Option.getD_some]
  · rw [if_neg hj, holder, put, List.getElem?_set_ne (Ne.symm hj), holder]

theorem live_put (s : Slots) (i : Nat) (h : Holder) (hi : i < s.holders.length) :
    (s.put i h).live + (s.holder i).share = s.live + h.share := by
  have hat : s.holder i = s.holders[i] := by
    rw [holder, List.getElem?_eq_getElem hi, Option.getD_some]
  have hle : (if (s.holders[i]).isLive then 1 else 0) ≤ s.live :=
    List.boole_getElem_le_countP hi
  have hset : (s.put i h).live =
      (s.live - if (s.holders[i]).isLive then 1 else 0) + if h.isLive then 1 else 0 :=
    List.countP_set hi
  unfold Holder.share
  rw [hat, hset]
  omega

theorem waiting_of_put (s : Slots) (i j : Nat) (h : Holder) (hi : i < s.holders.length)
    (hh : h ≠ .waiting) (hj : (s.put i h).holder j = .waiting) : s.holder j = .waiting := by
  rw [holder_put s i j h hi] at hj
  by_cases hji : j = i
  · rw [if_pos hji] at hj
    exact absurd hj hh
  · rw [if_neg hji] at hj
    exact hj

/-! ### One accept more -/

theorem holder_concat (s : Slots) (k j : Nat) (h : Holder) :
    ({ available := k, holders := s.holders ++ [h] } : Slots).holder j =
      if j = s.holders.length then h else s.holder j := by
  by_cases hj : j = s.holders.length
  · rw [if_pos hj, hj, holder, List.getElem?_concat_length, Option.getD_some]
  · rw [if_neg hj, holder, holder]
    by_cases hlt : j < s.holders.length
    · rw [List.getElem?_append_left hlt]
    · rw [List.getElem?_eq_none (by rw [List.length_append, List.length_singleton]; omega),
        List.getElem?_eq_none (by omega)]

theorem live_concat (s : Slots) (k : Nat) (h : Holder) :
    ({ available := k, holders := s.holders ++ [h] } : Slots).live = s.live + h.share := by
  rw [live, live, List.countP_append, List.countP_singleton, Holder.share]

theorem Kept.holder_begin (n : Nat) (s : Slots) (h : Kept n s) :
    s.begin.2.holder s.begin.1 = if s.live < n then .accepting else .waiting := by
  have hacc := h.account
  unfold Slots.begin
  by_cases hfree : 0 < s.available
  · rw [if_pos hfree, if_pos (by omega : s.live < n), holder_concat, if_pos rfl]
  · rw [if_neg hfree, if_neg (by omega : ¬ s.live < n), holder_concat, if_pos rfl]

theorem Kept.begin (n : Nat) (s : Slots) (h : Kept n s) : Kept n s.begin.2 := by
  have hacc := h.account
  unfold Slots.begin
  by_cases hfree : 0 < s.available
  · rw [if_pos hfree]
    refine ⟨?_, fun j hj => ?_⟩
    · rw [live_concat]
      simp only [Holder.share, Holder.isLive, if_true]
      omega
    · rw [holder_concat] at hj
      by_cases hlast : j = s.holders.length
      · rw [if_pos hlast] at hj
        cases hj
      · rw [if_neg hlast] at hj
        have := h.scarce j hj
        omega
  · rw [if_neg hfree]
    refine ⟨?_, fun j _ => ?_⟩
    · rw [live_concat]
      exact hacc
    · exact Nat.eq_zero_of_not_pos hfree

/-! ### A slot is returned -/

theorem give_returned (s : Slots) : Returned s s.give := by
  unfold give
  cases hfind : s.holders.findIdx? (· == .waiting) with
  | none =>
      refine .free fun i hi => ?_
      have hlt := lt_of_holder s i (by rw [hi]; exact Holder.noConfusion)
      have hnot := List.findIdx?_eq_none_iff.mp hfind s.holders[i] (List.getElem_mem hlt)
      rw [holder, List.getElem?_eq_getElem hlt, Option.getD_some] at hi
      rw [hi] at hnot
      cases hnot
  | some i =>
      rcases List.findIdx?_eq_some_iff_getElem.mp hfind with ⟨hlt, hi, hfirst⟩
      refine .passed i ?_ fun j hj hwait => hfirst j hj ?_
      · rw [holder, List.getElem?_eq_getElem hlt, Option.getD_some]
        exact beq_iff_eq.mp hi
      · rw [holder, List.getElem?_eq_getElem (by omega), Option.getD_some] at hwait
        exact beq_iff_eq.mpr hwait

-- The slot is missing from the account while nobody has it.
theorem Returned.kept (n : Nat) (s s' : Slots) (hr : Returned s s')
    (hacc : s.live + s.available + 1 = n) (hscarce : ∀ i, s.holder i = .waiting → s.available = 0) :
    Kept n s' := by
  cases hr with
  | passed i hi hfirst =>
      have hlt := lt_of_holder s i (by rw [hi]; exact Holder.noConfusion)
      have hlive := live_put s i .accepting hlt
      rw [hi] at hlive
      simp only [Holder.share, Holder.isLive, Bool.false_eq_true, if_false, if_true] at hlive
      refine ⟨?_, fun _ _ => hscarce i hi⟩
      change (s.put i .accepting).live + s.available = n
      omega
  | free hnone =>
      refine ⟨?_, fun i hi => absurd hi (hnone i)⟩
      change s.live + (s.available + 1) = n
      omega

theorem Kept.give (n : Nat) (s : Slots) (h : Kept n s) (i : Nat)
    (hi : (s.holder i).isLive = true) : Kept n (s.put i .gone).give := by
  have hlt := lt_of_holder s i (by intro hgone; rw [hgone] at hi; cases hi)
  have hacc := h.account
  have hlive := live_put s i .gone hlt
  unfold Holder.share at hlive
  rw [if_pos hi] at hlive
  simp only [Holder.isLive, Bool.false_eq_true, if_false] at hlive
  refine (give_returned _).kept n _ _ ?_ fun j hj => ?_
  · change (s.put i .gone).live + s.available + 1 = n
    omega
  · exact h.scarce j (waiting_of_put s i j .gone hlt Holder.noConfusion hj)

/-! ### What every operation keeps -/

-- Whoever had a slot has it still, and whoever had none waits no longer.
theorem Kept.put (n : Nat) (s : Slots) (h : Kept n s) (i : Nat) (g : Holder)
    (hi : s.holder i ≠ .gone) (hg : g ≠ .waiting) (hlive : g.isLive = (s.holder i).isLive) :
    Kept n (s.put i g) := by
  have hlt := lt_of_holder s i hi
  have hsame := live_put s i g hlt
  unfold Holder.share at hsame
  rw [hlive] at hsame
  refine ⟨?_, fun j hj => h.scarce j (waiting_of_put s i j g hlt hg hj)⟩
  rw [Nat.add_right_cancel hsame]
  exact h.account

theorem Kept.complete (n : Nat) (s : Slots) (h : Kept n s) (i : Nat) : Kept n (s.complete i) := by
  unfold Slots.complete
  by_cases hi : s.holder i = .accepting
  · rw [if_pos hi]
    refine h.put n s i .connected ?_ Holder.noConfusion ?_
    · rw [hi]
      exact Holder.noConfusion
    · rw [hi]
      rfl
  · rw [if_neg hi]
    exact h

theorem Kept.giveUp (n : Nat) (s : Slots) (h : Kept n s) (i : Nat) : Kept n (s.giveUp i) := by
  unfold Slots.giveUp
  cases hi : s.holder i with
  | waiting =>
      refine h.put n s i .gone ?_ Holder.noConfusion ?_
      · rw [hi]
        exact Holder.noConfusion
      · rw [hi]
        rfl
  | accepting => exact h.give n s i (by rw [hi]; rfl)
  | connected | gone => exact h

theorem Kept.release (n : Nat) (s : Slots) (h : Kept n s) (i : Nat) : Kept n (s.release i) := by
  unfold Slots.release
  by_cases hi : s.holder i = .connected
  · rw [if_pos hi]
    exact h.give n s i (by rw [hi]; rfl)
  · rw [if_neg hi]
    exact h

theorem kept_ofSize? (n : Nat) (hpos : 0 < n) (hle : n ≤ limit) :
    ofSize? n = some { available := n, holders := [] } ∧
      Kept n { available := n, holders := [] } := by
  have hmax : max n 1 = n := by omega
  refine ⟨?_, Nat.zero_add n, fun i hi => ?_⟩
  · rw [ofSize?, hmax, if_pos hle]
  · cases hi

end Slots

end Server

end DemandNet
