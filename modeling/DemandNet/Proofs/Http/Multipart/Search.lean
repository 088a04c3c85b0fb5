import DemandNet.Http.Multipart.Decoder
import Mathlib.Tactic.Common

/-!
# First Occurrences

What `indexOf?` finds, and what later input can change about it.

The decoder searches a buffer that holds a part of the input only. Two facts make that
as good as searching all of it. A pattern that was found stays found at the same place
whatever arrives later. And where a pattern was not found, only the last bytes of the
buffer, fewer than the pattern has, can be the beginning of an occurrence, so all the
bytes before them may be forgotten.

The delimiter has a carriage return at its beginning and nowhere else, so it cannot
overlap itself. A text without the delimiter, followed by one, therefore has its first
delimiter exactly where the text ends.

## Main definitions

* `FirstAt`: A pattern occurs at a place and at no earlier one.

## Theorems

* `indexOf?_eq_some`, `indexOf?_eq_none`: What the two answers of a search mean.
* `indexOf?_shift`: Bytes at which no occurrence begins only move the answer.
* `indexOf?_append`: A pattern that was found stays found.
* `indexOf?_forget`: What may be forgotten of a text without the pattern.
* `indexOf?_skip`: Bytes with which the pattern does not begin are passed over.
* `indexOf?_unbordered`: A pattern that cannot overlap itself, behind a text without it.
-/

namespace DemandNet

namespace Http

namespace Multipart

/-- The pattern occurs at this place and at no earlier one. -/
def FirstAt (p s : Bytes) (n : Nat) : Prop := p <+: s.drop n ∧ ∀ m < n, ¬ p <+: s.drop m

theorem FirstAt.length_le {p s : Bytes} {n : Nat} (h : FirstAt p s n) (hp : p ≠ []) :
    n + p.length ≤ s.length := by
  have hlen : p.length ≤ (s.drop n).length := h.1.length_le
  have hpos : 0 < p.length := List.length_pos_iff.2 hp
  rw [List.length_drop] at hlen
  omega

/-! ### What a search finds -/

theorem indexFrom?_eq (p : Bytes) (s : Bytes) :
    ∀ n : Nat, indexFrom? p n s = (indexOf? p s).map (n + ·) := by
  unfold indexOf?
  induction s with
  | nil =>
      intro n
      by_cases hp : p.isEmpty
      · simp only [indexFrom?, hp, if_true, Option.map_some, Nat.add_zero]
      · simp only [indexFrom?, hp, Bool.false_eq_true, if_false, Option.map_none]
  | cons b rest ih =>
      intro n
      by_cases hp : p.isPrefixOf (b :: rest)
      · simp only [indexFrom?, hp, if_true, Option.map_some, Nat.add_zero]
      · simp only [indexFrom?, hp, Bool.false_eq_true, if_false]
        rw [ih (n + 1), ih (0 + 1), Option.map_map]
        congr 1
        funext k
        simp only [Function.comp_apply]
        omega

theorem indexOf?_cons (p : Bytes) (b : UInt8) (s : Bytes) :
    indexOf? p (b :: s) =
      if p.isPrefixOf (b :: s) then some 0 else (indexOf? p s).map (1 + ·) := by
  rw [← indexFrom?_eq]
  rfl

theorem indexOf?_eq_some (p : Bytes) (s : Bytes) :
    ∀ n : Nat, indexOf? p s = some n ↔ FirstAt p s n := by
  induction s with
  | nil =>
      intro n
      by_cases hp : p = []
      · subst hp
        have hfound : indexOf? [] [] = some 0 := rfl
        rw [hfound, Option.some_inj]
        constructor
        · intro hn
          subst hn
          exact ⟨List.nil_prefix, fun m hm => absurd hm (Nat.not_lt_zero m)⟩
        · intro h
          by_contra hn
          exact h.2 0 (by omega) List.nil_prefix
      · have hnone : indexOf? p [] = none := by
          cases p with
          | nil => exact absurd rfl hp
          | cons c t => rfl
        rw [hnone]
        constructor
        · rintro ⟨⟩
        · intro h
          have hle := h.length_le hp
          have hpos : 0 < p.length := List.length_pos_iff.2 hp
          rw [List.length_nil] at hle
          omega
  | cons b rest ih =>
      intro n
      rw [indexOf?_cons]
      by_cases hp : p <+: b :: rest
      · rw [if_pos (List.isPrefixOf_iff_prefix.2 hp), Option.some_inj]
        constructor
        · intro hn
          subst hn
          exact ⟨hp, fun m hm => absurd hm (Nat.not_lt_zero m)⟩
        · intro h
          by_contra hn
          exact h.2 0 (by omega) hp
      · rw [if_neg (fun h => hp (List.isPrefixOf_iff_prefix.1 h))]
        -- The first byte begins no occurrence, so every place is a place of the rest.
        cases n with
        | zero =>
            constructor
            · intro h
              rcases Option.map_eq_some_iff.1 h with ⟨k, _, hk⟩
              omega
            · exact fun h => absurd h.1 hp
        | succ k =>
            have hmap : (indexOf? p rest).map (1 + ·) = some (k + 1) ↔
                indexOf? p rest = some k := by
              rw [Option.map_eq_some_iff]
              constructor
              · rintro ⟨j, hj, hjk⟩
                rw [hj, show j = k by omega]
              · exact fun h => ⟨k, h, by omega⟩
            rw [hmap, ih k]
            constructor
            · intro h
              refine ⟨h.1, fun m hm => ?_⟩
              cases m with
              | zero => exact hp
              | succ j => exact h.2 j (by omega)
            · exact fun h => ⟨h.1, fun m hm => h.2 (m + 1) (by omega)⟩

theorem indexOf?_eq_none (p s : Bytes) : indexOf? p s = none ↔ ∀ n, ¬ p <+: s.drop n := by
  constructor
  · -- Otherwise there would be a least place, and the search would have found it.
    intro h n
    induction n using Nat.strongRecOn with
    | _ n ih =>
        intro hn
        have hfirst := (indexOf?_eq_some p s n).2 ⟨hn, ih⟩
        rw [h] at hfirst
        cases hfirst
  · intro h
    cases hf : indexOf? p s with
    | none => rfl
    | some n => exact absurd ((indexOf?_eq_some p s n).1 hf).1 (h n)

/-! ### Searching a part of the text -/

-- No occurrence begins in the first `k` bytes, so the search may begin behind them.
theorem indexOf?_shift (p s : Bytes) (k : Nat) (h : ∀ m < k, ¬ p <+: s.drop m) :
    indexOf? p s = (indexOf? p (s.drop k)).map (k + ·) := by
  cases hf : indexOf? p (s.drop k) with
  | none =>
      rw [indexOf?_eq_none] at hf
      rw [Option.map_none, indexOf?_eq_none]
      intro n
      by_cases hn : n < k
      · exact h n hn
      · have hrest := hf (n - k)
        rwa [List.drop_drop, Nat.add_sub_cancel' (by omega)] at hrest
  | some j =>
      rw [indexOf?_eq_some] at hf
      rw [Option.map_some, indexOf?_eq_some]
      refine ⟨by rw [← List.drop_drop]; exact hf.1, fun m hm => ?_⟩
      by_cases hmk : m < k
      · exact h m hmk
      · have hrest := hf.2 (m - k) (by omega)
        rwa [List.drop_drop, Nat.add_sub_cancel' (by omega)] at hrest

-- An occurrence that fits into the first text is one of the first text.
theorem prefix_drop_of_append (p s x : Bytes) (m : Nat) (hm : m + p.length ≤ s.length)
    (h : p <+: (s ++ x).drop m) : p <+: s.drop m := by
  rw [List.drop_append_of_le_length (by omega)] at h
  exact List.prefix_of_prefix_length_le h (List.prefix_append _ _)
    (by rw [List.length_drop]; omega)

theorem indexOf?_append (p s x : Bytes) (n : Nat) (hp : p ≠ []) (h : indexOf? p s = some n) :
    indexOf? p (s ++ x) = some n := by
  rw [indexOf?_eq_some] at h ⊢
  have hle := h.length_le hp
  constructor
  · rw [List.drop_append_of_le_length (by omega)]
    exact h.1.trans (List.prefix_append _ _)
  · intro m hm hocc
    exact h.2 m hm (prefix_drop_of_append p s x m (by omega) hocc)

-- An occurrence that begins among the first `k` bytes would end before the text does.
theorem indexOf?_forget (p s x : Bytes) (k : Nat) (h : indexOf? p s = none)
    (hk : k ≤ s.length - (p.length - 1)) :
    indexOf? p (s ++ x) = (indexOf? p ((s ++ x).drop k)).map (k + ·) := by
  rw [indexOf?_eq_none] at h
  apply indexOf?_shift
  intro m hm hocc
  exact h m (prefix_drop_of_append p s x m (by omega) hocc)

/-! ### Patterns with a first byte of their own -/

theorem indexOf?_skip (c : UInt8) (t l s : Bytes) (h : c ∉ l) :
    indexOf? (c :: t) (l ++ s) = (indexOf? (c :: t) s).map (l.length + ·) := by
  have hnone : ∀ m < l.length, ¬ c :: t <+: (l ++ s).drop m := by
    intro m hm hocc
    rw [List.drop_append_of_le_length (by omega), List.drop_eq_getElem_cons hm,
      List.cons_append, List.cons_prefix_cons] at hocc
    exact h (hocc.1 ▸ List.getElem_mem hm)
  rw [indexOf?_shift _ _ l.length hnone, List.drop_left]

-- An occurrence that began in `s` and ended behind it would have the pattern's first
-- byte a second time, where the pattern behind `s` begins.
theorem indexOf?_unbordered (c : UInt8) (t s x : Bytes) (hc : c ∉ t)
    (hs : ¬ c :: t <:+: s) : indexOf? (c :: t) (s ++ (c :: t) ++ x) = some s.length := by
  rw [indexOf?_eq_some]
  constructor
  · rw [List.append_assoc, List.drop_left]
    exact List.prefix_append _ _
  · intro m hm hocc
    by_cases hfit : m + (c :: t).length ≤ s.length
    · rw [List.append_assoc] at hocc
      have hin := prefix_drop_of_append _ s _ m hfit hocc
      exact hs (hin.isInfix.trans (List.drop_suffix m s).isInfix)
    · rcases hocc with ⟨r, hr⟩
      rw [List.length_cons] at hfit
      have hbyte : (c :: t)[s.length - m]? = some c := by
        rw [← List.getElem?_append_left (by rw [List.length_cons]; omega), hr,
          List.getElem?_drop, Nat.add_sub_cancel' (by omega), List.append_assoc,
          List.getElem?_append_right (Nat.le_refl _), Nat.sub_self]
        rfl
      rw [show s.length - m = (s.length - m - 1) + 1 by omega, List.getElem?_cons_succ] at hbyte
      exact hc (List.mem_of_getElem? hbyte)

end Multipart

end Http

end DemandNet
