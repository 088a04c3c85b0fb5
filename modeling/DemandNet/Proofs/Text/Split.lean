import DemandNet.Text.Split
import Mathlib.Data.List.DropRight
import Mathlib.Tactic.Common

/-!
# Cutting Text at What It Was Joined With

The pieces of a text that was put together with separators.

Cutting undoes joining as long as the pieces themselves hold no separator: at the first
separator there is the first piece and all the rest, and at every line end there is one
line. Trimming leaves a text alone that has nothing to trim, and a blank in front of a
text is trimmed away.

## Main definitions

* `IsTrimmed`: What is left of a text that is trimmed.
* `IsPiece`: What stands between two separators of a text.

## Theorems

* `trimEndBy_cons`, `trimEndBy_append_of_all`: Trimming from the end, character by character
  and all at once.
* `trimEndBy_eq_iff`, `trimBy_eq_iff`: What is left when the characters of a class are dropped
  from the end, and from both ends.
* `trimBy_of_ends`: A text without characters of the class at its ends is not trimmed.
* `trimBy_of_none`: Nor is one that has none at all.
* `trimBy_append_of_all`, `trimBy_all_append`: What is of the class at an end does not matter.
* `lowerChar_cases`: Only capital letters change when they are put in lower case.
* `splitOn_map`, `trimBy_map`: Cutting and trimming a text that was changed character by
  character.
* `splitOn_eq_splitOnP`, `splitOn_beq`: Cutting at every separator.
* `mem_splitOn_iff`: The pieces are what stands between the separators.
* `trim_cons_of_blank`: A blank in front does not matter.
* `splitOnce?_append`: The first separator is the one that was put in.
* `splitOnce?_of_mem`, `splitOnce?_of_not_mem`: There is a first one, or none.
* `splitLines_append`, `splitLines_of_not_mem`: The first line, and the last one.
-/

namespace DemandNet

namespace Text

theorem trimEndBy_cons (p : α → Bool) (a : α) (cs : List α) : trimEndBy p (a :: cs) =
    if p a = true ∧ trimEndBy p cs = [] then [] else a :: trimEndBy p cs := by
  unfold trimEndBy
  rw [List.reverse_cons, List.dropWhile_append]
  cases hrest : cs.reverse.dropWhile p with
  | nil =>
      rw [List.isEmpty_nil, if_pos rfl, List.reverse_nil]
      by_cases ha : p a = true
      · rw [if_pos ⟨ha, rfl⟩, List.dropWhile_cons_of_pos ha]
        rfl
      · rw [if_neg fun h => ha h.1, List.dropWhile_cons_of_neg ha]
        rfl
  | cons b rest =>
      rw [List.isEmpty_cons, if_neg Bool.false_ne_true, List.reverse_append, if_neg]
      · rfl
      · exact fun h => List.cons_ne_nil b rest (List.reverse_eq_nil_iff.1 h.2)

theorem trimEndBy_cons_of_neg (p : α → Bool) (a : α) (cs : List α) (ha : p a = false) :
    trimEndBy p (a :: cs) = a :: trimEndBy p cs := by
  rw [trimEndBy_cons, if_neg]
  rw [ha]
  exact fun h => Bool.false_ne_true h.1

theorem trimEndBy_append_of_all (p : α → Bool) (cs : List α) {dropped : List α}
    (h : ∀ c ∈ dropped, p c = true) : trimEndBy p (cs ++ dropped) = trimEndBy p cs := by
  unfold trimEndBy
  rw [List.reverse_append, List.dropWhile_append_of_pos]
  exact fun c hc => h c (List.mem_reverse.1 hc)

theorem mem_of_mem_trimEndBy {p : α → Bool} {a : α} {cs : List α} (h : a ∈ trimEndBy p cs) :
    a ∈ cs :=
  List.mem_reverse.1 ((List.dropWhile_suffix p).subset (List.mem_reverse.1 h))

theorem mem_of_mem_trimBy {p : α → Bool} {a : α} {cs : List α} (h : a ∈ trimBy p cs) : a ∈ cs :=
  (List.dropWhile_suffix p).subset (mem_of_mem_trimEndBy h)

-- The end that is dropped is of the class, and what is left does not end in the class.
theorem trimEndBy_eq_iff (p : α → Bool) (cs rest : List α) :
    trimEndBy p cs = rest ↔
      ∃ dropped, cs = rest ++ dropped ∧ (∀ c ∈ dropped, p c = true) ∧
        ∀ c, rest.getLast? = some c → p c = false := by
  constructor
  · intro h
    have hleft : cs.rdropWhile p = rest := h
    have hlast : rest = [] ∨ ∃ hne : rest ≠ [], ¬ p (rest.getLast hne) = true := by
      by_cases hne : rest = []
      · exact Or.inl hne
      · subst hleft
        exact Or.inr ⟨hne, List.rdropWhile_last_not p cs hne⟩
    refine ⟨cs.rtakeWhile p, ?_, ?_, ?_⟩
    · rw [← hleft]
      exact List.rdropWhile_append_rtakeWhile.symm
    · exact fun c hc => List.mem_rtakeWhile_imp hc
    · intro c hc
      rcases hlast with rfl | ⟨hne, hp⟩
      · simp only [List.getLast?_nil, reduceCtorEq] at hc
      · rw [List.getLast?_eq_some_getLast hne, Option.some.injEq] at hc
        rw [← hc]
        exact Bool.eq_false_iff.2 hp
  · intro h
    rcases h with ⟨dropped, rfl, hdropped, hlast⟩
    unfold trimEndBy
    have hkept : rest.reverse.dropWhile p = rest.reverse := by
      rw [List.dropWhile_eq_self_iff]
      intro hpos hp
      have hc : rest.getLast? = some (rest.reverse[0]) := by
        rw [← List.head?_reverse, List.head?_eq_getElem?, List.getElem?_eq_getElem hpos]
      rw [hlast _ hc] at hp
      exact Bool.false_ne_true hp
    rw [List.reverse_append, List.dropWhile_append_of_pos, hkept, List.reverse_reverse]
    exact fun c hc => hdropped c (List.mem_reverse.1 hc)

theorem trimBy_of_ends (p : α → Bool) (cs : List α) (hhead : ∀ a, cs.head? = some a → p a = false)
    (hlast : ∀ a, cs.getLast? = some a → p a = false) : trimBy p cs = cs := by
  have hdrop : cs.dropWhile p = cs := by
    cases cs with
    | nil => rfl
    | cons a rest =>
        rw [List.dropWhile_cons_of_neg]
        rw [hhead a rfl]
        exact Bool.false_ne_true
  unfold trimBy
  rw [hdrop, trimEndBy_eq_iff]
  exact ⟨[], (List.append_nil cs).symm, fun c hc => absurd hc List.not_mem_nil, hlast⟩

theorem trimBy_of_none (p : α → Bool) (cs : List α) (h : ∀ c ∈ cs, p c = false) :
    trimBy p cs = cs :=
  trimBy_of_ends p cs (fun a ha => h a (List.mem_of_mem_head? ha))
    fun a ha => h a (List.mem_of_getLast? ha)

theorem trimBy_append_of_all (p : α → Bool) (cs : List α) {dropped : List α}
    (h : ∀ c ∈ dropped, p c = true) : trimBy p (cs ++ dropped) = trimBy p cs := by
  unfold trimBy
  rw [List.dropWhile_append]
  by_cases hcs : (cs.dropWhile p).isEmpty = true
  · rw [if_pos hcs, List.isEmpty_iff.1 hcs, List.dropWhile_eq_nil_iff.2 h]
  · rw [if_neg hcs, trimEndBy_append_of_all p _ h]

theorem trimBy_all_append (p : α → Bool) {dropped : List α} (cs : List α)
    (h : ∀ c ∈ dropped, p c = true) : trimBy p (dropped ++ cs) = trimBy p cs := by
  unfold trimBy
  rw [List.dropWhile_append_of_pos h]

/-- What is left of a text without the characters of a class at its two ends. -/
def IsTrimmed (p : α → Bool) (cs rest : List α) : Prop :=
  ∃ left right, cs = left ++ (rest ++ right) ∧ (∀ c ∈ left, p c = true) ∧
    (∀ c ∈ right, p c = true) ∧ (∀ c, rest.head? = some c → p c = false) ∧
    ∀ c, rest.getLast? = some c → p c = false

theorem trimBy_eq_iff (p : α → Bool) (cs rest : List α) :
    trimBy p cs = rest ↔ IsTrimmed p cs rest := by
  constructor
  · intro h
    rcases (trimEndBy_eq_iff p _ rest).1 h with ⟨right, hdrop, hright, hlast⟩
    refine ⟨cs.takeWhile p, right, ?_, fun c hc => List.mem_takeWhile_imp hc, hright, ?_, hlast⟩
    · rw [← hdrop, List.takeWhile_append_dropWhile]
    · intro c hc
      have hhead : (cs.dropWhile p).head? = some c := by
        rw [hdrop, List.head?_append, hc]
        rfl
      have hnot := List.head?_dropWhile_not p cs
      rw [hhead] at hnot
      exact hnot
  · rintro ⟨left, right, rfl, hleft, hright, hhead, hlast⟩
    rw [trimBy_all_append p _ hleft, trimBy_append_of_all p _ hright,
      trimBy_of_ends p rest hhead hlast]

theorem trimBy_map (f : α → β) (p : β → Bool) (cs : List α) :
    trimBy p (cs.map f) = (trimBy (fun a => p (f a)) cs).map f := by
  unfold trimBy trimEndBy
  rw [List.dropWhile_map, ← List.map_reverse, List.dropWhile_map, List.map_reverse]
  rfl

theorem trim_cons_of_blank (c : Char) (cs : List Char) (h : isBlank c = true) :
    trim (c :: cs) = trim cs := by
  unfold trim trimBy
  rw [List.dropWhile_cons_of_pos h]

theorem lowerChar_cases (c : Char) : lowerChar c = c ∨
    65 ≤ c.toNat ∧ c.toNat ≤ 90 ∧ (lowerChar c).toNat = c.toNat + 32 := by
  unfold lowerChar
  by_cases h : 'A' ≤ c ∧ c ≤ 'Z'
  · have hrange : 65 ≤ c.toNat ∧ c.toNat ≤ 90 := h
    have hvalid : (c.toNat + 32).isValidChar := .inl (by omega)
    rw [if_pos h, Char.ofNat, dif_pos hvalid]
    exact .inr ⟨hrange.1, hrange.2, rfl⟩
  · exact .inl (if_neg h)

theorem splitOnce?_append (p : α → Bool) (c : α) (y : List α) (hc : p c = true) :
    ∀ x : List α, (∀ a ∈ x, p a = false) → splitOnce? p (x ++ c :: y) = some (x, y) := by
  intro x
  induction x with
  | nil =>
      intro _
      rw [List.nil_append, splitOnce?, if_pos hc]
  | cons a rest ih =>
      intro h
      have ha : p a = false := h a List.mem_cons_self
      rw [List.cons_append, splitOnce?, if_neg (by rw [ha]; exact Bool.false_ne_true),
        ih fun b hb => h b (List.mem_cons_of_mem _ hb)]
      rfl

theorem splitOnce?_of_mem [BEq α] [LawfulBEq α] {c : α} {cs : List α} (h : c ∈ cs) :
    ∃ before behind, cs = before ++ c :: behind ∧ c ∉ before ∧
      splitOnce? (· == c) cs = some (before, behind) := by
  rcases List.eq_append_cons_of_mem h with ⟨before, behind, rfl, hbefore⟩
  refine ⟨before, behind, rfl, hbefore, ?_⟩
  exact splitOnce?_append (· == c) c behind (beq_self_eq_true c) before fun a ha =>
    beq_eq_false_iff_ne.2 (ne_of_mem_of_not_mem ha hbefore)

theorem splitOnce?_of_not_mem [BEq α] [LawfulBEq α] {c : α} {cs : List α} (h : c ∉ cs) :
    splitOnce? (· == c) cs = none := by
  induction cs with
  | nil => rfl
  | cons a rest ih =>
      rw [List.mem_cons, not_or] at h
      have ha : ¬ (a == c) = true := fun heq => h.1 (beq_iff_eq.1 heq).symm
      rw [splitOnce?, if_neg ha, ih h.2]
      rfl

theorem splitOn_eq_splitOnP (p : α → Bool) (cs : List α) : splitOn p cs = cs.splitOnP p := by
  induction cs with
  | nil => rfl
  | cons c rest ih =>
      rw [splitOn, List.splitOnP_cons_eq_if_modifyHead, ih]
      by_cases hc : p c = true
      · rw [if_pos hc, if_pos hc]
      · rw [if_neg hc, if_neg hc]
        cases hrest : rest.splitOnP p with
        | nil => exact absurd hrest (List.splitOnP_ne_nil p rest)
        | cons piece others => rfl

theorem splitOn_map (f : α → β) (p : β → Bool) (cs : List α) :
    splitOn p (cs.map f) = (splitOn (fun a => p (f a)) cs).map (List.map f) := by
  induction cs with
  | nil => rfl
  | cons c rest ih =>
      rw [List.map_cons, splitOn, splitOn, ih]
      by_cases hc : p (f c) = true
      · rw [if_pos hc, if_pos hc]
        rfl
      · rw [if_neg hc, if_neg hc]
        cases splitOn (fun a => p (f a)) rest <;> rfl

theorem splitOn_beq [BEq α] (c : α) (cs : List α) : splitOn (· == c) cs = cs.splitOn c := by
  rw [splitOn_eq_splitOnP, ← List.splitOn_eq_splitOnP]

-- The pieces hold no separator, whatever the text.
theorem not_mem_of_mem_splitOn [BEq α] [LawfulBEq α] (c : α) (cs : List α) :
    ∀ piece ∈ cs.splitOn c, c ∉ piece := by
  induction cs with
  | nil =>
      intro piece hpiece
      rw [List.splitOn_nil, List.mem_singleton] at hpiece
      rw [hpiece]
      exact List.not_mem_nil
  | cons a rest ih =>
      rw [List.splitOn_cons_eq_if_modifyHead]
      by_cases ha : (a == c) = true
      · rw [if_pos ha]
        intro piece hpiece
        rcases List.mem_cons.1 hpiece with rfl | hpiece
        · exact List.not_mem_nil
        · exact ih piece hpiece
      · rw [if_neg ha]
        cases hrest : rest.splitOn c with
        | nil => exact absurd hrest (List.splitOn_ne_nil c rest)
        | cons first others =>
            rw [hrest] at ih
            intro piece hpiece
            rcases List.mem_cons.1 hpiece with rfl | hpiece
            · rw [List.mem_cons, not_or]
              exact ⟨fun heq => ha (beq_iff_eq.2 heq.symm), ih first List.mem_cons_self⟩
            · exact ih piece (List.mem_cons_of_mem _ hpiece)

/-- A piece of a text: what stands between two separators, or between a separator and an
    end, or the ends. -/
def IsPiece (c : α) (piece cs : List α) : Prop :=
  c ∉ piece ∧ ∃ before after, cs = before ++ (piece ++ after) ∧
    (before = [] ∨ ∃ b, before = b ++ [c]) ∧ (after = [] ∨ ∃ a, after = c :: a)

theorem mem_splitOn_of_isPiece [BEq α] [LawfulBEq α] {c : α} {piece cs : List α}
    (h : IsPiece c piece cs) : piece ∈ cs.splitOn c := by
  rcases h with ⟨hpiece, before, after, rfl, hbefore, hafter⟩
  have hlast : piece ∈ (piece ++ after).splitOn c := by
    rcases hafter with rfl | ⟨a, rfl⟩
    · rw [List.append_nil, List.splitOn_eq_singleton hpiece]
      exact List.mem_singleton_self piece
    · rw [List.splitOn_append_cons_self_of_not_mem hpiece]
      exact List.mem_cons_self
  rcases hbefore with rfl | ⟨b, rfl⟩
  · exact hlast
  · rw [List.append_assoc, List.singleton_append, List.splitOn_append_cons_self]
    exact List.mem_append_right _ hlast

-- By induction on the number of pieces: the first is in front of the first separator.
theorem isPiece_of_mem_splitOn [BEq α] [LawfulBEq α] {c : α} {piece : List α} (cs : List α)
    (h : piece ∈ cs.splitOn c) : IsPiece c piece cs := by
  refine ⟨not_mem_of_mem_splitOn c cs piece h, ?_⟩
  induction hlength : cs.length using Nat.strong_induction_on generalizing cs with
  | _ n ih =>
      by_cases hc : c ∈ cs
      · rcases List.eq_append_cons_of_mem hc with ⟨first, rest, rfl, hfirst⟩
        rw [List.splitOn_append_cons_self_of_not_mem hfirst] at h
        rcases List.mem_cons.1 h with rfl | h
        · exact ⟨[], c :: rest, rfl, .inl rfl, .inr ⟨rest, rfl⟩⟩
        · have hshorter : rest.length < n := by
            rw [← hlength, List.length_append, List.length_cons]
            omega
          rcases ih rest.length hshorter rest h rfl with ⟨before, after, rfl, hbefore, hafter⟩
          refine ⟨first ++ c :: before, after, ?_, ?_, hafter⟩
          · rw [List.append_assoc, List.cons_append]
          · right
            rcases hbefore with rfl | ⟨b, rfl⟩
            · exact ⟨first, rfl⟩
            · exact ⟨first ++ c :: b, by rw [List.append_assoc, List.cons_append]⟩
      · rw [List.splitOn_eq_singleton hc, List.mem_singleton] at h
        exact ⟨[], [], by rw [h, List.append_nil, List.nil_append], .inl rfl, .inl rfl⟩

theorem mem_splitOn_iff [BEq α] [LawfulBEq α] {c : α} {piece cs : List α} :
    piece ∈ splitOn (· == c) cs ↔ IsPiece c piece cs := by
  rw [splitOn_beq]
  exact ⟨isPiece_of_mem_splitOn cs, mem_splitOn_of_isPiece⟩

-- A character other than a carriage return begins no line end.
theorem splitLines_cons (c : Char) (cs : List Char) (h : c ≠ '\r') :
    splitLines (c :: cs) = consFirst c (splitLines cs) := by
  rw [splitLines]
  exact fun _ hc _ => h hc

theorem splitLines_append (rest : List Char) :
    ∀ line : List Char, '\r' ∉ line →
      splitLines (line ++ '\r' :: '\n' :: rest) = line :: splitLines rest := by
  intro line
  induction line with
  | nil => exact fun _ => rfl
  | cons c cs ih =>
      intro h
      rw [List.mem_cons, not_or] at h
      rw [List.cons_append, splitLines_cons c _ (Ne.symm h.1), ih h.2]
      rfl

theorem splitLines_of_not_mem :
    ∀ line : List Char, '\r' ∉ line → splitLines line = [line] := by
  intro line
  induction line with
  | nil => exact fun _ => rfl
  | cons c cs ih =>
      intro h
      rw [List.mem_cons, not_or] at h
      rw [splitLines_cons c _ (Ne.symm h.1), ih h.2]
      rfl

end Text

end DemandNet
