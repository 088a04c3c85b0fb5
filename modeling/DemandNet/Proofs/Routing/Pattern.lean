import DemandNet.Routing.Pattern
import Mathlib.Tactic.Common

/-!
# What Patterns Describe

Reading a pattern, and matching it, against what the pattern means.

A pattern describes a text that comes apart into what its pieces take, one behind the
other. How much a piece prefers to take is not part of that: it only says which of several
ways to take the text apart the match finds. Where there is one way only, as with
templates, the match finds it or fails if there is none.

A piece is read back from its spelling when no sign of repetition follows. No spelling
begins with such a sign, so pieces can be written one behind the other.

## Main definitions

* `Piece.Takes`: What a piece may take.
* `Describes`: What a pattern means.
* `EndsPiece`: What may follow a piece.

## Theorems

* `match?_describes`, `match?_isSome`: A match is found only, and always, if there is one.
* `describes_append`: A text that two patterns describe one behind the other.
* `readPieces?_escape`: An escaped text is read as its characters.
-/

namespace DemandNet

namespace Routing

/-- The piece may take these characters. -/
def Piece.Takes (p : Piece) (taken : List Char) : Prop :=
  (∀ c ∈ taken, p.chars.has c = true) ∧
    match p.count with
    | .one => taken.length = 1
    | .oneOrMore => taken ≠ []
    | .zeroOrMore => True

/-- The text comes apart into what the pieces take, and this is captured. -/
inductive Describes : Pattern → List Char → Captures → Prop where
  | nil : Describes [] [] []
  | cons {p : Piece} {ps : Pattern} {taken rest : List Char} {captures : Captures}
      (htakes : p.Takes taken) (hrest : Describes ps rest captures) :
      Describes (p :: ps) (taken ++ rest) (p.capture taken ++ captures)

/-- A piece that takes one character and no other. -/
def Piece.literal (c : Char) : Piece := { name? := none, chars := .only c, count := .one }

/-- A text that does not repeat what stands before it. -/
def EndsPiece (cs : List Char) : Prop := cs.head? ≠ some '+' ∧ cs.head? ≠ some '*'

namespace Pattern

/-! ### Matching -/

section Taking

variable {β : Type} {next : List Char → Option β}

theorem takeMost_some (chars : CharClass) (cs : List Char) :
    ∀ (taken : List Char) (b : β), takeMost chars next cs = some (taken, b) →
      ∃ rest, cs = taken ++ rest ∧ (∀ c ∈ taken, chars.has c = true) ∧ next rest = some b := by
  induction cs with
  | nil =>
      intro taken b h
      rcases Option.map_eq_some_iff.1 h with ⟨b', hnext, heq⟩
      cases heq
      exact ⟨[], rfl, fun c hc => absurd hc List.not_mem_nil, hnext⟩
  | cons c cs ih =>
      intro taken b h
      have hless : (next (c :: cs)).map (fun b => (([] : List Char), b)) = some (taken, b) →
          ∃ rest, c :: cs = taken ++ rest ∧ (∀ c ∈ taken, chars.has c = true) ∧
            next rest = some b := fun hstop => by
        rcases Option.map_eq_some_iff.1 hstop with ⟨b', hnext, heq⟩
        cases heq
        exact ⟨c :: cs, rfl, fun d hd => absurd hd List.not_mem_nil, hnext⟩
      rw [takeMost] at h
      by_cases hc : chars.has c = true
      · rw [if_pos hc] at h
        cases hmost : takeMost chars next cs with
        | none =>
            rw [hmost] at h
            exact hless h
        | some r =>
            rw [hmost] at h
            cases h
            rcases ih r.1 r.2 hmost with ⟨rest, rfl, hin, hnext⟩
            exact ⟨rest, rfl, List.forall_mem_cons.2 ⟨hc, hin⟩, hnext⟩
      · rw [if_neg hc] at h
        exact hless h

theorem takeMost_isSome (chars : CharClass) (rest : List Char) (hnext : (next rest).isSome) :
    ∀ taken : List Char, (∀ c ∈ taken, chars.has c = true) →
      (takeMost chars next (taken ++ rest)).isSome := by
  intro taken
  induction taken with
  | nil =>
      intro _
      rw [List.nil_append]
      cases rest with
      | nil => rwa [takeMost, Option.isSome_map]
      | cons c cs =>
          rw [takeMost]
          split
          · rfl
          · rwa [Option.isSome_map]
  | cons c cs ih =>
      intro h
      rw [List.forall_mem_cons] at h
      rw [List.cons_append, takeMost, if_pos h.1]
      rcases Option.isSome_iff_exists.1 (ih h.2) with ⟨r, hr⟩
      rw [hr]
      rfl

theorem takeFirst_some (chars : CharClass) {more : List Char → Option (List Char × β)}
    (cs taken : List Char) (b : β) (h : takeFirst chars more cs = some (taken, b)) :
    ∃ c rest later, cs = c :: rest ∧ taken = c :: later ∧ chars.has c = true ∧
      more rest = some (later, b) := by
  cases cs with
  | nil => cases h
  | cons c rest =>
      rw [takeFirst] at h
      by_cases hc : chars.has c = true
      · rw [if_pos hc] at h
        rcases Option.map_eq_some_iff.1 h with ⟨⟨later, b'⟩, hmore, heq⟩
        cases heq
        exact ⟨c, rest, later, rfl, rfl, hc, hmore⟩
      · rw [if_neg hc] at h
        cases h

theorem takeFirst_isSome (chars : CharClass) {more : List Char → Option (List Char × β)}
    (c : Char) (rest : List Char) (hc : chars.has c = true) (hmore : (more rest).isSome) :
    (takeFirst chars more (c :: rest)).isSome := by
  rw [takeFirst, if_pos hc, Option.isSome_map]
  exact hmore

theorem takePiece_some (p : Piece) (cs taken : List Char) (b : β)
    (h : takePiece p next cs = some (taken, b)) :
    ∃ rest, cs = taken ++ rest ∧ p.Takes taken ∧ next rest = some b := by
  unfold takePiece at h
  unfold Piece.Takes
  cases hcount : p.count with
  | one =>
      rw [hcount] at h
      rcases takeFirst_some p.chars cs taken b h with ⟨c, rest, later, rfl, rfl, hc, hmore⟩
      rcases Option.map_eq_some_iff.1 hmore with ⟨b', hnext, heq⟩
      cases heq
      refine ⟨rest, rfl, ⟨fun d hd => ?_, rfl⟩, hnext⟩
      rw [List.mem_singleton.1 hd]
      exact hc
  | oneOrMore =>
      rw [hcount] at h
      rcases takeFirst_some p.chars cs taken b h with ⟨c, rest, later, rfl, rfl, hc, hmore⟩
      rcases takeMost_some p.chars rest later b hmore with ⟨left, rfl, hin, hnext⟩
      exact ⟨left, rfl, ⟨List.forall_mem_cons.2 ⟨hc, hin⟩, List.cons_ne_nil c later⟩, hnext⟩
  | zeroOrMore =>
      rw [hcount] at h
      rcases takeMost_some p.chars cs taken b h with ⟨rest, rfl, hin, hnext⟩
      exact ⟨rest, rfl, ⟨hin, trivial⟩, hnext⟩

theorem takePiece_isSome (p : Piece) (taken rest : List Char) (htakes : p.Takes taken)
    (hnext : (next rest).isSome) : (takePiece p next (taken ++ rest)).isSome := by
  unfold Piece.Takes at htakes
  unfold takePiece
  cases hcount : p.count with
  | one =>
      rw [hcount] at htakes
      rcases List.length_eq_one_iff.1 htakes.2 with ⟨c, rfl⟩
      refine takeFirst_isSome p.chars c rest (htakes.1 c List.mem_cons_self) ?_
      rwa [Option.isSome_map]
  | oneOrMore =>
      rw [hcount] at htakes
      rcases List.exists_cons_of_ne_nil htakes.2 with ⟨c, later, rfl⟩
      rcases List.forall_mem_cons.1 htakes.1 with ⟨hc, hin⟩
      exact takeFirst_isSome p.chars c _ hc (takeMost_isSome p.chars rest hnext later hin)
  | zeroOrMore =>
      rw [hcount] at htakes
      exact takeMost_isSome p.chars rest hnext taken htakes.1

end Taking

theorem match?_describes (ps : Pattern) :
    ∀ (cs : List Char) (captures : Captures), ps.match? cs = some captures →
      Describes ps cs captures := by
  induction ps with
  | nil =>
      intro cs captures h
      rw [match?] at h
      cases cs with
      | nil =>
          cases h
          exact .nil
      | cons c rest => cases h
  | cons p ps ih =>
      intro cs captures h
      rw [match?] at h
      rcases Option.map_eq_some_iff.1 h with ⟨⟨taken, later⟩, htake, heq⟩
      cases heq
      rcases takePiece_some p cs taken later htake with ⟨rest, rfl, htakes, hrest⟩
      exact .cons htakes (ih rest later hrest)

theorem match?_isSome {ps : Pattern} {cs : List Char} {captures : Captures}
    (h : Describes ps cs captures) : (ps.match? cs).isSome := by
  induction h with
  | nil => rfl
  | cons htakes _ ih =>
      rw [match?, Option.isSome_map]
      exact takePiece_isSome _ _ _ htakes ih

end Pattern

theorem describes_append {ps qs : Pattern} {cs : List Char} {captures : Captures} :
    Describes (ps ++ qs) cs captures ↔
      ∃ x y a b, cs = x ++ y ∧ captures = a ++ b ∧ Describes ps x a ∧ Describes qs y b := by
  constructor
  · induction ps generalizing cs captures with
    | nil => exact fun h => ⟨[], cs, [], captures, rfl, rfl, .nil, h⟩
    | cons p ps ih =>
        intro h
        cases h with
        | cons htakes hrest =>
            rcases ih hrest with ⟨x, y, a, b, rfl, rfl, hps, hqs⟩
            exact ⟨_ ++ x, y, _ ++ a, b, (List.append_assoc _ _ _).symm,
              (List.append_assoc _ _ _).symm, .cons htakes hps, hqs⟩
  · rintro ⟨x, y, a, b, rfl, rfl, hps, hqs⟩
    induction hps with
    | nil => exact hqs
    | cons htakes _ ih =>
        rw [List.append_assoc, List.append_assoc]
        exact .cons htakes ih

namespace Pattern

/-! ### Reading -/

theorem endsPiece_cons {c : Char} {cs : List Char} (hplus : c ≠ '+') (hstar : c ≠ '*') :
    EndsPiece (c :: cs) :=
  ⟨fun h => hplus (Option.some.inj h), fun h => hstar (Option.some.inj h)⟩

theorem readCount_of_ends {cs : List Char} (h : EndsPiece cs) : readCount cs = (.one, cs) := by
  unfold readCount
  split
  · exact absurd rfl h.1
  · exact absurd rfl h.2
  · rfl

theorem specials_of_operators {c : Char} (h : c ∈ operators) : c ∈ specials := by
  have hall : operators.all (· ∈ specials) = true := by decide
  exact of_decide_eq_true (List.all_eq_true.1 hall c h)

theorem readPieces?_of_piece {cs rest : List Char} {p : Piece}
    (h : readPiece? cs = some (p, rest)) :
    readPieces? cs = (readPieces? rest).map (p :: ·) := by
  have hend : cs ≠ ['$'] := by
    rintro rfl
    cases h
  rw [readPieces?, if_neg hend]
  split
  · rename_i hnone
    rw [h] at hnone
    cases hnone
  · rename_i p' rest' hsome
    rw [h] at hsome
    cases hsome
    rfl

theorem readPlain?_literal {c : Char} {cs rest : List Char}
    (hclass : readClass? cs = some (.only c, rest)) (hrest : EndsPiece rest) :
    readPlain? none cs = some (.literal c, rest) := by
  rw [readPlain?, hclass, Option.map_some]
  dsimp only
  rw [readCount_of_ends hrest]
  rfl

theorem readPiece?_special {c : Char} {rest : List Char} (hc : c ∈ specials)
    (hrest : EndsPiece rest) :
    readPiece? ('\\' :: c :: rest) = some (.literal c, rest) := by
  have hclass : readClass? ('\\' :: c :: rest) = some (.only c, rest) := by
    unfold readClass?
    exact if_pos hc
  exact readPlain?_literal hclass hrest

theorem readPiece?_plain {c : Char} {rest : List Char} (hc : c ∉ specials)
    (hrest : EndsPiece rest) : readPiece? (c :: rest) = some (.literal c, rest) := by
  have hother : ∀ d ∈ specials, c ≠ d := fun d hd heq => hc (heq ▸ hd)
  have hclass : readClass? (c :: rest) = some (.only c, rest) := by
    unfold readClass?
    split
    · rename_i heq
      exact absurd (List.cons.inj heq).1 (hother _ (by decide))
    · rename_i heq
      exact absurd (List.cons.inj heq).1 (hother _ (by decide))
    · rename_i heq
      exact absurd (List.cons.inj heq).1 (hother _ (by decide))
    · rename_i heq
      cases heq
      exact if_neg fun hoperator => hc (specials_of_operators hoperator)
    · rename_i heq
      cases heq
  have hplain : readPiece? (c :: rest) = readPlain? none (c :: rest) := by
    unfold readPiece?
    split
    · rename_i heq
      exact absurd (List.cons.inj heq).1 (hother _ (by decide))
    · rfl
  rw [hplain]
  exact readPlain?_literal hclass hrest

-- An escaped text repeats nothing that stands before it.
theorem endsPiece_escape (text rest : List Char) (h : EndsPiece rest) :
    EndsPiece (escape text ++ rest) := by
  cases text with
  | nil => exact h
  | cons c cs =>
      rw [escape, List.flatMap_cons]
      by_cases hc : c ∈ specials
      · rw [if_pos hc]
        exact endsPiece_cons (by decide) (by decide)
      · have hother : ∀ d ∈ specials, c ≠ d := fun d hd heq => hc (heq ▸ hd)
        rw [if_neg hc]
        exact endsPiece_cons (hother '+' (by decide)) (hother '*' (by decide))

theorem readPieces?_escape (rest : List Char) (h : EndsPiece rest) (text : List Char) :
    readPieces? (escape text ++ rest) =
      (readPieces? rest).map (text.map Piece.literal ++ ·) := by
  induction text with
  | nil => exact Option.map_id'.symm
  | cons c cs ih =>
      have hcons : escape (c :: cs) ++ rest =
          (if c ∈ specials then ['\\', c] else [c]) ++ (escape cs ++ rest) := by
        rw [escape, List.flatMap_cons, List.append_assoc]
        rfl
      have hends := endsPiece_escape cs rest h
      have hread : readPiece? (escape (c :: cs) ++ rest) =
          some (.literal c, escape cs ++ rest) := by
        rw [hcons]
        by_cases hc : c ∈ specials
        · rw [if_pos hc]
          exact readPiece?_special hc hends
        · rw [if_neg hc]
          exact readPiece?_plain hc hends
      rw [readPieces?_of_piece hread, ih, Option.map_map]
      rfl

-- A name ends where its closing sign is.
theorem readPiece?_named {name : List Char} (rest : List Char) (hname : isIdentifier name = true) :
    readPiece? ("(?P<".toList ++ name ++ ">[^/]+)".toList ++ rest) =
      some ({ name? := some name, chars := .except '/', count := .oneOrMore }, rest) := by
  have hall : ∀ c ∈ name, (c != '>') = true := by
    intro c hc
    rw [bne_iff_ne]
    rintro rfl
    cases name with
    | nil => cases hc
    | cons d ds =>
        rw [isIdentifier, Bool.and_eq_true] at hname
        rcases List.mem_cons.1 hc with rfl | hin
        · exact absurd hname.1 (by decide)
        · exact absurd (List.all_eq_true.1 hname.2 _ hin) (by decide)
  have htext : "(?P<".toList ++ name ++ ">[^/]+)".toList ++ rest =
      '(' :: '?' :: 'P' :: '<' :: (name ++ '>' :: ("[^/]+)".toList ++ rest)) := by
    simp
  have htake : (name ++ '>' :: ("[^/]+)".toList ++ rest)).takeWhile (· != '>') = name := by
    rw [List.takeWhile_append_of_pos hall, List.takeWhile_cons_of_neg (by decide),
      List.append_nil]
  have hdrop : (name ++ '>' :: ("[^/]+)".toList ++ rest)).dropWhile (· != '>') =
      '>' :: ("[^/]+)".toList ++ rest) := by
    rw [List.dropWhile_append_of_pos hall, List.dropWhile_cons_of_neg (by decide)]
  rw [htext, readPiece?, htake, hdrop, if_pos hname]
  rfl

end Pattern

end Routing

end DemandNet
