import DemandNet.Proofs.Routing.Pattern
import DemandNet.Proofs.Text.Split
import DemandNet.Routing.Template

/-!
# What Path Templates Match

A template matches a path whose segments line up with its own.

That is a statement about two lists of segments, and it knows nothing of patterns: a
segment that stands for itself faces its like, a name in braces or a star faces a segment
that is not empty, and two stars at the end face what is left, in one line. `LinesUp` says
so, together with what is captured.

The way there leads through the pattern. The spelling of the segments is read back as
their pieces, whatever characters the template holds, because what stands for itself is
escaped. The pieces of one segment describe what may face it, and none of it holds a slash,
so a text that the whole pattern describes comes apart at its slashes in one way only. The
captures of a path are then determined, and the match finds them.

A template that uses a name twice is refused as a pattern and is left to stand for itself.

## Main definitions

* `LinesUp`: The segments of a path face those of a template.
* `Segment.Fits`: What may face a segment.
* `Segment.pieces`, `Segment.pattern`: What the spelling of segments is read as.
* `fillIn`: A template with something in the place of its names and stars.

## Theorems

* `read?_spellings`: The pattern of a template is read, unless it uses a name twice.
* `describes_pattern_iff`: What the pattern of a template means.
* `match?_pattern_iff`: What it captures.
* `linesUp_fillIn`: What is filled in lines up with the template.
* `template_matches`: What a template captures from a path.
-/

namespace DemandNet

namespace Routing

/-- The segments of a path face those of a template, and this is captured. -/
inductive LinesUp : List (List Char) → List (List Char) → Captures → Prop where
  | nil : LinesUp [] [] []
  | capture {name value : List Char} {ts ss : List (List Char)} {captured : Captures}
      (hname : isIdentifier name = true) (hvalue : value ≠ []) (hrest : LinesUp ts ss captured) :
      LinesUp (('\x7b' :: name ++ ['\x7d']) :: ts) (value :: ss) ((name, value) :: captured)
  | anything {value : List Char} {ts ss : List (List Char)} {captured : Captures}
      (hvalue : value ≠ []) (hrest : LinesUp ts ss captured) :
      LinesUp (['*'] :: ts) (value :: ss) captured
  | remainder {ss : List (List Char)} (hne : ss ≠ []) (hline : ∀ s ∈ ss, '\n' ∉ s) :
      LinesUp [['*', '*']] ss []
  /-- Everything else stands for itself. -/
  | literal {text : List Char} {ts ss : List (List Char)} {captured : Captures}
      (hname : ∀ name, isIdentifier name = true → text ≠ '\x7b' :: name ++ ['\x7d'])
      (hstar : text ≠ ['*']) (hstars : text = ['*', '*'] → ts ≠ [])
      (hrest : LinesUp ts ss captured) : LinesUp (text :: ts) (text :: ss) captured

namespace Segment

/-- This may face the segment, and this is captured then. -/
def Fits : Segment → List Char → Captures → Prop
  | literal text, value, captured => value = text ∧ captured = []
  | capture name, value, captured => value ≠ [] ∧ captured = [(name, value)]
  | anything, value, captured => value ≠ [] ∧ captured = []
  | remainder, value, captured => '\n' ∉ value ∧ captured = []

/-- The pieces that a segment is turned into. -/
def pieces : Segment → Pattern
  | literal text => text.map Piece.literal
  | capture name => [{ name? := some name, chars := .except '/', count := .oneOrMore }]
  | anything => [{ name? := none, chars := .except '/', count := .oneOrMore }]
  | remainder => [{ name? := none, chars := .except '\n', count := .zeroOrMore }]

/-- The pattern that segments are turned into. -/
def pattern : List Segment → Pattern
  | [] => []
  | [s] => s.pieces
  | s :: rest => s.pieces ++ Piece.literal '/' :: pattern rest

/-! ### From segments to a pattern -/

theorem spellings_cons_cons (s r : Segment) (more : List Segment) :
    spellings (s :: r :: more) = s.spelling ++ '/' :: spellings (r :: more) := rfl

theorem pattern_cons (s : Segment) (rest : List Segment) (hne : rest ≠ []) :
    pattern (s :: rest) = s.pieces ++ Piece.literal '/' :: pattern rest := by
  rcases List.exists_cons_of_ne_nil hne with ⟨r, more, rfl⟩
  rfl

/-- The name that a segment captures, if any, is an identifier. -/
def IsNamed (s : Segment) : Prop := ∀ name, s.name? = some name → isIdentifier name = true

theorem readPieces?_spelling (s : Segment) (rest : List Char) (hs : s.IsNamed)
    (hrest : EndsPiece rest) :
    Pattern.readPieces? (s.spelling ++ rest) =
      (Pattern.readPieces? rest).map (s.pieces ++ ·) := by
  cases s with
  | literal text => exact Pattern.readPieces?_escape rest hrest text
  | capture name =>
      exact Pattern.readPieces?_of_piece (Pattern.readPiece?_named rest (hs name rfl))
  | anything | remainder => exact Pattern.readPieces?_of_piece rfl

theorem endsPiece_spelling (s : Segment) (rest : List Char) (hrest : EndsPiece rest) :
    EndsPiece (s.spelling ++ rest) := by
  cases s with
  | literal text => exact Pattern.endsPiece_escape text rest hrest
  | capture _ | anything | remainder =>
      exact Pattern.endsPiece_cons (by decide) (by decide)

theorem endsPiece_spellings (segments : List Segment) (rest : List Char) (hrest : EndsPiece rest) :
    EndsPiece (spellings segments ++ rest) := by
  cases segments with
  | nil => exact hrest
  | cons s more =>
      cases more with
      | nil => exact endsPiece_spelling s rest hrest
      | cons r more =>
          rw [spellings_cons_cons, List.append_assoc]
          exact endsPiece_spelling s _ (Pattern.endsPiece_cons (by decide) (by decide))

theorem readPieces?_spellings (segments : List Segment) (hs : ∀ s ∈ segments, s.IsNamed) :
    Pattern.readPieces? (spellings segments ++ ['$']) = some (pattern segments) := by
  have hend : EndsPiece ['$'] := Pattern.endsPiece_cons (by decide) (by decide)
  have hstop : Pattern.readPieces? ['$'] = some [] := by rw [Pattern.readPieces?, if_pos rfl]
  induction segments with
  | nil => exact hstop
  | cons s rest ih =>
      have hsn : s.IsNamed := hs s List.mem_cons_self
      have hrest := ih fun r hr => hs r (List.mem_cons_of_mem _ hr)
      cases rest with
      | nil =>
          rw [spellings, readPieces?_spelling s _ hsn hend, hstop, Option.map_some,
            List.append_nil]
          rfl
      | cons r more =>
          have hslash : EndsPiece ('/' :: (spellings (r :: more) ++ ['$'])) :=
            Pattern.endsPiece_cons (by decide) (by decide)
          have hread : Pattern.readPieces? ('/' :: (spellings (r :: more) ++ ['$'])) =
              some (Piece.literal '/' :: pattern (r :: more)) := by
            have hpiece := Pattern.readPiece?_plain (c := '/') (by decide)
              (endsPiece_spellings (r :: more) ['$'] hend)
            rw [Pattern.readPieces?_of_piece hpiece, hrest, Option.map_some]
          rw [spellings_cons_cons, List.append_assoc, List.cons_append,
            readPieces?_spelling s _ hsn hslash, hread, Option.map_some]
          rfl

theorem names_literals (text : List Char) : Pattern.names (text.map Piece.literal) = [] := by
  rw [Pattern.names, List.filterMap_map, List.filterMap_eq_nil_iff]
  exact fun _ _ => rfl

theorem names_pieces (s : Segment) : Pattern.names s.pieces = s.name?.toList := by
  cases s with
  | literal text => exact names_literals text
  | capture _ | anything | remainder => rfl

theorem names_pattern (segments : List Segment) :
    Pattern.names (pattern segments) = segments.filterMap name? := by
  have happend : ∀ ps qs : Pattern,
      Pattern.names (ps ++ qs) = Pattern.names ps ++ Pattern.names qs :=
    fun ps qs => List.filterMap_append
  induction segments with
  | nil => rfl
  | cons s rest ih =>
      have hfirst : (s :: rest).filterMap name? = s.name?.toList ++ rest.filterMap name? := by
        cases hs : s.name? with
        | none => rw [List.filterMap_cons_none hs]; rfl
        | some name => rw [List.filterMap_cons_some hs]; rfl
      rw [hfirst, ← names_pieces]
      cases rest with
      | nil => exact (List.append_nil _).symm
      | cons r more =>
          rw [← ih, pattern_cons _ _ (List.cons_ne_nil r more), happend]
          rfl

theorem read?_spellings (segments : List Segment) (hs : ∀ s ∈ segments, s.IsNamed) :
    Pattern.read? ('^' :: spellings segments ++ ['$']) =
      if (segments.filterMap name?).Nodup then some (pattern segments) else none := by
  rw [← names_pattern, List.cons_append, Pattern.read?, readPieces?_spellings segments hs]

/-! ### From a pattern to segments -/

theorem describes_single {p : Piece} {cs : List Char} {captures : Captures} :
    Describes [p] cs captures ↔ p.Takes cs ∧ captures = p.capture cs := by
  constructor
  · intro h
    cases h with
    | cons htakes hrest =>
        cases hrest
        rw [List.append_nil, List.append_nil]
        exact ⟨htakes, rfl⟩
  · rintro ⟨htakes, rfl⟩
    have h := Describes.cons htakes Describes.nil
    rwa [List.append_nil, List.append_nil] at h

theorem takes_literal_iff (c : Char) (taken : List Char) :
    (Piece.literal c).Takes taken ↔ taken = [c] := by
  constructor
  · rintro ⟨hin, hone⟩
    rcases List.length_eq_one_iff.1 hone with ⟨d, rfl⟩
    rw [beq_iff_eq.1 (hin d List.mem_cons_self)]
  · rintro rfl
    exact ⟨fun d hd => beq_iff_eq.2 (List.mem_singleton.1 hd), rfl⟩

theorem describes_literals_iff (text cs : List Char) (captures : Captures) :
    Describes (text.map Piece.literal) cs captures ↔ cs = text ∧ captures = [] := by
  induction text generalizing cs captures with
  | nil =>
      constructor
      · intro h
        cases h
        exact ⟨rfl, rfl⟩
      · rintro ⟨rfl, rfl⟩
        exact .nil
  | cons c rest ih =>
      constructor
      · intro h
        cases h with
        | cons htakes hrest =>
            rcases (ih _ _).1 hrest with ⟨rfl, rfl⟩
            rw [(takes_literal_iff c _).1 htakes]
            exact ⟨rfl, rfl⟩
      · rintro ⟨rfl, rfl⟩
        have htakes := (takes_literal_iff c [c]).2 rfl
        exact .cons htakes ((ih rest []).2 ⟨rfl, rfl⟩)

theorem except_iff (c : Char) (cs : List Char) :
    (∀ d ∈ cs, (CharClass.except c).has d = true) ↔ c ∉ cs := by
  constructor
  · exact fun h hc => absurd (h c hc) (by simp [CharClass.has])
  · exact fun h d hd => bne_iff_ne.2 fun heq => h (heq ▸ hd)

/-- The segment does not stand for a slash, nor for what is left of a path. -/
def IsProper : Segment → Prop
  | literal text => '/' ∉ text
  | remainder => False
  | _ => True

-- What a segment may face holds no slash. Only two stars at the end go beyond one.
theorem describes_pieces_iff (s : Segment) (hs : s.IsProper) (cs : List Char)
    (captures : Captures) :
    Describes s.pieces cs captures ↔ s.Fits cs captures ∧ '/' ∉ cs := by
  cases s with
  | literal text =>
      rw [pieces, describes_literals_iff]
      exact ⟨fun h => ⟨h, h.1 ▸ hs⟩, fun h => h.1⟩
  | capture name | anything =>
      rw [pieces, describes_single, Piece.Takes, except_iff]
      exact ⟨fun h => ⟨⟨h.1.2, h.2⟩, h.1.1⟩, fun h => ⟨⟨h.2, h.1.1⟩, h.1.2⟩⟩
  | remainder => exact hs.elim

theorem describes_remainder_iff (cs : List Char) (captures : Captures) :
    Describes remainder.pieces cs captures ↔ remainder.Fits cs captures := by
  rw [pieces, describes_single, Piece.Takes, except_iff]
  exact ⟨fun h => ⟨h.1.1, h.2⟩, fun h => ⟨⟨h.1, trivial⟩, h.2⟩⟩

theorem describes_slash_iff (s : Segment) (hs : s.IsProper) (ps : Pattern) (cs : List Char)
    (captures : Captures) :
    Describes (s.pieces ++ Piece.literal '/' :: ps) cs captures ↔
      ∃ value rest a b, cs = value ++ '/' :: rest ∧ captures = a ++ b ∧ '/' ∉ value ∧
        s.Fits value a ∧ Describes ps rest b := by
  rw [describes_append]
  constructor
  · rintro ⟨value, y, a, b, rfl, rfl, hfirst, hrest⟩
    rcases (describes_pieces_iff s hs value a).1 hfirst with ⟨hfits, hslash⟩
    cases hrest with
    | cons htakes hrest =>
        rw [(takes_literal_iff '/' _).1 htakes]
        exact ⟨value, _, a, _, rfl, rfl, hslash, hfits, hrest⟩
  · rintro ⟨value, rest, a, b, rfl, rfl, hslash, hfits, hrest⟩
    refine ⟨value, '/' :: rest, a, b, rfl, rfl,
      (describes_pieces_iff s hs value a).2 ⟨hfits, hslash⟩, ?_⟩
    have htakes := (takes_literal_iff '/' ['/']).2 rfl
    exact .cons htakes hrest

end Segment

/-! ### Segments of a template -/

theorem captureName?_eq_some_iff (text name : List Char) :
    captureName? text = some name ↔
      isIdentifier name = true ∧ text = '\x7b' :: name ++ ['\x7d'] := by
  constructor
  · intro h
    unfold captureName? at h
    split at h
    · rename_i rest
      split at h
      · rename_i hname
        cases h
        refine ⟨hname.2, ?_⟩
        rw [List.cons_append, List.dropLast_append_getLast? _ hname.1]
      · cases h
    · cases h
  · rintro ⟨hname, rfl⟩
    have hlast : (name ++ ['\x7d']).getLast? = some '\x7d' := List.getLast?_concat
    have hfirst : (name ++ ['\x7d']).dropLast = name := List.dropLast_concat
    rw [List.cons_append, captureName?, hlast, hfirst]
    exact if_pos ⟨rfl, hname⟩

theorem captureName?_eq_none {text : List Char}
    (h : ∀ name, isIdentifier name = true → text ≠ '\x7b' :: name ++ ['\x7d']) :
    captureName? text = none := by
  rw [Option.eq_none_iff_forall_not_mem]
  intro name hsome
  rcases (captureName?_eq_some_iff text name).1 hsome with ⟨hname, htext⟩
  exact h name hname htext

namespace Segment

theorem ofTexts_cons (t : List Char) (ts : List (List Char)) :
    ofTexts (t :: ts) = ofText ts.isEmpty t :: ofTexts ts := by
  cases ts <;> rfl

theorem name?_ofText (isLast : Bool) (t : List Char) :
    (ofText isLast t).name? = captureName? t := by
  unfold ofText
  cases captureName? t with
  | some name => rfl
  | none =>
      dsimp only
      split_ifs <;> rfl

theorem isNamed_ofText (isLast : Bool) (t : List Char) : (ofText isLast t).IsNamed := by
  intro name hname
  rw [name?_ofText] at hname
  exact ((captureName?_eq_some_iff t name).1 hname).1

theorem isNamed_ofTexts (ts : List (List Char)) : ∀ s ∈ ofTexts ts, s.IsNamed := by
  induction ts with
  | nil => exact fun s hs => absurd hs List.not_mem_nil
  | cons t rest ih =>
      rw [ofTexts_cons]
      exact List.forall_mem_cons.2 ⟨isNamed_ofText rest.isEmpty t, ih⟩

theorem names_ofTexts (ts : List (List Char)) :
    (ofTexts ts).filterMap name? = ts.filterMap captureName? := by
  induction ts with
  | nil => rfl
  | cons t rest ih =>
      rw [ofTexts_cons]
      cases hname : captureName? t with
      | none =>
          rw [List.filterMap_cons_none hname,
            List.filterMap_cons_none ((name?_ofText _ t).trans hname), ih]
      | some name =>
          rw [List.filterMap_cons_some hname,
            List.filterMap_cons_some ((name?_ofText _ t).trans hname), ih]

/-- The four things that a segment of a template can be. -/
inductive Kind (isLast : Bool) (text : List Char) : Segment → Prop where
  | capture (name : List Char) (hname : isIdentifier name = true)
      (htext : text = '\x7b' :: name ++ ['\x7d']) : Kind isLast text (.capture name)
  | remainder (htext : text = ['*', '*']) (hlast : isLast = true) : Kind isLast text .remainder
  | anything (htext : text = ['*']) : Kind isLast text .anything
  | literal (hname : ∀ name, isIdentifier name = true → text ≠ '\x7b' :: name ++ ['\x7d'])
      (hstar : text ≠ ['*']) (hstars : text = ['*', '*'] → isLast = false) :
      Kind isLast text (.literal text)

theorem ofText_kind (isLast : Bool) (text : List Char) : Kind isLast text (ofText isLast text) := by
  unfold ofText
  cases hcapture : captureName? text with
  | some name =>
      rcases (captureName?_eq_some_iff text name).1 hcapture with ⟨hname, htext⟩
      exact .capture name hname htext
  | none =>
      have hname : ∀ name, isIdentifier name = true → text ≠ '\x7b' :: name ++ ['\x7d'] := by
        intro name hname htext
        rw [(captureName?_eq_some_iff text name).2 ⟨hname, htext⟩] at hcapture
        cases hcapture
      dsimp only
      split_ifs with hstars hstar
      · exact .remainder hstars.1 hstars.2
      · exact .anything hstar
      · refine .literal hname hstar fun htext => ?_
        rw [Bool.eq_false_iff]
        exact fun hlast => hstars ⟨htext, hlast⟩

theorem ofText_eq_of_kind {isLast : Bool} {text : List Char} {s : Segment}
    (h : Kind isLast text s) : ofText isLast text = s := by
  unfold ofText
  cases h with
  | capture name hname htext => rw [(captureName?_eq_some_iff text name).2 ⟨hname, htext⟩]
  | remainder htext hlast =>
      subst htext
      exact if_pos ⟨rfl, hlast⟩
  | anything htext =>
      subst htext
      rfl
  | literal hname hstar hstars =>
      rw [captureName?_eq_none hname]
      dsimp only
      rw [if_neg fun h => Bool.eq_false_iff.1 (hstars h.1) h.2, if_neg hstar]

theorem fits_unique {s : Segment} {value : List Char} {a b : Captures} (ha : s.Fits value a)
    (hb : s.Fits value b) : a = b := by
  cases s <;> exact ha.2.trans hb.2.symm

theorem isProper_ofText (isLast : Bool) {text : List Char} (hslash : '/' ∉ text)
    (h : ofText isLast text ≠ remainder) : (ofText isLast text).IsProper := by
  have hkind := ofText_kind isLast text
  generalize ofText isLast text = s at hkind h
  cases hkind with
  | capture _ _ _ | anything _ => trivial
  | remainder _ _ => exact absurd rfl h
  | literal _ _ _ => exact hslash

end Segment

theorem LinesUp.ne_nil {t : List Char} {ts ss : List (List Char)} {captures : Captures}
    (h : LinesUp (t :: ts) ss captures) : ss ≠ [] := by
  cases h with
  | capture _ _ _ | anything _ _ | literal _ _ _ _ => exact List.cons_ne_nil _ _
  | remainder hne _ => exact hne

-- One segment of a template, whatever it is, and those behind it.
theorem linesUp_cons_iff (t : List Char) (ts ss : List (List Char)) (captures : Captures)
    (hproper : Segment.ofText ts.isEmpty t ≠ .remainder) :
    LinesUp (t :: ts) ss captures ↔
      ∃ value rest a b, ss = value :: rest ∧ captures = a ++ b ∧
        (Segment.ofText ts.isEmpty t).Fits value a ∧ LinesUp ts rest b := by
  constructor
  · intro h
    cases h with
    | capture hname hvalue hrest =>
        rw [Segment.ofText_eq_of_kind (.capture _ hname rfl)]
        exact ⟨_, _, [_], _, rfl, rfl, ⟨hvalue, rfl⟩, hrest⟩
    | anything hvalue hrest =>
        rw [Segment.ofText_eq_of_kind (.anything rfl)]
        exact ⟨_, _, [], _, rfl, rfl, ⟨hvalue, rfl⟩, hrest⟩
    | remainder _ _ => exact absurd (Segment.ofText_eq_of_kind (.remainder rfl rfl)) hproper
    | literal hname hstar hstars hrest =>
        rw [Segment.ofText_eq_of_kind (.literal hname hstar fun htext =>
          List.isEmpty_eq_false_iff.2 (hstars htext))]
        exact ⟨_, _, [], _, rfl, rfl, ⟨rfl, rfl⟩, hrest⟩
  · have hkind := Segment.ofText_kind ts.isEmpty t
    generalize Segment.ofText ts.isEmpty t = s at hkind hproper ⊢
    rintro ⟨value, rest, a, b, rfl, rfl, hfits, hrest⟩
    cases hkind with
    | capture name hname htext =>
        rcases hfits with ⟨hvalue, rfl⟩
        rw [htext]
        exact .capture hname hvalue hrest
    | remainder _ _ => exact absurd rfl hproper
    | anything htext =>
        rcases hfits with ⟨hvalue, rfl⟩
        rw [htext]
        exact .anything hvalue hrest
    | literal hname hstar hstars =>
        rcases hfits with ⟨rfl, rfl⟩
        refine .literal hname hstar (fun htext => ?_) hrest
        exact List.isEmpty_eq_false_iff.1 (hstars htext)

-- Two stars at the end.
theorem linesUp_remainder_iff (t : List Char) (ts ss : List (List Char)) (captures : Captures)
    (h : Segment.ofText ts.isEmpty t = .remainder) :
    ts = [] ∧ (LinesUp (t :: ts) ss captures ↔
      ss ≠ [] ∧ (∀ s ∈ ss, '\n' ∉ s) ∧ captures = []) := by
  have hkind := Segment.ofText_kind ts.isEmpty t
  rw [h] at hkind
  cases hkind with
  | remainder htext hlast =>
      subst htext
      have hts : ts = [] := List.isEmpty_iff.1 hlast
      subst hts
      refine ⟨rfl, fun h => ?_, fun h => ?_⟩
      · cases h with
        | remainder hne hline => exact ⟨hne, hline, rfl⟩
        | literal _ _ hstars _ => exact absurd rfl (hstars rfl)
      · rw [h.2.2]
        exact .remainder h.1 h.2.1

/-! ### Paths and their segments -/

theorem splitOn_append_slash {value : List Char} (h : '/' ∉ value) (rest : List Char) :
    (value ++ '/' :: rest).splitOn '/' = value :: rest.splitOn '/' := by
  rw [List.splitOn_append_cons_self, List.splitOn_eq_singleton h]
  rfl

theorem splitOn_intercalate_cons {value : List Char} (h : '/' ∉ value) (ss : List (List Char)) :
    (['/'].intercalate (value :: ss)).splitOn '/' =
      value :: if ss = [] then [] else (['/'].intercalate ss).splitOn '/' := by
  cases ss with
  | nil => rw [List.intercalate_singleton, List.splitOn_eq_singleton h, if_pos rfl]
  | cons s more =>
      rw [List.intercalate_cons_cons, List.append_assoc, List.singleton_append,
        splitOn_append_slash h, if_neg (List.cons_ne_nil s more)]

theorem exists_of_splitOn {cs value : List Char} {ss : List (List Char)}
    (h : cs.splitOn '/' = value :: ss) (hss : ss ≠ []) :
    ∃ rest, cs = value ++ '/' :: rest ∧ '/' ∉ value ∧ rest.splitOn '/' = ss := by
  have hslash := Text.not_mem_of_mem_splitOn '/' cs
  rw [h, List.forall_mem_cons] at hslash
  refine ⟨['/'].intercalate ss, ?_, hslash.1, List.splitOn_intercalate '/' hslash.2 hss⟩
  rcases List.exists_cons_of_ne_nil hss with ⟨s, more, rfl⟩
  have hjoin : ['/'].intercalate (cs.splitOn '/') = cs := List.intercalate_splitOn '/'
  rw [h, List.intercalate_cons_cons, List.append_assoc] at hjoin
  exact hjoin.symm

theorem not_mem_intercalate {c : Char} (hc : c ≠ '/') (ss : List (List Char)) :
    c ∉ ['/'].intercalate ss ↔ ∀ s ∈ ss, c ∉ s := by
  induction ss with
  | nil => simp
  | cons s rest ih =>
      cases rest with
      | nil => simp
      | cons r more =>
          rw [List.intercalate_cons_cons, List.forall_mem_cons, ← ih]
          simp only [List.mem_append, List.mem_singleton, hc, or_false, not_or]

theorem not_mem_splitOn_iff {c : Char} (hc : c ≠ '/') (cs : List Char) :
    (∀ s ∈ cs.splitOn '/', c ∉ s) ↔ c ∉ cs := by
  rw [← not_mem_intercalate hc, List.intercalate_splitOn]

-- Cut at its slashes, a text that the pattern of a template describes lines up with it.
theorem describes_pattern_iff (ts : List (List Char)) :
    ts ≠ [] → (∀ t ∈ ts, '/' ∉ t) → ∀ (cs : List Char) (captures : Captures),
      Describes (Segment.pattern (Segment.ofTexts ts)) cs captures ↔
        LinesUp ts (cs.splitOn '/') captures := by
  induction ts with
  | nil => exact fun hne => absurd rfl hne
  | cons t ts ih =>
      intro _ hslash cs captures
      rw [List.forall_mem_cons] at hslash
      rw [Segment.ofTexts_cons]
      by_cases hremainder : Segment.ofText ts.isEmpty t = .remainder
      · rcases linesUp_remainder_iff t ts (cs.splitOn '/') captures hremainder with ⟨rfl, hlines⟩
        rw [hlines, hremainder, not_mem_splitOn_iff (by decide)]
        change Describes Segment.remainder.pieces cs captures ↔ _
        rw [Segment.describes_remainder_iff]
        exact ⟨fun h => ⟨List.splitOn_ne_nil _ _, h⟩, fun h => h.2⟩
      · have hproper := Segment.isProper_ofText ts.isEmpty hslash.1 hremainder
        rw [linesUp_cons_iff t ts _ _ hremainder]
        generalize Segment.ofText ts.isEmpty t = s at hproper
        cases ts with
        | nil =>
            change Describes s.pieces cs captures ↔ _
            rw [Segment.describes_pieces_iff s hproper]
            constructor
            · rintro ⟨hfits, hnone⟩
              exact ⟨cs, [], captures, [], List.splitOn_eq_singleton hnone,
                (List.append_nil _).symm, hfits, .nil⟩
            · rintro ⟨value, rest, a, b, hsplit, rfl, hfits, hrest⟩
              cases hrest
              have hcs : ['/'].intercalate (cs.splitOn '/') = cs := List.intercalate_splitOn '/'
              have hnone := Text.not_mem_of_mem_splitOn '/' cs value
              rw [hsplit] at hcs hnone
              rw [List.append_nil, ← hcs, List.intercalate_singleton]
              exact ⟨hfits, hnone List.mem_cons_self⟩
        | cons u more =>
            rw [Segment.pattern_cons _ _ (by rw [Segment.ofTexts_cons]; exact List.cons_ne_nil _ _),
              Segment.describes_slash_iff s hproper]
            have hmore := ih (List.cons_ne_nil u more) hslash.2
            constructor
            · rintro ⟨value, rest, a, b, rfl, rfl, hnone, hfits, hrest⟩
              exact ⟨value, _, a, b, splitOn_append_slash hnone rest, rfl, hfits,
                (hmore rest b).1 hrest⟩
            · rintro ⟨value, ss, a, b, hsplit, rfl, hfits, hrest⟩
              have hss : ss ≠ [] := hrest.ne_nil
              rcases exists_of_splitOn hsplit hss with ⟨rest, rfl, hnone, rfl⟩
              exact ⟨value, rest, a, b, rfl, rfl, hnone, hfits, (hmore rest b).2 hrest⟩

-- A path faces a template in one way only.
theorem LinesUp.unique (ts : List (List Char)) :
    ∀ (ss : List (List Char)) (a b : Captures), LinesUp ts ss a → LinesUp ts ss b → a = b := by
  induction ts with
  | nil =>
      intro ss a b ha hb
      cases ha
      cases hb
      rfl
  | cons t ts ih =>
      intro ss a b ha hb
      by_cases hremainder : Segment.ofText ts.isEmpty t = .remainder
      · have ha := (linesUp_remainder_iff t ts ss a hremainder).2.1 ha
        have hb := (linesUp_remainder_iff t ts ss b hremainder).2.1 hb
        rw [ha.2.2, hb.2.2]
      · rcases (linesUp_cons_iff t ts ss a hremainder).1 ha with
          ⟨value, rest, a₁, a₂, rfl, rfl, hfits, hrest⟩
        rcases (linesUp_cons_iff t ts _ b hremainder).1 hb with
          ⟨value', rest', b₁, b₂, hss, rfl, hfits', hrest'⟩
        cases hss
        rw [Segment.fits_unique hfits hfits', ih rest a₂ b₂ hrest hrest']

theorem LinesUp.names_eq {ts ss : List (List Char)} {captures : Captures}
    (h : LinesUp ts ss captures) : captures.map Prod.fst = ts.filterMap captureName? := by
  induction h with
  | nil => rfl
  | capture hname _ _ ih =>
      rw [List.filterMap_cons_some ((captureName?_eq_some_iff _ _).2 ⟨hname, rfl⟩), ← ih]
      rfl
  | anything _ _ ih => exact ih
  | remainder _ _ => rfl
  | literal hname _ _ _ ih => rw [List.filterMap_cons_none (captureName?_eq_none hname), ih]

-- The match prefers some ways of taking a text apart to others, but there is only one.
theorem match?_pattern_iff (ts : List (List Char)) (hne : ts ≠ []) (hslash : ∀ t ∈ ts, '/' ∉ t)
    (cs : List Char) (captures : Captures) :
    (Segment.pattern (Segment.ofTexts ts)).match? cs = some captures ↔
      LinesUp ts (cs.splitOn '/') captures := by
  have hiff := describes_pattern_iff ts hne hslash cs
  constructor
  · exact fun h => (hiff captures).1 (Pattern.match?_describes _ cs captures h)
  · intro h
    rcases Option.isSome_iff_exists.1 (Pattern.match?_isSome ((hiff captures).2 h)) with
      ⟨found, hfound⟩
    have hlines := (hiff found).1 (Pattern.match?_describes _ cs found hfound)
    rw [hfound, LinesUp.unique ts _ _ _ hlines h]

theorem linesUp_literals (ts : List (List Char)) :
    (Segment.ofTexts ts).all Segment.isLiteral = true →
    ∀ (ss : List (List Char)) (captures : Captures),
      LinesUp ts ss captures ↔ ss = ts ∧ captures = [] := by
  induction ts with
  | nil =>
      intro _ ss captures
      constructor
      · intro h
        cases h
        exact ⟨rfl, rfl⟩
      · rintro ⟨rfl, rfl⟩
        exact .nil
  | cons t ts ih =>
      intro hall ss captures
      rw [Segment.ofTexts_cons, List.all_cons, Bool.and_eq_true] at hall
      have hkind := Segment.ofText_kind ts.isEmpty t
      have hcons := linesUp_cons_iff t ts ss captures
      generalize Segment.ofText ts.isEmpty t = s at hkind hcons hall
      cases hkind with
      | capture _ _ _ | remainder _ _ | anything _ => cases hall.1
      | literal _ _ _ =>
          rw [hcons (by rintro ⟨⟩)]
          constructor
          · rintro ⟨value, rest, a, b, rfl, rfl, hfits, hrest⟩
            rcases (ih hall.2 rest b).1 hrest with ⟨rfl, rfl⟩
            rw [hfits.1, hfits.2]
            exact ⟨rfl, rfl⟩
          · rintro ⟨rfl, rfl⟩
            exact ⟨t, ts, [], [], rfl, rfl, ⟨rfl, rfl⟩, (ih hall.2 ts []).2 ⟨rfl, rfl⟩⟩

/-! ### Templates -/

/-- Captured texts as parameters. -/
def Captures.toParams (captures : Captures) : Params :=
  captures.map fun f => (String.ofList f.1, String.ofList f.2)

theorem pieces_eq (text : String) :
    Text.splitOn (· == '/') text.toList = text.toList.splitOn '/' := by
  rw [Text.splitOn_beq]

theorem splitOn_inj {text text' : String}
    (h : text.toList.splitOn '/' = text'.toList.splitOn '/') : text = text' := by
  have hjoin : ['/'].intercalate (text.toList.splitOn '/') = text.toList :=
    List.intercalate_splitOn '/'
  rw [h, List.intercalate_splitOn] at hjoin
  exact String.toList_inj.1 hjoin.symm

theorem lookup_of_mem {captures : Captures} (hnodup : (captures.map Prod.fst).Nodup) :
    ∀ f ∈ captures, captures.lookup f.1 = some f.2 := by
  induction captures with
  | nil => exact fun f hf => absurd hf List.not_mem_nil
  | cons g rest ih =>
      rw [List.map_cons, List.nodup_cons] at hnodup
      intro f hf
      rcases List.mem_cons.1 hf with rfl | hin
      · exact List.lookup_cons_self
      · have hother : (f.1 == g.1) = false :=
          beq_false_of_ne fun heq => hnodup.1 (heq ▸ List.mem_map_of_mem hin)
        rw [List.lookup_cons, hother]
        exact ih hnodup.2 f hin

-- Every name is looked up once, and found.
theorem toParams_eq {captures : Captures} (hnodup : (captures.map Prod.fst).Nodup) :
    ((captures.map Prod.fst).filterMap fun name =>
      (captures.lookup name).map fun value => (String.ofList name, String.ofList value)) =
      captures.toParams := by
  rw [List.filterMap_map]
  have hfound : captures.filterMap ((fun name =>
      (captures.lookup name).map fun value => (String.ofList name, String.ofList value)) ∘
        Prod.fst) =
      captures.filterMap (some ∘ fun f => (String.ofList f.1, String.ofList f.2)) :=
    List.filterMap_congr fun f hf => by
      rw [Function.comp_apply, lookup_of_mem hnodup f hf]
      rfl
  rw [hfound, List.filterMap_eq_map]
  rfl

theorem ofText_literal (raw : String)
    (h : (Segment.ofTexts (raw.toList.splitOn '/')).all Segment.isLiteral = true) :
    PathTemplate.ofText raw = { raw, pattern? := none, names := [] } := by
  unfold PathTemplate.ofText
  rw [pieces_eq]
  exact if_pos h

theorem ofText_dynamic (raw : String)
    (h : (Segment.ofTexts (raw.toList.splitOn '/')).all Segment.isLiteral = false) :
    PathTemplate.ofText raw =
      if ((raw.toList.splitOn '/').filterMap captureName?).Nodup then
        { raw, pattern? := some (Segment.pattern (Segment.ofTexts (raw.toList.splitOn '/')))
          names := (raw.toList.splitOn '/').filterMap captureName? }
      else { raw, pattern? := none, names := [] } := by
  have hread := Segment.read?_spellings (Segment.ofTexts (raw.toList.splitOn '/'))
    (Segment.isNamed_ofTexts _)
  rw [Segment.names_ofTexts] at hread
  unfold PathTemplate.ofText
  rw [pieces_eq]
  dsimp only
  rw [h, if_neg Bool.false_ne_true, hread, Segment.names_ofTexts]
  split_ifs <;> rfl

theorem match?_of_no_pattern (raw path : String) (params : Params) :
    PathTemplate.match? { raw, pattern? := none, names := [] } path = some params ↔
      path = raw ∧ params = [] := by
  change (if path = raw then some ([] : Params) else none) = some params ↔ _
  by_cases hpath : path = raw
  · rw [if_pos hpath, Option.some.injEq]
    exact ⟨fun h => ⟨hpath, h.symm⟩, fun h => h.2.symm⟩
  · rw [if_neg hpath]
    exact ⟨(nomatch ·), fun h => absurd h.1 hpath⟩

-- Without names and stars the template is compared as a whole, which is the same as
-- comparing it segment by segment.
theorem match?_iff (raw path : String) (params : Params)
    (hnodup : ((raw.toList.splitOn '/').filterMap captureName?).Nodup) :
    (PathTemplate.ofText raw).match? path = some params ↔
      ∃ captured, LinesUp (raw.toList.splitOn '/') (path.toList.splitOn '/') captured ∧
        params = captured.toParams := by
  cases hall : (Segment.ofTexts (raw.toList.splitOn '/')).all Segment.isLiteral with
  | true =>
      rw [ofText_literal raw hall, match?_of_no_pattern]
      constructor
      · rintro ⟨rfl, rfl⟩
        exact ⟨[], (linesUp_literals _ hall _ []).2 ⟨rfl, rfl⟩, rfl⟩
      · rintro ⟨captured, hlines, rfl⟩
        rcases (linesUp_literals _ hall _ captured).1 hlines with ⟨hsame, rfl⟩
        exact ⟨splitOn_inj hsame, rfl⟩
  | false =>
      have hmatch := match?_pattern_iff (raw.toList.splitOn '/') (List.splitOn_ne_nil _ _)
        (Text.not_mem_of_mem_splitOn '/' _) path.toList
      rw [ofText_dynamic raw hall, if_pos hnodup]
      constructor
      · intro h
        rcases Option.map_eq_some_iff.1 h with ⟨captured, hfound, rfl⟩
        have hlines := (hmatch captured).1 hfound
        rw [← hlines.names_eq] at hnodup ⊢
        exact ⟨captured, hlines, toParams_eq hnodup⟩
      · rintro ⟨captured, hlines, rfl⟩
        rw [← hlines.names_eq] at hnodup ⊢
        exact Option.map_eq_some_iff.2 ⟨captured, (hmatch captured).2 hlines, toParams_eq hnodup⟩

/-- What is put in the place of a segment: a value in the place of a name, and one text
    each in the place of a star and of two stars. -/
def Segment.fill (value : List Char → List Char) (star stars : List Char) : Segment → List Char
  | literal text => text
  | capture name => value name
  | anything => star
  | remainder => stars

/-- A template with something in the place of each segment. A star is told from the others
    by how many segments are behind it. -/
def fillIn (value : List Char → List Char) (star : Nat → List Char) (stars : List Char) :
    List (List Char) → List (List Char)
  | [] => []
  | t :: ts =>
      (Segment.ofText ts.isEmpty t).fill value (star ts.length) stars ::
        fillIn value star stars ts

section Filling

variable {value : List Char → List Char} {star : Nat → List Char} {stars : List Char}

theorem Segment.fits_fill (s : Segment) (hs : s.IsProper) (k : Nat)
    (hvalue : ∀ name ∈ s.name?.toList, value name ≠ [] ∧ '/' ∉ value name)
    (hstar : star k ≠ [] ∧ '/' ∉ star k) :
    s.Fits (s.fill value (star k) stars) (s.name?.toList.map fun name => (name, value name)) ∧
      '/' ∉ s.fill value (star k) stars := by
  cases s with
  | literal text => exact ⟨⟨rfl, rfl⟩, hs⟩
  | capture name =>
      rcases hvalue name List.mem_cons_self with ⟨hne, hslash⟩
      exact ⟨⟨hne, rfl⟩, hslash⟩
  | anything => exact ⟨⟨hstar.1, rfl⟩, hstar.2⟩
  | remainder => exact hs.elim

-- The text for two stars may hold slashes, and then more segments face them.
theorem linesUp_fillIn (hstar : ∀ k, star k ≠ [] ∧ '/' ∉ star k) (hstars : '\n' ∉ stars)
    (ts : List (List Char)) :
    ts ≠ [] → (∀ t ∈ ts, '/' ∉ t) →
      (∀ name ∈ ts.filterMap captureName?, value name ≠ [] ∧ '/' ∉ value name) →
      LinesUp ts ((['/'].intercalate (fillIn value star stars ts)).splitOn '/')
        ((ts.filterMap captureName?).map fun name => (name, value name)) := by
  induction ts with
  | nil => exact fun hne => absurd rfl hne
  | cons t ts ih =>
      intro _ hslash hvalue
      rw [List.forall_mem_cons] at hslash
      have hnames : (t :: ts).filterMap captureName? =
          (Segment.ofText ts.isEmpty t).name?.toList ++ ts.filterMap captureName? := by
        rw [Segment.name?_ofText, List.filterMap_eq_flatMap_toList, List.flatMap_cons,
          ← List.filterMap_eq_flatMap_toList]
      rw [hnames, List.forall_mem_append] at hvalue
      rw [hnames, List.map_append, fillIn]
      by_cases hremainder : Segment.ofText ts.isEmpty t = .remainder
      · rcases linesUp_remainder_iff t ts
          ((['/'].intercalate [stars]).splitOn '/') [] hremainder with ⟨rfl, hlines⟩
        rw [hremainder]
        rw [List.intercalate_singleton, not_mem_splitOn_iff (by decide)] at hlines
        change LinesUp [t] ((['/'].intercalate [stars]).splitOn '/') []
        rw [List.intercalate_singleton]
        exact hlines.2 ⟨List.splitOn_ne_nil _ _, hstars, rfl⟩
      · have hproper := Segment.isProper_ofText ts.isEmpty hslash.1 hremainder
        rcases @Segment.fits_fill value star stars _ hproper ts.length hvalue.1
          (hstar ts.length) with ⟨hfits, hnone⟩
        rw [linesUp_cons_iff t ts _ _ hremainder]
        refine ⟨_, _, _, _, splitOn_intercalate_cons hnone _, rfl, hfits, ?_⟩
        cases ts with
        | nil => exact .nil
        | cons u more =>
            rw [if_neg (show fillIn value star stars (u :: more) ≠ [] from List.cons_ne_nil _ _)]
            exact ih (List.cons_ne_nil u more) hslash.2 hvalue.2

end Filling

-- A template with different names matches the paths whose segments face its own, and
-- captures what faces its names. So values that are filled in are found again. One that
-- uses a name twice matches itself and nothing else.
theorem template_matches (raw path : String) :
    let t := PathTemplate.ofText raw
    let texts := raw.toList.splitOn '/'
    let names := texts.filterMap captureName?
    (names.Nodup →
      (∀ params, t.match? path = some params ↔
        ∃ captured, LinesUp texts (path.toList.splitOn '/') captured ∧
          params = captured.toParams) ∧
      (∀ params, t.match? path = some params →
        params.map Prod.fst = names.map String.ofList) ∧
      ∀ (value : List Char → List Char) (star : Nat → List Char) (stars : List Char),
        (∀ name ∈ names, value name ≠ [] ∧ '/' ∉ value name) →
        (∀ k, star k ≠ [] ∧ '/' ∉ star k) → '\n' ∉ stars →
        t.match? (String.ofList (['/'].intercalate (fillIn value star stars texts))) =
          some (names.map fun name => (String.ofList name, String.ofList (value name)))) ∧
      (¬ names.Nodup → ∀ params, t.match? path = some params ↔ path = raw ∧ params = []) := by
  intro t texts names
  refine ⟨fun hnodup => ⟨fun params => match?_iff raw path params hnodup, fun params h => ?_,
    fun value star stars hvalue hstar hstars => ?_⟩, fun htwice params => ?_⟩
  · rcases (match?_iff raw path params hnodup).1 h with ⟨captured, hlines, rfl⟩
    rw [← show captured.map Prod.fst = names from hlines.names_eq, Captures.toParams,
      List.map_map, List.map_map]
    rfl
  · refine (match?_iff raw _ _ hnodup).2 ⟨names.map fun name => (name, value name), ?_, ?_⟩
    · rw [String.toList_ofList]
      exact linesUp_fillIn hstar hstars texts (List.splitOn_ne_nil _ _)
        (Text.not_mem_of_mem_splitOn '/' _) hvalue
    · rw [Captures.toParams, List.map_map]
      rfl
  · cases hall : (Segment.ofTexts texts).all Segment.isLiteral with
    | true =>
        rw [show t = _ from ofText_literal raw hall]
        exact match?_of_no_pattern raw path params
    | false =>
        rw [show t = _ from ofText_dynamic raw hall, if_neg htwice]
        exact match?_of_no_pattern raw path params

theorem users_by_id :
    let raw := "/users/\x7bid\x7d/*/a.b/**"
    ((raw.toList.splitOn '/').filterMap captureName?).Nodup ∧
      (PathTemplate.ofText raw).match? "/users/4 2/x/a.b/c/d" = some [("id", "4 2")] := by
  intro raw
  let value : List Char → List Char := fun _ => "4 2".toList
  let star : Nat → List Char := fun _ => ['x']
  have hnodup : ((raw.toList.splitOn '/').filterMap captureName?).Nodup := by decide +kernel
  have hpath : String.ofList (['/'].intercalate
      (fillIn value star "c/d".toList (raw.toList.splitOn '/'))) = "/users/4 2/x/a.b/c/d" := by
    decide +kernel
  have hcaptured : ((raw.toList.splitOn '/').filterMap captureName?).map (fun name =>
      (String.ofList name, String.ofList (value name))) = [("id", "4 2")] := by
    decide +kernel
  have hmatch := ((template_matches raw "").1 hnodup).2.2 value star "c/d".toList
    (fun _ _ => by decide) (fun _ => by decide) (by decide)
  rw [hpath, hcaptured] at hmatch
  exact ⟨hnodup, hmatch⟩

end Routing

end DemandNet
