import DemandNet.Http.KeepAlive
import DemandNet.Proofs.WebSocket.Negotiation
import Mathlib.Logic.Relation

/-!
# How a List Is Written

A list header may be written in many ways, and what is made of it does not depend on which.

The list of a header is cut into lines at any comma, with blanks and commas to taste around
its elements, and where its elements are words in any case of their letters. Each of these
changes is one step here, on the bytes of the lines, and headers that differ by any number of
steps, there and back, stand for the same lists. The list is what is left of the lines when
they are cut at their commas: the elements that are not empty, without the blanks around
them.

The functions that look at these headers do not go the same way: one of them keeps the empty
elements and lowers the letters, another one does neither. But each of them asks only for
elements that are not empty, so all of them can be read off the lists.

A line with a byte that is not readable is not cut at all. So a wish to close that stands in
one is not heard.

## Main definitions

* `IsGap`: A place in a line outside of its elements.
* `Respells`: A change to the way in which the lists are written.
* `lineTokens`, `elements`: The elements of a line, and of a header.
* `SameLists`: Headers that stand for the same lists.

## Theorems

* `lineTokens_join`, `lineElements_insert`, `lower_lineElements`: The three changes, on lines.
* `sameLists_of_respells`: A change keeps the lists.
* `wantsKeepAlive_eq_false_iff`: When a connection is not kept.
* `lists_independent_of_spelling`: What does not depend on how the lists are written.
* `unreadable_close_not_heard`: A wish to close in a line that is not readable.
-/

namespace DemandNet

namespace Http

open WebSocket (ListsWord isUpgradeRequest negotiate offers selectProtocol)

/-! ### Ways to write a list -/

/-- The byte between two elements. -/
def comma : UInt8 := 44

/-- A space or a tab. -/
def IsBlankByte (b : UInt8) : Prop := b = 32 ∨ b = 9

/-- The headers that are lists of words, whatever the case of their letters. -/
def wordHeaders : List String := ["connection", "upgrade"]

/-- The headers that are lists. -/
def listHeaders : List String := "sec-websocket-protocol" :: wordHeaders

/-- A place in a line outside of its elements: on one side of it there are only blanks up to
    the nearest comma, or up to the end of the line. -/
def IsGap (before after : Bytes) : Prop :=
  ∃ start left right rest, before = start ++ left ∧ after = right ++ rest ∧
    comma ∉ left ∧ comma ∉ right ∧
    (start = [] ∨ ∃ line, start = line ++ [comma]) ∧ (rest = [] ∨ ∃ line, rest = comma :: line) ∧
    ((∀ b ∈ left, IsBlankByte b) ∨ ∀ b ∈ right, IsBlankByte b)

/-- One change to the way in which the lists are written. -/
inductive Respells : Headers → Headers → Prop where
  /-- Two lines in a row become one. -/
  | join {name : String} (hname : name ∈ listHeaders) (before between after : Headers)
      {first second : Bytes} (hbetween : between.values name = [])
      (hfirst : first.all isReadable = true) (hsecond : second.all isReadable = true) :
      Respells (before ++ (name, first) :: (between ++ (name, second) :: after))
        (before ++ (name, first ++ comma :: second) :: (between ++ after))
  /-- A blank or a comma is put around elements. -/
  | insert {name : String} (hname : name ∈ listHeaders) (before after : Headers)
      {x y : Bytes} {b : UInt8} (hb : IsBlankByte b ∨ b = comma) (hgap : IsGap x y) :
      Respells (before ++ (name, x ++ y) :: after) (before ++ (name, x ++ b :: y) :: after)
  /-- Letters of words change their case. -/
  | recase {name : String} (hname : name ∈ wordHeaders) (before after : Headers)
      {v w : Bytes} (hcase : Bytes.lower v = Bytes.lower w) :
      Respells (before ++ (name, v) :: after) (before ++ (name, w) :: after)

/-! ### The elements of a line -/

/-- The elements of a line, empty ones included. A line that is not readable has none. -/
def lineTokens (line : Bytes) : List (List Char) :=
  (valueText? line).toList.flatMap fun v => (Text.splitOn (· == ',') v.toList).map Text.trim

/-- The elements of a line that are not empty. -/
def lineElements (line : Bytes) : List (List Char) := (lineTokens line).filter (!·.isEmpty)

/-- The list that a header stands for. -/
def elements (h : Headers) (name : String) : List (List Char) :=
  (headerTokens h name).filter (!·.isEmpty)

/-- The byte stands for a character that is trimmed. -/
def isTrimmed (b : UInt8) : Bool := Text.isBlank (Char.ofNat b.toNat)

theorem of_all_bytes {P : UInt8 → Prop} (h : ∀ n : Fin 256, P (UInt8.ofFin n)) (b : UInt8) :
    P b := h b.toFin

theorem char_beq_comma (b : UInt8) : (Char.ofNat b.toNat == ',') = (b == comma) := by
  revert b
  exact of_all_bytes (by decide +kernel)

theorem isTrimmed_of_isBlankByte {b : UInt8} (h : IsBlankByte b) : isTrimmed b = true := by
  rcases h with rfl | rfl <;> decide

theorem isReadable_lowerByte (b : UInt8) : isReadable (Bytes.lowerByte b) = isReadable b := by
  revert b
  exact of_all_bytes (by decide +kernel)

theorem isTrimmed_lowerByte (b : UInt8) : isTrimmed (Bytes.lowerByte b) = isTrimmed b := by
  revert b
  exact of_all_bytes (by decide +kernel)

theorem lowerByte_beq_comma (b : UInt8) : (Bytes.lowerByte b == comma) = (b == comma) := by
  revert b
  exact of_all_bytes (by decide +kernel)

theorem char_lowerByte (b : UInt8) :
    Char.ofNat (Bytes.lowerByte b).toNat = Text.lowerChar (Char.ofNat b.toNat) := by
  revert b
  exact of_all_bytes (by decide +kernel)

/-- Readable bytes as characters. -/
def charsOf (bs : Bytes) : List Char := bs.map fun b => Char.ofNat b.toNat

theorem lineTokens_of_readable {line : Bytes} (h : line.all isReadable = true) :
    lineTokens line =
      (Text.splitOn (· == comma) line).map fun piece => charsOf (Text.trimBy isTrimmed piece) := by
  have htext : valueText? line = some (Bytes.asciiText line) := if_pos h
  have hchars : (Bytes.asciiText line).toList = charsOf line := String.toList_ofList
  have htrim : ∀ piece : Bytes,
      Text.trim (charsOf piece) = charsOf (Text.trimBy isTrimmed piece) := fun piece =>
    Text.trimBy_map (fun b : UInt8 => Char.ofNat b.toNat) Text.isBlank piece
  unfold lineTokens
  rw [htext, Option.toList_some, List.flatMap_singleton, hchars, charsOf, Text.splitOn_map]
  simp only [char_beq_comma, List.map_map]
  exact List.map_congr_left fun piece _ => htrim piece

theorem lineTokens_of_not_readable {line : Bytes} (h : ¬ line.all isReadable = true) :
    lineTokens line = [] := by
  have htext : valueText? line = none := if_neg h
  unfold lineTokens
  rw [htext]
  rfl

theorem readable_append {x y : Bytes} (hx : x.all isReadable = true)
    (hy : y.all isReadable = true) : (x ++ y).all isReadable = true := by
  rw [List.all_append, hx, hy]
  rfl

theorem readable_insert {x y : Bytes} {b : UInt8} (hx : x.all isReadable = true)
    (hb : isReadable b = true) (hy : y.all isReadable = true) :
    (x ++ b :: y).all isReadable = true := by
  rw [List.all_append, List.all_cons, hx, hb, hy]
  rfl

theorem lineTokens_join {first second : Bytes} (hfirst : first.all isReadable = true)
    (hsecond : second.all isReadable = true) :
    lineTokens (first ++ comma :: second) = lineTokens first ++ lineTokens second := by
  have hjoined := readable_insert hfirst (show isReadable comma = true by decide) hsecond
  rw [lineTokens_of_readable hfirst, lineTokens_of_readable hsecond, lineTokens_of_readable hjoined,
    Text.splitOn_beq, Text.splitOn_beq, Text.splitOn_beq, List.splitOn_append_cons_self,
    List.map_append]

/-- What a piece between two commas stands for. -/
def element (piece : Bytes) : List Char := charsOf (Text.trimBy isTrimmed piece)

theorem lineElements_of_not_mem {line : Bytes} (h : line.all isReadable = true)
    (hcomma : comma ∉ line) : lineElements line = [element line].filter (!·.isEmpty) := by
  unfold lineElements
  rw [lineTokens_of_readable h, Text.splitOn_beq, List.splitOn_eq_singleton hcomma,
    List.map_singleton]
  rfl

section Blank

variable {blank : Bytes} (h : ∀ b ∈ blank, IsBlankByte b)

include h

theorem element_append_blank (piece : Bytes) : element (piece ++ blank) = element piece :=
  congrArg charsOf
    (Text.trimBy_append_of_all isTrimmed piece fun b hb => isTrimmed_of_isBlankByte (h b hb))

theorem element_blank_append (piece : Bytes) : element (blank ++ piece) = element piece :=
  congrArg charsOf
    (Text.trimBy_all_append isTrimmed piece fun b hb => isTrimmed_of_isBlankByte (h b hb))

theorem filter_element_blank : [element blank].filter (!·.isEmpty) = [] := by
  have hnothing := element_blank_append h []
  rw [List.append_nil] at hnothing
  rw [hnothing]
  rfl

end Blank

-- What stands before a comma and behind one is cut apart from what is between them.
theorem lineTokens_between {start rest : Bytes} (hstart : start.all isReadable = true)
    (hrest : rest.all isReadable = true) (hopen : start = [] ∨ ∃ line, start = line ++ [comma])
    (hclose : rest = [] ∨ ∃ line, rest = comma :: line) :
    ∃ first last, ∀ middle : Bytes, middle.all isReadable = true →
      lineTokens (start ++ (middle ++ rest)) = first ++ (lineTokens middle ++ last) := by
  have hlast : ∃ last, ∀ middle : Bytes, middle.all isReadable = true →
      lineTokens (middle ++ rest) = lineTokens middle ++ last := by
    rcases hclose with rfl | ⟨line, rfl⟩
    · refine ⟨[], fun middle _ => ?_⟩
      rw [List.append_nil, List.append_nil]
    · rw [List.all_cons, Bool.and_eq_true] at hrest
      exact ⟨lineTokens line, fun middle hmiddle => lineTokens_join hmiddle hrest.2⟩
  rcases hlast with ⟨last, hlast⟩
  rcases hopen with rfl | ⟨line, rfl⟩
  · exact ⟨[], last, fun middle hmiddle => hlast middle hmiddle⟩
  · rw [List.all_append, Bool.and_eq_true] at hstart
    refine ⟨lineTokens line, last, fun middle hmiddle => ?_⟩
    rw [List.append_assoc, List.singleton_append,
      lineTokens_join hstart.1 (readable_append hmiddle hrest), hlast middle hmiddle]

section Gap

variable {left right : Bytes} (hleft : left.all isReadable = true)
  (hright : right.all isReadable = true) (hl : comma ∉ left) (hr : comma ∉ right)
  (hblank : (∀ b ∈ left, IsBlankByte b) ∨ ∀ b ∈ right, IsBlankByte b)

include hleft hright hl hr hblank

theorem lineElements_insert_blank {b : UInt8} (hb : IsBlankByte b) :
    lineElements (left ++ b :: right) = lineElements (left ++ right) := by
  have hreadable : isReadable b = true := by rcases hb with rfl | rfl <;> decide
  have hcomma : comma ≠ b := by rcases hb with rfl | rfl <;> decide
  have hsame : element (left ++ b :: right) = element (left ++ right) := by
    rcases hblank with hblank | hblank
    · have hblanks : ∀ c ∈ left ++ [b], IsBlankByte c := by
        intro c hc
        rcases List.mem_append.1 hc with hc | hc
        · exact hblank c hc
        · exact List.mem_singleton.1 hc ▸ hb
      rw [List.append_cons, element_blank_append hblanks, element_blank_append hblank]
    · rw [element_append_blank (List.forall_mem_cons.2 ⟨hb, hblank⟩), element_append_blank hblank]
  rw [lineElements_of_not_mem (readable_append hleft hright) (List.not_mem_append hl hr),
    lineElements_of_not_mem (readable_insert hleft hreadable hright)
      (List.not_mem_append hl (List.not_mem_cons_of_ne_of_not_mem hcomma hr)), hsame]

-- Next to blanks a comma only adds an empty element.
theorem lineElements_insert_comma :
    lineElements (left ++ comma :: right) = lineElements (left ++ right) := by
  have hcut : lineElements (left ++ comma :: right) = lineElements left ++ lineElements right := by
    unfold lineElements
    rw [lineTokens_join hleft hright, List.filter_append]
  rw [hcut, lineElements_of_not_mem hleft hl, lineElements_of_not_mem hright hr,
    lineElements_of_not_mem (readable_append hleft hright) (List.not_mem_append hl hr)]
  rcases hblank with hblank | hblank
  · rw [filter_element_blank hblank, List.nil_append, element_blank_append hblank]
  · rw [filter_element_blank hblank, List.append_nil, element_append_blank hblank]

end Gap

theorem lineElements_insert {x y : Bytes} {b : UInt8} (hb : IsBlankByte b ∨ b = comma)
    (hgap : IsGap x y) : lineElements (x ++ b :: y) = lineElements (x ++ y) := by
  have hreadable : isReadable b = true := by rcases hb with (rfl | rfl) | rfl <;> decide
  have hsame : (x ++ b :: y).all isReadable = (x ++ y).all isReadable := by
    rw [List.all_append, List.all_append, List.all_cons, hreadable, Bool.true_and]
  by_cases hall : (x ++ y).all isReadable = true
  · rcases hgap with ⟨start, left, right, rest, rfl, rfl, hl, hr, hopen, hclose, hblank⟩
    have hparts := hall
    simp only [List.all_append, Bool.and_eq_true] at hparts
    rcases hparts with ⟨⟨hstart, hleft⟩, hright, hrest⟩
    rcases lineTokens_between hstart hrest hopen hclose with ⟨first, last, hbetween⟩
    have hmiddle : lineElements (left ++ b :: right) = lineElements (left ++ right) := by
      rcases hb with hb | rfl
      · exact lineElements_insert_blank hleft hright hl hr hblank hb
      · exact lineElements_insert_comma hleft hright hl hr hblank
    unfold lineElements at hmiddle ⊢
    have hlong : start ++ left ++ b :: (right ++ rest) =
        start ++ ((left ++ b :: right) ++ rest) := by
      simp only [List.append_assoc, List.cons_append]
    have hshort : start ++ left ++ (right ++ rest) = start ++ ((left ++ right) ++ rest) := by
      simp only [List.append_assoc]
    rw [hlong, hshort, hbetween _ (readable_insert hleft hreadable hright),
      hbetween _ (readable_append hleft hright)]
    simp only [List.filter_append, hmiddle]
  · unfold lineElements
    rw [lineTokens_of_not_readable hall, lineTokens_of_not_readable (hsame ▸ hall)]

theorem all_isReadable_lower (line : Bytes) :
    (Bytes.lower line).all isReadable = line.all isReadable := by
  unfold Bytes.lower
  rw [List.all_map]
  exact congrArg line.all (funext isReadable_lowerByte)

theorem lineTokens_lower (line : Bytes) :
    lineTokens (Bytes.lower line) = (lineTokens line).map Text.lower := by
  by_cases hall : line.all isReadable = true
  · have hlower : (Bytes.lower line).all isReadable = true := (all_isReadable_lower line).trans hall
    rw [lineTokens_of_readable hall, lineTokens_of_readable hlower, Bytes.lower, Text.splitOn_map,
      List.map_map, List.map_map]
    simp only [lowerByte_beq_comma]
    refine List.map_congr_left fun piece _ => ?_
    simp only [Function.comp_apply, Text.trimBy_map, isTrimmed_lowerByte]
    unfold charsOf Text.lower
    rw [List.map_map, List.map_map]
    exact List.map_congr_left fun b _ => char_lowerByte b
  · have hlower : ¬ (Bytes.lower line).all isReadable = true := by
      rw [all_isReadable_lower]
      exact hall
    rw [lineTokens_of_not_readable hall, lineTokens_of_not_readable hlower, List.map_nil]

theorem isEmpty_lower (cs : List Char) : (Text.lower cs).isEmpty = cs.isEmpty := List.isEmpty_map

theorem lower_lineElements {v w : Bytes} (hcase : Bytes.lower v = Bytes.lower w) :
    (lineElements v).map Text.lower = (lineElements w).map Text.lower := by
  have hfilter : ∀ line : Bytes, (lineElements line).map Text.lower =
      (lineTokens (Bytes.lower line)).filter (!·.isEmpty) := by
    intro line
    unfold lineElements
    rw [lineTokens_lower, List.filter_map]
    exact congrArg _ (List.filter_congr fun cs _ => by rw [Function.comp_apply, isEmpty_lower])
  rw [hfilter, hfilter, hcase]

/-! ### The lists of headers -/

/-- Headers that stand for the same lists, and have the same values otherwise. -/
structure SameLists (h h' : Headers) : Prop where
  words : ∀ name ∈ wordHeaders,
    (elements h name).map Text.lower = (elements h' name).map Text.lower
  offered : offers h = offers h'
  others : ∀ name, name ∉ listHeaders → h.values name = h'.values name

theorem SameLists.refl (h : Headers) : SameLists h h := ⟨fun _ _ => rfl, rfl, fun _ _ => rfl⟩

theorem SameLists.symm {h h' : Headers} (hsame : SameLists h h') : SameLists h' h :=
  ⟨fun name hname => (hsame.words name hname).symm, hsame.offered.symm,
    fun name hname => (hsame.others name hname).symm⟩

theorem SameLists.trans {h h' h'' : Headers} (hsame : SameLists h h') (hsame' : SameLists h' h'') :
    SameLists h h'' :=
  ⟨fun name hname => (hsame.words name hname).trans (hsame'.words name hname),
    hsame.offered.trans hsame'.offered,
    fun name hname => (hsame.others name hname).trans (hsame'.others name hname)⟩

theorem elements_eq_flatMap (h : Headers) (name : String) :
    elements h name = (h.values name).flatMap lineElements := by
  unfold elements headerTokens Headers.texts
  rw [List.filterMap_eq_flatMap_toList, List.flatMap_assoc, List.filter_flatMap]
  rfl

section Change

variable {h h' : Headers} {name : String}
  (hothers : ∀ other, name ≠ other → h.values other = h'.values other)

include hothers

-- A change of one header leaves the lists of the others alone.
theorem elements_of_ne {other : String} (hother : name ≠ other) :
    elements h other = elements h' other := by
  rw [elements_eq_flatMap, elements_eq_flatMap, hothers other hother]

theorem sameLists_of_change (hname : name ∈ listHeaders)
    (hlower : (elements h name).map Text.lower = (elements h' name).map Text.lower)
    (hoffers : offers h = offers h') : SameLists h h' := by
  refine ⟨fun other _ => ?_, hoffers, fun other hout => hothers other ?_⟩
  · by_cases hother : name = other
    · exact hother ▸ hlower
    · rw [elements_of_ne hothers hother]
  · exact ne_of_mem_of_not_mem hname hout

theorem sameLists_of_elements (hname : name ∈ listHeaders)
    (hlist : elements h name = elements h' name) : SameLists h h' := by
  refine sameLists_of_change hothers hname (congrArg _ hlist) ?_
  by_cases hother : name = "sec-websocket-protocol"
  · rw [hother] at hlist
    exact hlist
  · exact elements_of_ne hothers hother

theorem sameLists_of_words (hname : name ∈ wordHeaders)
    (hlist : (elements h name).map Text.lower = (elements h' name).map Text.lower) :
    SameLists h h' := by
  have hother : name ≠ "sec-websocket-protocol" := ne_of_mem_of_not_mem hname (by decide)
  exact sameLists_of_change hothers (List.mem_cons_of_mem _ hname) hlist
    (elements_of_ne hothers hother)

end Change

theorem sameLists_of_respells {h h' : Headers} (hstep : Respells h h') : SameLists h h' := by
  cases hstep with
  | @join name hname before between after first second hbetween hfirst hsecond =>
      refine sameLists_of_elements (fun other hother => ?_) hname ?_
      · simp only [Headers.values_concat, Headers.values_cons, if_neg hother, List.nil_append]
      · have hjoined : lineElements (first ++ comma :: second) =
            lineElements first ++ lineElements second := by
          unfold lineElements
          rw [lineTokens_join hfirst hsecond, List.filter_append]
        simp only [elements_eq_flatMap, Headers.values_concat, Headers.values_cons, if_true,
          hbetween, List.nil_append, List.flatMap_append, List.flatMap_singleton, hjoined,
          List.append_assoc]
  | @insert name hname before after x y b hb hgap =>
      refine sameLists_of_elements (fun other hother => ?_) hname ?_
      · simp only [Headers.values_concat, Headers.values_cons, if_neg hother]
      · simp only [elements_eq_flatMap, Headers.values_concat, Headers.values_cons, if_true,
          List.flatMap_append, List.flatMap_singleton, lineElements_insert hb hgap]
  | @recase name hname before after v w hcase =>
      refine sameLists_of_words (fun other hother => ?_) hname ?_
      · simp only [Headers.values_concat, Headers.values_cons, if_neg hother]
      · simp only [elements_eq_flatMap, Headers.values_concat, Headers.values_cons, if_true,
          List.flatMap_append, List.flatMap_singleton, List.map_append, lower_lineElements hcase]

theorem sameLists_of_eqvGen {h h' : Headers} (hsame : Relation.EqvGen Respells h h') :
    SameLists h h' := by
  induction hsame with
  | rel h h' hstep => exact sameLists_of_respells hstep
  | refl h => exact .refl h
  | symm h h' _ ih => exact ih.symm
  | trans h h' h'' _ _ ih ih' => exact ih.trans ih'

/-! ### What is made of the lists -/

theorem listsWord_iff (h : Headers) (name : String) {word : String} (hword : word ≠ "") :
    ListsWord h name word ↔ Text.lower word.toList ∈ (elements h name).map Text.lower := by
  have hne : ¬ (Text.lower word.toList).isEmpty = true := by
    rw [isEmpty_lower, List.isEmpty_iff]
    exact fun hnil => hword (String.toList_eq_nil_iff.1 hnil)
  unfold ListsWord elements
  simp only [List.mem_map, List.mem_filter, WebSocket.mem_headerTokens_iff]
  constructor
  · intro ⟨cs, hlists, hlower⟩
    refine ⟨cs, ⟨hlists, ?_⟩, hlower⟩
    rw [← hlower, isEmpty_lower] at hne
    simpa only [Bool.not_eq_true', Bool.not_eq_true] using hne
  · intro ⟨cs, ⟨hlists, _⟩, hlower⟩
    exact ⟨cs, hlists, hlower⟩

theorem SameLists.listsWord_iff {h h' : Headers} (hsame : SameLists h h') (name word : String)
    (hname : name ∈ wordHeaders) (hword : word ≠ "") :
    ListsWord h name word ↔ ListsWord h' name word := by
  rw [Http.listsWord_iff h name hword, Http.listsWord_iff h' name hword, hsame.words name hname]

theorem contains_lower_headerTokens (h : Headers) (name word : String)
    (hword : Text.lower word.toList = word.toList) :
    ((headerTokens h name).map Text.lower).contains word.toList = true ↔ ListsWord h name word := by
  unfold ListsWord
  rw [List.contains_iff_mem, List.mem_map, hword]
  simp only [WebSocket.mem_headerTokens_iff]

/-- A connection is not kept if it is to be closed, and, before version 1.1, also if it is
    not to be kept. -/
theorem wantsKeepAlive_eq_false_iff (v : Version) (h : Headers) : wantsKeepAlive v h = false ↔
    ListsWord h "connection" "close" ∨
      (v = .http09 ∨ v = .http10) ∧ ¬ ListsWord h "connection" "keep-alive" := by
  have hclose := contains_lower_headerTokens h "connection" "close" (by decide)
  have hkeep := contains_lower_headerTokens h "connection" "keep-alive" (by decide)
  unfold wantsKeepAlive
  dsimp only
  by_cases hasked : ListsWord h "connection" "close"
  · rw [if_pos (hclose.2 hasked)]
    exact ⟨fun _ => Or.inl hasked, fun _ => rfl⟩
  · rw [if_neg fun hc => hasked (hclose.1 hc)]
    cases v with
    | http09 | http10 => simp [hasked, ← hkeep]
    | http11 | http2 => simp [hasked]

section Same

variable {h h' : Headers} (hsame : SameLists h h')

include hsame

theorem SameLists.wantsKeepAlive_eq (v : Version) : wantsKeepAlive v h = wantsKeepAlive v h' := by
  have hclose := hsame.listsWord_iff "connection" "close" (by decide) (by decide)
  have hkeep := hsame.listsWord_iff "connection" "keep-alive" (by decide) (by decide)
  have hiff : wantsKeepAlive v h = false ↔ wantsKeepAlive v h' = false := by
    rw [wantsKeepAlive_eq_false_iff, wantsKeepAlive_eq_false_iff, hclose, hkeep]
  exact Bool.eq_iff_iff.2 (by simpa only [Bool.not_eq_false] using not_congr hiff)

theorem SameLists.isUpgradeRequest_eq : isUpgradeRequest h = isUpgradeRequest h' := by
  have hupgrade := hsame.listsWord_iff "upgrade" "websocket" (by decide) (by decide)
  have hconnection := hsame.listsWord_iff "connection" "upgrade" (by decide) (by decide)
  rw [Bool.eq_iff_iff, WebSocket.isUpgradeRequest_iff, WebSocket.isUpgradeRequest_iff,
    WebSocket.AsksForUpgrade, WebSocket.AsksForUpgrade, hupgrade, hconnection]

theorem SameLists.selectProtocol_eq (protocols : Option String) :
    selectProtocol h protocols = selectProtocol h' protocols := by
  have hoffers := hsame.offered
  unfold offers at hoffers
  unfold selectProtocol
  dsimp only
  rw [hoffers]

theorem SameLists.get?_eq (name : String) (hname : name ∉ listHeaders) :
    h.get? name = h'.get? name := congrArg List.head? (hsame.others name hname)

theorem SameLists.negotiate_eq (protocols : Option String) :
    negotiate h protocols = negotiate h' protocols := by
  have hversion : h.text? "sec-websocket-version" = h'.text? "sec-websocket-version" :=
    congrArg (·.bind valueText?) (hsame.get?_eq _ (by decide))
  unfold negotiate
  rw [hsame.isUpgradeRequest_eq, hversion, hsame.get?_eq "sec-websocket-key" (by decide),
    hsame.selectProtocol_eq]

end Same

/-- Headers in which the lists are written in different ways are treated alike: the connection
    is kept or not, the upgrade is asked for or not, and the handshake ends the same way,
    whatever the version and whatever the server supports. Among the elements of the readable
    lines a wish to close always counts; without one, only a version before 1.1 needs a wish
    to keep. -/
theorem lists_independent_of_spelling :
    (∀ h h' : Headers, Relation.EqvGen Respells h h' →
      (∀ v, wantsKeepAlive v h = wantsKeepAlive v h') ∧
      isUpgradeRequest h = isUpgradeRequest h' ∧
      ∀ protocols, selectProtocol h protocols = selectProtocol h' protocols ∧
        negotiate h protocols = negotiate h' protocols) ∧
    ∀ (v : Version) (h : Headers), wantsKeepAlive v h = false ↔
      ListsWord h "connection" "close" ∨
        (v = .http09 ∨ v = .http10) ∧ ¬ ListsWord h "connection" "keep-alive" := by
  refine ⟨fun h h' hrespelled => ?_, wantsKeepAlive_eq_false_iff⟩
  have hsame := sameLists_of_eqvGen hrespelled
  exact ⟨hsame.wantsKeepAlive_eq, hsame.isUpgradeRequest_eq,
    fun protocols => ⟨hsame.selectProtocol_eq protocols, hsame.negotiate_eq protocols⟩⟩

/-- A handshake with its wishes for the connection in two lines. -/
def twoLines : Headers :=
  [("connection", Bytes.ofText "keep-alive"), ("upgrade", Bytes.ofText "websocket"),
    ("connection", Bytes.ofText "Upgrade")]

/-- The same with the wishes in one line, with a blank, and with letters of another case. -/
def oneLine : Headers :=
  [("connection", Bytes.ofText "Keep-Alive, upgrade"), ("upgrade", Bytes.ofText "websocket")]

theorem twoLines_as_oneLine :
    Relation.EqvGen Respells twoLines oneLine ∧
      wantsKeepAlive .http10 twoLines = wantsKeepAlive .http10 oneLine ∧
      isUpgradeRequest twoLines = isUpgradeRequest oneLine := by
  have hjoin : Respells twoLines
      [("connection", Bytes.ofText "keep-alive" ++ comma :: Bytes.ofText "Upgrade"),
        ("upgrade", Bytes.ofText "websocket")] :=
    .join (by decide) [] [("upgrade", Bytes.ofText "websocket")] [] (by decide +kernel)
      (by decide +kernel) (by decide +kernel)
  have hblank : Respells
      [("connection", Bytes.ofText "keep-alive" ++ [comma] ++ Bytes.ofText "Upgrade"),
        ("upgrade", Bytes.ofText "websocket")]
      [("connection", Bytes.ofText "keep-alive" ++ [comma] ++ 32 :: Bytes.ofText "Upgrade"),
        ("upgrade", Bytes.ofText "websocket")] := by
    refine .insert (by decide) [] _ (.inl (.inl rfl)) ?_
    exact ⟨Bytes.ofText "keep-alive" ++ [comma], [], Bytes.ofText "Upgrade", [],
      (List.append_nil _).symm, (List.append_nil _).symm, List.not_mem_nil, by decide +kernel,
      .inr ⟨_, rfl⟩, .inl rfl, .inl (List.forall_mem_nil _)⟩
  have hcase : Respells
      [("connection", Bytes.ofText "keep-alive" ++ [comma] ++ 32 :: Bytes.ofText "Upgrade"),
        ("upgrade", Bytes.ofText "websocket")] oneLine :=
    .recase (by decide) [] _ (by decide +kernel)
  rw [List.append_cons] at hjoin
  have hsame : Relation.EqvGen Respells twoLines oneLine :=
    .trans _ _ _ (.rel _ _ hjoin) (.trans _ _ _ (.rel _ _ hblank) (.rel _ _ hcase))
  have h := lists_independent_of_spelling.1 twoLines oneLine hsame
  exact ⟨hsame, h.1 .http10, h.2.1⟩

-- A line with a byte that is not readable is not cut, so it holds no wish to close.
theorem unreadable_close_not_heard :
    Text.IsPiece comma (Bytes.ofText "close") (Bytes.ofText "close" ++ [comma, 32, 233]) ∧
      wantsKeepAlive .http11 [("connection", Bytes.ofText "close" ++ [comma, 32, 233])] = true := by
  refine ⟨⟨by decide +kernel, [], [comma, 32, 233], rfl, .inl rfl, .inr ⟨_, rfl⟩⟩, ?_⟩
  decide +kernel

end Http

end DemandNet
