import DemandNet.Http.Multipart.Boundary
import DemandNet.Proofs.Http.Multipart.Disposition

/-!
# What a Content Type Announces

The boundary that is found in headers, whatever they hold.

The search knows little of how a content type is written. It looks for the word multipart
anywhere in a line, and after it for the last place that looks like a boundary parameter with
a value. So what stands before that place is of no account, and what stands behind it is only
asked whether it looks like one, too. That is why the further parameters of a well-formed
content type do not matter, in front or behind, as long as none of them has the same name.

## Main definitions

* `IsBoundaryParameter`, `OccursIn`: A place that looks like a boundary parameter.
* `Gives`: A line gives a boundary.
* `IsFirstOf`, `AllSilent`: The first of some lines that gives one, and lines that give none.
* `Token`, `Parameter`: A boundary, and a parameter of another name.
* `Announcement`: A well-formed content type with a boundary.

## Theorems

* `boundaryHere?_eq_some_iff`: The search at one place.
* `lastBoundary?_finds`, `boundaryParameter?_finds`: The search through a line.
* `extractBoundary_eq_ok_iff`, `extractBoundary_eq_error_iff`: The search through the lines.
* `isLast_occursIn`: In a well-formed content type the last place is the boundary.
* `boundary_announced`: The boundary of a well-formed content type, and which one is found in
  any headers at all.
-/

namespace DemandNet

namespace Http

namespace Multipart

/-! ### What counts in a line -/

/-- A text begins with a boundary parameter: a semicolon, blanks, the name and an equals sign,
    and the value up to the next semicolon, which is not empty. -/
def IsBoundaryParameter (cs value : List Char) : Prop :=
  ∃ blanks word rest, cs = ';' :: (blanks ++ (word ++ (value ++ rest))) ∧
    (∀ c ∈ blanks, Text.isBlank c = true) ∧ Text.lower word = "boundary=".toList ∧
    value ≠ [] ∧ ';' ∉ value ∧ (rest = [] ∨ ∃ others, rest = ';' :: others)

/-- The word multipart stands in a text. -/
def SaysMultipart (cs : List Char) : Prop :=
  ∃ before word after, cs = before ++ (word ++ after) ∧ Text.lower word = "multipart".toList

/-- Behind this much of a text there is a boundary parameter. -/
def PlaceIn (cs before value : List Char) : Prop :=
  ∃ rest, cs = before ++ rest ∧ IsBoundaryParameter rest value

/-- There is one in a line, somewhere after the word multipart. -/
def OccursIn (line before value : List Char) : Prop :=
  SaysMultipart before ∧ PlaceIn line before value

/-- The value at the last of some places. -/
def IsLast (P : List Char → List Char → Prop) (value : List Char) : Prop :=
  ∃ before, P before value ∧ ∀ before' value', P before' value' → before'.length ≤ before.length

/-- The boundary that a line gives: the value of the last boundary parameter in it, without the
    blanks around it and then without the quotes around that. -/
def Gives (line b : String) : Prop :=
  ∃ value core, IsLast (OccursIn line.toList) value ∧ Text.IsTrimmed Text.isBlank value core ∧
    Text.IsTrimmed (· == '"') core b.toList

/-- No line gives a boundary that is not empty. -/
def AllSilent (lines : List String) : Prop := ∀ line ∈ lines, ∀ b, Gives line b → b = ""

/-- This is the boundary that the first line gives which gives one that is not empty. -/
def IsFirstOf (lines : List String) (b : String) : Prop :=
  ∃ before line after, lines = before ++ line :: after ∧ Gives line b ∧ b ≠ "" ∧ AllSilent before

/-! ### The search through a line -/

theorem afterWord?_eq_some_iff {word cs rest : List Char} (hlower : Text.lower word = word) :
    afterWord? word cs = some rest ↔
      ∃ spelled, cs = spelled ++ rest ∧ Text.lower spelled = word := by
  unfold afterWord? Text.eqIgnoringCase
  rw [hlower]
  constructor
  · intro h
    by_cases hword : (Text.lower (cs.take word.length) == word) = true
    · rw [if_pos hword, Option.some.injEq] at h
      exact ⟨cs.take word.length, by rw [← h, List.take_append_drop], beq_iff_eq.1 hword⟩
    · rw [if_neg hword] at h
      exact absurd h (Option.some_ne_none rest).symm
  · rintro ⟨spelled, rfl, hword⟩
    have hlength : spelled.length = word.length := by
      simpa only [Text.lower, List.length_map] using congrArg List.length hword
    rw [List.take_left' hlength, List.drop_left' hlength, if_pos (beq_iff_eq.2 hword)]

-- Only letters change when they are put in lower case.
theorem not_mem_of_lower_eq {word spelled : List Char} {c : Char} (hc : Text.lowerChar c = c)
    (h : Text.lower spelled = word) (hword : c ∉ word) : c ∉ spelled := by
  intro hmem
  rw [← h] at hword
  exact hword (List.mem_map.2 ⟨c, hmem, hc⟩)

-- The name begins where the blanks end, because its first letter is none.
theorem dropWhile_blanks {blanks word : List Char} (rest : List Char)
    (hblanks : ∀ c ∈ blanks, Text.isBlank c = true) (hword : Text.lower word = "boundary=".toList) :
    (blanks ++ (word ++ rest)).dropWhile Text.isBlank = word ++ rest := by
  rw [List.dropWhile_append_of_pos hblanks]
  cases word with
  | nil => exact absurd hword (by decide)
  | cons c others =>
      have hfirst : Text.lowerChar c = 'b' := (List.cons.inj hword).1
      have hblank : Text.isBlank c = false := by
        rcases Text.lowerChar_cases c with hsame | ⟨_, _, hnat⟩
        · rw [← hsame, hfirst]
          rfl
        · have hc : c = 'B' := by
            rw [hfirst] at hnat
            rw [← Char.toNat_inj]
            exact Nat.add_right_cancel hnat.symm
          rw [hc]
          rfl
      rw [List.cons_append, List.dropWhile_cons_of_neg]
      rw [hblank]
      exact Bool.false_ne_true

theorem takeWhile_value {value rest : List Char} (hvalue : ';' ∉ value)
    (hrest : rest = [] ∨ ∃ others, rest = ';' :: others) :
    (value ++ rest).takeWhile (· != ';') = value := by
  have hall : ∀ c ∈ value, (c != ';') = true := fun c hc =>
    bne_iff_ne.2 (ne_of_mem_of_not_mem hc hvalue)
  rw [List.takeWhile_append_of_pos hall]
  rcases hrest with rfl | ⟨others, rfl⟩
  · rw [List.takeWhile_nil, List.append_nil]
  · rw [List.takeWhile_cons_of_neg (by decide), List.append_nil]

theorem boundaryHere?_semicolon (rest : List Char) : boundaryHere? (';' :: rest) =
    ((afterWord? "boundary=".toList (rest.dropWhile Text.isBlank)).map
      fun after => after.takeWhile (· != ';')).filter (!·.isEmpty) := by
  simp only [boundaryHere?]
  cases afterWord? "boundary=".toList (rest.dropWhile Text.isBlank) with
  | none => rfl
  | some after =>
      dsimp only
      rw [Option.map_some, Option.filter_some]
      cases (after.takeWhile (· != ';')).isEmpty <;> rfl

theorem boundaryHere?_of_ne {c : Char} (rest : List Char) (hc : c ≠ ';') :
    boundaryHere? (c :: rest) = none := by
  unfold boundaryHere?
  split
  · rename_i heq
    exact absurd (List.cons.inj heq).1 hc
  · rfl

/-- The search at one place finds just what looks like a boundary parameter. -/
theorem boundaryHere?_eq_some_iff {cs value : List Char} :
    boundaryHere? cs = some value ↔ IsBoundaryParameter cs value := by
  constructor
  · intro h
    cases cs with
    | nil => cases h
    | cons c rest =>
        by_cases hc : c = ';'
        · subst hc
          rw [boundaryHere?_semicolon, Option.filter_eq_some_iff, Option.map_eq_some_iff] at h
          rcases h with ⟨⟨after, hafter, rfl⟩, hne⟩
          rcases (afterWord?_eq_some_iff (by decide)).1 hafter with ⟨word, hdrop, hword⟩
          refine ⟨rest.takeWhile Text.isBlank, word, after.dropWhile (· != ';'), ?_, ?_, hword, ?_,
            ?_, ?_⟩
          · rw [List.takeWhile_append_dropWhile, ← hdrop, List.takeWhile_append_dropWhile]
          · exact fun c hc => List.mem_takeWhile_imp hc
          · rintro hnil
            rw [hnil] at hne
            exact absurd hne (by decide)
          · intro hmem
            exact absurd (List.mem_takeWhile_imp hmem) (by decide)
          · have hnot := List.head?_dropWhile_not (· != ';') after
            cases hrest : after.dropWhile (· != ';') with
            | nil => exact .inl rfl
            | cons d others =>
                rw [hrest] at hnot
                exact .inr ⟨others, by rw [bne_eq_false_iff_eq.1 hnot]⟩
        · rw [boundaryHere?_of_ne rest hc] at h
          cases h
  · rintro ⟨blanks, word, rest, rfl, hblanks, hword, hne, hvalue, hrest⟩
    rw [boundaryHere?_semicolon, dropWhile_blanks _ hblanks hword,
      (afterWord?_eq_some_iff (by decide)).2 ⟨word, rfl, hword⟩, Option.map_some,
      takeWhile_value hvalue hrest, Option.filter_some_pos]
    rw [Bool.not_eq_true', Bool.eq_false_iff, ne_eq, List.isEmpty_iff]
    exact hne

/-- What a search for the last of some places has to answer. -/
def Finds (P : List Char → List Char → Prop) : Option (List Char) → Prop
  | some value => IsLast P value
  | none => ∀ before value, ¬ P before value

-- A text in front of all places makes no difference.
theorem Finds.of_shift {P Q : List Char → List Char → Prop} {found : Option (List Char)}
    (front : List Char)
    (hshift : ∀ before value, P before value ↔ ∃ behind, before = front ++ behind ∧ Q behind value)
    (h : Finds Q found) : Finds P found := by
  cases found with
  | none =>
      intro before value hp
      rcases (hshift before value).1 hp with ⟨behind, _, hq⟩
      exact h behind value hq
  | some value =>
      rcases h with ⟨behind, hq, hlast⟩
      refine ⟨front ++ behind, (hshift _ value).2 ⟨behind, rfl, hq⟩, fun before' value' hp => ?_⟩
      rcases (hshift before' value').1 hp with ⟨behind', rfl, hq'⟩
      have hle := hlast behind' value' hq'
      rw [List.length_append, List.length_append]
      omega

theorem Finds.eq_some_iff {P : List Char → List Char → Prop} {found : Option (List Char)}
    {value : List Char} (h : Finds P found)
    (hsame : ∀ before before' value value', P before value → P before' value' →
      before.length = before'.length → value = value') : found = some value ↔ IsLast P value := by
  constructor
  · rintro rfl
    exact h
  · rintro ⟨before, hp, hlast⟩
    cases found with
    | none => exact absurd hp (h before value)
    | some value' =>
        rcases h with ⟨before', hp', hlast'⟩
        have hlength : before'.length = before.length :=
          Nat.le_antisymm (hlast before' value' hp') (hlast' before value hp)
        rw [hsame before' before value' value hp' hp hlength]

theorem not_placeIn_nil (before value : List Char) : ¬ PlaceIn [] before value := by
  rintro ⟨rest, hnil, blanks, word, others, hrest, _⟩
  rw [(List.append_eq_nil_iff.1 hnil.symm).2] at hrest
  cases hrest

theorem placeIn_cons_iff {c : Char} {rest before value : List Char} :
    PlaceIn (c :: rest) before value ↔ before = [] ∧ IsBoundaryParameter (c :: rest) value ∨
      ∃ behind, before = c :: behind ∧ PlaceIn rest behind value := by
  unfold PlaceIn
  cases before with
  | nil => simp
  | cons d behind => simp [eq_comm, and_assoc]

theorem lastBoundary?_finds (cs : List Char) : Finds (PlaceIn cs) (lastBoundary? cs) := by
  induction cs with
  | nil => exact not_placeIn_nil
  | cons c rest ih =>
      rw [lastBoundary?]
      cases hlast : lastBoundary? rest with
      | some value =>
          -- A place further behind decides, whether there is one here or not.
          rw [hlast] at ih
          rcases ih with ⟨behind, hplace, hle⟩
          refine ⟨c :: behind, placeIn_cons_iff.2 (.inr ⟨behind, rfl, hplace⟩), ?_⟩
          intro before' value' hplace'
          rcases placeIn_cons_iff.1 hplace' with ⟨rfl, _⟩ | ⟨behind', rfl, hbehind⟩
          · exact Nat.zero_le _
          · exact Nat.succ_le_succ (hle behind' value' hbehind)
      | none =>
          rw [hlast] at ih
          rw [Option.orElse_none]
          cases hhere : boundaryHere? (c :: rest) with
          | some value =>
              refine ⟨[], placeIn_cons_iff.2 (.inl ⟨rfl, boundaryHere?_eq_some_iff.1 hhere⟩), ?_⟩
              intro before' value' hplace'
              rcases placeIn_cons_iff.1 hplace' with ⟨rfl, _⟩ | ⟨behind', _, hbehind⟩
              · exact Nat.le_refl _
              · exact absurd hbehind (ih behind' value')
          | none =>
              intro before' value' hplace'
              rcases placeIn_cons_iff.1 hplace' with ⟨_, hparameter⟩ | ⟨behind', _, hbehind⟩
              · rw [boundaryHere?_eq_some_iff.2 hparameter] at hhere
                cases hhere
              · exact ih behind' value' hbehind

theorem length_multipart {word : List Char} (h : Text.lower word = "multipart".toList) :
    word.length = 9 := by
  simpa [Text.lower] using congrArg List.length h

theorem not_occursIn_nil (before value : List Char) : ¬ OccursIn [] before value := by
  rintro ⟨⟨start, word, between, hbefore, hword⟩, rest, hline, _⟩
  have hlength := congrArg List.length hbefore
  rw [(List.append_eq_nil_iff.1 hline.symm).1] at hlength
  simp only [List.length_append, length_multipart hword, List.length_nil] at hlength
  omega

-- The first multipart is as good as any other one: what is behind another is behind it.
theorem occursIn_word_iff {word after before value : List Char}
    (hword : Text.lower word = "multipart".toList) : OccursIn (word ++ after) before value ↔
      ∃ behind, before = word ++ behind ∧ PlaceIn after behind value := by
  constructor
  · rintro ⟨⟨start, word', between, rfl, hword'⟩, others, hcut, hparameter⟩
    have hle : word.length ≤ (start ++ (word' ++ between)).length := by
      simp only [List.length_append, length_multipart hword, length_multipart hword']
      omega
    rcases List.prefix_of_prefix_length_le ⟨after, rfl⟩ ⟨others, hcut.symm⟩ hle with
      ⟨behind, hbehind⟩
    rw [← hbehind, List.append_assoc, List.append_cancel_left_eq] at hcut
    exact ⟨behind, hbehind.symm, others, hcut, hparameter⟩
  · rintro ⟨behind, rfl, others, rfl, hparameter⟩
    exact ⟨⟨[], word, behind, rfl, hword⟩, others, (List.append_assoc ..).symm, hparameter⟩

theorem occursIn_cons_iff {c : Char} {rest before value : List Char}
    (hnone : afterWord? "multipart".toList (c :: rest) = none) :
    OccursIn (c :: rest) before value ↔
      ∃ behind, before = [c] ++ behind ∧ OccursIn rest behind value := by
  constructor
  · rintro ⟨⟨start, word, between, rfl, hword⟩, others, hcut, hparameter⟩
    cases start with
    | nil =>
        rw [List.nil_append, List.append_assoc] at hcut
        rw [(afterWord?_eq_some_iff (by decide)).2 ⟨word, hcut, hword⟩] at hnone
        cases hnone
    | cons d start =>
        rw [List.cons_append, List.cons_append, List.cons.injEq] at hcut
        refine ⟨start ++ (word ++ between), by rw [hcut.1]; rfl,
          ⟨start, word, between, rfl, hword⟩, others, hcut.2, hparameter⟩
  · rintro ⟨behind, rfl, ⟨start, word, between, rfl, hword⟩, others, rfl, hparameter⟩
    exact ⟨⟨c :: start, word, between, rfl, hword⟩, others, rfl, hparameter⟩

theorem boundaryParameter?_finds (line : List Char) :
    Finds (OccursIn line) (boundaryParameter? line) := by
  induction line with
  | nil => exact not_occursIn_nil
  | cons c rest ih =>
      rw [boundaryParameter?]
      cases hafter : afterWord? "multipart".toList (c :: rest) with
      | some after =>
          rcases (afterWord?_eq_some_iff (by decide)).1 hafter with ⟨word, hline, hword⟩
          rw [hline]
          exact (lastBoundary?_finds after).of_shift word fun _ _ => occursIn_word_iff hword
      | none => exact ih.of_shift [c] fun _ _ => occursIn_cons_iff hafter

theorem boundaryParameter?_eq_some_iff {line value : List Char} :
    boundaryParameter? line = some value ↔ IsLast (OccursIn line) value := by
  refine (boundaryParameter?_finds line).eq_some_iff ?_
  rintro before before' value value' ⟨_, rest, rfl, hvalue⟩ ⟨_, rest', hcut, hvalue'⟩ hlength
  rw [(List.append_inj hcut hlength).2, ← boundaryHere?_eq_some_iff] at hvalue
  rw [← boundaryHere?_eq_some_iff, hvalue] at hvalue'
  exact Option.some.inj hvalue'

theorem gives_iff {line b : String} :
    Gives line b ↔ (boundaryParameter? line.toList).map unquoted = some b.toList := by
  unfold Gives unquoted Text.trim
  simp only [Option.map_eq_some_iff, boundaryParameter?_eq_some_iff, ← Text.trimBy_eq_iff]
  constructor
  · rintro ⟨value, core, hlast, rfl, hquote⟩
    exact ⟨value, hlast, hquote⟩
  · rintro ⟨value, hlast, hquote⟩
    exact ⟨value, _, hlast, rfl, hquote⟩

/-! ### The search through the lines -/

/-- The boundary of one line. -/
def lineBoundary? (line : String) : Option (List Char) :=
  (boundaryParameter? line.toList).map unquoted

theorem extractBoundary_eq (h : Headers) : extractBoundary h =
    match ((h.texts "content-type").find? fun line => (lineBoundary? line).any (!·.isEmpty)).bind
        lineBoundary? with
    | some b => .ok (String.ofList b)
    | none => .error (.decode "not a valid multipart body") := by
  unfold extractBoundary
  dsimp only
  rw [List.find?_filterMap]
  rfl

theorem gives_of_lineBoundary? {line : String} {found : List Char}
    (h : lineBoundary? line = some found) : Gives line (String.ofList found) := by
  rw [gives_iff, String.toList_ofList]
  exact h

theorem any_lineBoundary?_iff {line : String} :
    (lineBoundary? line).any (!·.isEmpty) = true ↔ ∃ b, Gives line b ∧ b ≠ "" := by
  simp only [Option.any_eq_true, Bool.not_eq_true', List.isEmpty_eq_false_iff]
  constructor
  · rintro ⟨found, hfound, hne⟩
    refine ⟨String.ofList found, gives_of_lineBoundary? hfound, fun hempty => hne ?_⟩
    rw [← String.toList_ofList (l := found), hempty]
    rfl
  · rintro ⟨b, hgives, hne⟩
    exact ⟨b.toList, gives_iff.1 hgives, fun hnil => hne (String.toList_eq_nil_iff.1 hnil)⟩

theorem not_any_lineBoundary?_iff {line : String} :
    ¬ (lineBoundary? line).any (!·.isEmpty) = true ↔ ∀ b, Gives line b → b = "" := by
  rw [any_lineBoundary?_iff]
  simp only [not_exists, not_and, ne_eq, not_not]

theorem extractBoundary_of_isFirstOf {h : Headers} {b : String}
    (hfirst : IsFirstOf (h.texts "content-type") b) : extractBoundary h = .ok b := by
  rcases hfirst with ⟨before, line, after, hlines, hgives, hne, hbefore⟩
  have hfind : ((h.texts "content-type").find? fun line =>
      (lineBoundary? line).any (!·.isEmpty)) = some line := by
    refine List.find?_eq_some_iff_append.2
      ⟨any_lineBoundary?_iff.2 ⟨b, hgives, hne⟩, before, after, hlines, fun other hother => ?_⟩
    rw [Bool.not_eq_true', Bool.eq_false_iff]
    exact not_any_lineBoundary?_iff.2 (hbefore other hother)
  have hline : lineBoundary? line = some b.toList := gives_iff.1 hgives
  rw [extractBoundary_eq, hfind, Option.bind_some, hline]
  exact congrArg Except.ok String.ofList_toList

theorem extractBoundary_of_allSilent {h : Headers}
    (hsilent : AllSilent (h.texts "content-type")) :
    extractBoundary h = .error (.decode "not a valid multipart body") := by
  have hfind : ((h.texts "content-type").find? fun line =>
      (lineBoundary? line).any (!·.isEmpty)) = none :=
    List.find?_eq_none.2 fun line hline => not_any_lineBoundary?_iff.2 (hsilent line hline)
  rw [extractBoundary_eq, hfind]
  rfl

theorem isFirstOf_or_allSilent (lines : List String) :
    (∃ b, IsFirstOf lines b) ∨ AllSilent lines := by
  cases hfind : lines.find? fun line => (lineBoundary? line).any (!·.isEmpty) with
  | none => exact .inr fun line hline =>
      not_any_lineBoundary?_iff.1 (List.find?_eq_none.1 hfind line hline)
  | some line =>
      rcases List.find?_eq_some_iff_append.1 hfind with ⟨hany, before, after, hlines, hbefore⟩
      rcases any_lineBoundary?_iff.1 hany with ⟨b, hgives, hne⟩
      refine .inl ⟨b, before, line, after, hlines, hgives, hne, fun other hother => ?_⟩
      rw [← not_any_lineBoundary?_iff, Bool.not_eq_true, ← Bool.not_eq_true']
      exact hbefore other hother

theorem extractBoundary_eq_ok_iff {h : Headers} {b : String} :
    extractBoundary h = .ok b ↔ IsFirstOf (h.texts "content-type") b := by
  refine ⟨fun hok => ?_, extractBoundary_of_isFirstOf⟩
  rcases isFirstOf_or_allSilent (h.texts "content-type") with ⟨b', hfirst⟩ | hsilent
  · rw [extractBoundary_of_isFirstOf hfirst, Except.ok.injEq] at hok
    exact hok ▸ hfirst
  · rw [extractBoundary_of_allSilent hsilent] at hok
    cases hok

theorem extractBoundary_eq_error_iff {h : Headers} {e : NetError} :
    extractBoundary h = .error e ↔
      e = .decode "not a valid multipart body" ∧ AllSilent (h.texts "content-type") := by
  constructor
  · intro herror
    rcases isFirstOf_or_allSilent (h.texts "content-type") with ⟨b, hfirst⟩ | hsilent
    · rw [extractBoundary_of_isFirstOf hfirst] at herror
      cases herror
    · rw [extractBoundary_of_allSilent hsilent, Except.error.injEq] at herror
      exact ⟨herror.symm, hsilent⟩
  · rintro ⟨rfl, hsilent⟩
    exact extractBoundary_of_allSilent hsilent

/-! ### Well-formed content types -/

/-- The characters that may be in a boundary. -/
def isBoundaryChar (c : Char) : Bool :=
  ('0' ≤ c && c ≤ '9') || ('A' ≤ c && c ≤ 'Z') || ('a' ≤ c && c ≤ 'z')
    || "'()+_,-./:=? ".toList.contains c

/-- A boundary: from one to 70 characters, the last of which is no space. -/
structure Token where
  /-- The characters. -/
  chars : List Char
  length_le : chars.length ≤ 70
  legal : ∀ c ∈ chars, isBoundaryChar c = true
  last_ne : ∃ c, chars.getLast? = some c ∧ c ≠ ' '

/-- The name of a parameter: what stands before its first equals sign. -/
def nameOf (text : List Char) : List Char := (text.dropWhile Text.isBlank).takeWhile (· != '=')

/-- A parameter that is not the boundary. -/
structure Parameter where
  /-- What stands between the semicolons. -/
  text : List Char
  readable : ∀ c ∈ text, IsReadableChar c
  no_semicolon : ';' ∉ text
  other_name : Text.lower (nameOf text) ≠ "boundary".toList

/-- Parameters, each with the semicolon in front of it. -/
def parametersText (ps : List Parameter) : List Char := ps.flatMap fun p => ';' :: p.text

/-- A content type of a body in parts, with its boundary and further parameters. -/
structure Announcement where
  /-- The type, in any case of its letters. -/
  type : List Char
  /-- The subtype. -/
  subtype : List Char
  /-- The parameters in front of the boundary. -/
  before : List Parameter
  /-- What stands between the semicolon and the name. -/
  blanks : List Char
  /-- The name, in any case of its letters. -/
  name : List Char
  /-- The boundary. -/
  boundary : Token
  /-- There are quotes around the boundary. -/
  isQuoted : Bool
  /-- What stands behind the boundary, up to the next semicolon. -/
  padding : List Char
  /-- The parameters behind the boundary. -/
  after : List Parameter
  spells_type : Text.lower type = "multipart".toList
  subtype_readable : ∀ c ∈ subtype, IsReadableChar c
  subtype_no_semicolon : ';' ∉ subtype
  blanks_pad : ∀ c ∈ blanks, Text.isPadding c = true
  spells_name : Text.lower name = "boundary".toList
  bare_no_space : isQuoted = false → ' ' ∉ boundary.chars
  padding_pad : ∀ c ∈ padding, Text.isPadding c = true

namespace Announcement

/-- The boundary as it is written. -/
def value (a : Announcement) : List Char :=
  if a.isQuoted then '"' :: (a.boundary.chars ++ ['"']) else a.boundary.chars

/-- What stands in front of the boundary parameter. -/
def front (a : Announcement) : List Char :=
  a.type ++ '/' :: (a.subtype ++ parametersText a.before)

/-- The boundary parameter and what is behind it. -/
def back (a : Announcement) : List Char :=
  ';' :: (a.blanks ++ ((a.name ++ ['=']) ++ ((a.value ++ a.padding) ++ parametersText a.after)))

/-- The content type. -/
def text (a : Announcement) : String := String.ofList (a.front ++ a.back)

end Announcement

theorem boundaryChar_spec {c : Char} (h : isBoundaryChar c = true) :
    IsReadableChar c ∧ c ≠ ';' ∧ c ≠ '"' ∧ (c ≠ ' ' → Text.isBlank c = false) := by
  unfold isBoundaryChar at h
  simp only [Bool.or_eq_true, Bool.and_eq_true, decide_eq_true_eq, List.contains_iff_mem] at h
  rcases h with halphanum | hmark
  · have hrange : ((48 ≤ c.toNat ∧ c.toNat ≤ 57) ∨ 65 ≤ c.toNat ∧ c.toNat ≤ 90) ∨
        97 ≤ c.toNat ∧ c.toNat ≤ 122 := halphanum
    have hne : ∀ d : Char, d.toNat < 48 ∨ d.toNat = 59 → c ≠ d := by
      rintro d hd rfl
      omega
    have hblank : ¬ Text.isBlank c = true := by
      simp only [Text.isBlank, Bool.or_eq_true, Bool.and_eq_true, decide_eq_true_eq, beq_iff_eq]
      omega
    exact ⟨.inr (by omega), hne _ (by decide), hne _ (by decide),
      fun _ => Bool.eq_false_iff.2 hblank⟩
  · have hmarks : ("'()+_,-./:=? ".toList.all fun d => 32 ≤ d.toNat && d.toNat ≤ 126 && d != ';' &&
        d != '"' && (d == ' ' || !Text.isBlank d)) = true := by decide
    have hc := List.all_eq_true.1 hmarks c hmark
    simp only [Bool.and_eq_true, decide_eq_true_eq, bne_iff_ne, Bool.or_eq_true, beq_iff_eq,
      Bool.not_eq_true'] at hc
    exact ⟨.inr hc.1.1.1, hc.1.1.2, hc.1.2, fun hne => hc.2.resolve_left hne⟩

theorem isReadableChar_of_lower {word spelled : List Char} (h : Text.lower spelled = word)
    (hword : ∀ c ∈ word, IsReadableChar c) {c : Char} (hc : c ∈ spelled) : IsReadableChar c := by
  have hlower := hword (Text.lowerChar c) (h ▸ List.mem_map_of_mem hc)
  rcases Text.lowerChar_cases c with hsame | ⟨hle, hge, _⟩
  · exact hsame ▸ hlower
  · exact .inr (by omega)

theorem isReadableChar_of_isPadding {c : Char} (h : Text.isPadding c = true) :
    IsReadableChar c := by
  unfold Text.isPadding at h
  rw [Bool.or_eq_true, beq_iff_eq, beq_iff_eq] at h
  unfold IsReadableChar
  rcases h with rfl | rfl <;> decide

theorem isBlank_of_isPadding {c : Char} (h : Text.isPadding c = true) : Text.isBlank c = true := by
  unfold Text.isPadding at h
  rw [Bool.or_eq_true, beq_iff_eq, beq_iff_eq] at h
  rcases h with rfl | rfl <;> decide

/-! ### Places behind the boundary -/

theorem parametersText_eq_or (ps : List Parameter) :
    parametersText ps = [] ∨ ∃ others, parametersText ps = ';' :: others := by
  cases ps with
  | nil => exact .inl rfl
  | cons p ps => exact .inr ⟨_, rfl⟩

-- The name of what looks like the boundary parameter is the name of the boundary.
theorem not_isBoundaryParameter (p : Parameter) (ps : List Parameter) (value : List Char) :
    ¬ IsBoundaryParameter (';' :: (p.text ++ parametersText ps)) value := by
  rintro ⟨blanks, word, rest, hcs, hblanks, hword, _⟩
  have hsemicolon : ';' ∉ blanks ++ word := by
    rw [List.mem_append, not_or]
    refine ⟨fun hmem => absurd (hblanks _ hmem) (by decide), ?_⟩
    exact not_mem_of_lower_eq (by decide) hword (by decide)
  have hcut : p.text ++ parametersText ps = (blanks ++ word) ++ (value ++ rest) := by
    rw [List.append_assoc]
    exact (List.cons.inj hcs).2
  have hinside : ∃ others, p.text = blanks ++ (word ++ others) := by
    rcases List.append_eq_append_iff.1 hcut with ⟨more, hmore, hps⟩ | ⟨others, htext, _⟩
    · cases more with
      | nil => exact ⟨[], by rw [List.append_nil, hmore, List.append_nil]⟩
      | cons c more =>
          -- It would have to go on behind the next semicolon.
          rcases parametersText_eq_or ps with hnil | ⟨others, hothers⟩
          · rw [hnil] at hps
            cases hps
          · rw [hothers] at hps
            rw [hmore, ← (List.cons.inj hps).1] at hsemicolon
            exact absurd (List.mem_append_right _ List.mem_cons_self) hsemicolon
    · exact ⟨others, by rw [htext, List.append_assoc]⟩
  rcases hinside with ⟨others, htext⟩
  have hends : word.map Text.lowerChar = "boundary".toList ++ ['='] := hword
  rcases List.map_eq_append_iff.1 hends with ⟨name, equals, rfl, hname, hequals⟩
  rcases List.map_eq_singleton_iff.1 hequals with ⟨c, rfl, hc⟩
  have heq : c = '=' := by
    rcases Text.lowerChar_cases c with hsame | ⟨hle, _, hnat⟩
    · exact hsame.symm.trans hc
    · rw [hc] at hnat
      change 61 = _ at hnat
      omega
  have hnone : '=' ∉ name := not_mem_of_lower_eq (by decide) hname (by decide)
  have hall : ∀ d ∈ name, (d != '=') = true := fun d hd =>
    bne_iff_ne.2 (ne_of_mem_of_not_mem hd hnone)
  refine p.other_name ?_
  unfold nameOf
  rw [htext, dropWhile_blanks _ hblanks hword, heq, List.append_assoc, List.singleton_append,
    List.takeWhile_append_of_pos hall, List.takeWhile_cons_of_neg (by decide), List.append_nil]
  exact hname

theorem not_placeIn_append {front cs value : List Char} (hfront : ';' ∉ front)
    (h : ∀ before, ¬ PlaceIn cs before value) (before : List Char) :
    ¬ PlaceIn (front ++ cs) before value := by
  induction front generalizing before with
  | nil => exact h before
  | cons c rest ih =>
      rw [List.mem_cons, not_or] at hfront
      intro hplace
      rcases placeIn_cons_iff.1 hplace with ⟨_, blanks, word, others, hcs, _⟩ | ⟨behind, _, hbehind⟩
      · exact hfront.1 (List.cons.inj hcs).1.symm
      · exact ih hfront.2 behind hbehind

theorem not_placeIn_parametersText (ps : List Parameter) (value before : List Char) :
    ¬ PlaceIn (parametersText ps) before value := by
  induction ps generalizing before with
  | nil => exact not_placeIn_nil before value
  | cons p ps ih =>
      intro hplace
      rcases placeIn_cons_iff.1 hplace with ⟨_, hparameter⟩ | ⟨behind, _, hbehind⟩
      · exact not_isBoundaryParameter p ps value hparameter
      · exact not_placeIn_append p.no_semicolon ih behind hbehind

/-! ### What is announced -/

namespace Announcement

variable (a : Announcement)

theorem mem_value {c : Char} (hc : c ∈ a.value) : c = '"' ∨ c ∈ a.boundary.chars := by
  unfold value at hc
  by_cases hquoted : a.isQuoted = true
  · rw [if_pos hquoted, List.mem_cons, List.mem_append, List.mem_singleton] at hc
    rcases hc with hc | hc | hc
    · exact .inl hc
    · exact .inr hc
    · exact .inl hc
  · rw [if_neg hquoted] at hc
    exact .inr hc

theorem readable_text : ∀ c ∈ a.text.toList, IsReadableChar c := by
  have hparameters : ∀ ps : List Parameter, ∀ c ∈ parametersText ps, IsReadableChar c := by
    intro ps c hc
    rcases List.mem_flatMap.1 hc with ⟨p, _, hmem⟩
    rcases List.mem_cons.1 hmem with rfl | hmem
    · exact .inr (by decide)
    · exact p.readable c hmem
  have hvalue : ∀ c ∈ a.value, IsReadableChar c := by
    intro c hc
    rcases a.mem_value hc with rfl | hc
    · exact .inr (by decide)
    · exact (boundaryChar_spec (a.boundary.legal c hc)).1
  have htype : ∀ c ∈ a.type, IsReadableChar c := fun c hc =>
    isReadableChar_of_lower a.spells_type ((all_isReadable_ofText _).1 (by decide +kernel)) hc
  have hname : ∀ c ∈ a.name, IsReadableChar c := fun c hc =>
    isReadableChar_of_lower a.spells_name ((all_isReadable_ofText _).1 (by decide +kernel)) hc
  have hpad : ∀ cs : List Char, (∀ c ∈ cs, Text.isPadding c = true) → ∀ c ∈ cs, IsReadableChar c :=
    fun cs h c hc => isReadableChar_of_isPadding (h c hc)
  have hmark : IsReadableChar '/' ∧ IsReadableChar ';' ∧ IsReadableChar '=' := by
    unfold IsReadableChar
    decide
  unfold text front back
  rw [String.toList_ofList]
  simp only [List.forall_mem_append, List.forall_mem_cons]
  exact ⟨⟨htype, hmark.1, a.subtype_readable, hparameters _⟩, hmark.2.1, hpad _ a.blanks_pad,
    ⟨hname, hmark.2.2, List.forall_mem_nil _⟩, ⟨hvalue, hpad _ a.padding_pad⟩, hparameters _⟩

theorem semicolon_not_mem_value : ';' ∉ a.value ++ a.padding := by
  rw [List.mem_append, not_or]
  constructor
  · intro hc
    rcases a.mem_value hc with hc | hc
    · exact absurd hc (by decide)
    · exact (boundaryChar_spec (a.boundary.legal _ hc)).2.1 rfl
  · intro hc
    exact absurd (a.padding_pad _ hc) (by decide)

theorem value_ne_nil : a.value ++ a.padding ≠ [] := by
  rcases a.boundary.last_ne with ⟨c, hlast, _⟩
  have hmem : c ∈ a.value := by
    unfold value
    by_cases hquoted : a.isQuoted = true
    · rw [if_pos hquoted]
      exact List.mem_cons_of_mem _ (List.mem_append_left _ (List.mem_of_getLast? hlast))
    · rw [if_neg hquoted]
      exact List.mem_of_getLast? hlast
  exact List.ne_nil_of_mem (List.mem_append_left _ hmem)

theorem isBoundaryParameter_back : IsBoundaryParameter a.back (a.value ++ a.padding) := by
  refine ⟨a.blanks, a.name ++ ['='], parametersText a.after, rfl,
    fun c hc => isBlank_of_isPadding (a.blanks_pad c hc), ?_, a.value_ne_nil,
    a.semicolon_not_mem_value, parametersText_eq_or a.after⟩
  unfold Text.lower
  rw [List.map_append]
  exact congrArg (· ++ ['=']) a.spells_name

-- Behind the semicolon of the boundary there are only parameters of other names.
theorem not_placeIn_behind (value before : List Char) : ¬ PlaceIn (a.blanks ++ ((a.name ++ ['=']) ++
    ((a.value ++ a.padding) ++ parametersText a.after))) before value := by
  have hblanks : ';' ∉ a.blanks := fun hc => absurd (a.blanks_pad _ hc) (by decide)
  have hname : ';' ∉ a.name ++ ['='] := by
    rw [List.mem_append, not_or]
    exact ⟨not_mem_of_lower_eq (by decide) a.spells_name (by decide), by decide⟩
  refine not_placeIn_append hblanks (not_placeIn_append hname ?_) before
  exact not_placeIn_append a.semicolon_not_mem_value (not_placeIn_parametersText a.after value)

theorem isLast_occursIn : IsLast (OccursIn a.text.toList) (a.value ++ a.padding) := by
  have hline : a.text.toList = a.front ++ a.back := String.toList_ofList
  rw [hline]
  have hplace : PlaceIn (a.front ++ a.back) a.front (a.value ++ a.padding) :=
    ⟨a.back, rfl, a.isBoundaryParameter_back⟩
  refine ⟨a.front, ⟨⟨[], a.type, _, rfl, a.spells_type⟩, hplace⟩, ?_⟩
  rintro before value ⟨_, rest, hcut, hparameter⟩
  refine Nat.not_lt.1 fun hlt => ?_
  rcases List.append_eq_append_iff.1 hcut with ⟨more, hbefore, hback⟩ | ⟨more, hfront, _⟩
  · cases more with
    | nil =>
        rw [hbefore, List.append_nil] at hlt
        exact Nat.lt_irrefl _ hlt
    | cons c behind =>
        exact a.not_placeIn_behind value behind ⟨rest, (List.cons.inj hback).2, hparameter⟩
  · rw [hfront, List.length_append] at hlt
    omega

theorem unquoted_value : unquoted (a.value ++ a.padding) = a.boundary.chars := by
  have hlegal := fun c hc => boundaryChar_spec (a.boundary.legal c hc)
  have hquote : '"' ∉ a.boundary.chars := fun hc => (hlegal _ hc).2.2.1 rfl
  unfold unquoted Text.trim
  rw [Text.trimBy_append_of_all _ _ fun c hc => isBlank_of_isPadding (a.padding_pad c hc)]
  unfold value
  by_cases hquoted : a.isQuoted = true
  · rw [if_pos hquoted]
    exact unquoted_closed a.boundary.chars hquote
  · rw [if_neg hquoted, Text.trimBy_of_none Text.isBlank, Text.trimBy_of_none]
    · exact fun c hc => beq_eq_false_iff_ne.2 (ne_of_mem_of_not_mem hc hquote)
    · have hspace := a.bare_no_space (Bool.eq_false_iff.2 hquoted)
      exact fun c hc => (hlegal c hc).2.2.2 (ne_of_mem_of_not_mem hc hspace)

theorem gives_text : Gives a.text (String.ofList a.boundary.chars) := by
  rw [gives_iff, boundaryParameter?_eq_some_iff.2 a.isLast_occursIn, Option.map_some,
    a.unquoted_value, String.toList_ofList]

end Announcement

/-- The boundary of a well-formed content type is found as it is written, whatever the case of the
    words, whether there are quotes around it or not, and whatever other parameters there are.
    In headers of any kind, what the first line gives that gives a boundary which is not empty is
    the boundary, and only headers without such a line are refused. -/
theorem boundary_announced :
    (∀ (a : Announcement) (h more : Headers),
      extractBoundary (h.insert "content-type" (Bytes.ofText a.text) ++ more) =
        .ok (String.ofList a.boundary.chars)) ∧
    (∀ (h : Headers) (b : String),
      extractBoundary h = .ok b ↔ IsFirstOf (h.texts "content-type") b) ∧
    ∀ (h : Headers) (e : NetError), extractBoundary h = .error e ↔
      e = .decode "not a valid multipart body" ∧ AllSilent (h.texts "content-type") := by
  refine ⟨fun a h more => ?_, fun h b => extractBoundary_eq_ok_iff,
    fun h e => extractBoundary_eq_error_iff⟩
  have hlines : (h.insert "content-type" (Bytes.ofText a.text) ++ more).texts "content-type" =
      [] ++ a.text :: more.texts "content-type" := by
    unfold Headers.texts
    rw [Headers.values_concat, Headers.values_insert, if_pos rfl, List.singleton_append,
      List.filterMap_cons_some (valueText?_of_readable a.text a.readable_text), List.nil_append]
  have hne : String.ofList a.boundary.chars ≠ "" := by
    intro hempty
    rcases a.boundary.last_ne with ⟨c, hlast, _⟩
    have hnil := congrArg String.toList hempty
    rw [String.toList_ofList] at hnil
    rw [hnil] at hlast
    cases hlast
  exact extractBoundary_of_isFirstOf
    ⟨[], a.text, more.texts "content-type", hlines, a.gives_text, hne, fun _ hnone =>
      absurd hnone List.not_mem_nil⟩

/-- A content type with a boundary in quotes between two other parameters. -/
def mixedType : Announcement where
  type := "Multipart".toList
  subtype := "mixed".toList
  before := [⟨" a=boundary=x".toList, (all_isReadable_ofText _).1 (by decide +kernel), by decide,
    by decide⟩]
  blanks := [' ']
  name := "Boundary".toList
  boundary := ⟨" b=?".toList, by decide, List.all_eq_true.1 (by decide), '?', by decide⟩
  isQuoted := true
  padding := [' ']
  after := [⟨"c=multipart".toList, (all_isReadable_ofText _).1 (by decide +kernel), by decide,
    by decide⟩]
  spells_type := by decide
  subtype_readable := (all_isReadable_ofText _).1 (by decide +kernel)
  subtype_no_semicolon := by decide
  blanks_pad := List.all_eq_true.1 (by decide)
  spells_name := by decide
  bare_no_space := fun hbare => absurd hbare (by decide)
  padding_pad := List.all_eq_true.1 (by decide)

theorem mixedType_announces :
    mixedType.text = "Multipart/mixed; a=boundary=x; Boundary=\" b=?\" ;c=multipart" ∧
      extractBoundary [("content-type", Bytes.ofText mixedType.text)] = .ok " b=?" :=
  ⟨by decide, boundary_announced.1 mixedType [] []⟩

end Multipart

end Http

end DemandNet
