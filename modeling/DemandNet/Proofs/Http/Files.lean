import DemandNet.Http.Files
import DemandNet.Proofs.Text.Split
import Mathlib.Data.List.TakeWhile

/-!
# Files Stay below Their Root

Which request paths lead to a file of a mounted directory, and to which one.

A path is read twice here: as text, cut at its slashes, and as a file system reads it, as a
list of parts. In the second reading a slash at the beginning is the root of everything,
two dots lead up, and a single dot is a part of its own only at the very beginning. What
leads out of a directory can be seen in the parts alone, so containment is stated there:
the parts of a file are those of the root it is served from, and then names.

The request is described without following the program: what it names is the piece between
the mount path, bare of the slashes at its end, and the first question mark.

## Main definitions

* `PathPart`, `pathParts`: A path as a file system reads it.
* `Below`: What a request path names below a mount path.
* `IsSafe`: What may be named.
* `namesIn`: The names in it.

## Theorems

* `belowMount?_eq_some_iff`: The program finds what is named.
* `pathParts_joinPath`: A path with one more name has one more part.
* `resolveFile_eq_some_iff`: Where a request leads.
* `resolveFile_below_root`: It leads below the root or nowhere.
-/

namespace DemandNet

namespace Http

/-- A part of a path. -/
inductive PathPart where
  /-- The root of everything. -/
  | root
  /-- A single dot at the beginning. -/
  | here
  /-- Two dots. -/
  | up
  | name (text : List Char)
  deriving Repr, DecidableEq

/-- The names in a text, and whatever else stands between its slashes and means
    something. -/
def namesIn (path : List Char) : List (List Char) :=
  (path.splitOn '/').filter fun piece => piece ≠ [] ∧ piece ≠ ['.']

/-- What a piece between slashes is. -/
def PathPart.ofPiece (piece : List Char) : PathPart :=
  if piece = ['.', '.'] then .up else .name piece

/-- The beginning of a path, which says from where it leads. -/
def pathStart (path : List Char) : List PathPart :=
  if path.head? = some '/' then [.root]
  else if (path.splitOn '/').head? = some ['.'] then [.here]
  else []

/-- A path as a file system reads it. -/
def pathParts (path : List Char) : List PathPart :=
  pathStart path ++ (namesIn path).map PathPart.ofPiece

/-- A name that leads to an entry of a directory. -/
structure IsEntryName (name : List Char) : Prop where
  ne_nil : name ≠ []
  ne_here : name ≠ ['.']
  ne_up : name ≠ ['.', '.']
  not_slash : '/' ∉ name

/-- What a request path names below a mount path: it follows the mount path, without the
    slashes at the end of that, and ends before the first question mark. -/
def Below (mount path below : List Char) : Prop :=
  ∃ bare slashes query,
    mount = bare ++ slashes ∧ bare.getLast? ≠ some '/' ∧ (∀ c ∈ slashes, c = '/') ∧
      path = bare ++ below ++ query ∧ '?' ∉ below ∧ (query = [] ∨ query.head? = some '?')

/-- What may be named: something, behind a slash, without a backslash and without two dots
    between slashes. -/
structure IsSafe (below : List Char) : Prop where
  slash : below.head? = some '/'
  something : ∃ c ∈ below, c ≠ '/'
  not_backslash : '\\' ∉ below
  not_up : ['.', '.'] ∉ below.splitOn '/'

/-! ### What a request names -/

theorem afterStart?_eq_some_iff (start cs rest : List Char) :
    Routing.afterStart? start cs = some rest ↔ cs = start ++ rest := by
  unfold Routing.afterStart?
  by_cases h : start.isPrefixOf cs = true
  · rcases List.isPrefixOf_iff_prefix.1 h with ⟨tail, rfl⟩
    rw [if_pos h, List.drop_left, Option.some.injEq, List.append_cancel_left_eq]
  · rw [if_neg h]
    have hne : cs ≠ start ++ rest := by
      intro heq
      exact h (List.isPrefixOf_iff_prefix.2 ⟨rest, heq.symm⟩)
    simp only [reduceCtorEq, hne]

theorem trimEndBy_slash_eq_iff (mount bare : List Char) :
    Text.trimEndBy (· == '/') mount = bare ↔
      ∃ slashes, mount = bare ++ slashes ∧ bare.getLast? ≠ some '/' ∧ ∀ c ∈ slashes, c = '/' := by
  have hlast : (∀ c, bare.getLast? = some c → (c == '/') = false) ↔
      bare.getLast? ≠ some '/' := by
    constructor
    · intro h heq
      exact Bool.false_ne_true (h '/' heq).symm
    · intro h c hc
      rw [beq_eq_false_iff_ne]
      intro heq
      exact h (heq ▸ hc)
  rw [Text.trimEndBy_eq_iff, hlast]
  simp only [beq_iff_eq]
  constructor
  · rintro ⟨slashes, hmount, hslashes, hne⟩
    exact ⟨slashes, hmount, hne, hslashes⟩
  · rintro ⟨slashes, hmount, hne, hslashes⟩
    exact ⟨slashes, hmount, hslashes, hne⟩

theorem takeWhile_query_eq_iff (rest below : List Char) :
    rest.takeWhile (· != '?') = below ↔
      ∃ query, rest = below ++ query ∧ '?' ∉ below ∧ (query = [] ∨ query.head? = some '?') := by
  have hnone : ∀ cs : List Char, (∀ c ∈ cs, (c != '?') = true) ↔ '?' ∉ cs := by
    intro cs
    simp only [bne_iff_ne]
    exact ⟨fun h hmem => h '?' hmem rfl, fun h c hc heq => h (heq ▸ hc)⟩
  constructor
  · intro h
    refine ⟨rest.dropWhile (· != '?'), ?_, ?_, ?_⟩
    · rw [← h, List.takeWhile_append_dropWhile]
    · rw [← h]
      exact (hnone _).1 fun c hc => List.mem_takeWhile_imp (p := (· != '?')) hc
    · cases hd : rest.dropWhile (· != '?') with
      | nil => exact Or.inl rfl
      | cons c cs =>
          have hc := List.head?_dropWhile_not (· != '?') rest
          rw [hd] at hc
          simp only [List.head?_cons, bne_eq_false_iff_eq] at hc
          rw [hc]
          exact Or.inr rfl
  · rintro ⟨query, rfl, hbelow, hquery⟩
    rw [List.takeWhile_append_of_pos ((hnone below).2 hbelow)]
    rcases hquery with rfl | hquery
    · rw [List.takeWhile_nil, List.append_nil]
    · cases query with
      | nil => simp only [List.head?_nil, reduceCtorEq] at hquery
      | cons c cs =>
          rw [List.head?_cons, Option.some.injEq] at hquery
          rw [List.takeWhile_cons_of_neg, List.append_nil]
          simp only [hquery, bne_self_eq_false, Bool.false_eq_true, not_false_eq_true]

-- The program trims, looks and cuts in this order; each step is one of the three pieces of
-- the description.
theorem belowMount?_eq_some_iff (mount path rest : List Char) :
    belowMount? mount path = some rest ↔
      ∃ below, Below mount path below ∧ below.head? = some '/' ∧
        rest = below.dropWhile (· == '/') := by
  constructor
  · intro h
    unfold belowMount? at h
    generalize hbare : Text.trimEndBy (· == '/') mount = bare at h
    cases hafter : Routing.afterStart? bare path with
    | none =>
        rw [hafter] at h
        simp only [reduceCtorEq] at h
    | some tail =>
        rw [hafter] at h
        dsimp only at h
        generalize hbelow : tail.takeWhile (· != '?') = below at h
        have hslash : below.head? = some '/' := by
          by_contra hne
          rw [if_neg (by rw [beq_iff_eq]; exact hne)] at h
          simp only [reduceCtorEq] at h
        rw [if_pos (by rw [beq_iff_eq]; exact hslash), Option.some.injEq] at h
        rcases (trimEndBy_slash_eq_iff mount bare).1 hbare with ⟨slashes, hmount, hlast, hslashes⟩
        rcases (takeWhile_query_eq_iff tail below).1 hbelow with ⟨query, htail, hno, hquery⟩
        have hpath := (afterStart?_eq_some_iff bare path tail).1 hafter
        rw [htail, ← List.append_assoc] at hpath
        exact ⟨below, ⟨bare, slashes, query, hmount, hlast, hslashes, hpath, hno, hquery⟩,
          hslash, h.symm⟩
  · rintro ⟨below, ⟨bare, slashes, query, hmount, hlast, hslashes, hpath, hno, hquery⟩, hslash,
      rfl⟩
    have hbare : Text.trimEndBy (· == '/') mount = bare :=
      (trimEndBy_slash_eq_iff mount bare).2 ⟨slashes, hmount, hlast, hslashes⟩
    have hafter : Routing.afterStart? bare path = some (below ++ query) := by
      rw [afterStart?_eq_some_iff, hpath, List.append_assoc]
    have hbelow : (below ++ query).takeWhile (· != '?') = below :=
      (takeWhile_query_eq_iff _ below).2 ⟨query, rfl, hno, hquery⟩
    unfold belowMount?
    rw [hbare, hafter]
    dsimp only
    rw [hbelow, if_pos (by rw [beq_iff_eq]; exact hslash)]

/-! ### The pieces of what is named -/

theorem properPieces_eq_namesIn (path : List Char) : properPieces path = namesIn path := by
  unfold properPieces namesIn
  rw [Text.splitOn_beq]
  refine List.filter_congr fun piece _ => ?_
  by_cases hne : piece = []
  · rw [hne]
    rfl
  · by_cases hdot : piece = ['.']
    · rw [hdot]
      rfl
    · have hfull : piece.isEmpty = false := Bool.eq_false_iff.2 (mt List.isEmpty_iff.1 hne)
      have hother : (piece != ['.']) = true := bne_iff_ne.2 hdot
      rw [hfull, hother, decide_eq_true ⟨hne, hdot⟩]
      rfl

-- A slash in front only adds an empty piece.
theorem namesIn_slash (path : List Char) : namesIn ('/' :: path) = namesIn path := by
  unfold namesIn
  rw [List.splitOn_cons_eq_if_modifyHead, if_pos (beq_self_eq_true '/'),
    List.filter_cons_of_neg (by simp)]

theorem namesIn_dropWhile (path : List Char) :
    namesIn (path.dropWhile (· == '/')) = namesIn path := by
  induction path with
  | nil => rfl
  | cons c rest ih =>
      by_cases hc : c = '/'
      · rw [List.dropWhile_cons_of_pos (by rw [beq_iff_eq]; exact hc), hc, namesIn_slash]
        exact ih
      · rw [List.dropWhile_cons_of_neg (by rw [beq_iff_eq]; exact hc)]

theorem mem_dropWhile_slash (path : List Char) (c : Char) (hc : c ≠ '/') :
    c ∈ path.dropWhile (· == '/') ↔ c ∈ path := by
  constructor
  · exact fun h => (List.dropWhile_sublist _).subset h
  · intro h
    rw [← List.takeWhile_append_dropWhile (p := (· == '/')) (l := path), List.mem_append] at h
    rcases h with h | h
    · exact absurd (beq_iff_eq.1 (List.mem_takeWhile_imp (p := (· == '/')) h)) hc
    · exact h

theorem isEntryName_of_mem (below : List Char) (hsafe : IsSafe below) :
    ∀ name ∈ namesIn below, IsEntryName name := by
  intro name hname
  rcases List.mem_filter.1 hname with ⟨hmem, hne⟩
  rw [decide_eq_true_eq] at hne
  refine ⟨hne.1, hne.2, ?_, Text.not_mem_of_mem_splitOn '/' below name hmem⟩
  intro hup
  exact hsafe.not_up (hup ▸ hmem)

/-! ### Paths with more parts -/

theorem namesIn_joinPath (path name : List Char) (hname : IsEntryName name) :
    namesIn (joinPath path name) = namesIn path ++ [name] := by
  have hsingle : name.splitOn '/' = [name] := List.splitOn_eq_singleton hname.not_slash
  have hkept : [name].filter (fun piece => piece ≠ [] ∧ piece ≠ ['.']) = [name] := by
    rw [List.filter_cons_of_pos]
    · rfl
    · rw [decide_eq_true_eq]
      exact ⟨hname.ne_nil, hname.ne_here⟩
  unfold joinPath
  by_cases hempty : path = []
  · rw [if_pos (by rw [hempty]; rfl), hempty]
    unfold namesIn
    rw [hsingle, hkept]
    rfl
  · rw [if_neg (by rw [List.isEmpty_iff]; exact hempty)]
    by_cases hlast : path.getLast? = some '/'
    · -- The slash is there already, and the empty piece behind it makes room for the name.
      rw [if_pos (by rw [beq_iff_eq]; exact hlast)]
      rcases List.getLast?_eq_some_iff.1 hlast with ⟨before, rfl⟩
      unfold namesIn
      rw [List.append_assoc, List.singleton_append, List.splitOn_append_cons_self, hsingle,
        List.filter_append, hkept, List.splitOn_append_cons_self, List.filter_append,
        List.splitOn_nil]
      simp only [ne_eq, not_true_eq_false, false_and, decide_false, Bool.false_eq_true,
        not_false_eq_true, List.filter_cons_of_neg, List.filter_nil, List.append_nil]
    · rw [if_neg (by rw [beq_iff_eq]; exact hlast)]
      unfold namesIn
      rw [List.splitOn_append_cons_self, hsingle, List.filter_append, hkept]

theorem pathStart_joinPath (path name : List Char) (hname : IsEntryName name) :
    pathStart (joinPath path name) = pathStart path := by
  have hsingle : name.splitOn '/' = [name] := List.splitOn_eq_singleton hname.not_slash
  unfold joinPath
  by_cases hempty : path = []
  · have hhead : name.head? ≠ some '/' := by
      intro h
      exact hname.not_slash (List.mem_of_mem_head? h)
    rw [if_pos (by rw [hempty]; rfl), hempty]
    unfold pathStart
    rw [if_neg hhead, hsingle, if_neg]
    · rfl
    · simp only [List.head?_cons, Option.some.injEq]
      exact hname.ne_here
  · -- What is appended changes neither the first character nor the first piece.
    have hsame : ∀ more pieces, (path ++ more).splitOn '/' = pieces ++ [name] →
        pieces.head? = (path.splitOn '/').head? → pieces ≠ [] →
        pathStart (path ++ more) = pathStart path := by
      intro more pieces hsplit hhead hne
      unfold pathStart
      rw [hsplit, List.head?_append_of_ne_nil _ hempty, List.head?_append_of_ne_nil _ hne, hhead]
    rw [if_neg (by rw [List.isEmpty_iff]; exact hempty)]
    by_cases hlast : path.getLast? = some '/'
    · rw [if_pos (by rw [beq_iff_eq]; exact hlast)]
      rcases List.getLast?_eq_some_iff.1 hlast with ⟨before, rfl⟩
      refine hsame name (before.splitOn '/') ?_ ?_ (List.splitOn_ne_nil _ _)
      · rw [List.append_assoc, List.singleton_append, List.splitOn_append_cons_self, hsingle]
      · rw [List.splitOn_append_cons_self,
          List.head?_append_of_ne_nil _ (List.splitOn_ne_nil _ _)]
    · rw [if_neg (by rw [beq_iff_eq]; exact hlast)]
      refine hsame ('/' :: name) (path.splitOn '/') ?_ rfl (List.splitOn_ne_nil _ _)
      rw [List.splitOn_append_cons_self, hsingle]

theorem pathParts_joinPath (path name : List Char) (hname : IsEntryName name) :
    pathParts (joinPath path name) = pathParts path ++ [.name name] := by
  unfold pathParts
  rw [pathStart_joinPath path name hname, namesIn_joinPath path name hname, List.map_append,
    List.map_singleton, PathPart.ofPiece, if_neg hname.ne_up, List.append_assoc]

theorem pathParts_joinPaths (names : List (List Char)) (hnames : ∀ name ∈ names, IsEntryName name) :
    ∀ path, pathParts (names.foldl joinPath path) = pathParts path ++ names.map .name := by
  induction names with
  | nil => exact fun path => (List.append_nil _).symm
  | cons name rest ih =>
      intro path
      have hrest := ih (fun other hother => hnames other (List.mem_cons_of_mem _ hother))
        (joinPath path name)
      rw [List.foldl_cons, hrest, pathParts_joinPath path name (hnames name List.mem_cons_self),
        List.map_cons, List.append_assoc, List.singleton_append]

/-! ### Where a request leads -/

-- The program asks this of what stands behind the leading slashes.
theorem isSafe_iff (below : List Char) (hslash : below.head? = some '/') :
    IsSafe below ↔
      ((below.dropWhile (· == '/')).isEmpty || (below.dropWhile (· == '/')).contains '\\') =
          false ∧
        ¬ (namesIn below).contains ['.', '.'] = true := by
  have hempty : (below.dropWhile (· == '/')).isEmpty = false ↔ ∃ c ∈ below, c ≠ '/' := by
    rw [Bool.eq_false_iff, ne_eq, List.isEmpty_iff, List.dropWhile_eq_nil_iff]
    simp only [beq_iff_eq, not_forall, exists_prop]
  have hback : (below.dropWhile (· == '/')).contains '\\' = false ↔ '\\' ∉ below := by
    rw [Bool.eq_false_iff, ne_eq, List.contains_iff_mem,
      mem_dropWhile_slash below '\\' (by decide)]
  have hup : ¬ (namesIn below).contains ['.', '.'] = true ↔
      ['.', '.'] ∉ below.splitOn '/' := by
    rw [List.contains_iff_mem, namesIn, List.mem_filter]
    simp
  rw [Bool.or_eq_false_iff, hempty, hback, hup]
  constructor
  · exact fun h => ⟨⟨h.something, h.not_backslash⟩, h.not_up⟩
  · exact fun h => ⟨hslash, h.1.1, h.1.2, h.2⟩

theorem resolveFile_eq_some_iff (root mount path file : String) :
    resolveFile root mount path = some file ↔
      ∃ below, Below mount.toList path.toList below ∧ IsSafe below ∧
        file.toList = (namesIn below).foldl joinPath root.toList := by
  unfold resolveFile
  constructor
  · intro h
    cases hrest : belowMount? mount.toList path.toList with
    | none =>
        rw [hrest] at h
        simp only [reduceCtorEq] at h
    | some rest =>
        rw [hrest] at h
        dsimp only at h
        rcases (belowMount?_eq_some_iff _ _ _).1 hrest with ⟨below, hbelow, hslash, heq⟩
        rw [properPieces_eq_namesIn, heq, namesIn_dropWhile] at h
        by_cases hnothing : ((below.dropWhile (· == '/')).isEmpty ||
            (below.dropWhile (· == '/')).contains '\\') = true
        · rw [if_pos hnothing] at h
          simp only [reduceCtorEq] at h
        rw [if_neg hnothing] at h
        by_cases hup : (namesIn below).contains ['.', '.'] = true
        · rw [if_pos hup] at h
          simp only [reduceCtorEq] at h
        rw [if_neg hup, Option.some.injEq] at h
        refine ⟨below, hbelow, (isSafe_iff below hslash).2 ⟨?_, hup⟩, ?_⟩
        · exact Bool.eq_false_iff.2 hnothing
        · rw [← h, String.toList_ofList]
  · intro ⟨below, hbelow, hsafe, hfile⟩
    have hrest := (belowMount?_eq_some_iff _ _ _).2 ⟨below, hbelow, hsafe.slash, rfl⟩
    rcases (isSafe_iff below hsafe.slash).1 hsafe with ⟨hsomething, hup⟩
    rw [hrest]
    dsimp only
    rw [properPieces_eq_namesIn, namesIn_dropWhile, hsomething, if_neg Bool.false_ne_true,
      if_neg hup, ← hfile, String.ofList_toList]

-- The two readings of a path meet here: what was asked for in the text decides whether
-- there is a file, and the parts of the file say that it is below the root.
theorem resolveFile_below_root (root mount path : String) :
    ((resolveFile root mount path).isSome = true ↔
        ∃ below, Below mount.toList path.toList below ∧ IsSafe below) ∧
      ∀ file, resolveFile root mount path = some file ↔
        ∃ below, Below mount.toList path.toList below ∧ IsSafe below ∧
          file.toList = (namesIn below).foldl joinPath root.toList ∧
          pathParts file.toList = pathParts root.toList ++ (namesIn below).map .name ∧
          ∀ name ∈ namesIn below, IsEntryName name := by
  constructor
  · rw [Option.isSome_iff_exists]
    constructor
    · intro ⟨file, hfile⟩
      rcases (resolveFile_eq_some_iff root mount path file).1 hfile with ⟨below, hbelow, hsafe, _⟩
      exact ⟨below, hbelow, hsafe⟩
    · intro ⟨below, hbelow, hsafe⟩
      refine ⟨String.ofList ((namesIn below).foldl joinPath root.toList),
        (resolveFile_eq_some_iff root mount path _).2 ⟨below, hbelow, hsafe, ?_⟩⟩
      exact String.toList_ofList
  · intro file
    constructor
    · intro hfile
      rcases (resolveFile_eq_some_iff root mount path file).1 hfile with
        ⟨below, hbelow, hsafe, htext⟩
      have hnames := isEntryName_of_mem below hsafe
      refine ⟨below, hbelow, hsafe, htext, ?_, hnames⟩
      rw [htext, pathParts_joinPaths (namesIn below) hnames]
    · intro ⟨below, hbelow, hsafe, htext, _⟩
      exact (resolveFile_eq_some_iff root mount path file).2 ⟨below, hbelow, hsafe, htext⟩

/-- A question mark hides what follows it, two dots included. -/
example : resolveFile "/srv" "/files/" "/files//docs/./a.html?/../b" = some "/srv/docs/a.html" := by
  decide

end Http

end DemandNet
