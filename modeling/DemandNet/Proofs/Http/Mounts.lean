import DemandNet.Http.Serving
import DemandNet.Proofs.Http.Files

/-!
# Mounted Directories

A directory that is mounted at a path, seen by the route and by the files behind it.

The two take the mount path off a request each in its own way. The route has a path without
slashes at its end, where a lone slash stays, and looks at what comes next; the files take
all slashes off the end and want one to come next. They agree nevertheless: whatever leads to
a file is matched, and what is matched but leads nowhere names nothing below the mount, or
something that is refused. Of the mount path only the slashes at its end do not matter, as
long as there is a mount path at all: the empty one stands for every path that begins with a
slash, and for the empty path besides.

## Main definitions

* `Remainder`: What a request path has behind the mount path.
* `NamesNothing`: What leads nowhere.
* `SlashesApart`: Two mount paths that are told apart by the slashes at their ends.

## Theorems

* `normalizeMount_eq`: A mount path without the slashes at its end.
* `isBelow_iff`: A path is at or below a mount path.
* `resolveFile_eq_none_iff`: What of the matched leads nowhere.
* `directory_route_agrees`: The route and the files agree.
-/

namespace DemandNet

namespace Http

open Routing (Method Predicate afterStart? isBelow normalizeMount)

/-- What a request path has behind a mount path: all up to the first question mark. -/
def Remainder (mount path rest : List Char) : Prop :=
  ∃ query, path = mount ++ rest ++ query ∧ '?' ∉ rest ∧ (query = [] ∨ query.head? = some '?')

/-- This leads nowhere: nothing or only slashes, or it has a backslash, or two dots between
    slashes. -/
def NamesNothing (rest : List Char) : Prop :=
  (∀ c ∈ rest, c = '/') ∨ '\\' ∈ rest ∨ ['.', '.'] ∈ rest.splitOn '/'

/-- Two paths that are the same but for the slashes at their ends. -/
def SlashesApart (mount other : List Char) : Prop :=
  ∃ bare m n, mount = bare ++ List.replicate m '/' ∧ other = bare ++ List.replicate n '/'

/-! ### Mount paths -/

theorem trimEndBy_slashes (bare : List Char) (n : Nat) :
    Text.trimEndBy (· == '/') (bare ++ List.replicate n '/') = Text.trimEndBy (· == '/') bare :=
  Text.trimEndBy_append_of_all _ bare fun _ hc => beq_iff_eq.2 (List.eq_of_mem_replicate hc)

-- A mount path that is all slashes keeps the first of them.
theorem normalizeMount_eq (mount : List Char) : normalizeMount mount =
    if Text.trimEndBy (· == '/') mount = [] then mount.take 1
    else Text.trimEndBy (· == '/') mount := by
  cases mount with
  | nil => rfl
  | cons c rest =>
      have hcons : normalizeMount (c :: rest) = c :: Text.trimEndBy (· == '/') rest := rfl
      rw [Text.trimEndBy_cons, hcons]
      by_cases hall : (c == '/') = true ∧ Text.trimEndBy (· == '/') rest = []
      · rw [if_pos hall, if_pos rfl, hall.2]
        rfl
      · rw [if_neg hall, if_neg (List.cons_ne_nil _ _)]

theorem take_one_of_trimEndBy {mount : List Char} (hne : mount ≠ [])
    (h : Text.trimEndBy (· == '/') mount = []) : mount.take 1 = ['/'] := by
  rcases (trimEndBy_slash_eq_iff mount []).1 h with ⟨slashes, hmount, -, hslashes⟩
  rw [List.nil_append] at hmount
  rw [← hmount] at hslashes
  cases mount with
  | nil => exact absurd rfl hne
  | cons c rest =>
      rw [hslashes c List.mem_cons_self]
      rfl

/-- What is left of a mount path: nothing of an empty one, a lone slash of one that is all
    slashes, and otherwise all but the slashes at its end. -/
theorem normalizeMount_cases (mount : List Char) :
    (Text.trimEndBy (· == '/') mount = [] ∧ normalizeMount mount = ['/']) ∨
      normalizeMount mount = Text.trimEndBy (· == '/') mount := by
  rw [normalizeMount_eq]
  by_cases hbare : Text.trimEndBy (· == '/') mount = []
  · rw [if_pos hbare]
    by_cases hne : mount = []
    · right
      rw [hne]
      rfl
    · exact .inl ⟨hbare, take_one_of_trimEndBy hne hbare⟩
  · rw [if_neg hbare]
    exact .inr rfl

theorem trimEndBy_normalizeMount (mount : List Char) :
    Text.trimEndBy (· == '/') (normalizeMount mount) = Text.trimEndBy (· == '/') mount := by
  rcases normalizeMount_cases mount with ⟨hbare, hnorm⟩ | hnorm
  · rw [hnorm, hbare]
    rfl
  · rcases (trimEndBy_slash_eq_iff mount _).1 rfl with ⟨_, -, hlast, -⟩
    rw [hnorm, trimEndBy_slash_eq_iff]
    exact ⟨[], (List.append_nil _).symm, hlast, fun c hc => absurd hc List.not_mem_nil⟩

theorem normalizeMount_of_slashesApart {mount other : List Char} (hmount : mount ≠ [])
    (hother : other ≠ []) (h : SlashesApart mount other) :
    normalizeMount mount = normalizeMount other := by
  have hsame : Text.trimEndBy (· == '/') mount = Text.trimEndBy (· == '/') other := by
    rcases h with ⟨bare, m, n, rfl, rfl⟩
    rw [trimEndBy_slashes, trimEndBy_slashes]
  rw [normalizeMount_eq, normalizeMount_eq, ← hsame]
  by_cases hbare : Text.trimEndBy (· == '/') mount = []
  · rw [if_pos hbare, if_pos hbare, take_one_of_trimEndBy hmount hbare,
      take_one_of_trimEndBy hother (hsame ▸ hbare)]
  · rw [if_neg hbare, if_neg hbare]

/-! ### What is matched -/

theorem isBelow_iff (mount path : List Char) : isBelow mount path = true ↔
    ∃ rest, path = mount ++ rest ∧ (rest = [] ∨ rest.head? = some '/' ∨ mount = ['/']) := by
  unfold isBelow
  constructor
  · intro h
    cases hafter : afterStart? mount path with
    | none =>
        rw [hafter] at h
        exact absurd h Bool.false_ne_true
    | some rest =>
        rw [hafter] at h
        simp only [Bool.or_eq_true, List.isEmpty_iff, beq_iff_eq, or_assoc] at h
        exact ⟨rest, (afterStart?_eq_some_iff mount path rest).1 hafter, h⟩
  · intro ⟨rest, hpath, hrest⟩
    rw [(afterStart?_eq_some_iff mount path rest).2 hpath]
    simp only [Bool.or_eq_true, List.isEmpty_iff, beq_iff_eq, or_assoc]
    exact hrest

theorem test_mountAt (mount path : String) :
    (Predicate.mountAt (some "GET") mount).test "GET" path =
      if isBelow (normalizeMount mount.toList) path.toList then some [] else none := rfl

-- What both sides look at stands behind the mount path without any slash at its end.
theorem isBelow_normalizeMount_iff (mount path : List Char) :
    isBelow (normalizeMount mount) path = true ↔
      ∃ tail, path = Text.trimEndBy (· == '/') mount ++ tail ∧
        (tail = [] ∧ normalizeMount mount ≠ ['/'] ∨ tail.head? = some '/') := by
  rw [isBelow_iff]
  rcases normalizeMount_cases mount with ⟨hbare, hnorm⟩ | hnorm
  · rw [hnorm, hbare]
    constructor
    · intro ⟨rest, hpath, _⟩
      exact ⟨path, rfl, Or.inr (by rw [hpath]; rfl)⟩
    · intro ⟨tail, hpath, htail⟩
      rw [List.nil_append] at hpath
      subst hpath
      rcases htail with ⟨_, hne⟩ | hhead
      · exact absurd rfl hne
      · exact ⟨path.tail, List.eq_cons_of_mem_head? hhead, Or.inr (Or.inr rfl)⟩
  · have hslash : normalizeMount mount ≠ ['/'] := by
      rcases (trimEndBy_slash_eq_iff mount _).1 rfl with ⟨_, -, hlast, -⟩
      rw [hnorm]
      intro heq
      rw [heq] at hlast
      exact hlast rfl
    rw [← hnorm]
    constructor
    · intro ⟨rest, hpath, hrest⟩
      refine ⟨rest, hpath, ?_⟩
      rcases hrest with hnil | hhead | hlone
      · exact Or.inl ⟨hnil, hslash⟩
      · exact Or.inr hhead
      · exact absurd hlone hslash
    · intro ⟨tail, hpath, htail⟩
      exact ⟨tail, hpath, htail.imp And.left Or.inl⟩

/-! ### What leads to a file -/

theorem namesNothing_slash (rest : List Char) : NamesNothing ('/' :: rest) ↔ NamesNothing rest := by
  have hback : '\\' ∈ '/' :: rest ↔ '\\' ∈ rest := by
    rw [List.mem_cons]
    exact or_iff_right (by decide)
  have hup : ['.', '.'] ∈ ('/' :: rest).splitOn '/' ↔ ['.', '.'] ∈ rest.splitOn '/' := by
    rw [List.splitOn_cons_eq_if_modifyHead, if_pos (beq_self_eq_true '/'), List.mem_cons]
    exact or_iff_right (by decide)
  unfold NamesNothing
  rw [hback, hup, List.forall_mem_cons]
  simp only [true_and]

theorem isSafe_iff_not_namesNothing {below : List Char}
    (h : below = [] ∨ below.head? = some '/') : IsSafe below ↔ ¬ NamesNothing below := by
  unfold NamesNothing
  rw [not_or, not_or]
  constructor
  · intro hsafe
    rcases hsafe.something with ⟨c, hc, hne⟩
    exact ⟨fun hall => hne (hall c hc), hsafe.not_backslash, hsafe.not_up⟩
  · intro ⟨hsome, hback, hup⟩
    rcases h with rfl | hhead
    · exact absurd (fun c hc => absurd hc List.not_mem_nil) hsome
    · refine ⟨hhead, ?_, hback, hup⟩
      simpa only [not_forall, exists_prop] using hsome

-- The files look at what stands there before the first question mark.
theorem isSome_resolveFile_iff {root mount path : String} {tail : List Char}
    (htail : path.toList = Text.trimEndBy (· == '/') mount.toList ++ tail) :
    (resolveFile root mount path).isSome = true ↔ IsSafe (tail.takeWhile (· != '?')) := by
  rw [Option.isSome_iff_exists]
  constructor
  · intro ⟨file, hfile⟩
    rcases (resolveFile_eq_some_iff root mount path file).1 hfile with
      ⟨below, ⟨bare, slashes, query, hmount, hlast, hslashes, hpath, hno, hquery⟩, hsafe, -⟩
    have hbare := (trimEndBy_slash_eq_iff mount.toList bare).2 ⟨slashes, hmount, hlast, hslashes⟩
    rw [hbare, hpath, List.append_assoc, List.append_cancel_left_eq] at htail
    rw [(takeWhile_query_eq_iff tail below).2 ⟨query, htail.symm, hno, hquery⟩]
    exact hsafe
  · intro hsafe
    rcases (trimEndBy_slash_eq_iff mount.toList _).1 rfl with ⟨slashes, hmount, hlast, hslashes⟩
    rcases (takeWhile_query_eq_iff tail _).1 rfl with ⟨query, hquery, hno, hend⟩
    rw [hquery, ← List.append_assoc] at htail
    refine ⟨String.ofList ((namesIn (tail.takeWhile (· != '?'))).foldl joinPath root.toList), ?_⟩
    rw [resolveFile_eq_some_iff]
    exact ⟨_, ⟨_, slashes, query, hmount, hlast, hslashes, htail, hno, hend⟩, hsafe,
      String.toList_ofList⟩

theorem isBelow_of_isSome {root mount path : String}
    (h : (resolveFile root mount path).isSome = true) :
    isBelow (normalizeMount mount.toList) path.toList = true := by
  rcases Option.isSome_iff_exists.1 h with ⟨file, hfile⟩
  rcases (resolveFile_eq_some_iff root mount path file).1 hfile with
    ⟨below, ⟨bare, slashes, query, hmount, hlast, hslashes, hpath, -, -⟩, hsafe, -⟩
  have hbare := (trimEndBy_slash_eq_iff mount.toList bare).2 ⟨slashes, hmount, hlast, hslashes⟩
  rw [isBelow_normalizeMount_iff, hbare]
  refine ⟨below ++ query, by rw [hpath, List.append_assoc], Or.inr ?_⟩
  rw [List.head?_append, hsafe.slash]
  rfl

-- The slashes at the end of the mount path do not matter to the files.
theorem resolveFile_mountPath (root mount path : String) :
    resolveFile root (mountPath mount) path = resolveFile root mount path := by
  unfold resolveFile belowMount? mountPath
  rw [String.toList_ofList, trimEndBy_normalizeMount]

/-- Of what is matched, only what names nothing leads nowhere. -/
theorem resolveFile_eq_none_iff {mount path : String}
    (h : isBelow (normalizeMount mount.toList) path.toList = true) :
    ∃ rest, Remainder (normalizeMount mount.toList) path.toList rest ∧
      ∀ root, resolveFile root mount path = none ↔ NamesNothing rest := by
  rcases (isBelow_normalizeMount_iff _ _).1 h with ⟨tail, htail, hstart⟩
  have hnone : ∀ root, resolveFile root mount path = none ↔
      NamesNothing (tail.takeWhile (· != '?')) := by
    intro root
    have hbegin : tail.takeWhile (· != '?') = [] ∨
        (tail.takeWhile (· != '?')).head? = some '/' := by
      rcases hstart with ⟨rfl, -⟩ | hhead
      · exact Or.inl rfl
      · rw [List.eq_cons_of_mem_head? hhead, List.takeWhile_cons_of_pos rfl]
        exact Or.inr rfl
    rw [← Option.not_isSome_iff_eq_none, isSome_resolveFile_iff htail,
      isSafe_iff_not_namesNothing hbegin, not_not]
  rcases normalizeMount_cases mount.toList with ⟨hbare, hnorm⟩ | hnorm
  · -- The lone slash belongs to the mount path here and to what follows it there.
    rw [hnorm] at hstart ⊢
    have hhead : tail.head? = some '/' := hstart.resolve_left fun hnil => hnil.2 rfl
    rcases List.head?_eq_some_iff.1 hhead with ⟨behind, rfl⟩
    rcases (takeWhile_query_eq_iff behind _).1 rfl with ⟨query, hquery, hno, hend⟩
    refine ⟨behind.takeWhile (· != '?'), ⟨query, ?_, hno, hend⟩, fun root => ?_⟩
    · rw [htail, hbare, List.append_assoc, ← hquery]
      rfl
    · rw [hnone root, List.takeWhile_cons_of_pos rfl, namesNothing_slash]
  · rcases (takeWhile_query_eq_iff tail _).1 rfl with ⟨query, hquery, hno, hend⟩
    refine ⟨tail.takeWhile (· != '?'), ⟨query, ?_, hno, hend⟩, hnone⟩
    rw [hnorm, htail, List.append_assoc, ← hquery]

/-- What leads to a file of a mounted directory is matched by its route, and of what the
    route matches only what names nothing behind the mount path leads nowhere. Mount paths
    that are not empty and differ by the slashes at their ends only are matched by the same
    requests and lead to the same files. -/
theorem directory_route_agrees (files : FileStore) (mount : String) :
    (∀ root path, (resolveFile root (mountPath mount) path).isSome = true →
      (directoryRoute files mount root).1.test "GET" path = some []) ∧
    (∀ root path, (directoryRoute files mount root).1.test "GET" path = some [] →
      ∃ rest, Remainder (mountPath mount).toList path.toList rest ∧
        (resolveFile root (mountPath mount) path = none ↔ NamesNothing rest)) ∧
    ∀ other, mount ≠ "" → other ≠ "" → SlashesApart mount.toList other.toList →
      ∀ (method? : Option Method) (method : Method) (root path : String),
        (Predicate.mountAt method? mount).test method path =
            (Predicate.mountAt method? other).test method path ∧
          resolveFile root (mountPath mount) path = resolveFile root (mountPath other) path := by
  have hmatch : ∀ root path, (directoryRoute files mount root).1.test "GET" path = some [] ↔
      isBelow (normalizeMount mount.toList) path.toList = true := by
    intro root path
    rw [directoryRoute, test_mountAt]
    by_cases hbelow : isBelow (normalizeMount mount.toList) path.toList = true
    · simp only [hbelow, if_true]
    · simp only [hbelow, if_false, reduceCtorEq, Bool.false_eq_true]
  refine ⟨?_, ?_, ?_⟩
  · intro root path hfile
    rw [resolveFile_mountPath] at hfile
    exact (hmatch root path).2 (isBelow_of_isSome hfile)
  · intro root path htest
    rcases resolveFile_eq_none_iff ((hmatch root path).1 htest) with ⟨rest, hrest, hnone⟩
    refine ⟨rest, ?_, ?_⟩
    · rw [mountPath, String.toList_ofList]
      exact hrest
    · rw [resolveFile_mountPath]
      exact hnone root
  · intro other hmount hother hapart method? method root path
    have hsame : normalizeMount mount.toList = normalizeMount other.toList :=
      normalizeMount_of_slashesApart (by simpa using hmount) (by simpa using hother) hapart
    unfold Predicate.mountAt mountPath
    rw [hsame]
    exact ⟨rfl, rfl⟩

-- A stylesheet is found below a directory however the mount path is spelled.
theorem stylesheet_under_either_mount :
    SlashesApart "/assets".toList "/assets//".toList ∧
      (Predicate.mountAt (some "GET") "/assets").test "GET" "/assets/a.css" =
        (Predicate.mountAt (some "GET") "/assets//").test "GET" "/assets/a.css" ∧
      resolveFile "/srv" (mountPath "/assets") "/assets/a.css" =
        resolveFile "/srv" (mountPath "/assets//") "/assets/a.css" := by
  have hapart : SlashesApart "/assets".toList "/assets//".toList :=
    ⟨"/assets".toList, 0, 2, rfl, rfl⟩
  exact ⟨hapart, (directory_route_agrees (fun _ => none) "/assets").2.2 "/assets//" (by decide)
    (by decide) hapart (some "GET") "GET" "/srv" "/assets/a.css"⟩

end Http

end DemandNet
