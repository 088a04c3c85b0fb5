import DemandNet.Routing.Table
import Mathlib.Data.List.Nodup

/-!
# Selections

What a route table selects, as a function of its routes.

A table is scanned once, and the scan keeps handlers and captures together. Put apart, the
handlers are those of the matching routes, in the order of the table, and a name has the
value that the last matching route captured which captured that name at all. A route that
does not match might as well not be there.

All of it comes from one fact, that captures are put together associatively: not only up to
the values of the names, but as they are listed. So a scan that begins in the middle of a
table can be put behind the one that stopped there, and the selection of two tables in a row
is made of their selections.

A name that is captured twice by the same route has one value, so it does not matter which
of the two is looked at.

## Main definitions

* `Params.without`: Captured values but one.
* `Params.Consistent`: Every name has one value.
* `Selection.append`: One selection behind another one.
* `LastCapture`: The last matching route that captures a name captures this value.
* `Selects`: How a selection follows from the routes.
* `Joins`: How the selection of two tables in a row follows from theirs.

## Theorems

* `merge_assoc`: Captures are put together associatively.
* `get?_merge`: A name has its value in the second, or else in the first.
* `consistent_of_test`: What a route captures under a name is one value.
* `select_append`: The selection of two tables in a row.
* `selects_matching_in_order`: The handlers of the matching routes, the last captures, and
  how both grow with the table.
-/

namespace DemandNet

namespace Routing

namespace Params

/-! ### Captures put together -/

/-- The values of all names but one. -/
def without (p : Params) (name : String) : Params := p.filter (fun f => f.1 != name)

/-- Every name has one value. -/
def Consistent (p : Params) : Prop :=
  ∀ name value value', (name, value) ∈ p → (name, value') ∈ p → value = value'

theorem merge_cons (p q : Params) (name value : String) :
    p.merge ((name, value) :: q) = (p.insert name value).merge q := rfl

theorem merge_concat (p q : Params) (name value : String) :
    p.merge (q ++ [(name, value)]) = (p.merge q).insert name value := List.foldl_append

theorem without_without (p : Params) (name : String) :
    (p.without name).without name = p.without name := by
  rw [without, without, List.filter_filter]
  simp only [Bool.and_self]

theorem without_insert_self (p : Params) (name value : String) :
    (p.insert name value).without name = p.without name := by
  rw [without, insert, List.filter_append, List.filter_filter]
  simp only [Bool.and_self, List.filter_cons, bne_self_eq_false, Bool.false_eq_true, if_false,
    List.filter_nil, List.append_nil, without]

theorem without_insert_of_ne (p : Params) {name other : String} (h : other ≠ name)
    (value : String) : (p.insert other value).without name = (p.without name).insert other value
    := by
  rw [without, insert, insert, without, List.filter_append, List.filter_filter,
    List.filter_filter]
  simp only [Bool.and_comm, List.filter_cons, bne_iff_ne.2 h, if_true, List.filter_nil]

theorem without_merge (name : String) (q : Params) :
    ∀ p : Params, (p.merge q).without name = (p.without name).merge (q.without name) := by
  induction q with
  | nil => exact fun p => rfl
  | cons f rest ih =>
      rcases f with ⟨other, value⟩
      intro p
      rw [merge_cons, ih]
      by_cases h : other = name
      · have hdrop : without ((other, value) :: rest) name = without rest name :=
          List.filter_cons_of_neg (by rw [bne_iff_ne]; exact fun hne => hne h)
        rw [hdrop, h, without_insert_self]
      · have hkeep : without ((other, value) :: rest) name = (other, value) :: without rest name :=
          List.filter_cons_of_pos (bne_iff_ne.2 h)
        rw [hkeep, merge_cons, without_insert_of_ne p h]

-- A value that is replaced in the second does not count either way.
theorem merge_insert (p q : Params) (name value : String) :
    p.merge (q.insert name value) = (p.merge q).insert name value := by
  have hwithout : ((p.merge (q.without name)).without name) = (p.merge q).without name := by
    rw [without_merge, without_merge, without_without]
  have hconcat := merge_concat p (q.without name) name value
  calc
    p.merge (q.insert name value) = (p.merge (q.without name)).insert name value := hconcat
    _ = (p.merge (q.without name)).without name ++ [(name, value)] := rfl
    _ = (p.merge q).insert name value := by rw [hwithout]; rfl

theorem merge_assoc (p q r : Params) : (p.merge q).merge r = p.merge (q.merge r) := by
  induction r generalizing q with
  | nil => rfl
  | cons f rest ih => rw [merge_cons, ← merge_insert, ih, ← merge_cons]

/-! ### The value of a name -/

theorem get?_cons (p : Params) (name other value : String) :
    get? ((other, value) :: p) name = if name = other then some value else p.get? name := by
  rw [get?, List.lookup_cons]
  by_cases h : name = other
  · rw [if_pos h, h, beq_self_eq_true]
  · rw [if_neg h, beq_false_of_ne h]
    rfl

theorem get?_append (p q : Params) (name : String) :
    get? (p ++ q) name = (p.get? name).or (q.get? name) := by
  induction p with
  | nil => rfl
  | cons f rest ih =>
      rw [List.cons_append, get?_cons, get?_cons, ih]
      split
      · rfl
      · rfl

theorem get?_without (p : Params) (name other : String) :
    (p.without other).get? name = if name = other then none else p.get? name := by
  induction p with
  | nil => exact (ite_self none).symm
  | cons f rest ih =>
      rcases f with ⟨first, value⟩
      rw [get?_cons, without, List.filter_cons]
      by_cases hother : first = other
      · rw [if_neg (by rw [bne_iff_ne]; exact fun hne => hne hother)]
        refine ih.trans ?_
        rw [hother]
        split
        · rfl
        · rfl
      · rw [if_pos (bne_iff_ne.2 hother), get?_cons]
        by_cases hfirst : name = first
        · rw [if_pos hfirst, if_pos hfirst, if_neg (hfirst ▸ hother)]
        · rw [if_neg hfirst, if_neg hfirst]
          exact ih

theorem get?_insert (p : Params) (name other value : String) :
    (p.insert other value).get? name = if name = other then some value else p.get? name := by
  have hinsert : p.insert other value = p.without other ++ [(other, value)] := rfl
  rw [hinsert, get?_append, get?_without, get?_cons]
  split
  · rfl
  · exact Option.or_none

theorem mem_of_get? {p : Params} {name value : String} (h : p.get? name = some value) :
    (name, value) ∈ p := by
  induction p with
  | nil => exact absurd h (Option.some_ne_none value).symm
  | cons f rest ih =>
      rw [get?_cons] at h
      split at h
      · rename_i heq
        rw [← Option.some.inj h, heq]
        exact List.mem_cons_self
      · exact List.mem_cons_of_mem _ (ih h)

theorem Consistent.tail {f : String × String} {p : Params} (h : Consistent (f :: p)) :
    Consistent p := fun name value value' hmem hmem' =>
  h name value value' (List.mem_cons_of_mem _ hmem) (List.mem_cons_of_mem _ hmem')

theorem get?_merge (name : String) (q : Params) (hq : q.Consistent) :
    ∀ p : Params, (p.merge q).get? name = (q.get? name).or (p.get? name) := by
  induction q with
  | nil => exact fun p => rfl
  | cons f rest ih =>
      rcases f with ⟨other, value⟩
      intro p
      rw [merge_cons, ih hq.tail, get?_insert, get?_cons]
      by_cases h : name = other
      · rw [if_pos h, if_pos h]
        -- The rest captures nothing else under this name.
        rcases hrest : get? rest name with _ | value'
        · rfl
        · refine congrArg some (hq name _ _ (List.mem_cons_of_mem _ (mem_of_get? hrest)) ?_)
          rw [h]
          exact List.mem_cons_self
      · rw [if_neg h, if_neg h]

theorem names_merge (q : Params) :
    ∀ p : Params, (p.map Prod.fst).Nodup → ((p.merge q).map Prod.fst).Nodup := by
  induction q with
  | nil => exact fun p hp => hp
  | cons f rest ih =>
      rcases f with ⟨name, value⟩
      intro p hp
      rw [merge_cons]
      refine ih _ ?_
      have hinsert : p.insert name value = p.without name ++ [(name, value)] := rfl
      rw [hinsert, List.map_append, List.nodup_append]
      refine ⟨hp.sublist (List.filter_sublist.map _), List.nodup_singleton _, ?_⟩
      rintro other hother last hlast rfl
      rcases List.mem_map.1 hother with ⟨g, hg, hname⟩
      have hne := bne_iff_ne.1 (List.mem_filter.1 hg).2
      exact hne (hname.trans (List.mem_singleton.1 hlast))

theorem consistent_of_nodup {p : Params} (h : (p.map Prod.fst).Nodup) : p.Consistent := by
  intro name value value' hmem hmem'
  exact congrArg Prod.snd (List.inj_on_of_nodup_map h hmem hmem' rfl)

end Params

/-! ### What a route captures -/

theorem PathTemplate.consistent_of_match? {t : PathTemplate} {path : String} {captured : Params}
    (h : t.match? path = some captured) : captured.Consistent := by
  unfold PathTemplate.match? at h
  split at h
  · split at h
    · cases h
      exact fun name value value' hmem => absurd hmem List.not_mem_nil
    · cases h
  · rcases Option.map_eq_some_iff.1 h with ⟨captures, -, rfl⟩
    -- Whatever is captured under a name is what is found under it.
    have hfound : ∀ name value : String,
        (name, value) ∈ t.names.filterMap (fun name => (captures.lookup name).map fun value =>
          (String.ofList name, String.ofList value)) →
        (captures.lookup name.toList).map String.ofList = some value := by
      intro name value hmem
      rcases List.mem_filterMap.1 hmem with ⟨chars, -, hvalue⟩
      rcases Option.map_eq_some_iff.1 hvalue with ⟨taken, htaken, heq⟩
      cases heq
      rw [String.toList_ofList, htaken]
      rfl
    intro name value value' hmem hmem'
    exact Option.some.inj ((hfound name value hmem).symm.trans (hfound name value' hmem'))

theorem Predicate.consistent_of_test {p : Predicate} {method : Method} {path : String}
    {captured : Params} (h : p.test method path = some captured) : captured.Consistent := by
  unfold Predicate.test at h
  split at h
  · cases h
  · cases p with
    | template _ t => exact PathTemplate.consistent_of_match? h
    | mount _ m =>
        dsimp only at h
        split at h
        · cases h
          exact fun name value value' hmem => absurd hmem List.not_mem_nil
        · cases h
    | rule r => exact Params.consistent_of_nodup (r.nodup method path captured h)

/-! ### Selections in a row -/

variable {η : Type}

/-- One selection behind another one, whose values count less. -/
def Selection.append (s s' : Selection η) : Selection η :=
  ⟨s.handlers ++ s'.handlers, s.params.merge s'.params⟩

namespace Selection

theorem append_assoc (s s' s'' : Selection η) :
    (s.append s').append s'' = s.append (s'.append s'') := by
  rw [append, append, append, append, List.append_assoc, Params.merge_assoc]

theorem append_empty (s : Selection η) : s.append ⟨[], []⟩ = s :=
  congrArg (Selection.mk · s.params) (List.append_nil s.handlers)

theorem append_visit (method : Method) (path : String) (s s' : Selection η) (r : Predicate × η) :
    s.append (s'.visit method path r) = (s.append s').visit method path r := by
  rw [visit, visit]
  split
  · rfl
  · rw [append, append, List.append_assoc, Params.merge_assoc]

end Selection

namespace RouteTable

-- The scan has to be followed from any selection, since it is in the middle that it goes on.
theorem foldl_visit (method : Method) (path : String) (t : RouteTable η) :
    ∀ s : Selection η,
      t.foldl (Selection.visit method path) s = s.append (t.select method path) := by
  induction t with
  | nil => exact fun s => s.append_empty.symm
  | cons r rest ih =>
      intro s
      rw [select, List.foldl_cons, List.foldl_cons, ih, ih, ← Selection.append_assoc,
        Selection.append_visit, Selection.append_empty]

theorem select_append (t u : RouteTable η) (method : Method) (path : String) :
    (t ++ u).select method path = (t.select method path).append (u.select method path) := by
  rw [select, List.foldl_append]
  exact foldl_visit method path u _

theorem select_cons (r : Predicate × η) (t : RouteTable η) (method : Method) (path : String) :
    select (r :: t) method path =
      (Selection.visit method path ⟨[], []⟩ r).append (t.select method path) :=
  foldl_visit method path t _

theorem select_add (t : RouteTable η) (p : Predicate) (handler : η) (method : Method)
    (path : String) : (t.add p handler).select method path =
      (t.select method path).visit method path (p, handler) := List.foldl_append

theorem select_cons_of_refused {r : Predicate × η} {method : Method} {path : String}
    (h : r.1.test method path = none) (t : RouteTable η) :
    select (r :: t) method path = t.select method path := by
  rw [select, List.foldl_cons, Selection.visit, h]
  rfl

theorem select_cons_of_matches {r : Predicate × η} {method : Method} {path : String}
    {captured : Params} (h : r.1.test method path = some captured) (t : RouteTable η) :
    select (r :: t) method path =
      Selection.append ⟨[r.2], Params.merge [] captured⟩ (t.select method path) := by
  rw [select_cons, Selection.visit, h]
  rfl

/-! ### The selection of a table -/

variable (t : RouteTable η) (method : Method) (path : String)

theorem handlers_select : (t.select method path).handlers =
    (t.filter fun r => (r.1.test method path).isSome).map Prod.snd := by
  induction t with
  | nil => rfl
  | cons r rest ih =>
      rcases htest : r.1.test method path with _ | captured
      · rw [select_cons_of_refused htest, List.filter_cons_of_neg, ih]
        rw [htest]
        exact Bool.false_ne_true
      · rw [select_cons_of_matches htest, List.filter_cons_of_pos, List.map_cons, ← ih]
        · rfl
        · rw [htest]
          rfl

theorem names_select : ((t.select method path).params.map Prod.fst).Nodup := by
  induction t with
  | nil => exact List.nodup_nil
  | cons r rest ih =>
      rcases htest : r.1.test method path with _ | captured
      · rw [select_cons_of_refused htest]
        exact ih
      · rw [select_cons_of_matches htest]
        exact Params.names_merge _ _ (Params.names_merge _ _ List.nodup_nil)

/-- The last matching route that captures a name captures this value. -/
def LastCapture (name value : String) : Prop :=
  ∃ before r after captured, t = before ++ r :: after ∧
    r.1.test method path = some captured ∧ captured.get? name = some value ∧
    ∀ r' ∈ after, ∀ captured', r'.1.test method path = some captured' →
      captured'.get? name = none

variable {t method path}

theorem get?_select_cons_of_matches {r : Predicate × η} {captured : Params}
    (h : r.1.test method path = some captured) (name : String) :
    (select (r :: t) method path).params.get? name =
      ((t.select method path).params.get? name).or (captured.get? name) := by
  have hconsistent := Params.consistent_of_nodup (names_select t method path)
  rw [select_cons_of_matches h, Selection.append, Params.get?_merge name _ hconsistent,
    Params.get?_merge name _ (Predicate.consistent_of_test h)]
  exact congrArg _ Option.or_none

theorem get?_select_eq_none_iff (name : String) :
    (t.select method path).params.get? name = none ↔
      ∀ r ∈ t, ∀ captured, r.1.test method path = some captured → captured.get? name = none := by
  induction t with
  | nil => exact iff_of_true rfl fun r hr => absurd hr List.not_mem_nil
  | cons r rest ih =>
      rw [List.forall_mem_cons, ← ih]
      rcases htest : r.1.test method path with _ | captured
      · rw [select_cons_of_refused htest]
        exact (and_iff_right fun captured h => absurd h (Option.some_ne_none captured).symm).symm
      · rw [get?_select_cons_of_matches htest, Option.or_eq_none_iff, and_comm]
        refine and_congr_left fun _ => ⟨fun h captured' heq => ?_, fun h => h captured rfl⟩
        rw [← Option.some.inj heq]
        exact h

theorem get?_select_append (t u : RouteTable η) (method : Method) (path name : String) :
    ((t ++ u).select method path).params.get? name =
      ((u.select method path).params.get? name).or ((t.select method path).params.get? name) := by
  rw [select_append]
  exact Params.get?_merge name _ (Params.consistent_of_nodup (names_select u method path)) _

theorem LastCapture.get?_select {name value : String} (h : t.LastCapture method path name value) :
    (t.select method path).params.get? name = some value := by
  rcases h with ⟨before, r, after, captured, rfl, htest, hvalue, hafter⟩
  rw [get?_select_append, get?_select_cons_of_matches htest,
    (get?_select_eq_none_iff name).2 hafter, hvalue]
  rfl

theorem lastCapture_of_get?_select {name value : String}
    (h : (t.select method path).params.get? name = some value) :
    t.LastCapture method path name value := by
  induction t with
  | nil => exact absurd h (Option.some_ne_none value).symm
  | cons r rest ih =>
      rcases hrest : (select rest method path).params.get? name with _ | value'
      · -- Nothing behind the first route captures the name, so it is the first route.
        rcases htest : r.1.test method path with _ | captured
        · rw [select_cons_of_refused htest, hrest] at h
          exact absurd h (Option.some_ne_none value).symm
        · rw [get?_select_cons_of_matches htest, hrest] at h
          exact ⟨[], r, rest, captured, rfl, htest, h, (get?_select_eq_none_iff name).1 hrest⟩
      · have hvalue : value' = value := by
          rw [← List.singleton_append, get?_select_append, hrest] at h
          exact Option.some.inj h
        rcases ih (hrest.trans (congrArg some hvalue)) with
          ⟨before, r', after, captured, heq, hlast⟩
        exact ⟨r :: before, r', after, captured, congrArg (r :: ·) heq, hlast⟩

end RouteTable

open RouteTable in
/-- How a selection follows from the routes of a table. -/
structure Selects (t : RouteTable η) (method : Method) (path : String) : Prop where
  handlers : (t.select method path).handlers =
    (t.filter fun r => (r.1.test method path).isSome).map Prod.snd
  /-- A name has a value if some matching route captured it. -/
  present : ∀ name, ((t.select method path).params.get? name).isSome ↔
    ∃ r ∈ t, ∃ captured, r.1.test method path = some captured ∧ (captured.get? name).isSome
  /-- It is the value that the last of those captured. -/
  value : ∀ name value, (t.select method path).params.get? name = some value ↔
    t.LastCapture method path name value
  /-- No name is listed twice. -/
  listed : ((t.select method path).params.map Prod.fst).Nodup

open RouteTable in
/-- How the selection of two tables in a row is made of theirs. -/
structure Joins (t u : RouteTable η) (method : Method) (path : String) : Prop where
  handlers : ((t ++ u).select method path).handlers =
    (t.select method path).handlers ++ (u.select method path).handlers
  params : ((t ++ u).select method path).params =
    (t.select method path).params.merge (u.select method path).params
  /-- The values of the second table count. -/
  value : ∀ name, ((t ++ u).select method path).params.get? name =
    ((u.select method path).params.get? name).or ((t.select method path).params.get? name)
  /-- A route between them that does not match might as well not be there. -/
  refused : ∀ p handler, p.test method path = none →
    (t ++ (p, handler) :: u).select method path = (t ++ u).select method path
  /-- Registered at the end, a route that matches comes last and overrides. -/
  registered : ∀ p handler, (t.add p handler).select method path =
    match p.test method path with
    | none => t.select method path
    | some captured =>
        ⟨(t.select method path).handlers ++ [handler],
          (t.select method path).params.merge captured⟩

namespace RouteTable

theorem select_present (t : RouteTable η) (method : Method) (path name : String) :
    ((t.select method path).params.get? name).isSome ↔
      ∃ r ∈ t, ∃ captured, r.1.test method path = some captured ∧ (captured.get? name).isSome := by
  simp only [Option.isSome_iff_ne_none, Ne, get?_select_eq_none_iff, not_forall, exists_prop]

theorem selects (t : RouteTable η) (method : Method) (path : String) : Selects t method path where
  handlers := handlers_select t method path
  present := select_present t method path
  value _ _ := ⟨lastCapture_of_get?_select, LastCapture.get?_select⟩
  listed := names_select t method path

theorem joins (t u : RouteTable η) (method : Method) (path : String) : Joins t u method path where
  handlers := congrArg Selection.handlers (select_append t u method path)
  params := congrArg Selection.params (select_append t u method path)
  value := get?_select_append t u method path
  refused p handler h := by
    rw [select_append, select_append, select_cons_of_refused h]
  registered p handler := select_add t p handler method path

end RouteTable

/-- A table selects the handlers of its matching routes in order, with the values that were
    captured last, and the selection of two tables in a row is made of theirs. -/
theorem selects_matching_in_order (t u : RouteTable η) (method : Method) (path : String) :
    Selects t method path ∧ Joins t u method path :=
  ⟨t.selects method path, t.joins u method path⟩

end Routing

end DemandNet
