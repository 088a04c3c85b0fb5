import DemandNet.Routing.Template

/-!
# Route Tables

Which handlers a request is for.

A route has a predicate on the method and the path, and a handler. All routes that match
a request are selected, in the order in which they were added, and their captures are
put together; where two routes capture the same name, the later one wins.

A mount predicate matches its path and everything below it. Slashes at the end of that
path do not count. Besides templates and mounts any rule can be a predicate, if it captures
no name twice.

## Main definitions

* `Rule`: Any condition on requests.
* `Predicate`: A condition on requests.
* `normalizeMount`: A mount path without slashes at its end.
* `RouteTable`: Routes in order.
* `Selection`: Handlers and captured values.
* `RouteTable.select`: The handlers of a request.
-/

namespace DemandNet

namespace Routing

/-- The name of a request method. -/
abbrev Method := String

/-- A mount path without slashes at its end; a lone slash stays. -/
def normalizeMount (path : List Char) : List Char :=
  match path with
  | [] => []
  | c :: rest => c :: Text.trimEndBy (· == '/') rest

/-- A condition of any kind on the method and the path, with what it captures. -/
structure Rule where
  test : Method → String → Option Params
  /-- No name is captured twice. -/
  nodup : ∀ method path captured, test method path = some captured →
    (captured.map Prod.fst).Nodup

/-- A condition on requests: on the method, if it names one, and on the path. -/
inductive Predicate where
  | template (method : Option Method) (t : PathTemplate)
  /-- Everything at and below a path. -/
  | mount (method : Option Method) (path : List Char)
  | rule (r : Rule)

/-- What follows the beginning of a text. -/
def afterStart? (start cs : List Char) : Option (List Char) :=
  if start.isPrefixOf cs then some (cs.drop start.length) else none

/-- A path is at or below a mount path. -/
def isBelow (mount path : List Char) : Bool :=
  match afterStart? mount path with
  | none => false
  | some rest => rest.isEmpty || rest.head? == some '/' || mount == ['/']

namespace Predicate

/-- The predicate of a mount path as it was given. -/
def mountAt (method : Option Method) (path : String) : Predicate :=
  mount method (normalizeMount path.toList)

/-- The predicate of a template as it was given. -/
def path (method : Option Method) (template : String) : Predicate :=
  .template method (PathTemplate.ofText template)

/-- The method that a predicate names. -/
def method? : Predicate → Option Method
  | template m _ => m
  | mount m _ => m
  | rule _ => none

/-- What a predicate captures from a request; `none` if it does not match. -/
def test (p : Predicate) (method : Method) (path : String) : Option Params :=
  if p.method?.any (· != method) then none
  else
    match p with
    | template _ t => t.match? path
    | mount _ m => if isBelow m path.toList then some [] else none
    | rule r => r.test method path

end Predicate

/-- Routes, in the order in which they were added. -/
abbrev RouteTable (η : Type) := List (Predicate × η)

/-- The handlers of a request and the captured values. -/
structure Selection (η : Type) where
  handlers : List η
  params : Params
  deriving Repr

/-- A selection after one more route, which counts if it matches. -/
def Selection.visit {η : Type} (method : Method) (path : String) (s : Selection η)
    (r : Predicate × η) : Selection η :=
  match r.1.test method path with
  | none => s
  | some captured => ⟨s.handlers ++ [r.2], s.params.merge captured⟩

namespace RouteTable

variable {η : Type}

/-- One more route. -/
def add (t : RouteTable η) (p : Predicate) (handler : η) : RouteTable η := t ++ [(p, handler)]

/-- The handlers of all routes that match, with what they captured. -/
def select (t : RouteTable η) (method : Method) (path : String) : Selection η :=
  t.foldl (Selection.visit method path) ⟨[], []⟩

end RouteTable

end Routing

end DemandNet
