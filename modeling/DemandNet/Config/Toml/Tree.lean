import DemandNet.Config.Value

/-!
# Tables of TOML

The tables of a document while it is being read.

A table may be opened by a header only once, though a header may open tables inside of
one that was never opened itself. A key with dots opens tables too; those are open to
further keys with dots in the same place, but closed to headers. Each element of an
array of tables is opened by a header of its own, and whatever follows belongs to the
last one.

## Main definitions

* `Node`: What a key stands for.
* `Entries`: The keys of a table.
* `Entries.insertKey?`: A value for a key with dots.
* `Entries.openTable?`, `Entries.openElement?`: The two sorts of headers.
* `Entries.inside?`: An operation inside the table that a header opened.
* `Entries.toValue`: The value of a table that was read completely.
-/

namespace DemandNet

namespace Config

namespace Toml

/-- What a key stands for while a document is being read. -/
inductive Node where
  | leaf (v : Value)
  /-- A table: it was never opened by a header; a key with dots opened it. -/
  | table (implied dotted : Bool) (entries : List (String × Node))
  /-- An array of tables, the last one first. -/
  | tables (last : List (String × Node)) (earlier : List (List (String × Node)))

/-- The keys of a table with what they stand for. -/
abbrev Entries := List (String × Node)

namespace Entries

/-- What a key stands for. -/
def find? (es : Entries) (key : String) : Option Node := es.lookup key

/-- Something for a key, in its old place or at the end. -/
def put (es : Entries) (key : String) (n : Node) : Entries :=
  if (es.find? key).isSome then es.map fun e => if e.1 = key then (key, n) else e
  else es ++ [(key, n)]

/-- Go down a path of keys, opening tables where there is nothing, and do something in
    the table at its end. With `dotted`, the path is that of a key with dots, and only
    tables that no header opened may be entered. The operation learns whether its table
    is open to keys with dots. -/
def descend? (dotted : Bool) (f : Bool → Entries → Option Entries) :
    List String → Bool → Entries → Option Entries
  | [], isDotted, es => f isDotted es
  | key :: path, _, es =>
      match es.find? key with
      | none =>
          (descend? dotted f path dotted []).map fun inner =>
            es.put key (.table true dotted inner)
      | some (.leaf _) => none
      | some (.table implied isDotted inner) =>
          if dotted && !implied then none
          else
            (descend? dotted f path isDotted inner).map fun inner =>
              es.put key (.table implied isDotted inner)
      | some (.tables last earlier) =>
          (descend? dotted f path false last).map fun last => es.put key (.tables last earlier)

/-- A value for a key, perhaps with dots in front of it. It must not have one yet. -/
def insertKey? (es : Entries) (path : List String) (key : String) (n : Node) :
    Option Entries :=
  descend? true (fun isDotted inner =>
    if isDotted == path.isEmpty then none
    else if (inner.find? key).isSome then none
    else some (inner ++ [(key, n)])) path false es

/-- A header opens a table. -/
def openTable? (es : Entries) (path : List String) (key : String) : Option Entries :=
  descend? false (fun _ inner =>
    match inner.find? key with
    | none => some (inner ++ [(key, .table false false [])])
    | some (.table true false entries) => some (inner.put key (.table false false entries))
    | some _ => none) path false es

/-- A header opens the next element of an array of tables. -/
def openElement? (es : Entries) (path : List String) (key : String) : Option Entries :=
  descend? false (fun _ inner =>
    match inner.find? key with
    | none => some (inner ++ [(key, .tables [] [])])
    | some (.tables last earlier) => some (inner.put key (.tables [] (last :: earlier)))
    | some _ => none) path false es

/-- Do something in the table that the last header opened. -/
def inside? (es : Entries) (path : List String) (f : Entries → Option Entries) :
    Option Entries :=
  descend? false (fun _ inner => f inner) path false es

end Entries

mutual

/-- The value of a node that was read completely. -/
def Node.toValue : Node → Value
  | .leaf v => v
  | .table _ _ entries => .table (Entries.toFields entries)
  | .tables last earlier =>
      .list ((Entries.toTables earlier).reverse ++ [.table (Entries.toFields last)])

/-- The fields of a table that was read completely. -/
def Entries.toFields : List (String × Node) → List (String × Value)
  | [] => []
  | (key, n) :: rest => (key, n.toValue) :: Entries.toFields rest

/-- The values of tables that were read completely. -/
def Entries.toTables : List (List (String × Node)) → List Value
  | [] => []
  | t :: rest => .table (Entries.toFields t) :: Entries.toTables rest

end

end Toml

end Config

end DemandNet
