/-!
# Configuration Values

What a configuration text says, whatever format it is written in.

The two formats in use differ in a few points of detail; `Format` says which one a value
came from.

## Main definitions

* `Value`: A value of a configuration text.
* `Value.field?`: A field of a table.
* `Format`: The formats a value may come from.
-/

namespace DemandNet

namespace Config

/-- A value of a configuration text. -/
inductive Value where
  | null
  | bool (b : Bool)
  | int (i : Int)
  /-- A number with a fraction, which no option takes. -/
  | fraction
  /-- A date, which no option takes. -/
  | date
  | text (s : String)
  | list (items : List Value)
  | table (fields : List (String × Value))
  deriving Repr, Inhabited

/-- The formats in which configurations are written. -/
inductive Format where
  | json
  | toml
  deriving Repr, DecidableEq, Inhabited

namespace Value

/-- A field of a table. -/
def field? (v : Value) (name : String) : Option Value :=
  match v with
  | table fields => fields.lookup name
  | _ => none

end Value

end Config

end DemandNet
