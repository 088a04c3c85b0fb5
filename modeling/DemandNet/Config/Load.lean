import DemandNet.Bytes
import DemandNet.Config.Schema
import DemandNet.Config.Toml.Document
import DemandNet.Config.Validation

/-!
# Loading

A configuration from a text or a file.

A text must be TOML and spell a configuration, and the configuration must be without
problems. A file must moreover be there, be no directory, and hold UTF-8.

## Main definitions

* `LoadError`: Why there is no configuration.
* `AppConfig.parse`: The configuration of a text.
* `AppConfig.load`: The configuration of a file.
-/

namespace DemandNet

namespace Config

/-- What is found under the name of a file. -/
inductive FileContent where
  | missing
  | directory
  | bytes (bs : Bytes)
  deriving Repr, DecidableEq, Inhabited

/-- Why a file cannot be read. -/
inductive ReadFailure where
  | missing
  | directory
  | notText
  deriving Repr, DecidableEq, Inhabited

/-- Why there is no configuration. -/
inductive LoadError where
  | unreadable (reason : ReadFailure)
  | malformed
  | invalid (problems : List Problem)
  deriving Repr, DecidableEq, Inhabited

namespace LoadError

/-- The wording of a failure. How a text is malformed is not told. -/
def message : LoadError → String
  | unreadable .missing => "IO error: No such file or directory (os error 2)"
  | unreadable .directory => "IO error: Is a directory (os error 21)"
  | unreadable .notText => "IO error: stream did not contain valid UTF-8"
  | malformed => "Parse error"
  | invalid problems =>
      "Validation failed: " ++ ", ".intercalate (problems.map Problem.message)

end LoadError

namespace AppConfig

/-- The configuration of a text. -/
def parse (s : String) : Except LoadError AppConfig :=
  match (Toml.parse? s).bind (ofValue? .toml) with
  | none => .error .malformed
  | some c => if c.problems.isEmpty then .ok c else .error (.invalid c.problems)

/-- The configuration of a file. -/
def load : FileContent → Except LoadError AppConfig
  | .missing => .error (.unreadable .missing)
  | .directory => .error (.unreadable .directory)
  | .bytes bs =>
      match Bytes.toText? bs with
      | none => .error (.unreadable .notText)
      | some s => parse s

end AppConfig

end Config

end DemandNet
