import DemandNet.Config.Load

/-!
# Command Line

Checks a configuration: says where a server with it would listen and what it would mount,
or why there is no such server. Without a file the defaults are checked.
-/

namespace DemandNet

namespace CommandLine

/-- The configuration file that the arguments name. -/
def configPath? : List String → Option String
  | "--config" :: path :: _ => some path
  | "-c" :: path :: _ => some path
  | _ :: rest => configPath? rest
  | [] => none

/-- What is said about a configuration. -/
def summary (c : Config.AppConfig) : List String :=
  ("listen " ++ c.server.bindAddress)
    :: c.mounts.map fun m => "mount " ++ m.prefixPath ++ " " ++ m.root

/-- What is found under the name of a file. -/
def readContent (path : String) : IO Config.FileContent := do
  try
    let bs ← IO.FS.readBinFile path
    return .bytes bs.toList
  catch
    | .noFileOrDirectory .. => return .missing
    | .inappropriateType .. => return .directory
    | e => throw e

/-- Check the configuration that the arguments name; the answer is the exit code. -/
def run (args : List String) : IO UInt32 := do
  let loaded ←
    match configPath? args with
    | none => pure (.ok {})
    | some path => Config.AppConfig.load <$> readContent path
  match loaded with
  | .ok c =>
      (summary c).forM IO.println
      return 0
  | .error e =>
      IO.eprintln e.message
      return 1

end CommandLine

end DemandNet

/-- The program. -/
def main (args : List String) : IO UInt32 := DemandNet.CommandLine.run args
