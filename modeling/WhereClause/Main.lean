import WhereClause.CommandLine.Run

/-!
# Command line

Reads what the program may need from its surroundings, runs it, and prints the outcome.
-/

set_option autoImplicit false

namespace WhereClause.CommandLine

def fileState (path : Text) : IO FileState := do
  try
    let content ← IO.FS.readFile (String.ofList path)
    return .file content.toList
  catch
    | .noFileOrDirectory .. => return .missing "No such file or directory (os error 2)"
    | .inappropriateType .. => return .unreadable "Is a directory (os error 21)"
    | e => return .unreadable (toString e)

/-- The directory for settings of the user: the one that the environment names, if that is an
absolute path, else the usual one in the home directory. -/
def userDirectory : IO (Option Text) := do
  let home ← IO.getEnv "HOME"
  match ← IO.getEnv "XDG_CONFIG_HOME" with
  | some directory =>
    if directory.startsWith "/" then return some directory.toList
    else return home.map fun home => (home ++ "/.config").toList
  | none => return home.map fun home => (home ++ "/.config").toList

/-- Every path that the given arguments may lead to. -/
def pathsOf (user : Option Text) (dialect : Option Text) (args : List Text) : List Text :=
  let named := match Arguments.ofList dialect args with
    | .ok a => a.file.toList ++ a.config.toList
    | .error _ => []
  named ++ localSettings :: (user.map userSettings).toList

end WhereClause.CommandLine

open WhereClause CommandLine in
/-- Runs the program and answers with its exit code. -/
def main (args : List String) : IO UInt32 := do
  let args := args.map String.toList
  let user ← userDirectory
  let dialect := (← IO.getEnv "WHEREKIT_DIALECT").map String.toList
  let found ← (pathsOf user dialect args).mapM fun path => return (path, ← fileState path)
  let files (path : Text) : FileState := (found.lookup path).getD (.missing [])
  let outcome := run ⟨files, user, dialect⟩ args
  IO.print (String.ofList outcome.output)
  IO.eprint (String.ofList outcome.report)
  if let some error := outcome.error then IO.eprintln (String.ofList error)
  return outcome.exitCode.toUInt32
