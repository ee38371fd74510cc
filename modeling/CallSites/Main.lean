import CallSites.CommandLine
import CallSites.Documents

/-!
# The command

Reads the files named on the command line, and writes the report.  Everything is decided by
`Outcome.ofArguments`; since that is a function of the contents of the files, the files that may be
needed are read beforehand.
-/

namespace CallSites

/-- Why a file cannot be read.  A path that cannot be opened is named in the error; a folder can be
opened, but not read. -/
def readFault : IO.Error → ReadFault
  | .inappropriateType (some _) _ _ => .notDirectory
  | .inappropriateType none _ _ => .directory
  | .invalidArgument _ code _ => if code = 22 then .invalid else .longName
  | _ => .absent

/-- The contents of a file, or why it cannot be read. -/
def readPath (path : String) : IO (Except ReadFault String) := do
  try
    return .ok (← IO.FS.readFile path)
  catch e => return .error (readFault e)

end CallSites

open CallSites

/-- Runs the command. -/
def main (args : List String) : IO UInt32 := do
  let o := Options.parse args
  let paths := o.profile :: o.sites.items
  let contents ← paths.mapM fun path => do return (path, ← readPath path)
  let files := OrderedMap.ofList contents
  let outcome := Outcome.ofArguments (.ofYaml fun path => files.getD path (.error .absent)) args
  IO.print outcome.output
  match outcome.complaint with
  | some text => IO.eprintln text
  | none => pure ()
  return outcome.exitCode.toUInt32
