import CallSites.Report
import CallSites.Text.Basic

/-!
# The command line

The command takes two options: the site files, which may be given several times, and the profile.
An option starts with one dash or two; its value follows an equals sign or is the next argument,
whatever that looks like.  Options end at the first argument that is none, or after a double dash.
-/

namespace CallSites

/-- Why a command line is refused. -/
inductive OptionError where
  | badSyntax (argument : String)
  | undefined (name : String)
  | needsArgument (name : String)
  | helpRequested
deriving DecidableEq

/-- The reason in words. -/
def OptionError.message : OptionError → String
  | .badSyntax argument => "bad flag syntax: " ++ argument
  | .undefined name => "flag provided but not defined: -" ++ name
  | .needsArgument name => "flag needs an argument: -" ++ name
  | .helpRequested => "flag: help requested"

/-- A command line as far as it has been read. -/
structure Options where
  sites : Text.CommaList := {}
  profile : String := ""
  /-- The arguments that are not part of an option. -/
  rest : List String := []
  error : Option OptionError := none
deriving DecidableEq

namespace Options

/-- What an argument says. -/
inductive Argument where
  /-- It is not an option. -/
  | other
  /-- It ends the options. -/
  | terminator
  /-- It looks like an option but has no name. -/
  | malformed
  /-- An option and the value written after it, if any. -/
  | option (name : List Char) (value : Option (List Char))

/-- Splits the name of an option from the value written after it. -/
def splitValue (cs : List Char) : List Char × Option (List Char) :=
  match cs.dropWhile (· ≠ '=') with
  | [] => (cs, none)
  | _ :: value => (cs.takeWhile (· ≠ '='), some value)

/-- An option without its dashes; the name must not start with a dash or an equals sign. -/
def Argument.ofBody (cs : List Char) : Argument :=
  match cs with
  | [] => .malformed
  | c :: _ =>
    if c == '-' || c == '=' then .malformed
    else
      let (name, value) := splitValue cs
      .option name value

/-- What an argument says. -/
def Argument.ofChars : List Char → Argument
  | ['-', '-'] => .terminator
  | '-' :: '-' :: cs => .ofBody cs
  | ['-'] => .other
  | '-' :: cs => .ofBody cs
  | _ => .other

/-- Sets an option that is known. -/
def set? (o : Options) (name value : String) : Option Options :=
  if name = "sites" then some { o with sites := o.sites.set value }
  else if name = "profile" then some { o with profile := value }
  else none

/-- The option is known. -/
def isKnown (name : String) : Bool := name = "sites" || name = "profile"

/-- Reads arguments from left to right. -/
def parseFrom (o : Options) : List String → Options
  | [] => o
  | a :: args =>
    match Argument.ofChars a.toList with
    | .other => { o with rest := a :: args }
    | .terminator => { o with rest := args }
    | .malformed => { o with rest := a :: args, error := some (.badSyntax a) }
    | .option nameChars value =>
      let name := String.ofList nameChars
      if !isKnown name then
        let error := if name = "help" || name = "h" then .helpRequested else .undefined name
        { o with rest := args, error := some error }
      else
        match value with
        | some v => parseFrom ((o.set? name (String.ofList v)).getD o) args
        | none =>
          match args with
          | v :: rest => parseFrom ((o.set? name v).getD o) rest
          | [] => { o with error := some (.needsArgument name) }

/-- Reads a command line. -/
def parse (args : List String) : Options := parseFrom {} args

end Options

/-- What the command writes, what it complains about, and the code it exits with. -/
structure Outcome where
  output : String := ""
  complaint : Option String := none
  exitCode : UInt8 := 0

namespace Outcome

/-- Runs the command on its arguments. -/
def ofArguments (src : Report.Sources) (args : List String) : Outcome :=
  let o := Options.parse args
  match o.error with
  | some .helpRequested => { complaint := some OptionError.helpRequested.message }
  | some e => { complaint := some e.message, exitCode := 2 }
  | none =>
    if o.sites.items.isEmpty then
      { complaint :=
          some "no site file specified: please use --sites to specify at least one file"
        exitCode := 1 }
    else
      let report := Report.run src o.profile o.sites.items
      match report.failure with
      | some f => { output := report.text, complaint := some f.message, exitCode := 1 }
      | none => { output := report.text }

end Outcome

end CallSites
