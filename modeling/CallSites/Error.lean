import CallSites.Text.Quoted
import CallSites.Text.Basic

/-!
# Errors

An error is a tree.  Its leaves are the causes known to this library; its inner nodes put a note in
front of an error, mark an error as *internal* (a fault of the compiler rather than of its input),
or hold several errors found together.  Classification walks the whole tree, so a wrapper never
hides what is inside: an error is internal when any node is, and missing when any leaf names a
dependency that the platform lacks.

Two kinds of failure are not errors in this sense.  A *fatal* failure is a misuse of the interface
that is reported as an internal error and cannot be handled; a *range* failure is an index or a
size that no object can have.  `Failure` keeps the three apart.
-/

namespace CallSites

/-! ## Causes -/

/-- What a platform can be asked for and may lack. -/
inductive Dependency where
  /-- The non-generic cache cell type. -/
  | cell (runtime : String)
  /-- The generic cache cell type. -/
  | genericCell (runtime : String)
  /-- A member of the generic cache cell type. -/
  | cellMember (name runtime : String)
  /-- The type of binders. -/
  | binder (runtime : String)
  /-- A named type. -/
  | type (name runtime : String)
  /-- A member of a generic definition. -/
  | member (name definition : String)
  /-- A capability that a view of the platform keeps back. -/
  | withheld (what : String)
  /-- Anything else, in the words of whoever asks. -/
  | other (what : String)
deriving DecidableEq

/-- What is missing, in words. -/
def Dependency.what : Dependency → String
  | .cell runtime => "type CallSite in runtime " ++ runtime
  | .genericCell runtime => "type CallSite<T> in runtime " ++ runtime
  | .cellMember name runtime => "member CallSite<T>." ++ name ++ " in runtime " ++ runtime
  | .binder runtime => "type CallSiteBinder in runtime " ++ runtime
  | .type name runtime => "type " ++ name ++ " in runtime " ++ runtime
  | .member name definition => "member " ++ name ++ " of " ++ definition
  | .withheld what => "hidden " ++ what
  | .other what => what

/-- The two families of callable types that a profile describes. -/
inductive Family where
  /-- Callables that return nothing. -/
  | action
  /-- Callables that return a value. -/
  | func
deriving DecidableEq

/-- The key under which a profile describes the family. -/
def Family.key : Family → String
  | .action => "action"
  | .func => "func"

/-- The largest number of parameters a profile may give a family. -/
def maxFamilyParams : Int := 64

/-- A way in which a profile breaks the rules. -/
inductive ProfileViolation where
  | baseRequired
  | binderRequired
  | unknownMember (name : String)
  | familyName (family : Family)
  | familyRange (family : Family) (maxParams : Int)
  | typeName (index : Nat)
  | typeKind (index : Nat) (kind : String)
  | typeTwice (fullName : String)
deriving DecidableEq

/-- The violation in words. -/
def ProfileViolation.message : ProfileViolation → String
  | .baseRequired => "call_site.base is required"
  | .binderRequired => "call_site.binder is required"
  | .unknownMember name => "unknown call_site member " ++ Text.quote name
  | .familyName family => family.key ++ ".name is required"
  | .familyRange family n =>
    family.key ++ ".max_params=" ++ toString n ++ " out of range [0, " ++
      toString maxFamilyParams ++ "]"
  | .typeName i => "types[" ++ toString i ++ "].name is required"
  | .typeKind i kind => "types[" ++ toString i ++ "]: unknown kind " ++ Text.quote kind
  | .typeTwice fullName => "type " ++ fullName ++ " declared twice"

/-- A way in which the description of a site breaks the rules. -/
inductive SiteViolation where
  | passModes (given wanted : Nat)
  | receiverMode
deriving DecidableEq

/-- The violation in words. -/
def SiteViolation.message : SiteViolation → String
  | .passModes given wanted =>
    toString given ++ " arg_by_ref values for " ++ toString wanted ++ " args"
  | .receiverMode => "receiver_by_ref set without receiver"

/-- Why a file could not be read. -/
inductive ReadFault where
  | absent
  /-- The path leads to a folder. -/
  | directory
  /-- The path goes on after a file. -/
  | notDirectory
  /-- The path, or a name in it, has too many bytes. -/
  | longName
  /-- The path has a character that no path has. -/
  | invalid
deriving DecidableEq

/-- The fault in words, for a given path. -/
def ReadFault.message (path : String) : ReadFault → String
  | .absent => "open " ++ path ++ ": no such file or directory"
  | .directory => "read " ++ path ++ ": is a directory"
  | .notDirectory => "open " ++ path ++ ": not a directory"
  | .longName => "open " ++ path ++ ": file name too long"
  | .invalid => "open " ++ path ++ ": invalid argument"

/-- The leaves of errors.  Types, members, fields and cells are named by their texts. -/
inductive Cause where
  /-- An error in the words of whoever raises it. -/
  | text (message : String)
  | wrongArity (definition : String) (given wanted : Nat)
  | nilArgument (index : Nat) (definition : String)
  | unusableArgument (argument : String) (index : Nat) (definition : String)
  | foreignMember (member definition : String)
  | fieldFinal (field current wanted : String)
  | fieldUntyped (field : String)
  | fieldDeclared (name container : String)
  | ambiguousType (name : String) (matching : Nat)
  | passModes (given wanted : Nat)
  | foreignCell (field : String)
  | cellBound (field type : String)
  | cellUnbound (field : String)
  | resolvedTwice (cell : String)
  | bootstrapped (cell : String)
  | noBinder (cell : String)
  | missingParts (services container registry : String)
  | profile (path : String) (violation : ProfileViolation)
  | site (path : String) (index : Nat) (violation : SiteViolation)
  | unreadable (path : String) (fault : ReadFault)
  /-- The values of a document that do not fit where they stand. -/
  | misfits (problems : List String)
  /-- A text that is not a document. -/
  | malformed
deriving DecidableEq

/-- The cause in words. -/
def Cause.message : Cause → String
  | .text message => message
  | .wrongArity definition given wanted =>
    "cannot construct " ++ definition ++ " with " ++ toString given ++
      " type arguments: want " ++ toString wanted
  | .nilArgument i definition =>
    "type argument " ++ toString i ++ " of " ++ definition ++ " is nil"
  | .unusableArgument argument i definition =>
    "cannot use " ++ argument ++ " as type argument " ++ toString i ++ " of " ++ definition
  | .foreignMember member definition => member ++ " is not a member of " ++ definition
  | .fieldFinal field current wanted =>
    "cannot change the type of field " ++ field ++ " from " ++ current ++ " to " ++ wanted ++
      ": type already final"
  | .fieldUntyped field => "cannot set the type of field " ++ field ++ " to nil"
  | .fieldDeclared name container => "field " ++ name ++ " already declared in " ++ container
  | .ambiguousType name n =>
    "type name " ++ name ++ " is ambiguous: " ++ toString n ++ " types match"
  | .passModes given wanted =>
    toString given ++ " argument pass modes for " ++ toString wanted ++ " arguments"
  | .foreignCell field => "cell " ++ field ++ " has not been allocated by this factory"
  | .cellBound field type => "cache cell " ++ field ++ " already bound to " ++ type
  | .cellUnbound field =>
    "type of cache cell " ++ field ++ " read before the cell has been bound"
  | .resolvedTwice cell => "call site " ++ cell ++ " resolved twice"
  | .bootstrapped cell => "call site " ++ cell ++ " already bootstrapped"
  | .noBinder cell => "no binder to bootstrap call site " ++ cell
  | .missingParts services container registry =>
    "cannot create a call site factory with services=" ++ services ++ " container=" ++
      container ++ " registry=" ++ registry
  | .profile path violation => path ++ ": " ++ violation.message
  | .site path i violation => path ++ ": sites[" ++ toString i ++ "]: " ++ violation.message
  | .unreadable path fault => fault.message path
  | .misfits problems => "yaml: unmarshal errors:\n  " ++ Text.join "\n  " problems
  | .malformed => "yaml: malformed document"

/-! ## The tree -/

/-- An error. -/
inductive Error where
  | cause (c : Cause)
  /-- A dependency that the platform lacks; `none` when it is not said which. -/
  | missing (what : Option Dependency)
  /-- A fault of the compiler itself. -/
  | internal (e : Error)
  /-- An error with a note in front of it. -/
  | context (note : String) (e : Error)
  /-- Several errors found together. -/
  | several (es : List Error)

instance : Inhabited Error := ⟨.several []⟩

namespace Error

/-- The heading of every internal error. -/
def internalHeading : String :=
  "dynsite internal error. This is a bug in the compiler. Please report it. Error:\n"

/-- The text of every missing dependency, before it is said which. -/
def missingHeading : String := "missing platform dependency"

mutual

/-- The error in words: notes stand before what they wrap, errors found together are separated by
semicolons. -/
def message : Error → String
  | .cause c => c.message
  | .missing none => missingHeading
  | .missing (some d) => missingHeading ++ ": " ++ d.what
  | .internal e => internalHeading ++ e.message
  | .context note e => note ++ e.message
  | .several es => Text.join "; " (messages es)

/-- The errors in words. -/
def messages : List Error → List String
  | [] => []
  | e :: es => e.message :: messages es

end

mutual

/-- Some node of the error passes a test. -/
def anyNode (test : Error → Bool) : Error → Bool
  | .cause c => test (.cause c)
  | .missing what => test (.missing what)
  | .internal e => test (.internal e) || anyNode test e
  | .context note e => test (.context note e) || anyNode test e
  | .several es => test (.several es) || anyNodes test es

/-- Some node of some error of the list passes a test. -/
def anyNodes (test : Error → Bool) : List Error → Bool
  | [] => false
  | e :: es => anyNode test e || anyNodes test es

end

/-- Some node marks a fault of the compiler itself. -/
def isInternal (e : Error) : Bool := e.anyNode (· matches .internal _)

/-- Some leaf names a dependency that the platform lacks. -/
def isMissing (e : Error) : Bool := e.anyNode (· matches .missing _)

/-- The operation is not supported by the platform, and nothing else is wrong. -/
def isUnsupported (e : Error) : Bool := e.isMissing && !e.isInternal

/-- Marks an error as internal, unless some part of it is so already. -/
def asInternal (e : Error) : Error := if e.isInternal then e else .internal e

/-- An internal error with a given cause. -/
def fault (c : Cause) : Error := .internal (.cause c)

/-- A missing dependency. -/
def lacks (d : Dependency) : Error := .missing (some d)

/-- The errors found together that make up an error: itself, unless it holds several. -/
def parts : Error → List Error
  | .several es => es
  | e => [e]

/-- The error that holds the given ones: nothing for none, the error itself for one. -/
def ofList : List Error → Option Error
  | [] => none
  | [e] => some e
  | es => some (.several es)

/-- Two outcomes found together.  An error that already holds several contributes its parts. -/
def append : Option Error → Option Error → Option Error
  | none, e => e
  | e, none => e
  | some a, some b => ofList (a.parts ++ b.parts)

/-- All outcomes of a list found together. -/
def gather (es : List (Option Error)) : Option Error :=
  es.foldl append none

end Error

/-! ## Documents that are rejected -/

/-- Why a text is not a document of the kind it should be. -/
inductive Rejection where
  /-- It is no document. -/
  | malformed
  /-- It is a document with values that do not fit where they stand. -/
  | misfits (problems : List String)

/-- The error of a text that was rejected; the path only serves to name it. -/
def Rejection.error (path : String) (r : Rejection) : Error :=
  .context ("parsing " ++ path ++ ": ") <| .cause <|
    match r with
    | .malformed => .malformed
    | .misfits problems => .misfits problems

/-- A way to read documents of some kind. -/
abbrev Decoder (α : Type) := String → Except Rejection α

/-! ## Failures -/

/-- An index or a size that no object can have. -/
inductive RangeFault where
  /-- A bit beyond the ends of a vector. -/
  | bit
  /-- A text of negative length. -/
  | text
  /-- A list whose length is negative or cannot be stored. -/
  | length
  /-- A list whose capacity is negative or cannot be stored. -/
  | capacity
  /-- A position beyond the ends of a list. -/
  | position (index : Int) (length : Nat)
deriving DecidableEq

/-- The fault in words. -/
def RangeFault.message : RangeFault → String
  | .bit => "bitvec: index out of range"
  | .text => "strings.Builder.Grow: negative count"
  | .length => "runtime error: makeslice: len out of range"
  | .capacity => "runtime error: makeslice: cap out of range"
  | .position i n =>
    "runtime error: index out of range [" ++ toString i ++ "]" ++
      (if i < 0 then "" else " with length " ++ toString n)

/-- How an operation can fail. -/
inductive Failure where
  /-- An error that the caller may handle. -/
  | error (e : Error)
  /-- A misuse of the interface. -/
  | fatal (e : Error)
  /-- An index or a size out of range. -/
  | range (f : RangeFault)

instance : Inhabited Failure := ⟨.range .length⟩

namespace Failure

/-- The failure in words. -/
def message : Failure → String
  | .error e => e.message
  | .fatal e => e.message
  | .range f => f.message

/-- Misuse of the interface with a given cause. -/
def misuse (c : Cause) : Failure := .fatal (.fault c)

/-- Applies a wrapper to an error, and leaves every other failure alone. -/
def mapError (f : Error → Error) : Failure → Failure
  | .error e => .error (f e)
  | x => x

end Failure

end CallSites
