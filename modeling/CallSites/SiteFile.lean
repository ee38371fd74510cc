import CallSites.Shape

/-!
# Site files

A site file lists the dynamic operations of a container.  Types are given by name and looked up when
a site is resolved: `SiteSpec.operands` finds all the types of a site or says which names could not
be found, all of them at once.  How the file is written down is left to a decoder.
-/

namespace CallSites

/-- A dynamic operation of a container. -/
structure SiteSpec where
  /-- What the name of the cell is made from. -/
  hint : String := ""
  receiver : String := ""
  receiverByRef : Bool := false
  args : List String := []
  argByRef : List Bool := []
  right : String := ""
  /-- The type of the result: nothing if empty or `void`. -/
  result : String := ""
  /-- The cell is created in the static initializer. -/
  bootstrap : Bool := false
deriving DecidableEq

/-- The dynamic operations of a container. -/
structure SiteFile where
  /-- The unit of the container; containers of one unit share synthesized callable types. -/
  unit : String := ""
  /-- The qualified name of the container. -/
  container : String := ""
  sites : List SiteSpec := []
deriving DecidableEq

/-! ## Operands -/

namespace SiteSpec

/-- The rules that the description of a site breaks. -/
def violations (s : SiteSpec) : List SiteViolation :=
  (if s.argByRef.length ≠ 0 ∧ s.argByRef.length ≠ s.args.length then
    [.passModes s.argByRef.length s.args.length] else []) ++
  (if s.receiverByRef ∧ s.receiver = "" then [.receiverMode] else [])

/-- The type of a given name; no type for the empty name. -/
def lookupOptional (lookup : String → Except Error Ty) (name : String) :
    Except Error (Option Ty) :=
  if name = "" then pure none else (lookup name).map some

/-- The types of a list of names. -/
def lookupAll (lookup : String → Except Error Ty) (names : List String) :
    List (Except Error (Option Ty)) :=
  names.map (lookupOptional lookup)

/-- The type that was found, if any. -/
def found : Except Error (Option Ty) → Option Ty
  | .ok t => t
  | .error _ => none

/-- Why no type was found. -/
def reason : Except Error (Option Ty) → Option Error
  | .ok _ => none
  | .error e => some e

/-- The name of the result, where `void` is no name. -/
def resultName (s : SiteSpec) : String := if s.result = "void" then "" else s.result

/-- The operands of a site, all its names being looked up. -/
def operands (s : SiteSpec) (lookup : String → Except Error Ty) : Except Error Operands :=
  let receiver := lookupOptional lookup s.receiver
  let args := lookupAll lookup s.args
  let right := lookupOptional lookup s.right
  let result := lookupOptional lookup s.resultName
  match Error.gather ((receiver :: args ++ [right, result]).map reason) with
  | some e => throw e
  | none =>
    pure
      { receiver := found receiver
        receiverByRef := s.receiverByRef
        args := args.map found
        argByRef := s.argByRef
        right := found right
        result := found result }

end SiteSpec

/-! ## Files -/

namespace SiteFile

/-- The rules that the sites of a file break, each with the position of its site. -/
def violations (f : SiteFile) : List (Nat × SiteViolation) :=
  f.sites.zipIdx.flatMap fun e => e.1.violations.map fun v => (e.2, v)

/-- The errors of a file; the path only serves to name it. -/
def validate (f : SiteFile) (path : String) : Option Error :=
  Error.ofList (f.violations.map fun e => .cause (.site path e.1 e.2))

/-- The file with everything that was left out filled in. -/
def withDefaults (f : SiteFile) (path : String) : SiteFile :=
  { f with
    unit := if f.unit = "" then path else f.unit
    container := if f.container = "" then "Script" else f.container }

/-- The parts of a name before and after its last dot, if it has one. -/
def splitLastDot : List Char → Option (List Char × List Char)
  | [] => none
  | c :: cs =>
    match splitLastDot cs with
    | some (before, after) => some (c :: before, after)
    | none => if c = '.' then some ([], cs) else none

/-- The namespace and the name of the container. -/
def containerName (f : SiteFile) : String × String :=
  match splitLastDot f.container.toList with
  | some (before, after) => (String.ofList before, String.ofList after)
  | none => ("", f.container)

/-- The site file in a text, with its defaults filled in; the path names it and is the unit if no
other is given. -/
def parse (decode : Decoder SiteFile) (text path : String) : Except Error SiteFile :=
  match decode text with
  | .error r => throw (r.error path)
  | .ok f =>
    match f.validate path with
    | some e => throw e
    | none => pure (f.withDefaults path)

end SiteFile

end CallSites
