import CallSites.Error
import CallSites.Types.Basic

/-!
# Profiles

A profile describes the runtime library of a platform: its cache cell types, its two families of
callable types and its named types.  `Profile.violations` lists every rule that a profile breaks,
in the order in which the profile is written down; a profile is accepted when the list is empty.
`Profile.withDefaults` fills in what may be left out.
-/

namespace CallSites

/-- The cache cell types of a runtime. -/
structure CellSpec where
  ns : String := ""
  /-- The name of the non-generic cache cell type. -/
  base : String := ""
  /-- The name of the generic cache cell type; that of the non-generic one if empty. -/
  generic : String := ""
  /-- The name of the type of binders. -/
  binder : String := ""
  /-- The members of the generic cache cell type; all of them if the list is absent. -/
  members : Option (List String) := none
deriving DecidableEq

/-- A family of callable types, one for each number of parameters. -/
structure FamilySpec where
  ns : String := ""
  name : String := ""
  /-- The largest number of parameters, the result not counted. -/
  maxParams : Int := 0
deriving DecidableEq

/-- A named type of a runtime. -/
structure TypeSpec where
  ns : String := ""
  name : String := ""
  /-- Either `class` or `struct`; `class` if empty. -/
  kind : String := ""
deriving DecidableEq

/-- The qualified name of the type. -/
def TypeSpec.fullName (t : TypeSpec) : String := qualified t.ns t.name

/-- The kind of the type. -/
def TypeSpec.typeKind (t : TypeSpec) : Kind := if t.kind = "struct" then .value else .reference

/-- The runtime library of a platform. -/
structure Profile where
  runtime : String := ""
  /-- Absent for a runtime that does not support dynamic call sites. -/
  cell : Option CellSpec := none
  action : FamilySpec := {}
  func : FamilySpec := {}
  types : List TypeSpec := []
deriving DecidableEq

namespace Profile

/-- The description of a family. -/
def family (p : Profile) : Family → FamilySpec
  | .action => p.action
  | .func => p.func

/-! ## Validation -/

/-- The rules that the description of the cache cell types breaks. -/
def cellViolations (c : CellSpec) : List ProfileViolation :=
  (if c.base = "" then [.baseRequired] else []) ++
  (if c.binder = "" then [.binderRequired] else []) ++
  ((c.members.getD []).filter fun m => (CellMember.ofName? m).isNone).map .unknownMember

/-- The rules that the description of a family breaks. -/
def familyViolations (family : Family) (f : FamilySpec) : List ProfileViolation :=
  (if f.name = "" then [.familyName family] else []) ++
  (if f.maxParams < 0 ∨ maxFamilyParams < f.maxParams then [.familyRange family f.maxParams]
   else [])

/-- The kinds that a type may be given. -/
def knownKinds : List String := ["", "class", "struct"]

/-- The rules that a list of types breaks, the first of them standing at a given position and some
full names being taken.  A type without a name breaks no other rule. -/
def typeViolations : Nat → List String → List TypeSpec → List ProfileViolation
  | _, _, [] => []
  | i, taken, t :: ts =>
    if t.name = "" then .typeName i :: typeViolations (i + 1) taken ts
    else
      (if t.kind ∈ knownKinds then [] else [.typeKind i t.kind]) ++
      (if t.fullName ∈ taken then [.typeTwice t.fullName] else []) ++
      typeViolations (i + 1) (t.fullName :: taken) ts

/-- The rules that a profile breaks, in the order in which it is written down. -/
def violations (p : Profile) : List ProfileViolation :=
  (match p.cell with
   | none => []
   | some c => cellViolations c) ++
  familyViolations .action p.action ++ familyViolations .func p.func ++
  typeViolations 0 [] p.types

/-- The errors of a profile; the path only serves to name it. -/
def validate (p : Profile) (path : String) : Option Error :=
  Error.ofList (p.violations.map fun v => .cause (.profile path v))

/-! ## Defaults -/

/-- The cache cell types with everything that was left out filled in. -/
def cellDefaults (c : CellSpec) : CellSpec :=
  { c with
    generic := if c.generic = "" then c.base else c.generic
    members := some (c.members.getD [CellMember.target.name, CellMember.create.name]) }

/-- The type with its kind filled in. -/
def typeDefaults (t : TypeSpec) : TypeSpec :=
  { t with kind := if t.kind = "" then "class" else t.kind }

/-- The profile with everything that was left out filled in. -/
def withDefaults (p : Profile) : Profile :=
  { p with
    runtime := if p.runtime = "" then "runtime" else p.runtime
    cell := p.cell.map cellDefaults
    types := p.types.map typeDefaults }

/-- The profile in a text, with its defaults filled in; the path only serves to name it. -/
def parse (decode : Decoder Profile) (text path : String) : Except Error Profile :=
  match decode text with
  | .error r => throw (r.error path)
  | .ok p =>
    match p.validate path with
    | some e => throw e
    | none => pure p.withDefaults

/-- The profile of the common runtime library. -/
def standard : Profile :=
  withDefaults
    { runtime := "netstandard"
      cell := some
        { ns := "System.Runtime.CompilerServices", base := "CallSite", binder := "CallSiteBinder" }
      action := { ns := "System", name := "Action", maxParams := 16 }
      func := { ns := "System", name := "Func", maxParams := 16 }
      types :=
        [ { ns := "System", name := "Object" }
        , { ns := "System", name := "String" }
        , { ns := "System", name := "Boolean", kind := "struct" }
        , { ns := "System", name := "Int32", kind := "struct" }
        , { ns := "System", name := "Int64", kind := "struct" }
        , { ns := "System", name := "Double", kind := "struct" } ] }

end Profile

end CallSites
