import CallSites.Text.Basic
import CallSites.Platform.Profile
import CallSites.Types.Create

/-!
# Platforms

A platform is what an accepted profile describes.  It is a constant: the cache cell types, the
callable families and the named types are functions of the profile, and their identities do not
depend on when they are asked for.  Only the instances made of its definitions change, and these
are in the type table; `Platform.initialTypes` is the table of a platform that nothing has been
asked of yet.
-/

namespace CallSites

/-- A platform. -/
structure Platform where
  /-- An accepted profile with its defaults filled in. -/
  profile : Profile

namespace Platform

/-- The platform that a profile describes. -/
def ofProfile (p : Profile) : Except Error Platform :=
  match p.validate "profile" with
  | some e => throw e
  | none => pure ⟨p.withDefaults⟩

/-- The platform of the common runtime library. -/
def standard : Platform := ⟨Profile.standard⟩

/-- The name of the runtime library. -/
def runtime (p : Platform) : String := p.profile.runtime

/-! ## Cache cell types -/

/-- The type of binders, if there are cache cell types. -/
def binder? (p : Platform) : Option Named :=
  p.profile.cell.map fun c => ⟨.binder, c.ns, c.binder, .reference⟩

/-- The non-generic cache cell type. -/
def cell? (p : Platform) : Option Named :=
  p.profile.cell.map fun c => ⟨.cell, c.ns, c.base, .reference⟩

/-- The members that the generic cache cell type is declared with. -/
def cellMembers (c : CellSpec) : List CellMember := (c.members.getD []).filterMap CellMember.ofName?

/-- The generic cache cell type of a description. -/
def cellDefinition (c : CellSpec) : Definition where
  id := .cell
  ns := c.ns
  name := c.generic
  kind := .reference
  labels := ["T"]
  synthesized := false
  body := .cell ⟨.binder, c.ns, c.binder, .reference⟩ (cellMembers c)

/-- The generic cache cell type. -/
def genericCell? (p : Platform) : Option Definition := p.profile.cell.map cellDefinition

/-- The type of binders. -/
def binder (p : Platform) : Except Error Ty :=
  match p.binder? with
  | none => throw (.lacks (.binder p.runtime))
  | some t => pure (.named t)

/-- The non-generic cache cell type. -/
def cell (p : Platform) : Except Error Ty :=
  match p.cell? with
  | none => throw (.lacks (.cell p.runtime))
  | some t => pure (.named t)

/-- The generic cache cell type. -/
def genericCell (p : Platform) : Except Error Definition :=
  match p.genericCell? with
  | none => throw (.lacks (.genericCell p.runtime))
  | some d => pure d

/-- The member of the generic cache cell type with a given name, as the platform declares it. -/
def cellMember (p : Platform) (name : String) : Except Error Member :=
  match p.genericCell?.bind fun d => ({} : TypeTable).member? d name with
  | none => throw (.lacks (.cellMember name p.runtime))
  | some m => pure m

/-- The type table of a platform that nothing has been asked of: the generic cache cell type has
been applied to its own type parameter, and nothing else has been constructed. -/
def initialTypes (p : Platform) : TypeTable :=
  match p.genericCell? with
  | none => {}
  | some d => ({} : TypeTable).file d.self

/-! ## Callable families -/

/-- The identity of the callable type of a family with a given number of parameters. -/
def familyId : Family → Nat → DefId
  | .action, n => .action n
  | .func, n => .func n

/-- The callable type of a family with a given number of parameters, if the family has one. -/
def family? (p : Platform) (family : Family) (params : Int) : Option Definition :=
  let spec := p.profile.family family
  if params < 0 ∨ spec.maxParams < params then none
  else
    let n := params.toNat
    some (callableDefinition (familyId family n) spec.ns spec.name (List.replicate n false)
      (family = .func) false)

/-! ## Named types -/

/-- The named types by full name.  A type that is written later takes the place of an earlier one
of the same name. -/
def types (p : Platform) : OrderedMap String Ty :=
  let listed := p.profile.types.zipIdx.map fun e =>
    (e.1.fullName, Ty.named ⟨.listed e.2, e.1.ns, e.1.name, e.1.typeKind⟩)
  let cells := (p.binder?.toList ++ p.cell?.toList).map fun t => (t.text, Ty.named t)
  OrderedMap.ofList ((Ty.void.text, Ty.void) :: listed ++ cells)

/-- The full names of the named types, in increasing order. -/
def typeNames (p : Platform) : List String := sortedNames p.types.keys

/-- A full name ends with a given name in some namespace. -/
def isSuffixName (name full : String) : Bool := ('.' :: name.toList).isSuffixOf full.toList

/-- The named type with a given full name or, failing that, the only one that has the name in some
namespace. -/
def lookup (p : Platform) (name : String) : Except Error Ty :=
  let types := p.types
  match types.find? name with
  | some t => pure t
  | none =>
    match p.typeNames.filter (isSuffixName name) with
    | [] => throw (.lacks (.type name p.runtime))
    | [full] => pure (types.getD full .void)
    | found => throw (.cause (.ambiguousType name found.length))

end Platform

end CallSites
