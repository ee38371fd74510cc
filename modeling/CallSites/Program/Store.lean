import CallSites.Program.Basic

/-!
# The store

The store holds everything about a program that changes: the type table, what registries and
tables of registries contain, how far factories have come, the declared fields and the static
initializers of containers, the final types of fields, and what has become of cells, builders and
sites.  An object about which the store has no entry is as new.

Operations run in `StoreM`.  An operation that fails keeps what it had done before it failed, as a
name that has been given out is not given out again.  Operations on types alone run in `TypeM` and
are carried over by `TypeM.toStoreM`: they cannot touch anything but the type table.
-/

namespace CallSites

/-- Everything about a program that changes. -/
structure Store where
  types : TypeTable := {}
  /-- The serial of the next registry, table, factory, view or free field. -/
  next : Nat := 0
  /-- What each view of the platform keeps back. -/
  withheld : OrderedMap Nat (List Capability) := ∅
  /-- The callable types in each registry, by key. -/
  registries : OrderedMap Nat (OrderedMap Key Definition) := ∅
  /-- The registries in each table, by unit. -/
  units : OrderedMap Nat (OrderedMap String Registry) := ∅
  /-- How each synthesizer has resolved its shapes. -/
  tallies : OrderedMap Nat Tally := ∅
  /-- How many names each cell factory has given out. -/
  named : OrderedMap Nat Nat := ∅
  /-- The declared fields of each container, by name. -/
  fields : OrderedMap Nat (OrderedMap String Field) := ∅
  /-- The static initializer of each container. -/
  initializers : OrderedMap Nat (List Instr) := ∅
  /-- The final types of the fields that have one. -/
  finals : OrderedMap FieldId Ty := ∅
  /-- What the bound cells are bound to, by their fields. -/
  bindings : OrderedMap FieldId Binding := ∅
  /-- The fields of the builders that have been resolved, or tried to. -/
  resolved : List FieldId := []
  /-- The sites of each factory. -/
  sites : OrderedMap Nat (List Site) := ∅
  /-- The fields of the sites whose cells are created in the static initializer. -/
  bootstrapped : List FieldId := []

instance : Inhabited Store := ⟨{}⟩

/-- Operations on the store.  An operation that fails keeps what it has done so far. -/
abbrev StoreM := ExceptT Failure (StateM Store)

/-- Runs an operation on types on the type table of the store. -/
def TypeM.toStoreM {α : Type} (x : TypeM α) : StoreM α :=
  ExceptT.mk fun s =>
    let (r, t) := x.run s.types
    (r, { s with types := t })

namespace StoreM

/-- Fails with an error. -/
def fail {α : Type} (e : Error) : StoreM α := throw (.error e)

/-- The outcome of a pure computation. -/
def ofExcept {α : Type} : Except Error α → StoreM α
  | .ok a => pure a
  | .error e => fail e

/-- Runs an operation and puts a note in front of its errors. -/
def withContext {α : Type} (note : String) (x : StoreM α) : StoreM α :=
  tryCatch x fun f => throw (f.mapError (.context note))

/-- The serial of the next object. -/
def fresh : StoreM Nat := do
  let s ← get
  set { s with next := s.next + 1 }
  pure s.next

end StoreM

namespace Store

/-- The store of a program compiled for a platform, before anything has happened. -/
def initial (p : Platform) : Store := { types := p.initialTypes }

/-- The callable types in a registry, by key. -/
def definitions (s : Store) (r : Registry) : OrderedMap Key Definition :=
  s.registries.getD r.serial ∅

/-- The registries in a table, by unit. -/
def unitRegistries (s : Store) (t : UnitTable) : OrderedMap String Registry :=
  s.units.getD t.serial ∅

/-- How a synthesizer has resolved its shapes. -/
def tally (s : Store) (y : Synthesizer) : Tally := s.tallies.getD y.serial {}

/-- How many names a cell factory has given out. -/
def allocated (s : Store) (f : CellFactory) : Nat := s.named.getD f.serial 0

/-- The declared fields of a container, by name. -/
def containerFields (s : Store) (c : Container) : OrderedMap String Field :=
  s.fields.getD c.serial ∅

/-- The static initializer of a container. -/
def initializer (s : Store) (c : Container) : List Instr := s.initializers.getD c.serial []

/-- The type of a field: its final type if it has one. -/
def fieldType (s : Store) (f : Field) : Option Ty :=
  match s.finals.find? f.id with
  | some t => some t
  | none => f.provisional

/-- The field has its final type. -/
def isFinal (s : Store) (f : Field) : Bool := s.finals.contains f.id

/-- What a cell is bound to, if it is. -/
def binding? (s : Store) (c : Cell) : Option Binding := s.bindings.find? c.field.id

/-- The field that holds the callable: of the generic cache cell type until the cell is bound. -/
def target (s : Store) (c : Cell) : Member :=
  match s.binding? c with
  | some b => b.target
  | none => c.target

/-- The builder has been resolved, or has been tried to. -/
def isResolved (s : Store) (b : SiteBuilder) : Bool := s.resolved.contains b.cell.field.id

/-- The sites of a factory, oldest first. -/
def factorySites (s : Store) (f : SiteFactory) : List Site := s.sites.getD f.serial []

/-- The cell of the site is created in the static initializer. -/
def isBootstrapped (s : Store) (x : Site) : Bool := s.bootstrapped.contains x.place.id

end Store

end CallSites
