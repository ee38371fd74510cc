import CallSites.Program.Field
import CallSites.Program.Services

/-!
# Cache cells

A cell is allocated before its callable is known: its field is declared with the non-generic cache
cell type.  Binding the cell to a callable gives the field its final type, the generic cache cell
type over the callable.  Until then the type, the callable and the create method of the cell cannot
be read.
-/

namespace CallSites

namespace CellFactory

/-- A new factory of cells in a container. -/
def new (services : Services) (container : Container) : StoreM CellFactory := do
  pure ⟨← StoreM.fresh, services, container⟩

/-- The names that the factory gives its cells. -/
def names (f : CellFactory) (s : Store) : Text.NameSequence :=
  { lead := "<>", separator := "'", count := s.allocated f }

/-- The next name for a hint.  It counts as given out even if it cannot be declared. -/
def nextName (f : CellFactory) (hint : String) : StoreM String := do
  let s ← get
  let (name, names) := (f.names s).next hint
  set { s with named := s.named.insert f.serial names.count }
  pure name

/-- Allocates a cell. -/
def allocate (f : CellFactory) (hint : String) : StoreM Cell := do
  let base ← f.services.cell
  let target ← f.services.cellMember CellMember.target.name
  let name ← f.nextName hint
  let field ← StoreM.withContext ("cannot allocate cache cell " ++ Text.quote hint ++ ": ")
    (f.container.declare name (some base) .owner true)
  pure ⟨f, field, base, target⟩

end CellFactory

namespace Cell

/-- What a bound cell is bound to; reading an unbound cell is a fault. -/
def binding (c : Cell) (s : Store) : Except Error Binding :=
  match s.binding? c with
  | some b => pure b
  | none => throw (.fault (.cellUnbound c.field.text))

/-- Binds a cell to a callable. -/
def bind (c : Cell) (callable : Instance) : StoreM Unit := do
  match (← get).binding? c with
  | some b => throw (.misuse (.cellBound c.field.text b.type.text))
  | none =>
    let generic ← c.factory.services.genericCell
    let type ← StoreM.withContext ("cannot bind cache cell " ++ c.field.text ++ ": ")
      (generic.construct [some callable]).toStoreM
    let target ← (type.member CellMember.target.name).toStoreM
    let create ← (type.member CellMember.create.name).toStoreM
    c.field.setType (some type)
    let b : Binding := ⟨type, callable, target, create⟩
    modify fun s => { s with bindings := s.bindings.insert c.field.id b }

end Cell

/-- Binds a cell that the factory has allocated. -/
def CellFactory.bind (f : CellFactory) (c : Cell) (callable : Instance) : StoreM Unit :=
  if c.factory.serial = f.serial then c.bind callable
  else throw (.misuse (.foreignCell c.field.text))

end CallSites
