import CallSites.Program.Cell
import CallSites.Program.Synthesis

/-!
# Call sites

A call site is begun by allocating its cell and resolved, once, by finding the callable type of its
shape and binding the cell to it.  A resolved site can be bootstrapped, once: the static
initializer of its container then creates a binder, creates the cell from it, and stores the cell
in the field of the site.
-/

namespace CallSites

namespace SiteFactory

/-- A part of a factory that was left out, as it is shown. -/
def partText (text : Option String) : String := text.getD "<nil>"

/-- A new factory; every part of it is needed. -/
def new (services : Option Services) (container : Option Container) (registry : Option Registry) :
    StoreM SiteFactory :=
  match services, container, registry with
  | some v, some c, some r => do pure ⟨← StoreM.fresh, v, c, r⟩
  | _, _, _ =>
    StoreM.fail (.fault (.missingParts (partText (services.map (·.platform.runtime)))
      (partText (container.map (·.text))) (partText (registry.map (·.unit)))))

/-- The shape of an operation. -/
def derive (f : SiteFactory) (ops : Operands) : StoreM Shape := do
  let cell ← f.services.cell
  ExceptT.mk (pure (Shape.derive (some cell) ops))

/-- The callable type of an operation. -/
def callableType (f : SiteFactory) (ops : Operands) : StoreM Instance := do
  f.synthesizer.resolve (← f.derive ops)

/-- Begins a call site. -/
def beginSite (f : SiteFactory) (hint : String) : StoreM SiteBuilder := do
  pure ⟨f, ← f.cells.allocate hint⟩

end SiteFactory

namespace SiteBuilder

/-- Finds the callable type of a shape and binds the cell to it. -/
def bindShape (b : SiteBuilder) (sh : Shape) : StoreM (Instance × Member) := do
  let callable ← b.factory.synthesizer.resolve sh
  b.cell.bind callable
  let binding ← StoreM.ofExcept (b.cell.binding (← get))
  pure (callable, binding.create)

/-- Resolves a call site with a shape. -/
def resolve (b : SiteBuilder) (sh : Shape) : StoreM Site := do
  let s ← get
  if s.isResolved b then throw (.misuse (.resolvedTwice b.cell.name))
  else
    set { s with resolved := b.cell.field.id :: s.resolved }
    let (callable, create) ←
      StoreM.withContext ("call site " ++ b.cell.name ++ ": ") (b.bindShape sh)
    let s ← get
    let sites := s.factorySites b.factory
    let site : Site :=
      ⟨sites.length, sh, b.cell, callable, s.target b.cell, create, b.factory.container⟩
    set { s with sites := s.sites.insert b.factory.serial (sites ++ [site]) }
    pure site

/-- Resolves a call site with the shape of an operation. -/
def resolveOperands (b : SiteBuilder) (ops : Operands) : StoreM Site := do
  b.resolve (← b.factory.derive ops)

end SiteBuilder

namespace Site

/-- The method that performs the call. -/
def invoke (x : Site) : TypeM Member := x.callable.invoke

/-- The instructions that create the cell of a site from a binder. -/
def bootstrapCode (x : Site) (binder : Ty) : List Instr :=
  [⟨.new, .type binder⟩, ⟨.call, .member x.create⟩, ⟨.storeStatic, .field x.place⟩]

/-- Creates the cell of a site in the static initializer. -/
def bootstrap (x : Site) (binder : Option Ty) : StoreM Unit := do
  if (← get).isBootstrapped x then StoreM.fail (.cause (.bootstrapped x.cell.name))
  else
    match binder with
    | none => StoreM.fail (.fault (.noBinder x.cell.name))
    | some t =>
      (x.bootstrapCode t).forM x.container.emit
      modify fun s => { s with bootstrapped := x.place.id :: s.bootstrapped }

end Site

end CallSites
