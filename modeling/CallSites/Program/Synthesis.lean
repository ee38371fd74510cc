import CallSites.Program.Registry
import CallSites.Program.Services

/-!
# Resolution of shapes

A shape without parameters passed by reference is resolved with the callable family of the platform
if the family goes that far.  Every other shape is resolved with the callable type that the
registry has for its key, synthesized if need be; this is counted, and the callable type is kept,
even if the types of the shape then turn out not to be usable.
-/

namespace CallSites

namespace Synthesizer

/-- A new synthesizer over a registry. -/
def new (services : Services) (registry : Registry) : StoreM Synthesizer := do
  pure ⟨← StoreM.fresh, services, registry⟩

/-- Changes the counts of a synthesizer. -/
def count (y : Synthesizer) (f : Tally → Tally) : StoreM Unit :=
  modify fun s => { s with tallies := s.tallies.insert y.serial (f (s.tally y)) }

/-- Applies a callable type to the signature of a shape. -/
def instantiate (d : Definition) (sh : Shape) : StoreM Instance :=
  StoreM.withContext ("cannot instantiate " ++ d.text ++ " for shape " ++ sh.text ++ ": ")
    (d.construct sh.signature).toStoreM

/-- The family of callable types that a shape belongs to. -/
def familyOf (sh : Shape) : Family := if sh.isVoid then .action else .func

/-- The platform's own callable type for a shape, if the platform has one. -/
def provided? (y : Synthesizer) (sh : Shape) : StoreM (Option Definition) := do
  if sh.hasByRef then pure none
  else y.services.family? (familyOf sh) sh.params.length

/-- The callable type of a shape. -/
def resolve (y : Synthesizer) (sh : Shape) : StoreM Instance := do
  match ← y.provided? sh with
  | some d =>
    let i ← instantiate d sh
    y.count fun t => { t with fastPath := t.fastPath + 1 }
    pure i
  | none =>
    let (d, loaded) ← y.registry.loadOrCreate sh.key
    y.count fun t =>
      if loaded then { t with reused := t.reused + 1 }
      else { t with synthesized := t.synthesized + 1 }
    instantiate d sh

end Synthesizer

end CallSites
