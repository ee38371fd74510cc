import CallSites.Program.Store

/-!
# Registries of synthesized callable types

A registry holds at most one callable type for each key, in the order of their creation.  A table
of registries gives every unit a registry of its own when it is first asked for, and a new one
after the unit has been released.
-/

namespace CallSites

/-- The name of the callable type synthesized for a key. -/
def synthesizedName (k : Key) : String :=
  "<>" ++ (if k.void then "A" else "F") ++ "\x7b" ++ k.byRefs ++ "\x7d"

/-- The callable type for a key, as the definition at a given position in a registry. -/
def synthesizedDefinition (registry position : Nat) (k : Key) : Except Failure Definition := do
  let n ← checkParams k.params
  pure (callableDefinition (.synthesized registry position) "" (synthesizedName k)
    (patternFlags k.byRefs n) (!k.void) true)

namespace Registry

/-- A new registry for a unit. -/
def new (unit : String) : StoreM Registry := do
  pure ⟨← StoreM.fresh, unit⟩

/-- The callable type for a key, if it has been synthesized. -/
def lookup? (r : Registry) (k : Key) (s : Store) : Option Definition := (s.definitions r).find? k

/-- The callable type for a key, synthesized if need be, and whether it was there already. -/
def loadOrCreate (r : Registry) (k : Key) : StoreM (Definition × Bool) := do
  let s ← get
  let defs := s.definitions r
  match defs.find? k with
  | some d => pure (d, true)
  | none =>
    let d ← ExceptT.mk (pure (synthesizedDefinition r.serial defs.size k))
    set { s with registries := s.registries.insert r.serial (defs.insert k d) }
    pure (d, false)

/-- The callable types of a registry, oldest first. -/
def definitions (r : Registry) (s : Store) : List Definition := (s.definitions r).values

/-- The number of callable types in a registry. -/
def size (r : Registry) (s : Store) : Nat := (s.definitions r).size

/-- The number of instances of the callable types in a registry. -/
def numInstances (r : Registry) (s : Store) : Nat :=
  ((r.definitions s).map s.types.numInstances).foldr (· + ·) 0

/-- The names of the callable types in a registry, in increasing order. -/
def names (r : Registry) (s : Store) : List String :=
  sortedNames ((r.definitions s).map Definition.metadataName)

end Registry

namespace UnitTable

/-- A new table without registries. -/
def new : StoreM UnitTable := do
  pure ⟨← StoreM.fresh⟩

/-- The registry of a unit, made if need be. -/
def forUnit (t : UnitTable) (unit : String) : StoreM Registry := do
  let s ← get
  match (s.unitRegistries t).find? unit with
  | some r => pure r
  | none =>
    let r ← Registry.new unit
    modify fun s => { s with units := s.units.insert t.serial ((s.unitRegistries t).insert unit r) }
    pure r

/-- Forgets the registry of a unit. -/
def release (t : UnitTable) (unit : String) : StoreM Unit :=
  modify fun s => { s with units := s.units.insert t.serial ((s.unitRegistries t).erase unit) }

/-- The units that have a registry, in increasing order. -/
def unitNames (t : UnitTable) (s : Store) : List String := sortedNames (s.unitRegistries t).keys

end UnitTable

end CallSites
