import CallSites.Program.Store

/-!
# Services

What the compiler asks of a platform: the cache cell types, the members of the generic one, and the
callable families.  A view of a platform keeps some of these back, and can keep back more later on.
-/

namespace CallSites

namespace Services

/-- The platform itself. -/
def ofPlatform (p : Platform) : Services := { platform := p }

/-- A new view of a platform that keeps back the given capabilities. -/
def newView (p : Platform) (withheld : List Capability) (generic : Option Definition) :
    StoreM Services := do
  let n ← StoreM.fresh
  modify fun s => { s with withheld := s.withheld.insert n withheld }
  pure ⟨p, some n, generic⟩

/-- What a view keeps back; nothing for the platform itself. -/
def withheld (v : Services) (s : Store) : List Capability :=
  match v.view with
  | none => []
  | some n => s.withheld.getD n []

/-- Keeps back more of a view; the platform itself keeps nothing back. -/
def withhold (v : Services) (capabilities : List Capability) : StoreM Unit :=
  match v.view with
  | none => pure ()
  | some n =>
    modify fun s =>
      { s with withheld := s.withheld.insert n (s.withheld.getD n [] ++ capabilities) }

/-- The view keeps a capability back. -/
def keepsBack (v : Services) (c : Capability) : StoreM Bool := do
  pure ((v.withheld (← get)).contains c)

/-- The non-generic cache cell type. -/
def cell (v : Services) : StoreM Ty := do
  if ← v.keepsBack .cell then StoreM.fail (.lacks (.withheld "CallSite"))
  else StoreM.ofExcept v.platform.cell

/-- The generic cache cell type. -/
def genericCell (v : Services) : StoreM Definition := do
  if ← v.keepsBack .genericCell then StoreM.fail (.lacks (.withheld "CallSite<T>"))
  else
    match v.generic with
    | some d => pure d
    | none => StoreM.ofExcept v.platform.genericCell

/-- The member of the generic cache cell type with a given name. -/
def cellMember (v : Services) (name : String) : StoreM Member := do
  if ← v.keepsBack (.cellMember name) then
    StoreM.fail (.lacks (.withheld ("member " ++ name)))
  else StoreM.ofExcept (v.platform.cellMember name)

/-- The callable type of a family with a given number of parameters, if there is one. -/
def family? (v : Services) (family : Family) (params : Int) : StoreM (Option Definition) := do
  if ← v.keepsBack (.family family) then pure none
  else pure (v.platform.family? family params)

end Services

end CallSites
