import CallSites.Program.Store

/-!
# Fields and static initializers

A container declares each name once.  A field is declared with a provisional type, which is
replaced once, by its final type.
-/

namespace CallSites

/-- A new field outside of any container. -/
def Field.newFree (name : String) (type : Option Ty) (access : Access) (static : Bool) :
    StoreM Field := do
  pure ⟨.free (← StoreM.fresh), name, none, access, static, type⟩

namespace Container

/-- The field of a container with a given declaration. -/
def fieldOf (c : Container) (name : String) (type : Option Ty) (access : Access) (static : Bool) :
    Field :=
  ⟨.declared c.serial name, name, some c, access, static, type⟩

/-- Declares a field. -/
def declare (c : Container) (name : String) (type : Option Ty) (access : Access) (static : Bool) :
    StoreM Field := do
  let s ← get
  let fields := s.containerFields c
  if fields.contains name then StoreM.fail (.cause (.fieldDeclared name c.text))
  else
    let f := c.fieldOf name type access static
    set { s with fields := s.fields.insert c.serial (fields.insert name f) }
    pure f

/-- Adds an instruction at the end of the static initializer. -/
def emit (c : Container) (i : Instr) : StoreM Unit :=
  modify fun s =>
    { s with initializers := s.initializers.insert c.serial (s.initializer c ++ [i]) }

end Container

namespace Field

/-- Gives a field its final type. -/
def setType (f : Field) (type : Option Ty) : StoreM Unit := do
  let s ← get
  if s.isFinal f then
    StoreM.fail (.fault (.fieldFinal f.text (typeText (s.fieldType f)) (typeText type)))
  else
    match type with
    | none => StoreM.fail (.fault (.fieldUntyped f.text))
    | some t => set { s with finals := s.finals.insert f.id t }

end Field

end CallSites
