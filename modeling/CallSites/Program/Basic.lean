import CallSites.Platform.Basic
import CallSites.Shape
import CallSites.Text.Basic

/-!
# The objects of a program

Resolving call sites involves objects that live as long as the compilation of a program: fields and
instructions of containers, registries of synthesized callable types, cache cells, call sites, and
the factories that make them.

Each object is a value that holds what is fixed when it is made, together with enough to identify
it.  Whatever changes later, such as the type of a field or whether a cell is bound, is in the
store of `CallSites.Program.Store` under that identity.  Fields of a container are identified by
their names, since a container never declares a name twice.  A cell has a field of its own, a
builder has a cell of its own and makes at most one site, so the field identifies all of these.
-/

namespace CallSites

/-! ## Fields and instructions -/

/-- Who can see a declaration. -/
inductive Access where
  | owner
  | unit
  | all
  /-- A visibility with another number, not known here. -/
  | unknown (code : UInt64) (other : 3 ≤ code.toNat)
deriving DecidableEq

namespace Access

/-- The visibility as it is shown. -/
def text : Access → String
  | .owner => "private"
  | .unit => "internal"
  | .all => "public"
  | .unknown code _ => "Access(" ++ toString code.toNat ++ ")"

/-- The visibility with a given number. -/
def ofCode (code : UInt64) : Access :=
  match h : code.toNat with
  | 0 => .owner
  | 1 => .unit
  | 2 => .all
  | _ + 3 => .unknown code (by omega)

end Access

/-- The identity of a field. -/
inductive FieldId where
  /-- The field of a container with a given name. -/
  | declared (container : Nat) (name : String)
  /-- A field outside of any container. -/
  | free (serial : Nat)
deriving DecidableEq

/-- A field, with the type that it is declared with. -/
structure Field where
  id : FieldId
  name : String
  container : Option Container
  access : Access
  static : Bool
  /-- The type until the field gets its final type. -/
  provisional : Option Ty

/-- The name of the field, after that of its container. -/
def Field.text (f : Field) : String :=
  match f.container with
  | none => f.name
  | some c => c.text ++ "::" ++ f.name

/-- What an instruction does. -/
inductive OpCode where
  /-- Pushes a type onto the stack. -/
  | loadToken
  /-- Creates an object of a type. -/
  | new
  /-- Calls a static method. -/
  | call
  /-- Stores the value on the stack in a static field. -/
  | storeStatic
  /-- An operation with another number, not known here. -/
  | unknown (code : UInt64) (other : 4 ≤ code.toNat)
deriving DecidableEq

namespace OpCode

/-- The operation as it is shown. -/
def text : OpCode → String
  | .loadToken => "ldtoken"
  | .new => "newobj"
  | .call => "call"
  | .storeStatic => "stsfld"
  | .unknown code _ => "OpCode(" ++ toString code.toNat ++ ")"

/-- The operation with a given number. -/
def ofCode (code : UInt64) : OpCode :=
  match h : code.toNat with
  | 0 => .loadToken
  | 1 => .new
  | 2 => .call
  | 3 => .storeStatic
  | _ + 4 => .unknown code (by omega)

end OpCode

/-- What an instruction works on. -/
inductive Operand where
  | absent
  | label (text : String)
  | type (t : Ty)
  | member (m : Member)
  | field (f : Field)
  | shape (s : Shape)

/-- The operand as it is shown. -/
def Operand.text : Operand → String
  | .absent => "<nil>"
  | .label s => s
  | .type t => t.text
  | .member m => m.text
  | .field f => f.text
  | .shape s => s.text

/-- An instruction of a static initializer. -/
structure Instr where
  op : OpCode
  operand : Operand

/-- The instruction as it is shown. -/
def Instr.text (i : Instr) : String := i.op.text ++ " " ++ i.operand.text

/-! ## Services -/

/-- What a view of the platform can keep back. -/
inductive Capability where
  | cell
  | genericCell
  | cellMember (name : String)
  | family (family : Family)
deriving DecidableEq

/-- What the compiler asks of a platform.  A view may keep some of it back and may offer another
generic cache cell type. -/
structure Services where
  platform : Platform
  /-- The serial of a view; absent for the platform itself. -/
  view : Option Nat := none
  /-- The generic cache cell type to offer instead of that of the platform. -/
  generic : Option Definition := none

/-! ## Registries and synthesizers -/

/-- The registry of the callable types synthesized for a unit. -/
structure Registry where
  serial : Nat
  unit : String
deriving DecidableEq

/-- A table of registries by unit. -/
structure UnitTable where
  serial : Nat
deriving DecidableEq

/-- How shapes have been resolved. -/
structure Tally where
  /-- Shapes resolved with a callable family. -/
  fastPath : Nat := 0
  /-- Callable types synthesized. -/
  synthesized : Nat := 0
  /-- Shapes for which a callable type had been synthesized before. -/
  reused : Nat := 0
deriving DecidableEq

/-- Resolves shapes to callable types, by means of a registry. -/
structure Synthesizer where
  serial : Nat
  services : Services
  registry : Registry

/-! ## Cells and sites -/

/-- Allocates cache cells in a container. -/
structure CellFactory where
  serial : Nat
  services : Services
  container : Container

/-- A cache cell, stored in a field of its own. -/
structure Cell where
  factory : CellFactory
  field : Field
  /-- The non-generic cache cell type. -/
  provisional : Ty
  /-- The field of the generic cache cell type that holds the callable. -/
  target : Member

/-- The name of the field that stores the cell. -/
def Cell.name (c : Cell) : String := c.field.name

/-- What a bound cell is bound to. -/
structure Binding where
  /-- The cache cell type over the callable. -/
  type : Instance
  callable : Instance
  target : Member
  create : Member

/-- Makes the call sites of a container. -/
structure SiteFactory where
  serial : Nat
  services : Services
  container : Container
  registry : Registry

namespace SiteFactory

/-- Where the factory gets its cells. -/
def cells (f : SiteFactory) : CellFactory := ⟨f.serial, f.services, f.container⟩

/-- Where the factory gets its callable types. -/
def synthesizer (f : SiteFactory) : Synthesizer := ⟨f.serial, f.services, f.registry⟩

end SiteFactory

/-- A call site that has a cell but perhaps no callable yet. -/
structure SiteBuilder where
  factory : SiteFactory
  cell : Cell

/-- A resolved call site. -/
structure Site where
  /-- The position among the sites of its factory. -/
  index : Nat
  shape : Shape
  cell : Cell
  callable : Instance
  target : Member
  create : Member
  /-- The container in whose static initializer the cell is created. -/
  container : Container

/-- The field that stores the cell of the site. -/
def Site.place (s : Site) : Field := s.cell.field

end CallSites
