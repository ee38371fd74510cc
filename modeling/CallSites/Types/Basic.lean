import CallSites.Text.Basic

/-!
# Platform types

The types of a platform are named types, the containers that are being compiled, generic
definitions, their type parameters and their instances, and the one void type.

Two types may print alike and still be different, and a definition applied twice to the same
arguments must give one and the same instance.  Identity is therefore data of its own: every
named type, container and definition carries the identity it was created with, an instance carries
its *serial* among the instances of its definition, and `Ty.same` compares only these.  What can
change over time, such as the instances made so far, is not part of a type; it is kept in the
table of `CallSites.Types.Table`.  A type is thus a plain value, with its arguments inside it, and
functions on types recurse on their structure.

`Ty.equal` is the structural equality: instances are equal when their definitions are the same and
their arguments are equal.  That the two notions agree on every type made through the table is a
property of the table, not of the representation.
-/

namespace CallSites

/-! ## Names and kinds -/

/-- A name within its namespace. -/
def qualified (ns name : String) : String := if ns = "" then name else ns ++ "." ++ name

/-- The kind of a type. -/
inductive Kind where
  | invalid
  /-- The kind of what returns nothing. -/
  | void
  /-- A reference type. -/
  | reference
  /-- A value type. -/
  | value
  /-- A callable type. -/
  | delegate
  /-- A type parameter of a generic definition. -/
  | parameter
  /-- A kind with another number, not known here; it prints like the invalid kind but may be
  used. -/
  | unknown (code : UInt64) (other : 6 ≤ code.toNat)
deriving DecidableEq

namespace Kind

/-- The kind as it is shown. -/
def text : Kind → String
  | .void => "void"
  | .reference => "class"
  | .value => "struct"
  | .delegate => "delegate"
  | .parameter => "typeparam"
  | .invalid | .unknown .. => "invalid"

/-- The kind with a given number. -/
def ofCode (code : UInt64) : Kind :=
  match h : code.toNat with
  | 0 => .invalid
  | 1 => .void
  | 2 => .reference
  | 3 => .value
  | 4 => .delegate
  | 5 => .parameter
  | _ + 6 => .unknown code (by omega)

end Kind

/-! ## Named types and containers -/

/-- The identity of a named type. -/
inductive NamedId where
  /-- The type at an index of the list of types of the profile. -/
  | listed (index : Nat)
  /-- The type of binders. -/
  | binder
  /-- The non-generic cache cell type. -/
  | cell
  /-- A type created by a client. -/
  | free (serial : Nat)
deriving DecidableEq

/-- A type known by its name. -/
structure Named where
  id : NamedId
  ns : String
  name : String
  kind : Kind
deriving DecidableEq

/-- The qualified name. -/
def Named.text (t : Named) : String := qualified t.ns t.name

/-- A class that is being compiled: fields can be declared in it and it has a static
initializer. -/
structure Container where
  serial : Nat
  ns : String
  name : String
deriving DecidableEq

/-- The qualified name. -/
def Container.text (c : Container) : String := qualified c.ns c.name

/-! ## Generic definitions -/

/-- The members that a generic cache cell type may have. -/
inductive CellMember where
  /-- The field that holds the callable to invoke. -/
  | target
  /-- The static method that creates a cell from a binder. -/
  | create
deriving DecidableEq

namespace CellMember

/-- The name of the member. -/
def name : CellMember → String
  | .target => "Target"
  | .create => "Create"

/-- The member of a given name. -/
def ofName? (s : String) : Option CellMember :=
  if s = "Target" then some .target else if s = "Create" then some .create else none

end CellMember

/-- The name of the method of a callable type that performs the call. -/
def invokeName : String := "Invoke"

/-- The identity of a generic definition. -/
inductive DefId where
  /-- The generic cache cell type of the platform. -/
  | cell
  /-- The callable type without result of a given number of parameters. -/
  | action (params : Nat)
  /-- The callable type with a result of a given number of parameters. -/
  | func (params : Nat)
  /-- The definition that came at a given position in a registry. -/
  | synthesized (registry : Nat) (position : Nat)
  /-- A definition created by a client. -/
  | free (serial : Nat)
deriving DecidableEq

/-- What a definition is created with, besides its name and its type parameters. -/
inductive Body where
  /-- No members. -/
  | empty
  /-- A callable type: one flag per parameter for passing by reference, and whether a value is
  returned. -/
  | callable (byRef : List Bool) (returns : Bool)
  /-- A cache cell type with the given members, created from binders of the given type. -/
  | cell (binder : Named) (members : List CellMember)
deriving DecidableEq

/-- A generic definition. -/
structure Definition where
  id : DefId
  ns : String
  name : String
  kind : Kind
  /-- The labels of the type parameters. -/
  labels : List String
  /-- Made by the compiler rather than provided by the platform. -/
  synthesized : Bool
  body : Body
deriving DecidableEq

namespace Definition

/-- The number of type parameters. -/
def arity (d : Definition) : Nat := d.labels.length

/-- The name with the number of type parameters, if there are any. -/
def metadataName (d : Definition) : String :=
  if d.arity = 0 then d.name else d.name ++ "`" ++ toString d.arity

/-- The qualified name of the definition. -/
def text (d : Definition) : String := qualified d.ns d.metadataName

/-- The label of a type parameter. -/
def label (d : Definition) (ordinal : Nat) : String := d.labels[ordinal]?.getD ""

end Definition

/-! ## Types -/

/-- A platform type. -/
inductive Ty where
  | void
  | named (t : Named)
  | container (c : Container)
  | definition (d : Definition)
  /-- The type parameter of a definition at a position. -/
  | param (d : Definition) (ordinal : Nat)
  /-- A definition applied to arguments, with its serial among the instances of the definition. -/
  | inst (d : Definition) (serial : Nat) (args : List Ty)

instance : Inhabited Ty := ⟨.void⟩

/-- A definition applied to arguments. -/
structure Instance where
  definition : Definition
  serial : Nat
  args : List Ty

/-- The instance as a type. -/
def Instance.ty (i : Instance) : Ty := .inst i.definition i.serial i.args

instance : Coe Instance Ty := ⟨Instance.ty⟩

/-- The type parameters of a definition, as types. -/
def Definition.params (d : Definition) : List Ty := (List.range d.arity).map (Ty.param d)

namespace Ty

/-- The kind of a type; instances have the kind of their definition. -/
def kind : Ty → Kind
  | .void => .void
  | .named t => t.kind
  | .container _ => .reference
  | .definition d => d.kind
  | .param _ _ => .parameter
  | .inst d _ _ => d.kind

/-- The metadata name of a type. -/
def name : Ty → String
  | .void => "void"
  | .named t => t.name
  | .container c => c.name
  | .definition d => d.metadataName
  | .param d i => d.label i
  | .inst d _ _ => d.metadataName

mutual

/-- The type as it is shown. -/
def text : Ty → String
  | .void => "void"
  | .named t => t.text
  | .container c => c.text
  | .definition d => d.text
  | .param d i => d.label i
  | .inst d _ args => qualified d.ns d.name ++ "<" ++ Text.join ", " (texts args) ++ ">"

/-- The types as they are shown. -/
def texts : List Ty → List String
  | [] => []
  | t :: ts => t.text :: texts ts

end

/-- A list of types as it stands between the brackets of an instance. -/
def listText (ts : List Ty) : String := Text.join ", " (texts ts)

/-! ### Identity and equality -/

/-- What a type is identified by. -/
inductive Ident where
  | void
  | named (id : NamedId)
  | container (serial : Nat)
  | definition (id : DefId)
  | param (owner : DefId) (ordinal : Nat)
  | inst (definition : DefId) (serial : Nat)
deriving DecidableEq

/-- The identity of a type. -/
def ident : Ty → Ident
  | .void => .void
  | .named t => .named t.id
  | .container c => .container c.serial
  | .definition d => .definition d.id
  | .param d i => .param d.id i
  | .inst d n _ => .inst d.id n

/-- The two are one and the same type. -/
def same (x y : Ty) : Bool := x.ident = y.ident

/-- The two lists hold the same types at the same positions. -/
def sameAll (xs ys : List Ty) : Bool := xs.map ident = ys.map ident

mutual

/-- Structural equality: the same type, or two instances of one definition with equal arguments. -/
def equal : Ty → Ty → Bool
  | .inst d n xs, .inst e m ys => decide (d.id = e.id) && (n == m || equalAll xs ys)
  | x, y => x.same y

/-- The lists have the same length and equal types at every position. -/
def equalAll : List Ty → List Ty → Bool
  | [], [] => true
  | x :: xs, y :: ys => x.equal y && equalAll xs ys
  | _, _ => false

end

end Ty

/-- The instance as it is shown. -/
def Instance.text (i : Instance) : String := i.ty.text

/-! ## Absent types -/

/-- A type that may be absent, as it is shown. -/
def typeText : Option Ty → String
  | none => "<nil>"
  | some t => t.text

/-- Nothing is returned: the type is absent or of kind void. -/
def isVoid : Option Ty → Bool
  | none => true
  | some t => t.kind = .void

/-- Equality of types that may be absent. -/
def equalTypes : Option Ty → Option Ty → Bool
  | none, none => true
  | some x, some y => x.equal y
  | _, _ => false

end CallSites
