import CallSites.Types.Basic

/-!
# Members

A member is a field or a method of a definition or of an instance.  It is declared by a
`Declaration`; once declared it belongs to a container and has a serial there, which makes members
with equal declarations distinguishable.

A definition is created with some members already: a callable type has the method that performs
the call, and a cache cell type has those members that the runtime provides.
-/

namespace CallSites

/-- A parameter of a method. -/
structure Parameter where
  name : String
  type : Option Ty
  byRef : Bool := false

/-- The two sorts of members. -/
inductive MemberKind where
  | field
  | method
deriving DecidableEq

/-- What a member is declared as. -/
structure Declaration where
  name : String
  kind : MemberKind
  static : Bool := false
  /-- The type of a field or the type that a method returns. -/
  type : Option Ty
  params : List Parameter := []

/-- A declared member. -/
structure Member extends Declaration where
  /-- The definition or the instance that the member belongs to. -/
  container : Ty
  /-- The position among all members ever made for the container. -/
  serial : Nat

namespace Member

/-- The two are one and the same member. -/
def same (x y : Member) : Bool := x.container.same y.container && x.serial == y.serial

/-- A method that returns nothing. -/
def isVoid (m : Member) : Bool := m.kind = .method && CallSites.isVoid m.type

/-- A parameter as it stands in the text of a method. -/
def paramText (p : Parameter) : String := (if p.byRef then "ref " else "") ++ typeText p.type

/-- The member as it is shown: qualified by its container and, for a method, followed by its
parameter types and the type it returns, if any. -/
def text (m : Member) : String :=
  let name := m.container.text ++ "." ++ m.name
  match m.kind with
  | .field => name
  | .method =>
    name ++ "(" ++ Text.joinWith paramText ", " m.params ++ ")" ++
      (if CallSites.isVoid m.type then "" else " " ++ typeText m.type)

end Member

namespace Definition

/-- The definition applied to its own type parameters, as the first of its instances. -/
def self (d : Definition) : Instance := ⟨d, 0, d.params⟩

/-- The parameters of the call method, in order from a given position. -/
def invokeParams (d : Definition) : Nat → List Bool → List Parameter
  | _, [] => []
  | i, b :: bs => ⟨"arg" ++ toString i, some (.param d i), b⟩ :: invokeParams d (i + 1) bs

/-- The declaration of the call method of a callable type. -/
def invokeDeclaration (d : Definition) (byRef : List Bool) (returns : Bool) : Declaration where
  name := invokeName
  kind := .method
  type := some (if returns then .param d byRef.length else .void)
  params := d.invokeParams 0 byRef

/-- The declaration of a member of a cache cell type. -/
def cellDeclaration (d : Definition) (binder : Named) : CellMember → Declaration
  | .target => { name := CellMember.target.name, kind := .field, type := some (.param d 0) }
  | .create =>
    { name := CellMember.create.name, kind := .method, static := true, type := some d.self,
      params := [⟨"binder", some (.named binder), false⟩] }

/-- The members that a definition is created with. -/
def declarations (d : Definition) : List Declaration :=
  match d.body with
  | .empty => []
  | .callable byRef returns => [d.invokeDeclaration byRef returns]
  | .cell binder members => members.map (d.cellDeclaration binder)

end Definition

end CallSites
