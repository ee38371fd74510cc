import CallSites.Data.OrderedMap
import CallSites.Error
import CallSites.Types.Member

/-!
# The type table

The table holds what changes about types: the instances that every definition has been applied to,
the members added to definitions after their creation, and the members that instances have been
asked for.  A definition or instance that the table has no entry for is one to which nothing has
happened yet.

Instances are *interned*.  The instances of a definition are filed in buckets by the text of their
argument lists, and a bucket is searched with structural equality, since different types may print
alike.  The members of an instance are made when they are first asked for and kept from then on.
-/

namespace CallSites

/-! ## The state -/

/-- What has happened to a definition. -/
structure DefState where
  /-- The members declared after the creation, oldest first. -/
  added : List Declaration := []
  /-- The instances, filed by the text of their arguments. -/
  buckets : OrderedMap String (List Instance) := ∅

/-- What has happened to an instance. -/
structure InstState where
  /-- The number of members made for the instance so far. -/
  made : Nat := 0
  /-- The members it has been asked for, by name. -/
  members : OrderedMap String Member := ∅

/-- The types made so far. -/
structure TypeTable where
  /-- The serial of the next type created by a client. -/
  next : Nat := 0
  definitions : OrderedMap DefId DefState := ∅
  instances : OrderedMap (DefId × Nat) InstState := ∅

instance : Inhabited TypeTable := ⟨{}⟩

/-- Operations on the type table.  An operation that fails keeps what it has done so far. -/
abbrev TypeM := ExceptT Failure (StateM TypeTable)

namespace TypeTable

/-- What has happened to a definition. -/
def definition (t : TypeTable) (d : Definition) : DefState := t.definitions.getD d.id {}

/-- What has happened to an instance. -/
def instanceState (t : TypeTable) (i : Instance) : InstState :=
  t.instances.getD (i.definition.id, i.serial) {}

/-- The instances of a definition whose arguments have a given text. -/
def bucket (t : TypeTable) (d : Definition) (key : String) : List Instance :=
  (t.definition d).buckets.getD key []

/-- The number of instances of a definition. -/
def numInstances (t : TypeTable) (d : Definition) : Nat :=
  ((t.definition d).buckets.values.map List.length).foldr (· + ·) 0

/-- The instance of a definition over given arguments, if there is one. -/
def findInstance? (t : TypeTable) (d : Definition) (args : List Ty) : Option Instance :=
  (t.bucket d (Ty.listText args)).find? fun i => Ty.equalAll i.args args

/-- Files a new instance of a definition. -/
def file (t : TypeTable) (i : Instance) : TypeTable :=
  let s := t.definition i.definition
  let key := Ty.listText i.args
  { t with
    definitions := t.definitions.insert i.definition.id
      { s with buckets := s.buckets.insert key (t.bucket i.definition key ++ [i]) } }

/-- The members of a definition by name, in the order in which the names were declared. -/
def members (t : TypeTable) (d : Definition) : OrderedMap String Member :=
  ((d.declarations ++ (t.definition d).added).zipIdx).foldl
    (fun ms e => ms.insert e.1.name { e.1 with container := .definition d, serial := e.2 }) ∅

/-- The member of a definition with a given name. -/
def member? (t : TypeTable) (d : Definition) (name : String) : Option Member :=
  (t.members d).find? name

/-- Declares one more member in a definition. -/
def addMember (t : TypeTable) (d : Definition) (m : Declaration) : TypeTable :=
  let s := t.definition d
  { t with definitions := t.definitions.insert d.id { s with added := s.added ++ [m] } }

end TypeTable

/-! ## Construction -/

namespace Definition

/-- A type can be used as an argument unless it is absent or of kind void or invalid. -/
def checkArg (d : Definition) (i : Nat) : Option Ty → Except Failure Ty
  | none => throw (.error (.cause (.nilArgument i d.text)))
  | some t =>
    match t.kind with
    | .void | .invalid => throw (.error (.cause (.unusableArgument t.text i d.text)))
    | _ => pure t

/-- Checks arguments from left to right, the first of them standing at a given position. -/
def checkArgsFrom (d : Definition) : Nat → List (Option Ty) → Except Failure (List Ty)
  | _, [] => pure []
  | i, a :: as => do
    let t ← d.checkArg i a
    let ts ← d.checkArgsFrom (i + 1) as
    pure (t :: ts)

/-- The arguments, if there are as many as type parameters and each can be used. -/
def checkArgs (d : Definition) (args : List (Option Ty)) : Except Failure (List Ty) :=
  if args.length ≠ d.arity then throw (.error (.fault (.wrongArity d.text args.length d.arity)))
  else d.checkArgsFrom 0 args

/-- The instance of a definition over given arguments: the one filed for equal arguments, or a new
one. -/
def construct (d : Definition) (args : List (Option Ty)) : TypeM Instance := do
  let args ← ExceptT.mk (pure (d.checkArgs args))
  let t ← get
  match t.findInstance? d args with
  | some i => pure i
  | none =>
    let i : Instance := ⟨d, t.numInstances d, args⟩
    set (t.file i)
    pure i

end Definition

/-! ## Substitution -/

namespace Instance

mutual

/-- Replaces the type parameters of the definition of an instance by the arguments of the
instance.  Types that do not mention them come back as they are. -/
def substituteTy (inst : Instance) : Ty → TypeM Ty
  | .param d i =>
    if d.id = inst.definition.id then pure (inst.args[i]?.getD (.param d i)) else pure (.param d i)
  | .inst d n args => do
    let args' ← substituteAll inst args
    if Ty.sameAll args' args then pure (.inst d n args)
    else return (← d.construct (args'.map some)).ty
  | .void => pure .void
  | .named t => pure (.named t)
  | .container c => pure (.container c)
  | .definition d => pure (.definition d)

/-- Replaces the type parameters in every type of a list. -/
def substituteAll (inst : Instance) : List Ty → TypeM (List Ty)
  | [] => pure []
  | t :: ts => do
    let t' ← substituteTy inst t
    let ts' ← substituteAll inst ts
    pure (t' :: ts')

end

/-- Replaces the type parameters in a type that may be absent. -/
def substitute (inst : Instance) : Option Ty → TypeM (Option Ty)
  | none => pure none
  | some t => return some (← inst.substituteTy t)

/-! ## Members of instances -/

/-- Replaces the type parameters in the types of parameters. -/
def substituteParams (inst : Instance) : List Parameter → TypeM (List Parameter)
  | [] => pure []
  | p :: ps => do
    let type ← inst.substitute p.type
    let rest ← inst.substituteParams ps
    pure ({ p with type } :: rest)

end Instance

/-- A member of a definition as a new member of one of its instances. -/
def Member.specialise (m : Member) (inst : Instance) : TypeM Member := do
  unless m.container.same (.definition inst.definition) do
    throw (.error (.fault (.foreignMember m.text inst.definition.text)))
  let type ← inst.substitute m.type
  let params ← inst.substituteParams m.params
  let t ← get
  let s := t.instanceState inst
  let key := (inst.definition.id, inst.serial)
  set { t with instances := t.instances.insert key { s with made := s.made + 1 } }
  pure { name := m.name, kind := m.kind, static := m.static, type, params,
         container := inst, serial := s.made }

namespace Instance

/-- The member of an instance with a given name.  It is made from the member of the definition
when it is first asked for, and the same one is returned from then on. -/
def member (inst : Instance) (name : String) : TypeM Member := do
  let t ← get
  match (t.instanceState inst).members.find? name with
  | some m => pure m
  | none =>
    match t.member? inst.definition name with
    | none => throw (.error (.lacks (.member name inst.definition.text)))
    | some m =>
      let m ← m.specialise inst
      modify fun t =>
        let s := t.instanceState inst
        { t with
          instances := t.instances.insert (inst.definition.id, inst.serial)
            { s with members := s.members.insert name m } }
      pure m

/-- The method of a callable type that performs the call. -/
def invoke (callable : Instance) : TypeM Member := callable.member invokeName

end Instance

end CallSites
