import CallSites.Data.BitVector
import CallSites.Types.Basic

/-!
# Call shapes

A dynamic operation has operands: perhaps a receiver, arguments, perhaps a value to assign, and a
type that it results in.  Its *shape* is the signature of the callable that performs it: the cache
cell comes first, then the operands from left to right, each with the way in which it is passed.

Callable types are shared between shapes by `Key`: the number of parameters, the pattern of those
passed by reference, and whether a value is returned.  The types themselves are not part of the
key.
-/

namespace CallSites

/-- How a parameter is passed. -/
inductive PassMode where
  /-- A copy of the value. -/
  | byValue
  /-- A reference to where the caller keeps the value. -/
  | byRef
  /-- A mode with another number, not known here; it is shown like passing by value. -/
  | unknown (code : UInt64) (other : 2 ≤ code.toNat)
deriving DecidableEq

namespace PassMode

/-- The mode as it is shown. -/
def text : PassMode → String
  | .byRef => "ref"
  | .byValue | .unknown .. => "val"

/-- The mode with a given number. -/
def ofCode (code : UInt64) : PassMode :=
  match h : code.toNat with
  | 0 => .byValue
  | 1 => .byRef
  | _ + 2 => .unknown code (by omega)

/-- The mode of an operand, by reference or not. -/
def ofByRef (byRef : Bool) : PassMode := if byRef then .byRef else .byValue

end PassMode

/-- A parameter of a shape. -/
structure Param where
  type : Option Ty
  mode : PassMode := .byValue

/-- The parameter as it is shown. -/
def Param.text (p : Param) : String := (if p.mode = .byRef then "ref " else "") ++ typeText p.type

/-- The operands of a dynamic operation. -/
structure Operands where
  /-- The receiver, absent for an operation without one. -/
  receiver : Option Ty := none
  receiverByRef : Bool := false
  args : List (Option Ty) := []
  /-- For each argument whether it is passed by reference; none is if the list is empty. -/
  argByRef : List Bool := []
  /-- The value to assign, if any. -/
  right : Option Ty := none
  /-- What the operation results in: nothing if absent or of kind void. -/
  result : Option Ty := none

/-- The signature of the callable that performs an operation. -/
structure Shape where
  params : List Param
  /-- What is returned, if anything is. -/
  result : Option Ty

/-- What shapes must agree on in order to share a callable type. -/
structure Key where
  params : Int
  /-- One digit for each parameter: one if it is passed by reference and zero otherwise. -/
  byRefs : String
  /-- Nothing is returned. -/
  void : Bool
deriving DecidableEq

/-- The key as it is shown. -/
def Key.text (k : Key) : String :=
  (if k.void then "A" else "F") ++ "\x7b" ++ k.byRefs ++ "\x7d/" ++ toString k.params

namespace Operands

/-- The number of pass modes fits the number of arguments. -/
def modesFit (ops : Operands) : Bool :=
  ops.argByRef.isEmpty || ops.argByRef.length == ops.args.length

/-- The arguments with their pass modes; modes that are not given are by value. -/
def zipArgs : List (Option Ty) → List Bool → List Param
  | [], _ => []
  | a :: as, [] => ⟨a, .byValue⟩ :: zipArgs as []
  | a :: as, b :: bs => ⟨a, .ofByRef b⟩ :: zipArgs as bs

/-- The operands from left to right, each with the way in which it is passed. -/
def flat (ops : Operands) : List Param :=
  (ops.receiver.toList.map fun t => ⟨some t, .ofByRef ops.receiverByRef⟩) ++
  zipArgs ops.args ops.argByRef ++
  (ops.right.toList.map fun t => ⟨some t, .byValue⟩)

end Operands

namespace Shape

/-- The shape of an operation, with the cache cell as its first parameter. -/
def derive (cell : Option Ty) (ops : Operands) : Except Failure Shape :=
  if ops.modesFit then
    pure ⟨⟨cell, .byValue⟩ :: ops.flat, if CallSites.isVoid ops.result then none else ops.result⟩
  else throw (.misuse (.passModes ops.argByRef.length ops.args.length))

/-- Nothing is returned. -/
def isVoid (s : Shape) : Bool := s.result.isNone

/-- Some parameter is passed by reference. -/
def hasByRef (s : Shape) : Bool := s.params.any (·.mode = .byRef)

/-- One bit for each parameter, set if it is passed by reference. -/
def byRefs (s : Shape) : BitVector := .ofBools (s.params.map fun p => p.mode = .byRef)

/-- What the shape has in common with those that can share its callable type. -/
def key (s : Shape) : Key := ⟨s.params.length, s.byRefs.digits, s.isVoid⟩

/-- The types of the parameters, followed by the type that is returned, if any. -/
def signature (s : Shape) : List (Option Ty) :=
  s.params.map (·.type) ++ if s.isVoid then [] else [s.result]

/-- The parameters agree in number, in how they are passed, and in their types. -/
def equalParams : List Param → List Param → Bool
  | [], [] => true
  | p :: ps, q :: qs => decide (p.mode = q.mode) && equalTypes p.type q.type && equalParams ps qs
  | _, _ => false

/-- The shapes have equal parameters and equal results. -/
def equal (s t : Shape) : Bool :=
  equalParams s.params t.params && s.isVoid == t.isVoid &&
    (s.isVoid || equalTypes s.result t.result)

/-- The shape as it is shown. -/
def text (s : Shape) : String :=
  "(" ++ Text.joinWith Param.text ", " s.params ++ ")" ++
    (if s.isVoid then "" else " " ++ typeText s.result)

end Shape

end CallSites
