import CallSites.Types.Table

/-!
# Creation of types

Named types and definitions created by a client get the next serial of the table, so no two of them
are ever the same.  The type parameters of a definition are labelled with the labels given, and by
their positions once these run out.

Sizes are signed 64-bit numbers.  A definition cannot have a negative number of type parameters or
more than can be stored; a callable type fails first on the list of its labels and then on the list
of its parameters, which is why one negative number of parameters is refused differently from the
others.
-/

namespace CallSites

/-- The label of a type parameter that is given none. -/
def defaultLabel (i : Nat) : String := "T" ++ toString (i + 1)

/-- The labels of a given number of type parameters: those given, then the default ones. -/
def labelsFor (arity : Nat) (given : List String) : List String :=
  (List.range arity).map fun i => given[i]?.getD (defaultLabel i)

/-- The labels of a callable type: one per parameter, and one for the result. -/
def callableLabels (params : Nat) (returns : Bool) : List String :=
  (List.range params).map defaultLabel ++ if returns then ["TResult"] else []

/-- The flags that a pattern sets for the first `n` parameters.  A pattern has one flag for each
byte of its encoding, and only the digit one sets its flag. -/
def patternFlags (pattern : String) (n : Nat) : List Bool :=
  let flags := pattern.toList.flatMap fun c => (c == '1') :: List.replicate (c.utf8Size - 1) false
  (List.range n).map fun i => flags[i]?.getD false

/-- The largest number of type parameters that can be stored: two to the power of 45. -/
def maxTypeParams : Int := 0x200000000000

/-- The largest number of labels that can be stored: two to the power of 44. -/
def maxLabels : Int := 0x100000000000

/-- A number of type parameters, if a definition can have as many. -/
def checkArity (arity : Int) : Except Failure Nat :=
  if arity < 0 ∨ maxTypeParams < arity then throw (.range .length) else pure arity.toNat

/-- A number of parameters, if a callable type can have as many; there is room for one label more
than there are parameters. -/
def checkParams (params : Int) : Except Failure Nat :=
  if params + 1 < 0 ∨ maxLabels < params + 1 then throw (.range .capacity)
  else if params < 0 then throw (.range .length)
  else pure params.toNat

/-- A callable type with one type parameter for each parameter and one for the result. -/
def callableDefinition (id : DefId) (ns name : String) (byRef : List Bool) (returns : Bool)
    (synthesized : Bool) : Definition where
  id := id
  ns := ns
  name := name
  kind := .delegate
  labels := callableLabels byRef.length returns
  synthesized := synthesized
  body := .callable byRef returns

namespace TypeM

/-- The serial of the next type created by a client. -/
def fresh : TypeM Nat := do
  let t ← get
  set { t with next := t.next + 1 }
  pure t.next

/-- A new named type. -/
def newNamed (ns name : String) (kind : Kind) : TypeM Named := do
  pure ⟨.free (← fresh), ns, name, kind⟩

/-- A new container. -/
def newContainer (ns name : String) : TypeM Container := do
  pure ⟨← fresh, ns, name⟩

/-- A new generic definition without members. -/
def newGeneric (ns name : String) (kind : Kind) (arity : Int) (labels : List String) :
    TypeM Definition := do
  let n ← ExceptT.mk (pure (checkArity arity))
  pure { id := .free (← fresh), ns, name, kind, labels := labelsFor n labels,
         synthesized := false, body := .empty }

/-- A new callable type; the pattern says which parameters are passed by reference. -/
def newCallable (ns name : String) (params : Int) (pattern : String) (returns : Bool) :
    TypeM Definition := do
  let n ← ExceptT.mk (pure (checkParams params))
  pure (callableDefinition (.free (← fresh)) ns name (patternFlags pattern n) returns false)

end TypeM

end CallSites
