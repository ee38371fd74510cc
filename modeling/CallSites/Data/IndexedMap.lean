import CallSites.Data.OrderedMap

/-!
# Maps with an index

A map can be kept in two parts: a table that holds the value of every key and has no order, and an
index that lists the keys in the order in which they first came in.  A write goes to both parts
separately.  Whoever goes through the map follows the index and reads each value from the table.

Items are shown to a visitor one at a time, and the visitor may stop after any of them.  A value
that has to be created comes from a computation with effects of its own, which is run only when the
value is needed.
-/

namespace CallSites

/-- Shows items to a visitor, first to last, for as long as it wants to see more. -/
def visit {β σ : Type} (see : β → StateM σ Bool) : List β → StateM σ Unit
  | [] => pure ()
  | b :: bs => do
    if ← see b then visit see bs

/-- A visitor that writes down what it sees and stops when it has as many items as the limit says.
A limit of zero is never met. -/
def noting {β : Type} (limit : Nat) (b : β) : StateM (List β) Bool := do
  modify (· ++ [b])
  return (← get).length ≠ limit

/-- What a visitor that writes everything down has seen in the end. -/
def noted {β : Type} (limit : Nat) (tour : (β → StateM (List β) Bool) → StateM (List β) Unit) :
    List β :=
  ((tour (noting limit)).run []).2

/-- A map that is kept as a table of values and an index of its keys. -/
structure IndexedMap (κ α : Type) where
  /-- The keys in the order in which they first came in. -/
  index : List κ := []
  /-- The value of each key that has one. -/
  table : κ → Option α := fun _ => none

namespace IndexedMap

variable {κ α ε σ : Type}

/-- The number of keys. -/
def size (m : IndexedMap κ α) : Nat := m.index.length

/-- The value of a key, if it has one. -/
def find? (m : IndexedMap κ α) (k : κ) : Option α := m.table k

/-- Shows the keys to a visitor. -/
def visitKeys (m : IndexedMap κ α) (see : κ → StateM σ Bool) : StateM σ Unit := visit see m.index

section Visits

variable [Inhabited α]

/-- The value of a key that is known to have one. -/
def read (m : IndexedMap κ α) (k : κ) : α := (m.table k).getD default

/-- Shows the values to a visitor. -/
def visitValues (m : IndexedMap κ α) (see : α → StateM σ Bool) : StateM σ Unit :=
  visit (fun k => see (m.read k)) m.index

/-- Shows the keys with their values to a visitor. -/
def visitEntries (m : IndexedMap κ α) (see : κ × α → StateM σ Bool) : StateM σ Unit :=
  visit (fun k => see (k, m.read k)) m.index

end Visits

variable [DecidableEq κ]

/-- Writes a value.  A key that is not in the table yet is added to the index. -/
def insert (m : IndexedMap κ α) (k : κ) (v : α) : IndexedMap κ α where
  index := if (m.table k).isSome then m.index else m.index ++ [k]
  table := fun k' => if k' = k then some v else m.table k'

/-- The value of a key if it is present, and otherwise the one that `create` makes, which is then
written.  A creation that fails still hands out the value it made, but nothing is written. -/
def fetch (m : IndexedMap κ α) (k : κ) (create : StateM σ (α × Option ε)) :
    StateM σ (Fetch ε α × IndexedMap κ α) :=
  match m.table k with
  | some v => pure (⟨v, true, none⟩, m)
  | none => do
    match ← create with
    | (v, some e) => pure (⟨v, false, some e⟩, m)
    | (v, none) => pure (⟨v, false, none⟩, m.insert k v)

end IndexedMap

/-! ## Calls -/

/-- What can be asked of a map.  Visits stop after as many items as their limit says, unless the
limit is zero. -/
inductive MapCall (κ α ε σ : Type) where
  | store (k : κ) (v : α)
  | load (k : κ)
  | loadOrStore (k : κ) (create : StateM σ (α × Option ε))
  | keys (limit : Nat)
  | values (limit : Nat)
  | entries (limit : Nat)
  | size

/-- What a map answers. -/
inductive MapAnswer (κ α ε : Type) where
  | stored
  | loaded (v : Option α)
  | fetched (r : Fetch ε α)
  | keys (ks : List κ)
  | values (vs : List α)
  | entries (es : List (κ × α))
  | size (n : Nat)

namespace IndexedMap

variable {κ α ε σ : Type} [DecidableEq κ] [Inhabited α]

/-- Performs a call. -/
def perform (m : IndexedMap κ α) :
    MapCall κ α ε σ → StateM σ (MapAnswer κ α ε × IndexedMap κ α)
  | .store k v => pure (.stored, m.insert k v)
  | .load k => pure (.loaded (m.find? k), m)
  | .loadOrStore k create => do
    let (r, m) ← m.fetch k create
    pure (.fetched r, m)
  | .keys limit => pure (.keys (noted limit m.visitKeys), m)
  | .values limit => pure (.values (noted limit m.visitValues), m)
  | .entries limit => pure (.entries (noted limit m.visitEntries), m)
  | .size => pure (.size m.size, m)

/-- Performs calls one after the other. -/
def performAll (m : IndexedMap κ α) :
    List (MapCall κ α ε σ) → StateM σ (List (MapAnswer κ α ε) × IndexedMap κ α)
  | [] => pure ([], m)
  | c :: cs => do
    let (a, m) ← m.perform c
    let (as, m) ← m.performAll cs
    pure (a :: as, m)

end IndexedMap

end CallSites
