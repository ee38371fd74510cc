/-!
# Insertion-ordered maps

A map that remembers the order in which its keys first came in.  Writing to a key that is already
present keeps its position; erasing forgets it.  The map is the list of its entries, so everything
that iterates over it does so in that order.
-/

namespace CallSites

universe u v w

/-- A map from keys to values, iterated in the order of first insertion. -/
structure OrderedMap (κ : Type u) (α : Type v) where
  entries : List (κ × α) := []

/-- What looking a key up, or else creating its value, came to. -/
structure Fetch (ε : Type w) (α : Type v) where
  value : α
  /-- The value was there already; nothing has been created. -/
  loaded : Bool
  /-- Why the value could not be created; the map is then unchanged. -/
  error : Option ε

namespace OrderedMap

variable {κ : Type u} {α : Type v} {ε : Type w}

/-- The map without entries. -/
def empty : OrderedMap κ α := ⟨[]⟩

instance : EmptyCollection (OrderedMap κ α) := ⟨empty⟩

instance : Inhabited (OrderedMap κ α) := ⟨empty⟩

/-- The entries in the order in which their keys came in. -/
def toList (m : OrderedMap κ α) : List (κ × α) := m.entries

/-- The keys in the order in which they came in. -/
def keys (m : OrderedMap κ α) : List κ := m.entries.map Prod.fst

/-- The values in the order of their keys. -/
def values (m : OrderedMap κ α) : List α := m.entries.map Prod.snd

/-- The number of keys. -/
def size (m : OrderedMap κ α) : Nat := m.entries.length

variable [DecidableEq κ]

/-- The value of a key in a list of entries. -/
def findEntry (k : κ) : List (κ × α) → Option α
  | [] => none
  | (k', v) :: rest => if k' = k then some v else findEntry k rest

/-- Writes an entry in place if its key is listed, and at the end otherwise. -/
def insertEntry (k : κ) (v : α) : List (κ × α) → List (κ × α)
  | [] => [(k, v)]
  | (k', v') :: rest => if k' = k then (k, v) :: rest else (k', v') :: insertEntry k v rest

/-- The value of a key, if it has one. -/
def find? (m : OrderedMap κ α) (k : κ) : Option α := findEntry k m.entries

/-- The value of a key, or a default for a key that was never written. -/
def getD (m : OrderedMap κ α) (k : κ) (d : α) : α := (m.find? k).getD d

/-- The key has a value. -/
def contains (m : OrderedMap κ α) (k : κ) : Bool := (m.find? k).isSome

/-- Writes a value, in place if the key is present and at the end otherwise. -/
def insert (m : OrderedMap κ α) (k : κ) (v : α) : OrderedMap κ α := ⟨insertEntry k v m.entries⟩

/-- Forgets a key. -/
def erase (m : OrderedMap κ α) (k : κ) : OrderedMap κ α :=
  ⟨m.entries.filter fun e => e.1 ≠ k⟩

/-- The value of a key if it is present, and otherwise the one that `create` makes, which is then
written.  A creation that fails still hands out the value it made, but nothing is written. -/
def fetch (m : OrderedMap κ α) (k : κ) (create : Unit → α × Option ε) :
    Fetch ε α × OrderedMap κ α :=
  match m.find? k with
  | some v => (⟨v, true, none⟩, m)
  | none =>
    match create () with
    | (v, some e) => (⟨v, false, some e⟩, m)
    | (v, none) => (⟨v, false, none⟩, m.insert k v)

/-- The entries written one after the other into the empty map. -/
def ofList (entries : List (κ × α)) : OrderedMap κ α :=
  entries.foldl (fun m e => m.insert e.1 e.2) empty

end OrderedMap

end CallSites
