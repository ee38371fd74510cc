import CallSites.Error

/-!
# Files by path

Files are read by path from a folder that is held in memory.  The folder has files and no further
folders, and of what is around it only the folders that lead to it are known.

A path is walked step by step, a step being what stands between slashes.  An empty step and a dot
stay in a folder, two dots leave it, and anything else names something in it.  There is no step
from a file, not even an empty one, so a slash after the name of a file is one too many.
-/

namespace CallSites

/-- The files of a folder, by name. -/
structure Folder where
  files : List (String × String) := []

namespace Folder

/-- Where a path leads. -/
inductive Place where
  /-- The folder. -/
  | inside
  /-- One of the folders around it. -/
  | around
  /-- A file with its text. -/
  | file (text : String)
deriving DecidableEq

/-- The largest number of bytes of a name. -/
def maxName : Nat := 255

/-- The number of bytes that a path must stay below. -/
def pathBound : Nat := 4096

/-- Where a step leads from a place. -/
def step (f : Folder) (place : Place) (name : String) : Except ReadFault Place :=
  match place with
  | .file _ => throw .notDirectory
  | .inside =>
    if name = "" ∨ name = "." then pure .inside
    else if name = ".." then pure .around
    else if maxName < name.utf8ByteSize then throw .longName
    else
      match f.files.lookup name with
      | some text => pure (.file text)
      | none => throw .absent
  | .around =>
    if name = "" ∨ name = "." ∨ name = ".." then pure .around
    else if maxName < name.utf8ByteSize then throw .longName
    else throw .absent

/-- Where a list of steps leads from a place. -/
def walk (f : Folder) : Place → List String → Except ReadFault Place
  | place, [] => pure place
  | place, name :: names => do f.walk (← f.step place name) names

/-- Where a path leads.  One that starts with a slash starts outside of the folder. -/
def find (f : Folder) (path : String) : Except ReadFault Place :=
  if path.toList.contains (Char.ofNat 0) then throw .invalid
  else if path = "" then throw .absent
  else if pathBound ≤ path.utf8ByteSize then throw .longName
  else f.walk (if path.toList.head? = some '/' then .around else .inside) (Text.split '/' path)

/-- The text of the file at a path. -/
def read (f : Folder) (path : String) : Except ReadFault String := do
  match ← f.find path with
  | .file text => pure text
  | .inside | .around => throw .directory

end Folder

end CallSites
