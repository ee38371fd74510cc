/-!
# Texts and names

Lists are written with a separator between consecutive items and read back by cutting at a
separating character.  The functions on characters are the ones that recurse; the functions on
strings only wrap them.

Names come in lists.  An option that may be repeated collects a list of names: each value it is
given is cut at its commas, the blanks around every part are dropped and parts that are then empty
are left out, so a collected name is never empty, never holds a comma and never starts or ends with
a blank.  What counts as blank is the Unicode property `White_Space`: the five control characters
from the horizontal tab to the carriage return, the space, and the wider spaces and line separators.
The zero-width space and the byte order mark do not have the property, so they survive trimming.

Reports list names in increasing order and each name once.  Names compare by code point, which is
also the order of their encodings as bytes.

Other names are generated.  A name sequence produces names from roots given by the caller: a fixed
lead, the root, a separator and a counter that goes up by one with every name, whether or not the
name is then used.
-/

namespace CallSites

namespace Text

/-! ## Separated lists -/

/-- The items, each written by `render`, with `sep` between consecutive ones. -/
def joinWith {α : Type} (render : α → String) (sep : String) : List α → String
  | [] => ""
  | [a] => render a
  | a :: b :: rest => render a ++ sep ++ joinWith render sep (b :: rest)

/-- The items with `sep` between consecutive ones. -/
def join (sep : String) (items : List String) : String :=
  joinWith id sep items

/-- The parts of a text between the occurrences of a character, empty parts included. -/
def splitChars (sep : Char) : List Char → List (List Char)
  | [] => [[]]
  | c :: rest =>
    match splitChars sep rest with
    | [] => [[c]]
    | part :: parts => if c == sep then [] :: part :: parts else (c :: part) :: parts

/-- The parts of a text between the occurrences of a character, empty parts included. -/
def split (sep : Char) (s : String) : List String :=
  (splitChars sep s.toList).map String.ofList

/-! ## Lists of names in options -/

/-- A character with the Unicode property `White_Space`. -/
def isBlank (c : Char) : Bool :=
  let n := c.toNat
  (9 ≤ n && n ≤ 13) || n == 0x20 || n == 0x85 || n == 0xA0 || n == 0x1680 ||
    (0x2000 ≤ n && n ≤ 0x200A) || n == 0x2028 || n == 0x2029 || n == 0x202F ||
    n == 0x205F || n == 0x3000

/-- The characters left once the blanks at both ends are dropped. -/
def trimChars (cs : List Char) : List Char :=
  ((cs.dropWhile isBlank).reverse.dropWhile isBlank).reverse

/-- The text without the blanks at its two ends. -/
def trim (s : String) : String :=
  String.ofList (trimChars s.toList)

/-- The names in one value of the option. -/
def commaParts (value : String) : List String :=
  ((split ',' value).map trim).filter (· ≠ "")

/-- A list of names collected from the values of a repeated option. -/
structure CommaList where
  items : List String := []
deriving DecidableEq

namespace CommaList

/-- Adds the names of one more value at the end. -/
def set (l : CommaList) (value : String) : CommaList :=
  ⟨l.items ++ commaParts value⟩

/-- The collected names with a comma between them. -/
def text (l : CommaList) : String :=
  join "," l.items

end CommaList

end Text

/-! ## Sorted names -/

/-- Puts a name in its place in an increasing list, unless it is there already. -/
def insertName (s : String) : List String → List String
  | [] => [s]
  | t :: rest =>
    if s < t then s :: t :: rest
    else if s = t then t :: rest
    else t :: insertName s rest

/-- The names in increasing order, each of them once. -/
def sortedNames (names : List String) : List String :=
  names.foldr insertName []

namespace Text

/-! ## Generated names -/

/-- A source of numbered names. -/
structure NameSequence where
  lead : String
  separator : String
  /-- The number of names made so far, taken to stay below `limit`. -/
  count : Nat := 0

namespace NameSequence

/-- A count is a signed 64-bit number.  This is one more than the largest of them, and the count
means what it says only as long as there are fewer names. -/
def limit : Nat := 0x8000000000000000

/-- The name of a root at a given count. -/
def nameAt (s : NameSequence) (n : Nat) (root : String) : String :=
  s.lead ++ root ++ s.separator ++ toString n

/-- The next name for a root, and the sequence after it. -/
def next (s : NameSequence) (root : String) : String × NameSequence :=
  (s.nameAt s.count root, { s with count := s.count + 1 })

/-- The names of the roots in order, and the sequence after them. -/
def names (s : NameSequence) : List String → List String × NameSequence
  | [] => ([], s)
  | root :: roots =>
    let (name, s) := s.next root
    let (rest, s) := s.names roots
    (name :: rest, s)

end NameSequence

end Text

end CallSites
