/-!
# Positions in a document

A document is read from left to right by a cursor: the characters that are left, and the line, the
column and the index of the first of them.  A line ends with a line feed, a carriage return, both
together, or one of three wider separators; the narrow ones are all read as a line feed.

A text is taken in by blocks of 512 bytes.  A block with a character that may not occur in a
document cannot be taken in, so the text is cut before it.  Only a reader who gets to the cut
notices: what comes before is read as usual.
-/

namespace CallSites.Yaml

/-! ## Places -/

/-- A place in a document, counted in characters from zero. -/
structure Pos where
  line : Nat := 0
  column : Nat := 0
  index : Nat := 0
deriving DecidableEq

namespace Pos

/-- The place a number of characters further on the line. -/
def advance (p : Pos) (n : Nat) : Pos := ⟨p.line, p.column + n, p.index + n⟩

/-- The place after one more character of the line. -/
def next (p : Pos) : Pos := p.advance 1

/-- The place after the end of the line. -/
def newline (p : Pos) : Pos := ⟨p.line + 1, 0, p.index + 1⟩

/-- The place between the two characters of an end of line. -/
def within (p : Pos) : Pos := { p with index := p.index + 1 }

end Pos

/-! ## Characters -/

/-- A space or a tab. -/
def isSpace (c : Char) : Bool := c == ' ' || c == '\t'

/-- A character that ends a line. -/
def isBreak (c : Char) : Bool :=
  c == '\n' || c == '\r' || c.toNat == 0x85 || c.toNat == 0x2028 || c.toNat == 0x2029

/-- A line feed or a carriage return. -/
def isNarrowBreak (c : Char) : Bool := c == '\n' || c == '\r'

/-- What an end of line is read as. -/
def breakText (c : Char) : Char := if c.toNat == 0x2028 || c.toNat == 0x2029 then c else '\n'

/-- The byte order mark. -/
def isMark (c : Char) : Bool := c.toNat == 0xFEFF

/-- Nothing follows on the word: a space, an end of line, or the end of the document. -/
def endsWord : List Char → Bool
  | [] => true
  | c :: _ => isSpace c || isBreak c

/-- The line starts with one of the two marks around documents. -/
def isDocumentMark : List Char → Bool
  | '-' :: '-' :: '-' :: rest => endsWord rest
  | '.' :: '.' :: '.' :: rest => endsWord rest
  | _ => false

/-- A character that may occur in a document. -/
def isAllowed (c : Char) : Bool :=
  let n := c.toNat
  n == 0x09 || n == 0x0A || n == 0x0D || (0x20 ≤ n && n ≤ 0x7E) || n == 0x85 ||
    (0xA0 ≤ n && n ≤ 0xD7FF) || (0xE000 ≤ n && n ≤ 0xFFFD) || 0x10000 ≤ n

/-! ## Cursors -/

/-- The place after a character, given those that follow.  A carriage return before a line feed
leaves it to that to end the line. -/
def Pos.after (p : Pos) (c : Char) (rest : List Char) : Pos :=
  if c == '\r' && rest.head? == some '\n' then p.within
  else if isBreak c then p.newline
  else p.next

/-- A place and the characters from there on. -/
structure Cursor where
  rest : List Char
  pos : Pos := {}

/-- Moves over a number of characters of the line. -/
def Cursor.advance (c : Cursor) (n : Nat) : Cursor := ⟨c.rest.drop n, c.pos.advance n⟩

/-! ## Blocks -/

/-- The number of bytes of a block. -/
def blockSize : Nat := 512

/-- The number of characters that fit into a number of bytes. -/
def fitting (room : Nat) : List Char → Nat
  | [] => 0
  | c :: cs => if c.utf8Size ≤ room then fitting (room - c.utf8Size) cs + 1 else 0

/-- The characters up to the first block that cannot be taken in, and whether there is one.  The
blocks before are given with their last character first, and so is the block that has room for a
number of bytes. -/
def upToCut (before block : List Char) (room : Nat) : List Char → List Char × Bool
  | [] => ((block ++ before).reverse, false)
  | c :: cs =>
    if c.utf8Size ≤ room then
      if isAllowed c then upToCut before (c :: block) (room - c.utf8Size) cs
      else (before.reverse, true)
    else if isAllowed c then upToCut (block ++ before) [c] (blockSize - c.utf8Size) cs
    else ((block ++ before).reverse, true)

end CallSites.Yaml
