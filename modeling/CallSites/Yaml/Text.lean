import CallSites.Yaml.Cursor

/-!
# Scalars as they are written

A scalar is plain, or stands between single or double quotes.  Each may go on over several lines:
blanks around an end of line are dropped, a single end of line is read as a space, and of several
the first is dropped.  Blanks within a line are kept, except at the end of a plain scalar.

The readers below move over the characters of a scalar and collect its text backwards.  A reader
answers `none` for a scalar that is not well formed, or that the text is cut within.
-/

namespace CallSites.Yaml

/-- A scalar that is being read. -/
structure Draft where
  /-- The text so far, last character first. -/
  text : List Char := []
  /-- The blanks of the line since then, last first. -/
  blanks : List Char := []
  /-- The line has ended since then. -/
  broken : Bool := false
  /-- The first end of line, unless it was escaped. -/
  lead : Option Char := none
  /-- The further ends of lines, last first. -/
  trail : List Char := []

namespace Draft

/-- Notes a blank. -/
def blank (s : Draft) (c : Char) : Draft :=
  if s.broken then s else { s with blanks := c :: s.blanks }

/-- Notes an end of line. -/
def lineEnd (s : Draft) (c : Char) : Draft :=
  if s.broken then { s with trail := breakText c :: s.trail }
  else { s with blanks := [], broken := true, lead := some (breakText c) }

/-- Notes an end of line that was escaped. -/
def escapedEnd (s : Draft) : Draft := { s with blanks := [], broken := true, lead := none }

/-- Adds what the blanks and ends of lines since the last character are read as. -/
def flush (s : Draft) : Draft :=
  if s.broken then
    let folded :=
      match s.lead with
      | some '\n' => if s.trail.isEmpty then [' '] else s.trail
      | some c => s.trail ++ [c]
      | none => s.trail
    { text := folded ++ s.text }
  else { text := s.blanks ++ s.text }

/-- Adds a character of the text. -/
def push (s : Draft) (c : Char) : Draft :=
  let s := s.flush
  { s with text := c :: s.text }

/-- The text read so far. -/
def result (s : Draft) : String := String.ofList s.text.reverse

end Draft

/-! ## Plain scalars -/

/-- The characters that end a plain scalar inside brackets. -/
def isFlowIndicator (c : Char) : Bool :=
  c == ',' || c == '?' || c == '[' || c == ']' || c == '\x7b' || c == '\x7d'

/-- Reads a plain scalar that must stay at or right of a column, and tells whether the line has
ended after it.  The flag `moved` says that blanks have just been moved over. -/
def readPlain (inFlow cut : Bool) (indent : Int) :
    Bool → List Char → Pos → Draft → Option (Cursor × Draft)
  | _, [], p, s => if cut then none else some (⟨[], p⟩, s)
  | _, '\r' :: '\n' :: rest, p, s =>
    readPlain inFlow cut indent true rest p.within.newline (s.lineEnd '\n')
  | moved, c :: rest, p, s =>
    if isBreak c then readPlain inFlow cut indent true rest p.newline (s.lineEnd c)
    else if isSpace c then
      if s.broken && (p.column : Int) < indent && c == '\t' then none
      else readPlain inFlow cut indent true rest p.next (s.blank c)
    else if moved && ((!inFlow && (p.column : Int) < indent) || c == '#' ||
        (p.column == 0 && isDocumentMark (c :: rest))) then
      some (⟨c :: rest, p⟩, s)
    else if (c == ':' && endsWord rest) || (inFlow && isFlowIndicator c) then
      some (⟨c :: rest, p⟩, s)
    else readPlain inFlow cut indent false rest p.next (s.push c)

/-! ## Quoted scalars -/

/-- Reads the rest of a scalar between single quotes, in which a quote is written twice. -/
def readSingle : List Char → Pos → Draft → Option (Cursor × Draft)
  | [], _, _ => none
  | '\r' :: '\n' :: rest, p, s =>
    readSingle rest p.within.newline (s.lineEnd '\n')
  | '\'' :: '\'' :: rest, p, s => readSingle rest p.next.next (s.push '\'')
  | c :: rest, p, s =>
    if c == '\'' then some (⟨rest, p.next⟩, s.flush)
    else if isBreak c then readSingle rest p.newline (s.lineEnd c)
    else if isSpace c then readSingle rest p.next (s.blank c)
    else if p.column == 0 && isDocumentMark (c :: rest) then none
    else readSingle rest p.next (s.push c)

/-- The character that an escape letter stands for. -/
def escaped? (c : Char) : Option Char :=
  match c with
  | '0' => some (Char.ofNat 0)
  | 'a' => some (Char.ofNat 7)
  | 'b' => some (Char.ofNat 8)
  | 't' | '\t' => some '\t'
  | 'n' => some '\n'
  | 'v' => some (Char.ofNat 11)
  | 'f' => some (Char.ofNat 12)
  | 'r' => some '\r'
  | 'e' => some (Char.ofNat 27)
  | ' ' => some ' '
  | '"' => some '"'
  | '\'' => some '\''
  | '\\' => some '\\'
  | 'N' => some (Char.ofNat 0x85)
  | '_' => some (Char.ofNat 0xA0)
  | 'L' => some (Char.ofNat 0x2028)
  | 'P' => some (Char.ofNat 0x2029)
  | _ => none

/-- The number of hexadecimal digits after an escape letter. -/
def escapeWidth? (c : Char) : Option Nat :=
  match c with
  | 'x' => some 2
  | 'u' => some 4
  | 'U' => some 8
  | _ => none

/-- The value of a hexadecimal digit. -/
def hexValue? (c : Char) : Option Nat :=
  if '0' ≤ c && c ≤ '9' then some (c.toNat - 48)
  else if 'a' ≤ c && c ≤ 'f' then some (c.toNat - 87)
  else if 'A' ≤ c && c ≤ 'F' then some (c.toNat - 55)
  else none

/-- The value of a list of hexadecimal digits. -/
def hexNumber? (cs : List Char) : Option Nat :=
  cs.foldlM (fun n c => (hexValue? c).map (n * 16 + ·)) 0

/-- The character with a given number, if there is one. -/
def charOfNat? (n : Nat) : Option Char :=
  if n.isValidChar then some (Char.ofNat n) else none

/-- Reads the rest of a scalar between double quotes.  While `pending` is not zero, that many
characters belong to an escape that has been read already and are moved over. -/
def readDouble : Nat → List Char → Pos → Draft → Option (Cursor × Draft)
  | _, [], _, _ => none
  | pending + 1, _ :: rest, p, s => readDouble pending rest p.next s
  | 0, '\r' :: '\n' :: rest, p, s =>
    readDouble 0 rest p.within.newline (s.lineEnd '\n')
  | 0, '\\' :: '\r' :: '\n' :: rest, p, s =>
    readDouble 0 rest p.next.within.newline s.flush.escapedEnd
  | 0, '\\' :: c :: rest, p, s =>
    if isBreak c then readDouble 0 rest p.next.newline s.flush.escapedEnd
    else
      match escaped? c with
      | some e => readDouble 0 rest p.next.next (s.push e)
      | none =>
        match escapeWidth? c with
        | none => none
        | some width =>
          if rest.length < width then none
          else
            match (hexNumber? (rest.take width)).bind charOfNat? with
            | none => none
            | some e => readDouble width rest p.next.next (s.push e)
  | 0, c :: rest, p, s =>
    if c == '"' then some (⟨rest, p.next⟩, s.flush)
    else if isBreak c then readDouble 0 rest p.newline (s.lineEnd c)
    else if isSpace c then readDouble 0 rest p.next (s.blank c)
    else if p.column == 0 && isDocumentMark (c :: rest) then none
    else readDouble 0 rest p.next (s.push c)

end CallSites.Yaml
