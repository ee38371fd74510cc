import CallSites.Yaml.Directive
import CallSites.Yaml.Gap

/-!
# Tokens of a document

A document is cut into tokens.  Some are not written but follow from the layout: the start of a
block collection, when something stands further to the right than what encloses it, and its end.
A mapping key is recognised only by the colon after it; the token for the key, and perhaps that for
the start of the mapping, are then put before what has been read since the key began.

For each level of brackets the place is remembered where a key may have started.  It must be on one
line and at most 1024 characters away from its colon, and one that stands where the next key of a
block mapping is due must turn out to be a key.

The text is only read as far as it must be.  A token is given out once two more have been read after
it, and while it may be the start of a key it is held back longer.  Reading stops at the first thing
that cannot be read: the token `broken` takes the place of the token that was to be given out, so
only a reader who gets that far notices.
-/

namespace CallSites.Yaml

/-- What a token is. -/
inductive TokenKind where
  | directive (d : Directive)
  | documentStart
  | documentEnd
  | blockSeqStart
  | blockMapStart
  | blockEnd
  | flowSeqStart
  | flowSeqEnd
  | flowMapStart
  | flowMapEnd
  | blockEntry
  | flowEntry
  | key
  | value
  /-- A reference to another node. -/
  | alias
  | scalar (text : String) (quoted : Bool)
  /-- The end of the text. -/
  | finish
  /-- From here on the text cannot be read. -/
  | broken
deriving DecidableEq

/-- A token and the line that it starts on, counted from zero. -/
structure Token where
  kind : TokenKind
  line : Nat

/-- A place where a mapping key may have started. -/
structure KeyStart where
  /-- The number of the token that the key starts with. -/
  number : Nat
  pos : Pos
  /-- It stands where the next key of a block mapping is due. -/
  required : Bool := false
  /-- The key can still turn out to be one. -/
  possible : Bool := false

/-- How far a document has been cut into tokens. -/
structure Scan where
  cursor : Cursor
  /-- The text is cut after the last character. -/
  cut : Bool := false
  /-- Lines that start before this index are read without their first character. -/
  marked : Nat := 0
  /-- The tokens that have been read and not given out. -/
  queue : List Token := []
  /-- The number of tokens that have been given out. -/
  given : Nat := 0
  /-- The column of the innermost block collection. -/
  indent : Int := -1
  /-- The columns of the block collections around it, innermost first. -/
  indents : List Int := []
  /-- The number of open brackets. -/
  flow : Nat := 0
  /-- A key can start here. -/
  keyAllowed : Bool := true
  /-- Where a key may have started at the innermost level of brackets. -/
  start : KeyStart := { number := 0, pos := {} }
  /-- The same for the levels around it, innermost first. -/
  outer : List KeyStart := []
  /-- The numbers of tokens that are held back, with the levels whose keys they may start. -/
  awaited : List (Nat × Nat) := []

namespace Scan

/-- The largest number of collections around each other, counted for each style alone. -/
def maxDepth : Nat := 10000

/-- The place of the cursor. -/
def pos (s : Scan) : Pos := s.cursor.pos

/-- The number of the next token. -/
def number (s : Scan) : Nat := s.given + s.queue.length

/-! ## Tokens -/

/-- Adds a token. -/
def push (s : Scan) (kind : TokenKind) (line : Nat) : Scan :=
  { s with queue := s.queue ++ [⟨kind, line⟩] }

/-- Puts a token before the one with a given number, or after all others if that has been given
out. -/
def insertAt (s : Scan) (number : Nat) (kind : TokenKind) (line : Nat) : Scan :=
  if number < s.given then s.push kind line
  else
    let i := number - s.given
    { s with queue := s.queue.take i ++ ⟨kind, line⟩ :: s.queue.drop i }

/-- Adds a token of some characters at the cursor, and moves over them. -/
def take (s : Scan) (kind : TokenKind) (n : Nat) : Scan :=
  { s.push kind s.pos.line with cursor := s.cursor.advance n }

/-! ## Layout -/

/-- Starts a block collection at a column further to the right, before the token with a given
number. -/
def roll (s : Scan) (column : Nat) (kind : TokenKind) (number line : Nat) : Option Scan :=
  if s.flow = 0 ∧ s.indent < (column : Int) then
    if s.indents.length < maxDepth then
      some { s.insertAt number kind line with indent := column, indents := s.indent :: s.indents }
    else none
  else some s

/-- Ends the block collections further to the right than a column. -/
def unrollTo (column : Int) (line : Nat) : List Int → Scan → Scan
  | [], s => s
  | outer :: outers, s =>
    if column < s.indent then
      unrollTo column line outers
        { s.push .blockEnd line with indent := outer, indents := outers }
    else s

/-- Ends the block collections further to the right than a column, outside of brackets. -/
def unroll (s : Scan) (column : Int) : Scan :=
  if s.flow = 0 then unrollTo column s.pos.line s.indents s else s

/-! ## Keys -/

/-- The token with a given number is not held back any more. -/
def release (s : Scan) (number : Nat) : Scan :=
  { s with awaited := s.awaited.filter (·.1 ≠ number) }

/-- Gives up the possible key of the innermost level; one that was required is missing its
colon. -/
def dropKey (s : Scan) : Option Scan :=
  if !s.start.possible then some s
  else if s.start.required then none
  else some ({ s with start.possible := false }.release s.start.number)

/-- Remembers that a key may start here. -/
def saveKey (s : Scan) : Option Scan :=
  if s.keyAllowed then do
    let s ← s.dropKey
    pure { s with
      start :=
        { number := s.number, pos := s.pos, possible := true
          required := s.flow = 0 && s.indent == (s.pos.column : Int) }
      awaited := (s.number, s.flow) :: s.awaited }
  else some s

/-- The start of a key is on the line of the cursor and not too far away. -/
def isNear (s : Scan) (k : KeyStart) : Bool :=
  s.pos.line ≤ k.pos.line && s.pos.index ≤ k.pos.index + 1024

/-- Whether a key that may have started can still be one; if it is required, it must. -/
def check? (s : Scan) (k : KeyStart) : Option Bool :=
  if !k.possible then some false
  else if s.isNear k then some true
  else if k.required then none
  else some false

/-- The start of a key at a level of brackets. -/
def startAt? (s : Scan) (level : Nat) : Option KeyStart :=
  if level = s.flow then some s.start else s.outer[s.flow - 1 - level]?

/-- Whether the token at the front of the queue must be held back. -/
def holds? (s : Scan) : Option Bool :=
  match (s.awaited.lookup s.given).bind s.startAt? with
  | some k => s.check? k
  | none => some false

/-! ## One token -/

/-- The end of the text, which ends the line. -/
def fetchFinish (s : Scan) : Option Scan := do
  let p := s.pos
  let p := if p.column = 0 then p else { p with line := p.line + 1, column := 0 }
  let s ← ({ s with cursor := ⟨[], p⟩ }.unroll (-1)).dropKey
  pure ({ s with keyAllowed := false }.push .finish p.line)

/-- A directive, with the end of its line. -/
def fetchDirective (s : Scan) : Option Scan := do
  let s ← (s.unroll (-1)).dropKey
  let (d, rest) ← Directive.read? (s.cursor.rest.drop 1)
  let s := { s with keyAllowed := false }.take (.directive d) (s.cursor.rest.length - rest.length)
  match s.cursor.rest with
  | [] => if s.cut then none else pure s
  | '\r' :: '\n' :: rest => pure { s with cursor := ⟨rest, s.pos.within.newline⟩ }
  | _ :: rest => pure { s with cursor := ⟨rest, s.pos.newline⟩ }

/-- A mark around documents. -/
def fetchDocumentMark (s : Scan) (kind : TokenKind) : Option Scan := do
  let s ← (s.unroll (-1)).dropKey
  pure ({ s with keyAllowed := false }.take kind 3)

/-- An opening bracket. -/
def fetchFlowStart (s : Scan) (kind : TokenKind) : Option Scan := do
  let s ← s.saveKey
  if maxDepth ≤ s.flow then none
  pure ({ s with
    outer := s.start :: s.outer, start := { number := s.number, pos := s.pos },
    flow := s.flow + 1, keyAllowed := true }.take kind 1)

/-- A closing bracket.  If no key has started between the brackets, the opening one is not held back
any more. -/
def fetchFlowEnd (s : Scan) (kind : TokenKind) : Option Scan := do
  let s ← s.dropKey
  let s :=
    match s.outer with
    | k :: ks => { s.release s.start.number with start := k, outer := ks, flow := s.flow - 1 }
    | [] => s
  pure ({ s with keyAllowed := false }.take kind 1)

/-- A comma inside brackets. -/
def fetchFlowEntry (s : Scan) : Option Scan := do
  let s ← s.dropKey
  pure ({ s with keyAllowed := true }.take .flowEntry 1)

/-- The dash before an item. -/
def fetchBlockEntry (s : Scan) : Option Scan := do
  if s.flow = 0 && !s.keyAllowed then none
  let s ← s.roll s.pos.column .blockSeqStart s.number s.pos.line
  let s ← s.dropKey
  pure ({ s with keyAllowed := true }.take .blockEntry 1)

/-- The mark before an explicit key. -/
def fetchKey (s : Scan) : Option Scan := do
  if s.flow = 0 && !s.keyAllowed then none
  let s ← s.roll s.pos.column .blockMapStart s.number s.pos.line
  let s ← s.dropKey
  pure ({ s with keyAllowed := s.flow = 0 }.take .key 1)

/-- The colon after a key that started at a given place. -/
def fetchValueOf (s : Scan) (k : KeyStart) : Option Scan := do
  let s := s.insertAt k.number .key k.pos.line
  let s ← s.roll k.pos.column .blockMapStart k.number k.pos.line
  let s := { s with start.possible := false, keyAllowed := false }.release k.number
  pure (s.take .value 1)

/-- The colon after an explicit key, or after none. -/
def fetchBareValue (s : Scan) : Option Scan := do
  if s.flow = 0 && !s.keyAllowed then none
  let s ← s.roll s.pos.column .blockMapStart s.number s.pos.line
  pure ({ s with start.possible := false, keyAllowed := s.flow = 0 }.take .value 1)

/-- The colon after a key. -/
def fetchValue (s : Scan) : Option Scan := do
  if ← s.check? s.start then s.fetchValueOf s.start else s.fetchBareValue

/-- A reference to another node. -/
def fetchAlias (s : Scan) : Option Scan := do
  let s ← s.saveKey
  let body := s.cursor.rest.drop 1
  let word := body.takeWhile isWordChar
  let rest := body.dropWhile isWordChar
  let follows := rest.head?.all (· ∈ ['?', ':', ',', ']', '\x7d', '%', '@', Char.ofNat 0x60])
  if word.isEmpty || !(endsWord rest || follows) || (s.cut && rest.isEmpty) then none
  pure ({ s with keyAllowed := false }.take .alias (word.length + 1))

/-- A quoted scalar. -/
def fetchQuoted (s : Scan) (quote : Char) : Option Scan := do
  let s ← s.saveKey
  let body := s.cursor.rest.drop 1
  let (cursor, text) ←
    if quote == '\'' then readSingle body s.pos.next {} else readDouble 0 body s.pos.next {}
  pure { s.push (.scalar text.result true) s.pos.line with keyAllowed := false, cursor }

/-- A plain scalar. -/
def fetchPlain (s : Scan) : Option Scan := do
  let s ← s.saveKey
  let (cursor, text) ← readPlain (s.flow ≠ 0) s.cut (s.indent + 1) false s.cursor.rest s.pos {}
  pure { s.push (.scalar text.result false) s.pos.line with keyAllowed := text.broken, cursor }

/-- The characters that a plain scalar does not start with. -/
def isIndicator (c : Char) : Bool :=
  c ∈ ['-', '?', ':', ',', '[', ']', '\x7b', '\x7d', '#', '&', '*', '!', '|', '>', '\'', '"', '%',
    '@', Char.ofNat 0x60]

/-- A plain scalar can start here.  A dash, and outside of brackets also a question mark or a
colon, starts one if something follows directly. -/
def startsPlain (inFlow : Bool) (c : Char) (rest : List Char) : Bool :=
  !(isSpace c || isBreak c || isIndicator c) || (c == '-' && !endsWord rest) ||
    (!inFlow && (c == '?' || c == ':') && !endsWord rest)

/-- Moves over a comment after the token that was read last. -/
def skipComment (s : Scan) : Option Scan := do
  pure { s with cursor := ← skipLineComment s.cut s.cursor }

/-- Reads the token at the cursor, where there is neither a blank nor a mark of a document, and a
comment after it.  A dash has no comment of its own, and neither has a scalar after which the line
has ended. -/
def fetchContent (s : Scan) (c : Char) (rest : List Char) : Option Scan := do
  let inFlow := s.flow ≠ 0
  if c == '[' then (← s.fetchFlowStart .flowSeqStart).skipComment
  else if c == '\x7b' then (← s.fetchFlowStart .flowMapStart).skipComment
  else if c == ']' then (← s.fetchFlowEnd .flowSeqEnd).skipComment
  else if c == '\x7d' then (← s.fetchFlowEnd .flowMapEnd).skipComment
  else if c == ',' then (← s.fetchFlowEntry).skipComment
  else if c == '-' && endsWord rest then s.fetchBlockEntry
  else if c == '?' && (inFlow || endsWord rest) then (← s.fetchKey).skipComment
  else if c == ':' && (inFlow || endsWord rest) then (← s.fetchValue).skipComment
  else if c == '*' then (← s.fetchAlias).skipComment
  else if c == '\'' || c == '"' then (← s.fetchQuoted c).skipComment
  else if startsPlain inFlow c rest then
    let s ← s.fetchPlain
    if s.keyAllowed then pure s else s.skipComment
  else none

/-- Reads the token at the cursor, where there is no blank. -/
def fetch (s : Scan) : Option Scan :=
  match s.cursor.rest with
  | [] => s.fetchFinish
  | c :: rest =>
    if s.pos.column = 0 ∧ c = '%' then s.fetchDirective
    else if s.pos.column = 0 ∧ isDocumentMark (c :: rest) then
      s.fetchDocumentMark (if c == '-' then .documentStart else .documentEnd)
    else s.fetchContent c rest

/-! ## All tokens -/

/-- Reads the next token.  The characters that tell what it is, four at most, must be there. -/
def next (s : Scan) : Option Scan := do
  let (cursor, keyAllowed) ←
    skipGap (s.flow ≠ 0) s.cut s.marked .blank s.keyAllowed s.cursor.rest s.pos
  if s.cut && (cursor.rest.take 4).length < 4 then none
  ({ s with cursor, keyAllowed }.unroll cursor.pos.column).fetch

/-- Whether the token at the front of the queue can be given out. -/
def isReady? (s : Scan) : Option Bool :=
  if s.queue.length < 3 then some false else s.holds?.map (!·)

/-- Gives out tokens, in front of those given out before, until the end or until something cannot
be read.  Every round gives out a token or reads one. -/
def run : Nat → Scan → List Token → List Token
  | 0, s, given => ⟨.broken, s.pos.line⟩ :: given
  | rounds + 1, s, given =>
    match s.isReady?, s.queue with
    | some true, t :: ts =>
      if t.kind = .finish then given
      else run rounds { s.release s.given with queue := ts, given := s.given + 1 } (t :: given)
    | none, _ => ⟨.broken, s.pos.line⟩ :: given
    | _, _ =>
      match s.next with
      | some s => s.run rounds given
      | none => ⟨.broken, s.pos.line⟩ :: given

/-- The start of a text.  A byte order mark there is left out.  A second one is taken for a mark of
every line that starts in the first block. -/
def ofText (text : String) : Scan :=
  let (cs, room) :=
    match text.toList with
    | c :: cs => if isMark c then (cs, blockSize - c.utf8Size) else (c :: cs, blockSize)
    | [] => ([], blockSize)
  let (rest, cut) := upToCut [] [] room cs
  let marked := if cs.head?.any isMark then fitting room cs else 0
  { cursor := ⟨rest, {}⟩, cut, marked }

end Scan

/-- The tokens of a text.  A character makes four tokens at most, the end of a collection that it
starts included, so there are enough rounds to read and to give out all of them. -/
def tokens (text : String) : List Token :=
  let s := Scan.ofText text
  (s.run (8 * s.cursor.rest.length + 16) []).reverse

end CallSites.Yaml
