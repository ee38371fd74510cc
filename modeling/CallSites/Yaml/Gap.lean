import CallSites.Yaml.Cursor

/-!
# Between tokens

Blanks, comments and ends of lines lie between the tokens of a document.  Outside of brackets a tab
is not a blank where a key can start, which is so from the start of a line on: columns are counted
in spaces.  Comments are more tolerant.  From the end of one, blanks and ends of lines up to the
next are part of the comment, whatever they are, and so are the blanks between a token and a comment
on its line.  Both searches for a comment only look ahead so far.
-/

namespace CallSites.Yaml

/-- The number of characters that the search for a comment looks at. -/
def commentReach : Nat := 512

/-- The distance to the next comment over characters of a given sort, counted from a given number
on.  The search gives up after a number of characters, and fails at a cut. -/
def toComment? (passes : Char → Bool) (cut : Bool) :
    Nat → Nat → List Char → Option (Option Nat)
  | 0, _, _ => some none
  | _, _, [] => if cut then none else some none
  | reach + 1, n, c :: rest =>
    if c == '#' then some (some n)
    else if passes c then toComment? passes cut reach (n + 1) rest
    else some none

/-- How the text between two tokens is being moved over. -/
inductive Gap where
  /-- Over blanks and ends of lines. -/
  | blank
  /-- Over a comment. -/
  | comment
  /-- Over a number of characters before the next comment. -/
  | toComment (n : Nat)
deriving DecidableEq

namespace Gap

/-- How to go on after the end of line that ends a comment. -/
def afterComment? (cut : Bool) (c : Char) (rest : List Char) : Option Gap := do
  if isNarrowBreak c then
    match ← toComment? (fun c => isSpace c || isNarrowBreak c) cut (commentReach - 1) 0 rest with
    | some n => pure (.toComment n)
    | none => pure .blank
  else pure .blank

/-- How to go on after a character, or `none` within if the gap ends before it.  Tabs are blanks
where they are allowed. -/
def next? (tabs cut : Bool) (c : Char) (rest : List Char) : Gap → Option (Option Gap)
  | .toComment (n + 1) => some (some (.toComment n))
  | .toComment 0 => some (some .comment)
  | .comment => if isBreak c then (afterComment? cut c rest).map some else some (some .comment)
  | .blank =>
    if c == ' ' || (tabs && c == '\t') || isBreak c then some (some .blank)
    else if c == '#' then some (some .comment)
    else some none

end Gap

/-- Moves over blanks, comments and ends of lines.  Outside of brackets a new line is a place where
a key can start; the flag that comes back tells whether the cursor is at such a place.

Lines that start before the index `marked` are read without their first character. -/
def skipGap (inFlow cut : Bool) (marked : Nat) :
    Gap → Bool → List Char → Pos → Option (Cursor × Bool)
  | _, keyAllowed, [], p => if cut then none else some (⟨[], p⟩, keyAllowed)
  | gap, keyAllowed, c :: rest, p =>
    if gap = .blank ∧ p.column = 0 ∧ p.index < marked then
      skipGap inFlow cut marked .blank keyAllowed rest p.next
    else
      match gap.next? (inFlow || !keyAllowed) cut c rest with
      | none => none
      | some none => some (⟨c :: rest, p⟩, keyAllowed)
      | some (some gap) =>
        let newLine := isBreak c && gap = .blank
        skipGap inFlow cut marked gap (keyAllowed || (newLine && !inFlow)) rest (p.after c rest)

/-- Moves over a comment that follows a token on its line, and the blanks before it. -/
def skipLineComment (cut : Bool) (c : Cursor) : Option Cursor := do
  match ← toComment? isSpace cut commentReach 0 c.rest with
  | none => pure c
  | some n =>
    let comment := (c.rest.drop n).takeWhile (!isBreak ·)
    let c := c.advance (n + comment.length)
    if cut && c.rest.isEmpty then none else pure c

end CallSites.Yaml
