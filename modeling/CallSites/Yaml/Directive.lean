import CallSites.Yaml.Number
import CallSites.Yaml.Text

/-!
# Directives

A line that starts with a percent sign speaks about the document after it.  It states the version
of the language, or it gives a short handle to the start of longer tags.  Directives take up a line
each, on which only a comment may follow.
-/

namespace CallSites.Yaml

/-- What a directive says. -/
inductive Directive where
  | version (major minor : Nat)
  | tag (handle : String)
deriving DecidableEq

/-- A character of the name of something. -/
def isWordChar (c : Char) : Bool :=
  isDigit c || ('a' ≤ c && c ≤ 'z') || ('A' ≤ c && c ≤ 'Z') || c == '_' || c == '-'

namespace Directive

/-- A version number, which has one or two digits, and what follows. -/
def number? (cs : List Char) : Option (Nat × List Char) := do
  let digits := cs.takeWhile isDigit
  if 2 < digits.length then none
  pure (← natInBase? 10 digits, cs.dropWhile isDigit)

/-- The version that a directive states, and what follows. -/
def version? (cs : List Char) : Option (Directive × List Char) := do
  match ← number? cs with
  | (major, '.' :: rest) =>
    let (minor, rest) ← number? rest
    pure (.version major minor, rest)
  | _ => none

/-- The handle of a tag, which stands between exclamation marks unless it is a single one, and what
follows. -/
def handle? : List Char → Option (String × List Char)
  | '!' :: cs =>
    let word := cs.takeWhile isWordChar
    match cs.dropWhile isWordChar with
    | '!' :: rest => some (String.ofList ('!' :: word ++ ['!']), rest)
    | rest => if word.isEmpty then some ("!", rest) else none
  | _ => none

/-- A character of a tag that stands for itself. -/
def isTagChar (c : Char) : Bool :=
  isWordChar c || c ∈ [';', '/', '?', ':', '@', '&', '=', '+', '$', '.', ',', '!', '~', '*', '\'',
    '(', ')', '[', ']']

/-- The number of bytes of a character with a given first byte, or zero if there is none. -/
def byteCount (n : Nat) : Nat :=
  if n < 0x80 then 1
  else if n < 0xC0 then 0
  else if n < 0xE0 then 2
  else if n < 0xF0 then 3
  else if n < 0xF8 then 4
  else 0

/-- What follows the start of a tag, where the character before needs a number of further bytes.
Bytes may be written in hexadecimal after a percent sign. -/
def afterTag? : Nat → List Char → Option (List Char)
  | need, '%' :: a :: b :: rest => do
    let n ← hexNumber? [a, b]
    if need = 0 then
      if byteCount n = 0 then none else afterTag? (byteCount n - 1) rest
    else if 0x80 ≤ n ∧ n < 0xC0 then afterTag? (need - 1) rest
    else none
  | need, c :: rest =>
    if need ≠ 0 ∨ c = '%' then none
    else if isTagChar c then afterTag? 0 rest
    else some (c :: rest)
  | need, [] => if need = 0 then some [] else none

/-- The handle that a directive defines, and what follows. -/
def tag? (cs : List Char) : Option (Directive × List Char) := do
  let (handle, rest) ← handle? cs
  let start := rest.dropWhile isSpace
  let rest' ← afterTag? 0 start
  if start.length < rest.length ∧ rest'.length < start.length ∧ endsWord rest' then
    pure (.tag handle, rest')
  else none

/-- The directive after a percent sign, and what follows on the line. -/
def read? (cs : List Char) : Option (Directive × List Char) := do
  let rest := cs.dropWhile isWordChar
  if !endsWord rest then none
  let body := rest.dropWhile isSpace
  let (d, rest) ←
    match String.ofList (cs.takeWhile isWordChar) with
    | "YAML" => version? body
    | "TAG" => tag? body
    | _ => none
  let rest := rest.dropWhile isSpace
  let rest := if rest.head? = some '#' then rest.dropWhile (!isBreak ·) else rest
  match rest with
  | [] => pure (d, [])
  | c :: _ => if isBreak c then pure (d, rest) else none

end Directive

end CallSites.Yaml
