import CallSites.Error
import CallSites.Yaml.Node
import CallSites.Yaml.Scalar

/-!
# Decoding of documents

A document is decoded into a record of known keys.  Nothing is refused at once: every value that
does not fit is noted, in the order of the document, and left out, and the notes together are the
reason why the document is rejected.  A decoder answers `none` for a value that is left out, which
includes the null value of any type: a null item of a list makes the list shorter.

A mapping in which a key occurs twice is not decoded at all, whatever it is decoded into.

The key `<<` merges other mappings into a record: a mapping, or each mapping of a sequence.  They
are decoded after the mapping itself, and only for the keys that have not come up before.  A merge
of anything else ends the decoding, and the document counts as malformed.
-/

namespace CallSites.Yaml

/-- A value that does not fit where it stands. -/
inductive Problem where
  | misfit (line : Nat) (tag : String) (value : Option String) (target : String)
  | duplicate (line : Nat) (key : String) (first : Nat)
deriving DecidableEq

/-- The character shown for a byte that is not part of a whole character. -/
def strayByte : Char := Char.ofNat 0xFFFD

/-- The first bytes of a text; each byte of a character that is cut is shown as a stray byte. -/
def firstBytes : Nat → List Char → List Char
  | 0, _ => []
  | _, [] => []
  | n + 1, c :: cs =>
    if c.utf8Size ≤ n + 1 then c :: firstBytes (n + 1 - c.utf8Size) cs
    else List.replicate (n + 1) strayByte

/-- A value as it is shown: cut after seven bytes if it has more than ten. -/
def shortened (s : String) : String :=
  if 10 < s.utf8ByteSize then String.ofList (firstBytes 7 s.toList) ++ "..." else s

/-- The problem in words. -/
def Problem.message : Problem → String
  | .misfit line tag value target =>
    "line " ++ toString line ++ ": cannot unmarshal " ++ tag ++
      (match value with
       | some v => " `" ++ shortened v ++ "`"
       | none => "") ++
      " into " ++ target
  | .duplicate line key first =>
    "line " ++ toString line ++ ": mapping key " ++ Text.quote key ++
      " already defined at line " ++ toString first

/-- Decoding notes problems, the last one first.  It ends without a result at a merge that makes no
sense. -/
abbrev DecodeM := StateT (List Problem) Option

/-- Notes a problem. -/
def note (p : Problem) : DecodeM Unit := modify (p :: ·)

/-! ## Keys -/

/-- What decides whether two keys are the same: their sort and their text. -/
def keyText : Node → Nat × String
  | .scalar _ s _ => (0, s)
  | .seq _ _ => (1, "")
  | .map _ _ => (2, "")

/-- The keys that repeat an earlier one, by the earlier one and then by the later one. -/
def duplicates : List (Node × Node) → List Problem
  | [] => []
  | (k, _) :: rest =>
    (rest.filter fun e => keyText e.1 = keyText k).map
      (fun e => .duplicate e.1.line (keyText e.1).2 k.line) ++ duplicates rest

/-! ## Scalars -/

/-- What a scalar node means. -/
def meaning (text : String) (quoted : Bool) : Scalar := if quoted then .text else .ofPlain text

/-- Notes that a node does not fit.  A null value fits everywhere, and for a mapping with repeated
keys these are noted instead. -/
def reject (target : String) : Node → DecodeM Unit
  | .scalar line text quoted =>
    match meaning text quoted with
    | .null => pure ()
    | m => note (.misfit line m.tag (some text) target)
  | .seq line _ => note (.misfit line "!!seq" none target)
  | .map line pairs =>
    match duplicates pairs with
    | [] => note (.misfit line "!!map" none target)
    | ds => ds.forM note

/-- A text: any scalar that is not null, as it is written. -/
def decodeText : Node → DecodeM (Option String)
  | .scalar _ text quoted =>
    match meaning text quoted with
    | .null => pure none
    | _ => pure (some text)
  | n => do
    reject "string" n
    pure none

/-- The words that stand for a truth value besides the truth values themselves, also between
quotes. -/
def boolWord? (s : String) : Option Bool :=
  if s ∈ ["y", "Y", "yes", "Yes", "YES", "on", "On", "ON"] then some true
  else if s ∈ ["n", "N", "no", "No", "NO", "off", "Off", "OFF"] then some false
  else none

/-- The truth value of a scalar. -/
def boolOf? (text : String) : Scalar → Option Bool
  | .bool b => some b
  | .text => boolWord? text
  | _ => none

/-- A truth value. -/
def decodeBool (n : Node) : DecodeM (Option Bool) := do
  match n with
  | .scalar _ text quoted =>
    match boolOf? text (meaning text quoted) with
    | some b => pure (some b)
    | none =>
      reject "bool" n
      pure none
  | _ =>
    reject "bool" n
    pure none

/-- The signed 64-bit number of a scalar. -/
def intOf? : Scalar → Option Int
  | .int n => some n
  | .float x => x.toInt64?
  | _ => none

/-- A signed 64-bit number. -/
def decodeInt (n : Node) : DecodeM (Option Int) := do
  match n with
  | .scalar _ text quoted =>
    match intOf? (meaning text quoted) with
    | some i => pure (some i)
    | none =>
      reject "int" n
      pure none
  | _ =>
    reject "int" n
    pure none

/-! ## Collections -/

/-- The items that are not left out. -/
def decodeItems {α : Type} (item : Node → DecodeM (Option α)) : List Node → DecodeM (List α)
  | [] => pure []
  | n :: ns => do
    let a ← item n
    let as ← decodeItems item ns
    pure (a.toList ++ as)

/-- A list. -/
def decodeList {α : Type} (target : String) (item : Node → DecodeM (Option α)) (n : Node) :
    DecodeM (Option (List α)) := do
  match n with
  | .seq _ items => return some (← decodeItems item items)
  | _ =>
    reject target n
    pure none

/-! ## Merges -/

/-- The key asks for a merge. -/
def isMerge : Node → Bool
  | .scalar _ text quoted => meaning text quoted = .merge
  | _ => false

mutual

/-- The mappings that the pairs of a mapping ask to be merged, in the order in which they are
decoded. -/
def mergedBy : List (Node × Node) → Option (List (List (Node × Node)))
  | [] => some []
  | (key, value) :: rest => if isMerge key then mappings value else mergedBy rest

/-- The mappings of a value that is to be merged.  A mapping brings along those that it merges
itself, unless it repeats a key. -/
def mappings : Node → Option (List (List (Node × Node)))
  | .scalar _ _ _ => none
  | .seq _ items => mappingItems items
  | .map _ pairs =>
    if (duplicates pairs).isEmpty then (mergedBy pairs).map (pairs :: ·) else some [pairs]

/-- The mappings of a sequence that is to be merged, which holds nothing else. -/
def mappingItems : List Node → Option (List (List (Node × Node)))
  | [] => some []
  | .map line pairs :: rest => do
    let first ← mappings (.map line pairs)
    let others ← mappingItems rest
    pure (first ++ others)
  | _ :: _ => none

end

/-! ## Records -/

/-- Sets the fields of a record from the pairs of a mapping, except for the names that are already
taken, and answers with all names that are taken then.  A key that is null is left out, and so is
one that asks for a merge. -/
def decodePairs {σ : Type} (field : String → Node → σ → DecodeM σ) :
    List (Node × Node) → List String → σ → DecodeM (List String × σ)
  | [], taken, s => pure (taken, s)
  | (key, value) :: rest, taken, s => do
    if isMerge key then decodePairs field rest taken s
    else
      match ← decodeText key with
      | none => decodePairs field rest taken s
      | some name =>
        if name ∈ taken then decodePairs field rest taken s
        else decodePairs field rest (name :: taken) (← field name value s)

/-- Sets the fields of a record from the pairs of several mappings, where the first one that has a
key decides. -/
def decodeMappings {σ : Type} (field : String → Node → σ → DecodeM σ) :
    List (List (Node × Node)) → List String → σ → DecodeM σ
  | [], _, s => pure s
  | pairs :: rest, taken, s => do
    match duplicates pairs with
    | [] =>
      let (taken, s) ← decodePairs field pairs taken s
      decodeMappings field rest taken s
    | ds =>
      ds.forM note
      decodeMappings field rest taken s

/-- A record, starting from one in which nothing is set. -/
def decodeRecord {σ : Type} (target : String) (field : String → Node → σ → DecodeM σ) (start : σ)
    (n : Node) : DecodeM (Option σ) := do
  match n with
  | .map _ pairs =>
    match duplicates pairs with
    | [] =>
      let merged ← (mergedBy pairs : Option _)
      return some (← decodeMappings field (pairs :: merged) [] start)
    | ds =>
      ds.forM note
      pure none
  | _ =>
    reject target n
    pure none

/-- Sets a field of a record, unless the value is left out. -/
def setField {σ α : Type} (decode : Node → DecodeM (Option α)) (set : α → σ → σ) (n : Node)
    (s : σ) : DecodeM σ := do
  match ← decode n with
  | some a => pure (set a s)
  | none => pure s

/-- Decodes a text into a record; an empty document leaves everything unset. -/
def decode {σ : Type} (decoder : Node → DecodeM (Option σ)) (start : σ) : Decoder σ := fun text =>
  match parse text with
  | none => throw .malformed
  | some none => pure start
  | some (some root) =>
    match (decoder root).run [] with
    | none => throw .malformed
    | some (s, problems) =>
      if problems.isEmpty then pure (s.getD start)
      else throw (.misfits (problems.reverse.map Problem.message))

end CallSites.Yaml
