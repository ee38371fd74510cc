import CallSites.Yaml.Token

/-!
# Documents

A document is a tree of scalars, sequences and mappings.  Each node knows the line it starts on,
counted from one.  A collection is written in block style, by its layout, or in flow style, between
brackets; a sequence that is the value of a block mapping need not stand further to the right than
its key.  Where a node may be left out, an empty plain scalar takes its place.

The readers answer with what they have read and the tokens after it, or with nothing if the tokens
make no sense.  They are bounded by a number of rounds that is more than
twice the number of tokens: a node and a collection take turns, and each such turn takes a token.
-/

namespace CallSites.Yaml

/-- A node of a document. -/
inductive Node where
  | scalar (line : Nat) (text : String) (quoted : Bool)
  | seq (line : Nat) (items : List Node)
  | map (line : Nat) (pairs : List (Node × Node))

namespace Node

/-- The line that a node starts on, counted from one. -/
def line : Node → Nat
  | .scalar n _ _ | .seq n _ | .map n _ => n

/-- The node that stands where nothing is written. -/
def omitted (line : Nat) : Node := .scalar (line + 1) "" false

end Node

mutual

/-- Reads a node.  Block collections are only read where they are allowed, and so are sequences
that are not further to the right than their key. -/
def parseNode : Nat → (block aligned : Bool) → List Token → Option (Node × List Token)
  | 0, _, _, _ => none
  | _, _, _, [] => none
  | rounds + 1, block, aligned, t :: ts =>
    match t.kind with
    | .scalar text quoted => some (.scalar (t.line + 1) text quoted, ts)
    | .flowSeqStart => do
      let (items, ts) ← parseFlowSeq rounds true ts
      pure (.seq (t.line + 1) items, ts)
    | .flowMapStart => do
      let (pairs, ts) ← parseFlowMap rounds true ts
      pure (.map (t.line + 1) pairs, ts)
    | .blockEntry =>
      if aligned then do
        let (items, ts) ← parseAligned rounds (t :: ts)
        pure (.seq (t.line + 1) items, ts)
      else none
    | .blockSeqStart =>
      if block then do
        let (items, ts) ← parseBlockSeq rounds ts
        pure (.seq (t.line + 1) items, ts)
      else none
    | .blockMapStart =>
      if block then do
        let (pairs, ts) ← parseBlockMap rounds ts
        pure (.map (t.line + 1) pairs, ts)
      else none
    | _ => none

/-- Reads the items of a block sequence up to its end. -/
def parseBlockSeq : Nat → List Token → Option (List Node × List Token)
  | 0, _ => none
  | _, [] => none
  | rounds + 1, t :: ts =>
    match t.kind with
    | .blockEnd => some ([], ts)
    | .blockEntry => do
      let (item, ts) ←
        match ts with
        | [] => none
        | u :: _ =>
          match u.kind with
          | .blockEntry | .blockEnd => some (.omitted t.line, ts)
          | _ => parseNode rounds true false ts
      let (items, ts) ← parseBlockSeq rounds ts
      pure (item :: items, ts)
    | _ => none

/-- Reads the items of a sequence that is not further to the right than its key. -/
def parseAligned : Nat → List Token → Option (List Node × List Token)
  | 0, _ => none
  | _, [] => some ([], [])
  | rounds + 1, t :: ts =>
    match t.kind with
    | .blockEntry => do
      let (item, ts) ←
        match ts with
        | [] => none
        | u :: _ =>
          match u.kind with
          | .blockEntry | .key | .value | .blockEnd => some (.omitted t.line, ts)
          | _ => parseNode rounds true false ts
      let (items, ts) ← parseAligned rounds ts
      pure (item :: items, ts)
    | _ => some ([], t :: ts)

/-- Reads the pairs of a block mapping up to its end. -/
def parseBlockMap : Nat → List Token → Option (List (Node × Node) × List Token)
  | 0, _ => none
  | _, [] => none
  | rounds + 1, t :: ts =>
    match t.kind with
    | .blockEnd => some ([], ts)
    | .key => do
      let (key, ts) ← parseBlockPart rounds t.line ts
      let (value, ts) ←
        match ts with
        | [] => none
        | u :: us =>
          match u.kind with
          | .value => parseBlockPart rounds u.line us
          | _ => some (.omitted u.line, ts)
      let (pairs, ts) ← parseBlockMap rounds ts
      pure ((key, value) :: pairs, ts)
    | _ => none

/-- Reads the key or the value of a block mapping, which may be left out. -/
def parseBlockPart : Nat → Nat → List Token → Option (Node × List Token)
  | 0, _, _ => none
  | _, _, [] => none
  | rounds + 1, line, t :: ts =>
    match t.kind with
    | .key | .value | .blockEnd => some (.omitted line, t :: ts)
    | _ => parseNode rounds true true (t :: ts)

/-- Reads the items of a flow sequence up to its end.  A pair written as an item is a mapping. -/
def parseFlowSeq : Nat → (first : Bool) → List Token → Option (List Node × List Token)
  | 0, _, _ => none
  | _, _, [] => none
  | rounds + 1, first, t :: ts => do
    match t.kind with
    | .flowSeqEnd => some ([], ts)
    | _ =>
      let ts ← if first then some (t :: ts) else
        match t.kind with
        | .flowEntry => some ts
        | _ => none
      match ts with
      | [] => none
      | t :: ts =>
        match t.kind with
        | .flowSeqEnd => some ([], ts)
        | .key =>
          let (pair, ts) ← parseFlowPair rounds t.line ts
          let (items, ts) ← parseFlowSeq rounds false ts
          pure (.map (t.line + 1) [pair] :: items, ts)
        | _ =>
          let (item, ts) ← parseNode rounds false false (t :: ts)
          let (items, ts) ← parseFlowSeq rounds false ts
          pure (item :: items, ts)

/-- Reads the key and the value of a pair that is written as an item of a flow sequence. -/
def parseFlowPair : Nat → Nat → List Token → Option ((Node × Node) × List Token)
  | 0, _, _ => none
  | _, _, [] => none
  | rounds + 1, line, t :: ts => do
    let (key, ts) ←
      match t.kind with
      | .value | .flowEntry | .flowSeqEnd => some (.omitted line, ts)
      | _ => parseNode rounds false false (t :: ts)
    match ts with
    | [] => none
    | u :: us =>
      match u.kind with
      | .value =>
        let (value, us) ← parseFlowValue rounds u.line us
        pure ((key, value), us)
      | _ => pure ((key, .omitted u.line), ts)

/-- Reads the value of a pair between brackets, which may be left out. -/
def parseFlowValue : Nat → Nat → List Token → Option (Node × List Token)
  | 0, _, _ => none
  | _, _, [] => none
  | rounds + 1, line, t :: ts =>
    match t.kind with
    | .flowEntry | .flowSeqEnd | .flowMapEnd => some (.omitted line, t :: ts)
    | _ => parseNode rounds false false (t :: ts)

/-- Reads the pairs of a flow mapping up to its end.  A key without a value has an omitted one. -/
def parseFlowMap : Nat → (first : Bool) → List Token → Option (List (Node × Node) × List Token)
  | 0, _, _ => none
  | _, _, [] => none
  | rounds + 1, first, t :: ts => do
    match t.kind with
    | .flowMapEnd => some ([], ts)
    | _ =>
      let ts ← if first then some (t :: ts) else
        match t.kind with
        | .flowEntry => some ts
        | _ => none
      match ts with
      | [] => none
      | t :: ts =>
        match t.kind with
        | .flowMapEnd => some ([], ts)
        | .key =>
          let (pair, ts) ← parseFlowMapPair rounds ts
          let (pairs, ts) ← parseFlowMap rounds false ts
          pure (pair :: pairs, ts)
        | _ =>
          let (key, ts) ← parseNode rounds false false (t :: ts)
          let (pairs, ts) ← parseFlowMap rounds false ts
          pure ((key, .omitted t.line) :: pairs, ts)

/-- Reads the key and the value of a pair of a flow mapping. -/
def parseFlowMapPair : Nat → List Token → Option ((Node × Node) × List Token)
  | 0, _ => none
  | _, [] => none
  | rounds + 1, t :: ts => do
    let (key, ts) ←
      match t.kind with
      | .value | .flowEntry | .flowMapEnd => some (.omitted t.line, t :: ts)
      | _ => parseNode rounds false false (t :: ts)
    match ts with
    | [] => none
    | u :: us =>
      match u.kind with
      | .value =>
        let (value, us) ← parseFlowValue rounds u.line us
        pure ((key, value), us)
      | _ => pure ((key, .omitted u.line), ts)

end

/-! ## The first document -/

/-- The tokens after the directives.  The version may only be stated once, and must be 1.1; a handle
may only be defined once. -/
def afterDirectives : (stated : Bool) → (handles : List String) → List Token → Option (List Token)
  | _, _, [] => some []
  | stated, handles, t :: ts =>
    match t.kind with
    | .directive (.version major minor) =>
      if stated ∨ (major, minor) ≠ (1, 1) then none else afterDirectives true handles ts
    | .directive (.tag handle) =>
      if handle ∈ handles then none else afterDirectives stated (handle :: handles) ts
    | _ => some (t :: ts)

/-- The content of a document is left out. -/
def isOmitted : List Token → Bool
  | [] => true
  | t :: _ =>
    match t.kind with
    | .directive _ | .documentStart | .documentEnd => true
    | _ => false

/-- The text cannot be read on. -/
def isBroken : List Token → Bool
  | [] => false
  | t :: _ => t.kind = .broken

/-- The root of a document, after which the text can be read on. -/
def parseRoot (ts : List Token) : Option Node := do
  let (root, rest) ← parseNode (2 * ts.length + 2) true false ts
  if isBroken rest then none else pure root

/-- The root of the first document of a list of tokens; `some none` for an empty document.  If there
are directives, the mark of its start must follow. -/
def parseDocument (ts : List Token) : Option (Option Node) :=
  match ts with
  | [] => some none
  | t :: _ => do
    match t.kind with
    | .directive _ | .documentStart =>
      match ← afterDirectives false [] ts with
      | [] => none
      | u :: content =>
        if u.kind ≠ .documentStart then none
        else if isOmitted content then pure none
        else return some (← parseRoot content)
    | _ => return some (← parseRoot ts)

/-- The root of the document in a text, if the text is well formed; `some none` if the document is
empty. -/
def parse (text : String) : Option (Option Node) := parseDocument (tokens text)

end CallSites.Yaml
