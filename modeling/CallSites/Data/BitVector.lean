import CallSites.Error

/-!
# Bit vectors

A vector of bits of a fixed length, packed into 64-bit words.  The length is given as a signed
64-bit number and the number of words is computed from it by rounding up in that arithmetic.  A few
negative lengths therefore yield a vector without words: it answers every question about its bits,
of which it has none, but it has no text.
-/

namespace CallSites

/-- A fixed-length vector of bits. -/
structure BitVector where
  words : Array (BitVec 64)
  length : Int

namespace BitVector

/-- A number of words that can no longer be stored: two to the power of 45. -/
def maxWords : Int := 0x200000000000

/-- The signed 64-bit number that a sum wraps around to. -/
def wrapInt64 (x : Int) : Int := Int.bmod x 0x10000000000000000

/-- The number of words for a given length, rounding towards zero after the sum wraps. -/
def wordCount (n : Int) : Int := Int.tdiv (wrapInt64 (n + 63)) 64

/-- A vector of `n` clear bits, in as many words as it takes. -/
def zeros (n : Int) : BitVector := ⟨Array.replicate (Int.tdiv (n + 63) 64).toNat 0, n⟩

/-- A vector of `n` clear bits. -/
def new (n : Int) : Except Failure BitVector :=
  if wordCount n < 0 ∨ maxWords ≤ wordCount n then throw (.range .length)
  else pure (zeros n)

/-- The index lies within the vector. -/
def InRange (v : BitVector) (i : Int) : Prop := 0 ≤ i ∧ i < v.length

instance (v : BitVector) (i : Int) : Decidable (v.InRange i) :=
  inferInstanceAs (Decidable (0 ≤ i ∧ i < v.length))

/-- The bit at a position; a position beyond the words reads as clear. -/
def bit (v : BitVector) (i : Nat) : Bool := (v.words[i / 64]?.getD 0).getLsbD (i % 64)

/-- The vector with the bit at a position set to a given value; a position beyond the words leaves
the vector as it is. -/
def put (v : BitVector) (i : Nat) (b : Bool) : BitVector :=
  let mask := BitVec.twoPow 64 (i % 64)
  { v with words := v.words.modify (i / 64) fun w => if b then w ||| mask else w &&& ~~~mask }

/-- The word in which a position lies. -/
def word (v : BitVector) (i : Nat) : Except Failure (BitVec 64) :=
  match v.words[i / 64]? with
  | some w => pure w
  | none => throw (.range (.position (i / 64 : Nat) v.words.size))

/-- The bit at an index. -/
def get (v : BitVector) (i : Int) : Except Failure Bool := do
  if v.InRange i then
    return (← v.word i.toNat).getLsbD (i.toNat % 64)
  else throw (.range .bit)

/-- Sets the bit at an index of the vector to a given value.  The vector is written in place: what
has been done to it stays, even if the call fails. -/
def assign (i : Int) (b : Bool) : ExceptT Failure (StateM BitVector) Unit := do
  let v ← getThe BitVector
  if v.InRange i then
    let _ ← ExceptT.mk (pure (v.word i.toNat))
    set (v.put i.toNat b)
  else throw (.range .bit)

/-- Some bit is set. -/
def any (v : BitVector) : Bool := v.words.any (· ≠ 0)

/-- The positions of the vector, first to last. -/
def positions (v : BitVector) : List Nat := List.range v.length.toNat

/-- The positions of the bits that are set, in increasing order. -/
def indices (v : BitVector) : List Nat := v.positions.filter v.bit

/-- The bits as digits, first to last. -/
def digits (v : BitVector) : String :=
  String.ofList (v.positions.map fun i => if v.bit i then '1' else '0')

/-- The bits as digits, for a vector that has a text. -/
def text (v : BitVector) : Except Failure String :=
  if v.length < 0 then throw (.range .text) else pure v.digits

/-- The vector of the given bits. -/
def ofBools (bs : List Bool) : BitVector :=
  bs.zipIdx.foldl (fun v b => v.put b.2 b.1) (zeros bs.length)

end BitVector

end CallSites
