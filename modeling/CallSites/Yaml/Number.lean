/-!
# Numbers as they are written

Whole numbers are written in decimal, or in another base after `0b`, `0o`, `0x` or a leading zero.
Fractions are written with a point or an exponent and are read to the nearest 64-bit binary
fraction, ties going to the even one.  Both readers work on the exact value, so the rounding is
that of the definition.
-/

namespace CallSites.Yaml

/-- An ASCII decimal digit. -/
def isDigit (c : Char) : Bool := '0' ≤ c && c ≤ '9'

/-! ## Whole numbers -/

/-- The value of a digit in bases up to 36. -/
def digitValue? (c : Char) : Option Nat :=
  if '0' ≤ c && c ≤ '9' then some (c.toNat - 48)
  else if 'a' ≤ c && c ≤ 'z' then some (c.toNat - 87)
  else if 'A' ≤ c && c ≤ 'Z' then some (c.toNat - 55)
  else none

/-- The value of a list of digits in a base; the empty list has the value zero. -/
def digitsValue? (base : Nat) (cs : List Char) : Option Nat :=
  cs.foldlM (fun n c => do
    let d ← digitValue? c
    if d < base then pure (n * base + d) else none) 0

/-- The value of an unsigned number in a given base, which has at least one digit. -/
def natInBase? (base : Nat) (cs : List Char) : Option Nat :=
  if cs.isEmpty then none else digitsValue? base cs

/-- The value of an unsigned number that shows its base. -/
def nat? : List Char → Option Nat
  | ['0'] => some 0
  | '0' :: b :: c :: rest =>
    if b == 'b' || b == 'B' then digitsValue? 2 (c :: rest)
    else if b == 'o' || b == 'O' then digitsValue? 8 (c :: rest)
    else if b == 'x' || b == 'X' then digitsValue? 16 (c :: rest)
    else digitsValue? 8 (b :: c :: rest)
  | '0' :: rest => digitsValue? 8 rest
  | cs => natInBase? 10 cs

/-- A signed number, its magnitude being read by the given reader. -/
def signed? (magnitude? : List Char → Option Nat) : List Char → Option Int
  | '+' :: cs => (magnitude? cs).map Int.ofNat
  | '-' :: cs => (magnitude? cs).map fun n => -Int.ofNat n
  | cs => (magnitude? cs).map Int.ofNat

/-- The number of 64-bit words. -/
def wordModulus : Nat := 0x10000000000000000

/-- One more than the largest signed 64-bit number. -/
def int64Bound : Int := 0x8000000000000000

/-- The number, if it is a signed 64-bit number. -/
def inInt64 (n : Int) : Option Int := if -int64Bound ≤ n ∧ n < int64Bound then some n else none

/-! ## Fractions -/

/-- A 64-bit binary fraction. -/
inductive Double where
  | nan
  | infinite (negative : Bool)
  /-- A mantissa times a power of two. -/
  | finite (negative : Bool) (mantissa : Nat) (exponent : Int)
deriving DecidableEq

/-- Numerator and denominator scaled down by a power of two. -/
def scaleDown (num den : Nat) (e : Int) : Nat × Nat :=
  if 0 ≤ e then (num, den * Nat.pow 2 e.toNat) else (num * Nat.pow 2 (-e).toNat, den)

/-- The least mantissa of a fraction that is not very small: two to the power of 52. -/
def leastMantissa : Nat := 0x10000000000000

/-- The mantissa, less than twice the least one, and the exponent of the binary fraction nearest to
a positive quotient, unless that is too large to be one. -/
def nearest? (num den : Nat) : Option (Nat × Int) :=
  let guess : Int := max ((Nat.log2 num : Int) - Nat.log2 den - 52) (-1074)
  let (n, d) := scaleDown num den guess
  let e := if n / d < leastMantissa ∧ -1074 < guess then guess - 1 else guess
  let (n, d) := scaleDown num den e
  let q := n / d
  let r := n % d
  let m := if d < 2 * r ∨ (d = 2 * r ∧ q % 2 = 1) then q + 1 else q
  let (m, e) := if m = 2 * leastMantissa then (leastMantissa, e + 1) else (m, e)
  if 971 < e then none else some (m, e)

/-- The binary fraction nearest to `digits * 10 ^ exponent`, unless that is too large. -/
def ofDecimal? (negative : Bool) (digits : Nat) (exponent : Int) : Option Double :=
  let width : Int := (Nat.toDigits 10 digits).length
  if digits = 0 ∨ width + exponent < -330 then some (.finite negative 0 0)
  else if 310 < width + exponent then none
  else
    let quotient :=
      if 0 ≤ exponent then nearest? (digits * Nat.pow 10 exponent.toNat) 1
      else nearest? digits (Nat.pow 10 (-exponent).toNat)
    quotient.map fun (m, e) => .finite negative m e

/-- The exponent after a fraction, which may be left out. -/
def exponent? : List Char → Option Int
  | [] => some 0
  | c :: rest => if c == 'e' || c == 'E' then signed? (fun cs =>
      if cs.all isDigit then natInBase? 10 cs else none) rest else none

/-- The binary fraction nearest to an unsigned decimal fraction. -/
def unsignedFraction? (negative : Bool) (cs : List Char) : Option Double := do
  let whole := cs.takeWhile isDigit
  let (part, tail) :=
    match cs.dropWhile isDigit with
    | '.' :: rest => (rest.takeWhile isDigit, rest.dropWhile isDigit)
    | rest => ([], rest)
  let digits ← natInBase? 10 (whole ++ part)
  let e ← exponent? tail
  ofDecimal? negative digits (e - part.length)

/-- The binary fraction nearest to a decimal fraction. -/
def fraction? : List Char → Option Double
  | '+' :: cs => unsignedFraction? false cs
  | '-' :: cs => unsignedFraction? true cs
  | cs => unsignedFraction? false cs

/-- The digits of a number with the underscores between them dropped; an underscore anywhere else
is refused. -/
def joinDigits? : Bool → List Char → Option (List Char)
  | _, [] => some []
  | afterDigit, '_' :: c :: rest =>
    if afterDigit && isDigit c then (joinDigits? true rest).map (c :: ·) else none
  | _, c :: rest =>
    if c == '_' then none else (joinDigits? (isDigit c) rest).map (c :: ·)

namespace Double

/-- The integral part of the magnitude, and whether something is left over. -/
def magnitude (m : Nat) (e : Int) : Nat × Bool :=
  if 0 ≤ e then (m * Nat.pow 2 e.toNat, false)
  else
    let d := Nat.pow 2 (-e).toNat
    (m / d, m % d ≠ 0)

/-- The integral part of a fraction that is not more than the bound of the signed 64-bit numbers.
Integral parts that are not such numbers are all read as the least of them. -/
def toInt64? : Double → Option Int
  | .nan => none
  | .infinite negative => if negative then some (-int64Bound) else none
  | .finite negative m e =>
    let (n, more) := magnitude m e
    let v : Int := if negative then -(n : Int) else n
    if int64Bound < v ∨ (v = int64Bound ∧ more) then none
    else some ((inInt64 v).getD (-int64Bound))

end Double

end CallSites.Yaml
