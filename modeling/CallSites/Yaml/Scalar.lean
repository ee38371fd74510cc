import CallSites.Yaml.Timestamp

/-!
# The meaning of plain scalars

A scalar between quotes is a text.  A plain scalar may also be nothing, a truth value, a number or
a date, depending on how it is written; what cannot be read as any of these is a text.  The first
character decides what is tried, so most texts are recognised at once.  The sign `<<` asks for a
merge where it is a key, and is a text of its own sort elsewhere.
-/

namespace CallSites.Yaml

/-- What a scalar means. -/
inductive Scalar where
  | null
  | bool (b : Bool)
  /-- A signed 64-bit number. -/
  | int (n : Int)
  /-- A whole number that only fits into an unsigned 64-bit number. -/
  | large
  | float (x : Double)
  | timestamp
  /-- The sign for a merge. -/
  | merge
  | text
deriving DecidableEq

namespace Scalar

/-- The tag by which the meaning of a scalar is called. -/
def tag : Scalar → String
  | .null => "!!null"
  | .bool _ => "!!bool"
  | .int _ | .large => "!!int"
  | .float _ => "!!float"
  | .timestamp => "!!timestamp"
  | .merge => "!!merge"
  | .text => "!!str"

/-- The scalars with a fixed meaning. -/
def fixed? (s : String) : Option Scalar :=
  if s ∈ ["true", "True", "TRUE"] then some (.bool true)
  else if s ∈ ["false", "False", "FALSE"] then some (.bool false)
  else if s ∈ ["", "~", "null", "Null", "NULL"] then some .null
  else if s ∈ [".nan", ".NaN", ".NAN"] then some (.float .nan)
  else if s ∈ [".inf", ".Inf", ".INF", "+.inf", "+.Inf", "+.INF"] then
    some (.float (.infinite false))
  else if s ∈ ["-.inf", "-.Inf", "-.INF"] then some (.float (.infinite true))
  else none

/-- A whole number after a mark for its base, which stands in front or after the sign. -/
def marked? (mark : Char) (base : Nat) : List Char → Option Scalar
  | '0' :: m :: rest =>
    if m == mark then (signed? (natInBase? base) rest).bind fun n =>
      if (inInt64 n).isSome then some (.int n)
      else if 0 ≤ n ∧ n < wordModulus ∧ rest.all (digitValue? · |>.isSome) then some .large
      else none
    else none
  | '-' :: '0' :: m :: rest =>
    if m == mark then ((natInBase? base rest).bind fun n => inInt64 (-Int.ofNat n)).map .int
    else none
  | _ => none

/-- The number that a scalar is written as, underscores being left out. -/
def number? (cs : List Char) : Option Scalar :=
  ((signed? nat? cs).bind inInt64).map .int <|>
  ((nat? cs).bind fun n => if n < wordModulus then some .large else none) <|>
  (fraction? cs).map .float <|>
  marked? 'b' 2 cs <|>
  marked? 'o' 8 cs

/-- What a plain scalar means. -/
def ofPlain (s : String) : Scalar :=
  match s.toList with
  | [] => .null
  | c :: rest =>
    if isDigit c || c == '+' || c == '-' then
      match fixed? s with
      | some m => m
      | none =>
        if isTimestamp (c :: rest) then .timestamp
        else (number? ((c :: rest).filter (· ≠ '_'))).getD .text
    else if c == '.' then
      match fixed? s with
      | some m => m
      | none => (((joinDigits? false (c :: rest)).bind fraction?).map .float).getD .text
    else if c ∈ ['y', 'Y', 'n', 'N', 't', 'T', 'f', 'F', 'o', 'O', '~'] then
      (fixed? s).getD .text
    else if s = "<<" then .merge
    else .text

end Scalar

end CallSites.Yaml
