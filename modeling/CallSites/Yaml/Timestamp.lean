import CallSites.Yaml.Number

/-!
# Dates and times

A plain scalar that reads as a date, or as a date and a time, is neither a number nor a text.  The
year has four digits, every other number one or two.  The time follows the date after spaces, or
after the letter T, and then ends with a time zone.
-/

namespace CallSites.Yaml

/-- A number of one or two digits, and what follows. -/
def shortNumber? : List Char → Option (Nat × List Char)
  | a :: b :: rest =>
    if !isDigit a then none
    else if isDigit b then some ((a.toNat - 48) * 10 + (b.toNat - 48), rest)
    else some (a.toNat - 48, b :: rest)
  | [a] => if isDigit a then some (a.toNat - 48, []) else none
  | [] => none

/-- A number of two digits, and what follows. -/
def longNumber? : List Char → Option (Nat × List Char)
  | a :: b :: rest =>
    if isDigit a && isDigit b then some ((a.toNat - 48) * 10 + (b.toNat - 48), rest) else none
  | _ => none

/-- What follows a given character. -/
def after? (c : Char) : List Char → Option (List Char)
  | d :: rest => if c == d then some rest else none
  | [] => none

/-- The year has a leap day. -/
def isLeapYear (year : Nat) : Bool := year % 4 == 0 && (year % 100 != 0 || year % 400 == 0)

/-- The number of days of a month. -/
def daysIn (year month : Nat) : Nat :=
  if month == 2 then (if isLeapYear year then 29 else 28)
  else if month == 4 || month == 6 || month == 9 || month == 11 then 30
  else 31

/-- What follows a date. -/
def afterDate? : List Char → Option (List Char)
  | a :: b :: c :: d :: '-' :: rest => do
    let year ← if [a, b, c, d].all isDigit then natInBase? 10 [a, b, c, d] else none
    let (month, rest) ← shortNumber? rest
    let rest ← after? '-' rest
    let (day, rest) ← shortNumber? rest
    if 1 ≤ month ∧ month ≤ 12 ∧ 1 ≤ day ∧ day ≤ daysIn year month then some rest else none
  | _ => none

/-- What follows the part of a second, which may be left out. -/
def afterPart : List Char → List Char
  | c :: d :: rest =>
    if (c == '.' || c == ',') && isDigit d then rest.dropWhile isDigit else c :: d :: rest
  | rest => rest

/-- What follows a time of day. -/
def afterTime? (cs : List Char) : Option (List Char) := do
  let (hour, rest) ← shortNumber? cs
  let rest ← after? ':' rest
  let (minute, rest) ← shortNumber? rest
  let rest ← after? ':' rest
  let (second, rest) ← shortNumber? rest
  if hour < 24 ∧ minute < 60 ∧ second < 60 then some (afterPart rest) else none

/-- The text is a number of hours and minutes from the common time. -/
def isOffset (cs : List Char) : Bool :=
  let offset? : Option Bool := do
    let (hours, rest) ← longNumber? cs
    let rest ← after? ':' rest
    let (minutes, rest) ← longNumber? rest
    some (decide (hours ≤ 24) && decide (minutes ≤ 60) && rest.isEmpty)
  offset?.getD false

/-- The text is a time zone. -/
def isZone : List Char → Bool
  | ['Z'] => true
  | sign :: rest => (sign == '+' || sign == '-') && isOffset rest
  | [] => false

/-- The text is a time of day. -/
def isTime (cs : List Char) : Bool :=
  match afterTime? cs with
  | some rest => rest.isEmpty
  | none => false

/-- The text is a time of day in a time zone. -/
def isZonedTime (cs : List Char) : Bool :=
  match afterTime? cs with
  | some rest => isZone rest
  | none => false

/-- The text is a date, or a date and a time. -/
def isTimestamp (cs : List Char) : Bool :=
  match afterDate? cs with
  | some [] => true
  | some (c :: rest) =>
    if c == ' ' then isTime (rest.dropWhile (· == ' '))
    else (c == 'T' || c == 't') && isZonedTime rest
  | none => false

end CallSites.Yaml
