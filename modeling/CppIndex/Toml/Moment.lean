import CppIndex.Text.Leading

/-!
# Dates and times

A **moment** in a configuration text is a date, a time of day, or a date and a time with an optional
offset from universal time. No setting is a moment, so only its extent matters: `behindMoment?` is what
follows a moment at the front of a text, and there is one exactly if its fields are within their
bounds. A day must exist in its month, and a second may be the sixtieth.
-/

namespace CppIndex.Toml

/-! ### The calendar -/

/-- Whether a year has a leap day. -/
def isLeapYear (year : Nat) : Bool := year % 4 == 0 && (year % 100 != 0 || year % 400 == 0)

/-- How many days a month has. -/
def daysInMonth (year month : Nat) : Nat :=
  if month = 2 then if isLeapYear year then 29 else 28
  else if month ∈ [4, 6, 9, 11] then 30
  else 31

/-! ### Fields -/

/-- A number written in exactly so many decimal digits and within bounds, with what follows it. -/
def boundedDigits? (count low high : Nat) (cs : List Char) : Option (Nat × List Char) :=
  let written := cs.take count
  if written.length < count ∨ ¬written.all Char.isDigit then none
  else
    let n := written.foldl (fun n d => 10 * n + (d.toNat - '0'.toNat)) 0
    if low ≤ n ∧ n ≤ high then some (n, cs.drop count) else none

/-- The text behind a date. -/
def behindDate? (cs : List Char) : Option (List Char) := do
  let (year, cs) ← boundedDigits? 4 0 9999 cs
  let cs ← Text.behind? ['-'] cs
  let (month, cs) ← boundedDigits? 2 1 12 cs
  let cs ← Text.behind? ['-'] cs
  let (_, cs) ← boundedDigits? 2 1 (daysInMonth year month) cs
  return cs

/-- The text behind hours and minutes. -/
def behindMinutes? (cs : List Char) : Option (List Char) := do
  let (_, cs) ← boundedDigits? 2 0 23 cs
  let cs ← Text.behind? [':'] cs
  let (_, cs) ← boundedDigits? 2 0 59 cs
  return cs

/-- The text behind the fraction of a second, if one begins it. -/
def behindFraction : List Char → List Char
  | '.' :: c :: cs => if c.isDigit then cs.dropWhile Char.isDigit else '.' :: c :: cs
  | cs => cs

/-- The text behind a time of day. -/
def behindTime? (cs : List Char) : Option (List Char) := do
  let cs ← behindMinutes? cs
  let cs ← Text.behind? [':'] cs
  let (_, cs) ← boundedDigits? 2 0 60 cs
  return behindFraction cs

/-- The text behind an offset from universal time, if one begins it. -/
def behindOffset : List Char → List Char
  | [] => []
  | c :: cs =>
    if c = 'Z' ∨ c = 'z' then cs
    else if c = '+' ∨ c = '-' then (behindMinutes? cs).getD (c :: cs)
    else c :: cs

/-! ### Moments -/

/-- Whether a character may stand between a date and a time. -/
def joinsDateAndTime (c : Char) : Bool := c == 'T' || c == 't' || c == ' '

/-- **The text behind a moment** at the front of a text. A date that no time follows stands alone,
and what would have joined them is not part of it. -/
def behindMoment? (cs : List Char) : Option (List Char) :=
  match behindDate? cs with
  | none => behindTime? cs
  | some [] => some []
  | some (c :: rest) =>
    match if joinsDateAndTime c then behindTime? rest else none with
    | some rest => some (behindOffset rest)
    | none => some (c :: rest)

end CppIndex.Toml
