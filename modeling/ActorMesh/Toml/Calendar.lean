import ActorMesh.Toml.Reader

/-!
# Dates and times of TOML

A date, a time of day, or both with an optional distance to universal time. Every part has a fixed
count of digits and its own range; the day has to exist in its month.
-/

namespace ActorMesh.Toml

/-- Takes `n` decimal digits after those that spell `v`. -/
def moreDigits (v : Nat) : Nat → Reader Nat
  | 0, cs => some (v, cs)
  | n + 1, c :: rest => if c.isDigit then moreDigits (10 * v + (c.toNat - 48)) n rest else none
  | _ + 1, [] => none

/-- Takes `n` decimal digits. -/
def fixedDigits (n : Nat) : Reader Nat := moreDigits 0 n

/-- Takes a number of two digits in a closed range. -/
def twoDigits (low high : Nat) : Reader Nat := fun cs =>
  (fixedDigits 2 cs).bind fun (v, rest) => if low ≤ v ∧ v ≤ high then some (v, rest) else none

/-- Whether a year has a leap day. -/
def isLeapYear (year : Nat) : Bool :=
  year % 4 = 0 && (year % 100 ≠ 0 || year % 400 = 0)

/-- The days of a month. -/
def monthLength (year month : Nat) : Nat :=
  if month = 2 then if isLeapYear year then 29 else 28
  else if month = 4 ∨ month = 6 ∨ month = 9 ∨ month = 11 then 30
  else 31

/-- Takes a date. -/
def date (cs : List Char) : Option (List Char) := do
  let (year, cs) ← fixedDigits 4 cs
  let cs ← expect '-' cs
  let (month, cs) ← twoDigits 1 12 cs
  let cs ← expect '-' cs
  let (_, cs) ← twoDigits 1 (monthLength year month) cs
  return cs

/-- Takes a time of day. -/
def timeOfDay (cs : List Char) : Option (List Char) := do
  let (_, cs) ← twoDigits 0 23 cs
  let cs ← expect ':' cs
  let (_, cs) ← twoDigits 0 59 cs
  let cs ← expect ':' cs
  let (_, cs) ← twoDigits 0 60 cs
  match cs with
  | '.' :: rest =>
    if (rest.head?.map Char.isDigit).getD false then return rest.dropWhile Char.isDigit else none
  | _ => return cs

/-- Takes a distance to universal time. -/
def distance : List Char → Option (List Char)
  | c :: rest =>
    if c = 'Z' || c = 'z' then some rest
    else if c = '+' || c = '-' then do
      let (_, cs) ← twoDigits 0 23 rest
      let cs ← expect ':' cs
      let (_, cs) ← twoDigits 0 59 cs
      return cs
    else none
  | [] => none

/-- Whether a character may stand between a date and a time. -/
def isDateEnd (c : Char) : Bool := c = 'T' || c = 't' || c = ' '

/-- Takes a date, a time of day or both. -/
def calendar (cs : List Char) : Option (List Char) :=
  match date cs with
  | none => timeOfDay cs
  | some rest =>
    match rest with
    | [] => some []
    | c :: more =>
      if isDateEnd c then
        match timeOfDay more with
        | some rest' => some ((distance rest').getD rest')
        | none => some rest
      else some rest

end ActorMesh.Toml
