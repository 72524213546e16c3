import Switchyard.Toml.Text

/-!
  Dates and times in a TOML document: their form and the bounds of their parts.  A date may be
  followed by a time and that by an offset; a time may stand alone.
-/

namespace Switchyard.Toml

/-- A number of exactly so many digits between two bounds. -/
def readFixed (width least greatest : Nat) : Reader Nat := fun cs =>
  if cs.length < width then none
  else (Number.readNat 10 (cs.take width)).bind fun n =>
    if least ≤ n ∧ n ≤ greatest then some (n, cs.drop width) else none

/-- One certain character. -/
def readChar (c : Char) : Reader Unit
  | d :: cs => if d = c then some ((), cs) else none
  | [] => none

/-- Does the year have a day more? -/
def isLeapYear (year : Nat) : Bool := year % 4 = 0 && (year % 100 ≠ 0 || year % 400 = 0)

/-- The number of days of a month. -/
def daysOf (year month : Nat) : Nat :=
  if month = 2 then (if isLeapYear year then 29 else 28)
  else if [4, 6, 9, 11].contains month then 30
  else 31

/-- A date. -/
def readDate : Reader Unit := fun cs => do
  let (year, cs) ← readFixed 4 0 9999 cs
  let (_, cs) ← readChar '-' cs
  let (month, cs) ← readFixed 2 1 12 cs
  let (_, cs) ← readChar '-' cs
  let (_, cs) ← readFixed 2 1 (daysOf year month) cs
  some ((), cs)

/-- Hours and minutes. -/
def readHourMinute : Reader Unit := fun cs => do
  let (_, cs) ← readFixed 2 0 23 cs
  let (_, cs) ← readChar ':' cs
  let (_, cs) ← readFixed 2 0 59 cs
  some ((), cs)

/-- A time of the day; its last second may be a leap second. -/
def readTime : Reader Unit := fun cs => do
  let (_, cs) ← readHourMinute cs
  let (_, cs) ← readChar ':' cs
  let (_, cs) ← readFixed 2 0 60 cs
  match cs with
  | '.' :: d :: rest =>
    if (Number.digitValue? d).isSome then
      some ((), rest.dropWhile fun c => (Number.digitValue? c).isSome)
    else none
  | _ => some ((), cs)

/-- Skip an offset, if there is one. -/
def readOffset : Reader Unit
  | [] => some ((), [])
  | c :: cs =>
    if c = 'Z' || c = 'z' then some ((), cs)
    else if c = '+' || c = '-' then readHourMinute cs
    else some ((), c :: cs)

/-- What may stand between a date and a time. -/
def isTimeMark (c : Char) : Bool := c = 'T' || c = 't' || c = ' '

/-- What is left behind a date, a time, or both. -/
def afterDateTime? (cs : List Char) : Option (List Char) :=
  match readDate cs with
  | none => (readTime cs).map (·.2)
  | some (_, rest) =>
    match rest with
    | c :: tail =>
      if isTimeMark c then
        match (readTime tail).bind fun (_, cs) => readOffset cs with
        | some (_, rest) => some rest
        | none => some rest
      else some rest
    | [] => some []

/-- A date, a time, or both, as written. -/
def readDateTime : Reader String := fun cs =>
  (afterDateTime? cs).map fun rest => (String.ofList (cs.take (cs.length - rest.length)), rest)

end Switchyard.Toml
