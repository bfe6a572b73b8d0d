import ScannerConfig.Toml.Value
import ScannerConfig.Decimal.Text

namespace ScannerConfig.Toml

/-- A number of exactly `count` digits, with its digits. -/
def fixed? (count : Nat) (cs : List Char) : Option (Nat × List Char × List Char) := do
  let digits := cs.take count
  if digits.length < count then none
  else
    let n ← natOf? 10 digits
    some (n, digits, cs.drop count)

def isLeapYear (year : Nat) : Bool :=
  year % 4 == 0 && (year % 100 != 0 || year % 400 == 0)

def daysOfMonth (year month : Nat) : Nat :=
  if month = 2 then (if isLeapYear year then 29 else 28)
  else if [4, 6, 9, 11].contains month then 30
  else 31

def expect? (c : Char) : List Char → Option (List Char)
  | [] => none
  | next :: rest => if next = c then some rest else none

def date? (cs : List Char) : Option (List Char × List Char) := do
  let (year, yearDigits, cs) ← fixed? 4 cs
  let cs ← expect? '-' cs
  let (month, monthDigits, cs) ← fixed? 2 cs
  let cs ← expect? '-' cs
  let (day, dayDigits, cs) ← fixed? 2 cs
  if 1 ≤ month ∧ month ≤ 12 ∧ 1 ≤ day ∧ day ≤ daysOfMonth year month then
    some (yearDigits ++ '-' :: monthDigits ++ '-' :: dayDigits, cs)
  else none

/-- Parts of a second, to nine places and without zeros at the end. -/
def secondParts? : List Char → Option (List Char × List Char)
  | '.' :: cs =>
    let digits := cs.takeWhile isDecimalDigit
    if digits.isEmpty then none
    else
      let kept := ((digits.take 9).reverse.dropWhile (· == '0')).reverse
      some (if kept.isEmpty then [] else '.' :: kept, cs.dropWhile isDecimalDigit)
  | cs => some ([], cs)

def time? (cs : List Char) : Option (List Char × List Char) := do
  let (hour, hourDigits, cs) ← fixed? 2 cs
  let cs ← expect? ':' cs
  let (minute, minuteDigits, cs) ← fixed? 2 cs
  let cs ← expect? ':' cs
  let (second, secondDigits, cs) ← fixed? 2 cs
  let (parts, cs) ← secondParts? cs
  if hour ≤ 23 ∧ minute ≤ 59 ∧ second ≤ 60 then
    some (hourDigits ++ ':' :: minuteDigits ++ ':' :: secondDigits ++ parts, cs)
  else none

/-- The distance from universal time, if one is given. -/
def offset? : List Char → Option (List Char × List Char)
  | [] => some ([], [])
  | c :: cs =>
    if c = 'Z' ∨ c = 'z' then some (['Z'], cs)
    else if c = '+' ∨ c = '-' then do
      let (hour, hourDigits, cs) ← fixed? 2 cs
      let cs ← expect? ':' cs
      let (minute, minuteDigits, cs) ← fixed? 2 cs
      if hour ≤ 23 ∧ minute ≤ 59 then some (c :: hourDigits ++ ':' :: minuteDigits, cs) else none
    else some ([], c :: cs)

/-- The time behind a date, if one follows. -/
def timeOfDate? : List Char → Option (List Char × List Char)
  | [] => none
  | c :: cs =>
    if c = 'T' ∨ c = 't' ∨ c = ' ' then do
      let (time, cs) ← time? cs
      let (offset, cs) ← offset? cs
      some ('T' :: time ++ offset, cs)
    else none

/-- A date, a time or both. -/
def moment? (cs : List Char) : Option (Value × List Char) :=
  match date? cs with
  | some (date, rest) =>
    match timeOfDate? rest with
    | some (time, rest) => some (.moment (String.ofList (date ++ time)), rest)
    | none => some (.moment (String.ofList date), rest)
  | none => do
    let (time, rest) ← time? cs
    some (.moment (String.ofList time), rest)

end ScannerConfig.Toml
