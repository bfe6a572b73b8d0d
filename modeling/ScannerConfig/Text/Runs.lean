/-!
Tables over code points, kept as runs: stretches of consecutive code points that share one
value. A table is written as rows of numbers to base 36, each row opening with the distance
from the end of the run before it.
-/

namespace ScannerConfig

namespace Rows

def digitValue (c : Char) : Nat :=
  if '0' ≤ c ∧ c ≤ '9' then c.toNat - '0'.toNat else c.toNat - 'a'.toNat + 10

/-- A text that is being read: the rows so far and the open row, last things first, and the
open number, if there is one. -/
structure Reading where
  rows : List (List Nat)
  row : List Nat
  number : Option Nat

def Reading.closeNumber (reading : Reading) : Reading :=
  ⟨reading.rows, reading.number.toList ++ reading.row, none⟩

def Reading.closeRow (reading : Reading) : Reading :=
  ⟨(reading.number.toList ++ reading.row).reverse :: reading.rows, [], none⟩

def Reading.step (reading : Reading) (c : Char) : Reading :=
  if c = ',' then reading.closeRow
  else if c = ' ' ∨ c = '\n' then reading.closeNumber
  else ⟨reading.rows, reading.row, some (reading.number.getD 0 * 36 + digitValue c)⟩

/-- The rows of a text: a comma ends a row, blanks and line breaks separate two numbers. -/
def ofText (text : String) : List (List Nat) :=
  (text.toList.foldl Reading.step ⟨[], [], none⟩).rows.reverse

end Rows

/-- Consecutive code points with one value. -/
structure Run (α : Type) where
  first : Nat
  count : Nat
  value : α

namespace Run

variable {α : Type}

/-- The runs of a table in ascending order; `value` reads what follows the distance and the
length of a row. -/
def ofRows (value : List Nat → α) (rows : List (List Nat)) : Array (Run α) :=
  (rows.foldl (fun (acc : Array (Run α) × Nat) row =>
    match row with
    | gap :: count :: rest =>
      (acc.1.push ⟨acc.2 + gap, count, value rest⟩, acc.2 + gap + count)
    | _ => acc) (#[], 0)).1

def ofText (value : List Nat → α) (text : String) : Array (Run α) :=
  ofRows value (Rows.ofText text)

/-- The run of a code point among the runs from `low` on and before `high`, which ascend. -/
def search (runs : Array (Run α)) (n low high : Nat) : Option (Run α) :=
  if low < high then
    let middle := (low + high) / 2
    match runs[middle]? with
    | none => none
    | some run =>
      if n < run.first then search runs n low middle
      else if n < run.first + run.count then some run
      else search runs n (middle + 1) high
  else none
termination_by high - low
decreasing_by all_goals omega

def find? (runs : Array (Run α)) (n : Nat) : Option (Run α) :=
  search runs n 0 runs.size

end Run

end ScannerConfig
