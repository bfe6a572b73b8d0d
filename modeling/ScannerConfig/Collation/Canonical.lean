import ScannerConfig.Collation.CombiningClassTable
import ScannerConfig.Collation.DecompositionTable
import ScannerConfig.Text.Runs

namespace ScannerConfig.Collation

def combiningClassRuns : Array (Run Nat) :=
  Run.ofText (fun row => row.headD 0) combiningClassTable

def decompositionRuns : Array (Run (List Nat)) :=
  Run.ofText id decompositionTable

/-- Zero for a character that starts a new sequence. -/
def combiningClass (n : Nat) : Nat :=
  if n < 0x300 then 0
  else match Run.find? combiningClassRuns n with
    | some run => run.value
    | none => 0

/-- A Hangul syllable is two or three letters, counted out from the first syllable. -/
def decomposeSyllable (n : Nat) : List Nat :=
  let index := n - 0xAC00
  let final := index % 28
  [0x1100 + index / 588, 0x1161 + index % 588 / 28] ++
    if final = 0 then [] else [0x11A7 + final]

def decomposePoint (n : Nat) : List Nat :=
  if n < 0xC0 then [n]
  else if 0xAC00 ≤ n ∧ n ≤ 0xD7A3 then decomposeSyllable n
  else match Run.find? decompositionRuns n with
    | some run => run.value
    | none => [n]

/-- Puts a mark before the marks that follow it, unless their class is lower. -/
def insertMark (mark : Nat) : List Nat → List Nat
  | [] => [mark]
  | next :: rest =>
    if combiningClass mark ≠ 0 ∧ combiningClass next ≠ 0 ∧
        combiningClass next < combiningClass mark then
      next :: insertMark mark rest
    else mark :: next :: rest

/-- The canonical form of a text. -/
def canonical (points : List Nat) : List Nat :=
  (points.flatMap decomposePoint).foldr insertMark []

end ScannerConfig.Collation
