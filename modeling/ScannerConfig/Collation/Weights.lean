import ScannerConfig.Collation.WeightTable
import ScannerConfig.Text.Runs

namespace ScannerConfig.Collation

structure Weight where
  primary : Nat
  secondary : Nat
  tertiary : Nat
  deriving DecidableEq, Repr

/-- Primary weights of the printable ASCII characters, from the blank to the tilde. -/
def asciiPrimaries : List Nat := [
  10, 105, 307, 450, 7283, 451, 447, 304, 310, 311, 439, 1192, 37, 14, 130, 444, 7842,
  7843, 7844, 7845, 7846, 7847, 7848, 7849, 7850, 7851, 66, 60, 1196, 1197, 1198, 112,
  438, 7852, 7866, 7877, 7887, 7901, 7924, 7933, 7948, 7960, 7973, 7980, 7991, 8018,
  8027, 8045, 8075, 8087, 8094, 8127, 8148, 8162, 8186, 8195, 8199, 8208, 8215, 312, 445,
  313, 727, 12, 724, 7852, 7866, 7877, 7887, 7901, 7924, 7933, 7948, 7960, 7973, 7980,
  7991, 8018, 8027, 8045, 8075, 8087, 8094, 8127, 8148, 8162, 8186, 8195, 8199, 8208,
  8215, 314, 1200, 315, 1202]

/-- Capital letters follow small ones on the third level; nothing else differs there. -/
def asciiWeight (n : Nat) : Weight :=
  ⟨asciiPrimaries.getD (n - 0x20) 0, 1, if 0x41 ≤ n ∧ n ≤ 0x5A then 13 else 2⟩

/-- Weights by threes, and the step of the primary weight inside the run. -/
structure Steps where
  step : Nat
  weights : List Weight

def weightsOf : List Nat → List Weight
  | primary :: secondary :: tertiary :: rest => ⟨primary, secondary, tertiary⟩ :: weightsOf rest
  | _ => []

def Steps.ofRow : List Nat → Steps
  | [] => ⟨0, []⟩
  | step :: rest => ⟨step, weightsOf rest⟩

def weightRuns : Array (Run Steps) :=
  Run.ofText Steps.ofRow weightTable

/-- The ideographs that come first: the block of unified ideographs and those that stand in the
compatibility block without being variants. -/
def isCoreIdeograph (n : Nat) : Bool :=
  (0x4E00 ≤ n && n ≤ 0x9FFF) ||
    [0xFA0E, 0xFA0F, 0xFA11, 0xFA13, 0xFA14, 0xFA1F, 0xFA21, 0xFA23, 0xFA24, 0xFA27, 0xFA28,
      0xFA29].contains n

/-- First and last of each block of further ideographs; codes between them are not assigned. -/
def otherIdeographs : List (Nat × Nat) := [
  (0x3400, 0x4DBF), (0x20000, 0x2A6DF), (0x2A700, 0x2B739), (0x2B740, 0x2B81D),
  (0x2B820, 0x2CEA1), (0x2CEB0, 0x2EBE0), (0x2EBF0, 0x2EE5D), (0x30000, 0x3134A),
  (0x31350, 0x323AF)]

def isOtherIdeograph (n : Nat) : Bool :=
  otherIdeographs.any fun (first, last) => first ≤ n && n ≤ last

/-- Characters without a row follow all others: ideographs first, then the rest, each group by
code point. The replacement character and the last code of the first plane close the order. -/
def implicitWeight (n : Nat) : Weight :=
  if n = 0xFFFD ∨ n = 0xFFFF then ⟨0x300000 + n, 1, 2⟩ else
  if isCoreIdeograph n then ⟨0x10000 + n, 1, 2⟩
  else if isOtherIdeograph n then ⟨0x20000 + n, 1, 2⟩
  else ⟨0x100000 + n, 1, 2⟩

/-- The weights of a single character. -/
def weights (n : Nat) : List Weight :=
  if 0x20 ≤ n ∧ n ≤ 0x7E then [asciiWeight n]
  else match Run.find? weightRuns n with
    | some run =>
      run.value.weights.map fun weight =>
        ⟨weight.primary + run.value.step * (n - run.first), weight.secondary, weight.tertiary⟩
    | none => [implicitWeight n]

end ScannerConfig.Collation
