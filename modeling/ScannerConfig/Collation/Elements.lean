import ScannerConfig.Collation.Canonical
import ScannerConfig.Collation.Weights

namespace ScannerConfig.Collation

/-- A sequence of code points with weights of its own. -/
structure Contraction where
  points : List Nat
  weights : List Weight

def contractions : List Contraction := [
    ⟨[0x0418, 0x0306], [⟨8426, 1, 16⟩]⟩, ⟨[0x0438, 0x0306], [⟨8426, 1, 2⟩]⟩,
    ⟨[0x0627, 0x0653], [⟨8829, 1, 2⟩]⟩, ⟨[0x0627, 0x0654], [⟨8830, 1, 2⟩]⟩,
    ⟨[0x0627, 0x0655], [⟨8834, 1, 2⟩]⟩, ⟨[0x0648, 0x0654], [⟨8833, 1, 2⟩]⟩,
    ⟨[0x064A, 0x0654], [⟨8838, 1, 2⟩]⟩, ⟨[0x09C7, 0x09BE], [⟨9910, 1, 2⟩]⟩,
    ⟨[0x09C7, 0x09D7], [⟨9911, 1, 2⟩]⟩, ⟨[0x0B47, 0x0B3E], [⟨10103, 1, 2⟩]⟩,
    ⟨[0x0B47, 0x0B56], [⟨10102, 1, 2⟩]⟩, ⟨[0x0B47, 0x0B57], [⟨10104, 1, 2⟩]⟩,
    ⟨[0x0B92, 0x0BD7], [⟨10120, 1, 2⟩]⟩, ⟨[0x0BC6, 0x0BBE], [⟨10153, 1, 2⟩]⟩,
    ⟨[0x0BC6, 0x0BD7], [⟨10155, 1, 2⟩]⟩, ⟨[0x0BC7, 0x0BBE], [⟨10154, 1, 2⟩]⟩,
    ⟨[0x0C46, 0x0C56], [⟨10225, 1, 2⟩]⟩, ⟨[0x0CBF, 0x0CD5], [⟨10290, 1, 2⟩]⟩,
    ⟨[0x0CC6, 0x0CC2], [⟨10300, 1, 2⟩]⟩, ⟨[0x0CC6, 0x0CC2, 0x0CD5], [⟨10301, 1, 2⟩]⟩,
    ⟨[0x0CC6, 0x0CD5], [⟨10298, 1, 2⟩]⟩, ⟨[0x0CC6, 0x0CD6], [⟨10299, 1, 2⟩]⟩,
    ⟨[0x0D46, 0x0D3E], [⟨10375, 1, 2⟩]⟩, ⟨[0x0D46, 0x0D57], [⟨10377, 1, 2⟩]⟩,
    ⟨[0x0D47, 0x0D3E], [⟨10376, 1, 2⟩]⟩, ⟨[0x0DD9, 0x0DCA], [⟨10451, 1, 2⟩]⟩,
    ⟨[0x0DD9, 0x0DCF], [⟨10453, 1, 2⟩]⟩, ⟨[0x0DD9, 0x0DCF, 0x0DCA], [⟨10454, 1, 2⟩]⟩,
    ⟨[0x0DD9, 0x0DDF], [⟨10455, 1, 2⟩]⟩, ⟨[0x0E4D, 0x0E32], [⟨11926, 1, 2⟩]⟩,
    ⟨[0x0ECD, 0x0EB2], [⟨11987, 1, 2⟩]⟩, ⟨[0x0F71, 0x0F72], [⟨12152, 1, 2⟩]⟩,
    ⟨[0x0F71, 0x0F74], [⟨12156, 1, 2⟩]⟩, ⟨[0x0F71, 0x0F80], [⟨12154, 1, 2⟩]⟩,
    ⟨[0x0FB2, 0x0F71], [⟨12128, 1, 2⟩, ⟨12150, 1, 2⟩]⟩,
    ⟨[0x0FB2, 0x0F71, 0x0F72], [⟨12128, 1, 2⟩, ⟨12152, 1, 2⟩]⟩,
    ⟨[0x0FB2, 0x0F71, 0x0F74], [⟨12128, 1, 2⟩, ⟨12156, 1, 2⟩]⟩,
    ⟨[0x0FB2, 0x0F71, 0x0F80], [⟨12158, 1, 2⟩]⟩, ⟨[0x0FB2, 0x0F80], [⟨12157, 1, 2⟩]⟩,
    ⟨[0x0FB3, 0x0F71], [⟨12131, 1, 2⟩, ⟨12150, 1, 2⟩]⟩,
    ⟨[0x0FB3, 0x0F71, 0x0F72], [⟨12131, 1, 2⟩, ⟨12152, 1, 2⟩]⟩,
    ⟨[0x0FB3, 0x0F71, 0x0F74], [⟨12131, 1, 2⟩, ⟨12156, 1, 2⟩]⟩,
    ⟨[0x0FB3, 0x0F71, 0x0F80], [⟨12160, 1, 2⟩]⟩, ⟨[0x0FB3, 0x0F80], [⟨12159, 1, 2⟩]⟩,
    ⟨[0x1025, 0x102E], [⟨12845, 1, 2⟩]⟩, ⟨[0x1B05, 0x1B35], [⟨13319, 1, 2⟩]⟩,
    ⟨[0x1B07, 0x1B35], [⟨13321, 1, 2⟩]⟩, ⟨[0x1B09, 0x1B35], [⟨13323, 1, 2⟩]⟩,
    ⟨[0x1B0B, 0x1B35], [⟨13325, 1, 2⟩]⟩, ⟨[0x1B0D, 0x1B35], [⟨13327, 1, 2⟩]⟩,
    ⟨[0x1B11, 0x1B35], [⟨13331, 1, 2⟩]⟩, ⟨[0x1B3A, 0x1B35], [⟨13378, 1, 2⟩]⟩,
    ⟨[0x1B3C, 0x1B35], [⟨13380, 1, 2⟩]⟩, ⟨[0x1B3E, 0x1B35], [⟨13383, 1, 2⟩]⟩,
    ⟨[0x1B3F, 0x1B35], [⟨13384, 1, 2⟩]⟩, ⟨[0x1B42, 0x1B35], [⟨13386, 1, 2⟩]⟩,
    ⟨[0x11131, 0x11127], [⟨12988, 1, 2⟩]⟩, ⟨[0x11132, 0x11127], [⟨12989, 1, 2⟩]⟩,
    ⟨[0x11347, 0x1133E], [⟨10997, 1, 2⟩]⟩, ⟨[0x11347, 0x11357], [⟨10998, 1, 2⟩]⟩,
    ⟨[0x114B9, 0x114B0], [⟨11139, 1, 2⟩]⟩, ⟨[0x114B9, 0x114BA], [⟨11138, 1, 2⟩]⟩,
    ⟨[0x114B9, 0x114BD], [⟨11141, 1, 2⟩]⟩, ⟨[0x115B8, 0x115AF], [⟨11199, 1, 2⟩]⟩,
    ⟨[0x115B9, 0x115AF], [⟨11200, 1, 2⟩]⟩, ⟨[0x11935, 0x11930], [⟨11372, 1, 2⟩]⟩]

def contraction? (points : List Nat) : Option Contraction :=
  contractions.find? fun rule => rule.points == points

/-- No contraction starts below the Cyrillic letters. -/
def startsContraction (n : Nat) : Bool :=
  0x400 ≤ n && contractions.any fun rule => rule.points.head? == some n

/-- Vowels that are written before the consonant they follow: Thai, Lao, New Tai Lue, Tai Viet. -/
def precedes (vowel consonant : Nat) : Bool :=
  (0xE40 ≤ vowel && vowel ≤ 0xE44 && 0xE01 ≤ consonant && consonant ≤ 0xE2E) ||
  (0xEC0 ≤ vowel && vowel ≤ 0xEC4 &&
    ((0xE81 ≤ consonant && consonant ≤ 0xEAE &&
      !([0xE83, 0xE85, 0xE8B, 0xEA4, 0xEA6].contains consonant)) ||
      (0xEDC ≤ consonant && consonant ≤ 0xEDF))) ||
  ([0x19B5, 0x19B6, 0x19B7, 0x19BA].contains vowel && 0x1980 ≤ consonant && consonant ≤ 0x19AB) ||
  ([0xAAB5, 0xAAB6, 0xAAB9, 0xAABB, 0xAABC].contains vowel && 0xAA80 ≤ consonant &&
    consonant ≤ 0xAAAF)

/-- How many code points the longest contraction at the front of a text takes up, one if there
is none. -/
def contractionLength (points : List Nat) : Nat :=
  if (contraction? (points.take 3)).isSome then 3
  else if (contraction? (points.take 2)).isSome then 2
  else 1

/-- Draws later marks into a contraction. A mark is out of reach behind a mark of its own class
or behind a character that starts a new sequence. -/
def absorbMarks (start : List Nat) (passed : Nat) : List Nat → List Nat × List Nat
  | [] => (start, [])
  | mark :: rest =>
    if combiningClass mark = 0 then (start, mark :: rest)
    else if passed < combiningClass mark ∧ (contraction? (start ++ [mark])).isSome then
      absorbMarks (start ++ [mark]) passed rest
    else
      let (whole, after) := absorbMarks start (combiningClass mark) rest
      (whole, mark :: after)

def sequenceWeights (points : List Nat) : List Weight :=
  match contraction? points with
  | some rule => rule.weights
  | none => points.flatMap weights

/-- The weights of a text of at most `size` code points behind the code point `previous`. -/
def elementsFrom (size previous : Nat) (points : List Nat) : List Weight :=
  match size, points with
  | 0, _ => []
  | _, [] => []
  | size + 1, n :: rest =>
    if startsContraction n then
      let length := contractionLength (n :: rest)
      let (whole, after) := absorbMarks ((n :: rest).take length) 0 ((n :: rest).drop length)
      sequenceWeights whole ++ elementsFrom size n after
    else if n = 0xB7 ∧ (previous = 0x6C ∨ previous = 0x4C) then
      ⟨0, 265, 2⟩ :: elementsFrom size n rest
    else
      match rest with
      | [] => weights n
      | next :: others =>
        if precedes n next then weights next ++ weights n ++ elementsFrom size n others
        else weights n ++ elementsFrom size n rest

/-- The weights of a canonical text. -/
def elements (points : List Nat) : List Weight :=
  elementsFrom points.length 0 points

end ScannerConfig.Collation
