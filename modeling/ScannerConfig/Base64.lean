namespace ScannerConfig.Base64

/-- The symbol for six bits. -/
def symbol (n : Nat) : UInt8 :=
  if n < 26 then UInt8.ofNat (n + 0x41)
  else if n < 52 then UInt8.ofNat (n - 26 + 0x61)
  else if n < 62 then UInt8.ofNat (n - 52 + 0x30)
  else if n = 62 then 0x2B
  else 0x2F

/-- The six bits of a symbol. -/
def bits? (b : UInt8) : Option Nat :=
  if 0x41 ≤ b && b ≤ 0x5A then some (b.toNat - 0x41)
  else if 0x61 ≤ b && b ≤ 0x7A then some (b.toNat - 0x61 + 26)
  else if 0x30 ≤ b && b ≤ 0x39 then some (b.toNat - 0x30 + 52)
  else if b = 0x2B then some 62
  else if b = 0x2F then some 63
  else none

def padding : UInt8 := 0x3D

/-- Three bytes at a time as four symbols; a shorter last group is filled up with padding. -/
def encode : List UInt8 → List UInt8
  | [] => []
  | [a] => [symbol (a.toNat / 4), symbol (a.toNat % 4 * 16), padding, padding]
  | [a, b] =>
    [symbol (a.toNat / 4), symbol (a.toNat % 4 * 16 + b.toNat / 16), symbol (b.toNat % 16 * 4),
      padding]
  | a :: b :: c :: rest =>
    symbol (a.toNat / 4) :: symbol (a.toNat % 4 * 16 + b.toNat / 16) ::
      symbol (b.toNat % 16 * 4 + c.toNat / 64) :: symbol (c.toNat % 64) :: encode rest

/-- Why a text is not base64. -/
inductive Fault where
  | symbol (byte : UInt8) (offset : Nat)
  | length (count : Nat)
  /-- The last symbol has bits that no byte takes. -/
  | lastSymbol (byte : UInt8) (offset : Nat)
  | padding
  deriving DecidableEq, Repr

def Fault.message : Fault → String
  | .symbol byte offset => s!"Invalid symbol {byte.toNat}, offset {offset}."
  | .length count => s!"Invalid input length: {count}"
  | .lastSymbol byte offset => s!"Invalid last symbol {byte.toNat}, offset {offset}."
  | .padding => "Invalid padding"

/-- Four symbols as three bytes. -/
def quad? (a b c d : UInt8) : Option (List UInt8) := do
  let a ← bits? a
  let b ← bits? b
  let c ← bits? c
  let d ← bits? d
  pure [UInt8.ofNat (a * 4 + b / 16), UInt8.ofNat (b % 16 * 16 + c / 4), UInt8.ofNat (c % 4 * 64 + d)]

/-- The first byte outside the alphabet, with its offset. -/
def firstForeign (offset : Nat) : List UInt8 → Option (UInt8 × Nat)
  | [] => none
  | b :: rest => if (bits? b).isNone then some (b, offset) else firstForeign (offset + 1) rest

/-- The symbols of a last group and the number of paddings after them. Padding comes after two
symbols at least, and nothing comes after it. -/
def lastSymbols (offset : Nat) (group : List UInt8) : Except Fault (List UInt8 × Nat) :=
  let symbols := group.takeWhile (· ≠ padding)
  let rest := group.drop symbols.length
  match firstForeign offset symbols with
  | some (byte, place) => .error (.symbol byte place)
  | none =>
    if rest.isEmpty ∨ (2 ≤ symbols.length ∧ rest.all (· == padding)) then
      .ok (symbols, rest.length)
    else .error (.symbol padding (offset + symbols.length))

/-- A group of at most four symbols with its padding. Bits that no byte takes must be zero. -/
def lastGroup (offset : Nat) (group : List UInt8) : Except Fault (List UInt8) := do
  let (symbols, pads) ← lastSymbols offset group
  let bits := fun i => ((symbols[i]?.bind bits?).getD 0)
  let bytes := [UInt8.ofNat (bits 0 * 4 + bits 1 / 16), UInt8.ofNat (bits 1 % 16 * 16 + bits 2 / 4),
    UInt8.ofNat (bits 2 % 4 * 64 + bits 3)]
  let count := symbols.length
  if count = 1 ∨ (count = 0 ∧ pads ≠ 0) then .error (.length (offset + count))
  else if (count + pads) % 4 ≠ 0 then .error .padding
  else if (count = 2 ∧ bits 1 % 16 ≠ 0) ∨ (count = 3 ∧ bits 2 % 4 ≠ 0) then
    .error (.lastSymbol (symbols.getLastD 0) (offset + count - 1))
  else .ok (bytes.take (count * 3 / 4))

/-- All groups but the last are four symbols without padding. -/
def decodeGroups (offset : Nat) : List UInt8 → Except Fault (List UInt8)
  | a :: b :: c :: d :: e :: rest =>
    match quad? a b c d with
    | some bytes => (decodeGroups (offset + 4) (e :: rest)).map (bytes ++ ·)
    | none =>
      match firstForeign offset [a, b, c, d] with
      | some (byte, place) => .error (.symbol byte place)
      | none => .error .padding
  | group => lastGroup offset group

/-- A foreign byte that stands alone at the end is reported before all else. -/
def decode (text : List UInt8) : Except Fault (List UInt8) :=
  match text.getLast? with
  | some last =>
    if text.length % 4 = 1 ∧ last ≠ padding ∧ (bits? last).isNone then
      .error (.symbol last (text.length - 1))
    else decodeGroups 0 text
  | none => .ok []

end ScannerConfig.Base64
