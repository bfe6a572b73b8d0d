namespace ScannerConfig.Utf8

/-- The bytes of a text. -/
def encode (cs : List Char) : List UInt8 :=
  cs.flatMap String.utf8EncodeChar

/-- Where bytes stop being UTF-8. A sequence that only lacks its end has no length. -/
structure Fault where
  index : Nat
  length : Option Nat
  deriving DecidableEq, Repr

def Fault.message (fault : Fault) : String :=
  match fault.length with
  | some n => s!"invalid utf-8 sequence of {n} bytes from index {fault.index}"
  | none => s!"incomplete utf-8 byte sequence from index {fault.index}"

def isContinuation (b : UInt8) : Bool :=
  0x80 ≤ b && b ≤ 0xBF

/-- Whether `b` may come second after `lead`. The narrower ranges leave out overlong
forms, surrogates and values past the last character. -/
def maySecond (lead b : UInt8) : Bool :=
  if lead = 0xE0 then 0xA0 ≤ b && b ≤ 0xBF
  else if lead = 0xED then 0x80 ≤ b && b ≤ 0x9F
  else if lead = 0xF0 then 0x90 ≤ b && b ≤ 0xBF
  else if lead = 0xF4 then 0x80 ≤ b && b ≤ 0x8F
  else isContinuation b

/-- How many bytes a sequence with this first byte takes; none for a byte that starts no
sequence. -/
def width (lead : UInt8) : Nat :=
  if lead < 0x80 then 1
  else if lead < 0xC2 then 0
  else if lead < 0xE0 then 2
  else if lead < 0xF0 then 3
  else if lead < 0xF5 then 4
  else 0

/-- The low six bits of a continuation byte. -/
def payload (b : UInt8) : Nat :=
  b.toNat % 0x40

/-- Reads bytes as characters; `index` is the position of the first byte. -/
def decodeFrom (index : Nat) : List UInt8 → Except Fault (List Char)
  | [] => .ok []
  | a :: rest =>
    match width a, rest with
    | 1, rest => (decodeFrom (index + 1) rest).map (Char.ofNat a.toNat :: ·)
    | 2, b :: rest =>
      if isContinuation b then
        (decodeFrom (index + 2) rest).map (Char.ofNat (a.toNat % 0x20 * 0x40 + payload b) :: ·)
      else .error ⟨index, some 1⟩
    | 3, [b] => .error ⟨index, if maySecond a b then none else some 1⟩
    | 3, b :: c :: rest =>
      if !maySecond a b then .error ⟨index, some 1⟩
      else if !isContinuation c then .error ⟨index, some 2⟩
      else
        (decodeFrom (index + 3) rest).map
          (Char.ofNat ((a.toNat % 0x10 * 0x40 + payload b) * 0x40 + payload c) :: ·)
    | 4, [b] => .error ⟨index, if maySecond a b then none else some 1⟩
    | 4, [b, c] =>
      .error ⟨index, if !maySecond a b then some 1 else if !isContinuation c then some 2 else none⟩
    | 4, b :: c :: d :: rest =>
      if !maySecond a b then .error ⟨index, some 1⟩
      else if !isContinuation c then .error ⟨index, some 2⟩
      else if !isContinuation d then .error ⟨index, some 3⟩
      else
        (decodeFrom (index + 4) rest).map
          (Char.ofNat
            (((a.toNat % 0x08 * 0x40 + payload b) * 0x40 + payload c) * 0x40 + payload d) :: ·)
    | 0, _ => .error ⟨index, some 1⟩
    | _, _ => .error ⟨index, none⟩

def decode (bytes : List UInt8) : Except Fault (List Char) :=
  decodeFrom 0 bytes

/-- The text that the bytes spell, if they spell one. -/
def text? (bytes : List UInt8) : Option String :=
  (decode bytes).toOption.map String.ofList

end ScannerConfig.Utf8
