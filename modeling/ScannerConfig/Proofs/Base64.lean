import Mathlib
import ScannerConfig.Base64
import ScannerConfig.Proofs.Steps

namespace ScannerConfig.Base64

theorem bits?_symbol {n : Nat} (small : n < 64) : bits? (symbol n) = some n := by
  have all : ∀ n < 64, bits? (symbol n) = some n := by decide
  exact all n small

/-- A byte of a printing ASCII character. -/
def IsVisible (b : UInt8) : Prop :=
  0x20 < b.toNat ∧ b.toNat < 0x7F

theorem symbol_visible {n : Nat} (small : n < 64) : IsVisible (symbol n) := by
  have all : ∀ n < 64, 0x20 < (symbol n).toNat ∧ (symbol n).toNat < 0x7F := by decide
  exact all n small

/-- The four numbers of six bits that three bytes make. -/
theorem sextets (a b c : UInt8) :
    a.toNat / 4 < 64 ∧ a.toNat % 4 * 16 + b.toNat / 16 < 64 ∧
      b.toNat % 16 * 4 + c.toNat / 64 < 64 ∧ c.toNat % 64 < 64 := by
  have boundA := a.toNat_lt
  have boundB := b.toNat_lt
  have boundC := c.toNat_lt
  omega

theorem quad?_symbols (a b c : UInt8) :
    quad? (symbol (a.toNat / 4)) (symbol (a.toNat % 4 * 16 + b.toNat / 16))
      (symbol (b.toNat % 16 * 4 + c.toNat / 64)) (symbol (c.toNat % 64)) = some [a, b, c] := by
  obtain ⟨first, second, third, fourth⟩ := sextets a b c
  have wholeA : a.toNat / 4 * 4 + (a.toNat % 4 * 16 + b.toNat / 16) / 16 = a.toNat := by
    have bound := b.toNat_lt
    omega
  have wholeB : (a.toNat % 4 * 16 + b.toNat / 16) % 16 * 16 +
      (b.toNat % 16 * 4 + c.toNat / 64) / 4 = b.toNat := by
    have bound := b.toNat_lt
    have boundC := c.toNat_lt
    omega
  have wholeC : (b.toNat % 16 * 4 + c.toNat / 64) % 4 * 64 + c.toNat % 64 = c.toNat := by
    have bound := c.toNat_lt
    omega
  simp only [quad?, bits?_symbol first, bits?_symbol second, bits?_symbol third,
    bits?_symbol fourth, Option.bind_eq_bind, Option.bind_some, wholeA, wholeB, wholeC,
    UInt8.ofNat_toNat]
  rfl

theorem firstForeign_eq_none_iff (offset : Nat) {text : List UInt8} :
    firstForeign offset text = none ↔ ∀ s ∈ text, (bits? s).isSome = true := by
  induction text generalizing offset with
  | nil => simp [firstForeign]
  | cons s text ih =>
    rw [firstForeign, List.forall_mem_cons, ← ih (offset + 1)]
    cases value : bits? s <;> simp

/-- Symbols of the alphabet with as much padding as may stand behind them. -/
theorem lastSymbols_padded {group symbols : List UInt8} {pads : Nat} (offset : Nat)
    (padded : group = symbols ++ List.replicate pads padding)
    (known : ∀ s ∈ symbols, (bits? s).isSome = true) (enough : pads = 0 ∨ 2 ≤ symbols.length) :
    lastSymbols offset group = .ok (symbols, pads) := by
  have different : ∀ s ∈ symbols, (s ≠ padding) := by
    rintro s member rfl
    exact absurd (known _ member) (by decide)
  have taken : (symbols ++ List.replicate pads padding).takeWhile (· ≠ padding) = symbols := by
    rw [List.takeWhile_append_of_pos (by simpa using different)]
    cases pads <;> simp [List.replicate_succ]
  rw [padded, lastSymbols, taken, List.drop_left, (firstForeign_eq_none_iff offset).mpr known]
  rcases enough with rfl | two
  · simp
  · simp [two]

theorem lastGroup_one (offset : Nat) (a : UInt8) : lastGroup offset (encode [a]) = .ok [a] := by
  have bound := a.toNat_lt
  have first : a.toNat / 4 < 64 := by omega
  have second : a.toNat % 4 * 16 < 64 := by omega
  have whole : a.toNat / 4 * 4 + a.toNat % 4 = a.toNat := by omega
  have spare : a.toNat % 4 * 16 % 16 = 0 := by omega
  have read : lastSymbols offset (encode [a]) =
      .ok ([symbol (a.toNat / 4), symbol (a.toNat % 4 * 16)], 2) :=
    lastSymbols_padded offset rfl (by simp [bits?_symbol first, bits?_symbol second])
      (.inr (by simp))
  rw [lastGroup, read]
  simp [bind, Except.bind, bits?_symbol first, bits?_symbol second, whole, spare, -UInt8.ofNat_add]

theorem lastGroup_two (offset : Nat) (a b : UInt8) :
    lastGroup offset (encode [a, b]) = .ok [a, b] := by
  obtain ⟨first, second, third, _⟩ := sextets a b 0
  rw [UInt8.toNat_zero, Nat.zero_div, Nat.add_zero] at third
  have wholeA : a.toNat / 4 * 4 + (a.toNat % 4 * 16 + b.toNat / 16) / 16 = a.toNat := by
    have bound := b.toNat_lt
    omega
  have wholeB : b.toNat / 16 % 16 * 16 + b.toNat % 16 = b.toNat := by
    have bound := b.toNat_lt
    omega
  have spare : b.toNat % 16 * 4 % 4 = 0 := by omega
  have read : lastSymbols offset (encode [a, b]) =
      .ok ([symbol (a.toNat / 4), symbol (a.toNat % 4 * 16 + b.toNat / 16),
        symbol (b.toNat % 16 * 4)], 1) :=
    lastSymbols_padded offset rfl
      (by simp [bits?_symbol first, bits?_symbol second, bits?_symbol third]) (.inr (by simp))
  rw [lastGroup, read]
  simp [bind, Except.bind, bits?_symbol first, bits?_symbol second, bits?_symbol third, wholeA,
    wholeB, spare, -UInt8.ofNat_add]

theorem lastGroup_three (offset : Nat) (a b c : UInt8) :
    lastGroup offset (encode [a, b, c]) = .ok [a, b, c] := by
  obtain ⟨first, second, third, fourth⟩ := sextets a b c
  have read : lastSymbols offset (encode [a, b, c]) = .ok (encode [a, b, c], 0) :=
    lastSymbols_padded offset (List.append_nil _).symm
      (by simp [encode, bits?_symbol first, bits?_symbol second, bits?_symbol third,
        bits?_symbol fourth]) (.inl rfl)
  have bytes := quad?_symbols a b c
  simp only [quad?, bits?_symbol first, bits?_symbol second, bits?_symbol third,
    bits?_symbol fourth, Option.bind_eq_bind, Option.bind_some] at bytes
  rw [lastGroup, read]
  simpa [bind, Except.bind, encode, bits?_symbol first, bits?_symbol second, bits?_symbol third,
    bits?_symbol fourth, -UInt8.ofNat_add] using bytes

/-- What follows a whole group is read after it. -/
theorem decodeGroups_three (offset : Nat) (a b c : UInt8) {rest : List UInt8} (more : rest ≠ []) :
    decodeGroups offset (encode (a :: b :: c :: rest)) =
      (decodeGroups (offset + 4) (encode rest)).map ([a, b, c] ++ ·) := by
  have follows : ∃ first later, encode rest = first :: later := by
    match rest with
    | [] => exact absurd rfl more
    | [_] | [_, _] | _ :: _ :: _ :: _ => exact ⟨_, _, rfl⟩
  obtain ⟨first, later, same⟩ := follows
  rw [encode, same, decodeGroups, quad?_symbols]

theorem decodeGroups_encode (offset : Nat) {bytes : List UInt8} (some : bytes ≠ []) :
    decodeGroups offset (encode bytes) = .ok bytes := by
  induction bytes using encode.induct generalizing offset with
  | case1 => exact absurd rfl some
  | case2 a => exact lastGroup_one offset a
  | case3 a b => exact lastGroup_two offset a b
  | case4 a b c rest ih =>
    by_cases ended : rest = []
    · subst ended
      exact lastGroup_three offset a b c
    · rw [decodeGroups_three offset a b c ended, ih (offset + 4) ended]
      rfl

theorem length_encode (bytes : List UInt8) : (encode bytes).length % 4 = 0 := by
  induction bytes using encode.induct with
  | case1 | case2 | case3 => simp [encode]
  | case4 a b c rest ih => simp only [encode, List.length_cons]; omega

theorem decode_encode (bytes : List UInt8) : decode (encode bytes) = .ok bytes := by
  by_cases empty : bytes = []
  · rw [empty]
    rfl
  · have length := length_encode bytes
    rw [decode]
    split
    · rw [if_neg (by omega), decodeGroups_encode 0 empty]
    · rename_i noLast
      rw [List.getLast?_eq_none_iff] at noLast
      have whole := decodeGroups_encode 0 empty
      rw [noLast] at whole
      exact whole

/-- Symbols and padding are printing ASCII characters. -/
theorem visible_encode (bytes : List UInt8) : ∀ b ∈ encode bytes, IsVisible b := by
  have pad : IsVisible padding := ⟨by decide, by decide⟩
  induction bytes using encode.induct with
  | case1 => simp [encode]
  | case2 a =>
    have bound := a.toNat_lt
    simp only [encode, List.forall_mem_cons, List.not_mem_nil, false_implies, implies_true, and_true]
    exact ⟨symbol_visible (by omega), symbol_visible (by omega), pad, pad⟩
  | case3 a b =>
    obtain ⟨first, second, _, _⟩ := sextets a b 0
    have third : b.toNat % 16 * 4 < 64 := by omega
    simp only [encode, List.forall_mem_cons, List.not_mem_nil, false_implies, implies_true, and_true]
    exact ⟨symbol_visible first, symbol_visible second, symbol_visible third, pad⟩
  | case4 a b c rest ih =>
    obtain ⟨first, second, third, fourth⟩ := sextets a b c
    simp only [encode, List.forall_mem_cons]
    exact ⟨symbol_visible first, symbol_visible second, symbol_visible third, symbol_visible fourth, ih⟩

theorem symbol_of_bits? {b : UInt8} {n : Nat} (value : bits? b = some n) :
    b = symbol n ∧ n < 64 := by
  have all : ∀ m < 256, ∀ n ∈ bits? (UInt8.ofNat m), UInt8.ofNat m = symbol n ∧ n < 64 := by
    decide +kernel
  have here := all b.toNat b.toNat_lt
  rw [UInt8.ofNat_toNat] at here
  exact here n value

/-- The three bytes that four numbers of six bits make. -/
def tripleOf (a b c d : Nat) : List UInt8 :=
  [UInt8.ofNat (a * 4 + b / 16), UInt8.ofNat (b % 16 * 16 + c / 4), UInt8.ofNat (c % 4 * 64 + d)]

section Triples

variable {a b c d : Nat} (smallA : a < 64) (smallB : b < 64) (smallC : c < 64) (smallD : d < 64)

include smallA smallB in
theorem toNat_upper : (UInt8.ofNat (a * 4 + b / 16)).toNat = a * 4 + b / 16 :=
  UInt8.toNat_ofNat_of_lt (by change _ < 256; omega)

include smallC in
theorem toNat_middle : (UInt8.ofNat (b % 16 * 16 + c / 4)).toNat = b % 16 * 16 + c / 4 :=
  UInt8.toNat_ofNat_of_lt (by change _ < 256; omega)

include smallD in
theorem toNat_lower : (UInt8.ofNat (c % 4 * 64 + d)).toNat = c % 4 * 64 + d :=
  UInt8.toNat_ofNat_of_lt (by change _ < 256; omega)

include smallA smallB in
theorem encode_tripleOf_one (spare : b % 16 = 0) :
    encode ((tripleOf a b c d).take 1) = [symbol a, symbol b, padding, padding] := by
  have high : (a * 4 + b / 16) / 4 = a := by omega
  have low : (a * 4 + b / 16) % 4 * 16 = b := by omega
  simp only [tripleOf, List.take_succ_cons, List.take_zero, encode, toNat_upper smallA smallB,
    high, low]

include smallA smallB smallC in
theorem encode_tripleOf_two (spare : c % 4 = 0) :
    encode ((tripleOf a b c d).take 2) = [symbol a, symbol b, symbol c, padding] := by
  have high : (a * 4 + b / 16) / 4 = a := by omega
  have middle : (a * 4 + b / 16) % 4 * 16 + (b % 16 * 16 + c / 4) / 16 = b := by omega
  have low : (b % 16 * 16 + c / 4) % 16 * 4 = c := by omega
  simp only [tripleOf, List.take_succ_cons, List.take_zero, encode, toNat_upper smallA smallB,
    toNat_middle smallC, high, middle, low]

include smallA smallB smallC smallD in
theorem encode_tripleOf (rest : List UInt8) :
    encode (tripleOf a b c d ++ rest) =
      symbol a :: symbol b :: symbol c :: symbol d :: encode rest := by
  have sextetA : (a * 4 + b / 16) / 4 = a := by omega
  have sextetB : (a * 4 + b / 16) % 4 * 16 + (b % 16 * 16 + c / 4) / 16 = b := by omega
  have sextetC : (b % 16 * 16 + c / 4) % 16 * 4 + (c % 4 * 64 + d) / 64 = c := by omega
  have sextetD : (c % 4 * 64 + d) % 64 = d := by omega
  simp only [tripleOf, List.cons_append, List.nil_append, encode, toNat_upper smallA smallB,
    toNat_middle smallC, toNat_lower smallD, sextetA, sextetB, sextetC, sextetD]

end Triples

/-- Four symbols that are read are those of the bytes they are read as. -/
theorem encode_of_quad? {a b c d : UInt8} {bytes : List UInt8} (read : quad? a b c d = some bytes)
    (rest : List UInt8) : encode (bytes ++ rest) = a :: b :: c :: d :: encode rest := by
  simp only [quad?, Option.bind_eq_bind, Option.bind_eq_some_iff] at read
  obtain ⟨m, valueA, n, valueB, o, valueC, p, valueD, result⟩ := read
  obtain ⟨rfl, smallA⟩ := symbol_of_bits? valueA
  obtain ⟨rfl, smallB⟩ := symbol_of_bits? valueB
  obtain ⟨rfl, smallC⟩ := symbol_of_bits? valueC
  obtain ⟨rfl, smallD⟩ := symbol_of_bits? valueD
  cases result
  exact encode_tripleOf smallA smallB smallC smallD rest

/-- What a last group is taken for: symbols of the alphabet and the padding behind them. -/
theorem padded_of_lastSymbols {offset pads : Nat} {group symbols : List UInt8}
    (read : lastSymbols offset group = .ok (symbols, pads)) :
    group = symbols ++ List.replicate pads padding ∧ ∀ s ∈ symbols, (bits? s).isSome = true := by
  have parts := List.takeWhile_append_dropWhile (p := (· ≠ padding)) (l := group)
  have rest : group.drop (group.takeWhile (· ≠ padding)).length =
      group.dropWhile (· ≠ padding) := by
    have behind := congrArg (List.drop (group.takeWhile (· ≠ padding)).length) parts
    rwa [List.drop_left, eq_comm] at behind
  simp only [lastSymbols, rest] at read
  split at read
  · cases read
  · rename_i inside
    split at read
    · rename_i ends
      cases read
      refine ⟨?_, (firstForeign_eq_none_iff offset).mp inside⟩
      have all : ∀ s ∈ group.dropWhile (· ≠ padding), s = padding := by
        rcases ends with none | ⟨_, all⟩
        · rw [List.isEmpty_iff.mp none]
          exact nofun
        · simpa using all
      rw [← List.eq_replicate_of_mem all, parts]
    · cases read

/-- The six bits of a symbol by its place, zero behind the last symbol. -/
def sextet (symbols : List UInt8) (i : Nat) : Nat :=
  (symbols[i]?.bind bits?).getD 0

/-- A last group as it is read: it fills four places, and bits that no byte takes are zero. -/
structure Complete (symbols : List UInt8) (pads : Nat) (bytes : List UInt8) : Prop where
  several : symbols.length ≠ 1
  empty : symbols.length = 0 → pads = 0
  filled : (symbols.length + pads) % 4 = 0
  spareTwo : symbols.length = 2 → sextet symbols 1 % 16 = 0
  spareThree : symbols.length = 3 → sextet symbols 2 % 4 = 0
  bytes_eq : bytes =
    (tripleOf (sextet symbols 0) (sextet symbols 1) (sextet symbols 2) (sextet symbols 3)).take
      (symbols.length * 3 / 4)

theorem complete_of_lastGroup {offset : Nat} {group bytes : List UInt8}
    (read : lastGroup offset group = .ok bytes) :
    ∃ symbols pads,
      lastSymbols offset group = .ok (symbols, pads) ∧ Complete symbols pads bytes := by
  obtain ⟨⟨symbols, pads⟩, symbolic, read⟩ := bind_ok read
  refine ⟨symbols, pads, symbolic, ?_⟩
  simp only at read
  split at read
  · cases read
  rename_i several
  split at read
  · cases read
  rename_i filled
  split at read
  · cases read
  rename_i spare
  rw [not_or] at several spare
  exact {
    several := several.1
    empty := fun none => not_not.mp fun some => several.2 ⟨none, some⟩
    filled := not_not.mp filled
    spareTwo := fun two => not_not.mp fun some => spare.1 ⟨two, some⟩
    spareThree := fun three => not_not.mp fun some => spare.2 ⟨three, some⟩
    bytes_eq := (Except.ok.inj read).symm }

theorem sextet_lt (symbols : List UInt8) (i : Nat) : sextet symbols i < 64 := by
  rw [sextet]
  cases value : symbols[i]?.bind bits? with
  | none => decide
  | some n =>
    obtain ⟨s, _, read⟩ := Option.bind_eq_some_iff.mp value
    exact (symbol_of_bits? read).2

theorem eq_map_sextet {symbols : List UInt8} (known : ∀ s ∈ symbols, (bits? s).isSome = true) :
    symbols = (List.range symbols.length).map fun i => symbol (sextet symbols i) := by
  refine List.ext_getElem (by simp) fun i inside _ => ?_
  obtain ⟨n, value⟩ := Option.isSome_iff_exists.mp (known _ (List.getElem_mem inside))
  have here : sextet symbols i = n := by
    rw [sextet, List.getElem?_eq_getElem inside, Option.bind_some, value, Option.getD_some]
  rw [List.getElem_map, List.getElem_range, here]
  exact (symbol_of_bits? value).1

/-- A last group that is read is that of the bytes it is read as. -/
theorem eq_encode_of_lastGroup {offset : Nat} {group bytes : List UInt8} (short : group.length ≤ 4)
    (read : lastGroup offset group = .ok bytes) : group = encode bytes := by
  obtain ⟨symbols, pads, symbolic, complete⟩ := complete_of_lastGroup read
  obtain ⟨padded, known⟩ := padded_of_lastSymbols symbolic
  have total : symbols.length + pads ≤ 4 := by simpa [padded] using short
  have filled := complete.filled
  have small := sextet_lt symbols
  have spelled := eq_map_sextet known
  rw [padded, complete.bytes_eq]
  have places : symbols.length = 0 ∧ pads = 0 ∨ symbols.length = 2 ∧ pads = 2 ∨
      symbols.length = 3 ∧ pads = 1 ∨ symbols.length = 4 ∧ pads = 0 := by
    have several := complete.several
    have empty := complete.empty
    omega
  rcases places with ⟨count, rfl⟩ | ⟨count, rfl⟩ | ⟨count, rfl⟩ | ⟨count, rfl⟩
  · rw [List.length_eq_zero_iff.mp count]
    rfl
  · rw [count] at spelled ⊢
    rw [encode_tripleOf_one (small 0) (small 1) (complete.spareTwo count)]
    conv_lhs => rw [spelled]
    rfl
  · rw [count] at spelled ⊢
    rw [encode_tripleOf_two (small 0) (small 1) (small 2) (complete.spareThree count)]
    conv_lhs => rw [spelled]
    rfl
  · rw [count] at spelled ⊢
    have whole := encode_tripleOf (small 0) (small 1) (small 2) (small 3) []
    rw [List.append_nil] at whole
    conv_lhs => rw [spelled]
    exact whole.symm

/-- Nothing is read but what the encoder writes. -/
theorem eq_encode_of_decodeGroups {offset : Nat} {text bytes : List UInt8}
    (read : decodeGroups offset text = .ok bytes) : text = encode bytes := by
  induction offset, text using decodeGroups.induct generalizing bytes with
  | case1 offset a b c d e rest group quad ih =>
    rw [decodeGroups, quad] at read
    obtain ⟨more, later, rfl⟩ := map_ok read
    rw [encode_of_quad? quad, ← ih later]
  | case2 offset a b c d e rest quad byte place foreign =>
    simp only [decodeGroups, quad, foreign] at read
    cases read
  | case3 offset a b c d e rest quad none =>
    simp only [decodeGroups, quad, none] at read
    cases read
  | case4 offset group last =>
    have short : group.length ≤ 4 := by
      match group with
      | [] | [_] | [_, _] | [_, _, _] | [_, _, _, _] => simp
      | a :: b :: c :: d :: e :: rest => exact absurd rfl (last a b c d e rest)
    rw [decodeGroups] at read
    · exact eq_encode_of_lastGroup short read
    · exact last

/-- The decoder takes exactly the texts of the encoder. -/
theorem decode_eq_ok_iff {text bytes : List UInt8} :
    decode text = .ok bytes ↔ text = encode bytes := by
  refine ⟨fun read => ?_, fun same => same ▸ decode_encode bytes⟩
  rw [decode] at read
  split at read
  · split at read
    · cases read
    · exact eq_encode_of_decodeGroups read
  · rename_i noLast
    cases read
    exact List.getLast?_eq_none_iff.mp noLast

section Standard

/-- The symbols in the order of the numbers that they stand for. -/
def alphabet : List Char :=
  "ABCDEFGHIJKLMNOPQRSTUVWXYZabcdefghijklmnopqrstuvwxyz0123456789+/".toList

/-- The number that digits spell, the highest digit first. -/
def number (base : Nat) (digits : List Nat) : Nat :=
  digits.foldl (fun n d => n * base + d) 0

/-- A text that spells bytes in base 64. Its digits are those of the number that the bytes spell in
base 256, behind which fewer than six zero bits fill up the last digit, and padding fills up the
last group of four. -/
structure SpelledBy (digits : List Nat) (spare pads : Nat) (text : List Char) (bytes : List UInt8) :
    Prop where
  small : ∀ d ∈ digits, d < 64
  bits : digits.length * 6 = bytes.length * 8 + spare
  spare_lt : spare < 6
  groups : (digits.length + pads) % 4 = 0
  pads_lt : pads < 4
  number_eq : number 64 digits = number 256 (bytes.map UInt8.toNat) * 2 ^ spare
  text_eq : text = digits.map (fun d => alphabet.getD d '=') ++ List.replicate pads '='

def Spells (text : List Char) (bytes : List UInt8) : Prop :=
  ∃ digits spare pads, SpelledBy digits spare pads text bytes

variable {text other : List Char} {bytes : List UInt8}

theorem number_eq_ofDigits (base : Nat) (digits : List Nat) :
    number base digits = Nat.ofDigits base digits.reverse := by
  rw [Nat.ofDigits_eq_foldr, List.foldr_reverse, number]
  simp only [Nat.cast_id, Nat.mul_comm base, Nat.add_comm]

theorem number_append (base : Nat) (digits more : List Nat) :
    number base (digits ++ more) = number base digits * base ^ more.length + number base more := by
  simp only [number_eq_ofDigits]
  rw [List.reverse_append, Nat.ofDigits_append, List.length_reverse, Nat.add_comm, Nat.mul_comm]

/-- Bytes are spelled in one way only. -/
theorem Spells.unique (spells : Spells text bytes) (spellsOther : Spells other bytes) :
    text = other := by
  obtain ⟨digits, spare, pads, spelled⟩ := spells
  obtain ⟨digits', spare', pads', spelled'⟩ := spellsOther
  have bits := spelled.bits
  have bits' := spelled'.bits
  have few := spelled.spare_lt
  have few' := spelled'.spare_lt
  have length : digits.length = digits'.length := by omega
  have sameSpare : spare = spare' := by omega
  have samePads : pads = pads' := by
    have groups := spelled.groups
    have groups' := spelled'.groups
    have fewPads := spelled.pads_lt
    have fewPads' := spelled'.pads_lt
    omega
  have numbers : number 64 digits = number 64 digits' := by
    rw [spelled.number_eq, spelled'.number_eq, sameSpare]
  rw [number_eq_ofDigits, number_eq_ofDigits] at numbers
  have same : digits = digits' := by
    refine List.reverse_injective (Nat.ofDigits_inj_of_len_eq (by decide) ?_ ?_ ?_ numbers)
    · rw [List.length_reverse, List.length_reverse, length]
    · exact fun d member => spelled.small d (List.mem_reverse.mp member)
    · exact fun d member => spelled'.small d (List.mem_reverse.mp member)
  rw [spelled.text_eq, spelled'.text_eq, same, samePads]

theorem symbol_eq {n : Nat} (small : n < 64) :
    Char.ofNat (symbol n).toNat = alphabet.getD n '=' := by
  have each : ∀ n < 64, Char.ofNat (symbol n).toNat = alphabet.getD n '=' := by decide +kernel
  exact each n small

theorem char_padding : Char.ofNat padding.toNat = '=' := by
  decide

/-- Whole groups of four are spelled before what follows them. -/
theorem SpelledBy.append {front digits : List Nat} {spare pads : Nat} {first : List UInt8}
    (before : SpelledBy front 0 0 other first) (after : SpelledBy digits spare pads text bytes) :
    SpelledBy (front ++ digits) spare pads (other ++ text) (first ++ bytes) where
  small := List.forall_mem_append.mpr ⟨before.small, after.small⟩
  bits := by
    have bitsBefore := before.bits
    have bitsAfter := after.bits
    rw [List.length_append, List.length_append]
    omega
  spare_lt := after.spare_lt
  groups := by
    have groupsBefore := before.groups
    have groupsAfter := after.groups
    rw [List.length_append]
    omega
  pads_lt := after.pads_lt
  number_eq := by
    have shift : 64 ^ digits.length = 256 ^ bytes.length * 2 ^ spare := by
      have base64 : 64 ^ digits.length = 2 ^ (digits.length * 6) := by
        rw [Nat.mul_comm, Nat.pow_mul]
      have base256 : 256 ^ bytes.length = 2 ^ (bytes.length * 8) := by
        rw [Nat.mul_comm, Nat.pow_mul]
      rw [base64, base256, ← Nat.pow_add, after.bits]
    rw [number_append, List.map_append, number_append, List.length_map, after.number_eq,
      before.number_eq, shift]
    ring
  text_eq := by
    have plain := before.text_eq
    rw [List.replicate_zero, List.append_nil] at plain
    rw [after.text_eq, plain, List.map_append, List.append_assoc]

theorem spelledBy_one (a : UInt8) :
    SpelledBy [a.toNat / 4, a.toNat % 4 * 16] 4 2 ((encode [a]).map fun b => Char.ofNat b.toNat)
      [a] := by
  have bound := a.toNat_lt
  have first : a.toNat / 4 < 64 := by omega
  have second : a.toNat % 4 * 16 < 64 := by omega
  refine ⟨?_, rfl, by decide, by simp, by decide, ?_, ?_⟩
  · simp [first, second]
  · simp only [number, List.map, List.foldl]
    omega
  · simp [encode, symbol_eq first, symbol_eq second, char_padding]

theorem spelledBy_two (a b : UInt8) :
    SpelledBy [a.toNat / 4, a.toNat % 4 * 16 + b.toNat / 16, b.toNat % 16 * 4] 2 1
      ((encode [a, b]).map fun b => Char.ofNat b.toNat) [a, b] := by
  obtain ⟨first, second, third, _⟩ := sextets a b 0
  rw [UInt8.toNat_zero, Nat.zero_div, Nat.add_zero] at third
  refine ⟨?_, rfl, by decide, by simp, by decide, ?_, ?_⟩
  · simp [first, second, third]
  · simp only [number, List.map, List.foldl]
    omega
  · simp [encode, symbol_eq first, symbol_eq second, symbol_eq third, char_padding]

theorem spelledBy_three (a b c : UInt8) :
    SpelledBy [a.toNat / 4, a.toNat % 4 * 16 + b.toNat / 16, b.toNat % 16 * 4 + c.toNat / 64,
      c.toNat % 64] 0 0 ((encode [a, b, c]).map fun b => Char.ofNat b.toNat) [a, b, c] := by
  obtain ⟨first, second, third, fourth⟩ := sextets a b c
  refine ⟨?_, rfl, by decide, by simp, by decide, ?_, ?_⟩
  · simp [first, second, third, fourth]
  · simp only [number, List.map, List.foldl]
    omega
  · simp [encode, symbol_eq first, symbol_eq second, symbol_eq third, symbol_eq fourth]

/-- The encoder's texts spell its bytes. -/
theorem spells_encode (bytes : List UInt8) :
    Spells ((encode bytes).map fun b => Char.ofNat b.toNat) bytes := by
  induction bytes using encode.induct with
  | case1 => exact ⟨[], 0, 0, by simp, rfl, by decide, rfl, by decide, rfl, rfl⟩
  | case2 a => exact ⟨_, _, _, spelledBy_one a⟩
  | case3 a b => exact ⟨_, _, _, spelledBy_two a b⟩
  | case4 a b c rest ih =>
    obtain ⟨digits, spare, pads, spelled⟩ := ih
    exact ⟨_, spare, pads, (spelledBy_three a b c).append spelled⟩

end Standard

end ScannerConfig.Base64
