import Mathlib.Data.List.DropRight
import ScannerConfig.Proofs.Equality
import ScannerConfig.Proofs.Nesting
import ScannerConfig.Proofs.Overlay
import ScannerConfig.Proofs.StringText

namespace ScannerConfig.Json.Parser

variable {limit depth fuel level : Nat} {layout : Layout} {rest : List UInt8}

def textBytes (layout : Layout) (level : Nat) (value : Json) : List UInt8 :=
  Utf8.encode (chars layout level value)

def lineBytes (layout : Layout) (level : Nat) : List UInt8 :=
  Utf8.encode (layout.line level)

/-- A byte with which the text of a value can start. -/
def IsStart (b : UInt8) : Prop :=
  isDigit b = true ∨ b ∈ [0x6E, 0x74, 0x66, 0x2D, 0x22, 0x5B, 0x7B]

theorem IsStart.different {b c : UInt8} (start : IsStart b) (noDigit : isDigit c = false)
    (other : c ∉ [0x6E, 0x74, 0x66, 0x2D, 0x22, 0x5B, 0x7B]) : b ≠ c := by
  rintro rfl
  rcases start with digit | listed
  · rw [noDigit] at digit
    exact Bool.noConfusion digit
  · exact other listed

theorem IsStart.isSpace {b : UInt8} (start : IsStart b) : isSpace b = false := by
  have different := fun {c : UInt8} => start.different (c := c)
  simp [Parser.isSpace, different (by decide : isDigit 0x20 = false) (by decide),
    different (by decide : isDigit 0x0A = false) (by decide),
    different (by decide : isDigit 0x09 = false) (by decide),
    different (by decide : isDigit 0x0D = false) (by decide)]

theorem skipSpace_cons {b : UInt8} (noSpace : isSpace b = false) :
    skipSpace (b :: rest) = b :: rest := by
  simp [skipSpace, noSpace]

theorem encode_spaces (n : Nat) : Utf8.encode (List.replicate n ' ') = List.replicate n 0x20 := by
  induction n with
  | zero => rfl
  | succ n ih =>
    rw [List.replicate_succ, Utf8.encode_cons, ih, List.replicate_succ]
    rfl

theorem skipSpace_line (layout : Layout) (level : Nat) (rest : List UInt8) :
    skipSpace (lineBytes layout level ++ rest) = skipSpace rest := by
  cases layout with
  | compact => rfl
  | indented =>
    refine List.dropWhile_append_of_pos fun b member => ?_
    rw [lineBytes, Layout.line, Utf8.encode_cons, encode_spaces] at member
    rcases List.mem_append.mp member with line | space
    · rw [List.mem_singleton.mp line]
      decide
    · rw [(List.mem_replicate.mp space).2]
      decide

/-- Space in front of a value is passed over. -/
theorem value_skipSpace (limit depth : Nat) (bytes : List UInt8) :
    value limit depth (skipSpace bytes) = value limit depth bytes := by
  have again : skipSpace (skipSpace bytes) = skipSpace bytes := List.dropWhile_idempotent _ _
  rw [value, again, ← value]

theorem endsNumber_cons {b : UInt8} (noDigit : isDigit b = false) (noPoint : b ≠ 0x2E)
    (noExponent : b ≠ 0x65) (noCapital : b ≠ 0x45) : EndsNumber (b :: rest) := by
  rintro c first
  cases first
  exact ⟨noDigit, noPoint, noExponent, noCapital⟩

theorem endsNumber_line {b : UInt8} (ends : EndsNumber (b :: rest)) (layout : Layout)
    (level : Nat) : EndsNumber (lineBytes layout level ++ b :: rest) := by
  cases layout with
  | compact => exact ends
  | indented => exact endsNumber_cons (by decide) (by decide) (by decide) (by decide)

section Lists

variable {text : List UInt8} {found : Json}

/-- What stands in front of an item or entry: nothing in front of the first one. -/
def separated (first : Bool) (bytes : List UInt8) : List UInt8 :=
  if first then bytes else 0x2C :: bytes

/-- One item of a list, between its separator and whatever follows. -/
theorem items_step {first : Bool} {b : UInt8} {body left : List UInt8} {more : List Json}
    (start : IsStart b) (read : value limit depth (b :: (body ++ rest)) = .ok (found, rest))
    (later : items (value limit depth) fuel false rest = .ok (more, left)) :
    items (value limit depth) (fuel + 1) first
      (separated first (lineBytes layout level ++ b :: (body ++ rest))) = .ok (found :: more, left) := by
  have noSpace : skipSpace (b :: (body ++ rest)) = b :: (body ++ rest) :=
    skipSpace_cons start.isSpace
  have noEnd : b ≠ 0x5D := start.different (by decide) (by decide)
  cases first with
  | true =>
    simp [separated, items, skipSpace_line, noSpace, noEnd, read, later, bind, Except.bind, pure,
      Except.pure]
  | false =>
    have comma : ∀ bytes, skipSpace (0x2C :: bytes) = 0x2C :: bytes := fun _ =>
      skipSpace_cons (by decide)
    simp [separated, items, comma, skipSpace_line, noSpace, noEnd, read, later, bind, Except.bind,
      pure, Except.pure]

def colonBytes (layout : Layout) : List UInt8 :=
  Utf8.encode layout.colon

theorem value_colon (limit depth : Nat) (layout : Layout) (bytes : List UInt8) :
    ∃ behind, colonBytes layout ++ bytes = 0x3A :: behind ∧
      value limit depth behind = value limit depth bytes := by
  cases layout with
  | compact => exact ⟨bytes, rfl, rfl⟩
  | indented =>
    have space : skipSpace (0x20 :: bytes) = skipSpace bytes := rfl
    refine ⟨0x20 :: bytes, rfl, ?_⟩
    rw [← value_skipSpace, space, value_skipSpace]

theorem member_text {key : String} (layout : Layout)
    (enough : (quotedTail key ++ (colonBytes layout ++ (text ++ rest))).length < limit)
    (read : value limit depth (text ++ rest) = .ok (found, rest)) :
    member limit (value limit depth) (quotedTail key ++ (colonBytes layout ++ (text ++ rest))) =
      .ok ((key, found), rest) := by
  obtain ⟨behind, colon, same⟩ := value_colon limit depth layout (text ++ rest)
  have noSpace : skipSpace (0x3A :: behind) = 0x3A :: behind := skipSpace_cons (by decide)
  rw [member, stringText_quotedTail enough, colon]
  simp [noSpace, same, read, bind, Except.bind, pure, Except.pure]

/-- One entry of an object, between its separator and whatever follows. -/
theorem members_step {first : Bool} {key : String} {left : List UInt8}
    {more : List (String × Json)}
    (enough : (quotedTail key ++ (colonBytes layout ++ (text ++ rest))).length < limit)
    (read : value limit depth (text ++ rest) = .ok (found, rest))
    (later : members limit (value limit depth) fuel false rest = .ok (more, left)) :
    members limit (value limit depth) (fuel + 1) first
      (separated first (lineBytes layout level ++
        0x22 :: (quotedTail key ++ (colonBytes layout ++ (text ++ rest))))) =
      .ok ((key, found) :: more, left) := by
  have entry := member_text layout enough read
  have quote : ∀ bytes, skipSpace (0x22 :: bytes) = 0x22 :: bytes := fun _ =>
    skipSpace_cons (by decide)
  cases first with
  | true =>
    simp [separated, members, skipSpace_line, quote, entry, later, bind, Except.bind, pure,
      Except.pure]
  | false =>
    have comma : ∀ bytes, skipSpace (0x2C :: bytes) = 0x2C :: bytes := fun _ =>
      skipSpace_cons (by decide)
    simp [separated, members, comma, skipSpace_line, quote, entry, later, bind, Except.bind, pure,
      Except.pure]

end Lists

section Values

/-- The reader takes the text of a value and leaves what stands behind it, as long as there are
levels of nesting and steps enough. -/
def ReadsBack (layout : Layout) (found : Json) : Prop :=
  ∀ limit depth level rest, found.depth ≤ depth → EndsNumber rest →
    (textBytes layout level found ++ rest).length < limit →
    value limit depth (textBytes layout level found ++ rest) = .ok (found, rest)

def itemBytes (layout : Layout) (level : Nat) (items : List Json) : List UInt8 :=
  Utf8.encode (itemChars layout level items)

def entryBytes (layout : Layout) (level : Nat) (entries : List (String × Json)) : List UInt8 :=
  Utf8.encode (entryChars layout level entries)

theorem textBytes_array (layout : Layout) (level : Nat) (item : Json) (items : List Json) :
    textBytes layout level (.array (item :: items)) =
      0x5B :: (itemBytes layout (level + 1) (item :: items) ++ (lineBytes layout level ++ [0x5D])) := by
  rw [textBytes, chars, List.append_assoc, List.cons_append, Utf8.encode_cons, Utf8.encode_append,
    Utf8.encode_append]
  rfl

theorem textBytes_object (layout : Layout) (level : Nat) (entry : String × Json)
    (entries : List (String × Json)) :
    textBytes layout level (.object (entry :: entries)) =
      0x7B :: (entryBytes layout (level + 1) (entry :: entries) ++
        (lineBytes layout level ++ [0x7D])) := by
  rw [textBytes, chars, List.append_assoc, List.cons_append, Utf8.encode_cons, Utf8.encode_append,
    Utf8.encode_append]
  rfl

/-- An item with the line break in front of it. -/
def itemFront (layout : Layout) (level : Nat) (item : Json) : List UInt8 :=
  lineBytes layout level ++ textBytes layout level item

/-- An entry with the line break in front of it. -/
def entryFront (layout : Layout) (level : Nat) (entry : String × Json) : List UInt8 :=
  lineBytes layout level ++ 0x22 :: (quotedTail entry.1 ++ (colonBytes layout ++
    textBytes layout level entry.2))

theorem itemBytes_cons (layout : Layout) (level : Nat) (item : Json) (items : List Json) :
    itemBytes layout level (item :: items) =
      itemFront layout level item ++
        if items = [] then [] else 0x2C :: itemBytes layout level items := by
  cases items with
  | nil => simp [itemBytes, itemChars, itemFront, lineBytes, textBytes]
  | cons next items =>
    rw [if_neg (List.cons_ne_nil _ _)]
    simp only [itemBytes, itemChars, itemFront, lineBytes, textBytes, Utf8.encode_append,
      Utf8.encode_cons]
    rfl

theorem entryBytes_cons (layout : Layout) (level : Nat) (entry : String × Json)
    (entries : List (String × Json)) :
    entryBytes layout level (entry :: entries) =
      entryFront layout level entry ++
        if entries = [] then [] else 0x2C :: entryBytes layout level entries := by
  obtain ⟨key, found⟩ := entry
  have quoted : ∀ bytes, 0x22 :: (quotedTail key ++ bytes) =
      Utf8.encode (stringChars key) ++ bytes := by
    intro bytes
    rw [encode_stringChars, List.cons_append]
  rw [entryFront, quoted]
  cases entries with
  | nil => simp [entryBytes, entryChars, lineBytes, textBytes, colonBytes]
  | cons next entries =>
    rw [if_neg (List.cons_ne_nil _ _)]
    simp only [entryBytes, entryChars, lineBytes, textBytes, colonBytes, Utf8.encode_append,
      Utf8.encode_cons, List.append_assoc]
    rfl

theorem starts_number {n : Number} (integer : n.isInteger = true) :
    ∃ b body, Utf8.encode n.chars = b :: body ∧ IsStart b := by
  obtain ⟨negative, digits, same, _⟩ := integer_text integer
  obtain ⟨d, more, bound, head, _⟩ := digitBytes_head digits
  rw [same, head]
  cases negative with
  | true => exact ⟨0x2D, _, rfl, .inr (by decide)⟩
  | false => exact ⟨digitByte d, more, rfl, .inl (isDigit_digitByte bound)⟩

theorem starts_value {found : Json} (integral : found.integral = true) (layout : Layout)
    (level : Nat) : ∃ b body, textBytes layout level found = b :: body ∧ IsStart b := by
  cases found with
  | null => exact ⟨0x6E, _, rfl, .inr (by decide)⟩
  | bool b => cases b <;> exact ⟨_, _, rfl, .inr (by decide)⟩
  | number n => exact starts_number integral
  | string text => exact ⟨0x22, _, encode_stringChars text, .inr (by decide)⟩
  | array items =>
    cases items with
    | nil => exact ⟨0x5B, _, rfl, .inr (by decide)⟩
    | cons item items => exact ⟨0x5B, _, textBytes_array layout level item items, .inr (by decide)⟩
  | object entries =>
    cases entries with
    | nil => exact ⟨0x7B, _, rfl, .inr (by decide)⟩
    | cons entry entries =>
      exact ⟨0x7B, _, textBytes_object layout level entry entries, .inr (by decide)⟩

theorem readsBack_number {n : Number} (integer : n.isInteger = true) :
    ReadsBack layout (.number n) := by
  intro limit depth level rest _ ends _
  obtain ⟨negative, digits, same, read⟩ := integer_text integer
  have text : textBytes layout level (.number n) = signBytes negative ++ digitBytes digits := same
  rw [text, List.append_assoc]
  have behind := read rest ends
  cases negative with
  | true =>
    have sign : skipSpace (signBytes true ++ (digitBytes digits ++ rest)) =
        0x2D :: (digitBytes digits ++ rest) := skipSpace_cons (by decide)
    rw [value, sign]
    simp [behind, bind, Except.bind, pure, Except.pure]
  | false =>
    obtain ⟨d, more, bound, head, _⟩ := digitBytes_head digits
    have digit := isDigit_digitByte bound
    have others : ∀ d < 10, digitByte d ≠ 0x6E ∧ digitByte d ≠ 0x74 ∧ digitByte d ≠ 0x66 ∧
        digitByte d ≠ 0x2D := by decide
    obtain ⟨noNull, noTrue, noFalse, noSign⟩ := others d bound
    rw [head, List.cons_append] at behind
    have first : skipSpace (signBytes false ++ (digitBytes digits ++ rest)) =
        digitByte d :: (more ++ rest) := by
      rw [head]
      exact skipSpace_cons (IsStart.isSpace (.inl digit))
    rw [value, first]
    simp [noNull, noTrue, noFalse, noSign, digit, behind, bind, Except.bind, pure, Except.pure]

theorem readsBack_string (text : String) : ReadsBack layout (.string text) := by
  intro limit depth level rest _ _ enough
  have written : textBytes layout level (.string text) = 0x22 :: quotedTail text :=
    encode_stringChars text
  rw [written, List.cons_append] at enough ⊢
  have read : stringText limit (quotedTail text ++ rest) = .ok (text, rest) :=
    stringText_quotedTail (by rw [List.length_cons] at enough; omega)
  have quote : skipSpace (0x22 :: (quotedTail text ++ rest)) = 0x22 :: (quotedTail text ++ rest) :=
    skipSpace_cons (by decide)
  rw [value, quote]
  simp [read, bind, Except.bind, pure, Except.pure, isDigit]

/-- What stands behind an item is the next item or the end of the list. -/
theorem endsNumber_behind {next tail : List UInt8} (ends : EndsNumber tail) (last : Prop)
    [Decidable last] : EndsNumber ((if last then [] else 0x2C :: next) ++ tail) := by
  split
  · exact ends
  · exact endsNumber_cons (by decide) (by decide) (by decide) (by decide)

/-- A reader that takes one part after another takes a text of separated parts. -/
theorem reads_separated {α : Type} {reader : Nat → Bool → List UInt8 → Except Stop (List α × List UInt8)}
    {front : α → List UInt8} {text : List α → List UInt8} {tail : List UInt8} {found : List α}
    (first : Bool) (some : found ≠ []) (ends : EndsNumber tail)
    (written : ∀ part parts, text (part :: parts) =
      front part ++ if parts = [] then [] else 0x2C :: text parts)
    (close : ∀ fuel, 0 < fuel → reader fuel false tail = .ok ([], rest))
    (step : ∀ part ∈ found, front part ≠ [] ∧ ∀ first fuel behind more left, EndsNumber behind →
      (front part ++ behind).length < limit → reader fuel false behind = .ok (more, left) →
      reader (fuel + 1) first (separated first (front part ++ behind)) = .ok (part :: more, left))
    (enough : (text found ++ tail).length < fuel) (within : fuel ≤ limit) :
    reader fuel first (separated first (text found ++ tail)) = .ok (found, rest) := by
  induction found generalizing first fuel with
  | nil => exact absurd rfl some
  | cons part parts ih =>
    obtain ⟨⟨notEmpty, takes⟩, stepLater⟩ := List.forall_mem_cons.mp step
    have long := List.length_pos_of_ne_nil notEmpty
    cases fuel with
    | zero => omega
    | succ fuel =>
      rw [written, List.append_assoc] at enough ⊢
      rw [List.length_append] at enough
      refine takes first fuel _ parts rest (endsNumber_behind ends _)
        (by rw [List.length_append]; omega) ?_
      by_cases last : parts = []
      · rw [if_pos last, List.nil_append] at enough ⊢
        rw [last]
        exact close fuel (by omega)
      · rw [if_neg last, List.cons_append, List.length_cons] at enough
        rw [if_neg last, List.cons_append]
        exact ih false last stepLater (by omega) (by omega)

theorem items_close (some : 0 < fuel) (layout : Layout) (level : Nat) (first : Bool) :
    items (value limit depth) fuel first (lineBytes layout level ++ 0x5D :: rest) =
      .ok ([], rest) := by
  have close : skipSpace (0x5D :: rest) = 0x5D :: rest := skipSpace_cons (by decide)
  cases fuel with
  | zero => omega
  | succ fuel => simp [items, skipSpace_line, close]

theorem members_close (some : 0 < fuel) (layout : Layout) (level : Nat) (first : Bool) :
    members limit (value limit depth) fuel first (lineBytes layout level ++ 0x7D :: rest) =
      .ok ([], rest) := by
  have close : skipSpace (0x7D :: rest) = 0x7D :: rest := skipSpace_cons (by decide)
  cases fuel with
  | zero => omega
  | succ fuel => simp [members, skipSpace_line, close]

theorem value_list {bytes left : List UInt8} {found : List Json}
    (read : items (value limit depth) limit true bytes = .ok (found, left)) :
    value limit (depth + 1) (0x5B :: bytes) = .ok (.array found, left) := by
  have opening : skipSpace (0x5B :: bytes) = 0x5B :: bytes := skipSpace_cons (by decide)
  rw [value, opening]
  simp [read, isDigit, bind, Except.bind, pure, Except.pure]

theorem value_record {bytes left : List UInt8} {found : List (String × Json)}
    (read : members limit (value limit depth) limit true bytes = .ok (found, left)) :
    value limit (depth + 1) (0x7B :: bytes) = .ok (.object (Entries.ofList found), left) := by
  have opening : skipSpace (0x7B :: bytes) = 0x7B :: bytes := skipSpace_cons (by decide)
  rw [value, opening]
  simp [read, isDigit, bind, Except.bind, pure, Except.pure]

theorem ReadsBack.item {item : Json} (reads : ReadsBack layout item)
    (integral : item.integral = true) (shallow : item.depth ≤ depth) (first : Bool)
    {behind left : List UInt8} {more : List Json} (ends : EndsNumber behind)
    (enough : (itemFront layout level item ++ behind).length < limit)
    (later : items (value limit depth) fuel false behind = .ok (more, left)) :
    items (value limit depth) (fuel + 1) first
      (separated first (itemFront layout level item ++ behind)) = .ok (item :: more, left) := by
  obtain ⟨b, body, starts, start⟩ := starts_value integral layout level
  have read := reads limit depth level behind shallow ends (by
    simp only [itemFront, List.length_append] at enough ⊢
    omega)
  rw [starts, List.cons_append] at read
  rw [itemFront, starts, List.append_assoc, List.cons_append]
  exact items_step start read later

theorem ReadsBack.entry {key : String} {found : Json} (reads : ReadsBack layout found)
    (shallow : found.depth ≤ depth) (first : Bool) {behind left : List UInt8}
    {more : List (String × Json)} (ends : EndsNumber behind)
    (enough : (entryFront layout level (key, found) ++ behind).length < limit)
    (later : members limit (value limit depth) fuel false behind = .ok (more, left)) :
    members limit (value limit depth) (fuel + 1) first
      (separated first (entryFront layout level (key, found) ++ behind)) =
        .ok ((key, found) :: more, left) := by
  simp only [entryFront, List.append_assoc, List.cons_append, List.length_append,
    List.length_cons] at enough ⊢
  have read := reads limit depth level behind shallow ends (by
    rw [List.length_append]
    omega)
  exact members_step (by simp only [List.length_append]; omega) read later

theorem readsBack_array {found : List Json} (integral : ∀ item ∈ found, item.integral = true)
    (each : ∀ item ∈ found, ReadsBack layout item) : ReadsBack layout (.array found) := by
  intro limit depth level rest shallow ends enough
  cases depth with
  | zero => simp [Json.depth] at shallow
  | succ depth =>
    have shallowItems := depth_array_le.mp shallow
    cases found with
    | nil => exact value_list (items_close (by omega) .compact 0 true)
    | cons item found =>
      have text : textBytes layout level (.array (item :: found)) ++ rest =
          0x5B :: (itemBytes layout (level + 1) (item :: found) ++
            (lineBytes layout level ++ 0x5D :: rest)) := by
        rw [textBytes_array]
        simp
      rw [text] at enough ⊢
      rw [List.length_cons] at enough
      have tail : EndsNumber (lineBytes layout level ++ 0x5D :: rest) :=
        endsNumber_line (endsNumber_cons (by decide) (by decide) (by decide) (by decide)) _ _
      refine value_list (reads_separated true (List.cons_ne_nil _ _) tail (itemBytes_cons layout _)
        (fun _ some => items_close some _ _ false) (fun part member => ⟨?_, ?_⟩) (by omega) le_rfl)
      · obtain ⟨b, body, starts, _⟩ := starts_value (integral part member) layout (level + 1)
        simp [itemFront, starts]
      · intro first fuel behind more left
        exact (each part member).item (integral part member) (shallowItems part member) first

theorem readsBack_object {found : List (String × Json)} (distinct : Entries.Distinct found)
    (each : ∀ entry ∈ found, ReadsBack layout entry.2) : ReadsBack layout (.object found) := by
  intro limit depth level rest shallow ends enough
  have same := Entries.ofList_of_distinct distinct
  cases depth with
  | zero => simp [Json.depth] at shallow
  | succ depth =>
    have shallowEntries := depth_object_le.mp shallow
    cases found with
    | nil => exact value_record (members_close (by omega) .compact 0 true)
    | cons entry found =>
      have text : textBytes layout level (.object (entry :: found)) ++ rest =
          0x7B :: (entryBytes layout (level + 1) (entry :: found) ++
            (lineBytes layout level ++ 0x7D :: rest)) := by
        rw [textBytes_object]
        simp
      rw [text] at enough ⊢
      rw [List.length_cons] at enough
      have tail : EndsNumber (lineBytes layout level ++ 0x7D :: rest) :=
        endsNumber_line (endsNumber_cons (by decide) (by decide) (by decide) (by decide)) _ _
      have read : members limit (value limit depth) limit true
          (entryBytes layout (level + 1) (entry :: found) ++
            (lineBytes layout level ++ 0x7D :: rest)) = .ok (entry :: found, rest) :=
        reads_separated true (List.cons_ne_nil _ _) tail (entryBytes_cons layout _)
          (fun _ some => members_close some _ _ false) (fun part member => ⟨by simp [entryFront],
            fun first fuel behind more left =>
              (each part member).entry (shallowEntries part member) first⟩) (by omega) le_rfl
      have whole := value_record read
      rwa [same] at whole

/-- The reader takes what the printer writes, in either layout. -/
theorem readsBack {found : Json} (layout : Layout) (keyed : found.wellKeyed = true)
    (integral : found.integral = true) : ReadsBack layout found := by
  induction found using Json.nestedInduction with
  | null => exact fun _ _ _ _ _ _ _ => by rw [value]; rfl
  | bool b => cases b <;> exact fun _ _ _ _ _ _ _ => by rw [value]; rfl
  | number n => exact readsBack_number integral
  | string text => exact readsBack_string text
  | array items ih =>
    have inside := integral_array.mp integral
    exact readsBack_array inside fun item member =>
      ih item member (wellKeyed_array.mp keyed item member) (inside item member)
  | object entries ih =>
    have record := wellKeyed_object.mp keyed
    have inside := integral_object.mp integral
    exact readsBack_object record.distinct fun entry member =>
      ih entry member (record.value (Entries.get?_of_mem record.distinct member))
        (inside entry member)

end Values

end Parser

/-- A document of integers that is not nested too deep is read from its text as it was. -/
theorem parse_render (layout : Layout) {document : Json} (keyed : document.wellKeyed = true)
    (integral : document.integral = true) (shallow : document.depth ≤ Parser.maxDepth) :
    parse (Utf8.encode (document.render layout).toList) = .ok document := by
  have text : Utf8.encode (document.render layout).toList = Parser.textBytes layout 0 document := by
    rw [render, String.toList_ofList]
    rfl
  have ends : Parser.EndsNumber [] := nofun
  have read := Parser.readsBack layout keyed integral
    ((Parser.textBytes layout 0 document).length + 1) Parser.maxDepth 0 [] shallow ends (by simp)
  rw [List.append_nil] at read
  rw [text, parse, Parser.document, read]
  rfl

end ScannerConfig.Json
