import ScannerConfig.Preferences.Text
import ScannerConfig.Proofs.TomlText
import ScannerConfig.Toml.Document

namespace ScannerConfig.Toml

open Preferences (entryChars)

variable {cs rest more : List Char} {c : Char} {key name text : String} {lines : List Line}
  {sections : List Section}

/-- Whether a key needs no quotes. -/
def IsPlainKey (key : String) : Prop :=
  (!key.toList.isEmpty && key.toList.all isBareKey) = true

instance (key : String) : Decidable (IsPlainKey key) :=
  inferInstanceAs (Decidable (_ = true))

/-- Characters that may begin a line and are no part of what stands between lines. -/
structure BeginsLine (c : Char) : Prop where
  noBlank : isBlank c = false
  noComment : c ≠ '#'
  noLine : c ≠ '\n'
  noReturn : c ≠ '\r'

theorem beginsLine_bracket : BeginsLine '[' :=
  ⟨rfl, by decide, by decide, by decide⟩

theorem beginsLine_bare (bare : isBareKey c = true) : BeginsLine c := by
  have different : ∀ other, isBareKey other = false → c ≠ other := by
    rintro other noKey rfl
    exact absurd bare (by simp [noKey])
  refine ⟨?_, different _ rfl, different _ rfl, different _ rfl⟩
  have noSpace := different ' ' rfl
  have noTab := different '\t' rfl
  simp [isBlank, noSpace, noTab]

theorem skipBlanks_cons (begins : BeginsLine c) : skipBlanks (c :: rest) = c :: rest := by
  rw [skipBlanks, List.dropWhile_cons, begins.noBlank]
  rfl

theorem skipComment_cons (begins : BeginsLine c) : skipComment (c :: rest) = c :: rest := by
  unfold skipComment
  split
  · rename_i same
    exact absurd (List.cons.inj same).1 begins.noComment
  · rfl

theorem skipLines_cons (begins : BeginsLine c) (fuel : Nat) :
    skipLines fuel (c :: rest) = c :: rest := by
  cases fuel with
  | zero => rfl
  | succ fuel =>
    rw [skipLines, skipBlanks_cons begins, skipComment_cons begins,
      newline?_cons begins.noLine begins.noReturn]

theorem skipLines_newline (rest : List Char) (fuel : Nat) :
    skipLines (fuel + 1) ('\n' :: rest) = skipLines fuel rest :=
  rfl

theorem dottedKey?_last (reads : simpleKey? (skipBlanks cs) = some (key, rest))
    (last : ∀ more, skipBlanks rest ≠ '.' :: more) (fuel : Nat) :
    dottedKey? (fuel + 1) cs = some ([key], skipBlanks rest) := by
  rw [dottedKey?, reads]
  dsimp only [Option.bind_eq_bind, Option.bind_some]
  split
  · rename_i same
    exact absurd same (last _)
  · rfl

theorem dottedKey?_cons {keys : List String} {fuel : Nat}
    (reads : simpleKey? (skipBlanks cs) = some (key, '.' :: rest))
    (later : dottedKey? fuel rest = some (keys, more)) :
    dottedKey? (fuel + 1) cs = some (key :: keys, more) := by
  have point : skipBlanks ('.' :: rest) = '.' :: rest := rfl
  rw [dottedKey?, reads]
  simp [point, later]

/-- A plain key is read up to a character that is none. -/
theorem simpleKey?_plain (plain : IsPlainKey key) (ends : ∀ c ∈ rest.head?, isBareKey c = false) :
    simpleKey? (skipBlanks (key.toList ++ rest)) = some (key, rest) := by
  obtain ⟨present, bare⟩ := bare_iff.mp plain
  obtain ⟨c, others, split⟩ := List.exists_cons_of_ne_nil present
  have begins := beginsLine_bare (bare c (split ▸ List.mem_cons_self))
  have stays : skipBlanks (key.toList ++ rest) = key.toList ++ rest := by
    rw [split]
    exact skipBlanks_cons begins
  rw [stays, simpleKey?_bare present bare ends, String.ofList_toList]

theorem path?_plain (plain : IsPlainKey key) {c : Char} (ends : isBareKey c = false)
    (last : ∀ more, skipBlanks (c :: rest) ≠ '.' :: more) :
    path? (key.toList ++ c :: rest) = some ([key], skipBlanks (c :: rest)) :=
  dottedKey?_last (simpleKey?_plain plain (by simpa using ends)) last _

theorem path?_named (plain : IsPlainKey key) (name : String) (rest : List Char) :
    path? (key.toList ++ '.' :: (keyChars name ++ ']' :: rest)) = some ([key, name], ']' :: rest) := by
  have named : simpleKey? (skipBlanks (keyChars name ++ ']' :: rest)) = some (name, ']' :: rest) := by
    rw [skipBlanks_keyChars]
    exact simpleKey?_keyChars name (by rintro c ⟨⟩; rfl)
  have point : ∀ c ∈ ('.' :: (keyChars name ++ ']' :: rest)).head?, isBareKey c = false := by
    rintro c ⟨⟩
    rfl
  exact dottedKey?_cons (simpleKey?_plain plain point) (dottedKey?_last named (by rintro _ ⟨⟩) _)

theorem value?_stringChars (depth : Nat) (text : String) (noBasic : rest.head? ≠ some '"')
    (noLiteral : rest.head? ≠ some '\'') :
    value? depth (stringChars text ++ rest) = some (.string text, rest) := by
  obtain ⟨quote, others, split, quotes⟩ := stringChars_head text
  have reads := string?_stringChars text noBasic noLiteral
  rw [split, List.cons_append] at reads ⊢
  unfold value?
  rw [if_pos quotes, reads]
  rfl

theorem line?_entryChars (plain : IsPlainKey key) (depth : Nat) (text : String) (rest : List Char) :
    line? (value? depth) (entryChars key text ++ rest) = some (⟨[key], .string text⟩, '\n' :: rest) := by
  have shape : entryChars key text ++ rest =
      key.toList ++ ' ' :: ('=' :: ' ' :: (stringChars text ++ '\n' :: rest)) := by
    simp [entryChars]
  have path : path? (key.toList ++ ' ' :: ('=' :: ' ' :: (stringChars text ++ '\n' :: rest))) =
      some ([key], '=' :: ' ' :: (stringChars text ++ '\n' :: rest)) :=
    path?_plain plain rfl (by rintro _ ⟨⟩)
  have blank : skipBlanks (' ' :: (stringChars text ++ '\n' :: rest)) =
      stringChars text ++ '\n' :: rest := by
    obtain ⟨quote, others, split, quotes⟩ := stringChars_head text
    rw [split]
    rcases quotes with rfl | rfl <;> rfl
  have value : value? depth (stringChars text ++ '\n' :: rest) = some (.string text, '\n' :: rest) :=
    value?_stringChars depth text (by simp) (by simp)
  rw [line?, shape, path]
  simp [expect?, blank, value]

/-- Sections are read with as many steps as there are characters. -/
def ReadsSections (written : List Char) (lines : List Line) (sections : List Section) : Prop :=
  ∀ fuel, written.length < fuel → sections? fuel written = some (lines, sections)

theorem readsSections_nil : ReadsSections [] [] [] := by
  intro fuel enough
  cases fuel with
  | zero => omega
  | succ fuel => rfl

theorem ReadsSections.blank (reads : ReadsSections rest lines sections) :
    ReadsSections ('\n' :: rest) lines sections := by
  intro fuel enough
  cases fuel with
  | zero => omega
  | succ fuel =>
    have same : sections? (fuel + 1) ('\n' :: rest) = sections? (fuel + 1) rest := by
      rw [sections?, sections?, List.length_cons, skipLines_newline]
    rw [same]
    exact reads _ (by simp only [List.length_cons] at enough; omega)

theorem ReadsSections.line (reads : ReadsSections rest lines sections) (plain : IsPlainKey key)
    (text : String) :
    ReadsSections (entryChars key text ++ rest) (⟨[key], .string text⟩ :: lines) sections := by
  intro fuel enough
  cases fuel with
  | zero => omega
  | succ fuel =>
    have later := reads fuel (by
      simp only [entryChars, List.length_append, List.length_cons] at enough
      omega)
    have line := line?_entryChars plain nestingLimit text rest
    obtain ⟨present, bare⟩ := bare_iff.mp plain
    obtain ⟨c, others, split⟩ := List.exists_cons_of_ne_nil present
    have first := bare c (split ▸ List.mem_cons_self)
    have begins := beginsLine_bare first
    have opens : ∃ behind, entryChars key text ++ rest = c :: behind :=
      ⟨_, by rw [entryChars, split]; rfl⟩
    obtain ⟨behind, shape⟩ := opens
    rw [shape] at line ⊢
    rw [sections?, skipLines_cons begins]
    split
    · rename_i same
      cases same
    · rename_i same
      rw [(List.cons.inj same).1] at first
      exact absurd first (by decide)
    · rw [skipComment_cons begins]
      have ended : lineEnd? ('\n' :: rest) = some rest := rfl
      simp [line, ended, later]

theorem ReadsSections.section {header : Header} (reads : ReadsSections rest lines sections)
    (spells : header? cs = some (header, '\n' :: rest)) (longer : rest.length < cs.length) :
    ReadsSections ('[' :: cs) [] (⟨header, lines⟩ :: sections) := by
  intro fuel enough
  cases fuel with
  | zero => omega
  | succ fuel =>
    have later := reads fuel (by simp only [List.length_cons] at enough; omega)
    have ended : lineEnd? ('\n' :: rest) = some rest := rfl
    rw [sections?, skipLines_cons beginsLine_bracket]
    simp [spells, ended, later]

theorem header?_path {path : List String} (single : ∀ more, cs ≠ '[' :: more)
    (reads : path? cs = some (path, ']' :: rest)) : header? cs = some (.table path, rest) := by
  unfold header?
  split
  · exact absurd rfl (single _)
  · simp [reads, expect?]

theorem plain_no_bracket (plain : IsPlainKey key) (rest : List Char) :
    ∀ more, key.toList ++ rest ≠ '[' :: more := by
  intro more same
  obtain ⟨present, bare⟩ := bare_iff.mp plain
  obtain ⟨c, others, split⟩ := List.exists_cons_of_ne_nil present
  have first := bare c (split ▸ List.mem_cons_self)
  rw [split] at same
  rw [(List.cons.inj same).1] at first
  exact absurd first (by decide)

/-- A section under a plain key. -/
theorem ReadsSections.table (reads : ReadsSections rest lines sections) (plain : IsPlainKey key) :
    ReadsSections ('[' :: (key.toList ++ ']' :: '\n' :: rest)) [] (⟨.table [key], lines⟩ :: sections) := by
  refine reads.section (header?_path (plain_no_bracket plain _) ?_) (by simp; omega)
  exact path?_plain plain rfl (by rintro _ ⟨⟩)

/-- A section under a plain key and any other. -/
theorem ReadsSections.named (reads : ReadsSections rest lines sections) (plain : IsPlainKey key)
    (name : String) :
    ReadsSections ('[' :: (key.toList ++ '.' :: (keyChars name ++ ']' :: '\n' :: rest))) []
      (⟨.table [key, name], lines⟩ :: sections) := by
  refine reads.section (header?_path (plain_no_bracket plain _) (path?_named plain name _)) ?_
  simp only [List.length_append, List.length_cons]
  omega

/-- A document without a byte-order mark is made up of the sections that it is read as. -/
theorem document?_of_reads (unmarked : ∀ rest, text.toList ≠ '\ufeff' :: rest)
    (reads : ReadsSections text.toList lines sections) :
    document? text =
      (Parts.fill [] lines).bind fun root => (sections.foldlM addSection root).map valueEntries := by
  have read := reads _ (Nat.lt_succ_self _)
  rw [document?]
  dsimp only
  split
  · rename_i marked
    exact absurd marked (unmarked _)
  · rw [read]
    cases filled : Parts.fill [] lines with
    | none => simp [filled]
    | some root => cases joined : sections.foldlM addSection root <;> simp [filled, joined]

end ScannerConfig.Toml
