import Mathlib
import ScannerConfig.Toml.Printer

namespace ScannerConfig.Toml

variable {cs text left code written rest : List Char} {c quote : Char} {multiLine escapes : Bool}

theorem isShown_of_plain (noControl : isControl c = false) (noLine : c ≠ '\n') :
    isShown c = true := by
  have noTab : c ≠ '\t' → 0x20 ≤ c.toNat ∧ c.toNat ≠ 0x7F := by
    intro noTab
    have codes : ¬(c.toNat < 0x20 ∨ c.toNat = 0x7F) := by
      simpa [isControl, noTab, noLine] using noControl
    omega
  by_cases tab : c = '\t'
  · simp [isShown, tab]
  · simp [isShown, noTab tab]

theorem codeChars_control : ∀ n < 0x80, n < 0x20 ∨ n = 0x7F →
    (codeChars n).length = 4 ∧ natOf? 16 (codeChars n) = some n := by
  decide

theorem coded?_codeChars (control : c.toNat < 0x20 ∨ c.toNat = 0x7F) (rest : List Char) :
    coded? 4 (codeChars c.toNat ++ rest) = some (c, rest) := by
  obtain ⟨length, value⟩ := codeChars_control c.toNat (by omega) control
  have front : (codeChars c.toNat ++ rest).take 4 = codeChars c.toNat := by
    rw [← length, List.take_left]
  have behind : (codeChars c.toNat ++ rest).drop 4 = rest := by
    rw [← length, List.drop_left]
  have valid : c.toNat.isValidChar := c.valid
  have whole : ¬(codeChars c.toNat).length < 4 := by omega
  have same : Char.ofNatAux c.toNat valid = c := rfl
  simp [coded?, front, behind, whole, value, valid, same]

/-- What an escape is: read as its character, and not taken for the end of a line that goes on. -/
structure Escape (code : List Char) (c : Char) : Prop where
  reads : ∀ rest, escape? (code ++ rest) = some (c, rest)
  stays : ∀ rest, continued? (code ++ rest) = none

theorem escape_quote : Escape ['"'] '"' :=
  ⟨fun _ => rfl, fun _ => rfl⟩

/-- A character other than a quote is written as it is or behind a backslash. -/
theorem escapeChar_cases (multiLine : Bool) (c : Char) :
    (escapeChar multiLine c = [c] ∧ c ≠ '\\' ∧ c ≠ '\r' ∧
      (isShown c = true ∨ multiLine = true ∧ c = '\n')) ∨
    ∃ code, escapeChar multiLine c = '\\' :: code ∧ Escape code c := by
  rw [escapeChar]
  split_ifs with backspace tab line lines feed carriage backslash control
  · subst backspace
    exact .inr ⟨['b'], rfl, fun _ => rfl, fun _ => rfl⟩
  · subst tab
    exact .inr ⟨['t'], rfl, fun _ => rfl, fun _ => rfl⟩
  · subst line
    exact .inl ⟨rfl, by decide, by decide, .inr ⟨lines, rfl⟩⟩
  · subst line
    exact .inr ⟨['n'], rfl, fun _ => rfl, fun _ => rfl⟩
  · subst feed
    exact .inr ⟨['f'], rfl, fun _ => rfl, fun _ => rfl⟩
  · subst carriage
    exact .inr ⟨['r'], rfl, fun _ => rfl, fun _ => rfl⟩
  · subst backslash
    exact .inr ⟨['\\'], rfl, fun _ => rfl, fun _ => rfl⟩
  · have coded : c.toNat < 0x20 ∨ c.toNat = 0x7F := by
      have both := control
      simp only [isControl, Bool.and_eq_true, Bool.or_eq_true, decide_eq_true_eq, beq_iff_eq] at both
      exact both.2
    exact .inr ⟨'u' :: codeChars c.toNat, rfl, coded?_codeChars coded, fun _ => rfl⟩
  · exact .inl ⟨rfl, backslash, carriage, .inl (isShown_of_plain (by simpa using control) line)⟩

theorem ne_of_isShown (shown : isShown c = true) : c ≠ '\n' ∧ c ≠ '\r' := by
  constructor <;>
    · rintro rfl
      exact absurd shown (by decide)

theorem newline?_cons (noLine : c ≠ '\n') (noReturn : c ≠ '\r') : newline? (c :: rest) = none := by
  unfold newline?
  split
  · rename_i same
    exact absurd (List.cons.inj same).1 noLine
  · rename_i same
    exact absurd (List.cons.inj same).1 noReturn
  · rfl

/-- What stands behind a double quote is read up to the closing one, with as many steps as there
are characters. -/
def ReadsBasic (written text left : List Char) : Prop :=
  ∀ fuel, written.length < fuel → basic? fuel written = some (text, left)

theorem readsBasic_close (rest : List Char) : ReadsBasic ('"' :: rest) [] rest := by
  intro fuel enough
  cases fuel with
  | zero => omega
  | succ fuel => rfl

theorem ReadsBasic.plain (reads : ReadsBasic written text left) (noQuote : c ≠ '"')
    (noEscape : c ≠ '\\') (shown : isShown c = true) :
    ReadsBasic (c :: written) (c :: text) left := by
  intro fuel enough
  cases fuel with
  | zero => omega
  | succ fuel =>
    have later := reads fuel (by simpa using enough)
    simp [basic?, noQuote, noEscape, shown, later]

theorem ReadsBasic.escaped (reads : ReadsBasic written text left) (escape : Escape code c) :
    ReadsBasic ('\\' :: (code ++ written)) (c :: text) left := by
  intro fuel enough
  cases fuel with
  | zero => omega
  | succ fuel =>
    have later := reads fuel (by simp only [List.length_cons, List.length_append] at enough; omega)
    simp [basic?, escape.reads, later]

theorem readsBasic_escapeText (cs rest : List Char) :
    ReadsBasic (escapeText false 0 0 cs ++ '"' :: rest) cs rest := by
  induction cs with
  | nil => exact readsBasic_close rest
  | cons c cs ih =>
    rw [escapeText]
    split_ifs with quote more
    · exact absurd more (by decide)
    · subst quote
      exact ih.escaped escape_quote
    · rw [List.append_assoc]
      rcases escapeChar_cases false c with ⟨same, noEscape, _, shown⟩ | ⟨code, same, escape⟩
      · rw [same]
        exact ih.plain quote noEscape (shown.resolve_right (by simp))
      · rw [same]
        exact ih.escaped escape

theorem basic?_escapeText (cs rest : List Char) :
    basic? ((escapeText false 0 0 cs ++ '"' :: rest).length + 1)
      (escapeText false 0 0 cs ++ '"' :: rest) = some (cs, rest) :=
  readsBasic_escapeText cs rest _ (Nat.lt_succ_self _)

theorem literal?_plain (noQuote : '\'' ∉ cs) (shown : ∀ c ∈ cs, isShown c = true)
    (rest : List Char) : literal? (cs ++ '\'' :: rest) = some (cs, rest) := by
  induction cs with
  | nil => rfl
  | cons c cs ih =>
    obtain ⟨different, later⟩ := not_or.mp (mt List.mem_cons.mpr noQuote)
    obtain ⟨here, others⟩ := List.forall_mem_cons.mp shown
    simp [literal?, Ne.symm different, here, ih later others]

/-- What stands behind three quotes is read up to the closing ones. -/
def ReadsLines (quote : Char) (escapes : Bool) (written text left : List Char) : Prop :=
  ∀ fuel, written.length < fuel → lines? quote escapes fuel written = some (text, left)

/-- Quotes in a row are counted up to the next other character. -/
theorem quoteRun_replicate {count : Nat} (few : count ≤ 5) (apart : rest.head? ≠ some quote) :
    quoteRun quote (.replicate count quote ++ rest) = count := by
  have none : (rest.take (5 - count)).takeWhile (· == quote) = [] := by
    cases rest with
    | nil => simp
    | cons next rest =>
      have different : next ≠ quote := by simpa using apart
      cases 5 - count <;> simp [different]
  have all : (List.replicate count quote).takeWhile (· == quote) = .replicate count quote := by
    simp
  rw [quoteRun, List.take_append, List.length_replicate, List.take_replicate, Nat.min_eq_right few,
    List.takeWhile_append, all]
  simp [none]

theorem readsLines_close {count : Nat} (few : count ≤ 2) (apart : rest.head? ≠ some quote) :
    ReadsLines quote escapes (.replicate count quote ++ [quote, quote, quote] ++ rest)
      (.replicate count quote) rest := by
  intro fuel enough
  have joined : List.replicate count quote ++ [quote, quote, quote] ++ rest =
      .replicate (count + 3) quote ++ rest := by
    rw [← List.replicate_append_replicate]
    rfl
  have run := quoteRun_replicate (show count + 3 ≤ 5 by omega) apart
  rw [joined] at enough ⊢
  rw [List.replicate_succ, List.cons_append] at run enough ⊢
  cases fuel with
  | zero => omega
  | succ fuel =>
    have behind : (quote :: (List.replicate (count + 2) quote ++ rest)).drop (count + 3) = rest := by
      have length : (List.replicate (count + 3) quote).length = count + 3 := List.length_replicate
      rw [← List.cons_append, ← List.replicate_succ, List.drop_left' length]
    simp only [lines?, if_true, run]
    rw [if_pos (by omega), behind, Nat.add_sub_cancel]

theorem ReadsLines.plain (reads : ReadsLines quote escapes written text left) (noQuote : c ≠ quote)
    (noEscape : escapes = true → c ≠ '\\') (shown : isShown c = true ∨ c = '\n') :
    ReadsLines quote escapes (c :: written) (c :: text) left := by
  intro fuel enough
  cases fuel with
  | zero => omega
  | succ fuel =>
    have later := reads fuel (by simpa using enough)
    have noBackslash : ¬(escapes = true ∧ c = '\\') := fun both => noEscape both.1 both.2
    rw [lines?, if_neg noQuote, if_neg noBackslash]
    rcases shown with shown | rfl
    · obtain ⟨noLine, noReturn⟩ := ne_of_isShown shown
      simp [newline?_cons noLine noReturn, shown, later]
    · simp [newline?, later]

theorem ReadsLines.escaped (reads : ReadsLines '"' true written text left) (escape : Escape code c) :
    ReadsLines '"' true ('\\' :: (code ++ written)) (c :: text) left := by
  intro fuel enough
  cases fuel with
  | zero => omega
  | succ fuel =>
    have later := reads fuel (by simp only [List.length_cons, List.length_append] at enough; omega)
    simp [lines?, escape.reads, escape.stays, later]

theorem ReadsLines.inner (reads : ReadsLines quote escapes written text left)
    (few : quoteRun quote (quote :: written) < 3) :
    ReadsLines quote escapes (quote :: written) (quote :: text) left := by
  intro fuel enough
  cases fuel with
  | zero => omega
  | succ fuel =>
    have later := reads fuel (by simpa using enough)
    have short : ¬3 ≤ quoteRun quote (quote :: written) := by omega
    simp [lines?, short, later]

/-- The quotes that a text begins with: with those just before they are two at most, and if
anything follows them it is written by another character. -/
def Lead (quote : Char) (run : Nat) (written text : List Char) : Prop :=
  ∃ count, run + count ≤ 2 ∧
    (written = .replicate count quote ∧ text = .replicate count quote ∨
      ∃ c rest, c ≠ quote ∧ written = .replicate count quote ++ c :: rest)

namespace Lead

variable {run : Nat}

theorem nil (few : run ≤ 2) : Lead quote run [] [] :=
  ⟨0, few, .inl ⟨rfl, rfl⟩⟩

theorem other (few : run ≤ 2) (different : c ≠ quote) : Lead quote run (c :: written) text :=
  ⟨0, few, .inr ⟨c, written, different, rfl⟩⟩

theorem cons (lead : Lead quote (run + 1) written text) :
    Lead quote run (quote :: written) (quote :: text) := by
  obtain ⟨count, few, ⟨rfl, rfl⟩ | ⟨c, rest, different, rfl⟩⟩ := lead
  · exact ⟨count + 1, by omega, .inl ⟨rfl, rfl⟩⟩
  · exact ⟨count + 1, by omega, .inr ⟨c, rest, different, rfl⟩⟩

/-- A quote of the text is read as one, be it in front of the closing ones or not. -/
theorem reads (lead : Lead quote run (quote :: written) (quote :: text))
    (later : ReadsLines quote escapes (written ++ [quote, quote, quote] ++ left) text left)
    (apart : left.head? ≠ some quote) :
    ReadsLines quote escapes (quote :: written ++ [quote, quote, quote] ++ left) (quote :: text)
      left := by
  obtain ⟨count, few, ⟨alone, same⟩ | ⟨c, rest, different, split⟩⟩ := lead
  · rw [alone, same]
    exact readsLines_close (by omega) apart
  · refine later.inner ?_
    have run : quoteRun quote (.replicate count quote ++ c :: (rest ++ [quote, quote, quote] ++ left)) =
        count := quoteRun_replicate (by omega) (by simpa using different)
    have joined : quote :: (written ++ [quote, quote, quote] ++ left) =
        .replicate count quote ++ c :: (rest ++ [quote, quote, quote] ++ left) := by
      rw [← List.cons_append, ← List.cons_append, split]
      simp
    rw [joined, run]
    omega

end Lead

theorem lead_escapeText {run : Nat} (few : run ≤ 2) (cs : List Char) :
    Lead '"' run (escapeText true 2 run cs) cs := by
  induction cs generalizing run with
  | nil => exact .nil few
  | cons c cs ih =>
    rw [escapeText]
    split_ifs with quote more
    · subst quote
      exact (ih (by omega)).cons
    · exact .other few (by decide)
    · rcases escapeChar_cases true c with ⟨same, _⟩ | ⟨code, same, _⟩
      · rw [same]
        exact .other few quote
      · rw [same]
        exact .other few (by decide)

theorem readsLines_escapeText (cs : List Char) (apart : rest.head? ≠ some '"') {run : Nat}
    (few : run ≤ 2) :
    ReadsLines '"' true (escapeText true 2 run cs ++ ['"', '"', '"'] ++ rest) cs rest := by
  induction cs generalizing run with
  | nil => exact readsLines_close (Nat.zero_le 2) apart
  | cons c cs ih =>
    have lead := lead_escapeText few (c :: cs)
    rw [escapeText] at lead ⊢
    split_ifs at lead ⊢ with quote more
    · subst quote
      exact lead.reads (ih (by omega)) apart
    · subst quote
      exact (ih (by omega)).escaped escape_quote
    · rw [List.append_assoc, List.append_assoc, ← List.append_assoc (escapeText true 2 0 cs)]
      rcases escapeChar_cases true c with ⟨same, noEscape, _, shown⟩ | ⟨code, same, escape⟩
      · rw [same]
        exact (ih (by omega)).plain quote (fun _ => noEscape) (shown.imp_right And.right)
      · rw [same]
        exact (ih (by omega)).escaped escape

/-- Quotes in a row, `run` of them just before, are two at most. -/
def Sparse (quote : Char) : Nat → List Char → Prop
  | _, [] => True
  | run, c :: rest => if c = quote then run < 2 ∧ Sparse quote (run + 1) rest else Sparse quote 0 rest

/-- The runs of a character: the longest so far and the present one. -/
def countRun (quote : Char) (runs : Nat × Nat) (next : Char) : Nat × Nat :=
  if next = quote then (max runs.1 (runs.2 + 1), runs.2 + 1) else (runs.1, 0)

theorem le_foldl_countRun (quote : Char) (cs : List Char) (runs : Nat × Nat) :
    runs.1 ≤ (cs.foldl (countRun quote) runs).1 := by
  induction cs generalizing runs with
  | nil => exact Nat.le_refl _
  | cons c cs ih =>
    refine Nat.le_trans ?_ (ih (countRun quote runs c))
    rw [countRun]
    split_ifs
    · exact Nat.le_max_left _ _
    · exact Nat.le_refl _

theorem sparse_of_foldl {runs : Nat × Nat} (short : (cs.foldl (countRun quote) runs).1 ≤ 2) :
    Sparse quote runs.2 cs := by
  induction cs generalizing runs with
  | nil => trivial
  | cons c cs ih =>
    have now := Nat.le_trans (le_foldl_countRun quote cs (countRun quote runs c)) short
    have later := ih short
    rw [countRun] at now later
    rw [Sparse]
    split_ifs at now later ⊢
    · exact ⟨Nat.le_trans (Nat.le_max_right _ _) now, later⟩
    · exact later

theorem sparse_of_longestRun (short : longestRun quote cs ≤ 2) : Sparse quote 0 cs := by
  have starts : (cs.foldl (countRun quote) (0, 0)).1 ≤ 2 := short
  exact sparse_of_foldl starts

theorem lead_of_sparse {run : Nat} (few : run ≤ 2) (sparse : Sparse quote run cs) :
    Lead quote run cs cs := by
  induction cs generalizing run with
  | nil => exact .nil few
  | cons c cs ih =>
    rw [Sparse] at sparse
    split_ifs at sparse with same
    · subst same
      exact (ih sparse.1 sparse.2).cons
    · exact .other few same

theorem readsLines_of_sparse {run : Nat} (few : run ≤ 2) (sparse : Sparse quote run cs)
    (shown : ∀ c ∈ cs, isShown c = true ∨ c = '\n') (apart : rest.head? ≠ some quote) :
    ReadsLines quote false (cs ++ [quote, quote, quote] ++ rest) cs rest := by
  induction cs generalizing run with
  | nil => exact readsLines_close (Nat.zero_le 2) apart
  | cons c cs ih =>
    obtain ⟨here, others⟩ := List.forall_mem_cons.mp shown
    have lead := lead_of_sparse few sparse
    rw [Sparse] at sparse
    split_ifs at sparse with same
    · subst same
      exact lead.reads (ih sparse.1 sparse.2 others) apart
    · exact (ih (by omega) sparse others).plain same nofun here

theorem string?_basic (single : ∀ more, text ≠ '"' :: '"' :: more) :
    string? ('"' :: text) =
      (basic? (text.length + 1) text).map fun read => (String.ofList read.1, read.2) := by
  unfold string?
  split
  · rename_i same
    exact absurd (List.cons.inj same).2 (single _)
  · rename_i same
    cases same
  · rename_i same
    cases same
    cases basic? (text.length + 1) text <;> rfl
  · rename_i same
    cases same
  · rename_i other _
    exact absurd rfl (other text)

theorem string?_literal (single : ∀ more, text ≠ '\'' :: '\'' :: more) :
    string? ('\'' :: text) =
      (literal? text).map fun read => (String.ofList read.1, read.2) := by
  unfold string?
  split
  · rename_i same
    cases same
  · rename_i same
    exact absurd (List.cons.inj same).2 (single _)
  · rename_i same
    cases same
  · rename_i same
    cases same
    cases literal? text <;> rfl
  · rename_i _ other
    exact absurd rfl (other text)

theorem string?_basicChars (cs : List Char) (apart : rest.head? ≠ some '"') :
    string? (basicChars cs ++ rest) = some (String.ofList cs, rest) := by
  have split : basicChars cs ++ rest = '"' :: (escapeText false 0 0 cs ++ '"' :: rest) := by
    simp [basicChars]
  rw [split, string?_basic, basic?_escapeText]
  · rfl
  · rintro more same
    cases cs with
    | nil =>
      obtain rfl : rest = '"' :: more := (List.cons.inj same).2
      exact apart rfl
    | cons c cs =>
      rw [escapeText] at same
      split_ifs at same with quote more
      · exact absurd more (by decide)
      · cases same
      · rcases escapeChar_cases false c with ⟨plain, _⟩ | ⟨code, escaped, _⟩
        · rw [plain] at same
          exact quote (List.cons.inj same).1
        · rw [escaped] at same
          cases same

theorem string?_literalChars (noQuote : '\'' ∉ cs) (shown : ∀ c ∈ cs, isShown c = true)
    (apart : rest.head? ≠ some '\'') :
    string? (literalChars cs ++ rest) = some (String.ofList cs, rest) := by
  have split : literalChars cs ++ rest = '\'' :: (cs ++ '\'' :: rest) := by simp [literalChars]
  rw [split, string?_literal, literal?_plain noQuote shown]
  · rfl
  · rintro more same
    cases cs with
    | nil =>
      obtain rfl : rest = '\'' :: more := (List.cons.inj same).2
      exact apart rfl
    | cons c cs => exact noQuote ((List.cons.inj same).1 ▸ List.mem_cons_self)

/-- A text of lines is opened by a line end that does not count, any other by none. -/
theorem block?_of_reads (begins : '\n' ∉ cs → newline? written = none)
    (reads : ReadsLines quote escapes written cs rest) :
    block? quote escapes ((if cs.contains '\n' then ['\n'] else []) ++ written) = some (cs, rest) := by
  rw [block?]
  split_ifs with lines
  · exact reads _ (Nat.lt_succ_self _)
  · have none := begins (by simpa using lines)
    simp only [List.nil_append, none, Option.getD_none]
    exact reads _ (Nat.lt_succ_self _)

theorem newline?_escapeText (noLine : '\n' ∉ cs) (rest : List Char) :
    newline? (escapeText true 2 0 cs ++ '"' :: rest) = none := by
  cases cs with
  | nil => exact newline?_cons (by decide) (by decide)
  | cons c cs =>
    obtain ⟨different, _⟩ := not_or.mp (mt List.mem_cons.mpr noLine)
    rw [escapeText]
    split_ifs with quote few
    · exact newline?_cons (quote ▸ by decide) (quote ▸ by decide)
    · exact newline?_cons (by decide) (by decide)
    · rcases escapeChar_cases true c with ⟨same, _, noReturn, _⟩ | ⟨code, same, _⟩
      · rw [same]
        exact newline?_cons (Ne.symm different) noReturn
      · rw [same]
        exact newline?_cons (by decide) (by decide)

theorem string?_basicLines (cs : List Char) (apart : rest.head? ≠ some '"') :
    string? (basicLines cs ++ rest) = some (String.ofList cs, rest) := by
  have block := block?_of_reads
    (fun noLine => by
      rw [List.append_assoc]
      exact newline?_escapeText noLine _)
    (readsLines_escapeText cs apart (Nat.zero_le 2))
  have split : basicLines cs ++ rest = '"' :: '"' :: '"' ::
      ((if cs.contains '\n' then ['\n'] else []) ++
        (escapeText true 2 0 cs ++ ['"', '"', '"'] ++ rest)) := by
    simp [basicLines, opening]
  rw [split, string?, block]
  rfl

theorem string?_literalLines (sparse : Sparse '\'' 0 cs)
    (shown : ∀ c ∈ cs, isShown c = true ∨ c = '\n') (apart : rest.head? ≠ some '\'') :
    string? (literalLines cs ++ rest) = some (String.ofList cs, rest) := by
  have begins : '\n' ∉ cs → newline? (cs ++ ['\'', '\'', '\''] ++ rest) = none := by
    intro noLine
    cases cs with
    | nil => exact newline?_cons (by decide) (by decide)
    | cons c cs =>
      obtain ⟨different, _⟩ := not_or.mp (mt List.mem_cons.mpr noLine)
      have plain := (shown c List.mem_cons_self).resolve_right (Ne.symm different)
      exact newline?_cons (Ne.symm different) (ne_of_isShown plain).2
  have block := block?_of_reads begins (readsLines_of_sparse (Nat.zero_le 2) sparse shown apart)
  have split : literalLines cs ++ rest = '\'' :: '\'' :: '\'' ::
      ((if cs.contains '\n' then ['\n'] else []) ++ (cs ++ ['\'', '\'', '\''] ++ rest)) := by
    simp [literalLines, opening]
  rw [split, string?, block]
  rfl

theorem shown_or_line (noControl : cs.any isControl = false) :
    ∀ c ∈ cs, isShown c = true ∨ c = '\n' := by
  intro c member
  by_cases line : c = '\n'
  · exact .inr line
  · exact .inl (isShown_of_plain (by simpa using List.any_eq_false.mp noControl c member) line)

theorem shown_of_no_line (noControl : cs.any isControl = false) (noLine : cs.contains '\n' = false) :
    ∀ c ∈ cs, isShown c = true := by
  intro c member
  refine (shown_or_line noControl c member).resolve_right ?_
  rintro rfl
  simp [member] at noLine

/-- A string is read as it was, in whichever form it is written. -/
theorem string?_stringChars (text : String) (noBasic : rest.head? ≠ some '"')
    (noLiteral : rest.head? ≠ some '\'') : string? (stringChars text ++ rest) = some (text, rest) := by
  have whole : String.ofList text.toList = text := String.ofList_toList
  simp only [stringChars]
  split_ifs with basic literal basicLines literalLines
  · rw [string?_basicChars _ noBasic, whole]
  · obtain ⟨⟨noControl, noQuote⟩, noLine⟩ := by simpa only [Bool.and_eq_true, Bool.not_eq_true'] using literal
    rw [string?_literalChars (by simpa using noQuote) (shown_of_no_line noControl noLine) noLiteral, whole]
  · rw [string?_basicLines _ noBasic, whole]
  · obtain ⟨noControl, few⟩ := by
      simpa only [Bool.and_eq_true, Bool.not_eq_true', decide_eq_true_eq] using literalLines
    rw [string?_literalLines (sparse_of_longestRun few) (shown_or_line noControl) noLiteral, whole]
  · rw [string?_basicLines _ noBasic, whole]
  · rw [string?_basicChars _ noBasic, whole]

/-- Every form of a string begins with a quote. -/
theorem stringChars_head (text : String) :
    ∃ quote more, stringChars text = quote :: more ∧ (quote = '"' ∨ quote = '\'') := by
  simp only [stringChars]
  split_ifs
  · exact ⟨'"', _, rfl, .inl rfl⟩
  · exact ⟨'\'', _, rfl, .inr rfl⟩
  · exact ⟨'"', _, rfl, .inl rfl⟩
  · exact ⟨'\'', _, rfl, .inr rfl⟩
  · exact ⟨'"', _, rfl, .inl rfl⟩
  · exact ⟨'"', _, rfl, .inl rfl⟩

theorem takeWhile_bare (bare : ∀ c ∈ cs, isBareKey c = true)
    (ends : ∀ c ∈ rest.head?, isBareKey c = false) :
    (cs ++ rest).takeWhile isBareKey = cs ∧ (cs ++ rest).dropWhile isBareKey = rest := by
  have stops : rest.takeWhile isBareKey = [] ∧ rest.dropWhile isBareKey = rest := by
    cases rest with
    | nil => exact ⟨rfl, rfl⟩
    | cons next rest => simp [ends next rfl]
  rw [List.takeWhile_append_of_pos bare, List.dropWhile_append_of_pos bare, stops.1, stops.2,
    List.append_nil]
  exact ⟨rfl, rfl⟩

theorem bare_iff : (!cs.isEmpty && cs.all isBareKey) = true ↔
    cs ≠ [] ∧ ∀ c ∈ cs, isBareKey c = true := by
  simp only [Bool.and_eq_true, Bool.not_eq_true', List.isEmpty_eq_false_iff, List.all_eq_true]

theorem simpleKey?_bare (present : cs ≠ []) (bare : ∀ c ∈ cs, isBareKey c = true)
    (ends : ∀ c ∈ rest.head?, isBareKey c = false) :
    simpleKey? (cs ++ rest) = some (String.ofList cs, rest) := by
  obtain ⟨name, behind⟩ := takeWhile_bare bare ends
  obtain ⟨c, more, rfl⟩ := List.exists_cons_of_ne_nil present
  have first := bare c List.mem_cons_self
  unfold simpleKey?
  split
  · rename_i same
    rw [(List.cons.inj same).1] at first
    exact absurd first (by decide)
  · rename_i same
    rw [(List.cons.inj same).1] at first
    exact absurd first (by decide)
  · rw [name, behind]
    rfl

theorem simpleKey?_keyChars (key : String) (ends : ∀ c ∈ rest.head?, isBareKey c = false) :
    simpleKey? (keyChars key ++ rest) = some (key, rest) := by
  have whole : String.ofList key.toList = key := String.ofList_toList
  have basic : simpleKey? (basicChars key.toList ++ rest) = some (key, rest) := by
    have split : basicChars key.toList ++ rest =
        '"' :: (escapeText false 0 0 key.toList ++ '"' :: rest) := by simp [basicChars]
    rw [split, simpleKey?, basic?_escapeText]
    simp [whole]
  simp only [keyChars]
  split_ifs with bare plain literal
  · obtain ⟨present, all⟩ := bare_iff.mp bare
    rw [simpleKey?_bare present all ends, whole]
  · exact basic
  · obtain ⟨⟨noControl, noLine⟩, noQuote⟩ := by
      simpa only [Bool.and_eq_true, Bool.not_eq_true', Bool.or_eq_false_iff] using literal
    have split : literalChars key.toList ++ rest = '\'' :: (key.toList ++ '\'' :: rest) := by
      simp [literalChars]
    rw [split, simpleKey?,
      literal?_plain (by simpa using noQuote) (shown_of_no_line noControl noLine)]
    simp [whole]
  · exact basic

/-- No key begins with a blank. -/
theorem skipBlanks_keyChars (key : String) (rest : List Char) :
    skipBlanks (keyChars key ++ rest) = keyChars key ++ rest := by
  have visible : ∃ c more, keyChars key = c :: more ∧ isBlank c = false := by
    simp only [keyChars]
    split_ifs with bare
    · obtain ⟨present, all⟩ := bare_iff.mp bare
      obtain ⟨c, more, split⟩ := List.exists_cons_of_ne_nil present
      refine ⟨c, more, split, ?_⟩
      have first := all c (split ▸ List.mem_cons_self)
      by_contra blank
      rw [Bool.not_eq_false, isBlank, Bool.or_eq_true, beq_iff_eq, beq_iff_eq] at blank
      rcases blank with rfl | rfl <;> exact absurd first (by decide)
    · exact ⟨'"', _, rfl, rfl⟩
    · exact ⟨'\'', _, rfl, rfl⟩
    · exact ⟨'"', _, rfl, rfl⟩
  obtain ⟨c, more, split, noBlank⟩ := visible
  rw [split, skipBlanks, List.cons_append, List.dropWhile_cons, noBlank]
  rfl

end ScannerConfig.Toml
