import Mathlib
import ScannerConfig.Proofs.EnvironmentLayers
import ScannerConfig.Proofs.SavedPreferences

namespace ScannerConfig

namespace Blank

variable {cs : List Char}

/-- A text of which nothing is trimmed loses nothing on either side. -/
theorem ends_of_trimmed (trimmed : trim cs = cs) :
    cs.dropWhile isBlank = cs ∧ cs.reverse.dropWhile isBlank = cs.reverse := by
  have front : (cs.dropWhile isBlank).Sublist cs := List.dropWhile_sublist isBlank
  have back : (trim cs).Sublist (cs.dropWhile isBlank) := by
    have dropped := (List.dropWhile_sublist isBlank (l := (cs.dropWhile isBlank).reverse)).reverse
    rwa [List.reverse_reverse] at dropped
  rw [trimmed] at back
  have same : cs.dropWhile isBlank = cs := front.antisymm back
  rw [trim, same] at trimmed
  exact ⟨same, by rw [← List.reverse_inj, List.reverse_reverse, trimmed]⟩

end Blank

namespace Layer

variable {word cs front rest : List Char} {text : String}

/-- A number, if a word is one. -/
def number? (word : List Char) : Option Layer :=
  (if word.contains '.' then (realOf? word).map Layer.float else none).or (wholeOf? word)

theorem ofWord_of_trimmed (trimmed : Blank.trim word = word) :
    ofWord word = (number? word).getD (.string (String.ofList word)) := by
  rw [ofWord, trimmed, number?]
  split <;> rename_i found <;> rw [found]
  · rfl
  · rfl

theorem number?_ne_string (word : List Char) (text : String) :
    number? word ≠ some (.string text) := by
  have unsigned : ∀ digits, wholeOf?.unsigned? digits ≠ some (.string text) := by
    intro digits found
    obtain ⟨n, _, found⟩ := Option.bind_eq_some_iff.mp found
    split_ifs at found
    cases found
  have whole : wholeOf? word ≠ some (.string text) := by
    intro found
    unfold wholeOf? at found
    split at found
    · obtain ⟨n, _, found⟩ := Option.bind_eq_some_iff.mp found
      split_ifs at found <;> cases found
    · exact unsigned _ found
    · exact unsigned _ found
  intro found
  rw [number?] at found
  rcases Option.or_eq_some_iff.mp found with real | ⟨_, found⟩
  · split_ifs at real
    obtain ⟨_, _, same⟩ := Option.map_eq_some_iff.mp real
    cases same
  · exact whole found

/-- The characters of numbers. -/
def IsNumeral (c : Char) : Prop :=
  isDecimalDigit c = true ∨ c = '+' ∨ c = '-' ∨ c = '.' ∨ c = 'e' ∨ c = 'E'

instance : DecidablePred IsNumeral := fun c =>
  inferInstanceAs (Decidable (isDecimalDigit c = true ∨ c = '+' ∨ c = '-' ∨ c = '.' ∨ c = 'e' ∨ c = 'E'))

theorem digit_of_digitOf? {c : Char} {value : Nat} (digit : digitOf? 10 c = some value) :
    isDecimalDigit c = true := by
  rw [digitOf?] at digit
  split_ifs at digit with decimal small capital
  all_goals first | omega | simpa [isDecimalDigit] using decimal

theorem digits_of_natOf? {n : Nat} (read : natOf? 10 cs = some n) :
    ∀ c ∈ cs, isDecimalDigit c = true := by
  have steps : ∀ start, cs.foldlM (fun n c => (digitOf? 10 c).map (n * 10 + ·)) start = some n →
      ∀ c ∈ cs, isDecimalDigit c = true := by
    clear read
    induction cs with
    | nil => exact fun _ _ => nofun
    | cons first rest ih =>
      intro start read
      rw [List.foldlM_cons] at read
      obtain ⟨next, here, later⟩ := Option.bind_eq_some_iff.mp read
      obtain ⟨value, digit, _⟩ := Option.map_eq_some_iff.mp here
      exact List.forall_mem_cons.mpr ⟨digit_of_digitOf? digit, ih next later⟩
  rw [natOf?] at read
  split_ifs at read
  exact steps 0 read

theorem numeral_of_natOf? {n : Nat} (read : natOf? 10 cs = some n) : ∀ c ∈ cs, IsNumeral c :=
  fun c member => .inl (digits_of_natOf? read c member)

/-- A sign is a numeral, so it does not matter whether there is one. -/
theorem numeral_of_signOf (numerals : ∀ c ∈ (signOf cs).2, IsNumeral c) : ∀ c ∈ cs, IsNumeral c := by
  unfold signOf at numerals
  split at numerals
  · exact List.forall_mem_cons.mpr ⟨by simp [IsNumeral], numerals⟩
  · exact List.forall_mem_cons.mpr ⟨by simp [IsNumeral], numerals⟩
  · exact numerals

theorem numeral_of_exponentOf? {exponent : Int} (read : Decimal.exponentOf? cs = some exponent) :
    ∀ c ∈ cs, IsNumeral c := by
  cases cs with
  | nil => exact nofun
  | cons mark rest =>
    rw [Decimal.exponentOf?] at read
    split_ifs at read with marked
    have digits : ∃ n, natOf? 10 (signOf rest).2 = some n := by
      cases found : natOf? 10 (signOf rest).2 with
      | none => simp [found] at read
      | some n => exact ⟨n, rfl⟩
    obtain ⟨n, digits⟩ := digits
    refine List.forall_mem_cons.mpr ⟨?_, numeral_of_signOf (numeral_of_natOf? digits)⟩
    simp [IsNumeral, marked]

theorem numeral_of_ofMagnitude? {decimal : Decimal} (read : Decimal.ofMagnitude? cs = some decimal) :
    ∀ c ∈ cs, IsNumeral c := by
  have split := List.takeWhile_append_dropWhile (p := isDecimalDigit) (l := cs)
  rw [Decimal.ofMagnitude?] at read
  obtain ⟨n, digits, read⟩ := Option.bind_eq_some_iff.mp read
  obtain ⟨exponent, marked, _⟩ := Option.bind_eq_some_iff.mp read
  have numerals := numeral_of_natOf? digits
  have behind := numeral_of_exponentOf? marked
  rw [← split]
  refine List.forall_mem_append.mpr ⟨(List.forall_mem_append.mp numerals).1, ?_⟩
  generalize cs.dropWhile isDecimalDigit = rest at numerals behind ⊢
  revert numerals behind
  split
  · rename_i rest
    intro numerals behind
    have fraction := List.takeWhile_append_dropWhile (p := isDecimalDigit) (l := rest)
    refine List.forall_mem_cons.mpr ⟨by simp [IsNumeral], ?_⟩
    rw [← fraction]
    exact List.forall_mem_append.mpr ⟨(List.forall_mem_append.mp numerals).2, behind⟩
  · exact fun _ behind => behind

theorem numeral_of_wholeOf? {found : Layer} (read : wholeOf? cs = some found) :
    ∀ c ∈ cs, IsNumeral c := by
  have unsigned : ∀ {digits}, wholeOf?.unsigned? digits = some found → ∀ c ∈ digits, IsNumeral c := by
    intro digits read
    obtain ⟨n, read, _⟩ := Option.bind_eq_some_iff.mp read
    exact numeral_of_natOf? read
  unfold wholeOf? at read
  split at read
  · obtain ⟨n, read, _⟩ := Option.bind_eq_some_iff.mp read
    exact List.forall_mem_cons.mpr ⟨by simp [IsNumeral], numeral_of_natOf? read⟩
  · exact List.forall_mem_cons.mpr ⟨by simp [IsNumeral], unsigned read⟩
  · exact unsigned read

theorem numeral_of_number? {found : Layer} (read : number? cs = some found) :
    ∀ c ∈ cs, IsNumeral c := by
  rw [number?] at read
  rcases Option.or_eq_some_iff.mp read with real | ⟨_, whole⟩
  · split_ifs at real
    obtain ⟨_, real, _⟩ := Option.map_eq_some_iff.mp real
    obtain ⟨_, decimal, _⟩ := Option.map_eq_some_iff.mp real
    obtain ⟨_, magnitude, _⟩ := Option.map_eq_some_iff.mp decimal
    exact numeral_of_signOf (numeral_of_ofMagnitude? magnitude)
  · exact numeral_of_wholeOf? whole

theorem number?_eq_none {c : Char} (member : c ∈ cs) (noNumeral : ¬IsNumeral c) : number? cs = none :=
  Option.eq_none_iff_forall_ne_some.mpr fun _ found => noNumeral (numeral_of_number? found c member)

theorem isBlank_of_isSpace {c : Char} (space : isSpace c = true) : Blank.isBlank c = true := by
  simp only [isSpace, Bool.or_eq_true, beq_iff_eq] at space
  rcases space with (((rfl | rfl) | rfl) | rfl) | rfl <;> decide

theorem skipSpace_of_trimmed (trimmed : Blank.trim cs = cs) : skipSpace cs = cs := by
  obtain ⟨unblank, _⟩ := Blank.ends_of_trimmed trimmed
  rw [List.dropWhile_eq_self_iff] at unblank
  exact List.dropWhile_eq_self_iff.mpr fun some space => unblank some (isBlank_of_isSpace space)

/-- Behind a part of a text of which nothing is trimmed there are not only spaces. -/
theorem nil_of_skipSpace (trimmed : Blank.trim (front ++ rest) = front ++ rest)
    (none : skipSpace rest = []) : rest = [] := by
  obtain ⟨_, unblank⟩ := Blank.ends_of_trimmed trimmed
  rw [skipSpace, List.dropWhile_eq_nil_iff] at none
  rcases List.eq_nil_or_concat rest with empty | ⟨before, last, split⟩
  · exact empty
  · rw [List.concat_eq_append] at split
    subst split
    have blank : Blank.isBlank last = true := isBlank_of_isSpace (none last (by simp))
    have shorter := congrArg List.length unblank
    have dropped := (List.dropWhile_sublist Blank.isBlank (l := (front ++ before).reverse)).length_le
    rw [← List.append_assoc, List.reverse_concat, List.dropWhile_cons_of_pos blank,
      List.length_cons] at shorter
    omega

/-- A text that begins like a list, a dictionary or a quotation. -/
def Opens (cs : List Char) : Prop :=
  ∃ c ∈ cs.head?, c = '[' ∨ c = '\x7b' ∨ c = '"' ∨ c = '\''

/-- What stands behind a word begins with what ended it. -/
theorem separator_behind {c : Char} (behind : cs.dropWhile (fun c => !isSeparator c) = c :: rest) :
    isSeparator c = true := by
  have some : 0 < (cs.dropWhile fun c => !isSeparator c).length := by simp [behind]
  have stopped := List.dropWhile_get_zero_not (fun c => !isSeparator c) cs some
  simpa [behind] using stopped

theorem isSeparator_iff {c : Char} :
    isSeparator c = true ↔ c = ',' ∨ c = '\x7b' ∨ c = '\x7d' ∨ c = '[' ∨ c = ']' := by
  simp only [isSeparator, Bool.or_eq_true, beq_iff_eq, or_assoc]

theorem skipSpace_behind (cs : List Char) :
    skipSpace (cs.dropWhile fun c => !isSeparator c) = cs.dropWhile fun c => !isSeparator c := by
  cases behind : cs.dropWhile fun c => !isSeparator c with
  | nil => rfl
  | cons c rest =>
    have ended := isSeparator_iff.mp (separator_behind behind)
    rw [skipSpace, List.dropWhile_cons_of_neg]
    rcases ended with rfl | rfl | rfl | rfl | rfl <;> decide

theorem not_numeral_of_separator {c : Char} (separator : isSeparator c = true) : ¬IsNumeral c := by
  rcases isSeparator_iff.mp separator with rfl | rfl | rfl | rfl | rfl <;> decide

/-- How a text is read that begins neither like a list or a dictionary nor like a quotation. -/
theorem value?_of_unopened (trimmed : Blank.trim cs = cs) (unopened : ¬Opens cs) (depth : Nat) :
    (∃ rest, cs = "true".toList ++ rest ∧
      value? (depth + 1) cs = some (.bool true, skipSpace rest)) ∨
    (∃ rest, cs = "false".toList ++ rest ∧
      value? (depth + 1) cs = some (.bool false, skipSpace rest)) ∨
    value? (depth + 1) cs = some (ofWord (cs.takeWhile fun c => !isSeparator c),
      cs.dropWhile fun c => !isSeparator c) := by
  rw [value?.eq_2, skipSpace_of_trimmed trimmed]
  split
  · exact .inl ⟨_, rfl, rfl⟩
  · exact .inr (.inl ⟨_, rfl, rfl⟩)
  · exact absurd ⟨_, rfl, .inr (.inl rfl)⟩ unopened
  · exact absurd ⟨_, rfl, .inl rfl⟩ unopened
  · exact absurd ⟨_, rfl, .inr (.inr (.inl rfl))⟩ unopened
  · exact absurd ⟨_, rfl, .inr (.inr (.inr rfl))⟩ unopened
  · exact absurd ⟨_, rfl, .inr (.inr (.inr rfl))⟩ unopened
  · refine .inr (.inr ?_)
    rw [Option.map_some]
    dsimp only
    rw [skipSpace_behind]

/-- A text of which something is left over is read as itself. -/
theorem ofVariable_of_left {value : Layer} (read : value? (text.length + 1) text.toList = some (value, rest))
    (left : rest ≠ []) : ofVariable text = .string text := by
  obtain ⟨c, rest, rfl⟩ := List.exists_cons_of_ne_nil left
  rw [ofVariable, read]

theorem ofVariable_of_longer {value : Layer} {first : String}
    (trimmed : Blank.trim text.toList = text.toList) (spelled : text.toList = first.toList ++ rest)
    (read : value? (text.length + 1) text.toList = some (value, skipSpace rest))
    (longer : text ≠ first) : ofVariable text = .string text := by
  refine ofVariable_of_left read fun none => longer ?_
  rw [spelled] at trimmed
  have empty := nil_of_skipSpace trimmed none
  rwa [empty, List.append_nil, String.toList_inj] at spelled

/-- A text that begins neither like a list or a dictionary nor like a quotation is a truth value or
a number, or it is read as itself. -/
theorem ofVariable_of_unopened (trimmed : Blank.trim text.toList = text.toList)
    (unopened : ¬Opens text.toList) (noTruth : text ≠ "true" ∧ text ≠ "false") :
    ofVariable text = (number? text.toList).getD (.string text) := by
  rcases value?_of_unopened trimmed unopened text.length with
    ⟨rest, spelled, read⟩ | ⟨rest, spelled, read⟩ | read
  · have noNumber : number? text.toList = none :=
      number?_eq_none (c := 't') (by simp [spelled]) (by decide)
    rw [noNumber, Option.getD_none]
    exact ofVariable_of_longer trimmed spelled read noTruth.1
  · have noNumber : number? text.toList = none :=
      number?_eq_none (c := 'f') (by simp [spelled]) (by decide)
    rw [noNumber, Option.getD_none]
    exact ofVariable_of_longer trimmed spelled read noTruth.2
  · cases behind : text.toList.dropWhile fun c => !isSeparator c with
    | nil =>
      have word : (text.toList.takeWhile fun c => !isSeparator c) = text.toList := by
        have split := List.takeWhile_append_dropWhile (p := fun c => !isSeparator c) (l := text.toList)
        rwa [behind, List.append_nil] at split
      rw [ofVariable, read, behind, word, ofWord_of_trimmed trimmed, String.ofList_toList]
    | cons c rest =>
      have member : c ∈ text.toList :=
        (List.dropWhile_sublist _).subset (behind ▸ List.mem_cons_self)
      have noNumber := number?_eq_none member (not_numeral_of_separator (separator_behind behind))
      rw [noNumber, Option.getD_none]
      exact ofVariable_of_left read (by simp [behind])

/-- Such a text is read as itself if it is no truth value and no number. -/
theorem ofVariable_eq_iff (trimmed : Blank.trim text.toList = text.toList)
    (unopened : ¬Opens text.toList) :
    ofVariable text = .string text ↔
      text ≠ "true" ∧ text ≠ "false" ∧ number? text.toList = none := by
  constructor
  · intro same
    have noTruth : text ≠ "true" ∧ text ≠ "false" := by
      constructor
      · rintro rfl
        cases same
      · rintro rfl
        cases same
    rw [ofVariable_of_unopened trimmed unopened noTruth] at same
    refine ⟨noTruth.1, noTruth.2, ?_⟩
    cases number : number? text.toList with
    | none => rfl
    | some value =>
      rw [number, Option.getD_some] at same
      exact absurd (number.trans (congrArg some same)) (number?_ne_string _ _)
  · rintro ⟨noTruth, noFalsehood, noNumber⟩
    rw [ofVariable_of_unopened trimmed unopened ⟨noTruth, noFalsehood⟩, noNumber, Option.getD_none]

variable {entries : List (String × Layer)} {name key : String}
  {first last : List (String × String)}

/-- The layer of an environment in which one variable counts. -/
theorem ofEnvironment_single (named : variablePath? name = some [key])
    (others : ∀ setting ∈ first ++ last, variablePath? setting.1 = none) :
    ofEnvironment (first ++ (name, text) :: last) = .dict [(key, ofVariable text)] := by
  induction last using List.reverseRecOn with
  | nil =>
    rw [List.append_nil] at others
    rw [ofEnvironment_concat, named, ofEnvironment_of_no_variables others]
    rfl
  | append_singleton last setting ih =>
    rw [← List.append_assoc] at others
    obtain ⟨before, final⟩ := List.forall_mem_append.mp others
    have split : first ++ (name, text) :: (last ++ [setting]) =
        (first ++ (name, text) :: last) ++ [setting] := by simp
    rw [split, ofEnvironment_concat, final setting (List.mem_singleton_self setting)]
    exact ih before

/-- A single value lies over a text. -/
theorem override_single {old : String} (there : Entries.get? entries key = some (.string old))
    (value : Layer) :
    (dict entries).override (.dict [(key, value)]) = .dict (Entries.insert entries key value) := by
  have above : (string old).override value = value := by cases value <;> rfl
  rw [override, overrideEntries, there, overrideEntries]
  dsimp only
  rw [above]

/-- A text is read from a text. -/
theorem text_of_textAt? {expected : String} {found : Option String}
    (present : Entries.has entries key = true) (read : textAt? expected key entries = .ok found) :
    ∃ text, Entries.get? entries key = some (.string text) := by
  obtain ⟨value, there⟩ := Option.isSome_iff_exists.mp present
  rw [textAt?, there] at read
  obtain ⟨_, given, _⟩ := map_ok (underKey_ok read)
  cases value with
  | string text => exact ⟨text, there⟩
  | _ => cases given

theorem asPreferences_insert {own : Preferences} (read : (dict entries).asPreferences = .ok own)
    (value : Layer) :
    (dict (Entries.insert entries "default_profile" value)).asPreferences =
      match value with
      | .string chosen => .ok { own with defaultProfile := some chosen }
      | other => .error (.layer ["default_profile"] (.kind other.phrase "a string")) := by
  obtain ⟨defaults, profiles, _, printed, chosen, listed, same⟩ := Preferences.asPreferences_ok read
  have here : textAt? "a string" "default_profile" (Entries.insert entries "default_profile" value) =
      underKey "default_profile" ((value.asText "a string").map some) := by
    rw [textAt?, Entries.get?_insert, if_pos rfl]
  have elsewhere : ∀ {α : Type} (key : String) (read : Layer → Except LoadFault α),
      "default_profile" ≠ key → readAt? key read (Entries.insert entries "default_profile" value) =
        readAt? key read entries := by
    intro α key read different
    rw [readAt?, readAt?, Entries.get?_insert, if_neg different]
  rw [asPreferences, here, elsewhere "defaults" _ (by decide), elsewhere "profiles" _ (by decide),
    printed, listed]
  cases value with
  | string name =>
    dsimp only [asText, Except.map, underKey, Except.mapError, bind, Except.bind]
    rw [← chosen, ← same]
  | _ => rfl

end Layer

namespace Preferences

open Layer

variable {own : Preferences} {file : Option String} {first last : List (String × String)}
  {name text : String}

/-- What is loaded where one variable is over a file that is accepted, the one that names the default
profile. -/
theorem load_named (text : String) (alone : load file [] = .ok own)
    (named : variablePath? name = some ["default_profile"])
    (others : ∀ setting ∈ first ++ last, variablePath? setting.1 = none) :
    load file (first ++ (name, text) :: last) =
      match ofVariable text with
      | .string chosen => .ok { own with defaultProfile := some chosen }
      | other => .error (.layer ["default_profile"] (.kind other.phrase "a string")) := by
  rw [load_eq] at alone ⊢
  obtain ⟨entries, read, alone⟩ := bind_ok alone
  obtain ⟨_, loaded, valid⟩ := bind_ok alone
  obtain ⟨rfl, stored⟩ := validate_ok valid
  rw [layers, initialLayer, override] at loaded
  change (dict (overrideEntries _ entries)).asPreferences = _ at loaded
  rw [read]
  change (layers entries (first ++ (name, text) :: last)).asPreferences >>= validate = _
  rw [layers, initialLayer, override, ofEnvironment_single named others]
  -- the built-in values name a default profile, so a text stands where the variable is put
  obtain ⟨_, _, chosen, _⟩ := asPreferences_ok loaded
  obtain ⟨old, there⟩ := text_of_textAt? (by rw [has_overrideEntries]; rfl) chosen
  rw [override_single there, asPreferences_insert loaded]
  cases ofVariable text with
  | string chosen =>
    have kept : ∀ entry ∈ { own with defaultProfile := some chosen }.profiles,
      entry.2.store.isEmpty = false := stored
    exact validate_of_stored kept
  | _ => rfl

/-- The variable that names the default profile changes nothing else, and where it is no text
nothing is loaded. A name that begins with no bracket or quote is the default profile then, unless it
is a truth value or a number. -/
theorem load_overriddenDefault (alone : load file [] = .ok own)
    (named : variablePath? name = some ["default_profile"])
    (others : ∀ setting ∈ first ++ last, variablePath? setting.1 = none) :
    (load file (first ++ (name, text) :: last) =
      match ofVariable text with
      | .string chosen => .ok { own with defaultProfile := some chosen }
      | other => .error (.layer ["default_profile"] (.kind other.phrase "a string"))) ∧
    (Blank.trim text.toList = text.toList → ¬Opens text.toList →
      (load file (first ++ (name, text) :: last) = .ok { own with defaultProfile := some text } ↔
        text ≠ "true" ∧ text ≠ "false" ∧ number? text.toList = none)) := by
  have loads := load_named text alone named others
  refine ⟨loads, fun trimmed unopened => ?_⟩
  rw [← ofVariable_eq_iff trimmed unopened, loads]
  cases ofVariable text with
  | string chosen => simp
  | _ => exact iff_of_false nofun nofun

/-- A file with a profile that is called by a number. -/
def numberedPreferences : Preferences :=
  ⟨some "a", "json", "auto", [("5", ⟨"x.json", none⟩)]⟩

theorem load_numberedPreferences :
    load (some numberedPreferences.text) [] = .ok numberedPreferences :=
  load_text ⟨rfl, List.pairwise_singleton _ _, by decide⟩

theorem variablePath?_default :
    variablePath? "RDIO_ADMIN_DEFAULT_PROFILE" = some ["default_profile"] := by
  decide

theorem load_overriddenDefault_county :
    load (some numberedPreferences.text) [("HOME", "/root"), ("RDIO_ADMIN_DEFAULT_PROFILE", "county 5")] =
      .ok { numberedPreferences with defaultProfile := some "county 5" } := by
  have others : ∀ setting ∈ [("HOME", "/root")] ++ [], variablePath? setting.1 = none := by decide
  have trimmed : Blank.trim "county 5".toList = "county 5".toList := by decide
  have unopened : ¬Opens "county 5".toList := by
    rintro ⟨c, first, opens⟩
    cases first
    revert opens
    decide
  have noNumber : number? "county 5".toList = none :=
    number?_eq_none (c := 'u') (by decide) (by decide)
  have named := (load_overriddenDefault load_numberedPreferences variablePath?_default others).2
    trimmed unopened
  exact named.mpr ⟨by decide, by decide, noNumber⟩

/-- The profile that is called by a number cannot be named. -/
theorem load_default_number :
    load (some numberedPreferences.text) [] = .ok numberedPreferences ∧
      load (some numberedPreferences.text) [("RDIO_ADMIN_DEFAULT_PROFILE", "5")] =
        .error (.layer ["default_profile"] (.kind "unsigned int `5`" "a string")) := by
  have read : ofVariable "5" = .unsigned 5 := rfl
  have others : ∀ setting ∈ ([] : List (String × String)) ++ [], variablePath? setting.1 = none := nofun
  have failed := load_named "5" load_numberedPreferences variablePath?_default others
  rw [read] at failed
  exact ⟨load_numberedPreferences, failed⟩

end Preferences

end ScannerConfig
