import ScannerConfig.Proofs.OptionOrder
import ScannerConfig.Proofs.StringText

namespace ScannerConfig

namespace Json

variable {layout : Layout} {level : Nat} {front : Entries Json}

/-- Entries in front of others are written the same way whatever the others are. -/
theorem entryChars_append (layout : Layout) (level : Nat) (front : Entries Json) :
    ∃ before, ∀ entry rest, entryChars layout level (front ++ entry :: rest) =
      before ++ entryChars layout level (entry :: rest) := by
  induction front with
  | nil => exact ⟨[], fun _ _ => rfl⟩
  | cons first front ih =>
    obtain ⟨before, written⟩ := ih
    refine ⟨layout.line level ++ stringChars first.1 ++ layout.colon ++
      chars layout level first.2 ++ ',' :: before, fun entry rest => ?_⟩
    have several : entryChars layout level (first :: (front ++ entry :: rest)) =
        layout.line level ++ stringChars first.1 ++ layout.colon ++ chars layout level first.2 ++
          ',' :: entryChars layout level (front ++ entry :: rest) := by
      cases front <;> rfl
    rw [List.cons_append, several, written entry rest, List.append_assoc _ (',' :: before)]
    rfl

/-- The text of some entries begins with the first key. -/
theorem entryChars_cons (layout : Layout) (level : Nat) (entry : String × Json)
    (rest : Entries Json) :
    ∃ behind, entryChars layout level (entry :: rest) =
      layout.line level ++ (stringChars entry.1 ++ behind) := by
  cases rest with
  | nil =>
    exact ⟨layout.colon ++ chars layout level entry.2, by
      simp only [entryChars, List.append_assoc]⟩
  | cons second rest =>
    exact ⟨layout.colon ++ (chars layout level entry.2 ++
      ',' :: entryChars layout level (second :: rest)), by
        simp only [entryChars, List.append_assoc]⟩

/-- No written key is the beginning of another. -/
theorem stringChars_append_inj {key other : String} {behind after : List Char}
    (same : stringChars key ++ behind = stringChars other ++ after) : key = other := by
  have bytes := congrArg Utf8.encode same
  rw [Utf8.encode_append, Utf8.encode_append, Parser.encode_stringChars, Parser.encode_stringChars,
    List.cons_append, List.cons_append, List.cons.injEq] at bytes
  have reads := fun (text : String) (rest : List Char) =>
    Parser.stringText_quotedTail
      (Nat.lt_succ_self (Parser.quotedTail text ++ Utf8.encode rest).length)
  have first := reads key behind
  rw [bytes.2, reads other after] at first
  injection first with found
  exact (congrArg Prod.fst found).symm

theorem chars_object (layout : Layout) (level : Nat) (entry : String × Json) (rest : Entries Json) :
    chars layout level (.object (entry :: rest)) =
      '{' :: (entryChars layout (level + 1) (entry :: rest) ++ (layout.line level ++ ['}'])) := by
  rw [chars, List.cons_append, List.cons_append, List.append_assoc]

/-- Texts of objects tell the keys apart that stand behind the same entries. -/
theorem key_eq_of_chars {entry other : String × Json} {rest others : Entries Json}
    {behind after : List Char}
    (same : chars layout level (.object (front ++ entry :: rest)) ++ behind =
      chars layout level (.object (front ++ other :: others)) ++ after) : entry.1 = other.1 := by
  obtain ⟨before, written⟩ := entryChars_append layout (level + 1) front
  obtain ⟨tail, text⟩ := entryChars_cons layout (level + 1) entry rest
  obtain ⟨otherTail, otherText⟩ := entryChars_cons layout (level + 1) other others
  have whole : ∀ (e : String × Json) (es : Entries Json),
      chars layout level (.object (front ++ e :: es)) =
        '{' :: (before ++ entryChars layout (level + 1) (e :: es) ++
          (layout.line level ++ ['}'])) := by
    intro e es
    rw [← written e es]
    cases front <;> exact chars_object layout level _ _
  rw [whole, whole, text, otherText] at same
  simp only [List.cons_append, List.append_assoc, List.cons.injEq, true_and,
    List.append_cancel_left_eq] at same
  exact stringChars_append_inj same

/-- Texts of objects tell apart the objects that stand last in them, by the first key in which
these differ. -/
theorem key_eq_of_last_chars {key : String} {entries : Entries Json} {entry other : String × Json}
    {rest others : Entries Json}
    (same : chars layout level (.object (entries ++ [(key, .object (front ++ entry :: rest))])) =
      chars layout level (.object (entries ++ [(key, .object (front ++ other :: others))]))) :
    entry.1 = other.1 := by
  obtain ⟨before, written⟩ := entryChars_append layout (level + 1) entries
  have whole : ∀ value : Json, chars layout level (.object (entries ++ [(key, value)])) =
      '{' :: (before ++ (layout.line (level + 1) ++ (stringChars key ++ (layout.colon ++
        (chars layout (level + 1) value ++ (layout.line level ++ ['}'])))))) := by
    intro value
    have last := written (key, value) []
    simp only [entryChars, List.append_assoc] at last
    have opened : chars layout level (.object (entries ++ [(key, value)])) =
        '{' :: (entryChars layout (level + 1) (entries ++ [(key, value)]) ++
          (layout.line level ++ ['}'])) := by
      cases entries <;> exact chars_object layout level _ _
    rw [opened, last]
    simp only [List.append_assoc]
  rw [whole, whole] at same
  simp only [List.cons.injEq, true_and, List.append_cancel_left_eq] at same
  exact key_eq_of_chars same

end Json

namespace Normalization

section Texts

/-- The options of a document in their order, if it has a record of them. -/
def options? : Json → Option Record
  | .object root =>
    match Entries.get? root optionsKey with
    | some (.object options) => some options
    | _ => none
  | _ => none

/-- The options behind as many as there are canonical ones. -/
def furtherOptions (document : Json) : Record :=
  ((options? document).getD []).drop optionTable.length

/-- The document with its further options turned, and with all else in its place. -/
def turnOptions : Json → Json
  | .object root => .object (Entries.modify root optionsKey turnedValue)
  | other => other

/-- How a document that has passed twice is left by a further pass. -/
structure SettlesAsText (second third : Json) : Prop where
  turned : third = turnOptions second
  canonicalFirst : ∀ options, options? second = some options →
    Entries.keys (options.take optionTable.length) = optionKeys
  text_iff : third.compact = second.compact ↔ (furtherOptions second).length ≤ 1

variable {root : Record}

theorem options?_normalizeRoot (keyed : root.WellKeyed) :
    options? (.object (normalizeRoot root).value) =
      match mergedOptions (root.get? optionsKey) with
      | .object options => some options
      | _ => none := by
  rw [options?, normalizeRoot_options keyed]
  cases mergedOptions (root.get? optionsKey) <;> rfl

theorem turnOptions_normalizeRoot (keyed : root.WellKeyed) :
    ∃ others : Record,
      (normalizeRoot root).value = others ++ [(optionsKey, mergedOptions (root.get? optionsKey))] ∧
        (normalizeRoot root).value.modify optionsKey turnedValue =
          others ++ [(optionsKey, turnedValue (mergedOptions (root.get? optionsKey)))] := by
  obtain ⟨others, absent, last⟩ := options_last keyed
  refine ⟨others, last, ?_⟩
  rw [last, Entries.modify_append absent]
  rfl

/-- Turning two options or more shows in the text. -/
theorem compact_turnOptions_iff (keyed : root.WellKeyed) :
    (turnOptions (.object (normalizeRoot root).value)).compact =
        (Json.object (normalizeRoot root).value).compact ↔
      (furtherOptions (.object (normalizeRoot root).value)).length ≤ 1 := by
  obtain ⟨others, last, turned⟩ := turnOptions_normalizeRoot keyed
  rw [furtherOptions, options?_normalizeRoot keyed, turnOptions, turned]
  rcases mergedOptions_cases (keyed.keyedValue optionsKey) with
    ⟨given, canonical, further, same, arranged⟩ | none
  · simp only [same, turnedValue, Option.getD_some, arranged.drop] at last ⊢
    rw [turnedOptions, arranged.take, arranged.drop]
    constructor
    · intro sameText
      by_contra several
      have distinct : further.Distinct := by
        have all := arranged.keyed.distinct
        rw [arranged.split, Entries.Distinct, Entries.keys_append] at all
        exact (List.nodup_append.mp all).2.1
      obtain ⟨first, rest, final, before, split, turnedSplit, different⟩ :=
        Entries.turned_head distinct (by omega) (by decide : 0 < optionTable.length)
      rw [last, turnedSplit, arranged.split, split] at sameText
      exact different (Json.key_eq_of_last_chars (String.ofList_inj.mp sameText)).symm
    · intro short
      rw [Entries.turned_of_short _ short, ← arranged.split, last]
  · have unturned : turnedValue (mergedOptions (root.get? optionsKey)) =
        mergedOptions (root.get? optionsKey) := by
      cases merged : mergedOptions (root.get? optionsKey) with
      | object given => exact absurd merged (none given).1
      | _ => rfl
    rw [unturned, ← last]
    refine iff_of_true rfl ?_
    cases merged : mergedOptions (root.get? optionsKey) with
    | object given => exact absurd merged (none given).1
    | _ => simp

theorem third_eq_turnOptions (keyed : root.WellKeyed) :
    let second := (normalizeRoot (normalizeRoot root).value).value
    Json.object (normalizeRoot second).value = turnOptions (.object second) :=
  congrArg Json.object
    (normalizeRoot_of_silent (keepsKeyed_normalizeRoot root keyed) (third_pass keyed).2)

/-- After two passes a document is settled but for the order of its further options. Where it has
no more than one of these, its text is settled, too. -/
theorem normalize_settles_text {document : Json} (keyed : document.wellKeyed = true) :
    SettlesAsText (normalize (normalize document).value).value
      (normalize (normalize (normalize document).value).value).value := by
  cases document with
  | object root =>
    have first := keepsKeyed_normalizeRoot root (Json.wellKeyed_object.mp keyed)
    have turned := third_eq_turnOptions (Json.wellKeyed_object.mp keyed)
    simp only [normalize_object]
    refine ⟨turned, fun options found => ?_, ?_⟩
    · rw [options?_normalizeRoot first] at found
      rcases mergedOptions_cases (first.keyedValue optionsKey) with
        ⟨given, canonical, further, same, arranged⟩ | none
      · rw [same, Option.some.injEq] at found
        rw [← found, arranged.take, arranged.inFront]
      · split at found
        · rename_i merged
          exact absurd merged (none _).1
        · exact absurd found (Option.some_ne_none _).symm
    · rw [turned]
      exact compact_turnOptions_iff first
  | _ => exact ⟨rfl, nofun, iff_of_true rfl (Nat.zero_le 1)⟩

theorem normalize_settles_text_site :
    let document : Json := .object [
      ("options", .object [("siteName", .string "county"), ("tagsToggle", .bool true)]),
      ("systems", .array [.object [("_id", .ofNat 1), ("label", .string "fire")]])]
    document.wellKeyed = true ∧
      SettlesAsText (normalize (normalize document).value).value
        (normalize (normalize (normalize document).value).value).value :=
  ⟨by decide, normalize_settles_text (by decide)⟩

/-- With two further options the text of a document changes with every pass. -/
theorem text_unsettled :
    let document : Json := .object [("options", .object [("alpha", .null), ("beta", .null)])]
    document.wellKeyed = true ∧
      (normalize (normalize (normalize document).value).value).value.compact ≠
        (normalize (normalize document).value).value.compact := by
  have keyed : Entries.WellKeyed [("options", .object [("alpha", .null), ("beta", .null)])] :=
    Json.wellKeyed_object.mp (by decide)
  have two : (furtherOptions (normalize (normalize (.object
      [("options", .object [("alpha", .null), ("beta", .null)])])).value).value).length = 2 := rfl
  refine ⟨by decide, fun same => ?_⟩
  simp only [normalize_object, third_eq_turnOptions keyed] at same two
  have short := (compact_turnOptions_iff (keepsKeyed_normalizeRoot _ keyed)).mp same
  omega

end Texts

end Normalization

end ScannerConfig
