import ScannerConfig.Proofs.LegacySpelling
import ScannerConfig.Proofs.Root

namespace ScannerConfig.Normalization

open Revision

section Spellings

/-- Options with their default value may be left out, and obsolete ones may be there. -/
def OptionsTrimmed (full trimmed : Record) : Prop :=
  ∀ key, key ∉ obsoleteOptions → trimmed.get? key = full.get? key ∨
    trimmed.get? key = none ∧
      ∃ value, full.get? key = some value ∧ defaultOptions.get? key = some value

/-- Options that all have their default value may be missing as a whole. -/
inductive OptionsSpelling : Option Json → Option Json → Prop
  | kept (options : Option Json) : OptionsSpelling options options
  | trimmed {full trimmed : Record} : OptionsTrimmed full trimmed →
      OptionsSpelling (some (.object full)) (some (.object trimmed))
  | dropped {full : Record} : OptionsTrimmed full [] → OptionsSpelling (some (.object full)) none

/-- A collection may stand under the older spelling of its key. -/
inductive CollectionSpelling (collection : Collection) (canonical legacy : Record) : Prop
  | kept : Option.Rel (RelatedItems SimpleSpelling)
        (canonical.get? collection.key) (legacy.get? collection.key) →
      (∀ spelling, collection.alias? = some spelling → legacy.get? spelling = none) →
      CollectionSpelling collection canonical legacy
  | renamed {spelling : String} : collection.alias? = some spelling →
      Option.Rel (RelatedItems SimpleSpelling)
        (canonical.get? collection.key) (legacy.get? spelling) →
      legacy.get? collection.key = none → CollectionSpelling collection canonical legacy

/-- A legacy document that says the same as a canonical one. -/
structure DocumentSpelling (canonical legacy : Record) : Prop where
  collections (collection : Collection) : CollectionSpelling collection canonical legacy
  systems : Option.Rel (RelatedItems SystemSpelling)
    (canonical.get? systemsKey) (legacy.get? systemsKey)
  options : OptionsSpelling (canonical.get? optionsKey) (legacy.get? optionsKey)
  outside : Entries.SameOutside ruledKeys canonical legacy

/-- A document that normalization has nothing to say about, with its lists in order. -/
structure Canonical (root : Record) : Prop where
  silent : (Report.ofChanges (normalize (.object root)).changes).isEmpty = true
  sorted (collection : Collection) : collection.isLabelSorted = true →
    ∀ items, root.get? collection.key = some (.array items) → LabelSorted items

end Spellings

section Options

variable {full trimmed : Record}

theorem OptionsTrimmed.restored (trim : OptionsTrimmed full trimmed) (keyed : full.WellKeyed)
    (keyedTrimmed : trimmed.WellKeyed) (silent : (completeOptions full).changes = []) :
    (Json.object (completeOptions trimmed).value).same (.object full) = true := by
  refine Json.same_of_get? (keepsKeyed_completeOptions trimmed keyedTrimmed) keyed.distinct
    fun key => ?_
  rw [← get?_completeOptions_of_silent keyed silent, get?_completeOptions keyed,
    get?_completeOptions keyedTrimmed]
  split
  · rfl
  · rename_i kept
    rcases trim key kept with same | ⟨gone, value, found, byDefault⟩
    · rw [same]
    · rw [gone, byDefault, found, Option.none_or, Option.some_or]

/-- Defaults may all be left out, and what stands there instead may be obsolete. -/
theorem OptionsTrimmed.of_obsolete {obsolete : Record} (inside : obsolete.keys ⊆ obsoleteOptions) :
    OptionsTrimmed defaultOptions obsolete := by
  intro key kept
  have gone : obsolete.get? key = none :=
    Entries.get?_eq_none_iff.mpr fun member => kept (inside member)
  cases found : defaultOptions.get? key with
  | none => exact .inl gone
  | some value => exact .inr ⟨gone, value, rfl, rfl⟩

theorem OptionsSpelling.restored {options legacy : Option Json}
    (spelled : OptionsSpelling options legacy) (keyed : KeyedValue options)
    (keyedLegacy : KeyedValue legacy)
    (silent : optionChanges options = []) :
    Json.SameFound (some (mergedOptions legacy)) options := by
  cases spelled with
  | kept => exact same_mergedOptions_of_silent keyed silent
  | trimmed trim =>
    exact .some (trim.restored (Json.wellKeyed_object.mp (keyed _ rfl))
      (Json.wellKeyed_object.mp (keyedLegacy _ rfl)) silent)
  | dropped trim =>
    exact .some (trim.restored (Json.wellKeyed_object.mp (keyed _ rfl)) .nil silent)

end Options

section Collections

variable {collection : Collection} {canonical legacy : Record}

theorem CollectionSpelling.value? (spelled : CollectionSpelling collection canonical legacy) :
    Option.Rel (RelatedItems SimpleSpelling)
      (canonical.get? collection.key) (collection.value? legacy) := by
  cases spelled with
  | kept related absent =>
    cases found : collection.alias? with
    | none =>
      rw [Collection.value?, found, Option.bind_none, Option.or_none]
      exact related
    | some spelling =>
      rw [Collection.value?, found, Option.bind_some, absent spelling found, Option.or_none]
      exact related
  | renamed found related gone =>
    rw [Collection.value?, found, Option.bind_some, gone, Option.none_or]
    exact related

/-- A list that is equal to one in order is in order itself. -/
theorem sortedItems_of_same {value other : Json} (keyed : value.wellKeyed = true)
    (keyedOther : other.wellKeyed = true) (same : value.same other = true)
    (sorted : ∀ items, other = .array items → LabelSorted items) : sortedItems value = value := by
  cases value with
  | array items =>
    cases other with
    | array others =>
      rw [Json.same_array] at same
      have members := forall₂_with_members (Json.wellKeyed_array.mp keyed)
        (Json.wellKeyed_array.mp keyedOther) same
      have labels : items.map labelOf = others.map labelOf := by
        rw [← List.forall₂_eq_eq_eq, List.forall₂_map_left_iff, List.forall₂_map_right_iff]
        exact members.imp fun item other facts => labelOf_of_same facts.1 facts.2.1 facts.2.2
      rw [sortedItems, sortByLabel_of_sorted ((sorted others rfl).of_labels labels)]
    | _ => simp [Json.same] at same
  | _ => rfl

theorem restored_collection (collection : Collection) {value other : Json}
    (keyed : value.wellKeyed = true) (keyedOther : other.wellKeyed = true)
    (silent : itemChanges reconcileSimple (some value) = [])
    (sorted : collection.isLabelSorted = true → ∀ items, value = .array items → LabelSorted items)
    (related : RelatedItems SimpleSpelling value other) :
    (collectionAfter collection other).same value = true := by
  have same := restores_reconcileSimple.items keyed keyedOther silent related
  rw [collectionAfter]
  split
  · rename_i labelled
    have keyedRevised := keepsKeyed_reconcileSimple.revisedItems keyedOther
    rwa [sortedItems_of_same keyedRevised keyed same (sorted labelled)]
  · exact same

end Collections

section Documents

variable {canonical legacy : Record}

theorem CollectionSpelling.restored {collection : Collection}
    (spelled : CollectionSpelling collection canonical legacy) (keyed : canonical.WellKeyed)
    (keyedLegacy : legacy.WellKeyed)
    (silent : itemChanges reconcileSimple (canonical.get? collection.key) = [])
    (sorted : collection.isLabelSorted = true → ∀ items,
      canonical.get? collection.key = some (.array items) → LabelSorted items) :
    Json.SameFound ((normalizeRoot legacy).value.get? collection.key) (canonical.get? collection.key) := by
  have related := spelled.value?
  have keyedValue := keyed.keyedValue collection.key
  have keyedOther := keyedValue_collection keyedLegacy collection
  rw [normalizeRoot_collection keyedLegacy]
  generalize canonical.get? collection.key = value at *
  generalize collection.value? legacy = other at *
  cases related with
  | none => exact .none
  | some related =>
    exact .some (restored_collection collection (keyedValue _ rfl) (keyedOther _ rfl) silent
      (fun labelled items same => sorted labelled items (congrArg some same)) related)

/-- Normalization brings back a canonical document from each of its older spellings. -/
theorem normalize_of_documentSpelling (keyed : (Json.object canonical).wellKeyed = true)
    (keyedLegacy : (Json.object legacy).wellKeyed = true) (canon : Canonical canonical)
    (spelled : DocumentSpelling canonical legacy) :
    (normalize (.object legacy)).value.same (.object canonical) = true := by
  have keyedRoot := Json.wellKeyed_object.mp keyed
  have keyedOld := Json.wellKeyed_object.mp keyedLegacy
  have quiet := Report.isEmpty_ofChanges.mp canon.silent
  rw [changes_normalize_object] at quiet
  obtain ⟨noSpelling, collections, systems, options⟩ :=
    (changes_normalizeRoot_eq_nil keyedRoot).mp quiet
  rw [normalize_object,
    Json.same_object (keepsKeyed_normalizeRoot legacy keyedOld).distinct keyedRoot.distinct]
  intro key
  rcases ruledKeys_cases key with outside | spelling | ⟨collection, rfl⟩ | rfl | rfl
  · rw [normalizeRoot_outside keyedOld key outside, spelled.outside key outside]
    exact Json.sameFound_refl (keyedRoot.keyedValue _)
  · rw [normalizeRoot_spelling keyedOld spelling, noSpelling key spelling]
    exact .none
  · have quietCollection := collections collection
    rw [value?_of_no_spelling noSpelling] at quietCollection
    exact (spelled.collections collection).restored keyedRoot keyedOld quietCollection
      (canon.sorted collection)
  · rw [normalizeRoot_systems keyedOld]
    exact restores_fixSystem.under (keyedRoot.keyedValue _)
      (keyedOld.keyedValue _) systems spelled.systems
  · rw [normalizeRoot_options keyedOld]
    exact spelled.options.restored (keyedRoot.keyedValue _)
      (keyedOld.keyedValue _) options

/-- A canonical document of several kinds of records. -/
def currentRoot : Record := [
  ("apikeys", .array [.object [("id", .ofNat 1)]]),
  ("groups", .array [.object [("id", .ofNat 2), ("label", .string "air")],
    .object [("id", .ofNat 3), ("label", .string "fire")]]),
  ("systems", .array [.object [("id", .ofNat 4), ("systemRef", .ofNat 5), ("sites", .array []),
    ("units", .array [.object [("id", .ofNat 6), ("unitRef", .ofNat 7), ("unitFrom", .null),
      ("unitTo", .ofNat 8)]]),
    ("talkgroups", .array [.object [("talkgroupRef", .ofNat 9), ("groupIds", .array [.ofNat 2])]])]]),
  ("options", .object defaultOptions)]

/-- The same document as an older version wrote it. -/
def formerRoot : Record := [
  ("apiKeys", .array [.object [("_id", .ofNat 1)]]),
  ("groups", .array [.object [("_id", .ofNat 2), ("label", .string "air")],
    .object [("id", .ofNat 3), ("label", .string "fire")]]),
  ("systems", .array [.object [("_id", .ofNat 4), ("id", .ofNat 5),
    ("units", .array [.object [("_id", .ofNat 6), ("unitRef", .ofNat 7), ("unitTo", .ofNat 8)]]),
    ("talkgroups", .array [.object [("id", .ofNat 9), ("groupId", .ofNat 2)]])]]),
  ("options", .object [("tagsToggle", .bool true)])]

theorem currentRoot_canonical : Canonical currentRoot where
  silent := by decide
  sorted collection labelled items found := by
    have inOrder : ∀ value, currentRoot.get? Collection.groups.key = some (.array value) →
        LabelSorted value := by
      intro value same
      cases same
      decide
    cases collection with
    | groups => exact inOrder items found
    | tags => cases found
    | _ => cases labelled

theorem formerRoot_spelling : DocumentSpelling currentRoot formerRoot where
  collections collection := by
    cases collection with
    | apiKeys =>
      exact .renamed rfl (.some (.items (.cons (.record (.legacyId rfl rfl rfl
        (Entries.sameOutside_of_filter rfl))) .nil))) rfl
    | groups =>
      exact .kept (.some (.items (.cons (.record (.legacyId rfl rfl rfl
        (Entries.sameOutside_of_filter rfl))) (.cons (.record (.kept fun _ => rfl)) .nil)))) nofun
    | dirWatch | downstreams => exact .kept .none fun _ found => Option.some.inj found ▸ rfl
    | _ => exact .kept .none nofun
  systems := .some (.items (.cons (.record {
    identity := .both _ _
    sites := .dropped
    units := .some (.items (.cons (.record {
      identity := .legacy _ _
      seeded := by
        intro field member noReference
        simp only [unitFields, List.mem_cons, List.not_mem_nil, or_false] at member
        rcases member with rfl | rfl | rfl
        · exact absurd rfl noReference
        · exact .inr ⟨rfl, rfl⟩
        · exact .inl rfl
      outside := Entries.sameOutside_of_filter rfl }) .nil))
    talkgroups := .some (.items (.cons (.record {
      identity := .reference _
      groups := .single rfl rfl rfl
      outside := Entries.sameOutside_of_filter rfl }) .nil))
    outside := Entries.sameOutside_of_filter rfl }) .nil))
  options := .trimmed (.of_obsolete (by decide))
  outside := Entries.sameOutside_of_filter rfl

theorem normalize_formerRoot :
    (Json.object currentRoot).wellKeyed = true ∧ (Json.object formerRoot).wellKeyed = true ∧
      Canonical currentRoot ∧ DocumentSpelling currentRoot formerRoot ∧
      (normalize (.object formerRoot)).value.same (.object currentRoot) = true :=
  ⟨by decide, by decide, currentRoot_canonical, formerRoot_spelling,
    normalize_of_documentSpelling (by decide) (by decide) currentRoot_canonical formerRoot_spelling⟩

end Documents

end ScannerConfig.Normalization
