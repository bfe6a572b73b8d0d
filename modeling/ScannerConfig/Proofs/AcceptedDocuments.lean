import ScannerConfig.Proofs.WellTyped

namespace ScannerConfig

open Normalization (systemsKey optionsKey)
open Json (ListOf RecordWith OrNull IsList IsRecord)

/-- What an older spelling brings to a collection that has no value of its own is null or a list of
records. -/
def Json.SpellingsTyped : Json → Prop :=
  RecordWith fun root => ∀ pair ∈ aliases, root.get? pair.2 = none →
    root.Allows pair.1 (OrNull (ListOf IsRecord))

instance : DecidablePred Json.SpellingsTyped :=
  inferInstanceAs (DecidablePred (RecordWith fun root => ∀ pair ∈ aliases, root.get? pair.2 = none →
    root.Allows pair.1 (OrNull (ListOf IsRecord))))

namespace Normalization

open Revision

section Items

variable {rule : Record → Revision Record} {value : Json}

variable {fits fitsAfter : Record → Prop}

/-- A rule that makes records fit makes the records of a list fit. -/
theorem listOf_revisedItems (keyed : value.wellKeyed = true)
    (brings : ∀ record, record.WellKeyed → fits record → fitsAfter (rule record).value)
    (typed : ListOf (RecordWith fits) value) :
    ListOf (RecordWith fitsAfter) (revisedItems rule value) := by
  cases value with
  | array items =>
    refine List.forall_mem_map.mpr fun item member => ?_
    have keyedItem := Json.wellKeyed_array.mp keyed item member
    have typedItem := typed item member
    cases item with
    | object record => exact brings record (Json.wellKeyed_object.mp keyedItem) typedItem
    | _ => exact typedItem
  | _ => exact typed

theorem isNull_revisedItems : (revisedItems rule value).isNull = value.isNull := by
  cases value <;> rfl

theorem allows_revisedItems {before after : Record} {key : String} (keyed : before.WellKeyed)
    (becomes : after.get? key = (before.get? key).map (revisedItems rule))
    (brings : ∀ record, record.WellKeyed → fits record → fitsAfter (rule record).value)
    (typed : before.Allows key (OrNull (ListOf (RecordWith fits)))) :
    after.Allows key (OrNull (ListOf (RecordWith fitsAfter))) := by
  intro value found
  rw [becomes] at found
  obtain ⟨given, there, rfl⟩ := Option.map_eq_some_iff.mp found
  rw [OrNull, isNull_revisedItems]
  exact (typed given there).imp_right (listOf_revisedItems (keyed.value there) brings)

theorem isRecord_revised (item : Json) : IsRecord (revised rule item) ↔ IsRecord item := by
  cases item <;> rfl

/-- A collection is a list of records as much as before. -/
theorem orNull_collectionAfter (collection : Collection) :
    OrNull (ListOf IsRecord) (collectionAfter collection value) ↔
      OrNull (ListOf IsRecord) value := by
  rw [collectionAfter]
  cases value with
  | array items =>
    have each : (∀ item ∈ items.map (revised reconcileSimple), IsRecord item) ↔
        ∀ item ∈ items, IsRecord item := by
      simp only [List.forall_mem_map, isRecord_revised]
    refine or_congr ?_ ?_
    · split <;> rfl
    · split
      · refine Iff.trans ?_ each
        exact forall_congr' fun item => imp_congr_left (stablySorted_sortByLabel _).perm.mem_iff
      · exact each
  | _ => split <;> rfl

end Items

section Systems

variable {system talkgroup : Record}

theorem isList_withGroup (group : Json) (groups : Option Json) :
    IsList (withGroup group groups) := by
  unfold withGroup
  repeat split
  all_goals exact fun _ _ => trivial

theorem typedTalkgroup_reconcileTalkgroup (keyed : talkgroup.WellKeyed)
    (typed : TypedTalkgroup talkgroup) : TypedTalkgroup (reconcileTalkgroup talkgroup).value := by
  intro value found
  rw [get?_reconcileTalkgroup keyed, if_neg (by decide), if_pos rfl] at found
  unfold foldedGroups at found
  split at found
  · cases found
    exact .inr (isList_withGroup _ _)
  · exact typed value found

theorem typedSystem_fixSystem (keyed : system.WellKeyed) (typed : TypedSystem system) :
    TypedSystem (fixSystem system).value where
  sites := by
    intro value found
    rw [get?_fixSystem_sites keyed] at found
    cases found
    rcases sites_cases (system.get? sitesKey) with missing | ⟨sites, there, notNull⟩
    · have empty : fixedSites (system.get? sitesKey) = .array [] := by
        rcases missing with absent | null
        · rw [absent, fixedSites]
        · rw [null, fixedSites]
      rw [empty]
      exact List.forall_mem_nil _
    · rw [there, (fixedSites_of_present notNull).1]
      exact listOf_revisedItems (keyed.value there) (fun _ _ _ => trivial) (typed.sites sites there)
  units :=
    allows_revisedItems keyed (get?_fixSystem_units keyed) (fun _ _ _ => trivial) typed.units
  talkgroups :=
    allows_revisedItems keyed (get?_fixSystem_talkgroups keyed)
      (fun _ => typedTalkgroup_reconcileTalkgroup) typed.talkgroups

end Systems

section Options

variable {options : Record}

/-- The default of each option is of its kind. -/
theorem holds_default : ∀ row ∈ optionTable, row.kind.holds row.default.toJson = true := by
  decide

/-- Options that are completed are complete. -/
theorem fullOptions_completeOptions (keyed : options.WellKeyed) (typed : TypedOptions options) :
    FullOptions (completeOptions options).value where
  typed := by
    rw [TypedOptions, forall_option_iff fun kind key =>
      Entries.Allows _ key fun value => kind.holds value = true] at typed ⊢
    intro row member value found
    have canonical : row.key ∈ optionKeys := List.mem_map_of_mem member
    have kept : row.key ∉ obsoleteOptions := fun obsolete =>
      obsolete_not_canonical row.key obsolete canonical
    rw [get?_completeOptions keyed, if_neg kept, get?_defaultOptions member] at found
    cases there : options.get? row.key with
    | none =>
      rw [there] at found
      cases found
      exact holds_default row member
    | some given =>
      rw [there] at found
      cases found
      exact typed row member _ there
  full := by
    rw [forall_option_iff fun _ key => Entries.has (completeOptions options).value key = true]
    exact fun row member => has_completeOptions_canonical keyed (List.mem_map_of_mem member)

end Options

section Root

variable {root : Record}

/-- Where the collections of a root are typed under their own keys, what it holds of them is typed
if those older spellings are that come to be used. -/
theorem collections_typed_iff
    (typed : ∀ collection : Collection, root.Allows collection.key (OrNull (ListOf IsRecord))) :
    (∀ collection : Collection, ∀ value ∈ collection.value? root, OrNull (ListOf IsRecord) value) ↔
      ∀ pair ∈ aliases, root.get? pair.2 = none →
        root.Allows pair.1 (OrNull (ListOf IsRecord)) := by
  constructor
  · rintro held ⟨spelling, key⟩ member absent value found
    obtain ⟨collection, -, some⟩ := List.mem_filterMap.mp member
    obtain ⟨other, spelled, same⟩ := Option.map_eq_some_iff.mp some
    cases same
    refine held collection value ?_
    rw [Collection.value?, absent, Option.none_or, spelled]
    exact found
  · intro spellings collection value held
    rw [Collection.value?] at held
    cases found : root.get? collection.key with
    | some given =>
      rw [found] at held
      cases held
      exact typed collection value found
    | none =>
      rw [found, Option.none_or] at held
      obtain ⟨spelling, spelled, there⟩ := Option.bind_eq_some_iff.mp held
      exact spellings _ (collection_of_alias spelled) found value there

theorem fullOptions_mergedOptions {value : Option Json} (keyed : KeyedValue value)
    (typed : ∀ options ∈ value, RecordWith TypedOptions options) :
    RecordWith FullOptions (mergedOptions value) := by
  cases value with
  | none => exact fullOptions_completeOptions .nil (by decide)
  | some value =>
    have fits := typed value rfl
    cases value with
    | object options =>
      exact fullOptions_completeOptions (Json.wellKeyed_object.mp (keyed _ rfl)) fits
    | _ => exact fits.elim

/-- A root that is well typed in part is well typed when it is normalized, if its spellings are. -/
theorem typedRoot_normalizeRoot (keyed : root.WellKeyed) (typed : TypedRoot TypedOptions root) :
    TypedRoot FullOptions (normalizeRoot root).value ↔ Json.SpellingsTyped (.object root) := by
  have collections : (∀ collection : Collection,
      (normalizeRoot root).value.Allows collection.key (OrNull (ListOf IsRecord))) ↔
        Json.SpellingsTyped (.object root) := by
    refine Iff.trans (forall_congr' fun collection => ?_) (collections_typed_iff typed.collections)
    simp only [Entries.Allows, normalizeRoot_collection keyed, Option.mem_map, forall_exists_index,
      and_imp, forall_apply_eq_imp_iff₂, orNull_collectionAfter]
  refine ⟨fun normal => collections.mp normal.collections, fun spellings => ?_⟩
  refine ⟨collections.mpr spellings, ?_, ?_⟩
  · exact allows_revisedItems keyed (normalizeRoot_systems keyed) (fun _ => typedSystem_fixSystem)
      typed.systems
  · intro value found
    rw [normalizeRoot_options keyed] at found
    cases found
    exact fullOptions_mergedOptions (keyed.keyedValue optionsKey) typed.options

end Root

end Normalization

/-- The typed view accepts exactly the well-typed documents. A document that merely lacks options
is accepted once it is normalized if it has well-typed collections under the older spellings too. -/
theorem Configuration.ofJson_accepts {document : Json} (keyed : document.wellKeyed = true) :
    ((∃ config, ofJson document = .ok config) ↔ document.WellTyped) ∧
      (¬document.WellTyped → ∃ error, ofJson document = .error error) ∧
      (document.WellTypedInPart →
        ((∃ config, ofJson (normalize document).value = .ok config) ↔
          document.SpellingsTyped)) := by
  have accepted : (∃ config, ofJson document = .ok config) ↔ document.WellTyped := accepts keyed
  have refused (untyped : ¬document.WellTyped) : ∃ error, ofJson document = .error error :=
    fails_of_not_succeeds (accepted.not.mpr untyped)
  have normal := accepts (Normalization.wellKeyed_normalize keyed)
  refine ⟨accepted, refused, fun typed => normal.trans ?_⟩
  cases document with
  | object root =>
    exact Normalization.typedRoot_normalizeRoot (Json.wellKeyed_object.mp keyed) typed
  | _ => exact typed.elim

/-- A document with a single option, and with a collection under its older spelling. -/
def partialDocument : Json := .object [
  ("apiKeys", .array [.object [("_id", .ofNat 1)]]),
  ("groups", .null),
  ("systems", .array [.object [("sites", .array []), ("units", .null),
    ("talkgroups", .array [.object [("id", .ofNat 5), ("groupId", .ofNat 2),
      ("groupIds", .null)]])]]),
  ("options", .object [("maxClients", .ofNat 50)])]

theorem Configuration.ofJson_accepts_partial :
    partialDocument.wellKeyed = true ∧
      (¬partialDocument.WellTyped ∧ ∃ error, ofJson partialDocument = .error error) ∧
      partialDocument.WellTypedInPart ∧ partialDocument.SpellingsTyped ∧
        ∃ config, ofJson (normalize partialDocument).value = .ok config := by
  have keyed : partialDocument.wellKeyed = true := by decide
  have lacks : ¬partialDocument.WellTyped := by decide
  have typed : partialDocument.WellTypedInPart := by decide
  have spelled : partialDocument.SpellingsTyped := by decide
  obtain ⟨-, refused, normal⟩ := ofJson_accepts keyed
  exact ⟨keyed, ⟨lacks, refused lacks⟩, typed, spelled, (normal typed).mpr spelled⟩

/-- A number that stands under an older spelling is moved into a collection. -/
def misspelledDocument : Json := .object [("apiKeys", .ofNat 5), ("options", .object [])]

theorem Configuration.ofJson_refuses_misspelled :
    ¬∀ document : Json, document.wellKeyed = true → document.WellTypedInPart →
      ∃ config, ofJson (normalize document).value = .ok config := by
  intro accepted
  have refused : ofJson (normalize misspelledDocument).value =
      .error (.kind (.number (.integer 5)) .list) := by rfl
  obtain ⟨config, read⟩ := accepted misspelledDocument (by decide) (by decide)
  rw [refused] at read
  cases read

end ScannerConfig
