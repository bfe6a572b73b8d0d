import ScannerConfig.Proofs.Root

namespace ScannerConfig.Normalization

open Revision

def SimpleFrame (before after : Record) : Prop :=
  Entries.SameOutside [legacyIdKey, idKey] before after

/-- Of the fields that every unit has only those may be touched that were not there. -/
def UnitFrame (before after : Record) : Prop :=
  Entries.SameOutside
    ([legacyIdKey, idKey] ++ unitFields.filter fun field => !before.has field) before after

def TalkgroupFrame (before after : Record) : Prop :=
  Entries.SameOutside [legacyIdKey, idKey, talkgroupRefKey, groupIdKey, groupIdsKey] before after

inductive FramedSites : Option Json → Option Json → Prop
  | absent : FramedSites none (some (.array []))
  | null : FramedSites (some .null) (some (.array []))
  | present {before after : Json} : before ≠ .null → RelatedItems SimpleFrame before after →
      FramedSites (some before) (some after)

structure SystemFrame (before after : Record) : Prop where
  outside : Entries.SameOutside ([legacyIdKey, idKey, systemRefKey] ++ memberKeys) before after
  sites : FramedSites (before.get? sitesKey) (after.get? sitesKey)
  units : Option.Rel (RelatedItems UnitFrame) (before.get? unitsKey) (after.get? unitsKey)
  talkgroups :
    Option.Rel (RelatedItems TalkgroupFrame) (before.get? talkgroupsKey) (after.get? talkgroupsKey)

/-- The list of a collection in the order in which it is shown. -/
inductive Arranged (collection : Collection) : Json → Json → Prop
  | sorted {items arranged : List Json} : collection.isLabelSorted = true →
      StablySorted items arranged → Arranged collection (.array items) (.array arranged)
  | unsorted {items : List Json} : collection.isLabelSorted = false →
      Arranged collection (.array items) (.array items)
  | other {value : Json} : (∀ items, value ≠ .array items) → Arranged collection value value

def CollectionFrame (collection : Collection) (before after : Json) : Prop :=
  ∃ arranged, Arranged collection before arranged ∧ RelatedItems SimpleFrame arranged after

structure RootFrame (before after : Record) : Prop where
  outside : Entries.SameOutside ruledKeys before after
  collections : ∀ collection : Collection,
    Option.Rel (CollectionFrame collection) (collection.value? before)
      (after.get? collection.key)
  systems : Option.Rel (RelatedItems SystemFrame) (before.get? systemsKey) (after.get? systemsKey)

section Lists

variable {frame : Record → Record → Prop} {rule : Record → Revision Record}

theorem relatedItem_revised (frames : ∀ record, record.WellKeyed → frame record (rule record).value)
    {item : Json} (keyed : item.wellKeyed = true) : RelatedItem frame item (revised rule item) := by
  cases item with
  | object record => exact .record (frames record (Json.wellKeyed_object.mp keyed))
  | _ => exact .other fun _ => nofun

theorem relatedItems_revisedItems
    (frames : ∀ record, record.WellKeyed → frame record (rule record).value)
    {value : Json} (keyed : value.wellKeyed = true) :
    RelatedItems frame value (revisedItems rule value) := by
  cases value with
  | array items =>
    have inside := Json.wellKeyed_array.mp keyed
    refine .items (List.forall₂_map_right_iff.mpr (List.forall₂_same.mpr fun item member => ?_))
    exact relatedItem_revised frames (inside item member)
  | _ => exact .other fun _ => nofun

/-- A rule for the records under a key frames what stands there. -/
theorem relatedItems_under (frames : ∀ record, record.WellKeyed → frame record (rule record).value)
    {value : Option Json} (keyed : KeyedValue value) :
    Option.Rel (RelatedItems frame) value (value.map (revisedItems rule)) := by
  cases value with
  | none => exact .none
  | some before => exact .some (relatedItems_revisedItems frames (keyed before rfl))

end Lists

section Records

variable {record : Record}

theorem unitFrame_reconcileUnit (keyed : record.WellKeyed) :
    UnitFrame record (reconcileUnit record).value := by
  intro key outside
  simp only [List.mem_append, List.mem_cons, List.not_mem_nil, or_false, List.mem_filter,
    Bool.not_eq_true', not_or, not_and] at outside
  obtain ⟨⟨noLegacy, noId⟩, notAbsent⟩ := outside
  by_cases unitField : key ∈ unitFields
  · have present := Bool.of_not_eq_false (notAbsent unitField)
    obtain ⟨value, found⟩ := Entries.has_eq_true_iff.mp present
    rw [found, get?_reconcileUnit_of_unitField keyed unitField found]
  · have noReference : key ≠ unitRefKey := fun same => unitField (same ▸ by decide)
    rw [get?_reconcileUnit_outside keyed (by simp [noLegacy, noId, noReference]),
      if_neg unitField]

theorem framedSites_fixedSites {sites : Option Json} (keyed : KeyedValue sites) :
    FramedSites sites (some (fixedSites sites)) := by
  rcases sites_cases sites with missing | ⟨value, rfl, notNull⟩
  · rcases missing with rfl | rfl
    · exact .absent
    · exact .null
  · rw [(fixedSites_of_present notNull).1]
    exact .present notNull
      (relatedItems_revisedItems (fun _ => sameOutside_reconcileSimple) (keyed value rfl))

theorem systemFrame_fixSystem (keyed : record.WellKeyed) :
    SystemFrame record (fixSystem record).value := by
  refine ⟨sameOutside_fixSystem keyed, ?_, ?_, ?_⟩
  · rw [get?_fixSystem_sites keyed]
    exact framedSites_fixedSites (keyed.keyedValue _)
  · rw [get?_fixSystem_units keyed]
    exact relatedItems_under (fun _ => unitFrame_reconcileUnit) (keyed.keyedValue _)
  · rw [get?_fixSystem_talkgroups keyed]
    exact relatedItems_under (fun _ => sameOutside_reconcileTalkgroup)
      (keyed.keyedValue _)

end Records

section Collections

theorem labelOf_reconcileSimple {item : Json} (keyed : item.wellKeyed = true) :
    labelOf (revised reconcileSimple item) = labelOf item := by
  cases item with
  | object record =>
    have label := sameOutside_reconcileSimple (Json.wellKeyed_object.mp keyed) "label" (by decide)
    simp only [revised, labelOf, label]
  | _ => rfl

/-- The rule spares the labels, so that a list can be put in order before it as well as after. -/
theorem sortedItems_revisedItems {value : Json} (keyed : value.wellKeyed = true) :
    sortedItems (revisedItems reconcileSimple value) =
      revisedItems reconcileSimple (sortedItems value) := by
  cases value with
  | array items =>
    have inside := Json.wellKeyed_array.mp keyed
    exact congrArg Json.array
      (sortByLabel_map fun item member => labelOf_reconcileSimple (inside item member))
  | _ => rfl

theorem collectionFrame_collectionAfter (collection : Collection) {value : Json}
    (keyed : value.wellKeyed = true) :
    CollectionFrame collection value (collectionAfter collection value) := by
  have frames : ∀ record : Record, record.WellKeyed →
      SimpleFrame record (reconcileSimple record).value := fun _ => sameOutside_reconcileSimple
  by_cases labelled : collection.isLabelSorted = true
  · rw [collectionAfter, if_pos labelled]
    cases value with
    | array items =>
      -- The rule spares the labels, so that the records could as well be sorted before it.
      have inside := Json.wellKeyed_array.mp keyed
      have stable := stablySorted_sortByLabel items
      have keyedSorted := wellKeyed_sortedItems keyed
      have swapped := sortByLabel_map fun item member => labelOf_reconcileSimple (inside item member)
      rw [revisedItems, sortedItems, swapped]
      exact ⟨_, .sorted labelled stable, relatedItems_revisedItems frames keyedSorted⟩
    | _ => exact ⟨_, .other fun _ same => (by cases same), .other fun _ same => (by cases same)⟩
  · rw [collectionAfter, if_neg labelled]
    refine ⟨value, ?_, relatedItems_revisedItems frames keyed⟩
    cases value with
    | array items => exact .unsorted (Bool.eq_false_iff.mpr labelled)
    | _ => exact .other fun _ same => by cases same

end Collections

theorem rootFrame_normalizeRoot {root : Record} (keyed : root.WellKeyed) :
    RootFrame root (normalizeRoot root).value := by
  refine ⟨normalizeRoot_outside keyed, fun collection => ?_, ?_⟩
  · rw [normalizeRoot_collection keyed]
    cases found : collection.value? root with
    | none => exact .none
    | some value =>
      have inside := keyedValue_collection keyed collection value found
      exact .some (collectionFrame_collectionAfter collection inside)
  · rw [normalizeRoot_systems keyed]
    exact relatedItems_under (fun _ => systemFrame_fixSystem) (keyed.keyedValue _)

/-- Normalization touches nothing that its rules are not about. -/
theorem normalize_frame {document : Json} (keyed : document.wellKeyed = true) :
    RelatedItem RootFrame document (normalize document).value := by
  cases document with
  | object root => exact .record (rootFrame_normalizeRoot (Json.wellKeyed_object.mp keyed))
  | _ => exact .other fun _ => nofun

theorem normalize_frame_mixed :
    let document : Json := .object [
      ("downStreams", .array [.object [("_id", .ofNat 1), ("url", .string "")], .bool true]),
      ("downstreams", .null),
      ("tags", .array [.object [("label", .string "b")], .object [("id", .ofNat 2)]]),
      ("systems", .array [.ofNat 3, .object [("_id", .ofNat 4), ("led", .null),
        ("units", .array [.object [("unitFrom", .ofNat 5), ("label", .string "car")]])]])]
    document.wellKeyed = true ∧ RelatedItem RootFrame document (normalize document).value :=
  ⟨by decide, normalize_frame (by decide)⟩

end ScannerConfig.Normalization
