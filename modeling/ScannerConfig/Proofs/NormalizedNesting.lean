import ScannerConfig.Proofs.Nesting
import ScannerConfig.Proofs.Root

namespace ScannerConfig

namespace Normalization

open Revision

/-- A rule under which all values of a record stay within a property. -/
def KeepsEach (property : Json → Prop) (rule : Record → Revision Record) : Prop :=
  ∀ record, record.Each property → (rule record).value.Each property

section Records

variable {property : Json → Prop}

theorem KeepsEach.bind {first second : Record → Revision Record}
    (keeps : KeepsEach property first) (later : KeepsEach property second) :
    KeepsEach property fun record => first record >>= second :=
  fun record each => later _ (keeps record each)

theorem keepsEach_renameLegacyId : KeepsEach property renameLegacyId := by
  intro record each
  rw [renameLegacyId]
  split
  · exact each
  · split
    · rename_i popped
      obtain ⟨legacy, rest⟩ := each.pop? popped
      exact rest.insert idKey legacy
    · exact each

theorem keepsEach_discardLegacyId : KeepsEach property discardLegacyId := by
  intro record each
  rw [discardLegacyId]
  split
  · rename_i popped
    exact (each.pop? popped).2
  · exact each

theorem keepsEach_extractReference (referenceKey : String) :
    KeepsEach property (extractReference referenceKey) := by
  intro record each
  rw [extractReference]
  split
  · rename_i popped
    obtain ⟨id, rest⟩ := each.pop? popped
    exact rest.insert referenceKey id
  · exact each

theorem keepsEach_reconcileSimple : KeepsEach property reconcileSimple :=
  keepsEach_renameLegacyId.bind keepsEach_discardLegacyId

theorem keepsEach_reconcileSystem : KeepsEach property reconcileSystem := by
  intro record each
  rw [reconcileSystem]
  split
  · rename_i popped
    obtain ⟨legacy, rest⟩ := each.pop? popped
    exact (keepsEach_extractReference systemRefKey _ rest).insert idKey legacy
  · split
    · exact keepsEach_extractReference systemRefKey record each
    · exact each

theorem keepsEach_seedUnitFields (null : property .null) (fields : List String) :
    KeepsEach property (seedUnitFields fields) := by
  induction fields with
  | nil => exact fun _ each => each
  | cons field fields ih =>
    intro record each
    rw [seedUnitFields]
    split
    · exact ih record each
    · exact ih _ (each.insert field null)

theorem keepsEach_reconcileUnit (null : property .null) : KeepsEach property reconcileUnit := by
  intro record each
  have identified : (identifyUnit record).value.Each property := by
    refine keepsEach_discardLegacyId _ ?_
    split
    · exact keepsEach_extractReference unitRefKey record each
    · exact keepsEach_renameLegacyId record each
  rw [reconcileUnit_eq, value_bind]
  exact keepsEach_seedUnitFields null unitFields _ identified

end Records

section Levels

variable {property : Nat → Json → Prop} {level : Nat}

/-- A group of a talkgroup stands in a list, one level deeper than it stood alone. -/
theorem withGroup_layered (layered : Json.Layered property) {group : Json.Number}
    {groups : Option Json} (single : property (level + 1) (.number group))
    (others : ∀ value, groups = some value → property (level + 1) value) :
    property (level + 1) (withGroup (.number group) groups) := by
  have inside : property level (.number group) := layered.number level single
  unfold withGroup
  split
  · rename_i items
    have each := others _ rfl
    split
    · exact each
    · refine layered.array.mpr fun item member => ?_
      rcases List.mem_append.mp member with old | new
      · exact layered.array.mp each item old
      · rwa [List.mem_singleton.mp new]
  · exact layered.array.mpr (List.forall_mem_singleton.mpr inside)

theorem keepsEach_foldGroup (layered : Json.Layered property) :
    KeepsEach (property (level + 1)) foldGroup := by
  intro record each
  rw [foldGroup]
  split
  · exact each
  · rename_i popped
    obtain ⟨single, rest⟩ := each.pop? popped
    exact rest.insert groupIdsKey (withGroup_layered layered single fun _ found => rest.get? found)
  · rename_i popped
    exact (each.pop? popped).2

theorem keepsEach_reconcileTalkgroup (layered : Json.Layered property) :
    KeepsEach (property (level + 1)) reconcileTalkgroup := by
  intro record each
  have identified : (identifyTalkgroup record).value.Each (property (level + 1)) := by
    refine keepsEach_discardLegacyId _ (keepsEach_renameLegacyId _ ?_)
    split
    · exact keepsEach_extractReference talkgroupRefKey record each
    · exact each
  rw [reconcileTalkgroup_eq, value_bind]
  exact keepsEach_foldGroup layered _ identified

variable {rule : Record → Revision Record}

theorem revisedItems_layered (layered : Json.Layered property)
    (keeps : KeepsEach (property level) rule) {value : Json} (holds : property (level + 2) value) :
    property (level + 2) (revisedItems rule value) := by
  cases value with
  | array items =>
    refine layered.array.mpr (List.forall_mem_map.mpr fun item member => ?_)
    have inside := layered.array.mp holds item member
    cases item with
    | object record => exact layered.object.mpr (keeps record (layered.object.mp inside))
    | _ => exact inside
  | _ => exact holds

theorem KeepsEach.under (keeps : KeepsEach (property level) rule)
    (layered : Json.Layered property) (key : String) (notice : Notice) :
    KeepsEach (property (level + 2)) (under key notice rule) := by
  intro parent each
  rw [value_under]
  cases found : parent.get? key with
  | none => exact each
  | some value => exact each.insert key (revisedItems_layered layered keeps (each.get? found))

theorem keepsEach_fixSites (layered : Json.Layered property) :
    KeepsEach (property (level + 2)) fixSites := by
  intro system each
  have none : property (level + 2) (.array []) := layered.array.mpr fun _ member => by cases member
  rw [fixSites]
  split
  · exact each.insert sitesKey none
  · exact each.insert sitesKey none
  · exact keepsEach_reconcileSimple.under layered _ _ system each

theorem keepsEach_fixSystem (layered : Json.Layered property) :
    KeepsEach (property (level + 3)) fixSystem :=
  keepsEach_reconcileSystem.bind <| (keepsEach_fixSites layered).bind <|
    ((keepsEach_reconcileUnit (layered.null _)).under layered _ _).bind
      ((keepsEach_reconcileTalkgroup layered).under layered _ _)

section Options

variable {options : Record}

theorem each_takeOptions {property : Json → Prop} {rows : List OptionRow}
    (defaults : ∀ row ∈ rows, property row.default.toJson) (each : options.Each property) :
    Entries.Each property (takeOptions rows options).value.1 ∧
      (takeOptions rows options).value.2.Each property := by
  induction rows generalizing options with
  | nil => exact ⟨nofun, each⟩
  | cons row rows ih =>
    obtain ⟨here, later⟩ := List.forall_mem_cons.mp defaults
    obtain ⟨taken, left⟩ := ih later (each.erase row.key)
    rw [takeOptions_cons]
    refine ⟨List.forall_mem_cons.mpr ⟨?_, taken⟩, left⟩
    cases found : options.get? row.key with
    | none => exact here
    | some value => exact each.get? found

theorem keepsEach_pruneOptions {property : Json → Prop} (keys : List String) :
    KeepsEach property (pruneOptions keys) := by
  induction keys with
  | nil => exact fun _ each => each
  | cons key keys ih =>
    intro options each
    rw [pruneOptions]
    split
    · rename_i popped
      exact ih _ (each.pop? popped).2
    · exact ih options each

theorem default_layered (layered : Json.Layered property) (level : Nat) {row : OptionRow}
    (member : row ∈ optionTable) : property level row.default.toJson := by
  have small : ∀ row ∈ optionTable,
      (match row.default with | .number n => decide (n < 2 ^ 64) | _ => true) = true := by decide
  have here := small row member
  cases kind : row.default with
  | toggle value => exact layered.bool level value
  | text value => exact layered.string level value
  | number n =>
    simp only [kind, decide_eq_true_eq] at here
    exact layered.natural level here

theorem keepsEach_completeOptions (layered : Json.Layered property) :
    KeepsEach (property level) completeOptions := by
  intro options each
  have defaults : ∀ row ∈ optionTable, property level row.default.toJson := fun _ member =>
    default_layered layered level member
  obtain ⟨taken, left⟩ := each_takeOptions defaults each
  exact keepsEach_pruneOptions _ _ (taken.insertAll left)

theorem mergedOptions_layered (layered : Json.Layered property) {options : Option Json}
    (holds : ∀ value, options = some value → property (level + 1) value) :
    property (level + 1) (mergedOptions options) := by
  have completed : ∀ given : Record, given.Each (property level) →
      property (level + 1) (.object (completeOptions given).value) := fun given each =>
    layered.object.mpr (keepsEach_completeOptions layered given each)
  rcases options with _ | value
  · exact completed [] nofun
  · cases value with
    | object given => exact completed given (layered.object.mp (holds _ rfl))
    | null => exact completed [] nofun
    | _ => exact holds _ rfl

theorem keepsEach_mergeOptions (layered : Json.Layered property) :
    KeepsEach (property (level + 1)) mergeOptions := by
  intro root each
  rw [value_mergeOptions]
  exact (each.erase optionsKey).insert optionsKey
    (mergedOptions_layered layered fun _ found => each.get? found)

end Options

theorem keepsEach_renameKey {property : Json → Prop} (spelling key : String) :
    KeepsEach property (renameKey spelling key) := by
  intro root each
  rw [renameKey]
  split
  · exact each
  · rename_i popped
    obtain ⟨value, rest⟩ := each.pop? popped
    dsimp only [value_changed]
    split
    · exact rest
    · exact rest.insert key value

theorem keepsEach_renameEach {property : Json → Prop} (pairs : List (String × String)) :
    KeepsEach property (renameEach pairs) := by
  induction pairs with
  | nil => exact fun _ each => each
  | cons pair pairs ih => exact (keepsEach_renameKey pair.1 pair.2).bind ih

theorem keepsEach_reconcileEach (layered : Json.Layered property) (collections : List Collection) :
    KeepsEach (property (level + 2)) (reconcileEach collections) := by
  induction collections with
  | nil => exact fun _ each => each
  | cons collection collections ih =>
    exact (keepsEach_reconcileSimple.under layered _ _).bind ih

theorem sortCollections_layered (layered : Json.Layered property) {root : Record}
    (each : root.Each (property (level + 1))) :
    (sortCollections root).Each (property (level + 1)) := by
  have sorted : ∀ value, property (level + 1) value → property (level + 1) (sortedItems value) := by
    intro value holds
    cases value with
    | array items =>
      refine layered.array.mpr fun item member => layered.array.mp holds item ?_
      exact (stablySorted_sortByLabel items).perm.mem_iff.mp member
    | _ => exact holds
  rw [sortCollections_eq]
  exact (each.modify sorted _).modify sorted _

theorem keepsEach_normalizeRoot (layered : Json.Layered property) :
    KeepsEach (property (level + 5)) normalizeRoot := by
  intro root each
  have revised : (reviseRecords root).value.Each (property (level + 5)) :=
    (keepsEach_renameEach aliases).bind ((keepsEach_reconcileEach layered Collection.all).bind
      ((keepsEach_fixSystem layered).under layered _ _)) root each
  rw [normalizeRoot_eq, value_bind]
  exact keepsEach_mergeOptions layered _ (sortCollections_layered layered revised)

/-- Six levels are those of the root, its systems, a system, its talkgroups, a talkgroup and
its groups. -/
theorem normalize_layered (layered : Json.Layered property) {document : Json}
    (holds : property (level + 6) document) : property (level + 6) (normalize document).value := by
  cases document with
  | object root =>
    exact layered.object.mpr (keepsEach_normalizeRoot layered root (layered.object.mp holds))
  | _ => exact holds

end Levels

theorem depth_normalize_le {document : Json} {level : Nat} (enough : 6 ≤ level)
    (fits : document.depth ≤ level) : (normalize document).value.depth ≤ level := by
  obtain ⟨more, rfl⟩ := Nat.exists_eq_add_of_le' enough
  exact normalize_layered Json.layered_depth fits

theorem integral_normalize {document : Json} (integral : document.integral = true) :
    (normalize document).value.integral = true :=
  @normalize_layered _ 0 Json.layered_integral document integral

end Normalization

end ScannerConfig
