import ScannerConfig.Proofs.Equality

namespace ScannerConfig

theorem Report.isEmpty_ofChanges {changes : List Change} :
    (Report.ofChanges changes).isEmpty = true ↔ changes = [] := by
  simp only [Report.isEmpty, Report.ofChanges, List.all_eq_true, beq_iff_eq, List.count_eq_zero]
  constructor
  · intro absent
    exact List.eq_nil_iff_forall_not_mem.mpr fun change => absent change (Change.mem_all change)
  · rintro rfl change _
    exact List.not_mem_nil

namespace Revision

variable {α β : Type}

@[simp] theorem value_keep (value : α) : (keep value).value = value := rfl
@[simp] theorem changes_keep (value : α) : (keep value).changes = [] := rfl

@[simp] theorem value_changed (change : Change) (value : α) :
    (changed change value).value = value := rfl

@[simp] theorem changes_changed (change : Change) (value : α) :
    (changed change value).changes = [change] := rfl

@[simp] theorem value_skipped (notice : Notice) (value : α) :
    (skipped notice value).value = value := rfl

@[simp] theorem changes_skipped (notice : Notice) (value : α) :
    (skipped notice value).changes = [] := rfl

@[simp] theorem value_bind (first : Revision α) (next : α → Revision β) :
    (first >>= next).value = (next first.value).value := rfl

@[simp] theorem changes_bind (first : Revision α) (next : α → Revision β) :
    (first >>= next).changes = first.changes ++ (next first.value).changes := rfl

/-- A rule that tells of no change has made none. -/
def Accounted (rule : α → Revision α) : Prop :=
  ∀ value, (rule value).changes = [] → (rule value).value = value

theorem Accounted.bind {first second : α → Revision α} (accounted : Accounted first)
    (later : Accounted second) : Accounted fun value => first value >>= second := by
  intro value silent
  rw [changes_bind, List.append_eq_nil_iff] at silent
  have unchanged := accounted value silent.1
  rw [unchanged] at silent
  rw [value_bind, unchanged, later value silent.2]

/-- A rule under which records stay free of repeated keys. -/
def KeepsKeyed (rule : Record → Revision Record) : Prop :=
  ∀ record, record.WellKeyed → (rule record).value.WellKeyed

theorem KeepsKeyed.bind {first second : Record → Revision Record} (keeps : KeepsKeyed first)
    (later : KeepsKeyed second) : KeepsKeyed fun record => first record >>= second :=
  fun record keyed => later _ (keeps record keyed)

/-- An item after a rule: only objects are revised. -/
def revised (rule : Record → Revision Record) : Json → Json
  | .object record => .object (rule record).value
  | other => other

/-- A value after a rule for the records in it: only arrays hold records. -/
def revisedItems (rule : Record → Revision Record) : Json → Json
  | .array items => .array (items.map (revised rule))
  | other => other

/-- An object is related to an object; anything else is related to itself only. -/
inductive RelatedItem (relation : Record → Record → Prop) : Json → Json → Prop
  | record {record other : Record} : relation record other →
      RelatedItem relation (.object record) (.object other)
  | other {item : Json} : (∀ record, item ≠ .object record) → RelatedItem relation item item

/-- Lists are related item by item; what is no list is related to itself only. -/
inductive RelatedItems (relation : Record → Record → Prop) : Json → Json → Prop
  | items {items others : List Json} : List.Forall₂ (RelatedItem relation) items others →
      RelatedItems relation (.array items) (.array others)
  | other {value : Json} : (∀ items, value ≠ .array items) → RelatedItems relation value value

def record? : Json → Option Record
  | .object record => some record
  | _ => none

/-- The records in a value: the objects of an array, and none in anything else. -/
def recordsOf : Option Json → List Record
  | some (.array items) => items.filterMap record?
  | _ => []

/-- The changes that a rule makes to the records in a value. -/
def itemChanges (rule : Record → Revision Record) (value : Option Json) : List Change :=
  (recordsOf value).flatMap fun record => (rule record).changes

variable {rule : Record → Revision Record}

theorem record?_eq_some_iff {item : Json} {record : Record} :
    record? item = some record ↔ item = .object record := by
  cases item <;> simp [record?]

theorem mem_recordsOf {value : Option Json} {record : Record} :
    record ∈ recordsOf value ↔ ∃ items, value = some (.array items) ∧ .object record ∈ items := by
  rcases value with _ | value
  · simp [recordsOf]
  · cases value <;> simp [recordsOf, List.mem_filterMap, record?_eq_some_iff]

theorem wellKeyed_of_mem_recordsOf {value : Option Json} {record : Record}
    (keyed : KeyedValue value)
    (member : record ∈ recordsOf value) : record.WellKeyed := by
  obtain ⟨items, rfl, inside⟩ := mem_recordsOf.mp member
  exact Json.wellKeyed_object.mp (Json.wellKeyed_array.mp (keyed _ rfl) _ inside)

theorem record?_revised (rule : Record → Revision Record) (item : Json) :
    record? (revised rule item) = (record? item).map fun record => (rule record).value := by
  cases item <;> rfl

theorem recordsOf_revisedItems (rule : Record → Revision Record) (value : Option Json) :
    recordsOf (value.map (revisedItems rule)) =
      (recordsOf value).map fun record => (rule record).value := by
  rcases value with _ | value
  · rfl
  · cases value with
    | array items =>
      simp only [Option.map_some, revisedItems, recordsOf, List.filterMap_map,
        List.map_filterMap]
      exact List.filterMap_congr fun item _ => record?_revised rule item
    | _ => rfl

theorem revised_of_not_object {item : Json} (noObject : ∀ record, item ≠ .object record) :
    revised rule item = item := by
  cases item with
  | object record => exact absurd rfl (noObject record)
  | _ => rfl

theorem revisedItems_of_not_array {value : Json} (noArray : ∀ items, value ≠ .array items) :
    revisedItems rule value = value := by
  cases value with
  | array items => exact absurd rfl (noArray items)
  | _ => rfl

theorem value_records (rule : Record → Revision Record) (items : List Json) :
    (records rule items).value = items.map (revised rule) := by
  induction items with
  | nil => rfl
  | cons item rest ih => cases item <;> simp [records, revised, ih]

theorem changes_records (rule : Record → Revision Record) (items : List Json) :
    (records rule items).changes = itemChanges rule (some (.array items)) := by
  rw [itemChanges, recordsOf]
  induction items with
  | nil => rfl
  | cons item rest ih => cases item <;> simp [records, record?, ih, List.filterMap_cons]

theorem Accounted.revisedItems (accounted : Accounted rule) {value : Json}
    (silent : itemChanges rule (some value) = []) : revisedItems rule value = value := by
  cases value with
  | array items =>
    rw [itemChanges, List.flatMap_eq_nil_iff] at silent
    refine congrArg Json.array ((List.map_congr_left fun item member => ?_).trans (List.map_id items))
    cases item with
    | object record =>
      exact congrArg Json.object (accounted record (silent record (mem_recordsOf.mpr ⟨items, rfl, member⟩)))
    | _ => rfl
  | _ => rfl

theorem KeepsKeyed.revised (keeps : KeepsKeyed rule) {item : Json}
    (keyed : item.wellKeyed = true) : (revised rule item).wellKeyed = true := by
  cases item with
  | object record => exact Json.wellKeyed_object.mpr (keeps record (Json.wellKeyed_object.mp keyed))
  | _ => exact keyed

theorem KeepsKeyed.revisedItems (keeps : KeepsKeyed rule) {value : Json}
    (keyed : value.wellKeyed = true) : (revisedItems rule value).wellKeyed = true := by
  cases value with
  | array items =>
    rw [Revision.revisedItems, Json.wellKeyed_array, List.forall_mem_map]
    exact fun item member => keeps.revised (Json.wellKeyed_array.mp keyed item member)
  | _ => exact keyed

section Under

variable (key : String) (notice : Notice) (rule : Record → Revision Record) (parent : Record)

theorem value_under :
    (under key notice rule parent).value =
      match parent.get? key with
      | some value => parent.insert key (revisedItems rule value)
      | none => parent := by
  unfold under
  cases found : parent.get? key with
  | none => rfl
  | some value =>
    cases value <;> simp [value_records, revisedItems, Entries.insert_of_get? found]

theorem get?_under (other : String) :
    (under key notice rule parent).value.get? other =
      if key = other then (parent.get? key).map (revisedItems rule) else parent.get? other := by
  rw [value_under]
  cases found : parent.get? key with
  | none =>
    by_cases same : key = other
    · simp [← same, found]
    · simp [same]
  | some value => simp only [Entries.get?_insert, Option.map_some]

theorem changes_under :
    (under key notice rule parent).changes = itemChanges rule (parent.get? key) := by
  unfold under
  cases found : parent.get? key with
  | none => rfl
  | some value => cases value <;> simp [itemChanges, recordsOf, changes_records]

variable {rule}

theorem Accounted.under (accounted : Accounted rule) : Accounted (under key notice rule) := by
  intro parent silent
  rw [changes_under] at silent
  rw [value_under]
  cases found : parent.get? key with
  | none => rfl
  | some value =>
    rw [found] at silent
    simp only [accounted.revisedItems silent, Entries.insert_of_get? found]

theorem KeepsKeyed.under (keeps : KeepsKeyed rule) : KeepsKeyed (under key notice rule) := by
  intro parent keyed
  rw [value_under]
  cases found : parent.get? key with
  | none => exact keyed
  | some value => exact keyed.insert key (keeps.revisedItems (keyed.value found))

end Under

end Revision

end ScannerConfig
