import ScannerConfig.Proofs.RecordSchema
import ScannerConfig.Proofs.Revising
import ScannerConfig.Proofs.Steps

namespace ScannerConfig

def Json.isNull : Json → Bool
  | .null => true
  | _ => false

namespace Entries

variable {α : Type} {entries : Entries α}

theorem get?_filter_of_distinct (distinct : entries.Distinct) (p : String × α → Bool) (key : String) :
    Entries.get? (entries.filter p) key = (entries.get? key).filter fun value => p (key, value) := by
  induction entries with
  | nil => rfl
  | cons entry rest ih =>
    obtain ⟨k, v⟩ := entry
    obtain ⟨fresh, distinctRest⟩ := distinct_cons.mp distinct
    rw [List.filter_cons]
    by_cases same : k = key
    · subst same
      cases kept : p (k, v) with
      | true => simp [get?, Option.filter, kept]
      | false =>
        have absent : Entries.get? rest k = none := get?_eq_none_iff.mpr fresh
        simp [get?, Option.filter, kept, ih distinctRest, absent]
    · cases kept : p (k, v) <;> simp [get?, same, ih distinctRest]

theorem get?_mapValues (entries : Entries α) (f : String → α → α) (key : String) :
    Entries.get? (entries.map fun entry => (entry.1, f entry.1 entry.2)) key =
      (entries.get? key).map (f key) := by
  induction entries with
  | nil => rfl
  | cons entry rest ih =>
    obtain ⟨k, v⟩ := entry
    by_cases same : k = key
    · subst same
      simp [get?]
    · simp [get?, same, ih]

end Entries

/-- How a view differs from a record: the keys whose null is left out, the entries that are added
where they are missing, and what becomes of a value under its key. -/
structure RecordView where
  nullable : List String
  defaults : Entries Json
  inside : String → Json → Json
  distinct : defaults.Distinct

namespace RecordView

variable (view : RecordView)

/-- What a view has for a key, by what the record has. -/
def found (key : String) : Option Json → Option Json
  | none => view.defaults.get? key
  | some value =>
    if key ∈ view.nullable ∧ value.isNull = true then none else some (view.inside key value)

/-- Whether an entry stays in a view. -/
def keeps (entry : String × Json) : Bool :=
  !(decide (entry.1 ∈ view.nullable) && entry.2.isNull)

def apply (record : Record) : Record :=
  (record.filter view.keeps).map (fun entry => (entry.1, view.inside entry.1 entry.2)) ++
    view.defaults.filter fun entry => !record.has entry.1

/-- An object as its view; other values are what they are. -/
def item : Json → Json
  | .object record => .object (view.apply record)
  | other => other

def items : Json → Json
  | .array values => .array (values.map view.item)
  | other => other

variable {view} {record : Record}

theorem get?_apply (distinct : record.Distinct) (key : String) :
    (view.apply record).get? key = view.found key (record.get? key) := by
  rw [apply, Entries.get?_append, Entries.get?_mapValues, Entries.get?_filter_of_distinct distinct,
    Entries.get?_filter_of_distinct view.distinct]
  simp only [Entries.has]
  cases there : record.get? key with
  | none => cases fallback : view.defaults.get? key <;> simp [found, fallback]
  | some value =>
    have noDefault : (view.defaults.get? key).filter (fun _ => !(some value).isSome) = none := by
      cases view.defaults.get? key <;> rfl
    rw [noDefault, Option.or_none, found]
    by_cases dropped : key ∈ view.nullable ∧ value.isNull = true
    · simp [keeps, dropped]
    · have kept : view.keeps (key, value) = true := by
        rw [keeps, Bool.not_eq_true', Bool.and_eq_false_iff, decide_eq_false_iff_not,
          Bool.eq_false_iff]
        exact not_and_or.mp dropped
      simp [kept, dropped]

theorem distinct_apply (distinct : record.Distinct) : (view.apply record).Distinct := by
  have keys : Entries.keys ((record.filter view.keeps).map
      fun entry => (entry.1, view.inside entry.1 entry.2)) = (record.filter view.keeps).map Prod.fst := by
    simp [Entries.keys]
  rw [Entries.Distinct, apply, Entries.keys, List.map_append, List.nodup_append]
  refine ⟨?_, (List.filter_sublist.map Prod.fst).nodup view.distinct, ?_⟩
  · rw [← Entries.keys, keys]
    exact (List.filter_sublist.map Prod.fst).nodup distinct
  · rintro key inRecord other inDefaults rfl
    rw [← Entries.keys, keys] at inRecord
    have present := Entries.has_iff_mem_keys.mpr ((List.filter_sublist.map Prod.fst).subset inRecord)
    obtain ⟨entry, member, rfl⟩ := List.mem_map.mp inDefaults
    have absent := (List.mem_filter.mp member).2
    simp [present] at absent

/-- Views that leave out the same nulls agree on a record that has all defaults of both. -/
theorem apply_congr {other : RecordView} (nullable : view.nullable = other.nullable)
    (inside : ∀ entry ∈ record, view.inside entry.1 entry.2 = other.inside entry.1 entry.2)
    (complete : ∀ entry ∈ view.defaults ++ other.defaults, record.has entry.1 = true) :
    view.apply record = other.apply record := by
  have noDefaults : ∀ defaults : Entries Json, (∀ entry ∈ defaults, record.has entry.1 = true) →
      defaults.filter (fun entry => !record.has entry.1) = [] := by
    intro defaults present
    rw [List.filter_eq_nil_iff]
    exact fun entry member => by simp [present entry member]
  obtain ⟨first, second⟩ := List.forall_mem_append.mp complete
  have keeps : view.keeps = other.keeps := by
    funext entry
    rw [RecordView.keeps, RecordView.keeps, nullable]
  rw [apply, apply, noDefaults _ first, noDefaults _ second, keeps]
  exact congrArg (· ++ []) (List.map_congr_left fun entry member =>
    congrArg (Prod.mk entry.1) (inside entry (List.mem_filter.mp member).1))

/-- Views that agree on each revised record agree on a list of them. -/
theorem items_revisedItems {other : RecordView} {rule : Record → Revision Record} {value : Json}
    (each : ∀ record ∈ Revision.recordsOf (some value),
      view.apply (rule record).value = other.apply (rule record).value) :
    view.items (Revision.revisedItems rule value) = other.items (Revision.revisedItems rule value) := by
  cases value with
  | array values =>
    refine congrArg Json.array ?_
    rw [List.map_map, List.map_map]
    refine List.map_congr_left fun item member => ?_
    cases item with
    | object record =>
      exact congrArg Json.object (each record (Revision.mem_recordsOf.mpr ⟨values, rfl, member⟩))
    | _ => rfl
  | _ => rfl

end RecordView

/-- A reader and a writer: what was read is written as a view of its value, and is read from there
as it was. -/
def Restates {τ : Type} (read : Json → Except ShapeError τ) (write : τ → Json) (view : Json → Json) :
    Prop :=
  ∀ ⦃value : Json⦄ ⦃result : τ⦄, value.wellKeyed = true → read value = .ok result →
    (write result).wellKeyed = true ∧ (write result).same (view value) = true ∧
      read (write result) = .ok result

section Readers

variable {τ : Type} {read : Json → Except ShapeError τ} {write : τ → Json}

theorem restates_id : Restates .ok (fun value => value) fun value => value := by
  rintro value result keyed ⟨⟩
  exact ⟨keyed, Json.same_refl value keyed, rfl⟩

theorem RecordSchema.restates (kind : RecordKind) {schema : RecordSchema τ} {view : RecordView}
    {add : τ → String × Json → Except ShapeError τ} (lawful : schema.Lawful)
    (extensional : schema.Extensional) (added : schema.AddedBy add)
    (reads : ∀ value, read value = ShapeError.asRecord kind value >>=
      fun entries => entries.foldlM add schema.empty)
    (writes : ∀ record, write record = .object (schema.entries record))
    (shows : ∀ slot ∈ schema.slots, slot.field.Shows (view.found slot.key))
    (unchanged : ∀ key ∉ schema.keys, ∀ found, view.found key found = found) :
    Restates read write view.item := by
  intro value result keyed ok
  cases value with
  | object entries =>
    have record := Json.wellKeyed_object.mp keyed
    have ofEntries : ∀ entries, read (.object entries) = entries.foldlM add schema.empty := fun _ =>
      reads _
    rw [ofEntries] at ok
    have holds := (foldlM_eq_ok_iff lawful extensional added record.distinct).mp ok
    obtain ⟨keyedWritten, same, again⟩ := holds.shows lawful record shows unchanged
    rw [writes]
    refine ⟨Json.wellKeyed_object.mpr keyedWritten, ?_, ?_⟩
    · rw [RecordView.item, Json.same_object keyedWritten.distinct
        (RecordView.distinct_apply record.distinct)]
      intro key
      rw [RecordView.get?_apply record.distinct]
      exact same key
    · rw [ofEntries]
      exact (foldlM_eq_ok_iff lawful extensional added keyedWritten.distinct).mpr again
  | _ => simp [reads, ShapeError.asRecord, ShapeError.mismatch, bind, Except.bind] at ok

/-- Lists are read and written item by item. -/
theorem Restates.list {view : RecordView} (shown : Restates read write view.item) :
    Restates (readList read) (fun results => .array (results.map write)) view.items := by
  intro value results keyed ok
  cases value with
  | array values =>
    have ofItems : ∀ values, readList read (.array values) = values.mapM read := fun _ => rfl
    rw [ofItems] at ok ⊢
    have each := (List.forall₂_and_left values results).mpr
      ⟨Json.wellKeyed_array.mp keyed, mapM_eq_ok_iff.mp ok⟩
    rw [Json.wellKeyed_array, RecordView.items, Json.same_array, mapM_eq_ok_iff]
    clear keyed ok
    induction each with
    | nil => exact ⟨by simp, .nil, .nil⟩
    | cons first _ ih =>
      obtain ⟨keyedFirst, same, again⟩ := shown first.1 first.2
      obtain ⟨keyedMore, sameMore, againMore⟩ := ih
      exact ⟨List.forall_mem_cons.mpr ⟨keyedFirst, keyedMore⟩, .cons same sameMore,
        .cons again againMore⟩
  | _ => simp [readList, ShapeError.asList, ShapeError.mismatch, bind, Except.bind] at ok

end Readers

namespace Field

variable {τ : Type} {read : Json → Except ShapeError τ} {write : τ → Json}

/-- A field that null leaves out. -/
def optional (read : Json → Except ShapeError τ) (write : τ → Json) : Field (Option τ) :=
  ⟨ShapeError.optional read, none, Option.map write⟩

/-- A field that is always written. -/
def defaulted (read : Json → Except ShapeError τ) (write : τ → Json) (missing : τ) : Field τ :=
  ⟨read, missing, fun content => some (write content)⟩

theorem optional_of_not_null {value : Json} (notNull : value.isNull = false) :
    ShapeError.optional read value = (read value).map some := by
  cases value with
  | null => simp [Json.isNull] at notNull
  | _ => rfl

theorem shows_optional {view : RecordView} {key : String} (shown : Restates read write (view.inside key))
    (notNull : ∀ value content, value.isNull = false → read value = .ok content →
      (write content).isNull = false)
    (nullable : key ∈ view.nullable) (noDefault : view.defaults.get? key = none) :
    (optional read write).Shows (view.found key) := by
  intro found content keyed ok
  rcases found with _ | value
  · cases ok
    refine ⟨nofun, ?_, rfl⟩
    rw [RecordView.found, noDefault]
    exact .none
  · change ShapeError.optional read value = .ok content at ok
    cases null : value.isNull with
    | true =>
      cases value with
      | null =>
        cases ok
        refine ⟨nofun, ?_, rfl⟩
        rw [RecordView.found, if_pos ⟨nullable, null⟩]
        exact .none
      | _ => simp [Json.isNull] at null
    | false =>
      rw [optional_of_not_null null] at ok
      cases there : read value with
      | error fault => simp [there, Except.map] at ok
      | ok result =>
        rw [there] at ok
        cases ok
        obtain ⟨keyedWritten, same, again⟩ := shown (keyed value rfl) there
        refine ⟨?_, ?_, ?_⟩
        · rintro written ⟨⟩
          exact keyedWritten
        · rw [RecordView.found, if_neg (by simp [null])]
          exact .some same
        · change ShapeError.optional read (write result) = .ok (some result)
          rw [optional_of_not_null (notNull value result null there), again]
          rfl

theorem shows_defaulted {view : RecordView} {key : String} {missing : τ} {default : Json}
    (shown : Restates read write (view.inside key)) (notNullable : key ∉ view.nullable)
    (fallback : view.defaults.get? key = some default) (keyedDefault : default.wellKeyed = true)
    (written : write missing = default) (again : read default = .ok missing) :
    (defaulted read write missing).Shows (view.found key) := by
  intro found content keyed ok
  rcases found with _ | value
  · cases ok
    have shows : (defaulted read write missing).write missing = some default :=
      congrArg some written
    refine ⟨?_, ?_, ?_⟩
    · rintro value there
      cases shows.symm.trans there
      exact keyedDefault
    · have same : Json.SameFound (some (write missing)) (some default) := by
        rw [written]
        exact .some (Json.same_refl default keyedDefault)
      rw [RecordView.found, fallback]
      exact same
    · exact (congrArg read written).trans again
  · obtain ⟨keyedWritten, same, reread⟩ := shown (keyed value rfl) ok
    refine ⟨?_, ?_, reread⟩
    · rintro written ⟨⟩
      exact keyedWritten
    · rw [RecordView.found, if_neg fun both => notNullable both.1]
      exact .some same

end Field

end ScannerConfig
