import ScannerConfig.Normalization.Systems
import ScannerConfig.Proofs.RecordView

namespace ScannerConfig

open Normalization (idKey systemRefKey talkgroupRefKey groupIdsKey unitFields sitesKey unitsKey
  talkgroupsKey)

/-- An identifier or a reference: null is as good as nothing. -/
def Field.scalar : Field (Option Json) :=
  .optional .ok fun value => value

/-- A field that is written as null where nothing is known. -/
def Field.nullable : Field (Option Json) :=
  .defaulted (fun value => .ok (ShapeError.given value)) (fun value => value.getD .null) none

theorem Field.read_scalar (value : Json) : Field.scalar.read value = .ok (ShapeError.given value) := by
  cases value <;> rfl

theorem Field.shows_scalar {view : RecordView} {key : String}
    (inside : view.inside key = fun value => value) (nullable : key ∈ view.nullable)
    (noDefault : view.defaults.get? key = none) : Field.scalar.Shows (view.found key) := by
  refine shows_optional ?_ ?_ nullable noDefault
  · rw [inside]
    exact restates_id
  · rintro value content notNull ⟨⟩
    exact notNull

theorem Field.shows_nullable {view : RecordView} {key : String}
    (inside : view.inside key = fun value => value) (notNullable : key ∉ view.nullable)
    (fallback : view.defaults.get? key = some .null) : Field.nullable.Shows (view.found key) := by
  have shown : Restates (fun value => .ok (ShapeError.given value)) (fun value => value.getD .null)
      (view.inside key) := by
    rw [inside]
    rintro value content keyed ⟨⟩
    have same : (ShapeError.given value).getD .null = value := by cases value <;> rfl
    simp only [same]
    exact ⟨keyed, Json.same_refl value keyed, trivial⟩
  exact shows_defaulted shown notNullable fallback rfl rfl rfl

/-- Under a key that a view says nothing of, it has what is there. -/
theorem RecordView.found_unknown {view : RecordView} {keys : List String} {key : String}
    (nullable : view.nullable ⊆ keys) (defaults : view.defaults.keys ⊆ keys) (unknown : key ∉ keys)
    (inside : view.inside key = fun value => value) (found : Option Json) :
    view.found key found = found := by
  have noDefault := Entries.get?_eq_none_iff.mpr fun member => unknown (defaults member)
  have notNullable : key ∉ view.nullable := fun member => unknown (nullable member)
  cases found <;> simp [RecordView.found, inside, notNullable, noDefault]

theorem foldlM_ok {τ : Type} (add : τ → String × Json → τ) (entries : Entries Json) (start : τ) :
    entries.foldlM (fun record entry => (.ok (add record entry) : Except ShapeError τ)) start =
      .ok (entries.foldl add start) :=
  List.foldlM_pure

namespace Entity

def schema : RecordSchema Entity where
  slots := [{
    key := idKey
    field := .scalar
    get := Entity.id
    set entity id := { entity with id } }]
  empty := empty
  extra := Entity.extra
  append entity entry := { entity with extra := entity.extra ++ [entry] }

theorem lawful_schema : schema.Lawful where
  distinct := by decide
  get_empty := by simp [schema, empty, Field.scalar, Field.optional]
  extra_empty := rfl
  get_set := by simp [schema]
  get_set_other := by simp [schema]
  extra_set := by simp [schema]
  get_append := by simp [schema]
  extra_append _ _ := rfl

theorem extensional_schema : schema.Extensional := by
  rintro ⟨id, extra⟩ ⟨otherId, otherExtra⟩ slots same
  simp_all [schema]

theorem addedBy_schema : schema.AddedBy fun entity entry => .ok (add entity entry) where
  known := by
    simp only [schema, List.forall_mem_singleton, Field.read_scalar]
    exact fun _ _ => rfl
  unknown := by
    rintro ⟨key, value⟩ unknown record
    simp only [RecordSchema.keys, schema, List.map_cons, List.map_nil, List.mem_singleton] at unknown
    simp only [add]
    split
    · exact absurd rfl unknown
    · rfl

/-- Of a record without a reference only a null identifier is lost. -/
def view : RecordView :=
  ⟨[idKey], [], fun _ value => value, List.nodup_nil⟩

theorem restates : Restates read write view.item := by
  refine RecordSchema.restates .entity lawful_schema extensional_schema addedBy_schema
    (fun value => ?_) (fun entity => ?_) ?_ fun key unknown => ?_
  · simp only [foldlM_ok]
    rfl
  · simp [write, RecordSchema.entries, RecordSchema.slotEntries, schema, Field.scalar,
      Field.optional, idKey]
  · simp only [schema, List.forall_mem_singleton]
    exact Field.shows_scalar rfl (by decide) rfl
  · exact RecordView.found_unknown (by decide) (by decide) unknown rfl

end Entity

namespace RadioUnit

def schema : RecordSchema RadioUnit where
  slots := [
    { key := idKey, field := .scalar, get := RadioUnit.id, set unit id := { unit with id } },
    { key := "unitRef", field := .nullable, get := unitRef, set unit unitRef := { unit with unitRef } },
    { key := "unitFrom", field := .nullable, get := unitFrom, set unit unitFrom := { unit with unitFrom } },
    { key := "unitTo", field := .nullable, get := unitTo, set unit unitTo := { unit with unitTo } }]
  empty := empty
  extra := RadioUnit.extra
  append unit entry := { unit with extra := unit.extra ++ [entry] }

theorem lawful_schema : schema.Lawful where
  distinct := by decide
  get_empty := by simp [schema, empty, Field.scalar, Field.optional, Field.nullable, Field.defaulted]
  extra_empty := rfl
  get_set := by simp [schema]
  get_set_other := by simp [schema]
  extra_set := by simp [schema]
  get_append := by simp [schema]
  extra_append _ _ := rfl

theorem extensional_schema : schema.Extensional := by
  rintro ⟨id, unitRef, unitFrom, unitTo, extra⟩ other slots same
  obtain ⟨⟩ := other
  simp_all [schema]

theorem addedBy_schema : schema.AddedBy fun unit entry => .ok (add unit entry) where
  known := by
    simp only [schema, List.forall_mem_cons, Field.read_scalar]
    exact ⟨fun _ _ => rfl, fun _ _ => rfl, fun _ _ => rfl, fun _ _ => rfl, by simp⟩
  unknown := by
    rintro ⟨key, value⟩ unknown record
    simp only [RecordSchema.keys, schema, List.map_cons, List.map_nil, List.mem_cons,
      List.not_mem_nil, or_false, not_or] at unknown
    simp only [add]
    split <;> simp_all [idKey, schema]

/-- Fields that a unit does not have are written as null. -/
def view (fill : Bool) : RecordView :=
  ⟨[idKey], if fill then unitFields.map fun field => (field, .null) else [], fun _ value => value,
    by cases fill <;> decide⟩

theorem restates : Restates read write (view true).item := by
  refine RecordSchema.restates .unit lawful_schema extensional_schema addedBy_schema
    (fun value => ?_) (fun entity => ?_) ?_ fun key unknown => ?_
  · simp only [foldlM_ok]
    rfl
  · simp [write, RecordSchema.entries, RecordSchema.slotEntries, schema, Field.scalar,
      Field.optional, Field.nullable, Field.defaulted, givenEntry, idKey]
  · simp only [schema, List.forall_mem_cons]
    exact ⟨Field.shows_scalar rfl (by decide) rfl, Field.shows_nullable rfl (by decide) rfl,
      Field.shows_nullable rfl (by decide) rfl, Field.shows_nullable rfl (by decide) rfl, by simp⟩
  · exact RecordView.found_unknown (by decide) (by decide) unknown rfl

end RadioUnit

/-- A list of values that are kept as they are. -/
theorem restates_values : Restates ShapeError.asList .array fun value => value := by
  intro value values keyed ok
  cases value with
  | array items =>
    cases ok
    exact ⟨keyed, Json.same_refl _ keyed, rfl⟩
  | _ => simp [ShapeError.asList, ShapeError.mismatch] at ok

namespace Talkgroup

def schema : RecordSchema Talkgroup where
  slots := [
    { key := idKey, field := .scalar, get := Talkgroup.id, set talkgroup id := { talkgroup with id } },
    { key := talkgroupRefKey, field := .scalar, get := talkgroupRef,
      set talkgroup talkgroupRef := { talkgroup with talkgroupRef } },
    { key := groupIdsKey, field := .optional ShapeError.asList .array, get := groupIds,
      set talkgroup groupIds := { talkgroup with groupIds } }]
  empty := empty
  extra := Talkgroup.extra
  append talkgroup entry := { talkgroup with extra := talkgroup.extra ++ [entry] }

theorem lawful_schema : schema.Lawful where
  distinct := by decide
  get_empty := by simp [schema, empty, Field.scalar, Field.optional]
  extra_empty := rfl
  get_set := by simp [schema]
  get_set_other := by simp [schema]
  extra_set := by simp [schema]
  get_append := by simp [schema]
  extra_append _ _ := rfl

theorem extensional_schema : schema.Extensional := by
  rintro ⟨id, talkgroupRef, groupIds, extra⟩ other slots same
  obtain ⟨⟩ := other
  simp_all [schema]

theorem addedBy_schema : schema.AddedBy add where
  known := by
    simp only [schema, List.forall_mem_cons, Field.read_scalar]
    refine ⟨fun _ _ => rfl, fun _ _ => rfl, fun talkgroup value => ?_, by simp⟩
    simp only [add, Field.optional]
    cases ShapeError.optional ShapeError.asList value <;> rfl
  unknown := by
    rintro ⟨key, value⟩ unknown record
    simp only [RecordSchema.keys, schema, List.map_cons, List.map_nil, List.mem_cons,
      List.not_mem_nil, or_false, not_or] at unknown
    simp only [add]
    split <;> simp_all [idKey, talkgroupRefKey, groupIdsKey, schema]

def view : RecordView :=
  ⟨[idKey, talkgroupRefKey, groupIdsKey], [], fun _ value => value, List.nodup_nil⟩

theorem restates : Restates read write view.item := by
  refine RecordSchema.restates .talkgroup lawful_schema extensional_schema addedBy_schema
    (fun value => rfl) (fun entity => ?_) ?_ fun key unknown => ?_
  · simp [write, RecordSchema.entries, RecordSchema.slotEntries, schema, Field.scalar,
      Field.optional, listEntry, idKey, talkgroupRefKey, groupIdsKey]
  · simp only [schema, List.forall_mem_cons]
    refine ⟨Field.shows_scalar rfl (by decide) rfl, Field.shows_scalar rfl (by decide) rfl, ?_, by simp⟩
    exact Field.shows_optional restates_values (fun _ _ _ _ => rfl) (by decide) rfl
  · exact RecordView.found_unknown (by decide) (by decide) unknown rfl

end Talkgroup

namespace RadioSystem

def schema : RecordSchema RadioSystem where
  slots := [
    { key := idKey, field := .scalar, get := RadioSystem.id, set system id := { system with id } },
    { key := systemRefKey, field := .scalar, get := systemRef,
      set system systemRef := { system with systemRef } },
    { key := sitesKey, get := sites, set system sites := { system with sites },
      field := .defaulted (readList Entity.read) (fun sites => .array (sites.map Entity.write)) [] },
    { key := unitsKey, get := units, set system units := { system with units },
      field := .optional (readList RadioUnit.read) fun units => .array (units.map RadioUnit.write) },
    { key := talkgroupsKey, get := talkgroups, set system talkgroups := { system with talkgroups },
      field := .optional (readList Talkgroup.read) fun talkgroups =>
        .array (talkgroups.map Talkgroup.write) }]
  empty := empty
  extra := RadioSystem.extra
  append system entry := { system with extra := system.extra ++ [entry] }

theorem lawful_schema : schema.Lawful where
  distinct := by decide
  get_empty := by simp [schema, empty, Field.scalar, Field.optional, Field.defaulted]
  extra_empty := rfl
  get_set := by simp [schema]
  get_set_other := by simp [schema]
  extra_set := by simp [schema]
  get_append := by simp [schema]
  extra_append _ _ := rfl

theorem extensional_schema : schema.Extensional := by
  rintro ⟨id, systemRef, sites, units, talkgroups, extra⟩ other slots same
  obtain ⟨⟩ := other
  simp_all [schema]

theorem addedBy_schema : schema.AddedBy add where
  known := by
    simp only [schema, List.forall_mem_cons, Field.read_scalar]
    refine ⟨fun _ _ => rfl, fun _ _ => rfl, fun system value => ?_, fun system value => ?_,
      fun system value => ?_, by simp⟩
    · simp only [add, Field.defaulted, sitesKey]
      cases readList Entity.read value <;> rfl
    · simp only [add, Field.optional, unitsKey]
      cases ShapeError.optional (readList RadioUnit.read) value <;> rfl
    · simp only [add, Field.optional, talkgroupsKey]
      cases ShapeError.optional (readList Talkgroup.read) value <;> rfl
  unknown := by
    rintro ⟨key, value⟩ unknown record
    simp only [RecordSchema.keys, schema, List.map_cons, List.map_nil, List.mem_cons,
      List.not_mem_nil, or_false, not_or] at unknown
    simp only [add]
    split <;> simp_all [idKey, systemRefKey, sitesKey, unitsKey, talkgroupsKey, schema]

/-- A system without sites is written with an empty list of them. -/
def view (fill : Bool) : RecordView where
  nullable := [idKey, systemRefKey, unitsKey, talkgroupsKey]
  defaults := if fill then [(sitesKey, .array [])] else []
  inside key :=
    if key = sitesKey then Entity.view.items
    else if key = unitsKey then (RadioUnit.view fill).items
    else if key = talkgroupsKey then Talkgroup.view.items
    else fun value => value
  distinct := by cases fill <;> decide

theorem restates : Restates read write (view true).item := by
  refine RecordSchema.restates .system lawful_schema extensional_schema addedBy_schema
    (fun value => rfl) (fun entity => ?_) ?_ fun key unknown => ?_
  · simp [write, RecordSchema.entries, RecordSchema.slotEntries, schema, Field.scalar,
      Field.optional, Field.defaulted, listEntry, givenEntry, idKey, systemRefKey, sitesKey,
      unitsKey, talkgroupsKey]
  · simp only [schema, List.forall_mem_cons]
    refine ⟨Field.shows_scalar rfl (by decide) rfl, Field.shows_scalar rfl (by decide) rfl, ?_, ?_,
      ?_, by simp⟩
    · exact Field.shows_defaulted Entity.restates.list (by decide) rfl rfl rfl rfl
    · exact Field.shows_optional RadioUnit.restates.list (fun _ _ _ _ => rfl) (by decide) rfl
    · exact Field.shows_optional Talkgroup.restates.list (fun _ _ _ _ => rfl) (by decide) rfl
  · have inside : (view true).inside key = fun value => value := by
      simp only [RecordSchema.keys, schema, List.map_cons, List.map_nil, List.mem_cons,
        List.not_mem_nil, or_false, not_or] at unknown
      simp [view, unknown]
    exact RecordView.found_unknown (by decide) (by decide) unknown inside

end RadioSystem

end ScannerConfig
