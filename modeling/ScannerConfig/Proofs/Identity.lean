import ScannerConfig.Normalization.Identifiers
import ScannerConfig.Proofs.Revising

namespace ScannerConfig.Normalization

open Revision

/-- What a record holds in its identifier fields. -/
structure Identifiers where
  legacy : Option Json
  id : Option Json
  reference : Option Json

namespace Identifiers

def ofRecord (referenceKey : String) (record : Record) : Identifiers :=
  ⟨record.get? legacyIdKey, record.get? idKey, record.get? referenceKey⟩

def rename : Identifiers → Revision Identifiers
  | ⟨some legacy, none, reference⟩ => .changed .idRenamed ⟨none, some legacy, reference⟩
  | fields => .keep fields

def discard : Identifiers → Revision Identifiers
  | ⟨some _, id, reference⟩ => .changed .idDiscarded ⟨none, id, reference⟩
  | fields => .keep fields

def extract : Identifiers → Revision Identifiers
  | ⟨legacy, some id, _⟩ => .changed .referenceExtracted ⟨legacy, none, some id⟩
  | fields => .keep fields

/-- Records without a reference: `id` wins over the legacy identifier. -/
def simple : Identifiers → Revision Identifiers
  | ⟨some _, some id, reference⟩ => .changed .idDiscarded ⟨none, some id, reference⟩
  | ⟨some legacy, none, reference⟩ => .changed .idRenamed ⟨none, some legacy, reference⟩
  | fields => .keep fields

/-- Systems: beside a legacy identifier `id` overwrites the reference. -/
def system : Identifiers → Revision Identifiers
  | ⟨some legacy, some id, _⟩ =>
    ⟨⟨none, some legacy, some id⟩, [.referenceExtracted, .idRenamed], []⟩
  | ⟨some legacy, none, reference⟩ => .changed .idRenamed ⟨none, some legacy, reference⟩
  | ⟨none, some id, none⟩ => .changed .referenceExtracted ⟨none, none, some id⟩
  | fields => .keep fields

/-- Units: only a lone `id` is a reference. -/
def unit : Identifiers → Revision Identifiers
  | ⟨some _, some id, reference⟩ => .changed .idDiscarded ⟨none, some id, reference⟩
  | ⟨some legacy, none, reference⟩ => .changed .idRenamed ⟨none, some legacy, reference⟩
  | ⟨none, some id, none⟩ => .changed .referenceExtracted ⟨none, none, some id⟩
  | fields => .keep fields

/-- Talkgroups: `id` is the reference where there is none. -/
def talkgroup : Identifiers → Revision Identifiers
  | ⟨some legacy, some id, none⟩ =>
    ⟨⟨none, some legacy, some id⟩, [.referenceExtracted, .idRenamed], []⟩
  | ⟨some _, some id, some reference⟩ =>
    .changed .idDiscarded ⟨none, some id, some reference⟩
  | ⟨some legacy, none, reference⟩ => .changed .idRenamed ⟨none, some legacy, reference⟩
  | ⟨none, some id, none⟩ => .changed .referenceExtracted ⟨none, none, some id⟩
  | fields => .keep fields

theorem legacy_simple (fields : Identifiers) : fields.simple.value.legacy = none := by
  rcases fields with ⟨_ | _, _ | _, _⟩ <;> rfl

theorem legacy_system (fields : Identifiers) : fields.system.value.legacy = none := by
  rcases fields with ⟨_ | _, _ | _, _ | _⟩ <;> rfl

theorem legacy_unit (fields : Identifiers) : fields.unit.value.legacy = none := by
  rcases fields with ⟨_ | _, _ | _, _ | _⟩ <;> rfl

theorem legacy_talkgroup (fields : Identifiers) : fields.talkgroup.value.legacy = none := by
  rcases fields with ⟨_ | _, _ | _, _ | _⟩ <;> rfl

end Identifiers

/-- A key that can be a reference field. -/
def IsReference (key : String) : Prop :=
  key ≠ legacyIdKey ∧ key ≠ idKey

instance (key : String) : Decidable (IsReference key) :=
  inferInstanceAs (Decidable (_ ∧ _))

/-- A rule that acts on the identifiers of a record as a table says, and on nothing else. -/
structure ActsAs (referenceKey : String) (rule : Record → Revision Record)
    (table : Identifiers → Revision Identifiers) : Prop where
  identifiers {record : Record} : record.WellKeyed →
    Identifiers.ofRecord referenceKey <$> rule record = table (.ofRecord referenceKey record)
  outside {record : Record} : record.WellKeyed →
    Entries.SameOutside [legacyIdKey, idKey, referenceKey] record (rule record).value
  keepsKeyed : KeepsKeyed rule
  accounted : Accounted rule

namespace ActsAs

variable {referenceKey : String} {rule other : Record → Revision Record}
  {table otherTable : Identifiers → Revision Identifiers} {record : Record}

theorem value (acts : ActsAs referenceKey rule table) (keyed : record.WellKeyed) :
    Identifiers.ofRecord referenceKey (rule record).value =
      (table (.ofRecord referenceKey record)).value := by
  rw [← acts.identifiers keyed]
  rfl

theorem changes (acts : ActsAs referenceKey rule table) (keyed : record.WellKeyed) :
    (rule record).changes = (table (.ofRecord referenceKey record)).changes := by
  rw [← acts.identifiers keyed]
  exact (List.append_nil _).symm

theorem of_table (acts : ActsAs referenceKey rule table)
    (same : ∀ fields, table fields = otherTable fields) : ActsAs referenceKey rule otherTable := by
  rwa [← funext same]

theorem keep : ActsAs referenceKey .keep .keep where
  identifiers _ := rfl
  outside _ := .refl _ _
  keepsKeyed _ keyed := keyed
  accounted _ _ := rfl

theorem bind (acts : ActsAs referenceKey rule table) (later : ActsAs referenceKey other otherTable) :
    ActsAs referenceKey (fun record => rule record >>= other)
      (fun fields => table fields >>= otherTable) where
  identifiers {record} keyed := by
    have first := acts.identifiers keyed
    have second := later.identifiers (acts.keepsKeyed record keyed)
    rw [acts.value keyed] at second
    calc Identifiers.ofRecord referenceKey <$> (rule record >>= other)
        = rule record >>= fun middle => Identifiers.ofRecord referenceKey <$> other middle :=
          map_bind _ _ _
      _ = rule record >>= fun _ => otherTable (table (.ofRecord referenceKey record)).value := by
          simp only [Bind.bind, Revision.andThen, second]
      _ = table (.ofRecord referenceKey record) >>= otherTable := by
          rw [← first]
          simp [Functor.map, Bind.bind, Revision.andThen, Revision.keep]
  outside {record} keyed := by
    have both := (acts.outside keyed).trans (later.outside (acts.keepsKeyed record keyed))
    exact both.mono (by simp)
  keepsKeyed := acts.keepsKeyed.bind later.keepsKeyed
  accounted := acts.accounted.bind later.accounted

/-- A rule that goes by the identifiers which of two rules to take. -/
theorem ite (test : Record → Bool) (asked : Identifiers → Bool)
    (same : ∀ record, test record = asked (.ofRecord referenceKey record))
    (yes : ActsAs referenceKey rule table) (no : ActsAs referenceKey other otherTable) :
    ActsAs referenceKey (fun record => if test record then rule record else other record)
      (fun fields => if asked fields then table fields else otherTable fields) where
  identifiers {record} keyed := by
    simp only [same record]
    split
    · exact yes.identifiers keyed
    · exact no.identifiers keyed
  outside {record} keyed := by
    split
    · exact yes.outside keyed
    · exact no.outside keyed
  keepsKeyed record keyed := by
    dsimp only
    split
    · exact yes.keepsKeyed record keyed
    · exact no.keepsKeyed record keyed
  accounted record := by
    dsimp only
    split
    · exact yes.accounted record
    · exact no.accounted record

/-- A rule that takes out a field, if it is there, and puts its value to some use. -/
theorem ofPop (key : String) (put : Json → Record → Record) {change : Change}
    (identifier : key ∈ [legacyIdKey, idKey, referenceKey])
    (absent : ∀ record, record.get? key = none →
      table (.ofRecord referenceKey record) = .keep (.ofRecord referenceKey record))
    (present : ∀ record value, record.WellKeyed → record.get? key = some value →
      table (.ofRecord referenceKey record) =
        .changed change (.ofRecord referenceKey (put value (record.erase key))))
    (outside : ∀ record value,
      Entries.SameOutside [legacyIdKey, idKey, referenceKey] record (put value record))
    (keeps : ∀ record value, record.WellKeyed → value.wellKeyed = true →
      (put value record).WellKeyed) :
    ActsAs referenceKey
      (fun record => match record.pop? key with
        | some (value, rest) => .changed change (put value rest)
        | none => .keep record) table where
  identifiers {record} keyed := by
    cases found : record.get? key with
    | none => rw [absent record found, Entries.pop?_of_get?_none found]; rfl
    | some value =>
      rw [present record value keyed found, Entries.pop?_of_get?_some found]; rfl
  outside {record} keyed := by
    cases found : record.get? key with
    | none => rw [Entries.pop?_of_get?_none found]; exact .refl _ _
    | some value =>
      rw [Entries.pop?_of_get?_some found]
      have erased : Entries.SameOutside [key] record (record.erase key) :=
        Entries.sameOutside_erase keyed.distinct key
      exact (erased.trans (outside _ value)).mono (by simpa using identifier)
  keepsKeyed record keyed := by
    cases found : record.get? key with
    | none => simpa [Entries.pop?_of_get?_none found] using keyed
    | some value =>
      simpa [Entries.pop?_of_get?_some found] using
        keeps _ value (keyed.erase key) (keyed.value found)
  accounted record silent := by
    cases found : record.get? key with
    | none => simp [Entries.pop?_of_get?_none found]
    | some value => simp [Entries.pop?_of_get?_some found] at silent

end ActsAs

section Steps

variable {referenceKey : String} {record : Record}

theorem ofRecord_erase_legacyId (keyed : record.WellKeyed) (separate : IsReference referenceKey) :
    Identifiers.ofRecord referenceKey (record.erase legacyIdKey) =
      { Identifiers.ofRecord referenceKey record with legacy := none } := by
  simp [Identifiers.ofRecord, Entries.get?_erase keyed.distinct, separate.1.symm,
    show legacyIdKey ≠ idKey by decide]

theorem ofRecord_erase_id (keyed : record.WellKeyed) (separate : IsReference referenceKey) :
    Identifiers.ofRecord referenceKey (record.erase idKey) =
      { Identifiers.ofRecord referenceKey record with id := none } := by
  simp [Identifiers.ofRecord, Entries.get?_erase keyed.distinct, separate.2.symm,
    show idKey ≠ legacyIdKey by decide]

theorem ofRecord_insert_id (separate : IsReference referenceKey) (value : Json) :
    Identifiers.ofRecord referenceKey (record.insert idKey value) =
      { Identifiers.ofRecord referenceKey record with id := some value } := by
  simp [Identifiers.ofRecord, Entries.get?_insert, separate.2.symm,
    show idKey ≠ legacyIdKey by decide]

theorem ofRecord_insert_reference (separate : IsReference referenceKey) (value : Json) :
    Identifiers.ofRecord referenceKey (record.insert referenceKey value) =
      { Identifiers.ofRecord referenceKey record with reference := some value } := by
  simp [Identifiers.ofRecord, Entries.get?_insert, separate.1, separate.2]

theorem actsAs_discard (separate : IsReference referenceKey) :
    ActsAs referenceKey discardLegacyId Identifiers.discard := by
  refine ActsAs.ofPop legacyIdKey (fun _ rest => rest) (by simp) ?_ ?_ ?_ ?_
  · intro record absent
    simp only [Identifiers.ofRecord, absent, Identifiers.discard]
  · intro record value keyed found
    rw [ofRecord_erase_legacyId keyed separate]
    simp only [Identifiers.ofRecord, found, Identifiers.discard]
  · exact fun record _ => .refl _ record
  · exact fun _ _ keyed _ => keyed

theorem actsAs_extract (separate : IsReference referenceKey) :
    ActsAs referenceKey (extractReference referenceKey) Identifiers.extract := by
  refine ActsAs.ofPop idKey (fun id rest => rest.insert referenceKey id) (by simp)
    ?_ ?_ ?_ ?_
  · intro record absent
    simp only [Identifiers.ofRecord, absent, Identifiers.extract]
  · intro record value keyed found
    rw [ofRecord_insert_reference separate, ofRecord_erase_id keyed separate]
    simp only [Identifiers.ofRecord, found, Identifiers.extract]
  · exact fun record value => (Entries.sameOutside_insert record _ value).mono (by simp)
  · exact fun record value keyed inside => keyed.insert _ inside

theorem actsAs_moveLegacyId (separate : IsReference referenceKey) :
    ActsAs referenceKey
      (fun record => match record.pop? legacyIdKey with
        | some (legacy, rest) => .changed .idRenamed (rest.insert idKey legacy)
        | none => .keep record)
      (fun fields => match fields.legacy with
        | some legacy => .changed .idRenamed { fields with legacy := none, id := some legacy }
        | none => .keep fields) := by
  refine ActsAs.ofPop legacyIdKey (fun legacy rest => rest.insert idKey legacy) (by simp)
    ?_ ?_ ?_ ?_
  · intro record absent
    simp only [Identifiers.ofRecord, absent]
  · intro record value keyed found
    rw [ofRecord_insert_id separate, ofRecord_erase_legacyId keyed separate]
    simp only [Identifiers.ofRecord, found]
  · exact fun record value => (Entries.sameOutside_insert record _ value).mono (by simp)
  · exact fun record value keyed inside => keyed.insert _ inside

theorem actsAs_rename (separate : IsReference referenceKey) :
    ActsAs referenceKey renameLegacyId Identifiers.rename := by
  have chosen := ActsAs.ite (fun record => record.has idKey) (fun fields => fields.id.isSome)
    (fun _ => rfl) .keep (actsAs_moveLegacyId separate)
  refine chosen.of_table fun fields => ?_
  rcases fields with ⟨_ | _, _ | _, _⟩ <;> rfl

end Steps

theorem actsAs_simple {referenceKey : String} (separate : IsReference referenceKey) :
    ActsAs referenceKey reconcileSimple Identifiers.simple := by
  refine ((actsAs_rename separate).bind (actsAs_discard separate)).of_table fun fields => ?_
  rcases fields with ⟨_ | _, _ | _, _⟩ <;> rfl

theorem keepsKeyed_reconcileSimple : KeepsKeyed reconcileSimple :=
  (actsAs_simple (by decide : IsReference systemRefKey)).keepsKeyed

theorem accounted_reconcileSimple : Accounted reconcileSimple :=
  (actsAs_simple (by decide : IsReference systemRefKey)).accounted

theorem get?_legacyId_reconcileSimple {record : Record} (keyed : record.WellKeyed) :
    (reconcileSimple record).value.get? legacyIdKey = none := by
  have fields := (actsAs_simple (by decide : IsReference systemRefKey)).value keyed
  exact (congrArg Identifiers.legacy fields).trans (Identifiers.legacy_simple _)

theorem sameOutside_reconcileSimple {record : Record} (keyed : record.WellKeyed) :
    Entries.SameOutside [legacyIdKey, idKey] record (reconcileSimple record).value := by
  intro key outside
  have separate : IsReference key := by simpa [IsReference] using outside
  have fields := congrArg Identifiers.reference ((actsAs_simple separate).value keyed)
  refine fields.trans ?_
  simp only [Identifiers.ofRecord]
  cases record.get? legacyIdKey <;> cases record.get? idKey <;> rfl

/-- What a system without a legacy identifier goes through. -/
theorem actsAs_lone_id {referenceKey : String} (separate : IsReference referenceKey) :
    ActsAs referenceKey
      (fun record => if record.has idKey && !record.has referenceKey
        then extractReference referenceKey record else .keep record)
      (fun fields => if fields.id.isSome && !fields.reference.isSome
        then fields.extract else .keep fields) :=
  .ite (fun record => record.has idKey && !record.has referenceKey)
    (fun fields => fields.id.isSome && !fields.reference.isSome) (fun _ => rfl)
    (actsAs_extract separate) .keep

section System

variable {record : Record} {legacy : Json}

theorem map_insert_id {referenceKey : String} (separate : IsReference referenceKey) (id : Json)
    (first : Revision Record) :
    (Identifiers.ofRecord referenceKey <$> do
      let record ← first
      .changed .idRenamed (record.insert idKey id)) =
    (do
      let fields ← Identifiers.ofRecord referenceKey <$> first
      .changed .idRenamed { fields with id := some id }) := by
  simp [Functor.map, Bind.bind, Revision.andThen, Revision.keep, Revision.changed,
    ofRecord_insert_id separate]

theorem reconcileSystem_of_legacyId (found : record.get? legacyIdKey = some legacy) :
    reconcileSystem record =
      extractReference systemRefKey (record.erase legacyIdKey) >>= fun rest =>
        .changed .idRenamed (rest.insert idKey legacy) := by
  rw [reconcileSystem, Entries.pop?_of_get?_some found]

theorem reconcileSystem_of_no_legacyId (absent : record.get? legacyIdKey = none) :
    reconcileSystem record =
      if record.has idKey && !record.has systemRefKey
        then extractReference systemRefKey record else .keep record := by
  rw [reconcileSystem, Entries.pop?_of_get?_none absent]

theorem actsAs_system : ActsAs systemRefKey reconcileSystem Identifiers.system where
  identifiers {record} keyed := by
    have separate : IsReference systemRefKey := by decide
    cases found : record.get? legacyIdKey with
    | none =>
      rw [reconcileSystem_of_no_legacyId found, (actsAs_lone_id separate).identifiers keyed]
      simp only [Identifiers.ofRecord, found]
      cases record.get? idKey <;> cases record.get? systemRefKey <;> rfl
    | some legacy =>
      have put := map_insert_id separate legacy
        (extractReference systemRefKey (record.erase legacyIdKey))
      rw [reconcileSystem_of_legacyId found, put,
        (actsAs_extract separate).identifiers (keyed.erase legacyIdKey),
        ofRecord_erase_legacyId keyed separate]
      simp only [Identifiers.ofRecord, found]
      cases record.get? idKey <;> rfl
  outside {record} keyed := by
    have separate : IsReference systemRefKey := by decide
    cases found : record.get? legacyIdKey with
    | none =>
      rw [reconcileSystem_of_no_legacyId found]
      exact (actsAs_lone_id separate).outside keyed
    | some legacy =>
      rw [reconcileSystem_of_legacyId found]
      have erased := Entries.sameOutside_erase keyed.distinct legacyIdKey
      have extracted := (actsAs_extract separate).outside (keyed.erase legacyIdKey)
      exact ((erased.trans extracted).trans (Entries.sameOutside_insert _ idKey legacy)).mono
        (by simp)
  keepsKeyed record keyed := by
    have separate : IsReference systemRefKey := by decide
    cases found : record.get? legacyIdKey with
    | none =>
      rw [reconcileSystem_of_no_legacyId found]
      exact (actsAs_lone_id separate).keepsKeyed record keyed
    | some legacy =>
      rw [reconcileSystem_of_legacyId found]
      have extracted := (actsAs_extract separate).keepsKeyed _ (keyed.erase legacyIdKey)
      exact extracted.insert idKey (keyed.value found)
  accounted record silent := by
    have separate : IsReference systemRefKey := by decide
    cases found : record.get? legacyIdKey with
    | none =>
      rw [reconcileSystem_of_no_legacyId found] at silent ⊢
      exact (actsAs_lone_id separate).accounted record silent
    | some legacy =>
      rw [reconcileSystem_of_legacyId found] at silent
      simp at silent

end System

/-- The part of the rule for units that goes by the identifiers. -/
def identifyUnit (record : Record) : Revision Record :=
  (if record.has idKey && !record.has unitRefKey && !record.has legacyIdKey then
    extractReference unitRefKey record
  else renameLegacyId record) >>= discardLegacyId

theorem reconcileUnit_eq (record : Record) :
    reconcileUnit record = identifyUnit record >>= seedUnitFields unitFields := by
  rw [identifyUnit, bind_assoc, reconcileUnit]
  split <;> rfl

theorem actsAs_identifyUnit : ActsAs unitRefKey identifyUnit Identifiers.unit := by
  have separate : IsReference unitRefKey := by decide
  have first := ActsAs.ite
    (fun record => record.has idKey && !record.has unitRefKey && !record.has legacyIdKey)
    (fun fields => fields.id.isSome && !fields.reference.isSome && !fields.legacy.isSome)
    (fun _ => rfl) (actsAs_extract separate) (actsAs_rename separate)
  refine (first.bind (actsAs_discard separate)).of_table fun fields => ?_
  rcases fields with ⟨_ | _, _ | _, _ | _⟩ <;> rfl

/-- The part of the rule for talkgroups that goes by the identifiers. -/
def identifyTalkgroup (record : Record) : Revision Record :=
  (if record.has idKey && !record.has talkgroupRefKey
    then extractReference talkgroupRefKey record else .keep record) >>=
  fun record => renameLegacyId record >>= discardLegacyId

theorem reconcileTalkgroup_eq (record : Record) :
    reconcileTalkgroup record = identifyTalkgroup record >>= foldGroup := by
  simp only [identifyTalkgroup, reconcileTalkgroup, bind_assoc]
  split <;> rfl

theorem actsAs_identifyTalkgroup :
    ActsAs talkgroupRefKey identifyTalkgroup Identifiers.talkgroup := by
  have separate : IsReference talkgroupRefKey := by decide
  have later := (actsAs_rename separate).bind (actsAs_discard separate)
  refine ((actsAs_lone_id separate).bind later).of_table fun fields => ?_
  rcases fields with ⟨_ | _, _ | _, _ | _⟩ <;> rfl

end ScannerConfig.Normalization
