import ScannerConfig.Normalization.Systems
import ScannerConfig.Proofs.Members

namespace ScannerConfig.Normalization

open Revision

variable {system : Record}

/-- The sites of a system: an empty list where there is none. -/
def fixedSites : Option Json → Json
  | none | some .null => .array []
  | some value => revisedItems reconcileSimple value

def sitesChanges : Option Json → List Change
  | none | some .null => [.sitesDefaulted]
  | some value => itemChanges reconcileSimple (some value)

theorem fixSites_of_missing (missing : system.get? sitesKey = none ∨ system.get? sitesKey = some .null) :
    fixSites system = .changed .sitesDefaulted (system.insert sitesKey (.array [])) := by
  rcases missing with found | found <;> rw [fixSites, found]

theorem fixSites_of_present {value : Json} (found : system.get? sitesKey = some value)
    (notNull : value ≠ .null) :
    fixSites system = .under sitesKey (.nested sitesKey) reconcileSimple system := by
  rw [fixSites, found]
  cases value with
  | null => exact absurd rfl notNull
  | _ => rfl

theorem fixedSites_of_present {value : Json} (notNull : value ≠ .null) :
    fixedSites (some value) = revisedItems reconcileSimple value ∧
      sitesChanges (some value) = itemChanges reconcileSimple (some value) := by
  cases value with
  | null => exact absurd rfl notNull
  | _ => exact ⟨rfl, rfl⟩

/-- Either there are no sites yet, or there is a value to look into. -/
theorem sites_cases (sites : Option Json) :
    (sites = none ∨ sites = some .null) ∨ ∃ value, sites = some value ∧ value ≠ .null := by
  rcases sites with _ | value
  · exact .inl (.inl rfl)
  · by_cases null : value = .null
    · exact .inl (.inr (by rw [null]))
    · exact .inr ⟨value, rfl, null⟩

theorem fixedSites_ne_null (sites : Option Json) : fixedSites sites ≠ .null := by
  rcases sites with _ | (_ | _ | _ | _ | _ | _) <;> simp [fixedSites, revisedItems]

theorem get?_fixSites (system : Record) (key : String) :
    (fixSites system).value.get? key =
      if key = sitesKey then some (fixedSites (system.get? sitesKey)) else system.get? key := by
  rcases sites_cases (system.get? sitesKey) with missing | ⟨value, found, notNull⟩
  · have empty : fixedSites (system.get? sitesKey) = .array [] := by
      rcases missing with found | found <;> rw [found] <;> rfl
    rw [fixSites_of_missing missing, value_changed, Entries.get?_insert, empty]
    simp only [eq_comm]
  · rw [fixSites_of_present found notNull, get?_under, found, (fixedSites_of_present notNull).1]
    simp only [Option.map_some, eq_comm]

theorem changes_fixSites (system : Record) :
    (fixSites system).changes = sitesChanges (system.get? sitesKey) := by
  rcases sites_cases (system.get? sitesKey) with missing | ⟨value, found, notNull⟩
  · rw [fixSites_of_missing missing]
    rcases missing with found | found <;> rw [found] <;> rfl
  · rw [fixSites_of_present found notNull, changes_under, found, (fixedSites_of_present notNull).2]

theorem keepsKeyed_fixSites : KeepsKeyed fixSites := by
  intro system keyed
  rcases sites_cases (system.get? sitesKey) with missing | ⟨value, found, notNull⟩
  · rw [fixSites_of_missing missing]
    exact keyed.insert sitesKey rfl
  · rw [fixSites_of_present found notNull]
    exact keepsKeyed_reconcileSimple.under _ _ system keyed

theorem accounted_fixSites : Accounted fixSites := by
  intro system silent
  rcases sites_cases (system.get? sitesKey) with missing | ⟨value, found, notNull⟩
  · simp [fixSites_of_missing missing] at silent
  · rw [fixSites_of_present found notNull] at silent ⊢
    exact accounted_reconcileSimple.under _ _ system silent

theorem keepsKeyed_fixSystem : KeepsKeyed fixSystem :=
  actsAs_system.keepsKeyed.bind <| keepsKeyed_fixSites.bind <|
    (keepsKeyed_reconcileUnit.under _ _).bind (keepsKeyed_reconcileTalkgroup.under _ _)

theorem accounted_fixSystem : Accounted fixSystem :=
  actsAs_system.accounted.bind <| accounted_fixSites.bind <|
    (accounted_reconcileUnit.under _ _).bind (accounted_reconcileTalkgroup.under _ _)

/-- The keys under which a system holds records. -/
def memberKeys : List String := [sitesKey, unitsKey, talkgroupsKey]

theorem memberKeys_outside {key : String} (member : key ∈ memberKeys) :
    key ∉ [legacyIdKey, idKey, systemRefKey] := by
  simp only [memberKeys, List.mem_cons, List.not_mem_nil, or_false] at member
  rcases member with rfl | rfl | rfl <;> decide

theorem get?_fixSystem (keyed : system.WellKeyed) (key : String) :
    (fixSystem system).value.get? key =
      if key = talkgroupsKey then
        (system.get? talkgroupsKey).map (revisedItems reconcileTalkgroup)
      else if key = unitsKey then (system.get? unitsKey).map (revisedItems reconcileUnit)
      else if key = sitesKey then some (fixedSites (system.get? sitesKey))
      else (reconcileSystem system).value.get? key := by
  have same := fun {key} (member : key ∈ memberKeys) =>
    actsAs_system.outside keyed key (memberKeys_outside member)
  simp only [fixSystem, value_bind, get?_under, get?_fixSites]
  by_cases talkgroups : key = talkgroupsKey
  · simp [talkgroups, same (by decide : talkgroupsKey ∈ memberKeys),
      show unitsKey ≠ talkgroupsKey by decide, show talkgroupsKey ≠ sitesKey by decide]
  · by_cases units : key = unitsKey
    · simp [units, same (by decide : unitsKey ∈ memberKeys),
        show talkgroupsKey ≠ unitsKey by decide, show unitsKey ≠ talkgroupsKey by decide,
        show unitsKey ≠ sitesKey by decide]
    · simp only [talkgroups, units, Ne.symm talkgroups, Ne.symm units, if_false,
        same (by decide : sitesKey ∈ memberKeys)]

theorem get?_fixSystem_sites (keyed : system.WellKeyed) :
    (fixSystem system).value.get? sitesKey = some (fixedSites (system.get? sitesKey)) := by
  rw [get?_fixSystem keyed, if_neg (by decide), if_neg (by decide), if_pos rfl]

theorem get?_fixSystem_units (keyed : system.WellKeyed) :
    (fixSystem system).value.get? unitsKey =
      (system.get? unitsKey).map (revisedItems reconcileUnit) := by
  rw [get?_fixSystem keyed, if_neg (by decide), if_pos rfl]

theorem get?_fixSystem_talkgroups (keyed : system.WellKeyed) :
    (fixSystem system).value.get? talkgroupsKey =
      (system.get? talkgroupsKey).map (revisedItems reconcileTalkgroup) := by
  rw [get?_fixSystem keyed, if_pos rfl]

theorem changes_fixSystem (keyed : system.WellKeyed) :
    (fixSystem system).changes =
      (Identifiers.system (.ofRecord systemRefKey system)).changes ++
        (sitesChanges (system.get? sitesKey) ++
          (itemChanges reconcileUnit (system.get? unitsKey) ++
            itemChanges reconcileTalkgroup (system.get? talkgroupsKey))) := by
  have same := fun {key} (member : key ∈ memberKeys) =>
    actsAs_system.outside keyed key (memberKeys_outside member)
  simp only [fixSystem, changes_bind, changes_fixSites, changes_under, get?_under, get?_fixSites,
    same (by decide : sitesKey ∈ memberKeys), same (by decide : unitsKey ∈ memberKeys),
    same (by decide : talkgroupsKey ∈ memberKeys), show unitsKey ≠ sitesKey by decide,
    show unitsKey ≠ talkgroupsKey by decide, show talkgroupsKey ≠ sitesKey by decide, if_false,
    actsAs_system.changes keyed]

theorem ofRecord_fixSystem (keyed : system.WellKeyed) :
    Identifiers.ofRecord systemRefKey (fixSystem system).value =
      (Identifiers.system (.ofRecord systemRefKey system)).value := by
  rw [← actsAs_system.value keyed]
  simp [Identifiers.ofRecord, get?_fixSystem keyed, legacyIdKey, idKey, systemRefKey, sitesKey,
    unitsKey, talkgroupsKey]

theorem get?_legacyId_fixSystem (keyed : system.WellKeyed) :
    (fixSystem system).value.get? legacyIdKey = none := by
  have fields := congrArg Identifiers.legacy (ofRecord_fixSystem keyed)
  exact fields.trans (Identifiers.legacy_system _)

theorem sameOutside_fixSystem (keyed : system.WellKeyed) :
    Entries.SameOutside ([legacyIdKey, idKey, systemRefKey] ++ memberKeys) system
      (fixSystem system).value := by
  intro key outside
  rw [List.mem_append, not_or] at outside
  obtain ⟨noIdentifier, noMember⟩ := outside
  simp only [memberKeys, List.mem_cons, List.not_mem_nil, or_false, not_or] at noMember
  rw [get?_fixSystem keyed, if_neg noMember.2.2, if_neg noMember.2.1, if_neg noMember.1]
  exact actsAs_system.outside keyed key noIdentifier

end ScannerConfig.Normalization
