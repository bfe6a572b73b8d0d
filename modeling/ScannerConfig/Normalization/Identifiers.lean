import ScannerConfig.Normalization.Revision

namespace ScannerConfig.Normalization

def legacyIdKey : String := "_id"
def idKey : String := "id"
def systemRefKey : String := "systemRef"
def unitRefKey : String := "unitRef"
def talkgroupRefKey : String := "talkgroupRef"
def groupIdKey : String := "groupId"
def groupIdsKey : String := "groupIds"

/-- The fields that every unit has. -/
def unitFields : List String := [unitRefKey, "unitFrom", "unitTo"]

/-- Moves the legacy identifier to `id`, unless that is there. -/
def renameLegacyId (record : Record) : Revision Record :=
  if record.has idKey then .keep record
  else match record.pop? legacyIdKey with
    | some (legacy, rest) => .changed .idRenamed (rest.insert idKey legacy)
    | none => .keep record

/-- Drops a legacy identifier that is left over. -/
def discardLegacyId (record : Record) : Revision Record :=
  match record.pop? legacyIdKey with
  | some (_, rest) => .changed .idDiscarded rest
  | none => .keep record

/-- Reads `id` as a reference: the record is left without an identifier, so that the storage
gives it one. -/
def extractReference (referenceKey : String) (record : Record) : Revision Record :=
  match record.pop? idKey with
  | some (id, rest) => .changed .referenceExtracted (rest.insert referenceKey id)
  | none => .keep record

/-- Records without a reference. -/
def reconcileSimple (record : Record) : Revision Record := do
  let record ← renameLegacyId record
  discardLegacyId record

/-- Systems: beside a legacy identifier `id` is the reference, without one it is if no reference
is there. -/
def reconcileSystem (record : Record) : Revision Record :=
  match record.pop? legacyIdKey with
  | some (legacy, rest) => do
    let rest ← extractReference systemRefKey rest
    .changed .idRenamed (rest.insert idKey legacy)
  | none =>
    if record.has idKey && !record.has systemRefKey then extractReference systemRefKey record
    else .keep record

/-- Gives a unit the fields that it lacks. -/
def seedUnitFields : List String → Record → Revision Record
  | [], record => .keep record
  | field :: fields, record =>
    if record.has field then seedUnitFields fields record
    else do
      let record ← .changed .unitFieldSeeded (record.insert field .null)
      seedUnitFields fields record

/-- Units: a lone `id` is the reference. -/
def reconcileUnit (record : Record) : Revision Record := do
  let record ←
    if record.has idKey && !record.has unitRefKey && !record.has legacyIdKey then
      extractReference unitRefKey record
    else renameLegacyId record
  let record ← discardLegacyId record
  seedUnitFields unitFields record

/-- The list of groups with one more member, if it is not there. -/
def withGroup (group : Json) : Option Json → Json
  | some (.array groups) =>
    if groups.any (Json.same · group) then .array groups else .array (groups ++ [group])
  | _ => .array [group]

/-- Takes a single group into the list of groups; one that is no number is dropped. -/
def foldGroup (record : Record) : Revision Record :=
  match record.pop? groupIdKey with
  | none => .keep record
  | some (.number group, rest) =>
    .changed .groupFolded
      (rest.insert groupIdsKey (withGroup (.number group) (rest.get? groupIdsKey)))
  | some (_, rest) => .changed .groupDropped rest

/-- Talkgroups: `id` is the reference if there is none. -/
def reconcileTalkgroup (record : Record) : Revision Record := do
  let record ←
    if record.has idKey && !record.has talkgroupRefKey then extractReference talkgroupRefKey record
    else .keep record
  let record ← renameLegacyId record
  let record ← discardLegacyId record
  foldGroup record

end ScannerConfig.Normalization
