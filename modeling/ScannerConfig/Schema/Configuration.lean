import ScannerConfig.Schema.Collection
import ScannerConfig.Schema.Options

namespace ScannerConfig

/-- A record without a reference. -/
structure Entity where
  id : Option Json
  extra : Entries Json

structure RadioUnit where
  id : Option Json
  unitRef : Option Json
  unitFrom : Option Json
  unitTo : Option Json
  extra : Entries Json

structure Talkgroup where
  id : Option Json
  talkgroupRef : Option Json
  groupIds : Option (List Json)
  extra : Entries Json

structure RadioSystem where
  id : Option Json
  systemRef : Option Json
  sites : List Entity
  units : Option (List RadioUnit)
  talkgroups : Option (List Talkgroup)
  extra : Entries Json

structure Configuration where
  collections : Collection → Option (List Entity)
  systems : Option (List RadioSystem)
  options : Options
  extra : Entries Json

open ShapeError (asRecord asList optional given)

/-- The items of a list, each read in its turn. -/
def readList {α : Type} (read : Json → Except ShapeError α) (value : Json) :
    Except ShapeError (List α) := do
  let items ← asList value
  items.mapM read

/-- An entry that is written only if it has a value. -/
def givenEntry (key : String) (value : Option Json) : Entries Json :=
  value.toList.map fun value => (key, value)

def listEntry {α : Type} (key : String) (write : α → Json) (items : Option (List α)) :
    Entries Json :=
  givenEntry key (items.map fun items => .array (items.map write))

namespace Entity

def empty : Entity := ⟨none, []⟩

def add (entity : Entity) (entry : String × Json) : Entity :=
  match entry.1 with
  | "id" => { entity with id := given entry.2 }
  | _ => { entity with extra := entity.extra ++ [entry] }

def read (value : Json) : Except ShapeError Entity := do
  let entries ← asRecord .entity value
  return entries.foldl add empty

def write (entity : Entity) : Json :=
  .object (givenEntry "id" entity.id ++ entity.extra)

end Entity

namespace RadioUnit

def empty : RadioUnit := ⟨none, none, none, none, []⟩

def add (unit : RadioUnit) (entry : String × Json) : RadioUnit :=
  match entry.1 with
  | "id" => { unit with id := given entry.2 }
  | "unitRef" => { unit with unitRef := given entry.2 }
  | "unitFrom" => { unit with unitFrom := given entry.2 }
  | "unitTo" => { unit with unitTo := given entry.2 }
  | _ => { unit with extra := unit.extra ++ [entry] }

def read (value : Json) : Except ShapeError RadioUnit := do
  let entries ← asRecord .unit value
  return entries.foldl add empty

/-- The reference and the range are always written. -/
def write (unit : RadioUnit) : Json :=
  .object (givenEntry "id" unit.id ++
    [("unitRef", unit.unitRef.getD .null), ("unitFrom", unit.unitFrom.getD .null),
      ("unitTo", unit.unitTo.getD .null)] ++ unit.extra)

end RadioUnit

namespace Talkgroup

def empty : Talkgroup := ⟨none, none, none, []⟩

def add (talkgroup : Talkgroup) (entry : String × Json) : Except ShapeError Talkgroup :=
  match entry.1 with
  | "id" => .ok { talkgroup with id := given entry.2 }
  | "talkgroupRef" => .ok { talkgroup with talkgroupRef := given entry.2 }
  | "groupIds" => do return { talkgroup with groupIds := ← optional asList entry.2 }
  | _ => .ok { talkgroup with extra := talkgroup.extra ++ [entry] }

def read (value : Json) : Except ShapeError Talkgroup := do
  let entries ← asRecord .talkgroup value
  entries.foldlM add empty

def write (talkgroup : Talkgroup) : Json :=
  .object (givenEntry "id" talkgroup.id ++ givenEntry "talkgroupRef" talkgroup.talkgroupRef ++
    listEntry "groupIds" (fun group => group) talkgroup.groupIds ++ talkgroup.extra)

end Talkgroup

namespace RadioSystem

def empty : RadioSystem := ⟨none, none, [], none, none, []⟩

def add (system : RadioSystem) (entry : String × Json) : Except ShapeError RadioSystem :=
  match entry.1 with
  | "id" => .ok { system with id := given entry.2 }
  | "systemRef" => .ok { system with systemRef := given entry.2 }
  | "sites" => do return { system with sites := ← readList Entity.read entry.2 }
  | "units" => do return { system with units := ← optional (readList RadioUnit.read) entry.2 }
  | "talkgroups" => do
    return { system with talkgroups := ← optional (readList Talkgroup.read) entry.2 }
  | _ => .ok { system with extra := system.extra ++ [entry] }

def read (value : Json) : Except ShapeError RadioSystem := do
  let entries ← asRecord .system value
  entries.foldlM add empty

/-- The sites are always written. -/
def write (system : RadioSystem) : Json :=
  .object (givenEntry "id" system.id ++ givenEntry "systemRef" system.systemRef ++
    [("sites", .array (system.sites.map Entity.write))] ++
    listEntry "units" RadioUnit.write system.units ++
    listEntry "talkgroups" Talkgroup.write system.talkgroups ++ system.extra)

end RadioSystem

namespace Configuration

/-- The configuration of an empty document. -/
def empty : Configuration := ⟨fun _ => none, none, Options.default, []⟩

def collection? (key : String) : Option Collection :=
  Collection.all.find? fun collection => collection.key == key

def withCollection (config : Configuration) (which : Collection) (items : Option (List Entity)) :
    Configuration :=
  { config with collections := fun c => if c = which then items else config.collections c }

def add (config : Configuration) (entry : String × Json) : Except ShapeError Configuration :=
  match collection? entry.1 with
  | some which => do return config.withCollection which (← optional (readList Entity.read) entry.2)
  | none =>
    match entry.1 with
    | "systems" => do
      return { config with systems := ← optional (readList RadioSystem.read) entry.2 }
    | "options" => do return { config with options := ← Options.read entry.2 }
    | _ => .ok { config with extra := config.extra ++ [entry] }

/-- The typed view of a document. The first entry that does not fit is reported. -/
def ofJson (document : Json) : Except ShapeError Configuration := do
  let entries ← asRecord .config document
  entries.foldlM add empty

def collectionEntry (config : Configuration) (which : Collection) : Entries Json :=
  listEntry which.key Entity.write (config.collections which)

def toJson (config : Configuration) : Json :=
  .object (
    [Collection.access, .apiKeys, .dirWatch, .downstreams, .groups, .tags].flatMap
      config.collectionEntry ++
    listEntry "systems" RadioSystem.write config.systems ++
    [Collection.users, .userGroups].flatMap config.collectionEntry ++
    [("options", .object config.options.entries)] ++ config.extra)

end Configuration

end ScannerConfig
