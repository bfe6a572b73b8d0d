import ScannerConfig.Normalization.Identifiers

namespace ScannerConfig.Normalization

def systemsKey : String := "systems"
def sitesKey : String := "sites"
def unitsKey : String := "units"
def talkgroupsKey : String := "talkgroups"

/-- Every system has a list of sites. -/
def fixSites (system : Record) : Revision Record :=
  match system.get? sitesKey with
  | none | some .null => .changed .sitesDefaulted (system.insert sitesKey (.array []))
  | some _ => .under sitesKey (.nested sitesKey) reconcileSimple system

def fixSystem (system : Record) : Revision Record := do
  let system ← reconcileSystem system
  let system ← fixSites system
  let system ← .under unitsKey (.nested unitsKey) reconcileUnit system
  .under talkgroupsKey (.nested talkgroupsKey) reconcileTalkgroup system

def fixSystems (root : Record) : Revision Record :=
  .under systemsKey .systems fixSystem root

end ScannerConfig.Normalization
