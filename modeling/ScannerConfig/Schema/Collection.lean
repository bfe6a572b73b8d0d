namespace ScannerConfig

/-- The collections whose records have a single identifier. -/
inductive Collection where
  | apiKeys
  | dirWatch
  | downstreams
  | groups
  | tags
  | users
  | userGroups
  | access
  deriving DecidableEq, Repr

namespace Collection

def all : List Collection :=
  [apiKeys, dirWatch, downstreams, groups, tags, users, userGroups, access]

def key : Collection → String
  | apiKeys => "apikeys"
  | dirWatch => "dirwatch"
  | downstreams => "downstreams"
  | groups => "groups"
  | tags => "tags"
  | users => "users"
  | userGroups => "userGroups"
  | access => "access"

/-- The older spelling of a key, where there is one. -/
def alias? : Collection → Option String
  | apiKeys => some "apiKeys"
  | dirWatch => some "dirWatch"
  | downstreams => some "downStreams"
  | _ => none

/-- Groups and tags are shown in the order of their labels. -/
def isLabelSorted : Collection → Bool
  | groups | tags => true
  | _ => false

theorem mem_all (collection : Collection) : collection ∈ all := by
  cases collection <;> decide

end Collection

/-- Older spellings with the keys that replace them. -/
def aliases : List (String × String) :=
  Collection.all.filterMap fun collection =>
    collection.alias?.map fun spelling => (spelling, collection.key)

end ScannerConfig
