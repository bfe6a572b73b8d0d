namespace ScannerConfig

/-- Keys with their values, in order. -/
abbrev Entries (α : Type) := List (String × α)

namespace Entries

variable {α : Type}

def keys (entries : Entries α) : List String :=
  entries.map Prod.fst

def get? (entries : Entries α) (key : String) : Option α :=
  match entries with
  | [] => none
  | (k, v) :: rest => if k = key then some v else get? rest key

def has (entries : Entries α) (key : String) : Bool :=
  (entries.get? key).isSome

/-- Gives a key its value, in place or at the end. -/
def insert (entries : Entries α) (key : String) (value : α) : Entries α :=
  match entries with
  | [] => [(key, value)]
  | (k, v) :: rest => if k = key then (k, value) :: rest else (k, v) :: insert rest key value

/-- The entries with their last one moved to the front. -/
def lastFirst (entries : Entries α) : Entries α :=
  match entries.getLast? with
  | none => []
  | some last => last :: entries.dropLast

/-- Takes a key out; the last entry fills the gap. -/
def erase (entries : Entries α) (key : String) : Entries α :=
  match entries with
  | [] => []
  | (k, v) :: rest => if k = key then lastFirst rest else (k, v) :: erase rest key

/-- Takes a key out and answers its value, if it was there. -/
def pop? (entries : Entries α) (key : String) : Option (α × Entries α) :=
  (entries.get? key).map fun value => (value, entries.erase key)

/-- Changes the value of a key that is there. -/
def modify (entries : Entries α) (key : String) (f : α → α) : Entries α :=
  match entries with
  | [] => []
  | (k, v) :: rest => if k = key then (k, f v) :: rest else (k, v) :: modify rest key f

/-- Inserts the new entries one after another. -/
def insertAll (entries new : Entries α) : Entries α :=
  new.foldl (fun acc entry => acc.insert entry.1 entry.2) entries

/-- The entries of a list of pairs; of a repeated key the last value counts, in the first place. -/
def ofList (pairs : List (String × α)) : Entries α :=
  insertAll [] pairs

theorem get?_insert (entries : Entries α) (key other : String) (value : α) :
    (entries.insert key value).get? other =
      if key = other then some value else entries.get? other := by
  induction entries with
  | nil => rfl
  | cons entry rest ih =>
    obtain ⟨k, v⟩ := entry
    by_cases same : k = key
    · subst same
      by_cases asked : k = other <;> simp [insert, get?, asked]
    · by_cases asked : k = other
      · subst asked
        simp [insert, get?, same, Ne.symm same]
      · simp [insert, get?, same, asked, ih]

theorem keys_insert (entries : Entries α) (key : String) (value : α) :
    (entries.insert key value).keys =
      if entries.has key then entries.keys else entries.keys ++ [key] := by
  induction entries with
  | nil => rfl
  | cons entry rest ih =>
    obtain ⟨k, v⟩ := entry
    by_cases same : k = key
    · simp [insert, keys, has, get?, same]
    · simp only [keys, has] at ih
      by_cases known : (get? rest key).isSome <;>
        simp [insert, keys, has, get?, same, ih, known]

end Entries

end ScannerConfig
