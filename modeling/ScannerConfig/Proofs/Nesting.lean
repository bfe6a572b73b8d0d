import ScannerConfig.Proofs.Lookup
import ScannerConfig.Proofs.NumberText

namespace ScannerConfig

namespace Entries

/-- All values of a record have a property. -/
def Each (property : Json → Prop) (record : Entries Json) : Prop :=
  ∀ entry ∈ record, property entry.2

variable {property : Json → Prop} {record : Entries Json} {key : String} {value : Json}

theorem Each.get? (each : record.Each property) (found : record.get? key = some value) :
    property value :=
  each (key, value) (mem_of_get? found)

theorem Each.erase (each : record.Each property) (key : String) :
    (record.erase key).Each property := by
  cases found : record.get? key with
  | none => rwa [erase_of_get?_none found]
  | some value =>
    intro entry member
    exact each entry ((erase_perm found).mem_iff.mp (List.mem_cons_of_mem _ member))

theorem Each.insert (each : record.Each property) (key : String) (holds : property value) :
    (record.insert key value).Each property := by
  induction record with
  | nil => exact List.forall_mem_singleton.mpr holds
  | cons entry rest ih =>
    obtain ⟨here, later⟩ := List.forall_mem_cons.mp each
    rw [Entries.insert]
    split
    · exact List.forall_mem_cons.mpr ⟨holds, later⟩
    · exact List.forall_mem_cons.mpr ⟨here, ih later⟩

theorem Each.insertAll {new : Entries Json} (each : record.Each property)
    (eachNew : new.Each property) : (record.insertAll new).Each property := by
  induction new generalizing record with
  | nil => exact each
  | cons entry rest ih =>
    obtain ⟨here, later⟩ := List.forall_mem_cons.mp eachNew
    exact ih (each.insert entry.1 here) later

theorem Each.modify {f : Json → Json} (each : record.Each property)
    (keeps : ∀ value, property value → property (f value)) (key : String) :
    (record.modify key f).Each property := by
  induction record with
  | nil => exact each
  | cons entry rest ih =>
    obtain ⟨here, later⟩ := List.forall_mem_cons.mp each
    rw [Entries.modify]
    split
    · exact List.forall_mem_cons.mpr ⟨keeps _ here, later⟩
    · exact List.forall_mem_cons.mpr ⟨here, ih later⟩

/-- What is taken out of a record has the property, and so has all that is left. -/
theorem Each.pop? (each : record.Each property) {rest : Entries Json}
    (popped : record.pop? key = some (value, rest)) : property value ∧ rest.Each property := by
  cases found : record.get? key with
  | none => simp [pop?_of_get?_none found] at popped
  | some there =>
    rw [pop?_of_get?_some found] at popped
    cases popped
    exact ⟨each.get? found, each.erase key⟩

end Entries

namespace Json

mutual

/-- How many lists and objects stand around the innermost value. -/
def depth : Json → Nat
  | .array items => depthOfItems items + 1
  | .object entries => depthOfEntries entries + 1
  | .null | .bool _ | .number _ | .string _ => 0

def depthOfItems : List Json → Nat
  | [] => 0
  | item :: rest => max (depth item) (depthOfItems rest)

def depthOfEntries : List (String × Json) → Nat
  | [] => 0
  | (_, value) :: rest => max (depth value) (depthOfEntries rest)

end

mutual

/-- Whether all numbers of the document are integers of at most 64 bits. -/
def integral : Json → Bool
  | .number n => n.isInteger
  | .array items => integralItems items
  | .object entries => integralEntries entries
  | .null | .bool _ | .string _ => true

def integralItems : List Json → Bool
  | [] => true
  | item :: rest => integral item && integralItems rest

def integralEntries : List (String × Json) → Bool
  | [] => true
  | (_, value) :: rest => integral value && integralEntries rest

end

theorem depth_array_le {items : List Json} {level : Nat} :
    (Json.array items).depth ≤ level + 1 ↔ ∀ item ∈ items, item.depth ≤ level := by
  rw [depth, Nat.add_le_add_iff_right]
  induction items with
  | nil => simp [depthOfItems]
  | cons item rest ih => rw [depthOfItems, Nat.max_le, ih, List.forall_mem_cons]

theorem depth_object_le {entries : Entries Json} {level : Nat} :
    (Json.object entries).depth ≤ level + 1 ↔ ∀ entry ∈ entries, entry.2.depth ≤ level := by
  rw [depth, Nat.add_le_add_iff_right]
  induction entries with
  | nil => simp [depthOfEntries]
  | cons entry rest ih => rw [depthOfEntries, Nat.max_le, ih, List.forall_mem_cons]

theorem integral_array {items : List Json} :
    (Json.array items).integral = true ↔ ∀ item ∈ items, item.integral = true := by
  rw [integral]
  induction items with
  | nil => simp [integralItems]
  | cons item rest ih => simp [integralItems, ih]

theorem integral_object {entries : Entries Json} :
    (Json.object entries).integral = true ↔ ∀ entry ∈ entries, entry.2.integral = true := by
  rw [integral]
  induction entries with
  | nil => simp [integralEntries]
  | cons entry rest ih => simp [integralEntries, ih]

/-- A property of values that may be nested a number of levels deep. Lists and objects have it
if what is inside has it one level less deep, and values that do not nest have it at any level
or at none. -/
structure Layered (property : Nat → Json → Prop) : Prop where
  null (level : Nat) : property level .null
  bool (level : Nat) (b : Bool) : property level (.bool b)
  string (level : Nat) (s : String) : property level (.string s)
  number {level : Nat} {n : Number} (other : Nat) :
    property level (.number n) → property other (.number n)
  natural (level : Nat) {n : Nat} : n < 2 ^ 64 → property level (.ofNat n)
  array {level : Nat} {items : List Json} :
    property (level + 1) (.array items) ↔ ∀ item ∈ items, property level item
  object {level : Nat} {entries : Entries Json} :
    property (level + 1) (.object entries) ↔ ∀ entry ∈ entries, property level entry.2

theorem layered_depth : Layered fun level value => value.depth ≤ level where
  null := Nat.zero_le
  bool level _ := Nat.zero_le level
  string level _ := Nat.zero_le level
  number other _ := Nat.zero_le other
  natural level _ _ := Nat.zero_le level
  array := depth_array_le
  object := depth_object_le

theorem layered_integral : Layered fun _ value => value.integral = true where
  null _ := rfl
  bool _ _ := rfl
  string _ _ := rfl
  number _ holds := holds
  natural _ n small := by
    simp only [ofNat, integral, Number.isInteger, Bool.and_eq_true, decide_eq_true_eq]
    omega
  array := integral_array
  object := integral_object

end Json

end ScannerConfig
