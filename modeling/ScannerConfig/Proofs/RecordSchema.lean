import ScannerConfig.Proofs.Equality
import ScannerConfig.Proofs.Overlay
import ScannerConfig.Schema.Configuration

namespace ScannerConfig

/-- How a field is read from a value, what it is where there is none, and what is written. -/
structure Field (α : Type) where
  read : Json → Except ShapeError α
  missing : α
  write : α → Option Json

namespace Field

variable {α : Type}

def found (field : Field α) : Option Json → Except ShapeError α
  | none => .ok field.missing
  | some value => field.read value

/-- What is written for a field that was read is a view of what it was read from, and is read
as the same field again. -/
def Shows (field : Field α) (view : Option Json → Option Json) : Prop :=
  ∀ ⦃found : Option Json⦄ ⦃value : α⦄, KeyedValue found → field.found found = .ok value →
    KeyedValue (field.write value) ∧ Json.SameFound (field.write value) (view found) ∧
      field.found (field.write value) = .ok value

end Field

/-- A key of a record type with its field. -/
structure Slot (τ : Type) where
  key : String
  {content : Type}
  field : Field content
  get : τ → content
  set : τ → content → τ

structure RecordSchema (τ : Type) where
  slots : List (Slot τ)
  empty : τ
  extra : τ → Entries Json
  append : τ → String × Json → τ

namespace RecordSchema

variable {τ : Type}

def keys (schema : RecordSchema τ) : List String :=
  schema.slots.map Slot.key

/-- The entries of those slots that have something to write. -/
def slotEntries (slots : List (Slot τ)) (record : τ) : Entries Json :=
  slots.flatMap fun slot => givenEntry slot.key (slot.field.write (slot.get record))

def entries (schema : RecordSchema τ) (record : τ) : Entries Json :=
  slotEntries schema.slots record ++ schema.extra record

/-- A record that shows some entries: each slot what is found under its key, and the other
entries in their order. -/
structure Holds (schema : RecordSchema τ) (entries : Entries Json) (record : τ) : Prop where
  slot : ∀ slot ∈ schema.slots, slot.field.found (entries.get? slot.key) = .ok (slot.get record)
  extra : schema.extra record = entries.filter fun entry => entry.1 ∉ schema.keys

/-- Slots do not get into each other's way. What is set in a slot is found there, if nothing was
set before. -/
structure Lawful (schema : RecordSchema τ) : Prop where
  distinct : schema.keys.Nodup
  get_empty : ∀ slot ∈ schema.slots, slot.get schema.empty = slot.field.missing
  extra_empty : schema.extra schema.empty = []
  get_set : ∀ slot ∈ schema.slots, ∀ record, slot.get record = slot.field.missing →
    ∀ value, slot.get (slot.set record value) = value
  get_set_other : ∀ slot ∈ schema.slots, ∀ other ∈ schema.slots, other.key ≠ slot.key →
    ∀ record value, other.get (slot.set record value) = other.get record
  extra_set : ∀ slot ∈ schema.slots, ∀ record value,
    schema.extra (slot.set record value) = schema.extra record
  get_append : ∀ slot ∈ schema.slots, ∀ record entry,
    slot.get (schema.append record entry) = slot.get record
  extra_append : ∀ record entry, schema.extra (schema.append record entry) = schema.extra record ++ [entry]

/-- A record is nothing but its slots and its other entries. -/
def Extensional (schema : RecordSchema τ) : Prop :=
  ∀ record other, (∀ slot ∈ schema.slots, slot.get record = slot.get other) →
    schema.extra record = schema.extra other → record = other

/-- A reader that sets a slot by its key and appends the entries under other keys. -/
structure AddedBy (schema : RecordSchema τ) (add : τ → String × Json → Except ShapeError τ) :
    Prop where
  known : ∀ slot ∈ schema.slots, ∀ record value,
    add record (slot.key, value) = (slot.field.read value).map (slot.set record)
  unknown : ∀ entry, entry.1 ∉ schema.keys → ∀ record,
    add record entry = .ok (schema.append record entry)

variable {schema : RecordSchema τ} {add : τ → String × Json → Except ShapeError τ}
  {record after : τ} {done rest : Entries Json} {entry : String × Json}

theorem Lawful.slot_of_key (lawful : schema.Lawful) {slot other : Slot τ}
    (member : slot ∈ schema.slots) (memberOther : other ∈ schema.slots)
    (same : slot.key = other.key) : slot = other :=
  List.inj_on_of_nodup_map lawful.distinct member memberOther same

theorem slot_or_unknown (schema : RecordSchema τ) (key : String) :
    (∃ slot ∈ schema.slots, slot.key = key) ∨ key ∉ schema.keys := by
  by_cases member : key ∈ schema.keys
  · exact .inl (List.mem_map.mp member)
  · exact .inr member

theorem Lawful.holds_empty (lawful : schema.Lawful) : schema.Holds [] schema.empty where
  slot slot member := congrArg Except.ok (lawful.get_empty slot member).symm
  extra := lawful.extra_empty

/-- One more entry under a new key. -/
theorem Holds.step (lawful : schema.Lawful) (added : schema.AddedBy add)
    (holds : schema.Holds done record) (fresh : done.get? entry.1 = none)
    (ok : add record entry = .ok after) : schema.Holds (done ++ [entry]) after := by
  obtain ⟨key, value⟩ := entry
  have elsewhere : ∀ other ≠ key, Entries.get? (done ++ [(key, value)]) other = done.get? other := by
    intro other different
    simp [Entries.get?_append, Entries.get?, different.symm]
  have here : Entries.get? (done ++ [(key, value)]) key = some value := by
    rw [Entries.get?_append, fresh]
    simp [Entries.get?]
  rcases schema.slot_or_unknown key with ⟨slot, member, rfl⟩ | unknown
  · rw [added.known slot member] at ok
    cases read : slot.field.read value with
    | error fault => simp [read, Except.map] at ok
    | ok content =>
      rw [read] at ok
      cases ok
      constructor
      · intro other memberOther
        by_cases same : other.key = slot.key
        · cases lawful.slot_of_key memberOther member same
          have missing := holds.slot slot member
          rw [fresh] at missing
          rw [here, lawful.get_set slot member record (Except.ok.inj missing).symm]
          exact read
        · rw [elsewhere _ same, lawful.get_set_other slot member other memberOther same]
          exact holds.slot other memberOther
      · have known : slot.key ∈ schema.keys := List.mem_map_of_mem member
        rw [lawful.extra_set slot member, holds.extra]
        simp [List.filter_append, known]
  · rw [added.unknown (key, value) unknown] at ok
    cases ok
    constructor
    · intro other memberOther
      have different : other.key ≠ key := fun same =>
        unknown (same ▸ List.mem_map_of_mem memberOther)
      rw [elsewhere _ different, lawful.get_append other memberOther]
      exact holds.slot other memberOther
    · rw [lawful.extra_append, holds.extra]
      simp [List.filter_append, unknown]

/-- A run over further entries under keys of their own. -/
theorem Holds.run (lawful : schema.Lawful) (added : schema.AddedBy add)
    (holds : schema.Holds done record) (distinct : Entries.Distinct (done ++ rest))
    (ok : rest.foldlM add record = .ok after) : schema.Holds (done ++ rest) after := by
  induction rest generalizing done record with
  | nil =>
    cases ok
    rwa [List.append_nil]
  | cons entry rest ih =>
    rw [List.foldlM_cons] at ok
    cases next : add record entry with
    | error fault => simp [next, bind, Except.bind] at ok
    | ok middle =>
      simp only [next, bind, Except.bind] at ok
      have fresh : done.get? entry.1 = none := by
        rw [Entries.get?_eq_none_iff]
        intro inside
        rw [Entries.Distinct, Entries.keys, List.map_append, List.nodup_append] at distinct
        exact distinct.2.2 entry.1 inside entry.1 (by simp) rfl
      rw [← List.singleton_append, ← List.append_assoc] at distinct ⊢
      exact ih (holds.step lawful added fresh next) distinct ok

/-- Entries are read if each slot can be read from what is found under its key. -/
theorem AddedBy.accepts (added : schema.AddedBy add) {all : Entries Json} (distinct : all.Distinct)
    (readable : ∀ slot ∈ schema.slots, ∃ content, slot.field.found (all.get? slot.key) = .ok content)
    (inside : rest ⊆ all) (record : τ) : ∃ result, rest.foldlM add record = .ok result := by
  induction rest generalizing record with
  | nil => exact ⟨record, rfl⟩
  | cons entry rest ih =>
    obtain ⟨here, later⟩ := List.cons_subset.mp inside
    have accepted : ∃ next, add record entry = .ok next := by
      rcases schema.slot_or_unknown entry.1 with ⟨slot, member, same⟩ | unknown
      · obtain ⟨content, read⟩ := readable slot member
        rw [same, Entries.get?_of_mem distinct here] at read
        refine ⟨slot.set record content, ?_⟩
        have known := added.known slot member record entry.2
        rw [same] at known
        rw [known]
        exact congrArg (Except.map (slot.set record)) read
      · exact ⟨_, added.unknown entry unknown record⟩
    obtain ⟨next, ok⟩ := accepted
    obtain ⟨result, run⟩ := ih later next
    refine ⟨result, ?_⟩
    rw [List.foldlM_cons, ok]
    exact run

theorem AddedBy.accepts_iff (added : schema.AddedBy add) (lawful : schema.Lawful)
    {entries : Entries Json} (distinct : entries.Distinct) :
    (∃ result, entries.foldlM add schema.empty = .ok result) ↔
      ∀ slot ∈ schema.slots, ∃ content, slot.field.found (entries.get? slot.key) = .ok content := by
  constructor
  · rintro ⟨result, ok⟩ slot member
    exact ⟨_, (lawful.holds_empty.run lawful added distinct ok).slot slot member⟩
  · exact fun readable => added.accepts distinct readable (List.Subset.refl _) schema.empty

theorem Holds.slot_eq {entries : Entries Json} (holds : schema.Holds entries record)
    (other : schema.Holds entries after) : ∀ slot ∈ schema.slots, slot.get record = slot.get after :=
  fun slot member => Except.ok.inj ((holds.slot slot member).symm.trans (other.slot slot member))

/-- Entries that some record shows are read. -/
theorem AddedBy.reads (added : schema.AddedBy add) (lawful : schema.Lawful)
    {entries : Entries Json} (distinct : entries.Distinct) (holds : schema.Holds entries record) :
    ∃ result, entries.foldlM add schema.empty = .ok result ∧ schema.Holds entries result := by
  obtain ⟨result, ok⟩ := (added.accepts_iff lawful distinct).mpr fun slot member =>
    ⟨_, holds.slot slot member⟩
  exact ⟨result, ok, lawful.holds_empty.run lawful added distinct ok⟩

/-- What is read from a record is the typed record that shows its entries, and nothing is read
where there is none. -/
theorem foldlM_eq_ok_iff (lawful : schema.Lawful) (extensional : schema.Extensional)
    (added : schema.AddedBy add) {entries : Entries Json} (distinct : entries.Distinct) :
    entries.foldlM add schema.empty = .ok record ↔ schema.Holds entries record := by
  refine ⟨lawful.holds_empty.run lawful added distinct, fun holds => ?_⟩
  obtain ⟨result, ok, other⟩ := added.reads lawful distinct holds
  have same : result = record :=
    extensional result record (other.slot_eq holds) (other.extra.trans holds.extra.symm)
  rw [← same]
  exact ok

section Written

theorem get?_givenEntry (key other : String) (value : Option Json) :
    (givenEntry key value).get? other = if key = other then value else none := by
  cases value <;> by_cases same : key = other <;> simp [givenEntry, Entries.get?, same]

variable {slots : List (Slot τ)}

theorem get?_slotEntries_unknown {key : String} (unknown : key ∉ slots.map Slot.key) (record : τ) :
    (slotEntries slots record).get? key = none := by
  induction slots with
  | nil => rfl
  | cons slot slots ih =>
    rw [List.map_cons, List.mem_cons, not_or] at unknown
    rw [slotEntries, List.flatMap_cons, Entries.get?_append, get?_givenEntry,
      if_neg (Ne.symm unknown.1), Option.none_or]
    exact ih unknown.2

theorem get?_slotEntries {slot : Slot τ} (distinct : (slots.map Slot.key).Nodup)
    (member : slot ∈ slots) (record : τ) :
    (slotEntries slots record).get? slot.key = slot.field.write (slot.get record) := by
  induction slots with
  | nil => exact absurd member List.not_mem_nil
  | cons first slots ih =>
    obtain ⟨fresh, distinctRest⟩ := List.nodup_cons.mp distinct
    rw [slotEntries, List.flatMap_cons, Entries.get?_append, get?_givenEntry]
    rcases List.mem_cons.mp member with rfl | later
    · have none := get?_slotEntries_unknown fresh record
      rw [slotEntries] at none
      rw [none, if_pos rfl, Option.or_none]
    · have different : first.key ≠ slot.key := fun same =>
        fresh (same ▸ List.mem_map_of_mem later)
      rw [if_neg different, Option.none_or]
      exact ih distinctRest later

theorem keys_slotEntries (slots : List (Slot τ)) (record : τ) :
    (slotEntries slots record).keys.Sublist (slots.map Slot.key) := by
  induction slots with
  | nil => exact List.Sublist.refl _
  | cons slot slots ih =>
    have first : (givenEntry slot.key (slot.field.write (slot.get record))).keys.Sublist [slot.key] := by
      cases slot.field.write (slot.get record) <;> simp [givenEntry, Entries.keys]
    rw [slotEntries, List.flatMap_cons, Entries.keys, List.map_append]
    exact first.append ih

variable {entries : Entries Json}

theorem Holds.extra_outside (holds : schema.Holds entries record) {entry : String × Json}
    (member : entry ∈ schema.extra record) : entry.1 ∉ schema.keys := by
  rw [holds.extra] at member
  exact of_decide_eq_true (List.mem_filter.mp member).2

theorem Holds.distinct_entries (lawful : schema.Lawful) (holds : schema.Holds entries record)
    (distinct : entries.Distinct) : (schema.entries record).Distinct := by
  rw [Entries.Distinct, RecordSchema.entries, Entries.keys, List.map_append, List.nodup_append]
  refine ⟨(keys_slotEntries schema.slots record).nodup lawful.distinct, ?_, ?_⟩
  · rw [holds.extra]
    exact (List.filter_sublist.map Prod.fst).nodup distinct
  · rintro key inSlots other inExtra rfl
    obtain ⟨entry, member, rfl⟩ := List.mem_map.mp inExtra
    exact holds.extra_outside member ((keys_slotEntries schema.slots record).subset inSlots)

theorem get?_entries (lawful : schema.Lawful) (holds : schema.Holds entries record)
    {slot : Slot τ} (member : slot ∈ schema.slots) :
    (schema.entries record).get? slot.key = slot.field.write (slot.get record) := by
  have outside : Entries.get? (schema.extra record) slot.key = none := by
    rw [Entries.get?_eq_none_iff]
    intro inExtra
    obtain ⟨entry, inside, same⟩ := List.mem_map.mp inExtra
    exact holds.extra_outside inside (same ▸ List.mem_map_of_mem member)
  rw [RecordSchema.entries, Entries.get?_append, outside, Option.or_none,
    get?_slotEntries lawful.distinct member]

/-- Entries under keys without a slot are written as they were read. -/
theorem get?_entries_unknown (holds : schema.Holds entries record) {key : String}
    (unknown : key ∉ schema.keys) : (schema.entries record).get? key = entries.get? key := by
  rw [RecordSchema.entries, Entries.get?_append, get?_slotEntries_unknown unknown, Option.none_or,
    holds.extra]
  exact Entries.get?_filter entries _ fun _ => decide_eq_true unknown

/-- What is written for a record is a view of the entries it was read from, and is read as the
same record again. -/
theorem Holds.shows (lawful : schema.Lawful) (holds : schema.Holds entries record)
    (keyed : entries.WellKeyed) {view : String → Option Json → Option Json}
    (shows : ∀ slot ∈ schema.slots, slot.field.Shows (view slot.key))
    (unchanged : ∀ key ∉ schema.keys, ∀ found, view key found = found) :
    (schema.entries record).WellKeyed ∧
      (∀ key, Json.SameFound ((schema.entries record).get? key) (view key (entries.get? key))) ∧
        schema.Holds (schema.entries record) record := by
  have shown := fun slot (member : slot ∈ schema.slots) =>
    shows slot member (keyed.keyedValue slot.key) (holds.slot slot member)
  refine ⟨⟨holds.distinct_entries lawful keyed.distinct, ?_⟩, ?_, ?_, ?_⟩
  · intro key value found
    rcases schema.slot_or_unknown key with ⟨slot, member, rfl⟩ | unknown
    · rw [get?_entries lawful holds member] at found
      exact (shown slot member).1 value found
    · rw [get?_entries_unknown holds unknown] at found
      exact keyed.value found
  · intro key
    rcases schema.slot_or_unknown key with ⟨slot, member, rfl⟩ | unknown
    · rw [get?_entries lawful holds member]
      exact (shown slot member).2.1
    · rw [get?_entries_unknown holds unknown, unchanged key unknown]
      exact Json.sameFound_refl (keyed.keyedValue key)
  · intro slot member
    rw [get?_entries lawful holds member]
    exact (shown slot member).2.2
  · have noSlots : (slotEntries schema.slots record).filter (fun entry => entry.1 ∉ schema.keys) = [] := by
      rw [List.filter_eq_nil_iff]
      intro entry member
      have known := (keys_slotEntries schema.slots record).subset (List.mem_map_of_mem member)
      simpa [keys] using known
    have allExtra : (schema.extra record).filter (fun entry => entry.1 ∉ schema.keys) =
        schema.extra record :=
      List.filter_eq_self.mpr fun entry member => decide_eq_true (holds.extra_outside member)
    rw [RecordSchema.entries, List.filter_append, noSlots, allExtra, List.nil_append]

end Written

end RecordSchema

end ScannerConfig
