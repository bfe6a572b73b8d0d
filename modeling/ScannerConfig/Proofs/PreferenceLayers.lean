import Mathlib.Data.String.Basic
import ScannerConfig.Preferences.Load
import ScannerConfig.Proofs.Overlay
import ScannerConfig.Proofs.Steps

namespace ScannerConfig

namespace Preferences

variable {α : Type} {name key : String} {value : α} {profiles : List (String × α)}

/-- Each name is greater than those before it. -/
def InOrder (profiles : List (String × α)) : Prop :=
  profiles.Pairwise fun first second => first.1 < second.1

theorem get?_insertSorted (name : String) (value : α) (profiles : List (String × α)) (key : String) :
    Entries.get? (insertSorted name value profiles) key =
      if name = key then some value else Entries.get? profiles key := by
  induction profiles with
  | nil => rfl
  | cons entry rest ih =>
    obtain ⟨other, old⟩ := entry
    by_cases same : name = other
    · subst same
      by_cases asked : name = key <;> simp [insertSorted, Entries.get?, asked]
    · by_cases asked : name = key
      · subst asked
        by_cases before : name < other <;>
          simp [insertSorted, Entries.get?, same, Ne.symm same, before, ih]
      · by_cases before : name < other <;>
          simp [insertSorted, Entries.get?, same, asked, before, ih]

theorem mem_insertSorted {entry : String × α} (member : entry ∈ insertSorted name value profiles) :
    entry = (name, value) ∨ entry ∈ profiles := by
  induction profiles with
  | nil => exact .inl (List.mem_singleton.mp member)
  | cons first rest ih =>
    rw [insertSorted] at member
    split_ifs at member
    · exact (List.mem_cons.mp member).imp_right (List.mem_cons_of_mem first)
    · exact List.mem_cons.mp member
    · rcases List.mem_cons.mp member with rfl | later
      · exact .inr List.mem_cons_self
      · exact (ih later).imp_right (List.mem_cons_of_mem first)

theorem InOrder.insertSorted (ordered : InOrder profiles) (name : String) (value : α) :
    InOrder (insertSorted name value profiles) := by
  induction profiles with
  | nil => exact List.pairwise_singleton _ _
  | cons entry rest ih =>
    obtain ⟨other, old⟩ := entry
    obtain ⟨first, orderedRest⟩ := List.pairwise_cons.mp ordered
    rw [Preferences.insertSorted]
    split_ifs with same before
    · subst same
      exact List.pairwise_cons.mpr ⟨first, orderedRest⟩
    · refine List.pairwise_cons.mpr ⟨fun entry member => ?_, ordered⟩
      rcases List.mem_cons.mp member with rfl | later
      · exact before
      · exact before.trans (first entry later)
    · have after : other < name := lt_of_le_of_ne (not_lt.mp before) (Ne.symm same)
      refine List.pairwise_cons.mpr ⟨fun entry member => ?_, ih orderedRest⟩
      rcases mem_insertSorted member with rfl | later
      · exact after
      · exact first entry later

/-- A name that is greater than all others goes last. -/
theorem insertSorted_last (last : ∀ entry ∈ profiles, entry.1 < name) (value : α) :
    insertSorted name value profiles = profiles ++ [(name, value)] := by
  induction profiles with
  | nil => rfl
  | cons entry rest ih =>
    obtain ⟨before, later⟩ := List.forall_mem_cons.mp last
    rw [insertSorted, if_neg before.ne', if_neg before.not_gt, ih later, List.cons_append]

theorem InOrder.distinct (ordered : InOrder profiles) : Entries.Distinct profiles :=
  List.pairwise_map.mpr (ordered.imp ne_of_lt)

end Preferences

namespace Layer

open Preferences (InOrder insertSorted)

variable {old new entries : List (String × Layer)} {key : String}

theorem inOrder_foldl {sorted : List (String × Layer)} (ordered : InOrder sorted)
    (entries : List (String × Layer)) :
    InOrder (entries.foldl (fun sorted entry => insertSorted entry.1 entry.2 sorted) sorted) := by
  induction entries generalizing sorted with
  | nil => exact ordered
  | cons entry entries ih => exact ih (ordered.insertSorted entry.1 entry.2)

theorem inOrder_sortEntries (entries : List (String × Layer)) : InOrder (sortEntries entries) :=
  inOrder_foldl .nil entries

/-- Entries in order stay as they are. -/
theorem sortEntries_of_inOrder (ordered : InOrder entries) : sortEntries entries = entries := by
  have steps : ∀ done rest : List (String × Layer), InOrder (done ++ rest) →
      rest.foldl (fun sorted entry => insertSorted entry.1 entry.2 sorted) done = done ++ rest := by
    intro done rest
    induction rest generalizing done with
    | nil => simp
    | cons entry rest ih =>
      intro ordered
      have before : ∀ other ∈ done, other.1 < entry.1 := fun other member =>
        (List.pairwise_append.mp ordered).2.2 other member entry List.mem_cons_self
      have split : done ++ entry :: rest = (done ++ [entry]) ++ rest := by simp
      rw [split] at ordered ⊢
      rw [List.foldl_cons, Preferences.insertSorted_last before]
      exact ih _ ordered
  exact steps [] entries ordered

theorem has_overrideEntries (old new : List (String × Layer)) (key : String) :
    Entries.has (overrideEntries old new) key = (Entries.has old key || Entries.has new key) := by
  induction new generalizing old with
  | nil => simp [overrideEntries, Entries.has, Entries.get?]
  | cons entry new ih =>
    obtain ⟨k, v⟩ := entry
    rw [overrideEntries, ih, Entries.has_insert]
    by_cases same : k = key <;> simp [same, Entries.has, Entries.get?, Bool.or_comm]

/-- New entries with keys of their own lie over nothing. -/
theorem overrideEntries_nil (distinct : Entries.Distinct new) : overrideEntries [] new = new := by
  have steps : ∀ done rest : List (String × Layer), Entries.Distinct (done ++ rest) →
      overrideEntries done rest = done ++ rest := by
    intro done rest
    induction rest generalizing done with
    | nil => simp [overrideEntries]
    | cons entry rest ih =>
      obtain ⟨k, v⟩ := entry
      intro distinct
      have split : done ++ (k, v) :: rest = (done ++ [(k, v)]) ++ rest := by simp
      have absent : Entries.get? done k = none := by
        rw [Entries.get?_eq_none_iff]
        intro member
        rw [Entries.Distinct, Entries.keys_append] at distinct
        exact (List.nodup_append.mp distinct).2.2 k member k List.mem_cons_self rfl
      have fresh : Entries.has done k = false := by rw [Entries.has, absent]; rfl
      rw [overrideEntries, absent, Entries.insert_of_not_has fresh]
      rw [split] at distinct ⊢
      exact ih _ distinct
  exact steps [] new distinct

/-- A reading under a key succeeds with what the reading gives. -/
theorem underKey_ok {α : Type} {result : Except LoadFault α} {value : α}
    (ok : underKey key result = .ok value) : result = .ok value := by
  cases result with
  | error fault => cases ok
  | ok read => exact ok

/-- A profile that is read under its name is the one that its layer spells. -/
theorem read_named {name : String} {layer : Layer} {result : String × Profile}
    (ok : underKey name (layer.asProfile.map fun profile => (name, profile)) = .ok result) :
    result.1 = name ∧ layer.asProfile = .ok result.2 := by
  obtain ⟨profile, read, rfl⟩ := map_ok (underKey_ok ok)
  exact ⟨rfl, read⟩

theorem names_of_reads {entries : List (String × Layer)} {profiles : List (String × Profile)}
    (each : List.Forall₂ (fun entry result => underKey entry.1
      (entry.2.asProfile.map fun profile => (entry.1, profile)) = .ok result) entries profiles) :
    entries.map Prod.fst = profiles.map Prod.fst := by
  induction each with
  | nil => rfl
  | cons read _ ih => rw [List.map_cons, List.map_cons, ih, (read_named read).1]

/-- Profiles come in the order of their names, whatever the order of their entries. -/
theorem inOrder_of_asProfiles {layer : Layer} {profiles : List (String × Profile)}
    (ok : layer.asProfiles = .ok profiles) : InOrder profiles := by
  cases layer with
  | dict entries =>
    have each := mapM_eq_ok_iff.mp ok
    have names := names_of_reads each
    have ordered := List.pairwise_map.mpr (inOrder_sortEntries entries)
    rw [names] at ordered
    exact List.pairwise_map.mp ordered
  | _ => cases ok

theorem named_of_textAt? {expected : String} {found : Option String}
    (present : Entries.has entries key = true) (ok : textAt? expected key entries = .ok found) :
    found.isSome = true := by
  rw [textAt?] at ok
  cases there : Entries.get? entries key with
  | none => simp [Entries.has, there] at present
  | some layer =>
    rw [there] at ok
    cases layer <;> cases ok
    rfl

end Layer

namespace Preferences

open Layer

/-- What every load gives, from whichever layers. -/
structure Sound (preferences : Preferences) : Prop where
  named : preferences.defaultProfile.isSome = true
  ordered : InOrder preferences.profiles
  stored : ∀ entry ∈ preferences.profiles, entry.2.store.isEmpty = false

theorem validate_ok {preferences valid : Preferences} (ok : preferences.validate = .ok valid) :
    valid = preferences ∧ ∀ entry ∈ preferences.profiles, entry.2.store.isEmpty = false := by
  rw [validate] at ok
  cases found : preferences.profiles.find? fun entry => entry.2.store.isEmpty with
  | some entry =>
    rw [found] at ok
    cases ok
  | none =>
    rw [found] at ok
    cases ok
    exact ⟨rfl, fun entry member => by simpa using List.find?_eq_none.mp found entry member⟩

theorem validate_of_stored {preferences : Preferences}
    (stored : ∀ entry ∈ preferences.profiles, entry.2.store.isEmpty = false) :
    preferences.validate = .ok preferences := by
  have none : preferences.profiles.find? (fun entry => entry.2.store.isEmpty) = none :=
    List.find?_eq_none.mpr fun entry member => by simp [stored entry member]
  rw [validate, none]

/-- What preferences are read from: each part from the value under its key. -/
theorem asPreferences_ok {entries : List (String × Layer)} {preferences : Preferences}
    (ok : (Layer.dict entries).asPreferences = .ok preferences) :
    ∃ defaults profiles,
      textAt? "a string" "default_profile" entries = .ok preferences.defaultProfile ∧
        readAt? "defaults" asDefaults entries = .ok defaults ∧
        (preferences.output, preferences.color) = defaults.getD (initial.output, initial.color) ∧
        readAt? "profiles" asProfiles entries = .ok profiles ∧
        preferences.profiles = profiles.getD [] := by
  obtain ⟨name, named, ok⟩ := bind_ok ok
  obtain ⟨defaults, printed, ok⟩ := bind_ok ok
  obtain ⟨profiles, read, ok⟩ := bind_ok ok
  cases ok
  exact ⟨defaults, profiles, named, printed, rfl, read, rfl⟩

theorem readAt?_ok {α : Type} {read : Layer → Except LoadFault α} {key : String}
    {entries : List (String × Layer)} {result : Option α} (ok : readAt? key read entries = .ok result) :
    match Entries.get? entries key with
    | none => result = none
    | some layer => ∃ value, read layer = .ok value ∧ result = some value := by
  rw [readAt?] at ok
  cases there : Entries.get? entries key with
  | none =>
    rw [there] at ok
    exact (Except.ok.inj ok).symm
  | some layer =>
    rw [there] at ok
    obtain ⟨value, given, same⟩ := map_ok (underKey_ok ok)
    exact ⟨value, given, same.symm⟩

theorem inOrder_of_readAt? {entries : List (String × Layer)}
    {profiles : Option (List (String × Profile))}
    (ok : readAt? "profiles" asProfiles entries = .ok profiles) : InOrder (profiles.getD []) := by
  have read := readAt?_ok ok
  cases there : Entries.get? entries "profiles" with
  | none =>
    rw [there] at read
    rw [read]
    exact .nil
  | some layer =>
    rw [there] at read
    obtain ⟨value, given, rfl⟩ := read
    exact inOrder_of_asProfiles given

/-- The layer of the file. -/
def fileEntries (file : Option String) : Except LoadFault (List (String × Layer)) :=
  match file with
  | none => .ok []
  | some text =>
    match Toml.document? text with
    | some entries => .ok (entriesOfToml entries)
    | none => .error .syntaxFault

/-- The layers of the built-in values, of a file and of the environment in one. -/
def layers (entries : List (String × Layer)) (environment : List (String × String)) : Layer :=
  (initialLayer.override (.dict entries)).override (ofEnvironment environment)

theorem load_eq (file : Option String) (environment : List (String × String)) :
    load file environment =
      fileEntries file >>= fun entries => (layers entries environment).asPreferences >>= validate := by
  cases file with
  | none => rfl
  | some text =>
    rw [load, fileEntries]
    cases Toml.document? text <;> rfl

theorem sound_of_load {file : Option String} {environment : List (String × String)}
    {preferences : Preferences} (ok : load file environment = .ok preferences) :
    preferences.Sound := by
  rw [load_eq] at ok
  obtain ⟨entries, _, ok⟩ := bind_ok ok
  obtain ⟨loaded, read, ok⟩ := bind_ok ok
  obtain ⟨rfl, stored⟩ := validate_ok ok
  rw [layers, initialLayer, override] at read
  cases layered : ofEnvironment environment with
  | dict new =>
    rw [layered, override] at read
    -- the built-in values name a default profile, and nothing that lies over them takes it out
    obtain ⟨_, profiles, named, _, _, given, same⟩ := asPreferences_ok read
    refine ⟨named_of_textAt? ?_ named, same ▸ inOrder_of_readAt? given, stored⟩
    rw [has_overrideEntries, has_overrideEntries]
    rfl
  | _ =>
    rw [layered] at read
    cases read

end Preferences

end ScannerConfig
