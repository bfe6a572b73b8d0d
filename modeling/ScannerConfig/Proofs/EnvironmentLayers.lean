import Mathlib.Data.List.Induction
import ScannerConfig.Proofs.PreferenceLayers

namespace ScannerConfig

namespace Layer

variable {old new upper entries : List (String × Layer)} {key other name text : String}
  {environment : List (String × String)} {path : List String}

/-- Whether a variable sets something on the path of a key, below it or above it. -/
def Touches (environment : List (String × String)) (path : List String) : Prop :=
  ∃ setting ∈ environment, ∃ keys, variablePath? setting.1 = some keys ∧
    (keys <+: path ∨ path <+: keys)

theorem Touches.mono {more : List (String × String)} (subset : environment ⊆ more)
    (touches : Touches environment path) : Touches more path := by
  obtain ⟨setting, member, keys, named, meets⟩ := touches
  exact ⟨setting, subset member, keys, named, meets⟩

theorem nameParts_ne_nil (cs : List Char) : nameParts cs ≠ [] := by
  unfold nameParts
  split
  · simp
  · simp
  · simp
  · split <;> simp

theorem variablePath?_ne_nil (named : variablePath? name = some path) : path ≠ [] := by
  simp only [variablePath?] at named
  split_ifs at named
  cases named
  simpa using nameParts_ne_nil _

theorem get?_overrideEntries (distinct : Entries.Distinct new) (old : List (String × Layer))
    (key : String) :
    Entries.get? (overrideEntries old new) key =
      match Entries.get? new key with
      | none => Entries.get? old key
      | some value => some ((Entries.get? old key).elim value fun before => before.override value) := by
  induction new generalizing old with
  | nil => rfl
  | cons entry new ih =>
    obtain ⟨k, v⟩ := entry
    obtain ⟨fresh, distinctRest⟩ := Entries.distinct_cons.mp distinct
    rw [overrideEntries, ih distinctRest, Entries.get?_insert]
    by_cases same : k = key
    · subst same
      have absent : Entries.get? new k = none := Entries.get?_eq_none_iff.mpr fresh
      cases Entries.get? old k <;> simp [absent, Entries.get?]
    · simp [same, Entries.get?]

/-- What an environment sets is a dictionary in which only variables have put something. -/
structure SetBy (environment : List (String × String)) (upper : List (String × Layer)) : Prop where
  distinct : Entries.Distinct upper
  absent : ∀ key, ¬Touches environment [key] → Entries.get? upper key = none
  within : ∀ key other, ¬Touches environment [key, other] → Entries.get? upper key = none ∨
    ∃ inner, Entries.get? upper key = some (.dict inner) ∧ Entries.get? inner other = none

theorem SetBy.next {below : List String} (before : SetBy environment upper)
    (named : variablePath? name = some (key :: below)) (value : Layer) :
    SetBy (environment ++ [(name, text)]) (overrideEntries upper [(key, nest below value)]) := by
  have later : ∀ {path}, ¬Touches (environment ++ [(name, text)]) path → ¬Touches environment path :=
    fun untouched touches => untouched (touches.mono (List.subset_append_left _ _))
  have apart : ∀ {path}, ¬Touches (environment ++ [(name, text)]) path →
      ¬(key :: below <+: path ∨ path <+: key :: below) := fun untouched meets =>
    untouched ⟨(name, text), by simp, _, named, meets⟩
  rw [overrideEntries, overrideEntries]
  refine ⟨before.distinct.insert key _, fun asked untouched => ?_, fun asked other untouched => ?_⟩
  · have different : key ≠ asked := by
      rintro rfl
      exact apart untouched (.inr (by simp))
    rw [Entries.get?_insert, if_neg different]
    exact before.absent asked (later untouched)
  · rw [Entries.get?_insert]
    by_cases same : key = asked
    · subst same
      rw [if_pos rfl]
      obtain ⟨first, rest, rfl⟩ := List.exists_cons_of_ne_nil (show below ≠ [] by
        rintro rfl
        exact apart untouched (.inl (by simp)))
      have different : first ≠ other := by
        rintro rfl
        exact apart untouched (.inr (by simp))
      have nested : nest (first :: rest) value = .dict [(first, nest rest value)] := rfl
      rcases before.within key other (later untouched) with none | ⟨inner, found, absent⟩
      · exact .inr ⟨[(first, nest rest value)], by rw [none, nested], by simp [Entries.get?, different]⟩
      · refine .inr ⟨overrideEntries inner [(first, nest rest value)], ?_, ?_⟩
        · rw [found, nested]
          simp [override]
        · rw [overrideEntries, overrideEntries, Entries.get?_insert, if_neg different, absent]
    · rw [if_neg same]
      exact before.within asked other (later untouched)

theorem ofEnvironment_concat (environment : List (String × String)) (name text : String) :
    ofEnvironment (environment ++ [(name, text)]) =
      match variablePath? name with
      | some path => (ofEnvironment environment).override (nest path (ofVariable text))
      | none => ofEnvironment environment := by
  rw [ofEnvironment, List.foldl_append]
  rfl

theorem setBy_ofEnvironment (environment : List (String × String)) :
    ∃ upper, ofEnvironment environment = .dict upper ∧ SetBy environment upper := by
  induction environment using List.reverseRecOn with
  | nil => exact ⟨[], rfl, List.nodup_nil, fun _ _ => rfl, fun _ _ _ => .inl rfl⟩
  | append_singleton environment setting ih =>
    obtain ⟨name, text⟩ := setting
    obtain ⟨upper, same, fixed⟩ := ih
    rw [ofEnvironment_concat, same]
    cases named : variablePath? name with
    | none =>
      have later : ∀ {path}, ¬Touches (environment ++ [(name, text)]) path →
          ¬Touches environment path :=
        fun untouched touches => untouched (touches.mono (List.subset_append_left _ _))
      exact ⟨upper, rfl, fixed.distinct, fun key untouched => fixed.absent key (later untouched),
        fun key other untouched => fixed.within key other (later untouched)⟩
    | some path =>
      obtain ⟨key, rest, rfl⟩ := List.exists_cons_of_ne_nil (variablePath?_ne_nil named)
      refine ⟨overrideEntries upper [(key, nest rest (ofVariable text))], ?_, fixed.next named _⟩
      simp [nest, override]

theorem ofEnvironment_of_no_variables
    (none : ∀ setting ∈ environment, variablePath? setting.1 = none) :
    ofEnvironment environment = .dict [] := by
  induction environment using List.reverseRecOn with
  | nil => rfl
  | append_singleton environment setting ih =>
    obtain ⟨before, last⟩ := List.forall_mem_append.mp none
    rw [ofEnvironment_concat, last setting (List.mem_singleton_self setting), ih before]

theorem filter_insert {k : String} (different : k ≠ name) (value : Layer)
    (entries : List (String × Layer)) :
    (Entries.insert entries k value).filter (·.1 = name) = entries.filter (·.1 = name) := by
  induction entries with
  | nil => simp [Entries.insert, different]
  | cons entry rest ih =>
    obtain ⟨other, old⟩ := entry
    rw [Entries.insert]
    split_ifs with same
    · subst same
      simp [different]
    · rw [List.filter_cons, List.filter_cons, ih]

theorem filter_overrideEntries (absent : Entries.get? new name = none)
    (old : List (String × Layer)) :
    (overrideEntries old new).filter (·.1 = name) = old.filter (·.1 = name) := by
  induction new generalizing old with
  | nil => rfl
  | cons entry new ih =>
    obtain ⟨k, v⟩ := entry
    have different : k ≠ name := by
      rintro rfl
      simp [Entries.get?] at absent
    rw [overrideEntries, ih (by simpa [Entries.get?, different] using absent),
      filter_insert different]

/-- Of entries with one name the last counts, whatever stands between them. -/
theorem get?_foldl_insertSorted (sorted : List (String × Layer)) (name : String) :
    Entries.get? (entries.foldl (fun sorted entry =>
      Preferences.insertSorted entry.1 entry.2 sorted) sorted) name =
        (entries.filter (·.1 = name)).foldl (fun _ entry => some entry.2)
          (Entries.get? sorted name) := by
  induction entries generalizing sorted with
  | nil => rfl
  | cons entry entries ih =>
    rw [List.foldl_cons, ih, Preferences.get?_insertSorted, List.filter_cons]
    by_cases same : entry.1 = name <;> simp [same]

theorem get?_of_reads {profiles : List (String × Profile)}
    (each : List.Forall₂ (fun entry result => underKey entry.1
      (entry.2.asProfile.map fun profile => (entry.1, profile)) = .ok result) entries profiles)
    (name : String) :
    Entries.get? profiles name =
      (Entries.get? entries name).bind fun layer => layer.asProfile.toOption := by
  induction each with
  | nil => rfl
  | @cons entry result _ _ read _ ih =>
    obtain ⟨k, layer⟩ := entry
    obtain ⟨other, profile⟩ := result
    obtain ⟨rfl, given⟩ := read_named read
    by_cases same : other = name
    · simp [Entries.get?, same, show layer.asProfile = _ from given, Except.toOption]
    · simp [Entries.get?, same, ih]

/-- A profile that no new entry names stays as it is. -/
theorem profile_of_asProfiles {before after : List (String × Profile)}
    (absent : Entries.get? new name = none) (own : (dict old).asProfiles = .ok before)
    (ok : (dict (overrideEntries old new)).asProfiles = .ok after) :
    Entries.get? after name = Entries.get? before name := by
  rw [get?_of_reads (mapM_eq_ok_iff.mp ok), get?_of_reads (mapM_eq_ok_iff.mp own), sortEntries,
    sortEntries, get?_foldl_insertSorted, get?_foldl_insertSorted, filter_overrideEntries absent]

end Layer

namespace Preferences

open Layer

/-- What no variable touches is as in other preferences. -/
structure AgreesOutside (environment : List (String × String)) (own given : Preferences) : Prop where
  defaultProfile : ¬Touches environment ["default_profile"] → given.defaultProfile = own.defaultProfile
  output : ¬Touches environment ["defaults"] → given.output = own.output
  color : ¬Touches environment ["defaults"] → given.color = own.color
  profile : ∀ name, ¬Touches environment ["profiles", name] → given.profile? name = own.profile? name

theorem agreesOutside_of_asPreferences {environment : List (String × String)}
    {base upper : List (String × Layer)} {own given : Preferences} (fixed : SetBy environment upper)
    (present : Entries.has base "profiles" = true)
    (alone : (Layer.dict base).asPreferences = .ok own)
    (ok : (Layer.dict (overrideEntries base upper)).asPreferences = .ok given) :
    AgreesOutside environment own given := by
  obtain ⟨_, _, named, printed, own_printed, read, own_profiles⟩ := asPreferences_ok alone
  obtain ⟨_, _, again, reprinted, printing, reread, profiles⟩ := asPreferences_ok ok
  have kept : ∀ {key}, ¬Touches environment [key] →
      Entries.get? (overrideEntries base upper) key = Entries.get? base key := by
    intro key untouched
    rw [get?_overrideEntries fixed.distinct, fixed.absent key untouched]
  have defaults : ¬Touches environment ["defaults"] →
      (given.output, given.color) = (own.output, own.color) := by
    intro untouched
    rw [readAt?, kept untouched, ← readAt?, printed] at reprinted
    cases reprinted
    rw [printing, own_printed]
  refine ⟨fun untouched => ?_, fun untouched => congrArg Prod.fst (defaults untouched),
    fun untouched => congrArg Prod.snd (defaults untouched), fun name untouched => ?_⟩
  · rw [textAt?, kept untouched, ← textAt?, named] at again
    exact (Except.ok.inj again).symm
  · have before := readAt?_ok read
    have after := readAt?_ok reread
    rw [get?_overrideEntries fixed.distinct] at after
    obtain ⟨layer, found⟩ := Option.isSome_iff_exists.mp present
    rw [found] at before after
    obtain ⟨first, whole, rfl⟩ := before
    rw [profile?, profile?, own_profiles, profiles]
    rcases fixed.within "profiles" name untouched with none | ⟨new, there, absent⟩
    · rw [none] at after
      obtain ⟨second, same, rfl⟩ := after
      cases whole.symm.trans same
      rfl
    · rw [there] at after
      obtain ⟨second, same, rfl⟩ := after
      cases layer with
      | dict old => exact profile_of_asProfiles absent whole (by simpa [override] using same)
      | _ => cases whole

/-- Preferences differ from those of the file alone only in what variables touch. -/
theorem agreesOutside_of_load {file : Option String} {environment : List (String × String)}
    {own given : Preferences} (alone : load file [] = .ok own)
    (ok : load file environment = .ok given) : AgreesOutside environment own given := by
  rw [load_eq] at alone ok
  obtain ⟨entries, read, alone⟩ := bind_ok alone
  obtain ⟨_, again, ok⟩ := bind_ok ok
  cases read.symm.trans again
  obtain ⟨_, alone, valid⟩ := bind_ok alone
  obtain ⟨rfl, _⟩ := validate_ok valid
  obtain ⟨_, ok, valid⟩ := bind_ok ok
  obtain ⟨rfl, _⟩ := validate_ok valid
  obtain ⟨upper, same, fixed⟩ := setBy_ofEnvironment environment
  rw [layers, initialLayer, override] at alone ok
  rw [same, override] at ok
  change (Layer.dict (overrideEntries _ entries)).asPreferences = _ at alone
  refine agreesOutside_of_asPreferences fixed ?_ alone ok
  rw [has_overrideEntries]
  rfl

end Preferences

end ScannerConfig
