import Mathlib.Data.List.Forall2

namespace ScannerConfig

variable {σ ε α β : Type}

/-- Two steps that succeed together succeed one after the other. -/
theorem bind_ok {step : Except ε α} {next : α → Except ε β} {value : β}
    (ok : step >>= next = .ok value) : ∃ read, step = .ok read ∧ next read = .ok value := by
  cases step with
  | error fault => cases ok
  | ok read => exact ⟨read, rfl, ok⟩

theorem bind_error {step : Except ε α} {next : α → Except ε β} {fault : ε}
    (failed : step >>= next = .error fault) :
    step = .error fault ∨ ∃ read, step = .ok read ∧ next read = .error fault := by
  cases step with
  | error first => exact .inl (congrArg _ (Except.error.inj failed))
  | ok read => exact .inr ⟨read, rfl, failed⟩

theorem map_ok {step : Except ε α} {f : α → β} {value : β} (ok : step.map f = .ok value) :
    ∃ read, step = .ok read ∧ f read = value := by
  cases step with
  | error fault => cases ok
  | ok read => exact ⟨read, rfl, Except.ok.inj ok⟩

/-- Another name for its fault does not let a step succeed. -/
theorem mapError_eq_ok_iff {fault : Type} {step : Except ε α} {rename : ε → fault} {value : α} :
    step.mapError rename = .ok value ↔ step = .ok value := by
  cases step with
  | error fault => exact iff_of_false nofun nofun
  | ok read => exact ⟨fun ok => congrArg _ (Except.ok.inj ok), fun ok => congrArg _ (Except.ok.inj ok)⟩

/-- A list is read as the list of what its items are read as. -/
theorem mapM_eq_ok_iff {step : α → Except ε β} {values : List α} {results : List β} :
    values.mapM step = .ok results ↔
      List.Forall₂ (fun value result => step value = .ok result) values results := by
  induction values generalizing results with
  | nil =>
    rw [List.forall₂_nil_left_iff]
    exact ⟨fun ok => (Except.ok.inj ok).symm, fun none => none ▸ rfl⟩
  | cons value values ih =>
    rw [List.mapM_cons, List.forall₂_cons_left_iff]
    constructor
    · intro ok
      obtain ⟨result, first, ok⟩ := bind_ok ok
      obtain ⟨others, rest, same⟩ := bind_ok ok
      exact ⟨result, others, first, ih.mp rest, (Except.ok.inj same).symm⟩
    · rintro ⟨result, others, first, rest, rfl⟩
      rw [first]
      change (values.mapM step >>= fun others => .ok (result :: others)) = _
      rw [ih.mpr rest]
      rfl

theorem fails_of_not_succeeds {step : Except ε α} (never : ¬∃ value, step = .ok value) :
    ∃ fault, step = .error fault := by
  cases step with
  | error fault => exact ⟨fault, rfl⟩
  | ok value => exact absurd ⟨value, rfl⟩ never

theorem map_succeeds_iff {step : Except ε α} {f : α → β} :
    (∃ result, step.map f = .ok result) ↔ ∃ value, step = .ok value := by
  cases step with
  | error fault => exact iff_of_false nofun nofun
  | ok value => exact iff_of_true ⟨f value, rfl⟩ ⟨value, rfl⟩

/-- A list is read if each of its items is. -/
theorem mapM_succeeds_iff {step : α → Except ε β} {values : List α} :
    (∃ results, values.mapM step = .ok results) ↔ ∀ value ∈ values, ∃ result, step value = .ok result := by
  simp only [mapM_eq_ok_iff]
  induction values with
  | nil => exact iff_of_true ⟨[], .nil⟩ nofun
  | cons value values ih =>
    rw [List.forall_mem_cons, ← ih]
    constructor
    · rintro ⟨_, each⟩
      obtain ⟨result, results, here, rest, -⟩ := List.forall₂_cons_left_iff.mp each
      exact ⟨⟨result, here⟩, results, rest⟩
    · rintro ⟨⟨result, here⟩, results, rest⟩
      exact ⟨result :: results, .cons here rest⟩

/-- A run of two steps: the second sees what the first left, unless that failed. -/
theorem run_bind (step : ExceptT ε (StateM σ) α) (next : α → ExceptT ε (StateM σ) β) (start : σ) :
    (step >>= next).run start =
      match step.run start with
      | (.ok value, middle) => (next value).run middle
      | (.error fault, middle) => (.error fault, middle) := by
  change ExceptT.bindCont next (step.run start).1 (step.run start).2 = _
  cases step.run start with
  | mk result middle => cases result <;> rfl

theorem run_bind_ok {step : ExceptT ε (StateM σ) α} {next : α → ExceptT ε (StateM σ) β} {value : β}
    {start final : σ} (ok : (step >>= next).run start = (.ok value, final)) :
    ∃ read middle, step.run start = (.ok read, middle) ∧ (next read).run middle = (.ok value, final) := by
  rw [run_bind] at ok
  cases taken : step.run start with
  | mk result middle =>
    rw [taken] at ok
    cases result with
    | error fault => cases ok
    | ok read => exact ⟨read, middle, rfl, ok⟩

end ScannerConfig
