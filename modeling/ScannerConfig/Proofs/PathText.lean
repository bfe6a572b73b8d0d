import Mathlib.Data.List.Basic
import Mathlib.Data.List.Infix
import ScannerConfig.Store.File

namespace ScannerConfig

section Splitting

variable {part : List Char} {parts : List (List Char)}

theorem splitSlash_ne_nil (chars : List Char) : splitSlash chars ≠ [] := by
  induction chars with
  | nil => simp [splitSlash]
  | cons c rest ih =>
    rw [splitSlash]
    split
    · exact List.cons_ne_nil _ _
    · split <;> exact List.cons_ne_nil _ _

theorem splitSlash_part (noSlash : '/' ∉ part) (rest : List Char) :
    splitSlash (part ++ '/' :: rest) = part :: splitSlash rest := by
  induction part with
  | nil => simp [splitSlash]
  | cons c part ih =>
    obtain ⟨here, later⟩ := not_or.mp (mt List.mem_cons.mpr noSlash)
    rw [List.cons_append, splitSlash, if_neg (Ne.symm here), ih later]

theorem splitSlash_last (noSlash : '/' ∉ part) : splitSlash part = [part] := by
  induction part with
  | nil => rfl
  | cons c part ih =>
    obtain ⟨here, later⟩ := not_or.mp (mt List.mem_cons.mpr noSlash)
    rw [splitSlash, if_neg (Ne.symm here), ih later]

/-- Parts joined by slashes are split again. -/
theorem splitSlash_intercalate (some : parts ≠ []) (noSlash : ∀ part ∈ parts, '/' ∉ part) :
    splitSlash (['/'].intercalate parts) = parts := by
  induction parts with
  | nil => exact absurd rfl some
  | cons part rest ih =>
    obtain ⟨here, later⟩ := List.forall_mem_cons.mp noSlash
    cases rest with
    | nil => rw [List.intercalate_singleton, splitSlash_last here]
    | cons next rest =>
      rw [List.intercalate_cons_cons, List.append_assoc, List.singleton_append,
        splitSlash_part here, ih (List.cons_ne_nil _ _) later]

theorem noSlash_of_mem_splitSlash {chars : List Char} :
    ∀ part ∈ splitSlash chars, '/' ∉ part := by
  induction chars with
  | nil => simp [splitSlash]
  | cons c rest ih =>
    rw [splitSlash]
    split
    · exact List.forall_mem_cons.mpr ⟨List.not_mem_nil, ih⟩
    · rename_i different
      split
      · rename_i none
        exact absurd none (splitSlash_ne_nil rest)
      · rename_i first others split
        rw [split] at ih
        obtain ⟨here, later⟩ := List.forall_mem_cons.mp ih
        refine List.forall_mem_cons.mpr ⟨?_, later⟩
        rw [List.mem_cons, not_or]
        exact ⟨Ne.symm different, here⟩

end Splitting

namespace Step

/-- A name that is written as no other step and as a single part. -/
def Proper : Step → Prop
  | .name chosen =>
    chosen.toList ≠ [] ∧ chosen.toList ≠ ['.'] ∧ chosen.toList ≠ ['.', '.'] ∧ '/' ∉ chosen.toList
  | _ => True

theorem proper_ofPart {part : List Char} (some : part ≠ []) (noSlash : '/' ∉ part) :
    (ofPart part).Proper := by
  rw [ofPart]
  split
  · trivial
  · split
    · trivial
    · rename_i noDot noDots
      simp only [Proper, String.toList_ofList]
      exact ⟨some, noDot, noDots, noSlash⟩

variable {step : Step}

theorem Proper.ofPart_text (proper : step.Proper) : ofPart step.text.toList = step := by
  cases step with
  | here => rfl
  | up => rfl
  | name name =>
    obtain ⟨_, noDot, noDots, _⟩ := proper
    rw [text, ofPart, if_neg noDot, if_neg noDots, String.ofList_toList]

theorem Proper.text_ne_nil (proper : step.Proper) : step.text.toList ≠ [] := by
  cases step with
  | name name => exact proper.1
  | _ => exact List.cons_ne_nil _ _

theorem Proper.noSlash (proper : step.Proper) : '/' ∉ step.text.toList := by
  cases step with
  | name name => exact proper.2.2.2
  | _ => decide

end Step

namespace Path

/-- The form in which paths are read: a dot stands at most in front of a path that is not
absolute. -/
structure Proper (path : Path) : Prop where
  step : ∀ step ∈ path.steps, step.Proper
  absolute : path.absolute = true → .here ∉ path.steps
  dots : .here ∉ path.steps.tail

variable {path : Path} {text : String}

theorem filter_here {steps : List Step} (none : .here ∉ steps) :
    steps.filter (· ≠ .here) = steps :=
  List.filter_eq_self.mpr fun step member => by
    simpa using ne_of_mem_of_not_mem member none

theorem proper_ofText (text : String) : (ofText text).Proper := by
  have proper : ∀ step ∈ ((splitSlash text.toList).filter (· ≠ [])).map Step.ofPart, step.Proper := by
    intro step member
    obtain ⟨part, kept, rfl⟩ := List.mem_map.mp member
    obtain ⟨inside, nonempty⟩ := List.mem_filter.mp kept
    exact Step.proper_ofPart (by simpa using nonempty) (noSlash_of_mem_splitSlash part inside)
  have noHere : ∀ steps : List Step, Step.here ∉ steps.filter (· ≠ .here) := by simp
  rw [ofText]
  generalize ((splitSlash text.toList).filter (· ≠ [])).map Step.ofPart = steps at proper ⊢
  split
  · rename_i rest relative
    refine ⟨fun step member => ?_, nofun, noHere rest⟩
    rcases List.mem_cons.mp member with rfl | later
    · trivial
    · exact proper step (List.mem_cons_of_mem _ (List.mem_of_mem_filter later))
  · exact ⟨fun step member => proper step (List.mem_of_mem_filter member), fun _ => noHere _,
      fun member => noHere _ (List.mem_of_mem_tail member)⟩

theorem toList_text (path : Path) :
    path.text.toList = (if path.absolute then ['/'] else []) ++
      ['/'].intercalate (path.steps.map fun step => step.text.toList) := by
  have joined : (path.steps.map Step.text).map String.toList =
      path.steps.map fun step => step.text.toList := by rw [List.map_map]; rfl
  rw [text, String.toList_append, String.toList_intercalate, joined]
  cases path.absolute <;> rfl

theorem Proper.parts (proper : path.Proper) :
    (splitSlash path.text.toList).filter (· ≠ []) = path.steps.map fun step => step.text.toList := by
  have kept : (path.steps.map fun step => step.text.toList).filter (· ≠ []) =
      path.steps.map fun step => step.text.toList := by
    refine List.filter_eq_self.mpr fun part member => ?_
    obtain ⟨step, inside, rfl⟩ := List.mem_map.mp member
    simpa using (proper.step step inside).text_ne_nil
  have joined : (splitSlash (['/'].intercalate (path.steps.map fun step => step.text.toList))).filter
      (· ≠ []) = path.steps.map fun step => step.text.toList := by
    cases steps : path.steps with
    | nil => rfl
    | cons step rest =>
      rw [← steps, splitSlash_intercalate, kept]
      · simp [steps]
      · intro part member
        obtain ⟨step, inside, rfl⟩ := List.mem_map.mp member
        exact (proper.step step inside).noSlash
  rw [toList_text]
  split
  · rw [List.singleton_append, splitSlash, if_pos rfl, List.filter_cons]
    simpa using joined
  · rw [List.nil_append, joined]

theorem Proper.head (proper : path.Proper) :
    (path.text.toList.head? == some '/') = path.absolute := by
  rw [toList_text]
  cases absolute : path.absolute with
  | true => rfl
  | false =>
    cases steps : path.steps with
    | nil => rfl
    | cons step rest =>
      have first := proper.step step (by simp [steps])
      have noSlash := first.noSlash
      have nonempty := first.text_ne_nil
      have front : ∃ behind, ['/'].intercalate ((step :: rest).map fun step => step.text.toList) =
          step.text.toList ++ behind := by
        cases rest with
        | nil => exact ⟨[], by simp⟩
        | cons next rest =>
          refine ⟨['/'] ++ ['/'].intercalate ((next :: rest).map fun step => step.text.toList), ?_⟩
          simp only [List.map_cons, List.intercalate_cons_cons, List.append_assoc]
      obtain ⟨behind, joined⟩ := front
      rw [if_neg Bool.false_ne_true, List.nil_append, joined]
      cases chars : step.text.toList with
      | nil => exact absurd chars nonempty
      | cons c more =>
        rw [chars] at noSlash
        have different : c ≠ '/' := fun same => noSlash (same ▸ List.mem_cons_self)
        simpa using different

/-- The absoluteness and the steps of a path are read from its text. -/
theorem Proper.ofText_text (proper : path.Proper) :
    (ofText path.text).absolute = path.absolute ∧ (ofText path.text).steps = path.steps ∧
      (ofText path.text).ending = endingOf path.text.toList path.steps.getLast? := by
  have read : ((splitSlash path.text.toList).filter (· ≠ [])).map Step.ofPart = path.steps := by
    rw [proper.parts, List.map_map]
    refine (List.map_congr_left fun step member => ?_).trans (List.map_id _)
    exact (proper.step step member).ofPart_text
  have noHere := proper.absolute
  have dots := proper.dots
  rw [ofText]
  simp only [read, proper.head]
  split
  · rename_i rest relative dotted
    rw [dotted, List.tail_cons] at dots
    rw [filter_here dots, dotted, relative]
    exact ⟨rfl, rfl, rfl⟩
  · rename_i notDot
    have none : .here ∉ path.steps := by
      cases steps : path.steps with
      | nil => exact List.not_mem_nil
      | cons first rest =>
        cases absolute : path.absolute with
        | true => exact steps ▸ noHere absolute
        | false =>
          rw [steps] at dots
          rw [List.mem_cons, not_or]
          refine ⟨?_, dots⟩
          rintro rfl
          exact notDot rest absolute steps
    simp only [filter_here none, and_self]

theorem Proper.dropLast (proper : path.Proper) (ending : Ending) :
    Proper ⟨path.absolute, path.steps.dropLast, ending⟩ where
  step step member := proper.step step (List.mem_of_mem_dropLast member)
  absolute absolute member := proper.absolute absolute (List.mem_of_mem_dropLast member)
  dots member := proper.dots (by
    rw [List.tail_dropLast] at member
    exact List.mem_of_mem_dropLast member)

theorem Proper.concat (proper : path.Proper) {name : String} (named : (Step.name name).Proper)
    (ending : Ending) : Proper ⟨path.absolute, path.steps ++ [.name name], ending⟩ where
  step step member := by
    rcases List.mem_append.mp member with before | last
    · exact proper.step step before
    · rw [List.mem_singleton.mp last]
      exact named
  absolute absolute member := by
    rcases List.mem_append.mp member with before | last
    · exact proper.absolute absolute before
    · cases List.mem_singleton.mp last
  dots member := by
    cases steps : path.steps with
    | nil => simp [steps] at member
    | cons first rest =>
      have dots := proper.dots
      simp only [steps, List.cons_append, List.tail_cons, List.mem_append, List.mem_singleton,
        reduceCtorEq, or_false] at member dots
      exact dots member

/-- A path read from the text of another ends in a dot only if it is no more than that. -/
theorem Proper.steps_of_dot (proper : path.Proper) (dotted : (ofText path.text).ending = .dot) :
    path.steps = [.here] := by
  have dots := proper.dots
  rw [proper.ofText_text.2.2] at dotted
  rcases List.eq_nil_or_concat path.steps with none | ⟨front, last, split⟩
  · rw [none] at dotted
    cases dotted
  · rw [List.concat_eq_append] at split
    rw [split, List.getLast?_concat] at dotted
    cases last with
    | here =>
      cases front with
      | nil => exact split
      | cons first front => simp [split] at dots
    | up => cases dotted
    | name name =>
      simp only [endingOf] at dotted
      split at dotted <;> cases dotted

/-- The temporary file of a store has a path of its own. -/
theorem text_temporary (store : String) :
    ∃ path : Path, path.Proper ∧ FileStore.temporary store = path.text ∧
      path.absolute = (ofText store).absolute ∧
        ((∃ folder name, (ofText store).steps = folder ++ [.name name] ∧
            path.steps = folder ++ [.name (name ++ ".tmp")]) ∨
          ((ofText store).fileName? = none ∧ path.steps = (ofText store).steps ++ [.name ".tmp"])) := by
  have proper := proper_ofText store
  cases named : (ofText store).fileName? with
  | some name =>
    have last : (ofText store).steps.getLast? = some (.name name) := by
      rw [fileName?] at named
      split at named
      · rename_i ending
        rw [ending, Option.some.inj named]
      · cases named
    obtain ⟨folder, split⟩ := List.getLast?_eq_some_iff.mp last
    have given : (Step.name name).Proper := proper.step _ (by simp [split])
    have longer : (Step.name (name ++ ".tmp")).Proper := by
      obtain ⟨some, _, _, noSlash⟩ := given
      have tail : ".tmp".toList = ['.', 't', 'm', 'p'] := by decide
      have short := List.length_pos_iff.mpr some
      refine ⟨?_, ?_, ?_, ?_⟩ <;> rw [String.toList_append, tail]
      · simp
      · intro same
        have length := congrArg List.length same
        simp at length
      · intro same
        have length := congrArg List.length same
        simp at length
      · simp [noSlash]
    refine ⟨⟨(ofText store).absolute, (ofText store).steps.dropLast ++ [.name (name ++ ".tmp")], .plain⟩,
      (proper.dropLast .plain).concat longer .plain, ?_, rfl, .inl ⟨folder, name, split, ?_⟩⟩
    · rw [FileStore.temporary]
      simp only [named, sibling, Option.getD_some]
    · simp only [split, List.dropLast_concat]
  | none =>
    have suffix : (Step.name ".tmp").Proper := by
      refine ⟨?_, ?_, ?_, ?_⟩ <;> decide
    refine ⟨⟨(ofText store).absolute, (ofText store).steps ++ [.name ".tmp"], .plain⟩,
      proper.concat suffix .plain, ?_, rfl, .inr ⟨rfl, rfl⟩⟩
    rw [FileStore.temporary]
    simp only [named, sibling, Option.getD_none, String.empty_append]

/-- Where the temporary file of a store stands: beside the store, or in it where its path names no
file. -/
theorem ofText_temporary (store : String) :
    (ofText (FileStore.temporary store)).absolute = (ofText store).absolute ∧
      ((∃ folder name, (ofText store).steps = folder ++ [.name name] ∧
          (ofText (FileStore.temporary store)).steps = folder ++ [.name (name ++ ".tmp")]) ∨
        ((ofText store).fileName? = none ∧
          (ofText (FileStore.temporary store)).steps = (ofText store).steps ++ [.name ".tmp"])) := by
  obtain ⟨path, proper, text, absolute, steps⟩ := text_temporary store
  obtain ⟨sameAbsolute, sameSteps, _⟩ := proper.ofText_text
  rw [text, sameAbsolute, sameSteps]
  exact ⟨absolute, steps⟩

theorem ending_temporary (store : String) : (ofText (FileStore.temporary store)).ending ≠ .dot := by
  obtain ⟨path, proper, text, _, steps⟩ := text_temporary store
  rw [text]
  intro dotted
  have here := proper.steps_of_dot dotted
  rcases steps with ⟨folder, name, _, named⟩ | ⟨_, named⟩ <;>
    simpa using congrArg List.getLast? (here.symm.trans named)

end Path

end ScannerConfig
