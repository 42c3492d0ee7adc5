import Mathlib.Data.List.Forall2
import Sudoku.Error

/-!
# Outcomes of composed work

Work is composed of steps that may fail, done one after another or item by item. What
the whole succeeds with comes from what its parts succeed with, and what it fails with
comes from the part that fails.
-/

namespace Sudoku
namespace Error

variable {item result : Type}

/-! ### Steps -/

/-- What comes of a step and the work on its value fails when either does. -/
theorem bind_eq_error_iff (step : Except Error item) (work : item → Except Error result)
    (error : Error) :
    step >>= work = .error error ↔
      step = .error error ∨ ∃ value, step = .ok value ∧ work value = .error error := by
  cases step <;> simp [bind, Except.bind]

/-- A changed success comes from the success it was before. -/
theorem map_eq_ok_iff {fault : Type} (outcome : Except fault item) (change : item → result)
    (value : result) :
    outcome.map change = .ok value ↔ ∃ made, outcome = .ok made ∧ change made = value := by
  cases outcome <;> simp [Except.map]

/-- Changing successes leaves errors as they are. -/
theorem map_eq_error_iff {fault : Type} (outcome : Except fault item) (change : item → result)
    (cause : fault) : outcome.map change = .error cause ↔ outcome = .error cause := by
  cases outcome <;> simp [Except.map]

/-- Changing errors leaves successes as they are. -/
@[simp] theorem mapError_eq_ok_iff (outcome : Except Error item) (change : Error → Error)
    (value : item) :
    outcome.mapError change = .ok value ↔ outcome = .ok value := by
  cases outcome <;> simp [Except.mapError]

/-- A changed error comes from the error it was before. -/
theorem mapError_eq_error_iff (outcome : Except Error item) (change : Error → Error)
    (error : Error) :
    outcome.mapError change = .error error ↔
      ∃ cause, outcome = .error cause ∧ change cause = error := by
  cases outcome <;> simp [Except.mapError]

/-- Going through a list fails at the first item on which a step fails. -/
theorem exists_of_foldlM_eq_error {step : result → item → Except Error result}
    {items : List item} {start : result} {error : Error}
    (failed : items.foldlM step start = .error error) :
    ∃ earlier entry later middle, items = earlier ++ entry :: later ∧
      earlier.foldlM step start = .ok middle ∧ step middle entry = .error error := by
  induction items generalizing start with
  | nil => simp [pure, Except.pure] at failed
  | cons entry rest inductionHypothesis =>
      rw [List.foldlM_cons, bind_eq_error_iff] at failed
      rcases failed with failed | ⟨next, stepped, failed⟩
      · exact ⟨[], entry, rest, start, rfl, rfl, failed⟩
      · obtain ⟨earlier, other, later, middle, rfl, reached, otherFailed⟩ :=
          inductionHypothesis failed
        refine ⟨entry :: earlier, other, later, middle, rfl, ?_, otherFailed⟩
        rw [List.foldlM_cons, bind_eq_ok_iff]
        exact ⟨next, stepped, reached⟩

/-- What every step keeps is kept by going through a list. -/
theorem foldlM_induction (kept : result → Prop) {step : result → item → Except Error result}
    (keeps : ∀ before entry after, kept before → step before entry = .ok after → kept after)
    {items : List item} {start last : result} (begins : kept start)
    (reached : items.foldlM step start = .ok last) : kept last := by
  induction items generalizing start with
  | nil => exact Except.ok.inj reached ▸ begins
  | cons entry rest inductionHypothesis =>
      rw [List.foldlM_cons, bind_eq_ok_iff] at reached
      obtain ⟨next, stepped, reached⟩ := reached
      exact inductionHypothesis (keeps start entry next begins stepped) reached

/-! ### Item by item -/

section

variable {work : item → Except Error result} {relation : result → item → Prop}
  (relates : ∀ value made, work value = .ok made ↔ relation made value)

include relates

/-- Work on a list makes a list that is related to it item by item. -/
theorem mapM_eq_ok_iff (items : List item) (results : List result) :
    items.mapM work = .ok results ↔ List.Forall₂ relation results items := by
  induction items generalizing results with
  | nil => cases results <;> simp [pure, Except.pure]
  | cons head rest inductionHypothesis =>
      simp only [List.mapM_cons, bind_eq_ok_iff, relates, inductionHypothesis]
      cases results with
      | nil => simp [pure, Except.pure]
      | cons made others => simp [pure, Except.pure]

/-- Work on what may be missing makes what is related to it, or nothing. -/
theorem optionMapM_eq_ok_iff (held : Option item) (made : Option result) :
    held.mapM work = .ok made ↔ Option.Rel relation made held := by
  cases held with
  | none => cases made <;> simp [pure, Except.pure]
  | some value =>
      cases made with
      | none => cases outcome : work value <;> simp [outcome, Functor.map, Except.map]
      | some other =>
          rw [Option.rel_some_some, ← relates]
          cases outcome : work value <;> simp [outcome, Functor.map, Except.map]

end

section

variable {work : item → Except Error result} {inverse : result → item}
  (inverts : ∀ value made, work value = .ok made ↔ inverse made = value)

include inverts

/-- Work on a list that has an inverse makes the list that the inverse takes back. -/
theorem mapM_eq_ok_iff_map (items : List item) (results : List result) :
    items.mapM work = .ok results ↔ results.map inverse = items := by
  rw [mapM_eq_ok_iff inverts, ← List.forall₂_map_left_iff (R := (· = ·)),
    List.forall₂_eq_eq_eq]

/-- Work on what may be missing that has an inverse makes what the inverse takes back. -/
theorem optionMapM_eq_ok_iff_map (held : Option item) (made : Option result) :
    held.mapM work = .ok made ↔ made.map inverse = held := by
  rw [optionMapM_eq_ok_iff inverts]
  cases held <;> cases made <;> simp

end

/-! ### Failing on malformed input -/

/-- The error says that something is wrong with the form of an input. -/
def IsMalformed (error : Error) : Prop :=
  ∃ location reason, error = .malformed location reason

/-- An outcome that is a failure only because of the form of an input. -/
def OnlyMalformed (outcome : Except Error result) : Prop :=
  ∀ error, outcome = .error error → error.IsMalformed

theorem isMalformed_malformed (location : Location) (reason : MalformedReason) :
    (malformed location reason).IsMalformed :=
  ⟨location, reason, rfl⟩

/-- A malformed grid of a game is malformed input. -/
theorem IsMalformed.inGrid {error : Error} (isMalformed : error.IsMalformed) (grid : Nat) :
    (error.inGrid grid).IsMalformed := by
  obtain ⟨location, reason, rfl⟩ := isMalformed
  exact isMalformed_malformed (location.inGrid grid) reason

namespace OnlyMalformed

theorem of_ok (value : result) : OnlyMalformed (.ok value) := by
  intro error failed
  simp at failed

theorem of_error {error : Error} (isMalformed : error.IsMalformed) :
    OnlyMalformed (.error error : Except Error result) := by
  intro other failed
  rwa [← Except.error.inj failed]

theorem bind {step : Except Error item} {work : item → Except Error result}
    (first : OnlyMalformed step) (rest : ∀ value, OnlyMalformed (work value)) :
    OnlyMalformed (step >>= work) := by
  intro error failed
  rcases (bind_eq_error_iff step work error).1 failed with failed | ⟨value, _, failed⟩
  · exact first error failed
  · exact rest value error failed

theorem mapError_inGrid {outcome : Except Error result} (only : OnlyMalformed outcome)
    (grid : Nat) : OnlyMalformed (outcome.mapError (·.inGrid grid)) := by
  intro error failed
  obtain ⟨cause, failedBefore, rfl⟩ := (mapError_eq_error_iff _ _ _).1 failed
  exact (only cause failedBefore).inGrid grid

theorem mapM {work : item → Except Error result} (only : ∀ value, OnlyMalformed (work value))
    (items : List item) : OnlyMalformed (items.mapM work) := by
  induction items with
  | nil => exact of_ok []
  | cons head rest inductionHypothesis =>
      rw [List.mapM_cons]
      exact (only head).bind fun _ => inductionHypothesis.bind fun _ => of_ok _

theorem optionMapM {work : item → Except Error result}
    (only : ∀ value, OnlyMalformed (work value)) (held : Option item) :
    OnlyMalformed (held.mapM work) := by
  cases held with
  | none => exact of_ok none
  | some value => exact (only value).bind fun _ => of_ok _

end OnlyMalformed

/-! ### Failing on a flaw -/

/-- An outcome that is a failure exactly when there is a flaw, and fails with one. -/
structure FailsOn (flaw : Error → Prop) (outcome : Except Error result) : Prop where
  sound : ∀ error, outcome = .error error → flaw error
  complete : ∀ error, flaw error → ∃ reported, outcome = .error reported

namespace FailsOn

variable {flaw : Error → Prop}

theorem congr {other : Error → Prop} {outcome : Except Error result}
    (fails : FailsOn flaw outcome) (same : ∀ error, flaw error ↔ other error) :
    FailsOn other outcome where
  sound error failed := (same error).1 (fails.sound error failed)
  complete error flawed := fails.complete error ((same error).2 flawed)

theorem of_ok (value : result) : FailsOn (fun _ => False) (.ok value) where
  sound error failed := by simp at failed
  complete error flawed := flawed.elim

/-- Two steps fail on the flaws of either. -/
theorem bind {other : Error → Prop} {step : Except Error item}
    {work : item → Except Error result} (first : FailsOn flaw step)
    (rest : ∀ value, FailsOn other (work value)) :
    FailsOn (fun error => flaw error ∨ other error) (step >>= work) := by
  constructor
  · intro error failed
    rcases (bind_eq_error_iff step work error).1 failed with failed | ⟨value, _, failed⟩
    · exact .inl (first.sound error failed)
    · exact .inr ((rest value).sound error failed)
  · rintro error (flawed | flawed)
    · obtain ⟨reported, failed⟩ := first.complete error flawed
      exact ⟨reported, (bind_eq_error_iff step work reported).2 (.inl failed)⟩
    · cases outcome : step with
      | error reported => exact ⟨reported, rfl⟩
      | ok value => exact (rest value).complete error flawed

/-- Work on a list fails on the flaws of its items. -/
theorem mapM {flaws : item → Error → Prop} {work : item → Except Error result}
    (fails : ∀ value, FailsOn (flaws value) (work value)) (items : List item) :
    FailsOn (fun error => ∃ value ∈ items, flaws value error) (items.mapM work) := by
  induction items with
  | nil => exact (of_ok []).congr (by simp)
  | cons head rest inductionHypothesis =>
      rw [List.mapM_cons]
      refine ((fails head).bind fun _ => inductionHypothesis.bind fun _ => of_ok _).congr ?_
      simp

/-- Work on what may be missing fails on the flaws of what is there. -/
theorem optionMapM {flaws : item → Error → Prop} {work : item → Except Error result}
    (fails : ∀ value, FailsOn (flaws value) (work value)) (held : Option item) :
    FailsOn (fun error => ∃ value, held = some value ∧ flaws value error)
      (held.mapM work) := by
  cases held with
  | none => exact (of_ok none).congr (by simp)
  | some value =>
      refine ((fails value).bind fun _ => of_ok _).congr ?_
      simp

end FailsOn

end Error

/-! ### Agreeing -/

/-- The reason without the text of the symbol that it names. -/
def MalformedReason.anonymous : MalformedReason → MalformedReason
  | .valueOutOfDomain _ => .valueOutOfDomain ""
  | .duplicateDomainValue _ => .duplicateDomainValue ""
  | reason => reason

/-- The reason without the text of the symbol that it names. -/
def InvalidReason.anonymous : InvalidReason → InvalidReason
  | .duplicateValue first second _ => .duplicateValue first second ""
  | reason => reason

namespace Error

/-- The error without the text of the symbol that it names. -/
def anonymous : Error → Error
  | .malformed location reason => .malformed location reason.anonymous
  | .invalid location reason => .invalid location reason.anonymous
  | error => error

/-- Two outcomes are related successes, or failures with the same error up to the text of
a symbol. -/
inductive Agree {first second : Type} (relation : first → second → Prop) :
    Except Error first → Except Error second → Prop
  | ok {value : first} {other : second} (related : relation value other) :
      Agree relation (.ok value) (.ok other)
  | error {cause other : Error} (same : cause.anonymous = other.anonymous) :
      Agree relation (.error cause) (.error other)

namespace Agree

variable {first second third fourth : Type} {relation : first → second → Prop}
  {target : third → fourth → Prop} {outcome : Except Error first}
  {other : Except Error second}

/-- An outcome agrees with itself. -/
theorem refl (outcome : Except Error first) : Agree (· = ·) outcome outcome := by
  cases outcome with
  | ok value => exact .ok rfl
  | error cause => exact .error rfl

theorem bind {work : first → Except Error third} {otherWork : second → Except Error fourth}
    (agree : Agree relation outcome other)
    (rest : ∀ value otherValue, relation value otherValue →
      Agree target (work value) (otherWork otherValue)) :
    Agree target (outcome >>= work) (other >>= otherWork) := by
  cases agree with
  | ok related => exact rest _ _ related
  | error same => exact .error same

theorem map {change : first → third} {otherChange : second → fourth}
    (agree : Agree relation outcome other)
    (rest : ∀ value otherValue, relation value otherValue →
      target (change value) (otherChange otherValue)) :
    Agree target (outcome.map change) (other.map otherChange) := by
  cases agree with
  | ok related => exact .ok (rest _ _ related)
  | error same => exact .error same

theorem mono {weaker : first → second → Prop} (agree : Agree relation outcome other)
    (implies : ∀ value otherValue, relation value otherValue → weaker value otherValue) :
    Agree weaker outcome other := by
  cases agree with
  | ok related => exact .ok (implies _ _ related)
  | error same => exact .error same

/-- The related values are those of the two outcomes. -/
theorem of_outcomes (agree : Agree relation outcome other) :
    Agree (fun value otherValue =>
      relation value otherValue ∧ outcome = .ok value ∧ other = .ok otherValue)
      outcome other := by
  cases agree with
  | ok related => exact .ok ⟨related, rfl, rfl⟩
  | error same => exact .error same

/-- Work that goes through a list agrees when its steps do. -/
theorem foldlM {item : Type} {step : first → item → Except Error first}
    {otherStep : second → item → Except Error second}
    (steps : ∀ value otherValue entry, relation value otherValue →
      Agree relation (step value entry) (otherStep otherValue entry))
    (items : List item) {value : first} {otherValue : second}
    (related : relation value otherValue) :
    Agree relation (items.foldlM step value) (items.foldlM otherStep otherValue) := by
  induction items generalizing value otherValue with
  | nil => exact .ok related
  | cons entry rest inductionHypothesis =>
      rw [List.foldlM_cons, List.foldlM_cons]
      exact (steps value otherValue entry related).bind fun _ _ => inductionHypothesis

end Agree

end Error
end Sudoku
