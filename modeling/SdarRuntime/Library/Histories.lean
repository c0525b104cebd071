import Mathlib.Data.List.Basic

/-!
Histories of a machine that takes one atomic step after another. A condition may be asked of
every step in the state the step is taken in.
-/

namespace Histories

variable {σ ι : Type} (next : σ → ι → σ)

def after (state : σ) (steps : List ι) : σ :=
  steps.foldl next state

def EveryStep (Condition : σ → ι → Prop) : σ → List ι → Prop
  | _, [] => True
  | state, step :: later => Condition state step ∧ EveryStep Condition (next state step) later

instance (Condition : σ → ι → Prop) [∀ state step, Decidable (Condition state step)] :
    ∀ state steps, Decidable (EveryStep next Condition state steps)
  | _, [] => .isTrue trivial
  | state, step :: later =>
    have := instDecidableEveryStep Condition (next state step) later
    inferInstanceAs (Decidable (Condition state step ∧ _))

theorem everyStep_true (state : σ) (steps : List ι) :
    EveryStep next (fun _ _ => True) state steps := by
  induction steps generalizing state with
  | nil => trivial
  | cons step later ih => exact ⟨trivial, ih (next state step)⟩

variable {next}

theorem after_append (state : σ) (earlier later : List ι) :
    after next state (earlier ++ later) = after next (after next state earlier) later :=
  List.foldl_append

theorem after_concat (state : σ) (earlier : List ι) (step : ι) :
    after next state (earlier ++ [step]) = next (after next state earlier) step := by
  rw [after_append]
  rfl

variable {Condition : σ → ι → Prop} {state : σ}

theorem everyStep_append {earlier later : List ι} :
    EveryStep next Condition state (earlier ++ later) ↔
      EveryStep next Condition state earlier ∧
        EveryStep next Condition (after next state earlier) later := by
  induction earlier generalizing state with
  | nil => simp [EveryStep, after]
  | cons step rest ih =>
    simp only [List.cons_append, EveryStep, ih, and_assoc]
    rfl

variable {First Second : σ → ι → Prop} {steps : List ι}

theorem everyStep_and :
    EveryStep next (fun state step => First state step ∧ Second state step) state steps ↔
      EveryStep next First state steps ∧ EveryStep next Second state steps := by
  induction steps generalizing state with
  | nil => simp [EveryStep]
  | cons step rest ih =>
    simp only [EveryStep, ih]
    constructor
    · rintro ⟨⟨first, second⟩, firstRest, secondRest⟩
      exact ⟨⟨first, firstRest⟩, second, secondRest⟩
    · rintro ⟨⟨first, firstRest⟩, second, secondRest⟩
      exact ⟨⟨first, second⟩, firstRest, secondRest⟩

/-- Every step meets a condition when it does behind each beginning of the history. -/
theorem everyStep_iff :
    EveryStep next Condition state steps ↔
      ∀ earlier step later, steps = earlier ++ step :: later →
        Condition (after next state earlier) step := by
  constructor
  · rintro every earlier step later rfl
    exact (everyStep_append.mp every).2.1
  · intro splits
    induction steps generalizing state with
    | nil => trivial
    | cons step rest ih =>
      constructor
      · exact splits [] step rest rfl
      · apply ih
        rintro earlier other later rfl
        exact splits (step :: earlier) other later rfl

variable {I : σ → Prop}

/-- What every step that meets the condition keeps, a history of such steps keeps. -/
theorem keeps (step : ∀ state step, I state → Condition state step → I (next state step))
    (holds : I state) (meets : EveryStep next Condition state steps) :
    I (after next state steps) := by
  induction steps generalizing state with
  | nil => exact holds
  | cons first rest ih => exact ih (step state first holds meets.1) meets.2

theorem always (step : ∀ state step, I state → I (next state step)) (holds : I state)
    (steps : List ι) : I (after next state steps) := by
  induction steps generalizing state with
  | nil => exact holds
  | cons first rest ih => exact ih (step state first holds)

theorem everyStep_congr (step : ∀ state step, I state → I (next state step))
    (same : ∀ state step, I state → (First state step ↔ Second state step)) (holds : I state)
    (steps : List ι) :
    EveryStep next First state steps ↔ EveryStep next Second state steps := by
  induction steps generalizing state with
  | nil => exact Iff.rfl
  | cons head later ih => exact and_congr (same state head holds) (ih (step state head holds))

/-- What each step keeps or ends, with a mark that lasts, is kept or has ended. -/
theorem keeps_or_ends {H E : σ → Prop}
    (step : ∀ state step, Condition state step → H state → H (next state step) ∨ E (next state step))
    (lasts : ∀ state step, Condition state step → E state → E (next state step)) (holds : H state)
    (meets : EveryStep next Condition state steps) :
    H (after next state steps) ∨ E (after next state steps) := by
  apply keeps (I := fun state => H state ∨ E state) _ (Or.inl holds) meets
  intro before taken either condition
  rcases either with still | ended
  · exact step before taken condition still
  · exact Or.inr (lasts before taken condition ended)

end Histories
