import Mathlib.Init

/-!
Attempts on a store whose changes are accepted only while nobody else changed it. An attempt
decides on what it reads; a change that was raced leaves the store alone and is attempted again.
-/

namespace Attempts

variable {σ δ ω : Type}

/-- What a caller makes of what it reads: an outcome without a change, or a change. -/
inductive Decision (δ ω : Type) where
  | answer (outcome : ω)
  | change (value : δ) (outcome : ω)

/-- What becomes of a change: it is stored, somebody else was faster, or the store refuses it. -/
inductive Fate where
  | stored
  | raced
  | refused (error : String)
  deriving DecidableEq

inductive Ended (ω : Type) where
  | done (outcome : ω)
  | again
  | threw (error : String)
  deriving DecidableEq

variable (write : σ → δ → σ) (conclude : σ → Except String (Decision δ ω))

def attempt (state : σ) (fate : Fate) : Ended ω × σ :=
  match conclude state with
  | .error error => (.threw error, state)
  | .ok (.answer outcome) => (.done outcome, state)
  | .ok (.change value outcome) =>
    match fate with
    | .stored => (.done outcome, write state value)
    | .raced => (.again, state)
    | .refused error => (.threw error, state)

variable {write : σ → δ → σ} {conclude : σ → Except String (Decision δ ω)} {state : σ} {fate : Fate}

theorem attempt_cases (write : σ → δ → σ) (conclude : σ → Except String (Decision δ ω))
    (state : σ) (fate : Fate) :
    (attempt write conclude state fate).2 = state ∨
      ∃ value outcome, fate = .stored ∧ conclude state = .ok (.change value outcome) ∧
        (attempt write conclude state fate).2 = write state value := by
  unfold attempt
  match conclude state with
  | .error _ => exact Or.inl rfl
  | .ok (.answer _) => exact Or.inl rfl
  | .ok (.change value outcome) =>
    cases fate with
    | stored => exact Or.inr ⟨value, outcome, rfl, rfl, rfl⟩
    | raced => exact Or.inl rfl
    | refused _ => exact Or.inl rfl

theorem attempt_keeps {I : σ → Prop} (holds : I state)
    (kept : ∀ value outcome, conclude state = .ok (.change value outcome) → I (write state value)) :
    I (attempt write conclude state fate).2 := by
  rcases attempt_cases write conclude state fate with same | ⟨value, outcome, -, decided, written⟩
  · rw [same]
    exact holds
  · rw [written]
    exact kept value outcome decided

theorem attempt_answer {outcome : ω} (decided : conclude state = .ok (.answer outcome)) :
    attempt write conclude state fate = (.done outcome, state) := by
  rw [attempt, decided]

theorem attempt_threw {error : String} (decided : conclude state = .error error) :
    attempt write conclude state fate = (.threw error, state) := by
  rw [attempt, decided]

theorem attempt_stored {value : δ} {outcome : ω}
    (decided : conclude state = .ok (.change value outcome)) :
    attempt write conclude state .stored = (.done outcome, write state value) := by
  rw [attempt, decided]

end Attempts
