import SdarRuntime.Library.Program

/-!
A program by itself, with what its transactions and its requests answer given: what it asks for,
and how it ends.
-/

namespace Program

variable {E R : Type → Type} {ε α β : Type}
variable (statements : {β : Type} → E β → Except ε β) (answers : {β : Type} → R β → Except ε β)

abbrev Request (R : Type → Type) := (β : Type) × R β

def evaluate : Program E R ε α → List (Request R) × Except ε α
  | .done value => ([], .ok value)
  | .fail failure => ([], .error failure)
  | .transact effect next => (next (statements effect)).evaluate
  | .request call _ next =>
    let rest := (next (answers call) none).evaluate
    (⟨_, call⟩ :: rest.1, rest.2)

variable {statements answers}

@[simp]
theorem evaluate_pure (value : α) :
    (pure value : Program E R ε α).evaluate statements answers = ([], .ok value) := rfl

@[simp]
theorem evaluate_fail (failure : ε) :
    (.fail failure : Program E R ε α).evaluate statements answers = ([], .error failure) := rfl

theorem evaluate_ofExcept (result : Except ε α) :
    (ofExcept result : Program E R ε α).evaluate statements answers = ([], result) := by
  cases result with
  | ok value => rfl
  | error failure => rfl

@[simp]
theorem evaluate_exec (effect : E α) :
    (exec effect : Program E R ε α).evaluate statements answers = ([], statements effect) :=
  evaluate_ofExcept _

@[simp]
theorem evaluate_ask (call : R α) :
    (ask call : Program E R ε α).evaluate statements answers = ([⟨α, call⟩], answers call) := by
  unfold ask evaluate
  rw [evaluate_ofExcept]

theorem evaluate_bind (first : Program E R ε α) (next : α → Program E R ε β) :
    (first >>= next).evaluate statements answers =
      match first.evaluate statements answers with
      | (asked, .ok value) =>
        (asked ++ ((next value).evaluate statements answers).1,
          ((next value).evaluate statements answers).2)
      | (asked, .error failure) => (asked, .error failure) := by
  change (first.andThen next).evaluate statements answers = _
  induction first with
  | done value => rfl
  | fail failure => rfl
  | transact effect rest ih => exact ih (statements effect)
  | request call beat rest ih =>
    have later := ih (answers call) none
    simp only [andThen, evaluate]
    rw [later]
    cases (rest (answers call) none).evaluate statements answers with
    | mk asked outcome =>
      cases outcome with
      | ok value => rfl
      | error failure => rfl

variable {first : Program E R ε α} {next : α → Program E R ε β} {asked : List (Request R)}
variable {value : α}

theorem evaluate_bind_ok (ends : first.evaluate statements answers = (asked, .ok value)) :
    (first >>= next).evaluate statements answers =
      (asked ++ ((next value).evaluate statements answers).1,
        ((next value).evaluate statements answers).2) := by
  rw [evaluate_bind, ends]

theorem evaluate_bind_error {failure : ε}
    (ends : first.evaluate statements answers = (asked, .error failure)) :
    (first >>= next).evaluate statements answers = (asked, .error failure) := by
  rw [evaluate_bind, ends]

theorem evaluate_bind_eq_ok {value : β}
    (ends : (first >>= next).evaluate statements answers = (asked, .ok value)) :
    ∃ earlier middle later, first.evaluate statements answers = (earlier, .ok middle) ∧
      (next middle).evaluate statements answers = (later, .ok value) ∧
      asked = earlier ++ later := by
  cases outcome : first.evaluate statements answers with
  | mk earlier result =>
    cases result with
    | ok middle =>
      rw [evaluate_bind_ok outcome, Prod.mk.injEq] at ends
      exact ⟨earlier, middle, _, rfl, Prod.ext rfl ends.2, ends.1.symm⟩
    | error failure =>
      rw [evaluate_bind_error outcome] at ends
      cases ends

theorem evaluate_attempt (body : Program E R ε α) (handler : ε → Program E R ε α) :
    (body.attempt handler).evaluate statements answers =
      match body.evaluate statements answers with
      | (asked, .ok value) => (asked, .ok value)
      | (asked, .error failure) =>
        (asked ++ ((handler failure).evaluate statements answers).1,
          ((handler failure).evaluate statements answers).2) := by
  induction body with
  | done value => rfl
  | fail failure => rfl
  | transact effect rest ih => exact ih (statements effect)
  | request call beat rest ih =>
    have later := ih (answers call) none
    simp only [attempt, evaluate]
    rw [later]
    cases (rest (answers call) none).evaluate statements answers with
    | mk asked outcome =>
      cases outcome with
      | ok value => rfl
      | error failure => rfl

theorem evaluate_attempt_eq_ok {body : Program E R ε α} {handler : ε → Program E R ε α}
    (fails : ∀ failure, ∃ other,
      ((handler failure).evaluate statements answers).2 = .error other)
    (ends : (body.attempt handler).evaluate statements answers = (asked, .ok value)) :
    body.evaluate statements answers = (asked, .ok value) := by
  rw [evaluate_attempt] at ends
  cases outcome : body.evaluate statements answers with
  | mk earlier result =>
    rw [outcome] at ends
    cases result with
    | ok other => exact ends
    | error failure =>
      obtain ⟨other, isFailure⟩ := fails failure
      have isValue := congrArg Prod.snd ends
      dsimp only at isValue
      rw [isFailure] at isValue
      cases isValue

theorem Calls.of_asked {Allowed : {β : Type} → E β → Prop} {Asked : {β : Type} → R β → Prop}
    {program : Program E R ε α} (calls : program.Calls Allowed Asked) :
    ∀ request ∈ (program.evaluate statements answers).1, Asked request.2 := by
  induction program with
  | done value => exact fun _ member => absurd member List.not_mem_nil
  | fail failure => exact fun _ member => absurd member List.not_mem_nil
  | transact effect rest ih => exact ih _ (calls.2 _)
  | request call beat rest ih =>
    intro request member
    rcases List.mem_cons.mp member with rfl | later
    · exact calls.1
    · exact ih _ none (calls.2.2 _ none) request later

end Program
