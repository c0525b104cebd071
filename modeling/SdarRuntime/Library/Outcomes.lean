import SdarRuntime.Library.Contract

/-!
What the programs of a system end with. A program ends in the step that answers its last
transaction; when its value tells of a change of the store that can happen once, no two
programs end with such a value.
-/

variable {E R : Type → Type} {ε σ τ A α : Type} {Entry : Type 1}

namespace Program

/-- The program ends only with the answer of a transaction, and with a value that fits it. -/
def Ends (Final : {β : Type} → E β → β → α → Prop) : Program E R ε α → Prop
  | .done _ | .fail _ => True
  | .transact effect next =>
    (∀ answer, (∀ value, next (.ok answer) = .done value → Final effect answer value) ∧
      (next (.ok answer)).Ends Final) ∧
      ∀ failure, (∀ value, next (.error failure) ≠ .done value) ∧
        (next (.error failure)).Ends Final
  | .request _ _ next => ∀ result late, (∀ value, next result late ≠ .done value) ∧
      (next result late).Ends Final

variable {β : Type} {Final : {γ : Type} → E γ → γ → α → Prop}

variable {result : Except ε β} {next : β → Program E R ε α}

theorem ends_ofExcept_bind (ends : ∀ value, result = .ok value → (next value).Ends Final) :
    (ofExcept result >>= next).Ends Final := by
  cases result with
  | ok value => exact ends value rfl
  | error failure => exact trivial

theorem ends_exec {effect : E α} (final : ∀ answer, Final effect answer answer) :
    (exec effect : Program E R ε α).Ends Final := by
  constructor
  · intro answer
    refine ⟨fun value isDone => ?_, trivial⟩
    cases isDone
    exact final answer
  · intro failure
    exact ⟨fun _ isDone => (nomatch isDone), trivial⟩

theorem ends_exec_bind {effect : E β}
    (final : ∀ answer value, next answer = .done value → Final effect answer value)
    (ends : ∀ answer, (next answer).Ends Final) : (exec effect >>= next).Ends Final := by
  constructor
  · intro answer
    exact ⟨final answer, ends answer⟩
  · intro failure
    exact ⟨fun _ isDone => (nomatch isDone), trivial⟩

theorem ends_map {γ : Type} {program : Program E R ε γ} (f : γ → α)
    (ends : program.Ends fun effect answer value => Final effect answer (f value)) :
    (program >>= fun value => pure (f value)).Ends Final := by
  change (program.andThen fun value => .done (f value)).Ends Final
  have ended : ∀ (rest : Program E R ε γ) value,
      (rest.andThen fun value => .done (f value)) = .done value →
        ∃ inner, rest = .done inner ∧ f inner = value := by
    intro rest value isDone
    cases rest with
    | done inner => exact ⟨inner, rfl, Program.done.inj isDone⟩
    | fail failure => cases isDone
    | transact effect next => cases isDone
    | request call beat next => cases isDone
  induction program with
  | done value => exact trivial
  | fail failure => exact trivial
  | transact effect next ih =>
    constructor
    · intro answer
      refine ⟨fun value isDone => ?_, ih _ (ends.1 answer).2⟩
      obtain ⟨inner, isInner, rfl⟩ := ended _ value isDone
      exact (ends.1 answer).1 inner isInner
    · intro failure
      refine ⟨fun value isDone => ?_, ih _ (ends.2 failure).2⟩
      obtain ⟨inner, isInner, -⟩ := ended _ value isDone
      exact (ends.2 failure).1 inner isInner
  | request call beat next ih =>
    intro result late
    refine ⟨fun value isDone => ?_, ih _ _ (ends result late).2⟩
    obtain ⟨inner, isInner, -⟩ := ended _ value isDone
    exact (ends result late).1 inner isInner

def Opens (program : Program E R ε α) : Prop :=
  ∀ value, program ≠ .done value

theorem opens_bind {program : Program E R ε β} (opens : program.Opens) :
    (program >>= next).Opens := by
  intro value isDone
  cases program with
  | done inner => exact opens inner rfl
  | fail failure => cases isDone
  | transact effect rest => cases isDone
  | request call beat rest => cases isDone

theorem opens_exec (effect : E α) : (exec effect : Program E R ε α).Opens :=
  fun _ isDone => nomatch isDone

theorem opens_ofExcept_bind (opens : ∀ value, (next value).Opens) :
    (ofExcept result >>= next).Opens := by
  cases result with
  | ok value => exact opens value
  | error failure => exact fun _ isDone => nomatch isDone

end Program

def Thread.value? : Thread E R ε α → Option α
  | .running (.done value) => some value
  | _ => none

def Thread.Ends (Final : {β : Type} → E β → β → α → Prop) : Thread E R ε α → Prop
  | .running program => program.Ends Final
  | .waiting _ _ _ next => ∀ result late, (∀ value, next result late ≠ .done value) ∧
      (next result late).Ends Final
  | .crashed => True

namespace System

def valueAt (system : System E R ε σ α) (index : Nat) : Option α :=
  system.threads[index]?.bind Thread.value?

def threadOf (system : System E R ε σ α) : Label Entry ε τ A → Nat
  | .spawn _ => system.threads.length
  | .perform index _ | .fault index _ _ _ | .send index | .beat index _ | .answer index _
  | .crash index => index

def returned (machine : Machine E R ε σ τ A) (program : Entry → Program E R ε α)
    (system : System E R ε σ α) (label : Label Entry ε τ A) : Option α :=
  match system.valueAt (system.threadOf label) with
  | some _ => none
  | none => (step machine program system label).valueAt (system.threadOf label)

def outcomes (machine : Machine E R ε σ τ A) (program : Entry → Program E R ε α) :
    System E R ε σ α → List (Label Entry ε τ A) → List α
  | _, [] => []
  | system, label :: rest =>
    (system.returned machine program label).toList ++
      outcomes machine program (step machine program system label) rest

section Ends

variable {machine : Machine E R ε σ τ A} {program : Entry → Program E R ε α}
  {Final : {β : Type} → E β → β → α → Prop}

variable {index : Nat} {thread : Thread E R ε α}

theorem ends_set {threads : List (Thread E R ε α)} (ends : ∀ other ∈ threads, other.Ends Final)
    (new : thread.Ends Final) :
    ∀ other ∈ threads.set index thread, other.Ends Final := by
  intro other member
  rcases List.mem_or_eq_of_mem_set member with old | same
  · exact ends other old
  · rw [same]
    exact new

variable {system : System E R ε σ α}

theorem step_ends (starts : ∀ entry, (program entry).Ends Final)
    (ends : ∀ thread ∈ system.threads, thread.Ends Final) (label : Label Entry ε τ A) :
    ∀ thread ∈ (step machine program system label).threads, thread.Ends Final := by
  cases label with
  | spawn entry =>
    intro thread member
    rcases List.mem_append.mp member with old | new
    · exact ends thread old
    · rw [List.mem_singleton.mp new]
      exact starts entry
  | perform index clock =>
    simp only [step, perform]
    split
    · rename_i effect next found
      have here : (Thread.running (.transact effect next)).Ends Final :=
        ends _ (List.mem_of_getElem? found)
      apply ends_set ends
      cases (machine.exec effect clock system.store).1 with
      | ok answer => exact (here.1 answer).2
      | error failure => exact (here.2 failure).2
    · exact ends
  | fault index clock committed failure =>
    simp only [step, fault]
    split
    · rename_i effect next found
      have here : (Thread.running (.transact effect next)).Ends Final :=
        ends _ (List.mem_of_getElem? found)
      exact ends_set ends (here.2 failure).2
    · rename_i call effect late next found
      exact ends_set ends (ends _ (List.mem_of_getElem? found) :)
    · exact ends
  | send index =>
    simp only [step, send]
    split
    · rename_i call beat next found
      exact ends_set ends (ends _ (List.mem_of_getElem? found) :)
    · exact ends
  | beat index clock =>
    simp only [step, heartbeat]
    split
    · rename_i call effect late next found
      exact ends_set ends (ends _ (List.mem_of_getElem? found) :)
    · exact ends
  | answer index value =>
    simp only [step, answer]
    split
    · rename_i call beat late next found
      have here := ends _ (List.mem_of_getElem? found)
      split
      · rename_i result accepted
        exact ends_set ends (here result late).2
      · exact ends
    · exact ends
  | crash index => exact ends_set ends trivial

variable {value : α}

theorem valueAt_set {store : σ}
    (isValue : valueAt { store := store, threads := system.threads.set index thread } index =
      some value) : thread.value? = some value := by
  simp only [valueAt, List.getElem?_set_self'] at isValue
  cases found : system.threads[index]? with
  | none => simp [found] at isValue
  | some old => simpa [found] using isValue

theorem value?_running {program : Program E R ε α}
    (isValue : (Thread.running program).value? = some value) : program = .done value := by
  cases program <;> simp_all [Thread.value?]

/-- A program ends in a step that commits a transaction, with a value that fits its answer. -/
theorem returned_final (starts : ∀ entry, (program entry).Opens)
    (ends : ∀ thread ∈ system.threads, thread.Ends Final) {label : Label Entry ε τ A}
    (isReturned : system.returned machine program label = some value) :
    ∃ (executed : Executed E τ) (answer : executed.β),
      system.executes label = some executed ∧
      (machine.exec executed.effect executed.clock system.store).1 = .ok answer ∧
      Final executed.effect answer value := by
  unfold returned at isReturned
  split at isReturned
  · cases isReturned
  rename_i open'
  cases label with
  | spawn entry =>
    simp only [threadOf, step, valueAt, List.getElem?_concat_length] at isReturned
    exact absurd (value?_running isReturned) (starts entry value)
  | perform index clock =>
    simp only [threadOf, step, perform] at isReturned open'
    split at isReturned
    · rename_i effect next found
      have here : (Thread.running (.transact effect next)).Ends Final :=
        ends _ (List.mem_of_getElem? found)
      have isDone := value?_running (valueAt_set isReturned)
      cases result : (machine.exec effect clock system.store).1 with
      | ok answer =>
        rw [result] at isDone
        exact ⟨{ effect := effect, clock := clock }, answer, by
          simp only [executes, effectAt, found], result, (here.1 answer).1 value isDone⟩
      | error failure =>
        rw [result] at isDone
        exact absurd isDone ((here.2 failure).1 value)
    · rw [open'] at isReturned
      cases isReturned
  | fault index clock committed failure =>
    simp only [threadOf, step, fault] at isReturned open'
    split at isReturned
    · rename_i effect next found
      have here : (Thread.running (.transact effect next)).Ends Final :=
        ends _ (List.mem_of_getElem? found)
      exact absurd (value?_running (valueAt_set isReturned)) ((here.2 failure).1 value)
    · cases valueAt_set isReturned
    · rw [open'] at isReturned
      cases isReturned
  | send index =>
    simp only [threadOf, step, send] at isReturned open'
    split at isReturned
    · cases valueAt_set isReturned
    · rw [open'] at isReturned
      cases isReturned
  | beat index clock =>
    simp only [threadOf, step, heartbeat] at isReturned open'
    split at isReturned
    · cases valueAt_set isReturned
    · rw [open'] at isReturned
      cases isReturned
  | answer index given =>
    simp only [threadOf, step, answer] at isReturned open'
    split at isReturned
    · rename_i call beat late next found
      have here := ends _ (List.mem_of_getElem? found)
      split at isReturned
      · rename_i result accepted
        exact absurd (value?_running (valueAt_set isReturned)) ((here result late).1 value)
      · rw [open'] at isReturned
        cases isReturned
    · rw [open'] at isReturned
      cases isReturned
  | crash index => cases valueAt_set isReturned

end Ends

/-- Values that tell of the step in which a measure of the store passes a mark end one program
at most. -/
theorem countP_outcomes_le_one {machine : Machine E R ε σ τ A}
    {program : Entry → Program E R ε α} {Holds : System E R ε σ α → Prop}
    (keeps : ∀ system label, Holds system → Holds (step machine program system label))
    (measure : σ → Nat) (mark : Nat) (tells : α → Bool)
    (grows : ∀ system label, Holds system →
      measure system.store ≤ measure (step machine program system label).store)
    (passes : ∀ system label value, Holds system →
      system.returned machine program label = some value → tells value = true →
      measure system.store ≤ mark ∧ mark < measure (step machine program system label).store)
    {system : System E R ε σ α} (holds : Holds system) (labels : List (Label Entry ε τ A)) :
    (outcomes machine program system labels).countP tells ≤
      if measure system.store ≤ mark then 1 else 0 := by
  induction labels generalizing system with
  | nil => simp [outcomes]
  | cons label rest ih =>
    have later := ih (keeps system label holds)
    have grown := grows system label holds
    rw [outcomes, List.countP_append]
    cases isReturned : system.returned machine program label with
    | none =>
      simp only [Option.toList_none, List.countP_nil, Nat.zero_add]
      split at later
      · have before : measure system.store ≤ mark := by omega
        rw [if_pos before]
        exact later
      · omega
    | some value =>
      cases isTold : tells value with
      | false =>
        simp only [Option.toList_some, List.countP_singleton, isTold]
        split at later
        · have before : measure system.store ≤ mark := by omega
          rw [if_pos before]
          simpa using later
        · have noneLater := Nat.le_zero.mp later
          simp [noneLater]
      | true =>
        have passed := passes system label value holds isReturned isTold
        rw [if_neg (by omega)] at later
        rw [if_pos passed.1]
        have noneLater := Nat.le_zero.mp later
        simp [noneLater, isTold]

end System
