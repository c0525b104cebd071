import Mathlib.Logic.Relation
import Mathlib.Tactic.Tauto

/-!
Programs that run side by side over one store. A program is a tree of transactions,
each atomic, and of requests to the outside, during which other programs run. While
a request is outstanding a background transaction may beat any number of times; its
last failure reaches the program together with the answer.

A system interleaves any number of such programs in any order, with failures of the
store and the end of a process at any point.
-/

/-- Transactions `E`, requests `R`, failures `ε`, and a final value. -/
inductive Program (E R : Type → Type) (ε α : Type) : Type 1 where
  | done (value : α)
  | fail (failure : ε)
  | transact {β : Type} (effect : E β) (next : Except ε β → Program E R ε α)
  | request {β : Type} (call : R β) (beat : Option (E Unit))
      (next : Except ε β → Option ε → Program E R ε α)

namespace Program

variable {E R : Type → Type} {ε α β γ : Type}

def andThen : Program E R ε α → (α → Program E R ε β) → Program E R ε β
  | .done value, next => next value
  | .fail failure, _ => .fail failure
  | .transact effect rest, next => .transact effect (fun result => (rest result).andThen next)
  | .request call beat rest, next =>
    .request call beat (fun result late => (rest result late).andThen next)

def attempt : Program E R ε α → (ε → Program E R ε α) → Program E R ε α
  | .done value, _ => .done value
  | .fail failure, handler => handler failure
  | .transact effect rest, handler =>
    .transact effect (fun result => (rest result).attempt handler)
  | .request call beat rest, handler =>
    .request call beat (fun result late => (rest result late).attempt handler)

instance : Monad (Program E R ε) where
  pure := .done
  bind := andThen

def ofExcept : Except ε β → Program E R ε β
  | .ok value => .done value
  | .error failure => .fail failure

def exec (effect : E β) : Program E R ε β := .transact effect ofExcept

def ask (call : R β) : Program E R ε β := .request call none fun result _ => ofExcept result

/-- Every transaction of the program, its background beats included, is allowed, and so is
every request. -/
def Calls (Allowed : {β : Type} → E β → Prop) (Asked : {β : Type} → R β → Prop) :
    Program E R ε α → Prop
  | .done _ | .fail _ => True
  | .transact effect next => Allowed effect ∧ ∀ result, (next result).Calls Allowed Asked
  | .request call beat next =>
    Asked call ∧ (∀ effect, beat = some effect → Allowed effect) ∧
      ∀ result late, (next result late).Calls Allowed Asked

variable {Allowed Weaker : {β : Type} → E β → Prop} {Asked AskedWeaker : {β : Type} → R β → Prop}

theorem calls_pure (value : α) : (pure value : Program E R ε α).Calls Allowed Asked := trivial

theorem calls_fail (failure : ε) : (.fail failure : Program E R ε α).Calls Allowed Asked :=
  trivial

theorem calls_ofExcept (result : Except ε α) :
    (ofExcept result : Program E R ε α).Calls Allowed Asked := by
  cases result with
  | ok value => exact trivial
  | error failure => exact trivial

theorem calls_ofExcept_bind {result : Except ε β} {next : β → Program E R ε α}
    (calls : ∀ value, result = .ok value → (next value).Calls Allowed Asked) :
    (ofExcept result >>= next).Calls Allowed Asked := by
  cases result with
  | ok value => exact calls value rfl
  | error failure => exact trivial

theorem calls_exec {effect : E α} (allowed : Allowed effect) :
    (exec effect : Program E R ε α).Calls Allowed Asked :=
  ⟨allowed, calls_ofExcept⟩

theorem calls_ask {call : R α} (asked : Asked call) :
    (ask call : Program E R ε α).Calls Allowed Asked :=
  ⟨asked, fun _ isBeat => (nomatch isBeat), fun result _ => calls_ofExcept result⟩

theorem calls_bind {first : Program E R ε α} {next : α → Program E R ε β}
    (firstCalls : first.Calls Allowed Asked)
    (nextCalls : ∀ value, (next value).Calls Allowed Asked) :
    (first >>= next).Calls Allowed Asked := by
  change (first.andThen next).Calls Allowed Asked
  induction first with
  | done value => exact nextCalls value
  | fail failure => exact trivial
  | transact effect rest ih => exact ⟨firstCalls.1, fun result => ih result (firstCalls.2 result)⟩
  | request call beat rest ih =>
    exact ⟨firstCalls.1, firstCalls.2.1,
      fun result late => ih result late (firstCalls.2.2 result late)⟩

theorem calls_attempt {body : Program E R ε α} {handler : ε → Program E R ε α}
    (bodyCalls : body.Calls Allowed Asked)
    (handlerCalls : ∀ failure, (handler failure).Calls Allowed Asked) :
    (body.attempt handler).Calls Allowed Asked := by
  induction body with
  | done value => exact trivial
  | fail failure => exact handlerCalls failure
  | transact effect rest ih => exact ⟨bodyCalls.1, fun result => ih result (bodyCalls.2 result)⟩
  | request call beat rest ih =>
    exact ⟨bodyCalls.1, bodyCalls.2.1,
      fun result late => ih result late (bodyCalls.2.2 result late)⟩

theorem calls_ite {condition : Prop} [Decidable condition] {yes no : Program E R ε α}
    (yesCalls : condition → yes.Calls Allowed Asked)
    (noCalls : ¬condition → no.Calls Allowed Asked) :
    (if condition then yes else no).Calls Allowed Asked := by
  by_cases holds : condition
  · rw [if_pos holds]
    exact yesCalls holds
  · rw [if_neg holds]
    exact noCalls holds

end Program

/-- What a program's transactions and requests mean: `exec` runs a transaction at a
reading `τ` of the clocks, `accept` is how an answer `A` from outside fits a request. -/
structure Machine (E R : Type → Type) (ε σ τ A : Type) where
  exec : {β : Type} → E β → τ → σ → Except ε β × σ
  accept : {β : Type} → R β → A → Option (Except ε β)

inductive Thread (E R : Type → Type) (ε α : Type) : Type 1 where
  | running (program : Program E R ε α)
  | waiting {β : Type} (call : R β) (beat : Option (E Unit)) (late : Option ε)
      (next : Except ε β → Option ε → Program E R ε α)
  | crashed

structure System (E R : Type → Type) (ε σ α : Type) : Type 1 where
  store : σ
  threads : List (Thread E R ε α)

/-- One step of a system: a new program, a transaction of a thread, a transaction the store
fails (whether it was committed or not), a request leaving a thread, a beat of an
outstanding request, its answer, or the end of a process. -/
inductive Label (Entry : Type 1) (ε τ A : Type) : Type 1 where
  | spawn (entry : Entry)
  | perform (thread : Nat) (clock : τ)
  | fault (thread : Nat) (clock : τ) (committed : Bool) (failure : ε)
  | send (thread : Nat)
  | beat (thread : Nat) (clock : τ)
  | answer (thread : Nat) (value : A)
  | crash (thread : Nat)

structure Executed (E : Type → Type) (τ : Type) : Type 1 where
  {β : Type}
  effect : E β
  clock : τ

def Executed.after {E R : Type → Type} {ε σ τ A : Type} (machine : Machine E R ε σ τ A)
    (executed : Executed E τ) (store : σ) : σ :=
  (machine.exec executed.effect executed.clock store).2

namespace System

variable {E R : Type → Type} {ε σ τ A α : Type} {Entry : Type 1}

def initial (store : σ) : System E R ε σ α := { store := store, threads := [] }

def perform (machine : Machine E R ε σ τ A) (system : System E R ε σ α) (index : Nat)
    (clock : τ) : System E R ε σ α :=
  match system.threads[index]? with
  | some (.running (.transact effect next)) =>
    { store := (machine.exec effect clock system.store).2
      threads := system.threads.set index
        (.running (next (machine.exec effect clock system.store).1)) }
  | _ => system

/-- The thread's next transaction fails for a reason outside the program; the store may
have committed it all the same. -/
def fault (machine : Machine E R ε σ τ A) (system : System E R ε σ α) (index : Nat)
    (clock : τ) (committed : Bool) (failure : ε) : System E R ε σ α :=
  match system.threads[index]? with
  | some (.running (.transact effect next)) =>
    { store := if committed then (machine.exec effect clock system.store).2 else system.store
      threads := system.threads.set index (.running (next (.error failure))) }
  | some (.waiting call (some effect) _ next) =>
    { store := if committed then (machine.exec effect clock system.store).2 else system.store
      threads := system.threads.set index (.waiting call (some effect) (some failure) next) }
  | _ => system

def send (system : System E R ε σ α) (index : Nat) : System E R ε σ α :=
  match system.threads[index]? with
  | some (.running (.request call beat next)) =>
    { system with threads := system.threads.set index (.waiting call beat none next) }
  | _ => system

def heartbeat (machine : Machine E R ε σ τ A) (system : System E R ε σ α) (index : Nat)
    (clock : τ) : System E R ε σ α :=
  match system.threads[index]? with
  | some (.waiting call (some effect) late next) =>
    { store := (machine.exec effect clock system.store).2
      threads := system.threads.set index
        (.waiting call (some effect)
          (match (machine.exec effect clock system.store).1 with
            | .ok () => late
            | .error failure => some failure) next) }
  | _ => system

def answer (machine : Machine E R ε σ τ A) (system : System E R ε σ α) (index : Nat)
    (value : A) : System E R ε σ α :=
  match system.threads[index]? with
  | some (.waiting call _ late next) =>
    match machine.accept call value with
    | some result =>
      { system with threads := system.threads.set index (.running (next result late)) }
    | none => system
  | _ => system

/-- A label that does not fit the state of its thread changes nothing. -/
def step (machine : Machine E R ε σ τ A) (program : Entry → Program E R ε α)
    (system : System E R ε σ α) : Label Entry ε τ A → System E R ε σ α
  | .spawn entry => { system with threads := system.threads ++ [.running (program entry)] }
  | .perform index clock => system.perform machine index clock
  | .fault index clock committed failure => system.fault machine index clock committed failure
  | .send index => system.send index
  | .beat index clock => system.heartbeat machine index clock
  | .answer index value => system.answer machine index value
  | .crash index => { system with threads := system.threads.set index .crashed }

def run (machine : Machine E R ε σ τ A) (program : Entry → Program E R ε α) :
    System E R ε σ α → List (Label Entry ε τ A) → System E R ε σ α
  | system, [] => system
  | system, label :: rest => run machine program (step machine program system label) rest

theorem run_append (machine : Machine E R ε σ τ A) (program : Entry → Program E R ε α)
    (system : System E R ε σ α) (first second : List (Label Entry ε τ A)) :
    run machine program system (first ++ second) =
      run machine program (run machine program system first) second := by
  induction first generalizing system with
  | nil => rfl
  | cons label rest ih => exact ih (step machine program system label)

def effectAt (system : System E R ε σ α) (index : Nat) (clock : τ) : Option (Executed E τ) :=
  match system.threads[index]? with
  | some (.running (.transact effect _)) => some { effect := effect, clock := clock }
  | _ => none

def beatAt (system : System E R ε σ α) (index : Nat) (clock : τ) : Option (Executed E τ) :=
  match system.threads[index]? with
  | some (.waiting _ (some effect) _ _) => some { effect := effect, clock := clock }
  | _ => none

def executes (system : System E R ε σ α) : Label Entry ε τ A → Option (Executed E τ)
  | .perform index clock => system.effectAt index clock
  | .fault index clock true _ => (system.effectAt index clock).or (system.beatAt index clock)
  | .beat index clock => system.beatAt index clock
  | _ => none

def Sends (Kind : {β : Type} → R β → Prop) (system : System E R ε σ α) :
    Label Entry ε τ A → Prop
  | .send index =>
    match system.threads[index]? with
    | some (.running (.request call _ _)) => Kind call
    | _ => False
  | _ => False

theorem step_store (machine : Machine E R ε σ τ A) (program : Entry → Program E R ε α)
    (system : System E R ε σ α) (label : Label Entry ε τ A) :
    (step machine program system label).store =
      match system.executes label with
      | some executed => executed.after machine system.store
      | none => system.store := by
  cases label with
  | spawn entry => rfl
  | crash index => rfl
  | perform index clock =>
    simp only [step, perform, executes, effectAt]
    split <;> simp_all [Executed.after]
  | fault index clock committed failure =>
    cases committed with
    | true =>
      simp only [step, fault, executes, effectAt, beatAt]
      split <;> simp_all [Executed.after]
    | false =>
      simp only [step, fault, executes]
      split <;> simp_all
  | send index =>
    simp only [step, send, executes]
    split <;> rfl
  | beat index clock =>
    simp only [step, heartbeat, executes, beatAt]
    split <;> simp_all [Executed.after]
  | answer index value =>
    simp only [step, answer, executes]
    split
    · split <;> rfl
    · rfl

def Throughout (machine : Machine E R ε σ τ A) (program : Entry → Program E R ε α)
    (Condition : System E R ε σ α → Label Entry ε τ A → Prop) :
    System E R ε σ α → List (Label Entry ε τ A) → Prop
  | _, [] => True
  | system, label :: rest =>
    Condition system label ∧
      Throughout machine program Condition (step machine program system label) rest

/-- A condition on the transaction a step commits and on the store it finds. -/
def OnCommit (Condition : Executed E τ → σ → Prop) (system : System E R ε σ α)
    (label : Label Entry ε τ A) : Prop :=
  ∀ executed, system.executes label = some executed → Condition executed system.store

instance decidableOnCommit (Condition : Executed E τ → σ → Prop)
    [∀ executed store, Decidable (Condition executed store)] (system : System E R ε σ α)
    (label : Label Entry ε τ A) : Decidable (OnCommit Condition system label) :=
  match commits : system.executes label with
  | none => .isTrue fun _ isSome => nomatch commits.symm.trans isSome
  | some executed =>
    decidable_of_iff (Condition executed system.store)
      ⟨fun holds _ isSome => Option.some.inj (commits.symm.trans isSome) ▸ holds,
        fun onCommit => onCommit executed commits⟩

instance decidableThroughout (machine : Machine E R ε σ τ A) (program : Entry → Program E R ε α)
    (Condition : System E R ε σ α → Label Entry ε τ A → Prop)
    [∀ system label, Decidable (Condition system label)] :
    (system : System E R ε σ α) → (labels : List (Label Entry ε τ A)) →
    Decidable (Throughout machine program Condition system labels)
  | _, [] => .isTrue trivial
  | system, label :: rest =>
    have := decidableThroughout machine program Condition (step machine program system label) rest
    inferInstanceAs (Decidable (_ ∧ _))

variable {machine : Machine E R ε σ τ A} {program : Entry → Program E R ε α}
variable {Condition : System E R ε σ α → Label Entry ε τ A → Prop} {system : System E R ε σ α}

theorem throughout_append {first second : List (Label Entry ε τ A)} :
    Throughout machine program Condition system (first ++ second) ↔
      Throughout machine program Condition system first ∧
        Throughout machine program Condition (run machine program system first) second := by
  induction first generalizing system with
  | nil => simp [Throughout, run]
  | cons label rest ih => simp only [List.cons_append, Throughout, run, ih, and_assoc]

theorem throughout_mono {First Second : System E R ε σ α → Label Entry ε τ A → Prop}
    {labels : List (Label Entry ε τ A)}
    (throughout : Throughout machine program First system labels)
    (weaker : ∀ system label, First system label → Second system label) :
    Throughout machine program Second system labels := by
  induction labels generalizing system with
  | nil => exact trivial
  | cons label rest ih => exact ⟨weaker _ _ throughout.1, ih throughout.2⟩

theorem throughout_always (always : ∀ system label, Condition system label)
    (system : System E R ε σ α) (labels : List (Label Entry ε τ A)) :
    Throughout machine program Condition system labels := by
  induction labels generalizing system with
  | nil => exact trivial
  | cons label rest ih => exact ⟨always system label, ih _⟩

/-- What every step of a run keeps, under a condition on every step, the run keeps. -/
theorem run_induction {P : System E R ε σ α → Prop}
    (keeps : ∀ system label, P system → Condition system label →
      P (step machine program system label)) (holds : P system) (labels : List (Label Entry ε τ A))
    (conditions : Throughout machine program Condition system labels) :
    P (run machine program system labels) := by
  induction labels generalizing system with
  | nil => exact holds
  | cons label rest ih => exact ih (keeps system label holds conditions.1) conditions.2

theorem throughout_of_invariant
    {Condition Consequence : System E R ε σ α → Label Entry ε τ A → Prop}
    {Holds : System E R ε σ α → Prop}
    (keeps : ∀ system label, Holds system → Condition system label →
      Holds (step machine program system label))
    (gives : ∀ system label, Holds system → Condition system label → Consequence system label)
    (holds : Holds system) (labels : List (Label Entry ε τ A))
    (conditions : Throughout machine program Condition system labels) :
    Throughout machine program Consequence system labels := by
  induction labels generalizing system with
  | nil => exact trivial
  | cons label rest ih =>
    exact ⟨gives system label holds conditions.1,
      ih (keeps system label holds conditions.1) conditions.2⟩

variable {Holds : σ → Prop}

theorem run_store_induction {Condition : Executed E τ → σ → Prop}
    (keeps : ∀ executed store, Holds store → Condition executed store →
      Holds (executed.after machine store)) (holds : Holds system.store)
    (labels : List (Label Entry ε τ A))
    (conditions : Throughout machine program (OnCommit Condition) system labels) :
    Holds (run machine program system labels).store := by
  refine run_induction (P := fun system => Holds system.store) ?_ holds labels conditions
  intro system label holds condition
  rw [step_store]
  cases executed : system.executes label with
  | none => exact holds
  | some transaction => exact keeps transaction system.store holds (condition _ executed)

theorem run_store_always (keeps : ∀ (executed : Executed E τ) store, Holds store →
      Holds (executed.after machine store)) (holds : Holds system.store)
    (labels : List (Label Entry ε τ A)) :
    Holds (run machine program system labels).store := by
  induction labels generalizing system with
  | nil => exact holds
  | cons label rest ih =>
    refine ih ?_
    rw [step_store]
    cases executed : system.executes label with
    | none => exact holds
    | some transaction => exact keeps transaction system.store holds

end System
