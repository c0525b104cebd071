import SdarRuntime.Library.Program

/-!
Rely and guarantee for programs of a system. A contract says what a program may count on
between its own transactions and what each of its transactions and requests must satisfy
where it happens. A program that keeps the contract from every store of its invariant can
run next to any others that keep it.

A contract may also hold only in some stores, once they are entered. Programs that were
under way when they were entered keep it from then on if they no longer reach, without a
new check, what the contract forbids.
-/

structure Contract (E R : Type → Type) (σ : Type) where
  Invariant : σ → Prop
  Rely : σ → σ → Prop
  rely_refl : ∀ store, Rely store store
  rely_trans : ∀ {first second third}, Rely first second → Rely second third → Rely first third
  Guarantee : {β : Type} → E β → σ → Prop
  Asks : {β : Type} → R β → σ → Prop

namespace Contract

variable {E R : Type → Type} {ε σ τ A α β : Type}

/-- From `store`, under any interference the contract allows, every transaction and request
of the program is as the contract asks, and the program ends in `Post`. -/
def Sat (contract : Contract E R σ) (machine : Machine E R ε σ τ A) :
    Program E R ε α → (Except ε α → σ → Prop) → σ → Prop
  | .done value, Post, store => Post (.ok value) store
  | .fail failure, Post, store => Post (.error failure) store
  | .transact effect next, Post, store =>
    ∀ store', contract.Rely store store' → contract.Invariant store' →
      contract.Guarantee effect store' ∧
        (∀ clock, Sat contract machine (next (machine.exec effect clock store').1) Post
          (machine.exec effect clock store').2) ∧
        ∀ clock failure, Sat contract machine (next (.error failure)) Post store' ∧
          Sat contract machine (next (.error failure)) Post
            (machine.exec effect clock store').2
  | .request call beat next, Post, store =>
    ∀ store', contract.Rely store store' → contract.Invariant store' →
      contract.Asks call store' ∧
        (∀ effect, beat = some effect → contract.Guarantee effect store') ∧
        ∀ result late, Sat contract machine (next result late) Post store'

/-- A request that has left: its beats and what follows its answer. -/
def Outstanding (contract : Contract E R σ) (machine : Machine E R ε σ τ A)
    (beat : Option (E Unit)) (next : Except ε β → Option ε → Program E R ε α)
    (Post : Except ε α → σ → Prop) (store : σ) : Prop :=
  ∀ store', contract.Rely store store' → contract.Invariant store' →
    (∀ effect, beat = some effect → contract.Guarantee effect store') ∧
      ∀ result late, Sat contract machine (next result late) Post store'

variable {contract : Contract E R σ} {machine : Machine E R ε σ τ A}

def Follows (contract : Contract E R σ) (machine : Machine E R ε σ τ A)
    (next : α → Program E R ε β) (Post : Except ε β → σ → Prop) : Except ε α → σ → Prop
  | .ok value, store => Sat contract machine (next value) Post store
  | .error failure, store => Post (.error failure) store

variable {store : σ}

theorem sat_bind {first : Program E R ε α} {next : α → Program E R ε β}
    {Post : Except ε β → σ → Prop} :
    contract.Sat machine (first >>= next) Post store ↔
      contract.Sat machine first (contract.Follows machine next Post) store := by
  change contract.Sat machine (first.andThen next) Post store ↔ _
  induction first generalizing store with
  | done value => exact Iff.rfl
  | fail failure => exact Iff.rfl
  | transact effect rest ih => simp only [Program.andThen, Sat, ih]
  | request call beat rest ih => simp only [Program.andThen, Sat, ih]

variable {Post : Except ε α → σ → Prop}

theorem sat_attempt {body : Program E R ε α} {handler : ε → Program E R ε α} :
    contract.Sat machine (body.attempt handler) Post store ↔
      contract.Sat machine body (fun result store' =>
        match result with
        | .ok value => Post (.ok value) store'
        | .error failure => contract.Sat machine (handler failure) Post store') store := by
  induction body generalizing store with
  | done value => exact Iff.rfl
  | fail failure => exact Iff.rfl
  | transact effect rest ih => simp only [Program.attempt, Sat, ih]
  | request call beat rest ih => simp only [Program.attempt, Sat, ih]

variable {program : Program E R ε α}

theorem Sat.mono {Post Weaker : Except ε α → σ → Prop}
    (sat : contract.Sat machine program Post store)
    (weaker : ∀ result store, Post result store → Weaker result store) :
    contract.Sat machine program Weaker store := by
  induction program generalizing store with
  | done value => exact weaker _ _ sat
  | fail failure => exact weaker _ _ sat
  | transact effect rest ih =>
    intro store' rely invariant
    obtain ⟨guarantee, answers, fails⟩ := sat store' rely invariant
    exact ⟨guarantee, fun clock => ih _ (answers clock), fun clock failure =>
      ⟨ih _ (fails clock failure).1, ih _ (fails clock failure).2⟩⟩
  | request call beat rest ih =>
    intro store' rely invariant
    obtain ⟨asks, beats, answers⟩ := sat store' rely invariant
    exact ⟨asks, beats, fun result late => ih _ _ (answers result late)⟩

theorem Sat.interfere {store store' : σ} (sat : contract.Sat machine program Post store)
    (stable : ∀ result first second, contract.Rely first second → Post result first →
      Post result second) (rely : contract.Rely store store') :
    contract.Sat machine program Post store' := by
  cases program with
  | done value => exact stable _ _ _ rely sat
  | fail failure => exact stable _ _ _ rely sat
  | transact effect rest =>
    exact fun later rely' invariant =>
      sat later (contract.rely_trans rely rely') invariant
  | request call beat rest =>
    exact fun later rely' invariant =>
      sat later (contract.rely_trans rely rely') invariant

/-- A program whose calls are all allowed keeps a contract that asks no more than a fact
which interference keeps. -/
theorem sat_of_calls {Allowed : {β : Type} → E β → Prop} {Asked : {β : Type} → R β → Prop}
    (Fact : σ → Prop) (relies : ∀ {β : Type} (effect : E β) clock store, contract.Invariant store →
      contract.Guarantee effect store →
      contract.Rely store (machine.exec effect clock store).2)
    (stable : ∀ store store', contract.Rely store store' → Fact store → Fact store')
    (guarantees : ∀ {β : Type} (effect : E β) store, Allowed effect → Fact store →
      contract.Invariant store → contract.Guarantee effect store)
    (asks : ∀ {β : Type} (call : R β) store, Asked call → contract.Asks call store)
    (calls : program.Calls Allowed Asked) (fact : Fact store) :
    contract.Sat machine program (fun _ _ => True) store := by
  induction program generalizing store with
  | done value => exact trivial
  | fail failure => exact trivial
  | transact effect rest ih =>
    intro store' rely invariant
    have fact' := stable _ _ rely fact
    have guarantee := guarantees effect store' calls.1 fact' invariant
    refine ⟨guarantee, fun clock => ih _ (calls.2 _) ?_, fun clock failure => ⟨?_, ?_⟩⟩
    · exact stable _ _ (relies effect clock store' invariant guarantee) fact'
    · exact ih _ (calls.2 _) fact'
    · exact ih _ (calls.2 _) (stable _ _ (relies effect clock store' invariant guarantee) fact')
  | request call beat rest ih =>
    intro store' rely invariant
    have fact' := stable _ _ rely fact
    exact ⟨asks call store' calls.1,
      fun effect isBeat => guarantees effect store' (calls.2.1 effect isBeat) fact' invariant,
      fun result late => ih result late (calls.2.2 result late) fact'⟩

theorem sat_exec_bind {effect : E β} {next : β → Program E R ε α}
    (guarantees : ∀ store', contract.Rely store store' → contract.Invariant store' →
      contract.Guarantee effect store')
    (continues : ∀ store' clock value, contract.Rely store store' → contract.Invariant store' →
      (machine.exec effect clock store').1 = .ok value →
      contract.Sat machine (next value) (fun _ _ => True) (machine.exec effect clock store').2) :
    contract.Sat machine (Program.exec effect >>= next) (fun _ _ => True) store := by
  intro store' rely invariant
  refine ⟨guarantees store' rely invariant, fun clock => ?_, fun _ _ => ⟨trivial, trivial⟩⟩
  dsimp only
  cases answered : (machine.exec effect clock store').1 with
  | ok value => exact continues store' clock value rely invariant answered
  | error failure => exact trivial

end Contract

namespace System

variable {E R : Type → Type} {ε σ τ A α : Type} {Entry : Type 1}
variable (contract : Contract E R σ) (machine : Machine E R ε σ τ A)

def ThreadSat (store : σ) : Thread E R ε α → Prop
  | .running program => contract.Sat machine program (fun _ _ => True) store
  | .waiting _ beat _ next => contract.Outstanding machine beat next (fun _ _ => True) store
  | .crashed => True

structure Satisfies (system : System E R ε σ α) : Prop where
  invariant : contract.Invariant system.store
  threads : ∀ thread ∈ system.threads, ThreadSat contract machine system.store thread

variable {contract machine}

variable {thread : Thread E R ε α}

theorem ThreadSat.interfere {store store' : σ} (sat : ThreadSat contract machine store thread)
    (rely : contract.Rely store store') :
    ThreadSat contract machine store' thread := by
  cases thread with
  | running program => exact Contract.Sat.interfere sat (fun _ _ _ _ _ => trivial) rely
  | waiting call beat late next =>
    exact fun later rely' invariant => sat later (contract.rely_trans rely rely') invariant
  | crashed => trivial

variable {system : System E R ε σ α}

theorem Satisfies.guarantee (satisfies : Satisfies contract machine system)
    (label : Label Entry ε τ A) (executed : Executed E τ)
    (commits : system.executes label = some executed) :
    contract.Guarantee executed.effect system.store := by
  have rely := contract.rely_refl system.store
  have ofEffect : ∀ index clock, system.effectAt index clock = some executed →
      contract.Guarantee executed.effect system.store := by
    intro index clock found
    unfold effectAt at found
    split at found
    · rename_i effect next here
      cases found
      have sat := satisfies.threads _ (List.mem_of_getElem? here)
      exact (sat system.store rely satisfies.invariant).1
    · cases found
  have ofBeat : ∀ index clock, system.beatAt index clock = some executed →
      contract.Guarantee executed.effect system.store := by
    intro index clock found
    unfold beatAt at found
    split at found
    · rename_i call effect late next here
      cases found
      have sat := satisfies.threads _ (List.mem_of_getElem? here)
      exact (sat system.store rely satisfies.invariant).1 effect rfl
    · cases found
  cases label with
  | perform index clock => exact ofEffect index clock commits
  | beat index clock => exact ofBeat index clock commits
  | fault index clock committed failure =>
    cases committed with
    | true =>
      rcases Option.or_eq_some_iff.mp commits with found | ⟨-, found⟩
      · exact ofEffect index clock found
      · exact ofBeat index clock found
    | false => cases commits
  | spawn entry => cases commits
  | send index => cases commits
  | answer index value => cases commits
  | crash index => cases commits

theorem threads_replace {store' : σ} {index : Nat}
    (threads : ∀ other ∈ system.threads, ThreadSat contract machine system.store other)
    (rely : contract.Rely system.store store') (sat : ThreadSat contract machine store' thread) :
    ∀ other ∈ system.threads.set index thread, ThreadSat contract machine store' other := by
  intro other member
  rcases List.mem_or_eq_of_mem_set member with old | new
  · exact (threads other old).interfere rely
  · rw [new]
    exact sat

variable {program : Entry → Program E R ε α}

theorem step_threads (starts : ∀ entry store, contract.Invariant store →
      contract.Sat machine (program entry) (fun _ _ => True) store)
    (satisfies : Satisfies contract machine system) (label : Label Entry ε τ A)
    (relies : ∀ executed, system.executes label = some executed →
      contract.Rely system.store (executed.after machine system.store)) :
    ∀ thread ∈ (step machine program system label).threads,
      ThreadSat contract machine (step machine program system label).store thread := by
  have refl := contract.rely_refl system.store
  cases label with
  | spawn entry =>
    intro thread member
    rcases List.mem_append.mp member with old | new
    · exact satisfies.threads thread old
    · rw [List.mem_singleton.mp new]
      exact starts entry system.store satisfies.invariant
  | perform index clock =>
    simp only [step, perform]
    split
    · rename_i effect next found
      have sat := satisfies.threads _ (List.mem_of_getElem? found)
      have rely := relies { effect := effect, clock := clock }
        (by simp only [executes, effectAt, found])
      exact threads_replace satisfies.threads rely
        ((sat system.store refl satisfies.invariant).2.1 clock)
    · exact satisfies.threads
  | fault index clock committed failure =>
    simp only [step, fault]
    split
    · rename_i effect next found
      have sat := satisfies.threads _ (List.mem_of_getElem? found)
      have outcome := (sat system.store refl satisfies.invariant).2.2 clock failure
      cases committed with
      | true =>
        have rely := relies { effect := effect, clock := clock }
          (by simp only [executes, effectAt, found, Option.some_or])
        exact threads_replace satisfies.threads rely outcome.2
      | false => exact threads_replace satisfies.threads refl outcome.1
    · rename_i call effect late next found
      have sat := satisfies.threads _ (List.mem_of_getElem? found)
      cases committed with
      | true =>
        have rely := relies { effect := effect, clock := clock }
          (by simp only [executes, effectAt, beatAt, found, Option.none_or])
        exact threads_replace satisfies.threads rely
          (fun later rely' invariant => sat later (contract.rely_trans rely rely') invariant)
      | false => exact threads_replace satisfies.threads refl sat
    · exact satisfies.threads
  | send index =>
    simp only [step, send]
    split
    · rename_i call beat next found
      have sat := satisfies.threads _ (List.mem_of_getElem? found)
      exact threads_replace satisfies.threads refl
        (fun later rely invariant => (sat later rely invariant).2)
    · exact satisfies.threads
  | beat index clock =>
    simp only [step, heartbeat]
    split
    · rename_i call effect late next found
      have sat := satisfies.threads _ (List.mem_of_getElem? found)
      have rely := relies { effect := effect, clock := clock }
        (by simp only [executes, beatAt, found])
      exact threads_replace satisfies.threads rely
        (fun later rely' invariant => sat later (contract.rely_trans rely rely') invariant)
    · exact satisfies.threads
  | answer index value =>
    simp only [step, answer]
    split
    · rename_i call beat late next found
      split
      · rename_i result accepted
        have sat := satisfies.threads _ (List.mem_of_getElem? found)
        exact threads_replace satisfies.threads refl
          ((sat system.store refl satisfies.invariant).2 result late)
      · exact satisfies.threads
    · exact satisfies.threads
  | crash index => exact threads_replace satisfies.threads refl trivial

/-- A run of programs that keep the contract, whose steps the condition lets through, keeps
the invariant and every thread's contract. -/
theorem step_satisfies {C : Executed E τ → σ → Prop}
    (keeps : ∀ executed store, contract.Invariant store →
      contract.Guarantee executed.effect store → C executed store →
      contract.Invariant (executed.after machine store) ∧
        contract.Rely store (executed.after machine store))
    (starts : ∀ entry store, contract.Invariant store →
      contract.Sat machine (program entry) (fun _ _ => True) store) (system : System E R ε σ α)
    (label : Label Entry ε τ A) (satisfies : Satisfies contract machine system)
    (condition : OnCommit C system label) :
    Satisfies contract machine (step machine program system label) := by
  have moves := fun executed commits => keeps executed system.store satisfies.invariant
    (satisfies.guarantee label executed commits) (condition executed commits)
  refine ⟨?_, step_threads starts satisfies label (fun executed commits => (moves _ commits).2)⟩
  rw [step_store]
  cases commits : system.executes label with
  | none => exact satisfies.invariant
  | some executed => exact (moves executed commits).1

end System
