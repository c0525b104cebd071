import SdarRuntime.Library.Program

/-!
A program that runs on its own: no other program moves the store, the store fails no transaction,
and every request gets an answer of the hoped-for kind. `Alone` are the runs, `Succeeds` says what
every one of them comes to, and each of them is a run of a system in which nothing else moves.
-/

namespace Program

variable {E R : Type → Type} {ε σ τ A α β : Type}

/-- A run of a program on its own, from a store to its outcome and the store it leaves. -/
inductive Alone (machine : Machine E R ε σ τ A) (Good : {β : Type} → R β → β → Prop) :
    Program E R ε α → σ → Except ε α → σ → Prop
  | done (value : α) (store : σ) : Alone machine @Good (.done value) store (.ok value) store
  | fail (failure : ε) (store : σ) : Alone machine @Good (.fail failure) store (.error failure) store
  | transact {β : Type} {effect : E β} {next : Except ε β → Program E R ε α} {store final : σ}
      {outcome : Except ε α} (clock : τ)
      (rest : Alone machine @Good (next (machine.exec effect clock store).1)
        (machine.exec effect clock store).2 outcome final) :
      Alone machine @Good (.transact effect next) store outcome final
  | request {β : Type} {call : R β} {beat : Option (E Unit)}
      {next : Except ε β → Option ε → Program E R ε α} {store final : σ}
      {outcome : Except ε α} (value : β) (good : Good call value)
      (rest : Alone machine @Good (next (.ok value) none) store outcome final) :
      Alone machine @Good (.request call beat next) store outcome final

/-- Every run of the program on its own ends with a value, and in `Post`. -/
def Succeeds (machine : Machine E R ε σ τ A) (Good : {β : Type} → R β → β → Prop) :
    Program E R ε α → (α → σ → Prop) → σ → Prop
  | .done value, Post, store => Post value store
  | .fail _, _, _ => False
  | .transact effect next, Post, store =>
    ∀ clock, Succeeds machine Good (next (machine.exec effect clock store).1) Post
      (machine.exec effect clock store).2
  | .request call _ next, Post, store =>
    ∀ value, Good call value → Succeeds machine Good (next (.ok value) none) Post store

variable {machine : Machine E R ε σ τ A} {Good : {β : Type} → R β → β → Prop}

variable {program : Program E R ε α} {store : σ}

theorem Succeeds.mono {Post Weaker : α → σ → Prop}
    (succeeds : program.Succeeds machine Good Post store)
    (weaker : ∀ value store, Post value store → Weaker value store) :
    program.Succeeds machine Good Weaker store := by
  induction program generalizing store with
  | done value => exact weaker value store succeeds
  | fail failure => exact succeeds
  | transact effect next ih => exact fun clock => ih _ (succeeds clock)
  | request call beat next ih => exact fun value good => ih _ _ (succeeds value good)

variable {Post : α → σ → Prop}

theorem succeeds_bind {first : Program E R ε β} {next : β → Program E R ε α} {Middle : β → σ → Prop}
    (firstSucceeds : first.Succeeds machine Good Middle store)
    (nextSucceeds : ∀ value store', Middle value store' →
      (next value).Succeeds machine Good Post store') :
    (first >>= next).Succeeds machine Good Post store := by
  change (first.andThen next).Succeeds machine Good Post store
  induction first generalizing store with
  | done value => exact nextSucceeds value store firstSucceeds
  | fail failure => exact firstSucceeds.elim
  | transact effect rest ih => exact fun clock => ih _ (firstSucceeds clock)
  | request call beat rest ih => exact fun value good => ih _ _ (firstSucceeds value good)

theorem succeeds_attempt {body : Program E R ε α} {handler : ε → Program E R ε α}
    (succeeds : body.Succeeds machine Good Post store) :
    (body.attempt handler).Succeeds machine Good Post store := by
  induction body generalizing store with
  | done value => exact succeeds
  | fail failure => exact succeeds.elim
  | transact effect rest ih => exact fun clock => ih _ (succeeds clock)
  | request call beat rest ih => exact fun value good => ih _ _ (succeeds value good)

theorem succeeds_exec {effect : E α}
    (succeeds : ∀ clock, ∃ value, (machine.exec effect clock store).1 = .ok value ∧
      Post value (machine.exec effect clock store).2) :
    (exec effect).Succeeds machine Good Post store := by
  intro clock
  obtain ⟨value, answered, post⟩ := succeeds clock
  rw [answered]
  exact post

theorem succeeds_ask {call : R α} (succeeds : ∀ value, Good call value → Post value store) :
    (ask call).Succeeds machine Good Post store :=
  succeeds

theorem succeeds_ofExcept {result : Except ε α} {value : α} (isOk : result = .ok value)
    (post : Post value store) :
    (ofExcept result).Succeeds machine Good Post store := by
  rw [isOk]
  exact post

theorem Succeeds.outcome {store final : σ} {outcome : Except ε α}
    (succeeds : program.Succeeds machine Good Post store)
    (alone : Alone machine Good program store outcome final) :
    ∃ value, outcome = .ok value ∧ Post value final := by
  induction alone with
  | done value store => exact ⟨value, rfl, succeeds⟩
  | fail failure store => exact succeeds.elim
  | transact clock rest ih => exact ih (succeeds clock)
  | request value good rest ih => exact ih (succeeds value good)

theorem exists_alone [Nonempty τ] (answers : ∀ {β : Type} (call : R β), ∃ value, Good call value)
    (program : Program E R ε α) (store : σ) :
    ∃ outcome final, Alone machine Good program store outcome final := by
  induction program generalizing store with
  | done value => exact ⟨_, _, .done value store⟩
  | fail failure => exact ⟨_, _, .fail failure store⟩
  | transact effect next ih =>
    obtain ⟨clock⟩ := ‹Nonempty τ›
    obtain ⟨outcome, final, rest⟩ := ih (machine.exec effect clock store).1
      (machine.exec effect clock store).2
    exact ⟨outcome, final, .transact clock rest⟩
  | request call beat next ih =>
    obtain ⟨value, good⟩ := answers call
    obtain ⟨outcome, final, rest⟩ := ih (.ok value) none store
    exact ⟨outcome, final, .request value good rest⟩

end Program
