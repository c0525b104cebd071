import Mathlib.Logic.Relation
import Mathlib.Order.Defs.Unbundled

/-!
Transactions over a shared store. A transaction either commits, with an answer and
the next store, or aborts and leaves the store as it was. `Respects R` says that
every commit moves the store along `R`; its rules follow the syntax of the
transaction, so a proof reads like the transaction it is about.
-/

/-- A transaction over stores `σ`: an answer with the next store, or an abort. -/
def Transaction (σ ε α : Type) : Type := σ → Except ε (α × σ)

namespace Transaction

variable {σ ε α β : Type}

instance : Monad (Transaction σ ε) where
  pure value store := .ok (value, store)
  bind first next store :=
    match first store with
    | .ok (value, store') => next value store'
    | .error failure => .error failure

def abort (failure : ε) : Transaction σ ε α := fun _ => .error failure

def read : Transaction σ ε σ := fun store => .ok (store, store)

def update (change : σ → σ) : Transaction σ ε Unit := fun store => .ok ((), change store)

def lift : Except ε α → Transaction σ ε α
  | .ok value => pure value
  | .error failure => abort failure

def when (condition : Prop) [Decidable condition] (body : Transaction σ ε Unit) :
    Transaction σ ε Unit :=
  if condition then body else pure ()

def forEach : List α → (α → Transaction σ ε Unit) → Transaction σ ε Unit
  | [], _ => pure ()
  | item :: rest, body => do
    body item
    forEach rest body

/-- Answer an abort the handler knows with a value; the store is as it was before. -/
def rescue (tx : Transaction σ ε α) (handler : ε → Option α) : Transaction σ ε α := fun store =>
  match tx store with
  | .ok result => .ok result
  | .error failure =>
    match handler failure with
    | some value => .ok (value, store)
    | none => .error failure

def commit (tx : Transaction σ ε α) (store : σ) : Except ε α × σ :=
  match tx store with
  | .ok (value, store') => (.ok value, store')
  | .error failure => (.error failure, store)

variable {store store' : σ}

theorem pure_eq_ok {value answer : α} :
    (pure value : Transaction σ ε α) store = .ok (answer, store') ↔
      value = answer ∧ store = store' := by
  constructor
  · intro committed
    cases committed
    exact ⟨rfl, rfl⟩
  · rintro ⟨rfl, rfl⟩
    rfl

variable {first : Transaction σ ε α}

theorem bind_eq_ok {next : α → Transaction σ ε β} {answer : β} :
    (first >>= next) store = .ok (answer, store') ↔
      ∃ value middle, first store = .ok (value, middle) ∧
        next value middle = .ok (answer, store') := by
  simp only [bind]
  cases ran : first store with
  | error failure => simp
  | ok result =>
    obtain ⟨value, middle⟩ := result
    constructor
    · intro committed
      exact ⟨value, middle, rfl, committed⟩
    · rintro ⟨_, _, same, committed⟩
      cases same
      exact committed

theorem bind_of_ok {next : α → Transaction σ ε β} {store middle : σ} {value : α}
    (committed : first store = .ok (value, middle)) :
    (first >>= next) store = next value middle := by
  simp only [bind, committed]

variable {next : σ → Transaction σ ε β} {store : σ}

theorem read_bind :
    (read >>= next) store = next store store := rfl

variable {change : σ → σ}

theorem update_bind {next : Unit → Transaction σ ε β} :
    (update change >>= next) store = next () (change store) := rfl

variable {failure : ε} {answer : α}

theorem abort_eq_ok :
    (abort failure : Transaction σ ε α) store = .ok (answer, store') ↔ False := by
  simp [abort]

theorem read_eq_ok {store store' answer : σ} :
    (read : Transaction σ ε σ) store = .ok (answer, store') ↔
      store = answer ∧ store = store' := by
  simp [read]

theorem update_eq_ok {answer : Unit} :
    (update change : Transaction σ ε Unit) store = .ok (answer, store') ↔
      change store = store' := by
  simp [update]

theorem lift_eq_ok {result : Except ε α} :
    lift result store = .ok (answer, store') ↔ result = .ok answer ∧ store = store' := by
  cases result with
  | error failure => exact ⟨nofun, nofun⟩
  | ok value =>
    constructor
    · intro committed
      cases committed
      exact ⟨rfl, rfl⟩
    · rintro ⟨same, rfl⟩
      cases same
      rfl

variable {tx : Transaction σ ε α}

theorem commit_of_ok (committed : tx store = .ok (answer, store')) :
    tx.commit store = (.ok answer, store') := by
  simp [commit, committed]

theorem commit_of_error (aborted : tx store = .error failure) :
    tx.commit store = (.error failure, store) := by
  simp [commit, aborted]

theorem commit_ok_iff :
    (tx.commit store).1 = .ok answer ↔ tx store = .ok (answer, (tx.commit store).2) := by
  unfold commit
  split <;> simp_all

theorem commit_keeps {Holds : σ → Prop} (holds : Holds store)
    (keeps : ∀ answer store', tx store = .ok (answer, store') → Holds store') :
    Holds (tx.commit store).2 := by
  unfold commit
  split
  · rename_i answer store' committed
    exact keeps answer store' committed
  · exact holds

/-- Every commit moves the store along `R`. -/
def Respects (R : σ → σ → Prop) (tx : Transaction σ ε α) : Prop :=
  ∀ store answer store', tx store = .ok (answer, store') → R store store'

variable {R S : σ → σ → Prop}

theorem Respects.mono (respects : Respects R tx)
    (weaker : ∀ store store', R store store' → S store store') : Respects S tx :=
  fun store answer store' committed => weaker _ _ (respects store answer store' committed)

theorem Respects.keeps {P : σ → Prop} (respects : Respects (Relation.ReflTransGen R) tx)
    (step : ∀ store store', R store store' → P store → P store')
    (committed : tx store = .ok (answer, store')) (holds : P store) :
    P store' := by
  have steps := respects store answer store' committed
  clear committed
  induction steps with
  | refl => exact holds
  | tail earlier last ih => exact step _ _ last ih

theorem Respects.of_steps [Std.Refl R] [IsTrans σ R]
    (respects : Respects (Relation.ReflTransGen S) tx)
    (step : ∀ store store', S store store' → R store store') : Respects R tx := by
  refine respects.mono fun store store' steps => ?_
  induction steps with
  | refl => exact refl_of R store
  | tail earlier last ih => exact trans_of R ih (step _ _ last)

theorem respects_pure [Std.Refl R] (value : α) :
    Respects R (pure value : Transaction σ ε α) := by
  intro store answer store' committed
  obtain ⟨-, rfl⟩ := pure_eq_ok.mp committed
  exact refl_of R store

theorem respects_bind [IsTrans σ R] {next : α → Transaction σ ε β}
    (firstRespects : Respects R first) (nextRespects : ∀ value, Respects R (next value)) :
    Respects R (first >>= next) := by
  intro store answer store' committed
  obtain ⟨value, middle, ran, rest⟩ := bind_eq_ok.mp committed
  exact trans_of R (firstRespects store value middle ran)
    (nextRespects value middle answer store' rest)

theorem respects_abort (failure : ε) :
    Respects R (abort failure : Transaction σ ε α) := by
  intro store answer store' committed
  exact (abort_eq_ok.mp committed).elim

theorem respects_read [Std.Refl R] : Respects R (read : Transaction σ ε σ) := by
  intro store answer store' committed
  obtain ⟨-, rfl⟩ := read_eq_ok.mp committed
  exact refl_of R store

theorem respects_update (moves : ∀ store, R store (change store)) :
    Respects R (update change : Transaction σ ε Unit) := by
  intro store answer store' committed
  rw [← update_eq_ok.mp committed]
  exact moves store

variable {condition : Prop}

theorem respects_ite [Decidable condition] {yes no : Transaction σ ε α}
    (yesRespects : condition → Respects R yes) (noRespects : ¬condition → Respects R no) :
    Respects R (if condition then yes else no) := by
  by_cases holds : condition
  · rw [if_pos holds]
    exact yesRespects holds
  · rw [if_neg holds]
    exact noRespects holds

theorem respects_when [Std.Refl R] [Decidable condition] {body : Transaction σ ε Unit}
    (bodyRespects : condition → Respects R body) :
    Respects R (when condition body) :=
  respects_ite bodyRespects (fun _ => respects_pure ())

theorem respects_forEach [Std.Refl R] [IsTrans σ R] {items : List α}
    {body : α → Transaction σ ε Unit}
    (bodyRespects : ∀ item ∈ items, Respects R (body item)) :
    Respects R (forEach items body) := by
  induction items with
  | nil => exact respects_pure ()
  | cons item rest ih =>
    refine respects_bind (bodyRespects item List.mem_cons_self) (fun _ => ?_)
    exact ih (fun other member => bodyRespects other (List.mem_cons_of_mem _ member))

theorem respects_rescue [Std.Refl R] {handler : ε → Option α} (respects : Respects R tx) :
    Respects R (tx.rescue handler) := by
  intro store answer store' committed
  unfold rescue at committed
  split at committed
  · rename_i result ran
    cases committed
    exact respects store answer store' ran
  · split at committed
    · cases committed
      exact refl_of R store
    · cases committed

theorem respects_read_bind
    (nextMoves : ∀ store answer store', next store store = .ok (answer, store') → R store store') :
    Respects R (read >>= next) := by
  intro store answer store' committed
  obtain ⟨value, middle, ran, rest⟩ := bind_eq_ok.mp committed
  obtain ⟨rfl, rfl⟩ := read_eq_ok.mp ran
  exact nextMoves store answer store' rest

theorem Respects.commit [Std.Refl R] (respects : Respects R tx) (store : σ) :
    R store (tx.commit store).2 := by
  unfold Transaction.commit
  split
  · rename_i answer store' committed
    exact respects store answer store' committed
  · exact refl_of R store

end Transaction
