import SdarRuntime.Library.Contract

/-!
Rules for judgements about programs. A judgement is given by what it says of a single transaction
or request; how it passes to a whole program is the same for all of them. A program is traversed
once, for an arbitrary judgement, and the result then serves every judgement made here.
-/

/-- A judgement `Holds before program after`: from stores with `before`, the program ends, if it
ends with a value, in a store with `after` of the value. -/
structure Logic (E R : Type → Type) (ε σ : Type) where
  Holds : {α : Type} → (σ → Prop) → Program E R ε α → (α → σ → Prop) → Prop
  /-- What the store keeps while others run. -/
  Stable : (σ → Prop) → Prop
  done : ∀ {α : Type} {before : σ → Prop} {value : α} {after : α → σ → Prop},
    (∀ store, before store → after value store) → Holds before (.done value) after
  fail : ∀ {α : Type} {before : σ → Prop} {failure : ε} {after : α → σ → Prop},
    Holds before (.fail failure) after
  bind : ∀ {α β : Type} {before : σ → Prop} {first : Program E R ε β} {middle : β → σ → Prop}
    {next : β → Program E R ε α} {after : α → σ → Prop},
    Holds before first middle → (∀ value, Holds (middle value) (next value) after) →
    Holds before (first >>= next) after
  ask : ∀ {β : Type} {before : σ → Prop} (call : R β), Stable before →
    Holds before (Program.ask call) fun _ => before

namespace Contract

variable {E R : Type → Type} {ε σ τ A : Type} (contract : Contract E R σ)
variable (machine : Machine E R ε σ τ A)

def logic (asks : ∀ {β : Type} (call : R β) store, contract.Asks call store) :
    Logic E R ε σ where
  Holds := fun before program after => ∀ store, before store →
    contract.Sat machine program
      (fun result store' => ∀ value, result = .ok value → after value store') store
  Stable := fun fact => ∀ store store', contract.Rely store store' → fact store → fact store'
  done := by
    intro α before value after gives store holds value' same
    cases same
    exact gives store holds
  fail := by
    intro α before failure after store holds value same
    cases same
  bind := by
    intro α β before first middle next after firstHolds nextHolds store holds
    apply sat_bind.mpr
    apply (firstHolds store holds).mono
    intro result store' given
    cases result with
    | ok value => exact nextHolds value store' (given value rfl)
    | error failure =>
      intro value same
      cases same
  ask := by
    intro β before call stable store holds store' rely invariant
    refine ⟨asks call store', fun effect isBeat => (nomatch isBeat), fun result late => ?_⟩
    have kept := stable store store' rely holds
    cases result with
    | ok value =>
      intro value' same
      exact kept
    | error failure =>
      intro value' same
      cases same

end Contract
