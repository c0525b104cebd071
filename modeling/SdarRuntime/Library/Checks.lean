import Mathlib.Init

/-!
Computations that may refuse: what follows when a sequence of checks, or a loop of them, comes
to its end.
-/

universe u v

namespace Except

variable {ε : Type u} {α β : Type v}

theorem bind_eq_ok {first : Except ε α} {next : α → Except ε β} {value : β} :
    (first >>= next) = .ok value ↔ ∃ middle, first = .ok middle ∧ next middle = .ok value := by
  cases first with
  | error reason =>
    constructor
    · intro impossible
      cases impossible
    · rintro ⟨middle, impossible, -⟩
      cases impossible
  | ok middle =>
    constructor
    · intro continued
      exact ⟨middle, rfl, continued⟩
    · rintro ⟨other, same, continued⟩
      cases same
      exact continued

theorem pure_eq_ok {first second : α} : (pure first : Except ε α) = .ok second ↔ first = second :=
  Except.ok.injEq first second ▸ Iff.rfl

theorem toOption_eq_some {result : Except ε α} {value : α} :
    result.toOption = some value ↔ result = .ok value := by
  cases result with
  | error reason => simp [Except.toOption]
  | ok other => simp [Except.toOption]

def refuse {ε : Type u} (condition : Prop) [Decidable condition] (error : ε) :
    Except ε PUnit.{v + 1} :=
  if condition then .error error else .ok ⟨⟩

theorem refuse_eq_ok {ε : Type u} {condition : Prop} [Decidable condition] {error : ε}
    {passed : PUnit.{v + 1}} : refuse condition error = .ok passed ↔ ¬ condition := by
  unfold refuse
  by_cases holds : condition
  · simp [holds]
  · simp [holds]

theorem forM_eq_ok {α : Type v} {ε : Type u} {items : List α} {check : α → Except ε PUnit} :
    forM items check = .ok ⟨⟩ ↔ ∀ item, item ∈ items → check item = .ok ⟨⟩ := by
  induction items with
  | nil => simp [List.forM_nil, pure, Except.pure]
  | cons item rest ih =>
    rw [List.forM_cons, bind_eq_ok]
    constructor
    · rintro ⟨_, checked, later⟩ other member
      rcases List.mem_cons.mp member with isItem | inRest
      · rw [isItem]
        exact checked
      · exact ih.mp later other inRest
    · intro all
      exact ⟨⟨⟩, all item List.mem_cons_self,
        ih.mpr fun other member => all other (List.mem_cons_of_mem item member)⟩

theorem mapM_cases {α : Type v} {β : Type v} {ε : Type u} (read : α → Except ε β)
    (items : List α) :
    (∃ failure, items.mapM read = .error failure ∧ ∃ item ∈ items, read item = .error failure) ∨
      ∃ values, items.mapM read = .ok values ∧
        (∀ item ∈ items, ∃ value ∈ values, read item = .ok value) ∧
        ∀ value ∈ values, ∃ item ∈ items, read item = .ok value := by
  induction items with
  | nil => exact Or.inr ⟨[], rfl, nofun, nofun⟩
  | cons item rest ih =>
    rw [List.mapM_cons]
    cases first : read item with
    | error failure => exact Or.inl ⟨failure, rfl, item, List.mem_cons_self, first⟩
    | ok value =>
      rcases ih with ⟨failure, isFailure, other, member, failed⟩ | ⟨values, areValues, forth, back⟩
      · rw [isFailure]
        exact Or.inl ⟨failure, rfl, other, List.mem_cons_of_mem item member, failed⟩
      · rw [areValues]
        refine Or.inr ⟨value :: values, rfl, ?_, ?_⟩
        · intro other member
          rcases List.mem_cons.mp member with rfl | inRest
          · exact ⟨value, List.mem_cons_self, first⟩
          · obtain ⟨found, isFound, isRead⟩ := forth other inRest
            exact ⟨found, List.mem_cons_of_mem value isFound, isRead⟩
        · intro other member
          rcases List.mem_cons.mp member with rfl | inRest
          · exact ⟨item, List.mem_cons_self, first⟩
          · obtain ⟨found, isFound, isRead⟩ := back other inRest
            exact ⟨found, List.mem_cons_of_mem item isFound, isRead⟩

theorem foldlM_keeps {α : Type v} {ε : Type u} {σ : Type v} {step : σ → α → Except ε σ}
    {Holds : σ → Prop} {items : List α}
    (keeps : ∀ {state item next}, item ∈ items → Holds state → step state item = .ok next →
      Holds next)
    {state final : σ} (holds : Holds state) (ran : items.foldlM step state = .ok final) :
    Holds final := by
  induction items generalizing state with
  | nil =>
    cases ran
    exact holds
  | cons item rest ih =>
    rw [List.foldlM_cons, bind_eq_ok] at ran
    obtain ⟨next, stepped, later⟩ := ran
    exact ih (fun member => keeps (List.mem_cons_of_mem item member))
      (keeps List.mem_cons_self holds stepped) later

end Except
