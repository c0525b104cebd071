import Mathlib.Init

/-!
Reducers: a state that takes one event after another and may refuse one. What every step keeps
a run keeps, and a reducer that recognises an event it has taken may be given it again.
-/

universe u v w

namespace Reducer

variable {σ : Type u} {ε : Type v} {χ : Type w}

def reduceAll (reduce : σ → ε → Except χ σ) : σ → List ε → Except χ σ
  | state, [] => .ok state
  | state, event :: later =>
    match reduce state event with
    | .ok next => reduceAll reduce next later
    | .error reason => .error reason

variable {reduce : σ → ε → Except χ σ}

theorem reduceAll_cons_eq_ok {state final : σ} {event : ε} {later : List ε} :
    reduceAll reduce state (event :: later) = .ok final ↔
      ∃ next, reduce state event = .ok next ∧ reduceAll reduce next later = .ok final := by
  cases stepped : reduce state event with
  | error reason => simp [reduceAll, stepped]
  | ok next => simp [reduceAll, stepped]

theorem reduceAll_append_eq_ok {state final : σ} {earlier later : List ε} :
    reduceAll reduce state (earlier ++ later) = .ok final ↔
      ∃ middle, reduceAll reduce state earlier = .ok middle ∧
        reduceAll reduce middle later = .ok final := by
  induction earlier generalizing state with
  | nil => simp [reduceAll]
  | cons event rest ih =>
    rw [List.cons_append, reduceAll_cons_eq_ok]
    constructor
    · rintro ⟨next, stepped, ran⟩
      obtain ⟨middle, first, second⟩ := ih.mp ran
      exact ⟨middle, reduceAll_cons_eq_ok.mpr ⟨next, stepped, first⟩, second⟩
    · rintro ⟨middle, first, second⟩
      obtain ⟨next, stepped, ran⟩ := reduceAll_cons_eq_ok.mp first
      exact ⟨next, stepped, ih.mpr ⟨middle, ran, second⟩⟩

/-- A relation that every accepted event keeps, and that composes, holds across a run. -/
theorem reduceAll_related {Related : σ → σ → Prop} (related : ∀ state, Related state state)
    (compose : ∀ {first second third}, Related first second → Related second third →
      Related first third)
    (step : ∀ {state event next}, reduce state event = .ok next → Related state next)
    {state final : σ} {events : List ε} (ran : reduceAll reduce state events = .ok final) :
    Related state final := by
  induction events generalizing state with
  | nil =>
    cases ran
    exact related _
  | cons event later ih =>
    obtain ⟨next, stepped, rest⟩ := reduceAll_cons_eq_ok.mp ran
    exact compose (step stepped) (ih rest)

/-- The second list delivers the first one's events in order, and again, at any place and any
number of times, events that came before. -/
inductive Redelivered : List ε → List ε → List ε → Prop
  | done (past : List ε) : Redelivered past [] []
  | event {past events delivered : List ε} (event : ε)
      (rest : Redelivered (event :: past) events delivered) :
      Redelivered past (event :: events) (event :: delivered)
  | again {past events delivered : List ε} {event : ε} (before : event ∈ past)
      (rest : Redelivered past events delivered) :
      Redelivered past events (event :: delivered)

/-- The reducer keeps track of the events it has taken, and leaves the state as it is when it
is given one of them. -/
structure Deduplicates (reduce : σ → ε → Except χ σ) (Taken : σ → ε → Prop) : Prop where
  taken : ∀ {state event next}, reduce state event = .ok next → Taken next event
  kept : ∀ {state event other next}, Taken state event → reduce state other = .ok next →
    Taken next event
  absorbed : ∀ {state event}, Taken state event → reduce state event = .ok state

theorem Deduplicates.redelivered {Taken : σ → ε → Prop} (dedup : Deduplicates reduce Taken)
    {past events delivered : List ε} (again : Redelivered past events delivered)
    {state final : σ} (past_taken : ∀ event, event ∈ past → Taken state event)
    (ran : reduceAll reduce state events = .ok final) :
    reduceAll reduce state delivered = .ok final := by
  induction again generalizing state with
  | done past => exact ran
  | @event past events delivered event rest ih =>
    obtain ⟨next, stepped, later⟩ := reduceAll_cons_eq_ok.mp ran
    have taken : ∀ other, other ∈ event :: past → Taken next other := by
      intro other member
      rcases List.mem_cons.mp member with isEvent | before
      · rw [isEvent]
        exact dedup.taken stepped
      · exact dedup.kept (past_taken other before) stepped
    exact reduceAll_cons_eq_ok.mpr ⟨next, stepped, ih taken later⟩
  | again before rest ih =>
    have absorbed := dedup.absorbed (past_taken _ before)
    exact reduceAll_cons_eq_ok.mpr ⟨state, absorbed, ih past_taken ran⟩

end Reducer
