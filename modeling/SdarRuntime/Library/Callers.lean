import SdarRuntime.Library.Program

/-!
Which program a thread runs. The threads of a system are in the order they were spawned in, so
what is known of the program of an entry is known of the thread at its place.
-/

variable {E R : Type → Type} {ε σ τ A α : Type} {Entry : Type 1}

inductive Thread.Acts (machine : Machine E R ε σ τ A) (store : σ) :
    Thread E R ε α → σ → Thread E R ε α → Prop where
  | perform {β : Type} (effect : E β) (next : Except ε β → Program E R ε α) (clock : τ) :
      Thread.Acts machine store (.running (.transact effect next))
        (machine.exec effect clock store).2
        (.running (next (machine.exec effect clock store).1))
  | fault {β : Type} (effect : E β) (next : Except ε β → Program E R ε α) (clock : τ)
      (committed : Bool) (failure : ε) :
      Thread.Acts machine store (.running (.transact effect next))
        (if committed then (machine.exec effect clock store).2 else store)
        (.running (next (.error failure)))
  | faultBeat {β : Type} (call : R β) (effect : E Unit) (late : Option ε)
      (next : Except ε β → Option ε → Program E R ε α) (clock : τ) (committed : Bool)
      (failure : ε) :
      Thread.Acts machine store (.waiting call (some effect) late next)
        (if committed then (machine.exec effect clock store).2 else store)
        (.waiting call (some effect) (some failure) next)
  | send {β : Type} (call : R β) (beat : Option (E Unit))
      (next : Except ε β → Option ε → Program E R ε α) :
      Thread.Acts machine store (.running (.request call beat next)) store
        (.waiting call beat none next)
  | beat {β : Type} (call : R β) (effect : E Unit) (late later : Option ε)
      (next : Except ε β → Option ε → Program E R ε α) (clock : τ) :
      Thread.Acts machine store (.waiting call (some effect) late next)
        (machine.exec effect clock store).2 (.waiting call (some effect) later next)
  | answer {β : Type} (call : R β) (beat : Option (E Unit)) (late : Option ε)
      (next : Except ε β → Option ε → Program E R ε α) (result : Except ε β) :
      Thread.Acts machine store (.waiting call beat late next) store
        (.running (next result late))
  | crash (thread : Thread E R ε α) : Thread.Acts machine store thread store .crashed

namespace Thread.Acts

variable {machine : Machine E R ε σ τ A} {store store' : σ} {thread' : Thread E R ε α} {β : Type}

theorem of_transact {effect : E β} {next : Except ε β → Program E R ε α}
    (acts : Thread.Acts machine store (.running (.transact effect next)) store' thread') :
    (∃ clock, store' = (machine.exec effect clock store).2 ∧
      thread' = .running (next (machine.exec effect clock store).1)) ∨
    (∃ clock, ∃ committed : Bool, ∃ failure,
      store' = (if committed then (machine.exec effect clock store).2 else store) ∧
        thread' = .running (next (.error failure))) ∨
    store' = store ∧ thread' = .crashed := by
  cases acts with
  | perform _ _ clock => exact .inl ⟨clock, rfl, rfl⟩
  | fault _ _ clock committed failure => exact .inr (.inl ⟨clock, committed, failure, rfl, rfl⟩)
  | crash => exact .inr (.inr ⟨rfl, rfl⟩)

variable {call : R β} {next : Except ε β → Option ε → Program E R ε α}

theorem of_request {beat : Option (E Unit)}
    (acts : Thread.Acts machine store (.running (.request call beat next)) store' thread') :
    store' = store ∧ (thread' = .waiting call beat none next ∨ thread' = .crashed) := by
  cases acts with
  | send => exact ⟨rfl, .inl rfl⟩
  | crash => exact ⟨rfl, .inr rfl⟩

theorem of_waiting {late : Option ε}
    (acts : Thread.Acts machine store (.waiting call none late next) store' thread') :
    store' = store ∧ ((∃ result, thread' = .running (next result late)) ∨ thread' = .crashed) := by
  cases acts with
  | answer _ _ _ _ result => exact ⟨rfl, .inl ⟨result, rfl⟩⟩
  | crash => exact ⟨rfl, .inr rfl⟩

theorem of_done {value : α}
    (acts : Thread.Acts machine store (.running (.done value)) store' thread') :
    store' = store ∧ thread' = .crashed := by
  cases acts with
  | crash => exact ⟨rfl, rfl⟩

theorem of_fail {failure : ε}
    (acts : Thread.Acts machine store (.running (.fail failure)) store' thread') :
    store' = store ∧ thread' = .crashed := by
  cases acts with
  | crash => exact ⟨rfl, rfl⟩

theorem of_crashed (acts : Thread.Acts machine store .crashed store' thread') :
    store' = store ∧ thread' = .crashed := by
  cases acts with
  | crash => exact ⟨rfl, rfl⟩

end Thread.Acts

namespace System

variable {machine : Machine E R ε σ τ A} {program : Entry → Program E R ε α}

def spawned : List (Label Entry ε τ A) → List Entry
  | [] => []
  | .spawn entry :: rest => entry :: spawned rest
  | _ :: rest => spawned rest

variable (machine program) in
theorem step_cases (system : System E R ε σ α) (label : Label Entry ε τ A) :
    step machine program system label = system ∧ spawned [label] = [] ∨
    (∃ entry, label = .spawn entry ∧ step machine program system label =
      { system with threads := system.threads ++ [.running (program entry)] }) ∨
    ∃ index thread store' thread', system.threads[index]? = some thread ∧
      Thread.Acts machine system.store thread store' thread' ∧ spawned [label] = [] ∧
        step machine program system label =
          { store := store', threads := system.threads.set index thread' } := by
  cases label with
  | spawn entry => exact .inr (.inl ⟨entry, rfl, rfl⟩)
  | perform index clock =>
    simp only [step, perform]
    split
    · rename_i effect next found
      exact .inr (.inr ⟨index, _, _, _, found, .perform effect next clock, rfl, rfl⟩)
    · exact .inl ⟨rfl, rfl⟩
  | fault index clock committed failure =>
    simp only [step, fault]
    split
    · rename_i effect next found
      exact .inr (.inr ⟨index, _, _, _, found, .fault effect next clock committed failure,
        rfl, rfl⟩)
    · rename_i call effect late next found
      exact .inr (.inr ⟨index, _, _, _, found,
        .faultBeat call effect late next clock committed failure, rfl, rfl⟩)
    · exact .inl ⟨rfl, rfl⟩
  | send index =>
    simp only [step, send]
    split
    · rename_i call beat next found
      exact .inr (.inr ⟨index, _, _, _, found, .send call beat next, rfl, rfl⟩)
    · exact .inl ⟨rfl, rfl⟩
  | beat index clock =>
    simp only [step, heartbeat]
    split
    · rename_i call effect late next found
      exact .inr (.inr ⟨index, _, _, _, found, .beat call effect late _ next clock, rfl, rfl⟩)
    · exact .inl ⟨rfl, rfl⟩
  | answer index value =>
    simp only [step, answer]
    split
    · rename_i call beat late next found
      split
      · rename_i result accepted
        exact .inr (.inr ⟨index, _, _, _, found, .answer call beat late next result, rfl, rfl⟩)
      · exact .inl ⟨rfl, rfl⟩
    · exact .inl ⟨rfl, rfl⟩
  | crash index =>
    simp only [step]
    cases found : system.threads[index]? with
    | none =>
      have outside := List.getElem?_eq_none_iff.mp found
      rw [List.set_eq_of_length_le outside]
      exact .inl ⟨rfl, rfl⟩
    | some thread =>
      exact .inr (.inr ⟨index, thread, _, _, found, .crash thread, rfl, rfl⟩)

/-- The thread at the place of each entry is as `Fits` says. -/
structure Fitting (Fits : Entry → σ → Thread E R ε α → Prop) (system : System E R ε σ α)
    (entries : List Entry) : Prop where
  length : entries.length = system.threads.length
  fits : ∀ (index : Nat) entry thread, entries[index]? = some entry →
    system.threads[index]? = some thread → Fits entry system.store thread

/-- What one thread may rely on of the others, and what each does for them. -/
structure Cooperates (machine : Machine E R ε σ τ A) (program : Entry → Program E R ε α)
    (Rely : σ → σ → Prop) (Fits : Entry → σ → Thread E R ε α → Prop) : Prop where
  starts : ∀ entry store, Fits entry store (.running (program entry))
  stable : ∀ entry store store' thread, Fits entry store thread → Rely store store' →
    Fits entry store' thread
  acts : ∀ entry store thread store' thread', Fits entry store thread →
    Thread.Acts machine store thread store' thread' → Fits entry store' thread' ∧ Rely store store'

variable {Rely : σ → σ → Prop} {Fits : Entry → σ → Thread E R ε α → Prop}

theorem fitting_initial (store : σ) : Fitting Fits (initial store) [] where
  length := rfl
  fits := by
    intro index entry thread isEntry
    cases isEntry

variable {system : System E R ε σ α} {entries : List Entry}

theorem step_fitting [Std.Refl Rely] (cooperates : Cooperates machine program Rely Fits)
    (fitting : Fitting Fits system entries) (label : Label Entry ε τ A) :
    Fitting Fits (step machine program system label) (entries ++ spawned [label]) ∧
      Rely system.store (step machine program system label).store := by
  rcases step_cases machine program system label with
    ⟨same, noEntry⟩ | ⟨entry, rfl, isStep⟩ | ⟨acting, before, store', after, found, acts, noEntry,
      isStep⟩
  · rw [same, noEntry, List.append_nil]
    exact ⟨fitting, refl_of Rely _⟩
  · rw [isStep]
    refine ⟨⟨?_, ?_⟩, refl_of Rely _⟩
    · simp [spawned, fitting.length]
    · intro index other thread isEntry isThread
      have bound := (List.getElem?_eq_some_iff.mp isThread).1
      simp only [List.length_append, List.length_singleton] at bound
      by_cases old : index < system.threads.length
      · rw [List.getElem?_append_left (by rw [fitting.length]; exact old)] at isEntry
        rw [List.getElem?_append_left old] at isThread
        exact fitting.fits index other thread isEntry isThread
      · have new : index = system.threads.length := by omega
        subst new
        change (entries ++ [entry])[system.threads.length]? = some other at isEntry
        rw [← fitting.length, List.getElem?_concat_length] at isEntry
        rw [List.getElem?_concat_length] at isThread
        cases isEntry
        cases isThread
        exact cooperates.starts entry system.store
  · rw [isStep, noEntry, List.append_nil]
    have inside := (List.getElem?_eq_some_iff.mp found).1
    obtain ⟨own, isOwn⟩ : ∃ own, entries[acting]? = some own := by
      rw [← fitting.length] at inside
      exact ⟨entries[acting], List.getElem?_eq_getElem inside⟩
    obtain ⟨fits, relies⟩ := cooperates.acts own _ before _ after
      (fitting.fits acting own before isOwn found) acts
    refine ⟨⟨?_, ?_⟩, relies⟩
    · rw [List.length_set]
      exact fitting.length
    · intro index entry thread isEntry isThread
      by_cases same : acting = index
      · subst same
        rw [List.getElem?_set_self inside] at isThread
        rw [isOwn] at isEntry
        cases isEntry
        cases isThread
        exact fits
      · rw [List.getElem?_set_ne same] at isThread
        exact cooperates.stable entry _ _ thread
          (fitting.fits index entry thread isEntry isThread) relies

theorem spawned_cons (label : Label Entry ε τ A) (rest : List (Label Entry ε τ A)) :
    spawned (label :: rest) = spawned [label] ++ spawned rest := by
  cases label <;> rfl

theorem run_fitting [Std.Refl Rely] [IsTrans σ Rely]
    (cooperates : Cooperates machine program Rely Fits) (fitting : Fitting Fits system entries)
    (labels : List (Label Entry ε τ A)) :
    Fitting Fits (run machine program system labels) (entries ++ spawned labels) ∧
      Rely system.store (run machine program system labels).store := by
  induction labels generalizing system entries with
  | nil =>
    rw [spawned, List.append_nil]
    exact ⟨fitting, refl_of Rely _⟩
  | cons label rest ih =>
    obtain ⟨first, relies⟩ := step_fitting cooperates fitting label
    obtain ⟨all, later⟩ := ih first
    rw [spawned_cons, ← List.append_assoc]
    exact ⟨all, trans_of Rely relies later⟩

end System
