import SdarRuntime.Library.Outcomes
import SdarRuntime.Persistence.Idempotency

/-!
One outcome for one key. A record keeps its hash and its stable task id, and nothing once it is
complete. A caller goes on past its claim only with the hash of the record, so whoever returns,
returns what the record holds.
-/

namespace SdarRuntime

namespace Idempotency

open Transaction System

structure RowKept (old new : IdempotencyRow) : Prop where
  argumentHash : new.argumentHash = old.argumentHash
  stableTaskId : new.stableTaskId = old.stableTaskId
  complete : old.state = .complete → new = old

def Kept (before after : Records) : Prop :=
  ∀ key row, before.get? key = some row → ∃ kept, after.get? key = some kept ∧ RowKept row kept

instance : Std.Refl Kept where
  refl _ := fun _ row known => ⟨row, known, rfl, rfl, fun _ => rfl⟩

instance : IsTrans Records Kept where
  trans first second third early late := by
    intro key row known
    obtain ⟨between, knownBetween, firstKept⟩ := early key row known
    obtain ⟨kept, knownAfter, secondKept⟩ := late key between knownBetween
    refine ⟨kept, knownAfter, ?_, ?_, ?_⟩
    · exact secondKept.argumentHash.trans firstKept.argumentHash
    · exact secondKept.stableTaskId.trans firstKept.stableTaskId
    · intro isComplete
      have same := firstKept.complete isComplete
      rw [← same] at isComplete
      rw [secondKept.complete isComplete, same]

variable {row : IdempotencyRow}

theorem kept_set {records : Records} {key : IdempotencyKey}
    (keeps : ∀ old, records.get? key = some old → RowKept old row) :
    Kept records (records.set key row) := by
  intro other old known
  rw [OrderedMap.get?_set]
  by_cases same : other = key
  · rw [if_pos same]
    rw [same] at known
    exact ⟨row, rfl, keeps old known⟩
  · rw [if_neg same]
    exact ⟨old, known, rfl, rfl, fun _ => rfl⟩

variable {input : IdempotencyInput} {owner : String} {leaseMs : Nat} {readings : Readings}
  {records records' : Records}

def Known (records : Records) (input : IdempotencyInput) (stableTaskId : String) : Prop :=
  ∃ row, records.get? (keyValues input) = some row ∧ row.argumentHash = input.argumentHash ∧
    row.stableTaskId = stableTaskId

/-- The record of the input has its hash, and is complete with the outcome. -/
def Stored (records : Records) (input : IdempotencyInput) (outcome : StoredInvocation) : Prop :=
  ∃ row, records.get? (keyValues input) = some row ∧ row.argumentHash = input.argumentHash ∧
    row.state = .complete ∧ completed row = .ok outcome

theorem Known.kept {stableTaskId : String} (known : Known records input stableTaskId)
    (kept : Kept records records') : Known records' input stableTaskId := by
  obtain ⟨row, present, sameHash, sameId⟩ := known
  obtain ⟨later, presentAfter, rowKept⟩ := kept _ row present
  refine ⟨later, presentAfter, ?_, ?_⟩
  · exact rowKept.argumentHash.trans sameHash
  · exact rowKept.stableTaskId.trans sameId

variable {outcome : StoredInvocation}

theorem Stored.kept (stored : Stored records input outcome) (kept : Kept records records') :
    Stored records' input outcome := by
  obtain ⟨row, present, sameHash, isComplete, isOutcome⟩ := stored
  obtain ⟨later, presentAfter, rowKept⟩ := kept _ row present
  rw [rowKept.complete isComplete] at presentAfter
  exact ⟨row, presentAfter, sameHash, isComplete, isOutcome⟩

theorem insertRecord_eq_ok {inserted : Bool}
    (committed : insertRecord input owner leaseMs readings records = .ok (inserted, records')) :
    Kept records records' := by
  obtain ⟨_, _, ran, rest⟩ := bind_eq_ok.mp committed
  obtain ⟨rfl, rfl⟩ := read_eq_ok.mp ran
  cases known : records.get? (keyValues input) with
  | some row =>
    rw [known] at rest
    obtain ⟨-, rfl⟩ := pure_eq_ok.mp rest
    exact refl_of Kept _
  | none =>
    rw [known] at rest
    obtain ⟨_, _, updated, answered⟩ := bind_eq_ok.mp rest
    obtain ⟨-, rfl⟩ := pure_eq_ok.mp answered
    rw [← update_eq_ok.mp updated]
    apply kept_set
    intro old isOld
    rw [known] at isOld
    cases isOld

theorem find_eq_ok {found : Option IdempotencyRow}
    (committed : find input records = .ok (found, records')) :
    records.get? (keyValues input) = found ∧ records' = records := by
  obtain ⟨_, _, ran, rest⟩ := bind_eq_ok.mp committed
  obtain ⟨rfl, rfl⟩ := read_eq_ok.mp ran
  obtain ⟨same, rfl⟩ := pure_eq_ok.mp rest
  exact ⟨same, rfl⟩

variable {now : Instant}

theorem takeOver_eq_ok {taken : Option String}
    (committed : takeOver input owner leaseMs now records = .ok (taken, records')) :
    Kept records records' ∧
      ∀ stableTaskId, taken = some stableTaskId → ∃ row,
        records.get? (keyValues input) = some row ∧ row.stableTaskId = stableTaskId := by
  obtain ⟨found, _, ran, rest⟩ := bind_eq_ok.mp committed
  obtain ⟨known, rfl⟩ := find_eq_ok ran
  cases found with
  | none =>
    obtain ⟨rfl, rfl⟩ := pure_eq_ok.mp rest
    exact ⟨refl_of Kept _, fun _ isTaken => nomatch isTaken⟩
  | some row =>
    change (if _ then _ else _ : Tx _) _ = _ at rest
    split at rest
    · rename_i expired
      obtain ⟨_, _, updated, answered⟩ := bind_eq_ok.mp rest
      obtain ⟨rfl, rfl⟩ := pure_eq_ok.mp answered
      constructor
      · rw [← update_eq_ok.mp updated]
        apply kept_set
        intro old isOld
        rw [known] at isOld
        cases isOld
        refine ⟨rfl, rfl, fun isComplete => ?_⟩
        rw [expired.1] at isComplete
        cases isComplete
      · intro stableTaskId isTaken
        cases isTaken
        exact ⟨row, known, rfl⟩
    · obtain ⟨rfl, rfl⟩ := pure_eq_ok.mp rest
      exact ⟨refl_of Kept _, fun _ isTaken => nomatch isTaken⟩

structure Answered (records : Records) (input : IdempotencyInput) (answer : ClaimResult) :
    Prop where
  claimed : ∀ stableTaskId recovering duplicate,
    answer = .claimed stableTaskId recovering duplicate → Known records input stableTaskId
  complete : ∀ outcome duplicate, answer = .complete outcome duplicate →
    Stored records input outcome

theorem claim_eq_ok {answer : ClaimResult}
    (committed : claim input owner leaseMs readings records = .ok (answer, records')) :
    Kept records records' ∧ Answered records' input answer := by
  obtain ⟨inserted, middle, inserts, rest⟩ := bind_eq_ok.mp committed
  have kept := insertRecord_eq_ok inserts
  obtain ⟨found, _, finds, answers⟩ := bind_eq_ok.mp rest
  obtain ⟨known, rfl⟩ := find_eq_ok finds
  cases found with
  | none => exact (abort_eq_ok.mp answers).elim
  | some row =>
    change (if row.argumentHash ≠ input.argumentHash then _ else _ : Tx _) _ = _ at answers
    split at answers
    · exact (abort_eq_ok.mp answers).elim
    rename_i sameHash
    have sameHash := Decidable.not_not.mp sameHash
    split at answers
    · rename_i isComplete
      cases outcome : completed row with
      | error failure =>
        rw [outcome] at answers
        exact (abort_eq_ok.mp answers).elim
      | ok outcome' =>
        rw [outcome] at answers
        obtain ⟨rfl, rfl⟩ := pure_eq_ok.mp answers
        refine ⟨kept, ?_, ?_⟩
        · intro stableTaskId recovering duplicate impossible
          cases impossible
        · intro stored duplicate isStored
          cases isStored
          exact ⟨row, known, sameHash, isComplete, outcome⟩
    · split at answers
      · obtain ⟨rfl, rfl⟩ := pure_eq_ok.mp answers
        refine ⟨kept, ?_, ?_⟩
        · intro stableTaskId recovering duplicate isClaimed
          cases isClaimed
          exact ⟨row, known, sameHash, rfl⟩
        · intro stored duplicate impossible
          cases impossible
      · split at answers
        · obtain ⟨rfl, rfl⟩ := pure_eq_ok.mp answers
          exact ⟨kept, fun _ _ _ impossible => (nomatch impossible),
            fun _ _ impossible => (nomatch impossible)⟩
        · obtain ⟨taken, _, takes, ends⟩ := bind_eq_ok.mp answers
          obtain ⟨takenKept, isRow⟩ := takeOver_eq_ok takes
          cases taken with
          | none =>
            obtain ⟨rfl, rfl⟩ := pure_eq_ok.mp ends
            exact ⟨trans_of Kept kept takenKept, fun _ _ _ impossible => (nomatch impossible),
              fun _ _ impossible => (nomatch impossible)⟩
          | some taskId =>
            obtain ⟨rfl, rfl⟩ := pure_eq_ok.mp ends
            refine ⟨trans_of Kept kept takenKept, ?_, ?_⟩
            · intro stableTaskId recovering duplicate isClaimed
              cases isClaimed
              obtain ⟨held, isHeld, sameId⟩ := isRow taskId rfl
              rw [known] at isHeld
              cases isHeld
              exact Known.kept ⟨row, known, sameHash, sameId⟩ takenKept
            · intro stored duplicate impossible
              cases impossible

theorem claim_conflict (known : records.get? (keyValues input) = some row)
    (other : row.argumentHash ≠ input.argumentHash) :
    claim input owner leaseMs readings records = .error "IDEMPOTENCY_KEY_CONFLICT" := by
  have inserted : insertRecord input owner leaseMs readings records = .ok (false, records) := by
    unfold insertRecord
    rw [read_bind, known]
    rfl
  have found : find input records = .ok (some row, records) := by
    unfold find
    rw [read_bind, known]
    rfl
  unfold claim
  rw [bind_of_ok inserted, bind_of_ok found]
  simp only [ne_eq, other, not_false_eq_true, if_true]
  rfl

theorem ownedRow_eq_some (owned : ownedRow records input owner = some row) :
    records.get? (keyValues input) = some row ∧ row.state = .pending := by
  obtain ⟨known, isOwned⟩ := Option.filter_eq_some_iff.mp owned
  exact ⟨known, (of_decide_eq_true isOwned).1⟩

theorem completed_outcome (row : IdempotencyRow) (outcome : StoredInvocation)
    (leaseOwner : Option String) (leaseExpiresAt : Option Instant) :
    completed { row with
      state := .complete
      taskId := outcome.taskId?
      synchronousResult := outcome.result?
      leaseOwner := leaseOwner
      leaseExpiresAt := leaseExpiresAt } = .ok outcome := by
  cases outcome with
  | task taskId => rfl
  | result stored => rfl

theorem completeRecord_eq_ok {updated : Bool}
    (committed : completeRecord input owner outcome records = .ok (updated, records')) :
    Kept records records' ∧ (updated = true → ∀ stableTaskId, Known records input stableTaskId →
      Stored records' input outcome) := by
  obtain ⟨_, _, ran, rest⟩ := bind_eq_ok.mp committed
  obtain ⟨rfl, rfl⟩ := read_eq_ok.mp ran
  cases owned : ownedRow records input owner with
  | none =>
    rw [owned] at rest
    obtain ⟨rfl, rfl⟩ := pure_eq_ok.mp rest
    exact ⟨refl_of Kept _, fun isUpdated => nomatch isUpdated⟩
  | some row =>
    rw [owned] at rest
    obtain ⟨known, isPending⟩ := ownedRow_eq_some owned
    obtain ⟨_, _, updates, answered⟩ := bind_eq_ok.mp rest
    obtain ⟨rfl, rfl⟩ := pure_eq_ok.mp answered
    rw [← update_eq_ok.mp updates]
    constructor
    · apply kept_set
      intro old isOld
      rw [known] at isOld
      cases isOld
      refine ⟨rfl, rfl, fun isComplete => ?_⟩
      rw [isPending] at isComplete
      cases isComplete
    · rintro - stableTaskId ⟨held, isHeld, sameHash, -⟩
      rw [known] at isHeld
      cases isHeld
      refine ⟨_, OrderedMap.get?_set_self _ _ _, sameHash, rfl, ?_⟩
      exact completed_outcome row outcome none none

theorem abandon_eq_ok {answer : Unit}
    (committed : abandon input owner now records = .ok (answer, records')) :
    Kept records records' := by
  obtain ⟨_, _, ran, rest⟩ := bind_eq_ok.mp committed
  obtain ⟨rfl, rfl⟩ := read_eq_ok.mp ran
  cases owned : ownedRow records input owner with
  | none =>
    rw [owned] at rest
    obtain ⟨-, rfl⟩ := pure_eq_ok.mp rest
    exact refl_of Kept _
  | some row =>
    rw [owned] at rest
    obtain ⟨known, isPending⟩ := ownedRow_eq_some owned
    rw [← update_eq_ok.mp rest]
    apply kept_set
    intro old isOld
    rw [known] at isOld
    cases isOld
    refine ⟨rfl, rfl, fun isComplete => ?_⟩
    rw [isPending] at isComplete
    cases isComplete

theorem exec_kept {β : Type} (effect : Effect β) (readings : Readings) (records : Records) :
    Kept records ((machine leaseMs).exec effect readings records).2 := by
  cases effect with
  | claim input owner =>
    refine commit_keeps ?_ ?_
    · exact refl_of Kept records
    · exact fun answer after committed => (claim_eq_ok committed).1
  | complete input owner outcome =>
    refine commit_keeps ?_ ?_
    · exact refl_of Kept records
    · exact fun answer after committed => (completeRecord_eq_ok committed).1
  | find input =>
    refine commit_keeps ?_ ?_
    · exact refl_of Kept records
    · intro answer after committed
      rw [(find_eq_ok committed).2]
      exact refl_of Kept records
  | abandon input owner =>
    refine commit_keeps ?_ ?_
    · exact refl_of Kept records
    · exact fun answer after committed => abandon_eq_ok committed

variable (leaseMs) in
theorem fault_kept {β : Type} (effect : Effect β) (readings : Readings) (records : Records)
    (committed : Bool) :
    Kept records (if committed then ((machine leaseMs).exec effect readings records).2
      else records) := by
  cases committed with
  | true => exact exec_kept effect readings records
  | false => exact refl_of Kept records

abbrev CallThread : Type 1 := Thread Effect Request String StoredInvocation

/-- A caller is at its claim, or past it, where its record is as the claim answered. -/
inductive Stage (caller : Caller) (records : Records) : CallThread → Prop where
  | claims (rounds : Nat) : Stage caller records (.running (execute caller.input caller.owner rounds))
  | invokes (stableTaskId : String) (recovering : Bool)
      (known : Known records caller.input stableTaskId) :
      Stage caller records
        (.running (invokeClaimed caller.input caller.owner stableTaskId recovering))
  | waits (stableTaskId : String) (recovering : Bool) (late : Option String)
      (known : Known records caller.input stableTaskId) :
      Stage caller records (.waiting (.invoke caller.input stableTaskId recovering) none late
        fun result _ => Program.attempt
          (Program.ofExcept result >>= complete caller.input caller.owner)
          (giveUp caller.input caller.owner))
  | completes (stableTaskId : String) (outcome : StoredInvocation)
      (known : Known records caller.input stableTaskId) :
      Stage caller records (.running (Program.attempt
        (complete caller.input caller.owner outcome) (giveUp caller.input caller.owner)))
  | finds (stableTaskId : String) (known : Known records caller.input stableTaskId) :
      Stage caller records (.running (Program.attempt (storedOutcome caller.input)
        (giveUp caller.input caller.owner)))
  | givesUp (stableTaskId failure : String) (known : Known records caller.input stableTaskId) :
      Stage caller records (.running (giveUp caller.input caller.owner failure))
  | returns (outcome : StoredInvocation) (stored : Stored records caller.input outcome) :
      Stage caller records (.running (.done outcome))
  | fails (failure : String) : Stage caller records (.running (.fail failure))
  | crashed : Stage caller records .crashed

variable {caller : Caller}

variable {thread : CallThread}

theorem Stage.kept (stage : Stage caller records thread) (kept : Kept records records') :
    Stage caller records' thread := by
  cases stage with
  | claims rounds => exact .claims rounds
  | invokes stableTaskId recovering known => exact .invokes _ _ (known.kept kept)
  | waits stableTaskId recovering late known => exact .waits _ _ _ (known.kept kept)
  | completes stableTaskId outcome known => exact .completes _ _ (known.kept kept)
  | finds stableTaskId known => exact .finds _ (known.kept kept)
  | givesUp stableTaskId failure known => exact .givesUp _ _ (known.kept kept)
  | returns outcome stored => exact .returns _ (stored.kept kept)
  | fails failure => exact .fails failure
  | crashed => exact .crashed

variable {whileClaimed : Call StoredInvocation}

theorem claims_next (waits : Stage caller records' (.running whileClaimed)) (readings : Readings)
    (isAfter : records' = ((machine leaseMs).exec (.claim caller.input caller.owner) readings
      records).2) :
    Stage caller records' (.running (Program.ofExcept
      ((machine leaseMs).exec (.claim caller.input caller.owner) readings records).1 >>=
        fun answer => match answer with
          | .complete outcome _ => pure outcome
          | .claimed stableTaskId recovering _ =>
            invokeClaimed caller.input caller.owner stableTaskId recovering
          | .wait => whileClaimed)) := by
  subst isAfter
  cases answered : ((machine leaseMs).exec (.claim caller.input caller.owner) readings
    records).1 with
  | error failure => exact .fails failure
  | ok answer =>
    obtain ⟨-, tells⟩ := claim_eq_ok (commit_ok_iff.mp answered)
    cases answer with
    | complete outcome duplicate => exact .returns outcome (tells.complete outcome duplicate rfl)
    | claimed stableTaskId recovering duplicate =>
      exact .invokes stableTaskId recovering
        (tells.claimed stableTaskId recovering duplicate rfl)
    | wait => exact waits

theorem round_acts {thread' : CallThread}
    (waits : ∀ after, Stage caller after (.running whileClaimed))
    (acts : Thread.Acts (machine leaseMs) records
      (.running (executeRound caller.input caller.owner whileClaimed)) records' thread') :
    Stage caller records' thread' ∧ Kept records records' := by
  rcases Thread.Acts.of_transact acts with
    ⟨readings, isAfter, rfl⟩ | ⟨readings, committed, failure, rfl, rfl⟩ | ⟨rfl, rfl⟩
  · refine ⟨claims_next (waits _) readings isAfter, ?_⟩
    rw [isAfter]
    exact exec_kept _ readings records
  · exact ⟨.fails failure, fault_kept leaseMs _ readings records committed⟩
  · exact ⟨.crashed, refl_of Kept _⟩

theorem stage_acts {thread thread' : CallThread} (stage : Stage caller records thread)
    (acts : Thread.Acts (machine leaseMs) records thread records' thread') :
    Stage caller records' thread' ∧ Kept records records' := by
  cases stage with
  | claims rounds =>
    cases rounds with
    | zero => exact round_acts (fun _ => .fails _) acts
    | succ rounds => exact round_acts (fun _ => .claims rounds) acts
  | invokes stableTaskId recovering known =>
    obtain ⟨rfl, rfl | rfl⟩ := Thread.Acts.of_request acts
    · exact ⟨.waits stableTaskId recovering none known, refl_of Kept _⟩
    · exact ⟨.crashed, refl_of Kept _⟩
  | waits stableTaskId recovering late known =>
    obtain ⟨rfl, ⟨result, rfl⟩ | rfl⟩ := Thread.Acts.of_waiting acts
    · cases result with
      | ok outcome => exact ⟨.completes stableTaskId outcome known, refl_of Kept _⟩
      | error failure => exact ⟨.givesUp stableTaskId failure known, refl_of Kept _⟩
    · exact ⟨.crashed, refl_of Kept _⟩
  | completes stableTaskId outcome known =>
    rcases Thread.Acts.of_transact acts with
      ⟨readings, isAfter, rfl⟩ | ⟨readings, committed, failure, rfl, rfl⟩ | ⟨rfl, rfl⟩
    · have kept : Kept records records' := by
        rw [isAfter]
        exact exec_kept _ readings records
      refine ⟨?_, kept⟩
      cases answered : ((machine leaseMs).exec
          (.complete caller.input caller.owner outcome) readings records).1 with
      | error failure => exact .givesUp stableTaskId failure (known.kept kept)
      | ok updated =>
        cases updated with
        | false => exact .finds stableTaskId (known.kept kept)
        | true =>
          have stored := (completeRecord_eq_ok (commit_ok_iff.mp answered)).2 rfl _ known
          rw [isAfter]
          exact .returns outcome stored
    · have kept := fault_kept leaseMs
        (.complete caller.input caller.owner outcome) readings records committed
      exact ⟨.givesUp stableTaskId failure (known.kept kept), kept⟩
    · exact ⟨.crashed, refl_of Kept _⟩
  | finds stableTaskId known =>
    rcases Thread.Acts.of_transact acts with
      ⟨readings, isAfter, rfl⟩ | ⟨readings, committed, failure, rfl, rfl⟩ | ⟨rfl, rfl⟩
    · have kept : Kept records records' := by
        rw [isAfter]
        exact exec_kept _ readings records
      refine ⟨?_, kept⟩
      have knownAfter := known.kept kept
      obtain ⟨row, isRow, sameHash, -⟩ := known
      have answered : ((machine leaseMs).exec (.find caller.input) readings records).1 =
          .ok (some row) := by
        change (.ok (records.get? (keyValues caller.input)) : Except _ _) = _
        rw [isRow]
      rw [answered]
      change Stage caller records' (.running (Program.attempt
        (if row.state = .complete then Program.ofExcept (completed row)
          else .fail "IDEMPOTENCY_LEASE_LOST") _))
      by_cases isComplete : row.state = .complete
      · rw [if_pos isComplete]
        cases outcome : completed row with
        | error failure => exact .givesUp stableTaskId failure knownAfter
        | ok outcome' =>
          exact .returns outcome'
            (Stored.kept ⟨row, isRow, sameHash, isComplete, outcome⟩ kept)
      · rw [if_neg isComplete]
        exact .givesUp stableTaskId _ knownAfter
    · have kept := fault_kept leaseMs (.find caller.input) readings records committed
      exact ⟨.givesUp stableTaskId failure (known.kept kept), kept⟩
    · exact ⟨.crashed, refl_of Kept _⟩
  | givesUp stableTaskId failure known =>
    rcases Thread.Acts.of_transact acts with
      ⟨readings, isAfter, rfl⟩ | ⟨readings, committed, _, rfl, rfl⟩ | ⟨rfl, rfl⟩
    · rw [isAfter]
      exact ⟨.fails failure, exec_kept _ readings records⟩
    · exact ⟨.fails failure, fault_kept leaseMs _ readings records committed⟩
    · exact ⟨.crashed, refl_of Kept _⟩
  | returns outcome stored =>
    obtain ⟨rfl, rfl⟩ := Thread.Acts.of_done acts
    exact ⟨.crashed, refl_of Kept _⟩
  | fails failure =>
    obtain ⟨rfl, rfl⟩ := Thread.Acts.of_fail acts
    exact ⟨.crashed, refl_of Kept _⟩
  | crashed =>
    obtain ⟨rfl, rfl⟩ := Thread.Acts.of_crashed acts
    exact ⟨.crashed, refl_of Kept _⟩

theorem cooperates (leaseMs : Nat) :
    System.Cooperates (machine leaseMs) Caller.program Kept Stage where
  starts := fun caller _ => .claims caller.rounds
  stable := fun _ _ _ _ stage kept => stage.kept kept
  acts := fun _ _ _ _ _ stage acts => stage_acts stage acts

theorem execute_claims (input : IdempotencyInput) (owner : String) (rounds : Nat) :
    ∃ next, execute input owner rounds = .transact (.claim input owner) next ∧
      ∀ failure, next (.error failure) = .fail failure := by
  cases rounds with
  | zero => exact ⟨_, rfl, fun _ => rfl⟩
  | succ rounds => exact ⟨_, rfl, fun _ => rfl⟩

theorem Stage.stored (stage : Stage caller records (.running (.done outcome))) :
    Stored records caller.input outcome := by
  generalize isThread : (Thread.running (.done outcome) : CallThread) = thread at stage
  cases stage with
  | claims rounds =>
    obtain ⟨next, claims, -⟩ := execute_claims caller.input caller.owner rounds
    rw [claims] at isThread
    cases isThread
  | returns stored isStored =>
    cases isThread
    exact isStored
  | invokes stableTaskId recovering known => cases isThread
  | waits stableTaskId recovering late known => cases isThread
  | completes stableTaskId other known => cases isThread
  | finds stableTaskId known => cases isThread
  | givesUp stableTaskId failure known => cases isThread
  | fails failure => cases isThread
  | crashed => cases isThread

/-- The request is the action of a caller with the key, given the task id. -/
def Invokes (key : IdempotencyKey) (stableTaskId : String) : {β : Type} → Request β → Prop
  | _, .invoke input given _ => keyValues input = key ∧ given = stableTaskId

theorem Stage.invoked {β : Type} {call : Request β} {beat : Option (Effect Unit)}
    {next : Except String β → Option String → Call StoredInvocation} {key : IdempotencyKey}
    {given : String} (stage : Stage caller records (.running (.request call beat next)))
    (invokes : Invokes key given call) :
    keyValues caller.input = key ∧ Known records caller.input given := by
  generalize isThread : (Thread.running (.request call beat next) : CallThread) = thread at stage
  cases stage with
  | claims rounds =>
    obtain ⟨next, claims, -⟩ := execute_claims caller.input caller.owner rounds
    rw [claims] at isThread
    cases isThread
  | invokes stableTaskId recovering known =>
    cases isThread
    obtain ⟨sameKey, rfl⟩ := invokes
    exact ⟨sameKey, known⟩
  | waits stableTaskId recovering late known => cases isThread
  | completes stableTaskId other known => cases isThread
  | finds stableTaskId known => cases isThread
  | givesUp stableTaskId failure known => cases isThread
  | returns stored isStored => cases isThread
  | fails failure => cases isThread
  | crashed => cases isThread

theorem Stage.conflict (stage : Stage caller records thread)
    (isRow : records.get? (keyValues caller.input) = some row)
    (other : row.argumentHash ≠ caller.input.argumentHash) :
    thread = .crashed ∨ (∃ failure, thread = .running (.fail failure)) ∨
      ∃ rounds, thread = .running (execute caller.input caller.owner rounds) := by
  have notKnown : ∀ stableTaskId, ¬Known records caller.input stableTaskId := by
    rintro stableTaskId ⟨held, isHeld, sameHash, -⟩
    rw [isRow] at isHeld
    cases isHeld
    exact other sameHash
  cases stage with
  | claims rounds => exact .inr (.inr ⟨rounds, rfl⟩)
  | fails failure => exact .inr (.inl ⟨failure, rfl⟩)
  | crashed => exact .inl rfl
  | invokes stableTaskId recovering known => exact absurd known (notKnown _)
  | waits stableTaskId recovering late known => exact absurd known (notKnown _)
  | completes stableTaskId outcome known => exact absurd known (notKnown _)
  | finds stableTaskId known => exact absurd known (notKnown _)
  | givesUp stableTaskId failure known => exact absurd known (notKnown _)
  | returns outcome stored =>
    obtain ⟨held, isHeld, sameHash, -⟩ := stored
    rw [isRow] at isHeld
    cases isHeld
    exact absurd sameHash other

abbrev CallLabel : Type 1 := Label Caller String Readings (Except String StoredInvocation)

abbrev CallSystem : Type 1 := System Effect Request String Records StoredInvocation

def runFrom (leaseMs : Nat) (labels : List CallLabel) : CallSystem :=
  run (machine leaseMs) Caller.program (initial .empty) labels

theorem runFrom_fitting (leaseMs : Nat) (labels : List CallLabel) :
    System.Fitting Stage (runFrom leaseMs labels) (spawned labels) := by
  have fitting := (run_fitting (cooperates leaseMs)
    (fitting_initial (OrderedMap.empty : Records)) labels).1
  rw [List.nil_append] at fitting
  exact fitting

theorem runFrom_kept (leaseMs : Nat) (earlier rest : List CallLabel) :
    Kept (runFrom leaseMs earlier).store (runFrom leaseMs (earlier ++ rest)).store := by
  unfold runFrom
  rw [run_append]
  exact (run_fitting (cooperates leaseMs) (runFrom_fitting leaseMs earlier) rest).2

def FailsWithConflict (leaseMs : Nat) (system : CallSystem) (index : Nat) : Prop :=
  ∀ readings, (system.perform (machine leaseMs) index readings).threads[index]? =
    some (.running (.fail "IDEMPOTENCY_KEY_CONFLICT"))

theorem fails_with_conflict {system : CallSystem} {index rounds : Nat}
    (isThread : system.threads[index]? =
      some (.running (execute caller.input caller.owner rounds)))
    (isRow : system.store.get? (keyValues caller.input) = some row)
    (other : row.argumentHash ≠ caller.input.argumentHash) :
    FailsWithConflict leaseMs system index := by
  intro readings
  obtain ⟨next, claims, fails⟩ := execute_claims caller.input caller.owner rounds
  rw [claims] at isThread
  have answered : ((machine leaseMs).exec (.claim caller.input caller.owner) readings
      system.store).1 = .error "IDEMPOTENCY_KEY_CONFLICT" := by
    have aborted : claim caller.input caller.owner leaseMs readings system.store = _ :=
      claim_conflict isRow other
    change (commit (claim caller.input caller.owner leaseMs readings) system.store).1 = _
    rw [commit_of_error aborted]
  have inside := (List.getElem?_eq_some_iff.mp isThread).1
  simp only [perform, isThread, answered, fails]
  rw [List.getElem?_set_self inside]

/-- In every run of callers, with claims that run out, failing actions, failures of the database
and crashes: callers of one key that return, return one outcome, which their record holds; a
complete record stays as it is; every action of a key is given the same task id; and a caller
with another hash than its record fails with the conflict, if it does not crash or fail before. -/
theorem execute_oneOutcome (leaseMs : Nat) (labels : List CallLabel) :
    (∀ (index : Nat) caller outcome, (spawned labels)[index]? = some caller →
      (runFrom leaseMs labels).valueAt index = some outcome →
        Stored (runFrom leaseMs labels).store caller.input outcome) ∧
    (∀ (index other : Nat) caller another outcome different,
      (spawned labels)[index]? = some caller →
      (spawned labels)[other]? = some another →
      keyValues caller.input = keyValues another.input →
      (runFrom leaseMs labels).valueAt index = some outcome →
      (runFrom leaseMs labels).valueAt other = some different → outcome = different) ∧
    (∀ earlier rest, labels = earlier ++ rest → ∀ key row,
      (runFrom leaseMs earlier).store.get? key = some row → row.state = .complete →
        (runFrom leaseMs labels).store.get? key = some row) ∧
    (∀ earlier label rest, labels = earlier ++ label :: rest → ∀ key stableTaskId,
      (runFrom leaseMs earlier).Sends (Invokes key stableTaskId) label →
        ∃ row, (runFrom leaseMs labels).store.get? key = some row ∧
          row.stableTaskId = stableTaskId) ∧
    ∀ (index : Nat) caller row, (spawned labels)[index]? = some caller →
      (runFrom leaseMs labels).store.get? (keyValues caller.input) = some row →
      row.argumentHash ≠ caller.input.argumentHash →
        (runFrom leaseMs labels).threads[index]? = some .crashed ∨
        (∃ failure, (runFrom leaseMs labels).threads[index]? =
          some (.running (.fail failure))) ∨
        FailsWithConflict leaseMs (runFrom leaseMs labels) index := by
  have fitting := runFrom_fitting leaseMs labels
  have stored : ∀ (index : Nat) caller outcome, (spawned labels)[index]? = some caller →
      (runFrom leaseMs labels).valueAt index = some outcome →
        Stored (runFrom leaseMs labels).store caller.input outcome := by
    intro index caller outcome isCaller isValue
    obtain ⟨thread, isThread, isOutcome⟩ := Option.bind_eq_some_iff.mp isValue
    have stage := fitting.fits index caller thread isCaller isThread
    cases thread with
    | running program =>
      have isDone := value?_running isOutcome
      subst isDone
      exact stage.stored
    | waiting call beat late next => cases isOutcome
    | crashed => cases isOutcome
  refine ⟨stored, ?_, ?_, ?_, ?_⟩
  · intro index other caller another outcome different isCaller isAnother sameKey isValue isOther
    obtain ⟨row, isRow, -, -, isOutcome⟩ := stored index caller outcome isCaller isValue
    obtain ⟨held, isHeld, -, -, isDifferent⟩ := stored other another different isAnother isOther
    rw [sameKey, isHeld] at isRow
    cases isRow
    rw [isOutcome] at isDifferent
    exact Except.ok.inj isDifferent
  · rintro earlier rest rfl key row known isComplete
    obtain ⟨kept, isKept, rowKept⟩ := runFrom_kept leaseMs earlier rest key row known
    rw [rowKept.complete isComplete] at isKept
    exact isKept
  · rintro earlier label rest rfl key stableTaskId sends
    have before := runFrom_fitting leaseMs earlier
    cases label with
    | send index =>
      simp only [System.Sends] at sends
      split at sends
      · rename_i call beat next isThread
        have inside := (List.getElem?_eq_some_iff.mp isThread).1
        rw [← before.length] at inside
        have stage := before.fits index _ _ (List.getElem?_eq_getElem inside) isThread
        obtain ⟨rfl, known⟩ := stage.invoked sends
        obtain ⟨row, isRow, -, sameId⟩ :=
          known.kept (runFrom_kept leaseMs earlier (.send index :: rest))
        exact ⟨row, isRow, sameId⟩
      · exact sends.elim
    | spawn entry => exact sends.elim
    | perform index clock => exact sends.elim
    | fault index clock committed failure => exact sends.elim
    | beat index clock => exact sends.elim
    | answer index value => exact sends.elim
    | crash index => exact sends.elim
  · intro index caller row isCaller isRow other
    have inside := (List.getElem?_eq_some_iff.mp isCaller).1
    rw [fitting.length] at inside
    have isThread := List.getElem?_eq_getElem inside
    have stage := fitting.fits index caller _ isCaller isThread
    rcases stage.conflict isRow other with crashed | ⟨failure, failed⟩ | ⟨rounds, claims⟩
    · rw [crashed] at isThread
      exact .inl isThread
    · rw [failed] at isThread
      exact .inr (.inl ⟨failure, isThread⟩)
    · rw [claims] at isThread
      exact .inr (.inr (fails_with_conflict isThread isRow other))

section Example

private def exampleInput : IdempotencyInput :=
  { authorization :=
      { hash := "a"
        executionMode := .live
        simulationId := none
        verifiedResponder := none }
    operationName := "operation"
    idempotencyKey := "key"
    argumentHash := "h" }

private def exampleReadings : Readings :=
  { stableTaskId := "task"
    inserted := 0
    found := 0
    updated := 0 }

/-- The second caller waits a round, and gets what the first has stored in the meantime. -/
example :
    ((runFrom 1000
      [.spawn { input := exampleInput, owner := "first", rounds := 0 }, .perform 0 exampleReadings,
        .send 0, .spawn { input := exampleInput, owner := "second", rounds := 1 },
        .perform 1 exampleReadings, .answer 0 (.ok (.task "task")), .perform 0 exampleReadings,
        .perform 1 exampleReadings]).valueAt 1).bind StoredInvocation.taskId? = some "task" := by
  decide +kernel

end Example

end Idempotency

end SdarRuntime
