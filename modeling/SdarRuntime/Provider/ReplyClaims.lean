import SdarRuntime.Provider.CommandLedger
import SdarRuntime.Provider.Sample

/-!
Which command a reply belongs to. A reply that is stored names the command whose claim reserved
the request, for good. The command itself may end either way: with the reply, after it, or not at
all.
-/

namespace SdarRuntime.Business

open MemoryTaskBusinessStore

/-- The ledger has the command a reply names: the claim of a response to its request, with the
hash of what it answers. -/
def ReplyClaimed (libraries : Libraries) (state : ScopeState) (input : RequiredInput) : Prop :=
  ∃ id command response, input.responseCommandId = some id ∧ input.response = some response ∧
    state.commands.get? id = some command ∧ command.commandType = .inputResponse ∧
      command.entryKey = some ("input:" ++ input.requestKey) ∧
        command.responseHash = some (taskBusinessInputResponseHash libraries response)

variable {libraries : Libraries} {input : RequiredInput}

theorem ReplyClaimed.mono {before after : ScopeState}
    (claimed : ReplyClaimed libraries before input) (kept : KeepsCommands before after) :
    ReplyClaimed libraries after input := by
  obtain ⟨id, claim, response, named, answers, known, commandType, entryKey, hash⟩ := claimed
  obtain ⟨command, knownAfter, becomes⟩ := kept id claim known
  refine ⟨id, command, response, named, answers, knownAfter, ?_, ?_, ?_⟩
  · exact becomes.commandType.trans commandType
  · exact becomes.entryKey.trans entryKey
  · exact becomes.responseHash.trans hash

variable {state : ScopeState}

theorem assertReply_eq_ok {current : Option TaskBusinessContext} {context : TaskBusinessContext}
    (checked : ScopeState.assertReply libraries current context state (.inputRequest input) =
      .ok ()) (reply : input.isReply = true) : ReplyClaimed libraries state input := by
  change assertRequiredInputReplyClaim libraries current context input _ = _ at checked
  unfold assertRequiredInputReplyClaim at checked
  rw [reply, if_neg (by decide)] at checked
  cases named : input.responseCommandId with
  | none =>
    rw [named] at checked
    cases checked
  | some id =>
    rw [named, Option.bind_some] at checked
    cases known : state.commands.get? id with
    | none =>
      rw [known] at checked
      cases checked
    | some command =>
      rw [known] at checked
      obtain ⟨_, claim, answer⟩ := Except.bind_eq_ok.mp checked
      have facts := require_eq_ok.mp claim
      simp only [Bool.and_eq_true, beq_iff_eq] at facts
      obtain ⟨response, answers, hash⟩ := (Option.any_eq_true _ _).mp (require_eq_ok.mp answer)
      refine ⟨id, command, response, named, answers, known, ?_, ?_, ?_⟩
      · exact facts.1.2
      · exact facts.2
      · exact eq_of_beq hash

theorem Commits.replyClaimed {previous next : ScopeState} {changeSet : BusinessChangeSet}
    {events : List TaskBusinessEventDraft} {staged : ScopeState.Staged}
    (commits : Commits libraries previous changeSet events staged next)
    (published : .inputRequest input ∈ staged.published) (reply : input.isReply = true) :
    ReplyClaimed libraries staged.state input := by
  obtain ⟨_, replies, -⟩ := Except.bind_eq_ok.mp commits.facts
  exact assertReply_eq_ok (Except.forM_eq_ok.mp replies _ published) reply

structure RepliesClaimed (libraries : Libraries) (state : ScopeState) : Prop where
  wellFormed : WellFormed state
  claimed : ∀ ref input, state.version? ref = some (.inputRequest input) →
    input.isReply = true → ReplyClaimed libraries state input

theorem StateStep.repliesClaimed {state next : ScopeState}
    (replies : RepliesClaimed libraries state) (moved : StateStep libraries state next) :
    RepliesClaimed libraries next := by
  have wellFormed := moved.wellFormed replies.wellFormed
  have kept := (moved.commands replies.wellFormed).1
  have old : ∀ {ref input}, state.version? ref = some (.inputRequest input) →
      input.isReply = true → ReplyClaimed libraries next input :=
    fun stored reply => (replies.claimed _ _ stored reply).mono kept
  constructor
  · exact wellFormed
  · intro ref input stored reply
    cases moved with
    | repeated => exact old stored reply
    | claimed claimable => exact old stored reply
    | submitted claimable publishes =>
      rename_i scope command entryRef context previous recordedAt submission
      change (state.setVersion submission.version).version? ref = _ at stored
      rw [ScopeState.version?_setVersion] at stored
      split at stored
      · rw [publishes.submits.version] at stored
        cases stored
      · exact old stored reply
    | committed commits =>
      rcases commits.origin replies.wellFormed.stored stored with before | ⟨published, -⟩
      · exact old before reply
      · -- the reply was checked against the ledger before the change set's own command
        have sameCommands := (commits.stagedFrom replies.wellFormed.stored).commands
        have claimed := commits.replyClaimed published reply
        rw [ReplyClaimed, sameCommands] at claimed
        have claimedBefore : ReplyClaimed libraries state _ := claimed
        exact claimedBefore.mono kept

/-- From the moment a reply is stored, the ledger has its command: the claimed response to its
request, with its hash, whatever becomes of the command. -/
theorem replies_staySettled (libraries : Libraries) (scope : BoundExecutionScope)
    (operations : List StoreOperation) (ref : BusinessObjectRef) (input : RequiredInput)
    (stored : ((run libraries operations).scopeState
      scope.key).version? ref = some (.inputRequest input))
    (reply : input.isReply = true) (later : List StoreOperation) :
    ReplyClaimed libraries
      ((run libraries (operations ++ later)).scopeState scope.key)
      input := by
  have replies : RepliesClaimed libraries
      ((run libraries operations).scopeState scope.key) := by
    apply run_keeps
    · constructor
      · exact wellFormed_empty
      · intro ref input impossible
        cases impossible
    · exact fun before moved => moved.repliesClaimed before
  exact (replies.claimed ref input stored reply).mono
    (run_keepsCommands libraries operations later scope.key)

namespace Sample

def answerRef : BusinessObjectRef :=
  { requestRef with revision := 2 }

/-- A request is published, its answer claimed, and then stored by the change set that rejects
the command of the answer. -/
def replyRun : List StoreOperation :=
  [.commitChangeSet
      { scope := scope
        expectedContextRevision := none
        context := waitingContext
        objects := [.artifact artifact, .inputRequest pendingRequest]
        contents := []
        command := none
        trajectoryEvidence := [] },
    .claimCommand
      { scope := scope
        candidate := responseCommand
        expectedEntryRef := some requestRef
        now := some moment.millis
        expectedContextRevision := some 1
        publishInterventionSubmission := false },
    .commitChangeSet
      { scope := scope
        expectedContextRevision := some 1
        context :=
          { waitingContext with
            contextRevision := 2
            activeRefs := OrderedMap.empty
            requiredInputRefs := [answerRef] }
        objects := [.inputRequest answeredRequest]
        contents := []
        command := some
          { responseCommand with
            state := .rejected
            resultCode := some "LOCAL_ACTION_FAILED" }
        trajectoryEvidence := [] }]

end Sample

/-- The reply a scope has under a reference, and what became of a command. -/
private def outcome (state : ScopeState) (ref : BusinessObjectRef) (commandId : String) :
    Option (Bool × Option String) × Option BusinessCommandState :=
  (((state.version? ref).bind BusinessObjectVersion.inputRequest?).map fun input =>
      (input.isReply, input.responseCommandId),
    (state.commands.get? commandId).map BusinessCommandRecord.state)

private theorem outcome_eq {ref : BusinessObjectRef} {commandId : String} {named : Option String}
    {settled : BusinessCommandState}
    (evaluated : outcome state ref commandId = (some (true, named), some settled)) :
    ∃ input command, state.version? ref = some (.inputRequest input) ∧ input.isReply = true ∧
      input.responseCommandId = named ∧ state.commands.get? commandId = some command ∧
        command.state = settled := by
  obtain ⟨reply, settlement⟩ := Prod.mk.inj evaluated
  obtain ⟨input, found, facts⟩ := Option.map_eq_some_iff.mp reply
  obtain ⟨isReply, isNamed⟩ := Prod.mk.inj facts
  obtain ⟨version, stored, isInput⟩ := Option.bind_eq_some_iff.mp found
  obtain ⟨command, known, isSettled⟩ := Option.map_eq_some_iff.mp settlement
  cases version with
  | inputRequest value =>
    cases isInput
    exact ⟨input, command, stored, isReply, isNamed, known, isSettled⟩
  | artifact value => cases isInput
  | action value => cases isInput
  | intervention value => cases isInput

private theorem replyRun_outcome :
    outcome ((run Sample.libraries Sample.replyRun).scopeState
      Sample.scope.key) Sample.answerRef "command-2" =
        (some (true, some "command-2"), some .rejected) := by
  decide +kernel

theorem replies_staySettled_sample :
    ∃ input, input.isReply = true ∧ ReplyClaimed Sample.libraries
      ((run Sample.libraries (Sample.replyRun ++ [])).scopeState
        Sample.scope.key) input := by
  obtain ⟨input, command, stored, reply, -⟩ := outcome_eq replyRun_outcome
  exact ⟨input, reply, replies_staySettled Sample.libraries Sample.scope Sample.replyRun
    Sample.answerRef input stored reply []⟩

theorem reply_ofRejectedCommand :
    ¬ ∀ (libraries : Libraries) (scope : BoundExecutionScope) (operations : List StoreOperation)
      (ref : BusinessObjectRef) (input : RequiredInput),
      ((run libraries operations).scopeState scope.key).version? ref =
        some (.inputRequest input) → input.isReply = true →
      ∀ id command, input.responseCommandId = some id →
        ((run libraries operations).scopeState scope.key).commands.get?
          id = some command → command.state ≠ .rejected := by
  intro neverRejected
  obtain ⟨input, command, stored, reply, named, known, rejected⟩ := outcome_eq replyRun_outcome
  exact neverRejected Sample.libraries Sample.scope Sample.replyRun Sample.answerRef input stored
    reply "command-2" command named known rejected

end SdarRuntime.Business
