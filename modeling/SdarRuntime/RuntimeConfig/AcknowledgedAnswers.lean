import SdarRuntime.RuntimeConfig.Acknowledgements

/-!
What a sync leaves behind. The last known good document is always one the apply handler took. A
revision the service answered with is acknowledged when the sync returns, as long as it was
acknowledged before or the answer is a new document the client accepts. The service answers by the
checksum of the content, so that a revision with a content the Runtime already has is no new
document, and is not acknowledged.
-/

namespace SdarRuntime

namespace RuntimeConfig

namespace ConfigurationService

theorem acks_grow {service after : ConfigurationService} {ack : RuntimeConfigAcknowledgement}
    (accepted : service.acknowledge ack = .ok after) :
    ∀ known ∈ service.acks, known ∈ after.acks := by
  intro known stored
  unfold acknowledge at accepted
  split at accepted
  · cases accepted
  · split at accepted
    · cases accepted
    · split at accepted
      · split at accepted
        · cases accepted
          exact stored
        · cases accepted
      · cases accepted
        exact List.mem_append_left _ stored

end ConfigurationService

namespace RuntimeSystem

variable {client : RuntimeClient} {system : RuntimeSystem}

/-- The document that is kept, and the one about to be kept, were taken by the apply handler. -/
structure KeepsHandled (system : RuntimeSystem) : Prop where
  lkg : ∀ artifact, system.lkg = some artifact → artifact.document ∈ system.handled
  promoting : ∀ etag document, system.phase = .promoting etag document →
    document ∈ system.handled

def promotes : SyncPhase → Bool
  | .promoting _ _ => true
  | _ => false

theorem KeepsHandled.inPhase (keeps : system.KeepsHandled) {after : RuntimeSystem}
    (lkg : after.lkg = system.lkg) (handled : after.handled = system.handled)
    (promoting : promotes after.phase = false) : after.KeepsHandled := by
  constructor
  · intro artifact isKept
    rw [handled]
    exact keeps.lkg artifact (lkg ▸ isKept)
  · intro etag document isPromoting
    rw [isPromoting] at promoting
    cases promoting

theorem flushed_keeps (keeps : system.KeepsHandled) (after : AfterFlush) :
    (system.flushed after).KeepsHandled := by
  cases after with
  | pullCandidate => exact keeps.inPhase rfl rfl rfl
  | returns state => exact keeps.inPhase rfl rfl rfl

theorem fallBack_keeps (keeps : system.KeepsHandled)
    (cached : Option RuntimeConfigCacheArtifact) : (system.fallBack cached).KeepsHandled := by
  unfold fallBack
  split
  · exact keeps.inPhase rfl rfl rfl
  · exact keeps.inPhase rfl rfl rfl

theorem retryPull_keeps (keeps : system.KeepsHandled)
    (cached : Option RuntimeConfigCacheArtifact) (conditional : Bool) (attempt : Nat) :
    (system.retryPull client cached conditional attempt).KeepsHandled := by
  unfold retryPull
  split
  · exact keeps.inPhase rfl rfl rfl
  · exact fallBack_keeps keeps cached

theorem takeCandidate_keeps (keeps : system.KeepsHandled) (etag : String)
    (document : RuntimeConfigDocument) : (system.takeCandidate etag document).KeepsHandled := by
  unfold takeCandidate
  split <;> exact keeps.inPhase rfl rfl rfl

theorem pull_keeps (keeps : system.KeepsHandled)
    (cached : Option RuntimeConfigCacheArtifact) (conditional : Bool) (attempt : Nat)
    (fate : PullFate) : (system.pull client cached conditional attempt fate).KeepsHandled := by
  have answered : ∀ revisions,
      KeepsHandled { system with answered := revisions } := fun _ => {
    lkg := keeps.lkg
    promoting := keeps.promoting
  }
  unfold pull
  split
  · exact retryPull_keeps keeps cached conditional attempt
  · exact fallBack_keeps keeps cached
  · exact fallBack_keeps keeps cached
  · unfold answer
    split
    · exact fallBack_keeps keeps cached
    · dsimp only
      split
      · split
        · exact retryPull_keeps (answered _) none false attempt
        · split
          · exact retryPull_keeps (answered _) _ conditional attempt
          · exact keeps.inPhase rfl rfl rfl
      · split
        · split
          · exact keeps.inPhase rfl rfl rfl
          · exact takeCandidate_keeps (answered _) _ _
        · exact fallBack_keeps (answered _) cached

theorem deliver_keeps (keeps : system.KeepsHandled)
    (records : List RuntimeConfigAckOutboxRecord) (after : AfterFlush) (fate : RequestFate) :
    (system.deliver records after fate).KeepsHandled := by
  have stored : ∀ service, KeepsHandled { system with service := service } := fun _ => {
    lkg := keeps.lkg
    promoting := keeps.promoting
  }
  unfold deliver
  split
  · exact flushed_keeps keeps after
  · split
    · exact flushed_keeps keeps after
    · exact flushed_keeps keeps after
    · exact flushed_keeps (stored _) after
    · exact keeps.inPhase rfl rfl rfl

theorem next_keeps (client : RuntimeClient) (system : RuntimeSystem) (event : Event)
    (keeps : system.KeepsHandled) : (system.next client event).KeepsHandled := by
  unfold next
  split
  · exact {
      lkg := keeps.lkg
      promoting := keeps.promoting
    }
  · exact keeps.inPhase rfl rfl rfl
  · exact keeps.inPhase rfl rfl rfl
  · exact keeps.inPhase rfl rfl rfl
  · exact keeps.inPhase rfl rfl rfl
  · exact deliver_keeps keeps _ _ _
  · exact keeps.inPhase rfl rfl rfl
  · exact flushed_keeps keeps _
  · exact keeps.inPhase rfl rfl rfl
  · exact pull_keeps keeps _ _ _ _
  · rename_i succeeds etag document isApplying
    cases succeeds with
    | false => exact keeps.inPhase rfl rfl rfl
    | true =>
      constructor
      · intro artifact isKept
        exact List.mem_cons_of_mem _ (keeps.lkg artifact isKept)
      · intro other known isPromoting
        cases isPromoting
        exact List.mem_cons_self
  · rename_i isPromoting
    constructor
    · intro artifact isKept
      cases isKept
      exact keeps.promoting _ _ isPromoting
    · intro other known same
      cases same
  · unfold put
    dsimp only
    split
    · exact keeps.inPhase rfl rfl rfl
    · exact keeps.inPhase rfl rfl rfl
  · exact keeps

def Acknowledged (system : RuntimeSystem) (revisionId : String) : Prop :=
  ∃ ack, system.Recorded ack ∧ ack.revisionId = revisionId

def working : SyncPhase → Option String
  | .applying _ document => some document.revisionId
  | .promoting _ document => some document.revisionId
  | .queueing acknowledgement _ => some acknowledgement.revisionId
  | _ => none

def halted : SyncPhase → Bool
  | .idle => true
  | .conflicting _ => true
  | _ => false

/-- Each revision the service answered with is acknowledged, or about to be. -/
structure Answering (system : RuntimeSystem) : Prop where
  answered : halted system.phase = false → ∀ revision ∈ system.answered,
    system.Acknowledged revision.row.revisionId ∨
      working system.phase = some revision.row.revisionId
  removing : ∀ record records after, system.phase = .removing record records after →
    record.acknowledgement ∈ system.service.acks

/-- The answer names a revision that is acknowledged already, or is a new document the client
accepts. -/
def AnswersAnew (client : RuntimeClient) (system : RuntimeSystem) : Event → Prop
  | .pull .answered => ∀ cached conditional attempt revision document,
      system.phase = .pulling cached conditional attempt →
      system.service.latest = some revision → client.document revision = some document →
        system.Acknowledged revision.row.revisionId ∨
          notModified cached conditional revision.row.checksum = false ∧
          client.accepts (quoted revision.row.checksum) document = true ∧
          cached.any (fun artifact => artifact.etag == quoted revision.row.checksum) = false
  | _ => True

def removes : SyncPhase → Bool
  | .removing _ _ _ => true
  | _ => false

theorem Answering.keeps (answering : system.Answering) {after : RuntimeSystem}
    (active : halted after.phase = false → halted system.phase = false)
    (answered : after.answered = system.answered)
    (acknowledged : ∀ revisionId, system.Acknowledged revisionId → after.Acknowledged revisionId)
    (works : ∀ revisionId, working system.phase = some revisionId →
      after.Acknowledged revisionId ∨ working after.phase = some revisionId)
    (removing : removes after.phase = false) : after.Answering := by
  constructor
  · intro isActive revision among
    rw [answered] at among
    rcases answering.answered (active isActive) revision among with known | isWorking
    · exact Or.inl (acknowledged _ known)
    · exact works _ isWorking
  · intro record records flush isRemoving
    rw [isRemoving] at removing
    cases removing

theorem Answering.idles (answering : system.Answering) {after : RuntimeSystem}
    (active : halted system.phase = false) (idle : working system.phase = none)
    (answered : after.answered = system.answered)
    (acknowledged : ∀ revisionId, system.Acknowledged revisionId → after.Acknowledged revisionId)
    (removing : removes after.phase = false) : after.Answering := by
  apply answering.keeps (fun _ => active) answered acknowledged _ removing
  intro revisionId isWorking
  rw [idle] at isWorking
  cases isWorking

theorem flushed_answering (answering : system.Answering) {after : RuntimeSystem}
    (active : halted system.phase = false) (idle : working system.phase = none)
    (answered : after.answered = system.answered)
    (acknowledged : ∀ revisionId, system.Acknowledged revisionId → after.Acknowledged revisionId)
    (flush : AfterFlush) : (after.flushed flush).Answering := by
  cases flush with
  | pullCandidate => exact answering.idles active idle answered acknowledged rfl
  | returns state => exact answering.idles active idle answered acknowledged rfl

theorem fallBack_answering (answering : system.Answering) {after : RuntimeSystem}
    (active : halted system.phase = false) (idle : working system.phase = none)
    (answered : after.answered = system.answered)
    (acknowledged : ∀ revisionId, system.Acknowledged revisionId → after.Acknowledged revisionId)
    (cached : Option RuntimeConfigCacheArtifact) : (after.fallBack cached).Answering := by
  unfold fallBack
  split
  · exact answering.idles active idle answered acknowledged rfl
  · exact answering.idles active idle answered acknowledged rfl

theorem retryPull_answering (answering : system.Answering) {after : RuntimeSystem}
    (active : halted system.phase = false) (idle : working system.phase = none)
    (answered : after.answered = system.answered)
    (acknowledged : ∀ revisionId, system.Acknowledged revisionId → after.Acknowledged revisionId)
    (cached : Option RuntimeConfigCacheArtifact) (conditional : Bool) (attempt : Nat) :
    (after.retryPull client cached conditional attempt).Answering := by
  unfold retryPull
  split
  · exact answering.idles active idle answered acknowledged rfl
  · exact fallBack_answering answering active idle answered acknowledged cached

variable {ack : RuntimeConfigAcknowledgement}

theorem acknowledged_stored {service : ConfigurationService}
    (accepted : system.service.acknowledge ack = .ok service) (revisionId : String)
    (known : system.Acknowledged revisionId) :
    Acknowledged { system with service := service } revisionId := by
  obtain ⟨ack', recorded, same⟩ := known
  rcases recorded with stored | queued
  · exact ⟨ack', Or.inl (ConfigurationService.acks_grow accepted ack' stored), same⟩
  · exact ⟨ack', Or.inr queued, same⟩

variable {records : List RuntimeConfigAckOutboxRecord} {after : AfterFlush}

theorem deliver_answering (answering : system.Answering)
    (isFlushing : system.phase = .flushing records after) (fate : RequestFate) :
    (system.deliver records after fate).Answering := by
  have active : halted system.phase = false := by
    rw [isFlushing]
    rfl
  have idle : working system.phase = none := by
    rw [isFlushing]
    rfl
  have same : ∀ revisionId, system.Acknowledged revisionId → system.Acknowledged revisionId :=
    fun _ known => known
  unfold deliver
  split
  · exact flushed_answering answering active idle rfl same after
  · split
    · exact flushed_answering answering active idle rfl same after
    · exact flushed_answering answering active idle rfl same after
    · rename_i accepted
      apply flushed_answering answering active idle
      · rfl
      · exact acknowledged_stored accepted
    · rename_i service accepted
      constructor
      · intro _ revision among
        rcases answering.answered active revision among with known | isWorking
        · exact Or.inl (acknowledged_stored accepted _ known)
        · rw [idle] at isWorking
          cases isWorking
      · intro record records flush isRemoving
        cases isRemoving
        exact (ConfigurationService.acknowledge_ok accepted).2.2.1

theorem remove_answering (answering : system.Answering) {record : RuntimeConfigAckOutboxRecord}
    (isRemoving : system.phase = .removing record records after) :
    Answering {
      system with
      outbox := removeRecord system.outbox record.acknowledgement.revisionId
      phase := .flushing records after
    } := by
  have stored := answering.removing record records after isRemoving
  apply answering.idles
  · rw [isRemoving]
    rfl
  · rw [isRemoving]
    rfl
  · rfl
  · rintro revisionId ⟨ack, isStored | ⟨known, among, same⟩, sameId⟩
    · exact ⟨ack, Or.inl isStored, sameId⟩
    · by_cases removed : known.acknowledgement.revisionId = record.acknowledgement.revisionId
      · refine ⟨record.acknowledgement, Or.inl stored, ?_⟩
        rw [← removed, same, sameId]
      · refine ⟨ack, Or.inr ⟨known, ?_, same⟩, sameId⟩
        rw [removeRecord, List.mem_filter]
        exact ⟨among, by simpa using removed⟩
  · rfl

theorem takeCandidate_working (etag : String) (document : RuntimeConfigDocument) :
    working (system.takeCandidate etag document).phase = some document.revisionId ∧
      (system.takeCandidate etag document).answered = system.answered ∧
      removes (system.takeCandidate etag document).phase = false := by
  unfold takeCandidate
  split <;> exact ⟨rfl, rfl, rfl⟩

theorem takeCandidate_acknowledged (etag : String) (document : RuntimeConfigDocument)
    (revisionId : String) (known : system.Acknowledged revisionId) :
    (system.takeCandidate etag document).Acknowledged revisionId := by
  unfold takeCandidate
  split <;> exact known

theorem answer_answering (answering : system.Answering)
    {cached : Option RuntimeConfigCacheArtifact} {conditional : Bool} {attempt : Nat}
    (isPulling : system.phase = .pulling cached conditional attempt)
    {revision : PublishedRevision}
    (anew : ∀ document, client.document revision = some document →
      system.Acknowledged revision.row.revisionId ∨
        notModified cached conditional revision.row.checksum = false ∧
        client.accepts (quoted revision.row.checksum) document = true ∧
        cached.any (fun artifact => artifact.etag == quoted revision.row.checksum) = false) :
    (system.answer client cached conditional attempt revision).Answering := by
  have active : halted system.phase = false := by
    rw [isPulling]
    rfl
  have idle : working system.phase = none := by
    rw [isPulling]
    rfl
  have earlier : ∀ known ∈ system.answered, system.Acknowledged known.row.revisionId := by
    intro known among
    rcases answering.answered active known among with acknowledged | isWorking
    · exact acknowledged
    · rw [idle] at isWorking
      cases isWorking
  unfold answer
  split
  · exact fallBack_answering answering active idle rfl (fun _ known => known) cached
  · rename_i document isDocument
    dsimp only
    rcases anew document isDocument with acknowledged | ⟨isNew, accepted, changed⟩
    · have answered : Answering { system with answered := system.answered ++ [revision] } := by
        constructor
        · intro _ known among
          rcases List.mem_append.mp among with before | same
          · exact Or.inl (earlier known before)
          · exact Or.inl (List.mem_singleton.mp same ▸ acknowledged)
        · intro record records flush isRemoving
          rw [isPulling] at isRemoving
          cases isRemoving
      have same : ∀ revisionId,
          Acknowledged { system with answered := system.answered ++ [revision] } revisionId →
          Acknowledged { system with answered := system.answered ++ [revision] } revisionId :=
        fun _ known => known
      split
      · split
        · exact retryPull_answering answered active idle rfl same none false attempt
        · split
          · exact retryPull_answering answered active idle rfl same _ conditional attempt
          · exact answered.idles active idle rfl same rfl
      · split
        · split
          · exact answered.idles active idle rfl same rfl
          · obtain ⟨_, sameAnswers, noRemoval⟩ :=
              takeCandidate_working (quoted revision.row.checksum) document
            exact answered.idles active idle sameAnswers
              (takeCandidate_acknowledged _ document) noRemoval
        · exact fallBack_answering answered active idle rfl same cached
    · rw [isNew, accepted, changed]
      obtain ⟨isWorking, sameAnswers, noRemoval⟩ :=
        takeCandidate_working (quoted revision.row.checksum) document
      constructor
      · intro _ known among
        have among' := sameAnswers ▸ among
        rcases List.mem_append.mp among' with before | same
        · exact Or.inl (takeCandidate_acknowledged _ document _ (earlier known before))
        · apply Or.inr
          rw [List.mem_singleton.mp same]
          exact isWorking.trans (congrArg some (document_facts isDocument accepted).1)
      · intro record records flush isRemoving
        simp only [Bool.false_eq_true, if_false, if_true] at isRemoving
        rw [isRemoving] at noRemoval
        cases noRemoval

theorem put_answering (answering : system.Answering) {state : RuntimeConfigSyncState}
    (isQueueing : system.phase = .queueing ack state) :
    (system.put client ack state).Answering := by
  have active : halted system.phase = false := by
    rw [isQueueing]
    rfl
  unfold put
  dsimp only
  split
  · constructor
    · intro isActive
      cases isActive
    · intro record records flush isRemoving
      cases isRemoving
  · rename_i outbox isPut
    have grown : (∀ record ∈ system.outbox, record ∈ outbox) ∧
        ∃ record ∈ outbox, record.acknowledgement.revisionId = ack.revisionId := by
      unfold putRecord at isPut
      dsimp only at isPut
      split at isPut
      · rename_i known found
        split at isPut
        · cases isPut
          refine ⟨fun record among => among, known, List.mem_of_find?_eq_some found, ?_⟩
          simpa using List.find?_some found
        · cases isPut
      · cases isPut
        refine ⟨fun record among => List.mem_append_left _ among, ?_⟩
        exact ⟨_, List.mem_append_right _ (List.mem_singleton.mpr rfl), rfl⟩
    obtain ⟨kept, record, among, sameId⟩ := grown
    apply answering.keeps
    · exact fun _ => active
    · rfl
    · rintro revisionId ⟨known, stored | ⟨queued, member, same⟩, isId⟩
      · exact ⟨known, Or.inl stored, isId⟩
      · exact ⟨known, Or.inr ⟨queued, kept queued member, same⟩, isId⟩
    · intro revisionId isWorking
      rw [isQueueing] at isWorking
      have isId : ack.revisionId = revisionId := Option.some.inj isWorking
      exact Or.inl ⟨record.acknowledgement, Or.inr ⟨record, among, rfl⟩, sameId.trans isId⟩
    · rfl

theorem works_answering (answering : system.Answering) {after : RuntimeSystem}
    (active : halted system.phase = false) (answered : after.answered = system.answered)
    (acknowledged : ∀ revisionId, system.Acknowledged revisionId → after.Acknowledged revisionId)
    (same : working after.phase = working system.phase) (removing : removes after.phase = false) :
    after.Answering := by
  apply answering.keeps (fun _ => active) answered acknowledged _ removing
  intro revisionId isWorking
  exact Or.inr (same.trans isWorking)

theorem next_answering (system : RuntimeSystem) (event : Event) (answering : system.Answering)
    (anew : AnswersAnew client system event) : (system.next client event).Answering := by
  have same : ∀ revisionId, system.Acknowledged revisionId → system.Acknowledged revisionId :=
    fun _ known => known
  have begun : ∀ phase : SyncPhase, removes phase = false →
      Answering { system with phase := phase, answered := [] } := by
    intro phase noRemoval
    constructor
    · intro _ revision among
      cases among
    · intro record records flush isRemoving
      have isPhase : phase = .removing record records flush := isRemoving
      rw [isPhase] at noRemoval
      cases noRemoval
  unfold next
  split
  · rename_i revision _
    constructor
    · intro isActive known among
      rcases answering.answered isActive known among with ⟨ack, recorded, sameId⟩ | isWorking
      · refine Or.inl ⟨ack, ?_, sameId⟩
        rcases recorded with stored | queued
        · apply Or.inl
          rw [ConfigurationService.acks_publish]
          exact stored
        · exact Or.inr queued
      · exact Or.inr isWorking
    · intro record records flush isRemoving
      rw [ConfigurationService.acks_publish]
      exact answering.removing record records flush isRemoving
  · constructor
    · intro isActive
      cases isActive
    · intro record records flush isRemoving
      cases isRemoving
  · exact begun _ rfl
  · exact begun _ rfl
  · exact begun _ rfl
  · rename_i isFlushing
    exact deliver_answering answering isFlushing _
  · rename_i isRemoving
    exact remove_answering answering isRemoving
  · rename_i isRemoving
    apply flushed_answering answering _ _ rfl same
    · rw [isRemoving]
      rfl
    · rw [isRemoving]
      rfl
  · rename_i isReading
    apply answering.idles
    · rw [isReading]
      rfl
    · rw [isReading]
      rfl
    · rfl
    · exact same
    · rfl
  · rename_i fate cached conditional attempt isPulling
    have active : halted system.phase = false := by
      rw [isPulling]
      rfl
    have idle : working system.phase = none := by
      rw [isPulling]
      rfl
    unfold pull
    split
    · exact retryPull_answering answering active idle rfl same cached conditional attempt
    · exact fallBack_answering answering active idle rfl same cached
    · exact fallBack_answering answering active idle rfl same cached
    · rename_i revision isLatest
      apply answer_answering answering isPulling
      intro document isDocument
      exact anew cached conditional attempt revision document isPulling isLatest isDocument
  · rename_i succeeds etag document isApplying
    have active : halted system.phase = false := by
      rw [isApplying]
      rfl
    cases succeeds with
    | false =>
      apply works_answering answering active
      · rfl
      · exact same
      · rw [isApplying]
        rfl
      · rfl
    | true =>
      apply works_answering answering active
      · rfl
      · exact same
      · rw [isApplying]
        rfl
      · rfl
  · rename_i isPromoting
    apply works_answering answering
    · rw [isPromoting]
      rfl
    · rfl
    · exact same
    · rw [isPromoting]
      rfl
    · rfl
  · rename_i isQueueing
    exact put_answering answering isQueueing
  · exact answering

theorem initial_answering : initial.Answering := by
  constructor
  · intro isActive
    cases isActive
  · intro record records flush isRemoving
    cases isRemoving

/-- In every history the document that is kept was taken by the apply handler; and when each answer
names a revision that is acknowledged already or is a new document the client accepts, every
revision a sync was answered with is acknowledged when the sync returns. -/
theorem answers_are_acknowledged (client : RuntimeClient) (events : List Event) :
    (∀ artifact, (Histories.after (next client) initial events).lkg = some artifact →
      artifact.document ∈ (Histories.after (next client) initial events).handled) ∧
    (Histories.EveryStep (next client) (AnswersAnew client) initial events →
      ∀ state, (Histories.after (next client) initial events).phase = .returned state →
        ∀ revision ∈ (Histories.after (next client) initial events).answered,
          (Histories.after (next client) initial events).Acknowledged
            revision.row.revisionId) := by
  constructor
  · have keeps : (Histories.after (next client) initial events).KeepsHandled := by
      apply Histories.always (next_keeps client)
      constructor
      · intro artifact isKept
        cases isKept
      · intro etag document isPromoting
        cases isPromoting
    exact keeps.lkg
  · intro anew state isReturned revision among
    have answering : (Histories.after (next client) initial events).Answering :=
      Histories.keeps next_answering initial_answering anew
    have active : halted (Histories.after (next client) initial events).phase = false := by
      rw [isReturned]
      rfl
    rcases answering.answered active revision among with acknowledged | isWorking
    · exact acknowledged
    · rw [isReturned] at isWorking
      cases isWorking

/-- A first sync: the revision is applied and its acknowledgement delivered. -/
def firstSync : List Event :=
  .publish observedRevision :: untilApply ++
    [.apply true, .write, .put, .deliver .answered, .remove true, .deliver .answered]

theorem answers_are_acknowledged_firstSync :
    ∀ revision ∈ (Histories.after (next observingClient) initial firstSync).answered,
      (Histories.after (next observingClient) initial firstSync).Acknowledged
        revision.row.revisionId := by
  have accepted : ∀ document, observingClient.document observedRevision = some document →
      observingClient.accepts (quoted observedRevision.row.checksum) document = true := by
    have isAccepted : (observingClient.document observedRevision).all (fun document =>
        observingClient.accepts (quoted observedRevision.row.checksum) document) = true := by
      decide +kernel
    intro document isDocument
    rw [isDocument] at isAccepted
    exact isAccepted
  apply (answers_are_acknowledged observingClient firstSync).2 _ .applied
  · rfl
  · refine ⟨trivial, trivial, trivial, trivial, ?_, trivial, trivial, trivial, trivial, trivial,
      trivial, trivial⟩
    intro cached conditional attempt revision document isPulling isLatest isDocument
    cases isPulling
    cases isLatest
    exact Or.inr ⟨rfl, accepted document isDocument, rfl⟩

def laterRevision : PublishedRevision := {
  row := {
    revisionId := "00000000-0000-4000-8000-000000000002"
    revision := 2
    checksum := "1111111111111111111111111111111111111111111111111111111111111111"
    applyMode := .hotReload
    status := .published
    content := [("OTEL_ENABLED", .bool true)]
  }
  sourceTargetType := .runtimeInstance
  secretPaths := []
}

def rolledBackRevision : PublishedRevision := {
  observedRevision with
  row := {
    observedRevision.row with
    revisionId := "00000000-0000-4000-8000-000000000003"
    revision := 3
    applyMode := .restartRequired
  }
}

/-- The first revision is applied and acknowledged; the second one is published and rolled back
before the next sync. -/
def unseenRollback : List Event :=
  .publish observedRevision :: untilApply ++
    [.apply true, .write, .put, .deliver .answered, .remove true, .deliver .answered,
      .publish laterRevision, .publish rolledBackRevision] ++ untilApply

/-- The sync has returned, and nothing is recorded of a revision it was answered with. -/
def leavesUnacknowledged (system : RuntimeSystem) : Bool :=
  match system.phase with
  | .returned _ => system.outbox.isEmpty && system.answered.any fun revision =>
    !system.service.acks.any fun ack => ack.revisionId == revision.row.revisionId
  | _ => false

/-- The sync is answered with the revision of the rollback, returns, and leaves no
acknowledgement of it. -/
theorem unseenRollback_unacknowledged :
    ¬ ∀ (client : RuntimeClient) (events : List Event) (state : RuntimeConfigSyncState),
      (Histories.after (next client) initial events).phase = .returned state →
        ∀ revision ∈ (Histories.after (next client) initial events).answered,
          (Histories.after (next client) initial events).Acknowledged
            revision.row.revisionId := by
  intro always
  have leaves : leavesUnacknowledged (Histories.after (next observingClient) initial
      unseenRollback) = true := by
    decide +kernel
  have acknowledged := always observingClient unseenRollback
  generalize Histories.after (next observingClient) initial unseenRollback = system at *
  unfold leavesUnacknowledged at leaves
  split at leaves
  · rename_i state isReturned
    rw [Bool.and_eq_true, List.isEmpty_iff, List.any_eq_true] at leaves
    obtain ⟨nothingQueued, revision, among, unknown⟩ := leaves
    rw [Bool.not_eq_true', List.any_eq_false] at unknown
    obtain ⟨ack, stored | ⟨record, queued, _⟩, same⟩ :=
      acknowledged state isReturned revision among
    · exact unknown ack stored (beq_iff_eq.mpr same)
    · rw [nothingQueued] at queued
      cases queued
  · cases leaves

end RuntimeSystem

end RuntimeConfig

end SdarRuntime
