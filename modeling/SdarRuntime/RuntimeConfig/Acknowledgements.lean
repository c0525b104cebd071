import SdarRuntime.RuntimeConfig.Workflow

/-!
Acknowledgements over whole histories of a Runtime. The queue and the service keep one
acknowledgement for a revision each. They agree as long as every call of the apply handler ends
as the acknowledgement that is already queued or stored for its revision says; what is queued is
then accepted by the service, and queueing never fails.
-/

namespace SdarRuntime

namespace RuntimeConfig

open Configuration (ConfigRevision)

open ConfigurationService

def Fits (row : ConfigRevision) (ack : RuntimeConfigAcknowledgement) : Prop :=
  ack.revisionId = row.revisionId ∧
  match row.applyMode with
  | .restartRequired =>
    ack.status = .restartRequired ∧ ack.appliedChecksum = none ∧ ack.reasonCode = none
  | .immutable =>
    ack.status = .rejected ∧ ack.appliedChecksum = none ∧
      ack.reasonCode = some "RUNTIME_CONFIG_IMMUTABLE"
  | _ =>
    (ack.status = .rejected ∧ ack.appliedChecksum = none ∧
      ack.reasonCode = some "RUNTIME_CONFIG_APPLY_FAILED") ∨
    (ack.status = .applied ∧ ack.appliedChecksum = some row.checksum ∧ ack.reasonCode = none ∧
      isChecksum row.checksum = true)

variable {ack : RuntimeConfigAcknowledgement}

theorem validateAck_of_fits {row : ConfigRevision} (fits : Fits row ack) :
    validateAck ack row = .ok () := by
  obtain ⟨revisionId, status, appliedChecksum, reasonCode⟩ := ack
  have rejected : ∀ code, isReasonCode code = true → status = .rejected →
      appliedChecksum = none → reasonCode = some code →
      validateAck ⟨revisionId, status, appliedChecksum, reasonCode⟩ row =
        .ok () := by
    intro code isCode isStatus noChecksum isReason
    subst isStatus noChecksum isReason
    simp [validateAck, Configuration.ConfigurationCenter.check, isCode]
    rfl
  unfold Fits at fits
  obtain ⟨_, fits⟩ := fits
  split at fits
  · obtain ⟨isStatus, noChecksum, noReason⟩ := fits
    dsimp only at isStatus noChecksum noReason
    subst isStatus noChecksum noReason
    rfl
  · exact rejected "RUNTIME_CONFIG_IMMUTABLE" rfl fits.1 fits.2.1 fits.2.2
  · rcases fits with fits | ⟨isStatus, isApplied, noReason, hex⟩
    · exact rejected "RUNTIME_CONFIG_APPLY_FAILED" rfl fits.1 fits.2.1 fits.2.2
    · dsimp only at isStatus isApplied noReason
      subst isStatus isApplied noReason
      simp [validateAck, Configuration.ConfigurationCenter.check, hex]
      rfl

/-- Two acknowledgements of a revision that is not applied in place are the same. -/
theorem fits_unique {row : ConfigRevision} {first second : RuntimeConfigAcknowledgement}
    (left : Fits row first) (right : Fits row second)
    (mode : row.applyMode = .restartRequired ∨ row.applyMode = .immutable) : first = second := by
  obtain ⟨firstId, firstStatus, firstChecksum, firstReason⟩ := first
  obtain ⟨secondId, secondStatus, secondChecksum, secondReason⟩ := second
  unfold Fits at left right
  rcases mode with mode | mode
  · rw [mode] at left right
    dsimp only at left right
    rw [left.1, right.1, left.2.1, right.2.1, left.2.2.1, right.2.2.1, left.2.2.2, right.2.2.2]
  · rw [mode] at left right
    dsimp only at left right
    rw [left.1, right.1, left.2.1, right.2.1, left.2.2.1, right.2.2.1, left.2.2.2, right.2.2.2]

namespace ConfigurationService

def Knows (service : ConfigurationService) (ack : RuntimeConfigAcknowledgement) : Prop :=
  ∃ revision, service.revision? ack.revisionId = some revision ∧ Fits revision.row ack

variable {service : ConfigurationService}

theorem revision?_publish {revision known : PublishedRevision} {revisionId : String}
    (found : service.revision? revisionId = some known) :
    (service.publish revision).revision? revisionId = some known := by
  unfold publish
  split
  · exact found
  · unfold revision?
    dsimp only
    rw [List.find?_append]
    unfold revision? at found
    rw [found]
    rfl

theorem Knows.publish (knows : service.Knows ack) (revision : PublishedRevision) :
    (service.publish revision).Knows ack := by
  obtain ⟨known, found, fits⟩ := knows
  exact ⟨known, revision?_publish found, fits⟩

theorem acks_publish (service : ConfigurationService) (revision : PublishedRevision) :
    (service.publish revision).acks = service.acks := by
  unfold publish
  split <;> rfl

theorem acknowledge_ok {service after : ConfigurationService}
    (accepted : service.acknowledge ack = .ok after) :
    after.revisions = service.revisions ∧ after.latest = service.latest ∧ ack ∈ after.acks ∧
      ∀ known ∈ after.acks, known ∈ service.acks ∨ known = ack := by
  unfold acknowledge at accepted
  split at accepted
  · cases accepted
  · split at accepted
    · cases accepted
    · split at accepted
      · rename_i existing found
        split at accepted
        · rename_i same
          cases accepted
          exact ⟨rfl, rfl, same ▸ List.mem_of_find?_eq_some found, fun known among => Or.inl among⟩
        · cases accepted
      · cases accepted
        refine ⟨rfl, rfl, List.mem_append_right _ (List.mem_singleton.mpr rfl), ?_⟩
        intro known among
        rcases List.mem_append.mp among with earlier | same
        · exact Or.inl earlier
        · exact Or.inr (List.mem_singleton.mp same)

/-- The service accepts an acknowledgement of a revision it has, when it agrees with what is
stored. -/
theorem acknowledge_isOk (knows : service.Knows ack)
    (agrees : ∀ known ∈ service.acks, known.revisionId = ack.revisionId → known = ack) :
    ∃ after, service.acknowledge ack = .ok after := by
  obtain ⟨revision, found, fits⟩ := knows
  unfold acknowledge
  rw [found]
  dsimp only
  rw [validateAck_of_fits fits]
  dsimp only
  split
  · rename_i existing stored
    have same : existing.revisionId = ack.revisionId := by
      simpa using List.find?_some stored
    rw [if_pos (agrees existing (List.mem_of_find?_eq_some stored) same)]
    exact ⟨service, rfl⟩
  · exact ⟨_, rfl⟩

end ConfigurationService


namespace SyncPhase

def pending : SyncPhase → List RuntimeConfigAcknowledgement
  | .flushing records _ => records.map fun record => record.acknowledgement
  | .removing record records _ =>
    record.acknowledgement :: records.map fun known => known.acknowledgement
  | .promoting _ document => [application document]
  | .queueing acknowledgement _ => [acknowledgement]
  | _ => []

def document? : SyncPhase → Option RuntimeConfigDocument
  | .applying _ document => some document
  | .promoting _ document => some document
  | _ => none

end SyncPhase

/-- A document is the service's answer for a revision that is applied in place. -/
def ConfigurationService.Serves (service : ConfigurationService)
    (document : RuntimeConfigDocument) : Prop :=
  ∃ revision, service.revision? document.revisionId = some revision ∧
    revision.row.revisionId = document.revisionId ∧
    document.checksum = revision.row.checksum ∧ isChecksum document.checksum = true ∧
    (revision.row.applyMode = .hotReload ∨ revision.row.applyMode = .reconnectRequired)

namespace RuntimeSystem

def Recorded (system : RuntimeSystem) (ack : RuntimeConfigAcknowledgement) : Prop :=
  ack ∈ system.service.acks ∨
    ∃ record ∈ system.outbox, record.acknowledgement = ack

def Said (system : RuntimeSystem) (ack : RuntimeConfigAcknowledgement) : Prop :=
  system.Recorded ack ∨ ack ∈ system.phase.pending

/-- The Runtime and the service hold one acknowledgement for a revision, and each is one of a
revision the service has. -/
structure Agreed (client : RuntimeClient) (system : RuntimeSystem) : Prop where
  latest : ∀ revision, system.service.latest = some revision →
    system.service.revision? revision.row.revisionId = some revision
  knows : ∀ ack, system.Said ack → system.service.Knows ack
  agree : ∀ first second, system.Said first → system.Said second →
    first.revisionId = second.revisionId → first = second
  serves : ∀ document, system.phase.document? = some document → system.service.Serves document
  target : ∀ record ∈ system.outbox, record.target = client.target
  quiet : ∀ state, system.phase ≠ .conflicting state

variable {client : RuntimeClient} {system after : RuntimeSystem}

theorem Agreed.narrows (agreed : system.Agreed client)
    (revisions : after.service.revisions = system.service.revisions)
    (latest : after.service.latest = system.service.latest)
    (said : ∀ ack, after.Said ack → system.Said ack)
    (document : ∀ document, after.phase.document? = some document →
      system.service.Serves document)
    (target : ∀ record ∈ after.outbox, record.target = client.target)
    (quiet : ∀ state, after.phase ≠ .conflicting state) : after.Agreed client := by
  have sameRevision : ∀ revisionId, after.service.revision? revisionId =
      system.service.revision? revisionId := by
    intro revisionId
    rw [revision?, revisions]
    rfl
  constructor
  · intro revision isLatest
    rw [sameRevision]
    exact agreed.latest revision (latest ▸ isLatest)
  · intro ack isSaid
    obtain ⟨revision, found, fits⟩ := agreed.knows ack (said ack isSaid)
    exact ⟨revision, (sameRevision _).trans found, fits⟩
  · intro first second firstSaid secondSaid
    exact agreed.agree first second (said first firstSaid) (said second secondSaid)
  · intro served isServed
    obtain ⟨revision, found, facts⟩ := document served isServed
    exact ⟨revision, (sameRevision _).trans found, facts⟩
  · exact target
  · exact quiet

theorem Agreed.inPhase (agreed : system.Agreed client) (phase : SyncPhase)
    (pending : ∀ ack ∈ phase.pending, system.Said ack)
    (document : ∀ document, phase.document? = some document → system.service.Serves document)
    (quiet : ∀ state, phase ≠ .conflicting state) : (system.inPhase phase).Agreed client := by
  apply agreed.narrows
  · rfl
  · rfl
  · rintro ack (recorded | isPending)
    · exact Or.inl recorded
    · exact pending ack isPending
  · exact document
  · exact agreed.target
  · exact quiet

theorem Agreed.rests (agreed : system.Agreed client) (phase : SyncPhase)
    (pending : phase.pending = []) (document : phase.document? = none)
    (quiet : ∀ state, phase ≠ .conflicting state) : (system.inPhase phase).Agreed client := by
  apply agreed.inPhase phase
  · intro ack among
    rw [pending] at among
    cases among
  · intro served isServed
    rw [document] at isServed
    cases isServed
  · exact quiet

theorem Agreed.speaks (agreed : system.Agreed client) (phase : SyncPhase)
    (handled : List RuntimeConfigDocument) (pending : phase.pending = [ack])
    (knows : system.service.Knows ack)
    (agrees : ∀ known, system.Recorded known → known.revisionId = ack.revisionId → known = ack)
    (document : ∀ document, phase.document? = some document → system.service.Serves document)
    (quiet : ∀ state, phase ≠ .conflicting state) :
    RuntimeSystem.Agreed client {
      system with
      handled := handled
      phase := phase
    } := by
  have cases_ : ∀ known, RuntimeSystem.Said {
      system with
      handled := handled
      phase := phase
    } known → system.Recorded known ∨ known = ack := by
    rintro known (recorded | isPending)
    · exact Or.inl recorded
    · have isAck : known ∈ phase.pending := isPending
      rw [pending, List.mem_singleton] at isAck
      exact Or.inr isAck
  constructor
  · exact agreed.latest
  · intro known isSaid
    rcases cases_ known isSaid with recorded | same
    · exact agreed.knows known (Or.inl recorded)
    · exact same ▸ knows
  · intro first second firstSaid secondSaid sameId
    rcases cases_ first firstSaid with firstRecorded | firstSame
    · rcases cases_ second secondSaid with secondRecorded | secondSame
      · exact agreed.agree first second (Or.inl firstRecorded) (Or.inl secondRecorded) sameId
      · rw [secondSame] at sameId ⊢
        exact agrees first firstRecorded sameId
    · rcases cases_ second secondSaid with secondRecorded | secondSame
      · rw [firstSame] at sameId ⊢
        exact (agrees second secondRecorded sameId.symm).symm
      · rw [firstSame, secondSame]
  · exact document
  · exact agreed.target
  · exact quiet

theorem flushed_agreed (agreed : system.Agreed client) (afterFlush : AfterFlush) :
    (system.flushed afterFlush).Agreed client := by
  cases afterFlush with
  | pullCandidate =>
    apply agreed.rests _ rfl rfl
    intro state same
    cases same
  | returns result =>
    apply agreed.rests _ rfl rfl
    intro state same
    cases same

variable {service : ConfigurationService}

theorem stored_agreed (agreed : system.Agreed client) (isSaid : system.Said ack)
    (accepted : system.service.acknowledge ack = .ok service) :
    RuntimeSystem.Agreed client { system with service := service } := by
  obtain ⟨revisions, latest, _, acks⟩ := acknowledge_ok accepted
  apply agreed.narrows
  · exact revisions
  · exact latest
  · rintro known ((stored | queued) | isPending)
    · rcases acks known stored with already | same
      · exact Or.inl (Or.inl already)
      · exact same ▸ isSaid
    · exact Or.inl (Or.inr queued)
    · exact Or.inr isPending
  · exact agreed.serves
  · exact agreed.target
  · exact agreed.quiet

variable {records : List RuntimeConfigAckOutboxRecord} {afterFlush : AfterFlush}

theorem deliver_agreed (agreed : system.Agreed client)
    (isFlushing : system.phase = .flushing records afterFlush) (fate : RequestFate) :
    (system.deliver records afterFlush fate).Agreed client := by
  cases records with
  | nil => exact flushed_agreed agreed afterFlush
  | cons record rest =>
    have isSaid : system.Said record.acknowledgement := by
      apply Or.inr
      rw [isFlushing]
      exact List.mem_cons_self
    unfold deliver
    dsimp only
    split
    · exact flushed_agreed agreed afterFlush
    · exact flushed_agreed agreed afterFlush
    · rename_i accepted
      exact flushed_agreed (stored_agreed agreed isSaid accepted) afterFlush
    · rename_i service accepted
      apply (stored_agreed agreed isSaid accepted).inPhase
      · intro ack among
        apply Or.inr
        show ack ∈ system.phase.pending
        rw [isFlushing]
        exact among
      · intro document isDocument
        cases isDocument
      · intro state same
        cases same

theorem removed_agreed (agreed : system.Agreed client) {record : RuntimeConfigAckOutboxRecord}
    (isRemoving : system.phase = .removing record records afterFlush) :
    RuntimeSystem.Agreed client {
      system with
      outbox := removeRecord system.outbox record.acknowledgement.revisionId
      phase := .flushing records afterFlush
    } := by
  apply agreed.narrows
  · rfl
  · rfl
  · rintro ack ((stored | ⟨known, among, same⟩) | isPending)
    · exact Or.inl (Or.inl stored)
    · exact Or.inl (Or.inr ⟨known, List.mem_of_mem_filter among, same⟩)
    · apply Or.inr
      rw [isRemoving]
      exact List.mem_cons_of_mem _ isPending
  · intro document isDocument
    cases isDocument
  · intro known among
    exact agreed.target known (List.mem_of_mem_filter among)
  · intro state same
    cases same

theorem begun_agreed (agreed : system.Agreed client) :
    RuntimeSystem.Agreed client {
      system with
      phase := .flushing system.outbox .pullCandidate
      answered := []
    } := by
  apply agreed.narrows
  · rfl
  · rfl
  · rintro ack (recorded | isPending)
    · exact Or.inl recorded
    · obtain ⟨record, among, same⟩ := List.mem_map.mp isPending
      exact Or.inl (Or.inr ⟨record, among, same⟩)
  · intro document isDocument
    cases isDocument
  · exact agreed.target
  · intro state same
    cases same

theorem published_agreed (agreed : system.Agreed client) (revision : PublishedRevision) :
    RuntimeSystem.Agreed client { system with service := system.service.publish revision } := by
  constructor
  · intro latest isLatest
    by_cases known : (system.service.revision? revision.row.revisionId).isSome
    · rw [publish, if_pos known] at isLatest ⊢
      exact agreed.latest latest isLatest
    · have unknown := Option.not_isSome_iff_eq_none.mp known
      rw [publish, if_neg known] at isLatest ⊢
      cases isLatest
      unfold revision? at unknown ⊢
      dsimp only
      rw [List.find?_append, unknown]
      simp
  · rintro ack ((stored | queued) | isPending)
    · rw [acks_publish] at stored
      exact (agreed.knows ack (Or.inl (Or.inl stored))).publish revision
    · exact (agreed.knows ack (Or.inl (Or.inr queued))).publish revision
    · exact (agreed.knows ack (Or.inr isPending)).publish revision
  · have same : ∀ ack, RuntimeSystem.Said {
        system with service := system.service.publish revision } ack → system.Said ack := by
      rintro ack ((stored | queued) | isPending)
      · rw [acks_publish] at stored
        exact Or.inl (Or.inl stored)
      · exact Or.inl (Or.inr queued)
      · exact Or.inr isPending
    intro first second firstSaid secondSaid
    exact agreed.agree first second (same first firstSaid) (same second secondSaid)
  · intro document isDocument
    obtain ⟨known, found, facts⟩ := agreed.serves document isDocument
    exact ⟨known, revision?_publish found, facts⟩
  · exact agreed.target
  · exact agreed.quiet

theorem answered_agreed (agreed : system.Agreed client) (answered : List PublishedRevision) :
    RuntimeSystem.Agreed client { system with answered := answered } := {
  latest := agreed.latest
  knows := agreed.knows
  agree := agreed.agree
  serves := agreed.serves
  target := agreed.target
  quiet := agreed.quiet
}

theorem fallBack_agreed (agreed : system.Agreed client)
    (cached : Option RuntimeConfigCacheArtifact) : (system.fallBack cached).Agreed client := by
  unfold fallBack
  split
  · apply agreed.rests _ rfl rfl
    intro state same
    cases same
  · apply agreed.rests _ rfl rfl
    intro state same
    cases same

theorem retryPull_agreed (agreed : system.Agreed client)
    (cached : Option RuntimeConfigCacheArtifact) (conditional : Bool) (attempt : Nat) :
    (system.retryPull client cached conditional attempt).Agreed client := by
  unfold retryPull
  split
  · apply agreed.rests _ rfl rfl
    intro state same
    cases same
  · exact fallBack_agreed agreed cached

variable {revision : PublishedRevision} {document : RuntimeConfigDocument} {etag : String}

theorem document_facts (isDocument : client.document revision = some document)
    (accepted : client.accepts etag document = true) :
    document.revisionId = revision.row.revisionId ∧ document.checksum = revision.row.checksum ∧
      document.applyMode = revision.row.applyMode ∧ isChecksum document.checksum = true := by
  have hex : isChecksum document.checksum = true := by
    unfold RuntimeClient.accepts at accepted
    simp only [Bool.and_eq_true, beq_iff_eq] at accepted
    obtain ⟨⟨⟨⟨⟨⟨hex, same⟩, _⟩, _⟩, _⟩, _⟩, _⟩ := accepted
    exact same ▸ hex
  unfold RuntimeClient.document at isDocument
  split at isDocument
  · cases isDocument
    exact ⟨rfl, rfl, rfl, hex⟩
  · cases isDocument

theorem recorded_same (agreed : system.Agreed client)
    (found : system.service.revision? revision.row.revisionId = some revision)
    (fits : Fits revision.row ack)
    (mode : revision.row.applyMode = .restartRequired ∨ revision.row.applyMode = .immutable) :
    ∀ known, system.Recorded known → known.revisionId = ack.revisionId → known = ack := by
  intro known recorded sameId
  obtain ⟨other, otherFound, otherFits⟩ := agreed.knows known (Or.inl recorded)
  rw [sameId, fits.1, found] at otherFound
  cases otherFound
  exact fits_unique otherFits fits mode

theorem takeCandidate_agreed (agreed : system.Agreed client)
    (isLatest : system.service.latest = some revision)
    (isDocument : client.document revision = some document)
    (accepted : client.accepts etag document = true) :
    (system.takeCandidate etag document).Agreed client := by
  obtain ⟨sameId, sameChecksum, sameMode, hex⟩ := document_facts isDocument accepted
  have found := agreed.latest revision isLatest
  have serves : revision.row.applyMode = .hotReload ∨
      revision.row.applyMode = .reconnectRequired → system.service.Serves document := by
    intro mode
    exact ⟨revision, sameId ▸ found, sameId.symm, sameChecksum, hex, mode⟩
  have applies : revision.row.applyMode = .hotReload ∨
      revision.row.applyMode = .reconnectRequired →
      (system.inPhase (.applying etag document)).Agreed client := by
    intro mode
    apply agreed.inPhase
    · intro ack among
      cases among
    · intro served isServed
      cases isServed
      exact serves mode
    · intro state same
      cases same
  unfold takeCandidate
  cases mode : document.applyMode with
  | hotReload => exact applies (Or.inl (sameMode.symm.trans mode))
  | reconnectRequired => exact applies (Or.inr (sameMode.symm.trans mode))
  | restartRequired =>
    have rowMode := sameMode.symm.trans mode
    have fits : Fits revision.row (restartAcknowledgement document) := by
      unfold Fits
      rw [rowMode]
      exact ⟨sameId, rfl, rfl, rfl⟩
    apply agreed.speaks (.queueing (restartAcknowledgement document) .restartRequired)
      system.handled rfl
    · exact ⟨revision, fits.1 ▸ found, fits⟩
    · exact recorded_same agreed found fits (Or.inl rowMode)
    · intro served isServed
      cases isServed
    · intro state same
      cases same
  | immutable =>
    have rowMode := sameMode.symm.trans mode
    have fits : Fits revision.row (rejection document "RUNTIME_CONFIG_IMMUTABLE") := by
      unfold Fits
      rw [rowMode]
      exact ⟨sameId, rfl, rfl, rfl⟩
    apply agreed.speaks (.queueing (rejection document "RUNTIME_CONFIG_IMMUTABLE") .rejected)
      system.handled rfl
    · exact ⟨revision, fits.1 ▸ found, fits⟩
    · exact recorded_same agreed found fits (Or.inr rowMode)
    · intro served isServed
      cases isServed
    · intro state same
      cases same

theorem pull_agreed (agreed : system.Agreed client)
    (cached : Option RuntimeConfigCacheArtifact) (conditional : Bool) (attempt : Nat)
    (fate : PullFate) : (system.pull client cached conditional attempt fate).Agreed client := by
  have unchanged : ∀ answered, RuntimeSystem.Agreed client
      (inPhase { system with answered := answered } (.returned .unchanged)) := by
    intro answered
    apply (answered_agreed agreed answered).rests _ rfl rfl
    intro state same
    cases same
  unfold pull
  split
  · exact retryPull_agreed agreed cached conditional attempt
  · exact fallBack_agreed agreed cached
  · exact fallBack_agreed agreed cached
  · rename_i revision isLatest
    unfold answer
    split
    · exact fallBack_agreed agreed cached
    · rename_i document isDocument
      dsimp only
      split
      · split
        · exact retryPull_agreed (answered_agreed agreed _) none false attempt
        · split
          · exact retryPull_agreed (answered_agreed agreed _) _ conditional attempt
          · exact unchanged _
      · split
        · rename_i accepted
          split
          · exact unchanged _
          · exact takeCandidate_agreed (answered_agreed agreed _) isLatest isDocument accepted
        · exact fallBack_agreed (answered_agreed agreed _) cached

theorem applyOutcome_fits (serves : service.Serves document) (succeeds : Bool) :
    service.Knows (applyOutcome document succeeds) := by
  obtain ⟨revision, found, sameId, sameChecksum, hex, mode⟩ := serves
  have hexRow : isChecksum revision.row.checksum = true := sameChecksum ▸ hex
  cases succeeds with
  | false =>
    refine ⟨revision, found, sameId.symm, ?_⟩
    rcases mode with mode | mode
    · rw [mode]
      exact Or.inl ⟨rfl, rfl, rfl⟩
    · rw [mode]
      exact Or.inl ⟨rfl, rfl, rfl⟩
  | true =>
    refine ⟨revision, found, sameId.symm, ?_⟩
    have isApplied : (some document.checksum : Option String) = some revision.row.checksum :=
      congrArg some sameChecksum
    rcases mode with mode | mode
    · rw [mode]
      exact Or.inr ⟨rfl, isApplied, rfl, hexRow⟩
    · rw [mode]
      exact Or.inr ⟨rfl, isApplied, rfl, hexRow⟩

/-- The call of the apply handler ends as what is recorded of the revision says. -/
def AppliesConsistently (system : RuntimeSystem) : Event → Prop
  | .apply succeeds => ∀ etag document, system.phase = .applying etag document →
      ∀ ack, system.Recorded ack → ack.revisionId = document.revisionId →
        ack = applyOutcome document succeeds
  | _ => True

theorem apply_agreed (agreed : system.Agreed client)
    (isApplying : system.phase = .applying etag document) (succeeds : Bool)
    (consistent : AppliesConsistently system (.apply succeeds)) :
    (system.apply etag document succeeds).Agreed client := by
  have serves : system.service.Serves document := by
    apply agreed.serves document
    rw [isApplying]
    rfl
  have knows := applyOutcome_fits serves succeeds
  have agrees := consistent etag document isApplying
  cases succeeds with
  | false =>
    apply agreed.speaks (.queueing (applyOutcome document false) .rejected) system.handled rfl
      knows agrees
    · intro served isServed
      cases isServed
    · intro state same
      cases same
  | true =>
    apply agreed.speaks (.promoting etag document) (document :: system.handled) rfl knows agrees
    · intro served isServed
      cases isServed
      exact serves
    · intro state same
      cases same

theorem write_agreed (agreed : system.Agreed client)
    (isPromoting : system.phase = .promoting etag document)
    (lkg : Option RuntimeConfigCacheArtifact) :
    RuntimeSystem.Agreed client {
      system with
      lkg := lkg
      phase := .queueing (applyOutcome document true) .applied
    } := by
  apply agreed.narrows
  · rfl
  · rfl
  · rintro ack (recorded | isPending)
    · exact Or.inl recorded
    · apply Or.inr
      rw [isPromoting]
      exact isPending
  · intro served isServed
    cases isServed
  · exact agreed.target
  · intro state same
    cases same

theorem putRecord_isSome (agreed : system.Agreed client) (isSaid : system.Said ack) :
    ∃ outbox, putRecord system.outbox { target := client.target, acknowledgement := ack } =
        some outbox ∧
      ∀ record ∈ outbox, record ∈ system.outbox ∨
        record = { target := client.target, acknowledgement := ack } := by
  unfold putRecord
  dsimp only
  split
  · rename_i known found
    have member := List.mem_of_find?_eq_some found
    have sameId : known.acknowledgement.revisionId = ack.revisionId := by
      simpa using List.find?_some found
    have knownSaid : system.Said known.acknowledgement := Or.inl (Or.inr ⟨known, member, rfl⟩)
    have sameAck := agreed.agree _ _ knownSaid isSaid sameId
    have same : known = { target := client.target, acknowledgement := ack } := by
      rw [← sameAck, ← agreed.target known member]
    rw [if_pos same]
    exact ⟨system.outbox, rfl, fun record among => Or.inl among⟩
  · refine ⟨_, rfl, ?_⟩
    intro record among
    rcases List.mem_append.mp among with earlier | same
    · exact Or.inl earlier
    · exact Or.inr (List.mem_singleton.mp same)

theorem put_agreed (agreed : system.Agreed client) {state : RuntimeConfigSyncState}
    (isQueueing : system.phase = .queueing ack state) :
    (system.put client ack state).Agreed client := by
  have isSaid : system.Said ack := by
    apply Or.inr
    rw [isQueueing]
    exact List.mem_singleton.mpr rfl
  obtain ⟨outbox, isPut, members⟩ := putRecord_isSome agreed isSaid
  have acks : ∀ record ∈ outbox, system.Said record.acknowledgement := by
    intro record among
    rcases members record among with earlier | same
    · exact Or.inl (Or.inr ⟨record, earlier, rfl⟩)
    · rw [same]
      exact isSaid
  unfold put
  dsimp only
  rw [isPut]
  apply agreed.narrows
  · rfl
  · rfl
  · rintro known ((stored | ⟨record, among, same⟩) | isPending)
    · exact Or.inl (Or.inl stored)
    · exact same ▸ acks record among
    · obtain ⟨record, among, same⟩ := List.mem_map.mp isPending
      exact same ▸ acks record among
  · intro served isServed
    cases isServed
  · intro record among
    rcases members record among with earlier | same
    · exact agreed.target record earlier
    · rw [same]
  · intro other same
    cases same

theorem next_agreed (system : RuntimeSystem) (event : Event) (agreed : system.Agreed client)
    (consistent : AppliesConsistently system event) : (system.next client event).Agreed client := by
  unfold next
  split
  · exact published_agreed agreed _
  · apply agreed.rests _ rfl rfl
    intro state same
    cases same
  · exact begun_agreed agreed
  · exact begun_agreed agreed
  · exact begun_agreed agreed
  · rename_i isFlushing
    exact deliver_agreed agreed isFlushing _
  · rename_i isRemoving
    exact removed_agreed agreed isRemoving
  · exact flushed_agreed agreed _
  · apply agreed.rests _ rfl rfl
    intro state same
    cases same
  · exact pull_agreed agreed _ _ _ _
  · rename_i isApplying
    exact apply_agreed agreed isApplying _ consistent
  · rename_i isPromoting
    exact write_agreed agreed isPromoting _
  · rename_i isQueueing
    exact put_agreed agreed isQueueing
  · exact agreed

theorem initial_agreed (client : RuntimeClient) : initial.Agreed client := by
  have silent : ∀ ack, ¬initial.Said ack := by
    rintro ack ((stored | ⟨record, among, _⟩) | isPending)
    · cases stored
    · cases among
    · cases isPending
  constructor
  · intro revision isLatest
    cases isLatest
  · intro ack isSaid
    exact absurd isSaid (silent ack)
  · intro first second isSaid
    exact absurd isSaid (silent first)
  · intro document isDocument
    cases isDocument
  · intro record among
    cases among
  · intro state same
    cases same

/-- Every queued acknowledgement is one the service accepts, and queueing has not failed. -/
structure Deliverable (system : RuntimeSystem) : Prop where
  accepted : ∀ record ∈ system.outbox,
    ∃ service, system.service.acknowledge record.acknowledgement = .ok service
  queued : ∀ state, system.phase ≠ .conflicting state

/-- In every history in which each call of the apply handler ends as what is recorded of its
revision says, every queued acknowledgement is accepted and queueing never fails. -/
theorem acknowledgements_stay_deliverable (client : RuntimeClient) (events : List Event)
    (consistent : Histories.EveryStep (next client) AppliesConsistently initial events) :
    Deliverable (Histories.after (next client) initial events) := by
  have agreed : (Histories.after (next client) initial events).Agreed client :=
    Histories.keeps next_agreed (initial_agreed client) consistent
  constructor
  · intro record among
    have isSaid : (Histories.after (next client) initial events).Said record.acknowledgement :=
      Or.inl (Or.inr ⟨record, among, rfl⟩)
    apply acknowledge_isOk (agreed.knows _ isSaid)
    intro known stored sameId
    exact agreed.agree known _ (Or.inl (Or.inl stored)) isSaid sameId
  · exact agreed.quiet


def observedRevision : PublishedRevision := {
  row := {
    revisionId := "00000000-0000-4000-8000-000000000001"
    revision := 1
    checksum := "0000000000000000000000000000000000000000000000000000000000000000"
    applyMode := .hotReload
    status := .published
    content := []
  }
  sourceTargetType := .runtimeInstance
  secretPaths := []
}

def observingClient : RuntimeClient := {
  target := {
    environment := "production"
    deploymentId := "deployment"
    instanceId := "instance"
    configGroup := "runtime.observability"
    dataId := "main"
  }
  identity := {
    environment := "production"
    deploymentId := "deployment"
    instanceId := "instance"
    providerId := "provider"
  }
  valid := fun _ => true
  maximumAttempts := 3
}

def untilApply : List Event := [.begin, .deliver .answered, .readCache true, .pull .answered]

/-- The handler fails, its rejection is delivered, and the handler succeeds at the next sync. -/
def retriedApply : List Event :=
  .publish observedRevision :: untilApply ++
    [.apply false, .put, .deliver .answered, .remove true, .deliver .answered] ++
    untilApply ++ [.apply true, .write, .put]

theorem retriedApply_conflicts :
    ¬ ∀ (client : RuntimeClient) (events : List Event),
      Deliverable (Histories.after (next client) initial events) := by
  intro always
  have accepted := (always observingClient retriedApply).accepted
  have refused : (Histories.after (next observingClient) initial retriedApply).outbox.any
      (fun record => !((Histories.after (next observingClient) initial
        retriedApply).service.acknowledge record.acknowledgement).isOk) = true := by
    decide +kernel
  obtain ⟨record, among, isRefused⟩ := List.any_eq_true.mp refused
  obtain ⟨service, isAccepted⟩ := accepted record among
  rw [isAccepted] at isRefused
  cases isRefused

theorem acknowledgements_stay_deliverable_applied :
    Deliverable (Histories.after (next observingClient) initial
      (.publish observedRevision :: untilApply ++ [.apply true, .write, .put])) := by
  apply acknowledgements_stay_deliverable
  have others : ∀ state, Histories.EveryStep (next observingClient) AppliesConsistently state
      [.write, .put] := fun _ => ⟨trivial, trivial, trivial⟩
  refine ⟨trivial, trivial, trivial, trivial, trivial, ?_, others _⟩
  rintro etag document _ ack (stored | ⟨record, among, _⟩)
  · cases stored
  · cases among

end RuntimeSystem

end RuntimeConfig

end SdarRuntime
