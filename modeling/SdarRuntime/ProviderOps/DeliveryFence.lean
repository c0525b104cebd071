import SdarRuntime.ProviderOps.Delivery

/-!
What holds over every history of the delivery workers. The count of a record is the number of its
claims, and a record that is claimed was claimed last by its owner; so a report changes the record
only for the latest attempt unless the same owner has claimed the record twice, and a record has no
attempts beyond the bound unless the lease of the last one runs out.
-/

namespace SdarRuntime

namespace ProviderOps

open Histories OrderedMap DeliverySystem

def DeliveryRecord.Ended (record : DeliveryRecord) : Prop :=
  record.state = .delivered ∨ record.state = .exhausted

instance (record : DeliveryRecord) : Decidable record.Ended :=
  inferInstanceAs (Decidable (_ ∨ _))

def DeliveryState.isClaimed : DeliveryState → Bool
  | .claimed _ _ => true
  | _ => false

variable {record : DeliveryRecord}

theorem claimedBy_eq_some {deliveries : Deliveries} {recordId ownerId : String}
    (found : claimedBy deliveries recordId ownerId = some record) :
    deliveries.get? recordId = some record ∧
      ∃ claimUntil, record.state = .claimed ownerId claimUntil := by
  obtain ⟨row, fenced⟩ := Option.filter_eq_some_iff.mp found
  refine ⟨row, ?_⟩
  cases state : record.state with
  | claimed owner claimUntil =>
    rw [state] at fenced
    rw [beq_iff_eq.mp fenced]
    exact ⟨claimUntil, rfl⟩
  | _ => simp [state] at fenced

structure Settles (record settled : DeliveryRecord) (outcome : Outcome) : Prop where
  sameId : settled.recordId = record.recordId
  sameCount : settled.attemptCount = record.attemptCount
  notClaimed : ∀ owner claimUntil, settled.state ≠ .claimed owner claimUntil
  notPending : settled.state ≠ .pending
  retried : settled.state = .retryWait →
    ∃ failure, outcome = .failed failure ∧ (record.attemptCount : Int) < failure.maximumAttempts

theorem reported_cases (hashtext : String → Int) (deliveries : Deliveries) (attempt : Attempt)
    (outcome : Outcome) :
    reported hashtext deliveries attempt outcome = deliveries ∨
      ∃ record settled, claimedBy deliveries attempt.recordId attempt.ownerId = some record ∧
        Settles record settled outcome ∧
        reported hashtext deliveries attempt outcome =
          deliveries.set attempt.recordId settled := by
  cases found : claimedBy deliveries attempt.recordId attempt.ownerId with
  | none =>
    left
    cases outcome <;>
      simp [reported, markDelivered, recordFailure, found]
  | some record =>
    right
    cases outcome with
    | delivered clock =>
      refine ⟨record, { record with
        state := .delivered
        deliveredAt := some clock }, rfl, ?_, ?_⟩
      · constructor
        · rfl
        · rfl
        · intro owner claimUntil claimed
          cases claimed
        · intro pending
          cases pending
        · intro retried
          cases retried
      · simp [reported, markDelivered, found]
    | failed failure =>
      refine ⟨record, failedRecord hashtext failure record, rfl, ?_, ?_⟩
      · by_cases last : failure.maximumAttempts ≤ record.attemptCount
        · have isState : (failedRecord hashtext failure record).state = .exhausted := by
            simp [failedRecord, last]
          constructor
          · rfl
          · rfl
          · intro owner claimUntil claimed
            rw [isState] at claimed
            cases claimed
          · intro pending
            rw [isState] at pending
            cases pending
          · intro retried
            rw [isState] at retried
            cases retried
        · have isState : (failedRecord hashtext failure record).state = .retryWait := by
            simp [failedRecord, last]
          constructor
          · rfl
          · rfl
          · intro owner claimUntil claimed
            rw [isState] at claimed
            cases claimed
          · intro pending
            rw [isState] at pending
            cases pending
          · intro retried
            exact ⟨failure, rfl, by omega⟩
      · simp [reported, recordFailure, found]

section

variable {deliveries : Deliveries} {now : Instant} {locked : String → Bool}
  {request : ClaimRequest}

theorem mem_candidates (member : record ∈ candidates now locked request deliveries) :
    record ∈ deliveries.values ∧ isDue now record = true := by
  have kept := (List.mem_filter.mp (List.mem_of_mem_take member)).1
  have sorted := List.mergeSort_perm (deliveries.values.filter (isDue now)) claimedEarlier
  exact List.mem_filter.mp (sorted.mem_iff.mp kept)

def Keyed (deliveries : Deliveries) : Prop :=
  ∀ recordId record, deliveries.get? recordId = some record → record.recordId = recordId

theorem Keyed.candidate (keyed : Keyed deliveries)
    (member : record ∈ candidates now locked request deliveries) :
    deliveries.get? record.recordId = some record := by
  obtain ⟨key, found⟩ := mem_values.mp (mem_candidates member).1
  rw [keyed key record found]
  exact found

theorem Keyed.candidates_distinct (keyed : Keyed deliveries) :
    ((candidates now locked request deliveries).map DeliveryRecord.recordId).Nodup := by
  have sameIds : deliveries.values.map DeliveryRecord.recordId = deliveries.keys := by
    simp only [OrderedMap.values, OrderedMap.keys, List.map_map]
    apply List.map_congr_left
    rintro ⟨key, record⟩ member
    exact keyed key record (mem_entries.mp member)
  have sorted := List.mergeSort_perm (deliveries.values.filter (isDue now)) claimedEarlier
  have within := ((List.take_sublist request.limit.toNat _).trans
    (List.filter_sublist (p := fun record => !locked record.recordId) (l :=
      (deliveries.values.filter (isDue now)).mergeSort claimedEarlier))).map
        DeliveryRecord.recordId
  apply List.Nodup.sublist within
  rw [(sorted.map DeliveryRecord.recordId).nodup_iff]
  apply List.Nodup.sublist (List.filter_sublist.map DeliveryRecord.recordId)
  rw [sameIds]
  exact deliveries.distinct

theorem claimDue_get? {clock : Instant} {records : List DeliveryRecord} {later : Deliveries}
    (keyed : Keyed deliveries)
    (claimed : claimDue deliveries request clock locked = .ok (records, later)) :
    ∃ taken, taken = candidates (request.now.getD clock) locked request deliveries ∧
      records = taken.map (claimedRecord (request.now.getD clock) request) ∧
      ∀ recordId, later.get? recordId = (deliveries.get? recordId).map fun record =>
        if recordId ∈ taken.map DeliveryRecord.recordId then
          claimedRecord (request.now.getD clock) request record
        else record := by
  unfold claimDue at claimed
  cases valid : assertClaimRequest request with
  | error error =>
    rw [valid] at claimed
    cases claimed
  | ok done =>
    rw [valid] at claimed
    cases claimed
    refine ⟨_, rfl, rfl, ?_⟩
    intro recordId
    rw [get?_filterMap]
    cases found : deliveries.get? recordId with
    | none => rfl
    | some record =>
      have isId := keyed recordId record found
      rw [Option.bind_some, Option.map_some, isId]
      congr 2
      rw [List.any_eq_true, List.mem_map, eq_iff_iff]
      simp only [beq_iff_eq]

end

namespace DeliverySystem

def claims (system : DeliverySystem) (recordId : String) : Nat :=
  (system.attempts.map Attempt.recordId).count recordId

def IsLatest (system : DeliverySystem) (attempt : Attempt) : Prop :=
  attempt ∈ system.attempts ∧
    ∀ other ∈ system.attempts, other.recordId = attempt.recordId → other.number ≤ attempt.number

instance (system : DeliverySystem) (attempt : Attempt) : Decidable (system.IsLatest attempt) :=
  inferInstanceAs (Decidable (_ ∧ _))

structure Consistent (system : DeliverySystem) : Prop where
  keyed : Keyed system.deliveries
  counted : ∀ recordId, system.claims recordId =
    ((system.deliveries.get? recordId).map DeliveryRecord.attemptCount).getD 0
  numbered : ∀ attempt ∈ system.attempts, ∀ record,
    system.deliveries.get? attempt.recordId = some record → attempt.number ≤ record.attemptCount
  held : ∀ recordId record owner claimUntil, system.deliveries.get? recordId = some record →
    record.state = .claimed owner claimUntil →
      { recordId := recordId
        ownerId := owner
        number := record.attemptCount : Attempt } ∈ system.attempts

theorem initial_consistent : initial.Consistent := by
  constructor
  · intro recordId record found
    cases found
  · intro recordId
    rfl
  · intro attempt member
    cases member
  · intro recordId record owner claimUntil found
    cases found

variable {system : DeliverySystem}

theorem Consistent.attempt_known (consistent : system.Consistent) {attempt : Attempt}
    (member : attempt ∈ system.attempts) :
    ∃ record, system.deliveries.get? attempt.recordId = some record := by
  cases found : system.deliveries.get? attempt.recordId with
  | some record => exact ⟨record, rfl⟩
  | none =>
    have none := consistent.counted attempt.recordId
    rw [found] at none
    have absent := List.count_eq_zero.mp none
    exact absurd (List.mem_map_of_mem member) absent

theorem Consistent.set (consistent : system.Consistent) {recordId : String}
    {record settled : DeliveryRecord} (found : system.deliveries.get? recordId = some record)
    (sameId : settled.recordId = record.recordId)
    (sameCount : settled.attemptCount = record.attemptCount)
    (notClaimed : ∀ owner claimUntil, settled.state ≠ .claimed owner claimUntil) :
    ({ system with
      deliveries := system.deliveries.set recordId settled } : DeliverySystem).Consistent := by
  have reads (other : String) : (system.deliveries.set recordId settled).get? other =
      if other = recordId then some settled else system.deliveries.get? other :=
    get?_set _ _ _ _
  constructor
  · intro other row isRow
    rw [reads] at isRow
    by_cases same : other = recordId
    · rw [if_pos same] at isRow
      cases isRow
      rw [sameId, same]
      exact consistent.keyed recordId record found
    · rw [if_neg same] at isRow
      exact consistent.keyed other row isRow
  · intro other
    rw [reads]
    by_cases same : other = recordId
    · have counted := consistent.counted recordId
      rw [found] at counted
      rw [if_pos same, same, Option.map_some, sameCount]
      exact counted
    · rw [if_neg same]
      exact consistent.counted other
  · intro attempt member row isRow
    rw [reads] at isRow
    by_cases same : attempt.recordId = recordId
    · rw [if_pos same] at isRow
      cases isRow
      rw [sameCount]
      rw [← same] at found
      exact consistent.numbered attempt member record found
    · rw [if_neg same] at isRow
      exact consistent.numbered attempt member row isRow
  · intro other row owner claimUntil isRow claimed
    rw [reads] at isRow
    by_cases same : other = recordId
    · rw [if_pos same] at isRow
      cases isRow
      exact absurd claimed (notClaimed owner claimUntil)
    · rw [if_neg same] at isRow
      exact consistent.held other row owner claimUntil isRow claimed

theorem Consistent.capture (consistent : system.Consistent) (recordId eventKey : String)
    (recordBody : Json) (clock : Instant) :
    ({ system with
      deliveries := captureProviderOpsDelivery system.deliveries recordId eventKey recordBody
        clock } : DeliverySystem).Consistent := by
  unfold captureProviderOpsDelivery
  split
  · exact consistent
  split
  · exact consistent
  · rename_i isNew
    have absent : system.deliveries.get? recordId = none := Option.not_isSome_iff_eq_none.mp isNew
    constructor
    · intro other row isRow
      rw [get?_set] at isRow
      split at isRow
      · rename_i same
        cases isRow
        exact same.symm
      · exact consistent.keyed other row isRow
    · intro other
      have counted := consistent.counted other
      rw [get?_set]
      split
      · rename_i same
        rw [same, absent] at counted
        rw [same]
        exact counted
      · exact counted
    · intro attempt member row isRow
      obtain ⟨known, isKnown⟩ := consistent.attempt_known member
      rw [get?_set] at isRow
      split at isRow
      · rename_i same
        rw [same, absent] at isKnown
        cases isKnown
      · exact consistent.numbered attempt member row isRow
    · intro other row owner claimUntil isRow claimed
      rw [get?_set] at isRow
      split at isRow
      · cases isRow
        cases claimed
      · exact consistent.held other row owner claimUntil isRow claimed

theorem Consistent.claimDue (consistent : system.Consistent) {request : ClaimRequest}
    {clock : Instant} {locked : String → Bool} {records : List DeliveryRecord} {later : Deliveries}
    (claimed : ProviderOps.claimDue system.deliveries request clock locked = .ok (records, later)) :
    Consistent {
      deliveries := later
      attempts := system.attempts ++ records.map (attemptOf request.ownerId) } := by
  obtain ⟨taken, isTaken, isRecords, reads⟩ := claimDue_get? consistent.keyed claimed
  have distinct : (taken.map DeliveryRecord.recordId).Nodup := by
    rw [isTaken]
    exact consistent.keyed.candidates_distinct
  have known : ∀ record ∈ taken, system.deliveries.get? record.recordId = some record := by
    intro record member
    rw [isTaken] at member
    exact consistent.keyed.candidate member
  have ids : records.map (fun record => (attemptOf request.ownerId record).recordId) =
      taken.map DeliveryRecord.recordId := by
    rw [isRecords, List.map_map]
    rfl
  constructor
  · intro recordId row isRow
    rw [reads] at isRow
    obtain ⟨record, found, isRow⟩ := Option.map_eq_some_iff.mp isRow
    have isId := consistent.keyed recordId record found
    split at isRow <;> (subst isRow; exact isId)
  · intro recordId
    have counted := consistent.counted recordId
    change ((system.attempts ++ records.map (attemptOf request.ownerId)).map
      Attempt.recordId).count recordId = _
    rw [List.map_append, List.count_append, List.map_map]
    change system.claims recordId +
      (records.map fun record => (attemptOf request.ownerId record).recordId).count recordId = _
    rw [ids, distinct.count, counted, reads]
    by_cases among : recordId ∈ taken.map DeliveryRecord.recordId
    · obtain ⟨record, member, isId⟩ := List.mem_map.mp among
      have found := known record member
      rw [isId] at found
      simp [among, found, claimedRecord]
    · simp [among]
  · intro attempt member row isRow
    rw [reads] at isRow
    obtain ⟨record, found, isRow⟩ := Option.map_eq_some_iff.mp isRow
    rcases List.mem_append.mp member with earlier | new
    · have bound := consistent.numbered attempt earlier record found
      split at isRow
      · subst isRow
        change attempt.number ≤ record.attemptCount + 1
        omega
      · subst isRow
        exact bound
    · rw [isRecords, List.map_map] at new
      obtain ⟨candidate, isCandidate, isAttempt⟩ := List.mem_map.mp new
      have sameId : attempt.recordId = candidate.recordId := by
        rw [← isAttempt]
        rfl
      have sameRecord := known candidate isCandidate
      rw [← sameId, found] at sameRecord
      cases sameRecord
      rw [if_pos (sameId ▸ List.mem_map_of_mem isCandidate)] at isRow
      subst isRow
      rw [← isAttempt]
      exact Nat.le_refl _
  · intro recordId row owner claimUntil isRow isClaimed
    rw [reads] at isRow
    obtain ⟨record, found, isRow⟩ := Option.map_eq_some_iff.mp isRow
    apply List.mem_append.mpr
    split at isRow
    · rename_i among
      obtain ⟨candidate, isCandidate, isId⟩ := List.mem_map.mp among
      have sameRecord := known candidate isCandidate
      rw [isId, found] at sameRecord
      cases sameRecord
      subst isRow
      injection isClaimed with isOwner
      right
      rw [isRecords, List.map_map]
      apply List.mem_map.mpr
      refine ⟨record, isCandidate, ?_⟩
      rw [← isOwner, ← isId]
      rfl
    · subst isRow
      exact Or.inl (consistent.held recordId record owner claimUntil found isClaimed)

theorem Consistent.next {hashtext : String → Int} (consistent : system.Consistent) (event : Event) :
    (system.next hashtext event).Consistent := by
  cases event with
  | capture recordId eventKey recordBody clock =>
    exact consistent.capture recordId eventKey recordBody clock
  | claimDue request clock locked =>
    simp only [DeliverySystem.next]
    split
    · exact consistent
    · rename_i records later claimed
      exact consistent.claimDue claimed
  | report attempt outcome =>
    simp only [DeliverySystem.next]
    split
    · rcases reported_cases hashtext system.deliveries attempt outcome with
        same | ⟨record, settled, isClaimed, settles, isSet⟩
      · rw [same]
        exact consistent
      · rw [isSet]
        exact consistent.set (claimedBy_eq_some isClaimed).1 settles.sameId settles.sameCount settles.notClaimed
    · exact consistent

end DeliverySystem

namespace DeliverySystem

variable {hashtext : String → Int} {system : DeliverySystem}

theorem Consistent.ended_stays (consistent : system.Consistent) (event : Event) {recordId : String}
    (found : system.deliveries.get? recordId = some record) (ended : record.Ended) :
    (system.next hashtext event).deliveries.get? recordId = some record := by
  cases event with
  | capture newId eventKey recordBody clock =>
    simp only [DeliverySystem.next, captureProviderOpsDelivery]
    split
    · exact found
    split
    · exact found
    · rename_i isNew
      have different : recordId ≠ newId := by
        intro same
        rw [← same, found] at isNew
        exact isNew rfl
      rw [get?_set_ne _ _ different]
      exact found
  | claimDue request clock locked =>
    simp only [DeliverySystem.next]
    split
    · exact found
    · rename_i records later claimed
      obtain ⟨taken, isTaken, -, reads⟩ := claimDue_get? consistent.keyed claimed
      have notTaken : recordId ∉ taken.map DeliveryRecord.recordId := by
        intro among
        obtain ⟨candidate, member, isId⟩ := List.mem_map.mp among
        rw [isTaken] at member
        have row := consistent.keyed.candidate member
        have due := (mem_candidates member).2
        rw [isId, found] at row
        cases row
        rcases ended with delivered | exhausted
        · simp [isDue, delivered] at due
        · simp [isDue, exhausted] at due
      rw [reads, found, Option.map_some, if_neg notTaken]
  | report attempt outcome =>
    simp only [DeliverySystem.next]
    split
    · rcases reported_cases hashtext system.deliveries attempt outcome with
        same | ⟨claimed, settled, isClaimed, settles, isSet⟩
      · rw [same]
        exact found
      · obtain ⟨isRow, claimUntil, state⟩ := claimedBy_eq_some isClaimed
        have different : recordId ≠ attempt.recordId := by
          intro same
          rw [← same, found] at isRow
          cases isRow
          rcases ended with delivered | exhausted
          · rw [delivered] at state
            cases state
          · rw [exhausted] at state
            cases state
        rw [isSet, get?_set_ne _ _ different]
        exact found
    · exact found

/-- An attempt does not report while its owner holds a later claim of the record. -/
def NotOvertaken (system : DeliverySystem) : Event → Prop
  | .report attempt _ =>
    ∀ record ∈ claimedBy system.deliveries attempt.recordId attempt.ownerId,
      record.attemptCount ≤ attempt.number
  | _ => True

instance (system : DeliverySystem) : ∀ event, Decidable (system.NotOvertaken event)
  | .capture _ _ _ _ => .isTrue trivial
  | .claimDue _ _ _ => .isTrue trivial
  | .report _ _ => inferInstanceAs (Decidable (∀ record ∈ claimedBy _ _ _, _))

def FencedStep (hashtext : String → Int) (system : DeliverySystem) : Event → Prop
  | .report attempt outcome =>
    (system.next hashtext (.report attempt outcome)).deliveries ≠ system.deliveries →
      system.IsLatest attempt
  | _ => True

variable {event : Event}

theorem Consistent.fencedStep (consistent : system.Consistent) (alone : system.NotOvertaken event) :
    system.FencedStep hashtext event := by
  cases event with
  | capture recordId eventKey recordBody clock => trivial
  | claimDue request clock locked => trivial
  | report attempt outcome =>
    intro changed
    simp only [DeliverySystem.next] at changed
    split at changed
    · rename_i member
      rcases reported_cases hashtext system.deliveries attempt outcome with
        same | ⟨record, settled, isClaimed, -⟩
      · exact absurd same changed
      · have last := alone record isClaimed
        have found := (claimedBy_eq_some isClaimed).1
        constructor
        · exact member
        · intro other isOther sameId
          have bound := consistent.numbered other isOther record (by rw [sameId, found])
          omega
    · exact absurd rfl changed

/-- Every failure is recorded with the bound, and no claim takes over the lease of a last
attempt. -/
def LastAttemptsEnd (maximumAttempts : Nat) (system : DeliverySystem) : Event → Prop
  | .claimDue request clock locked =>
    ∀ record ∈ candidates (request.now.getD clock) locked request system.deliveries,
      record.attemptCount = maximumAttempts → record.state.isClaimed = false
  | .report _ (.failed failure) => failure.maximumAttempts = maximumAttempts
  | _ => True

instance (maximumAttempts : Nat) (system : DeliverySystem) :
    ∀ event, Decidable (system.LastAttemptsEnd maximumAttempts event)
  | .capture _ _ _ _ => .isTrue trivial
  | .claimDue _ _ _ => inferInstanceAs (Decidable (∀ record ∈ candidates _ _ _ _, _))
  | .report _ (.delivered _) => .isTrue trivial
  | .report _ (.failed _) => inferInstanceAs (Decidable (_ = _))

/-- The attempts of a record are within the bound, and below it while more of them may follow. -/
structure Bounded (maximumAttempts : Nat) (record : DeliveryRecord) : Prop where
  bound : record.attemptCount ≤ maximumAttempts
  fresh : record.state = .pending → record.attemptCount = 0
  retried : record.state = .retryWait → record.attemptCount < maximumAttempts

theorem Consistent.bounded_step {maximumAttempts : Nat} (positive : 0 < maximumAttempts)
    (consistent : system.Consistent) (ends : system.LastAttemptsEnd maximumAttempts event)
    (bounded : ∀ recordId record, system.deliveries.get? recordId = some record →
      Bounded maximumAttempts record) :
    ∀ recordId record, (system.next hashtext event).deliveries.get? recordId = some record →
      Bounded maximumAttempts record := by
  intro recordId row isRow
  cases event with
  | capture newId eventKey recordBody clock =>
    simp only [DeliverySystem.next, captureProviderOpsDelivery] at isRow
    split at isRow
    · exact bounded recordId row isRow
    split at isRow
    · exact bounded recordId row isRow
    · rw [get?_set] at isRow
      split at isRow
      · cases isRow
        constructor
        · exact Nat.zero_le _
        · intro pending
          rfl
        · intro retried
          cases retried
      · exact bounded recordId row isRow
  | claimDue request clock locked =>
    simp only [DeliverySystem.next] at isRow
    split at isRow
    · exact bounded recordId row isRow
    · rename_i records later claimed
      obtain ⟨taken, isTaken, -, reads⟩ := claimDue_get? consistent.keyed claimed
      rw [reads] at isRow
      obtain ⟨record, found, isRow⟩ := Option.map_eq_some_iff.mp isRow
      have before := bounded recordId record found
      split at isRow
      · rename_i among
        obtain ⟨candidate, member, isId⟩ := List.mem_map.mp among
        rw [isTaken] at member
        have due := (mem_candidates member).2
        have last := ends candidate member
        have sameRow := consistent.keyed.candidate member
        rw [isId, found] at sameRow
        cases sameRow
        subst isRow
        have below : record.attemptCount < maximumAttempts := by
          cases state : record.state with
          | pending =>
            rw [before.fresh state]
            exact positive
          | retryWait => exact before.retried state
          | claimed owner claimUntil =>
            apply Nat.lt_of_le_of_ne before.bound
            intro isLast
            have free := last isLast
            rw [state] at free
            cases free
          | delivered => simp [isDue, state] at due
          | exhausted => simp [isDue, state] at due
        constructor
        · exact below
        · intro pending
          cases pending
        · intro retried
          cases retried
      · subst isRow
        exact before
  | report attempt outcome =>
    simp only [DeliverySystem.next] at isRow
    split at isRow
    · rcases reported_cases hashtext system.deliveries attempt outcome with
        same | ⟨record, settled, isClaimed, settles, isSet⟩
      · rw [same] at isRow
        exact bounded recordId row isRow
      · rw [isSet, get?_set] at isRow
        split at isRow
        · cases isRow
          have before := bounded attempt.recordId record (claimedBy_eq_some isClaimed).1
          have sameCount := settles.sameCount
          constructor
          · rw [sameCount]
            exact before.bound
          · intro pending
            exact absurd pending settles.notPending
          · intro retried
            obtain ⟨failure, isFailure, below⟩ := settles.retried retried
            subst isFailure
            have sameBound : failure.maximumAttempts = maximumAttempts := ends
            omega
        · exact bounded recordId row isRow
    · exact bounded recordId row isRow

/-- Where no attempt reports under a later claim of its own owner, and no lease of a last attempt
is taken over, the workers keep what they promise. -/
theorem deliveries_settle (hashtext : String → Int) (maximumAttempts : Nat)
    (positive : 0 < maximumAttempts) (events : List Event)
    (meets : Histories.EveryStep (next hashtext)
      (fun system event =>
        system.NotOvertaken event ∧ system.LastAttemptsEnd maximumAttempts event)
      initial events) :
    (∀ earlier later, events = earlier ++ later → ∀ recordId record,
      (after (next hashtext) initial earlier).deliveries.get? recordId = some record →
        record.Ended →
          (after (next hashtext) initial events).deliveries.get? recordId =
            some record) ∧
    Histories.EveryStep (next hashtext) (FencedStep hashtext) initial events ∧
    ∀ recordId, (after (next hashtext) initial events).claims recordId ≤
      maximumAttempts := by
  have consistentAfter (steps : List Event) :
      (after (next hashtext) initial steps).Consistent :=
    always (fun _ event consistent => consistent.next event) initial_consistent steps
  constructor
  · intro earlier later isEvents recordId record found ended
    rw [isEvents, after_append]
    have step : ∀ system event,
        system.Consistent ∧ system.deliveries.get? recordId = some record →
        (next hashtext system event).Consistent ∧
          (next hashtext system event).deliveries.get? recordId = some record :=
      fun system event holds =>
        ⟨holds.1.next event, holds.1.ended_stays event holds.2 ended⟩
    exact (always step ⟨consistentAfter earlier, found⟩ later).2
  constructor
  · have alone := (everyStep_and.mp meets).1
    clear meets
    generalize isStart : initial = start at alone ⊢
    have consistent : start.Consistent := isStart ▸ initial_consistent
    clear isStart
    induction events generalizing start with
    | nil => trivial
    | cons event later ih =>
      exact ⟨consistent.fencedStep alone.1, ih _ alone.2 (consistent.next event)⟩
  · have ends := (everyStep_and.mp meets).2
    have bounded : (after (next hashtext) initial events).Consistent ∧
        ∀ recordId record,
          (after (next hashtext) initial events).deliveries.get? recordId =
            some record → Bounded maximumAttempts record :=
      keeps (I := fun system => system.Consistent ∧ ∀ recordId record,
          system.deliveries.get? recordId = some record → Bounded maximumAttempts record)
        (fun system event holds meets =>
          ⟨holds.1.next event, holds.1.bounded_step positive meets holds.2⟩)
        ⟨initial_consistent, fun recordId record found => by cases found⟩ ends
    intro recordId
    rw [bounded.1.counted recordId]
    cases found : (after (next hashtext) initial events).deliveries.get? recordId with
    | none => exact Nat.zero_le _
    | some record => exact (bounded.2 recordId record found).bound

end DeliverySystem

namespace Sample

def claim (ownerId : String) (now : Instant) : Event :=
  .claimDue {
    ownerId := ownerId
    leaseMilliseconds := 30000
    limit := 10
    now := none
  } now fun _ => false

def attempt (ownerId : String) (number : Nat) : Attempt := {
  recordId := "record-1"
  ownerId := ownerId
  number := number
}

def captured : Event := .capture "record-1" "event:1" (.obj []) 0

def failing (ownerId : String) (number : Nat) (failedAt : Instant) (maximumAttempts : Int) :
    Event :=
  .report (attempt ownerId number) (.failed {
    errorCode := "TELEMETRY_EXPORT_FAILED"
    errorMessage := "Error"
    failedAt := failedAt
    maximumAttempts := maximumAttempts
  })

/-- The first attempt crashes, the second fails, the third delivers the record. -/
def delivering : List Event := [
  captured,
  claim "replica-a" 0,
  claim "replica-b" 30000000,
  failing "replica-b" 2 30000000 3,
  claim "replica-a" 60000000,
  .report (attempt "replica-a" 3) (.delivered 60000000)
]

def reclaiming : List Event := [captured, claim "replica-a" 0, claim "replica-a" 30000000]

def crashing : List Event := [
  captured,
  claim "replica-a" 0,
  failing "replica-a" 1 0 2,
  claim "replica-a" 30000000,
  claim "replica-b" 60000000
]

end Sample

open DeliverySystem in
theorem deliveries_settle_sample :
    (after (next fun _ => 0) initial Sample.delivering).claims "record-1" ≤ 3 :=
  (deliveries_settle (fun _ => 0) 3 (by decide) Sample.delivering (by decide +kernel)).2.2 _

open DeliverySystem in
/-- The owner of an expired lease claims the record again, and a report of the first attempt is
taken for one of the second; and where the last attempt crashes, the record is claimed once
more. -/
theorem deliveries_overtaken :
    ¬(after (next fun _ => 0) initial Sample.reclaiming).IsLatest
      (Sample.attempt "replica-a" 1) ∧
    ((after (next fun _ => 0) initial Sample.reclaiming).deliveries.get? "record-1").map
      (·.state) = some (.claimed "replica-a" 60000000) ∧
    ((after (next fun _ => 0) initial (Sample.reclaiming ++
      [.report (Sample.attempt "replica-a" 1) (.delivered 30000000)])).deliveries.get?
        "record-1").map (·.state) = some .delivered ∧
    (after (next fun _ => 0) initial Sample.crashing).claims "record-1" = 3 := by
  decide +kernel

end ProviderOps

end SdarRuntime
