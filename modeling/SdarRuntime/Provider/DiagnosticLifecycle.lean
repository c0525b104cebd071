import SdarRuntime.Provider.DiagnosticLease

/-!
What a diagnostic lease goes through. A lease only moves forward, each move leaves one receipt,
and of the live leases of a selector all but one have run out. A lease that was consumed or
expired can still be disarmed: only a run without such a disarm leaves every end final.
-/

namespace SdarRuntime.Diagnostic

open Transaction OrderedMap SmppDiagnosticLease

/-! ### Moves -/

def SmppDiagnosticLeaseState.rank : SmppDiagnosticLeaseState → Nat
  | .armed => 0
  | .bound => 1
  | .consumed => 2
  | .disarmed => 2
  | .expired => 2

def SmppDiagnosticReceiptAction.rank : SmppDiagnosticReceiptAction → Nat
  | .armed => 0
  | .bound => 1
  | .consumed => 2
  | .disarmed => 2
  | .expired => 2

@[simp]
theorem action_rank (state : SmppDiagnosticLeaseState) : state.action.rank = state.rank := by
  cases state <;> rfl

def SmppDiagnosticLeaseState.IsFinal (state : SmppDiagnosticLeaseState) : Prop :=
  state = .consumed ∨ state = .disarmed ∨ state = .expired

instance (state : SmppDiagnosticLeaseState) : Decidable state.IsFinal :=
  inferInstanceAs (Decidable (_ ∨ _ ∨ _))

theorem rank_le_two (state : SmppDiagnosticLeaseState) : state.rank ≤ 2 := by
  cases state <;> decide

theorem isFinal_iff {state : SmppDiagnosticLeaseState} : state.IsFinal ↔ state.rank = 2 := by
  cases state <;> simp [SmppDiagnosticLeaseState.IsFinal, SmppDiagnosticLeaseState.rank]

variable {lease : SmppDiagnosticLease}

theorem isLive_iff : lease.isLive = true ↔ lease.state.rank < 2 := by
  unfold isLive
  cases lease.state <;> decide

def SmppDiagnosticLeaseState.Follows (old new : SmppDiagnosticLeaseState) : Prop :=
  old.rank < new.rank ∨ new = .disarmed

theorem SmppDiagnosticLeaseState.Follows.rank_le {old new : SmppDiagnosticLeaseState}
    (follows : old.Follows new) : old.rank ≤ new.rank := by
  rcases follows with later | rfl
  · omega
  · cases old <;> decide

def DiagnosticTables.armed (tables : DiagnosticTables) (request : ArmRequest) (fence : Nat) :
    DiagnosticTables :=
  { leases := tables.leases.set request.leaseId (request.lease fence)
    receipts := tables.receipts.set (request.leaseId, .armed) request.receipt
    fence := fence }

def DiagnosticTables.recorded (tables : DiagnosticTables) (lease next : SmppDiagnosticLease)
    (receipt : SmppDiagnosticReceipt) : DiagnosticTables :=
  { leases := tables.leases.set lease.leaseId next
    receipts := tables.receipts.set (receipt.leaseId, receipt.action) receipt
    fence := tables.fence }

/-- The selector of the request has no lease that is live and has not run out. -/
def SelectorFree (tables : DiagnosticTables) (request : ArmRequest) : Prop :=
  ∀ leaseId lease, tables.leases.get? leaseId = some lease → lease.isLive = true →
    lease.scope.argumentHash = request.scope.argumentHash → lease.expiresAt ≤ request.now

structure Moves (call : DiagnosticCall) (tables : DiagnosticTables)
    (lease next : SmppDiagnosticLease) (receipt : SmppDiagnosticReceipt) : Prop where
  known : tables.leases.get? lease.leaseId = some lease
  follows : lease.state.Follows next.state
  leaseId : next.leaseId = lease.leaseId
  scope : next.scope = lease.scope
  expiresAt : next.expiresAt = lease.expiresAt
  receiptLease : receipt.leaseId = lease.leaseId
  receiptAction : receipt.action = next.state.action
  receiptState : receipt.state = next.state
  unreceipted : tables.receipts.get? (lease.leaseId, next.state.action) = none
  disarms : next.state = .disarmed →
    ∃ requestHash receiptId occurredAt, call = .disarm lease.leaseId requestHash receiptId occurredAt

inductive Change (call : DiagnosticCall) (tables : DiagnosticTables) : DiagnosticTables → Prop where
  | arms (request : ArmRequest) (fence : Nat) (isArm : call = .arm request)
      (unknown : tables.leases.get? request.leaseId = none)
      (free : SelectorFree tables request) : Change call tables (tables.armed request fence)
  | moves (lease next : SmppDiagnosticLease) (receipt : SmppDiagnosticReceipt)
      (moves : Moves call tables lease next receipt) :
      Change call tables (tables.recorded lease next receipt)

/-! ### The invariant -/

/-- Two leases of one selector, both live and neither run out at `now`. -/
def Collide (now : Instant) (left right : SmppDiagnosticLease) : Prop :=
  left.isLive = true ∧ right.isLive = true ∧ left.scope.argumentHash = right.scope.argumentHash ∧
    now < left.expiresAt ∧ now < right.expiresAt

structure Consistent (now : Instant) (tables : DiagnosticTables) : Prop where
  keyed : ∀ leaseId lease, tables.leases.get? leaseId = some lease → lease.leaseId = leaseId
  receipted : ∀ leaseId lease, tables.leases.get? leaseId = some lease →
    ∃ receipt, tables.receipts.get? (leaseId, lease.state.action) = some receipt ∧
      receipt.leaseId = leaseId ∧ receipt.action = lease.state.action ∧
        receipt.state = lease.state
  reached : ∀ leaseId action receipt, tables.receipts.get? (leaseId, action) = some receipt →
    ∃ lease, tables.leases.get? leaseId = some lease ∧ action.rank ≤ lease.state.rank
  exclusive : ∀ leftId rightId left right, tables.leases.get? leftId = some left →
    tables.leases.get? rightId = some right → Collide now left right → leftId = rightId

theorem consistent_empty (now : Instant) : Consistent now .empty where
  keyed := by
    intro leaseId lease known
    cases known
  receipted := by
    intro leaseId lease known
    cases known
  reached := by
    intro leaseId action receipt known
    cases known
  exclusive := by
    intro leftId rightId left right known
    cases known

variable {now : Instant} {tables tables' : DiagnosticTables} {call : DiagnosticCall}

theorem Consistent.later {soon : Instant} (consistent : Consistent now tables)
    (passes : now ≤ soon) : Consistent soon tables where
  keyed := consistent.keyed
  receipted := consistent.receipted
  reached := consistent.reached
  exclusive := by
    intro leftId rightId left right leftKnown rightKnown collide
    apply consistent.exclusive leftId rightId left right leftKnown rightKnown
    obtain ⟨leftLive, rightLive, sameHash, leftLasts, rightLasts⟩ := collide
    exact ⟨leftLive, rightLive, sameHash, Int.lt_of_le_of_lt passes leftLasts,
      Int.lt_of_le_of_lt passes rightLasts⟩

theorem Consistent.armed {request : ArmRequest} (consistent : Consistent request.now tables)
    (unknown : tables.leases.get? request.leaseId = none) (free : SelectorFree tables request)
    (fence : Nat) : Consistent request.now (tables.armed request fence) where
  keyed := by
    intro leaseId lease known
    simp only [DiagnosticTables.armed, get?_set] at known
    by_cases same : leaseId = request.leaseId
    · rw [if_pos same] at known
      cases known
      exact same.symm
    · rw [if_neg same] at known
      exact consistent.keyed leaseId lease known
  receipted := by
    intro leaseId lease known
    simp only [DiagnosticTables.armed, get?_set] at known ⊢
    by_cases same : leaseId = request.leaseId
    · rw [if_pos same] at known
      cases known
      refine ⟨request.receipt, ?_, same.symm, rfl, rfl⟩
      rw [if_pos (by rw [same]; rfl)]
    · rw [if_neg same] at known
      rw [if_neg (fun equal => same (congrArg Prod.fst equal))]
      exact consistent.receipted leaseId lease known
  reached := by
    intro leaseId action receipt known
    simp only [DiagnosticTables.armed, get?_set] at known ⊢
    by_cases same : leaseId = request.leaseId
    · rw [if_pos same]
      refine ⟨_, rfl, ?_⟩
      by_cases isArmed : action = .armed
      · rw [isArmed]
        exact Nat.le_refl 0
      · rw [if_neg (fun equal => isArmed (congrArg Prod.snd equal))] at known
        obtain ⟨lease, present, -⟩ := consistent.reached leaseId action receipt known
        rw [same, unknown] at present
        cases present
    · rw [if_neg same]
      rw [if_neg (fun equal => same (congrArg Prod.fst equal))] at known
      exact consistent.reached leaseId action receipt known
  exclusive := by
    intro leftId rightId left right leftKnown rightKnown collide
    simp only [DiagnosticTables.armed, get?_set] at leftKnown rightKnown
    obtain ⟨leftLive, rightLive, sameHash, leftLasts, rightLasts⟩ := collide
    -- A stored lease that collides with the new one would have kept the selector.
    by_cases leftNew : leftId = request.leaseId
    · rw [if_pos leftNew] at leftKnown
      cases leftKnown
      by_cases rightNew : rightId = request.leaseId
      · rw [leftNew, rightNew]
      · rw [if_neg rightNew] at rightKnown
        have lapsed := free rightId right rightKnown rightLive sameHash.symm
        exact absurd rightLasts (Int.not_lt.mpr lapsed)
    · rw [if_neg leftNew] at leftKnown
      by_cases rightNew : rightId = request.leaseId
      · rw [if_pos rightNew] at rightKnown
        cases rightKnown
        have lapsed := free leftId left leftKnown leftLive sameHash
        exact absurd leftLasts (Int.not_lt.mpr lapsed)
      · rw [if_neg rightNew] at rightKnown
        exact consistent.exclusive leftId rightId left right leftKnown rightKnown
          ⟨leftLive, rightLive, sameHash, leftLasts, rightLasts⟩

variable {receipt : SmppDiagnosticReceipt}

theorem Consistent.recorded {lease next : SmppDiagnosticLease} (consistent : Consistent now tables)
    (moves : Moves call tables lease next receipt) :
    Consistent now (tables.recorded lease next receipt) where
  keyed := by
    intro leaseId other known
    simp only [DiagnosticTables.recorded, get?_set] at known
    by_cases same : leaseId = lease.leaseId
    · rw [if_pos same] at known
      cases known
      rw [moves.leaseId, same]
    · rw [if_neg same] at known
      exact consistent.keyed leaseId other known
  receipted := by
    intro leaseId other known
    simp only [DiagnosticTables.recorded, get?_set, moves.receiptLease,
      moves.receiptAction] at known ⊢
    by_cases same : leaseId = lease.leaseId
    · rw [if_pos same] at known
      cases known
      refine ⟨receipt, ?_, ?_, moves.receiptAction, moves.receiptState⟩
      · rw [if_pos (by rw [same])]
      · rw [moves.receiptLease, same]
    · rw [if_neg same] at known
      rw [if_neg (fun equal => same (congrArg Prod.fst equal))]
      exact consistent.receipted leaseId other known
  reached := by
    intro leaseId action other known
    simp only [DiagnosticTables.recorded, get?_set, moves.receiptLease,
      moves.receiptAction] at known ⊢
    by_cases same : leaseId = lease.leaseId
    · rw [if_pos same]
      refine ⟨next, rfl, ?_⟩
      by_cases isNext : action = next.state.action
      · exact Nat.le_of_eq (by rw [isNext, action_rank])
      · rw [if_neg (fun equal => isNext (congrArg Prod.snd equal))] at known
        obtain ⟨held, present, earlier⟩ := consistent.reached leaseId action other known
        rw [same, moves.known] at present
        cases present
        exact Nat.le_trans earlier moves.follows.rank_le
    · rw [if_neg same]
      rw [if_neg (fun equal => same (congrArg Prod.fst equal))] at known
      exact consistent.reached leaseId action other known
  exclusive := by
    have before : ∀ leaseId other,
        (tables.recorded lease next receipt).leases.get? leaseId = some other →
        other.isLive = true → now < other.expiresAt →
        ∃ held, tables.leases.get? leaseId = some held ∧ held.isLive = true ∧
          held.scope = other.scope ∧ now < held.expiresAt := by
      intro leaseId other known live lasts
      simp only [DiagnosticTables.recorded, get?_set] at known
      by_cases same : leaseId = lease.leaseId
      · rw [if_pos same] at known
        cases known
        refine ⟨lease, ?_, ?_, moves.scope.symm, ?_⟩
        · rw [same]
          exact moves.known
        · rw [isLive_iff] at live ⊢
          exact Nat.lt_of_le_of_lt moves.follows.rank_le live
        · rw [← moves.expiresAt]
          exact lasts
      · rw [if_neg same] at known
        exact ⟨other, known, live, rfl, lasts⟩
    intro leftId rightId left right leftKnown rightKnown collide
    obtain ⟨leftLive, rightLive, sameHash, leftLasts, rightLasts⟩ := collide
    obtain ⟨left', leftBefore, leftLive', leftScope, leftLasts'⟩ :=
      before leftId left leftKnown leftLive leftLasts
    obtain ⟨right', rightBefore, rightLive', rightScope, rightLasts'⟩ :=
      before rightId right rightKnown rightLive rightLasts
    apply consistent.exclusive leftId rightId left' right' leftBefore rightBefore
    refine ⟨leftLive', rightLive', ?_, leftLasts', rightLasts'⟩
    rw [leftScope, rightScope]
    exact sameHash

theorem Change.consistent (change : Change call tables tables')
    (consistent : Consistent call.time tables) : Consistent call.time tables' := by
  cases change with
  | arms request fence isArm unknown free =>
    subst isArm
    exact consistent.armed unknown free fence
  | moves lease next receipt moves => exact consistent.recorded moves

/-! ### What the statements commit -/

variable {backend : Backend}

variable {answer : Unit}

theorem insertLease_eq_ok (committed : insertLease backend lease tables = .ok (answer, tables')) :
    tables' = { tables with leases := tables.leases.set lease.leaseId lease } := by
  obtain ⟨_, _, ran, rest⟩ := bind_eq_ok.mp committed
  obtain ⟨rfl, rfl⟩ := read_eq_ok.mp ran
  split at rest
  · exact (abort_eq_ok.mp rest).elim
  · exact (update_eq_ok.mp rest).symm

theorem insertReceipt_eq_ok
    (committed : insertReceipt backend receipt tables = .ok (answer, tables')) :
    tables' = { tables with
      receipts := tables.receipts.set (receipt.leaseId, receipt.action) receipt } := by
  obtain ⟨_, _, ran, rest⟩ := bind_eq_ok.mp committed
  obtain ⟨rfl, rfl⟩ := read_eq_ok.mp ran
  split at rest
  · exact (abort_eq_ok.mp rest).elim
  · exact (update_eq_ok.mp rest).symm

variable {result : SmppDiagnosticControlResult}

theorem recordChange_eq_ok {lease next : SmppDiagnosticLease}
    (committed : recordChange backend lease next receipt tables = .ok (result, tables')) :
    result = { lease := next, receipt := receipt } ∧
      tables' = tables.recorded lease next receipt := by
  obtain ⟨_, _, ran, rest⟩ := bind_eq_ok.mp committed
  obtain ⟨_, _, inserted, answered⟩ := bind_eq_ok.mp rest
  obtain ⟨rfl, rfl⟩ := pure_eq_ok.mp answered
  have receipts := insertReceipt_eq_ok inserted
  unfold updateLease at ran
  split at ran
  · exact (abort_eq_ok.mp ran).elim
  · have leases := (update_eq_ok.mp ran).symm
    subst leases
    exact ⟨rfl, receipts⟩

variable {leaseId : String}

theorem requiredLease_eq_ok (committed : requiredLease leaseId tables = .ok (lease, tables')) :
    tables.leases.get? leaseId = some lease ∧ tables' = tables := by
  obtain ⟨_, _, ran, rest⟩ := bind_eq_ok.mp committed
  obtain ⟨rfl, rfl⟩ := read_eq_ok.mp ran
  cases known : tables.leases.get? leaseId with
  | none =>
    rw [known] at rest
    exact (abort_eq_ok.mp rest).elim
  | some stored =>
    rw [known] at rest
    obtain ⟨rfl, rfl⟩ := pure_eq_ok.mp rest
    exact ⟨rfl, rfl⟩

theorem optionalReceipt_eq_ok {action : SmppDiagnosticReceiptAction}
    {found : Option SmppDiagnosticReceipt}
    (committed : optionalReceipt leaseId action tables = .ok (found, tables')) :
    tables.receipts.get? (leaseId, action) = found ∧ tables' = tables := by
  obtain ⟨_, _, ran, rest⟩ := bind_eq_ok.mp committed
  obtain ⟨rfl, rfl⟩ := read_eq_ok.mp ran
  obtain ⟨same, rfl⟩ := pure_eq_ok.mp rest
  exact ⟨same, rfl⟩

theorem diagnosticResult_eq_ok {action : SmppDiagnosticReceiptAction}
    (committed : diagnosticResult lease action tables = .ok (result, tables')) :
    tables' = tables := by
  obtain ⟨found, _, ran, rest⟩ := bind_eq_ok.mp committed
  obtain ⟨-, rfl⟩ := optionalReceipt_eq_ok ran
  cases found with
  | none => exact (abort_eq_ok.mp rest).elim
  | some receipt => exact (pure_eq_ok.mp rest).2.symm

variable {matching : SmppDiagnosticLease → Bool} {found : List SmppDiagnosticLease}

theorem scan_eq_ok (committed : scan backend matching tables = .ok (found, tables')) :
    found.Perm (tables.leases.values.filter matching) ∧ tables' = tables := by
  obtain ⟨_, _, ran, rest⟩ := bind_eq_ok.mp committed
  obtain ⟨rfl, rfl⟩ := read_eq_ok.mp ran
  cases backend with
  | memory =>
    obtain ⟨rfl, rfl⟩ := pure_eq_ok.mp rest
    exact ⟨List.Perm.refl _, rfl⟩
  | postgres =>
    obtain ⟨rfl, rfl⟩ := pure_eq_ok.mp rest
    exact ⟨List.mergeSort_perm _ _, rfl⟩

theorem Consistent.known_of_mem (consistent : Consistent now tables)
    (member : lease ∈ tables.leases.values) :
    tables.leases.get? lease.leaseId = some lease := by
  obtain ⟨leaseId, known⟩ := mem_values.mp member
  rw [consistent.keyed leaseId lease known]
  exact known

theorem Consistent.values_nodup (consistent : Consistent now tables) :
    (tables.leases.values.map SmppDiagnosticLease.leaseId).Nodup := by
  have same : tables.leases.values.map SmppDiagnosticLease.leaseId = tables.leases.keys := by
    unfold OrderedMap.values OrderedMap.keys
    rw [List.map_map]
    apply List.map_congr_left
    intro entry member
    exact consistent.keyed entry.1 entry.2 (mem_entries.mp member)
  rw [same]
  exact tables.leases.distinct

theorem Consistent.unreceipted (consistent : Consistent now tables)
    (known : tables.leases.get? lease.leaseId = some lease) {action : SmppDiagnosticReceiptAction}
    (ahead : lease.state.rank < action.rank) :
    tables.receipts.get? (lease.leaseId, action) = none := by
  cases held : tables.receipts.get? (lease.leaseId, action) with
  | none => rfl
  | some receipt =>
    obtain ⟨stored, present, reached⟩ := consistent.reached _ _ _ held
    rw [known] at present
    cases present
    omega

/-! ### What the operations do -/

theorem arm_steps {request : ArmRequest} (unknown : tables.leases.get? request.leaseId = none)
    (committed : armDiagnosticLease backend request tables = .ok (result, tables')) :
    tables' = tables ∨ Change (.arm request) tables tables' := by
  obtain ⟨_, _, ran, rest⟩ := bind_eq_ok.mp committed
  obtain ⟨rfl, rfl⟩ := read_eq_ok.mp ran
  cases found : tables.leases.values.find? fun candidate =>
      candidate.stableOperationKey == request.stableOperationKey with
  | some prior =>
    rw [found] at rest
    change (if prior.canonicalRequestHash ≠ request.requestHash then _ else _ : Tx _) _ = _
      at rest
    split at rest
    · exact (abort_eq_ok.mp rest).elim
    · exact .inl (diagnosticResult_eq_ok rest)
  | none =>
    rw [found] at rest
    change (if _ then _ else _ : Tx _) _ = _ at rest
    split at rest
    · exact (abort_eq_ok.mp rest).elim
    · rename_i conflict
      obtain ⟨fence, _, allocated, inserts⟩ := bind_eq_ok.mp rest
      obtain ⟨_, _, advanced, answered⟩ := bind_eq_ok.mp allocated
      obtain ⟨_, _, reread, numbered⟩ := bind_eq_ok.mp answered
      obtain ⟨rfl, rfl⟩ := read_eq_ok.mp reread
      obtain ⟨rfl, rfl⟩ := pure_eq_ok.mp numbered
      have counted := update_eq_ok.mp advanced
      subst counted
      obtain ⟨_, _, leased, receives⟩ := bind_eq_ok.mp inserts
      have leases := insertLease_eq_ok leased
      subst leases
      obtain ⟨_, _, received, ends⟩ := bind_eq_ok.mp receives
      have receipts := insertReceipt_eq_ok received
      subst receipts
      obtain ⟨-, rfl⟩ := pure_eq_ok.mp ends
      refine .inr (.arms request (tables.fence + 1) rfl unknown ?_)
      intro leaseId lease known live sameHash
      by_contra lasts
      apply conflict
      rw [List.any_eq_true]
      refine ⟨lease, mem_values.mpr ⟨leaseId, known⟩, ?_⟩
      simp only [sameHash, live, Bool.and_eq_true, beq_self_eq_true, decide_eq_true_eq]
      exact ⟨⟨trivial, trivial⟩, Int.not_le.mp lasts⟩

theorem bind_steps {binding : SmppDiagnosticBinding} {receiptId : String}
    {result : Option SmppDiagnosticControlResult}
    (consistent : Consistent now tables)
    (committed : bindDiagnosticLease backend binding receiptId tables = .ok (result, tables')) :
    (result = none ∧ tables' = tables) ∨
      ∃ lease next receipt, lease.state = .armed ∧ next.state = .bound ∧
        Moves (.bind binding receiptId) tables lease next receipt ∧
          result = some { lease := next, receipt := receipt } ∧
            tables' = tables.recorded lease next receipt := by
  obtain ⟨found, _, scanned, rest⟩ := bind_eq_ok.mp committed
  obtain ⟨perm, rfl⟩ := scan_eq_ok scanned
  match found, perm, rest with
  | [], _, rest =>
    obtain ⟨rfl, rfl⟩ := pure_eq_ok.mp rest
    exact .inl ⟨rfl, rfl⟩
  | [lease], perm, rest =>
    obtain ⟨_, _, recorded, answered⟩ := bind_eq_ok.mp rest
    obtain ⟨rfl, rfl⟩ := pure_eq_ok.mp answered
    obtain ⟨rfl, rfl⟩ := recordChange_eq_ok recorded
    have member := perm.subset (List.mem_singleton.mpr rfl)
    obtain ⟨stored, matching⟩ := List.mem_filter.mp member
    have known := consistent.known_of_mem stored
    have isArmed : lease.state = .armed := by
      simp only [isCandidate, Bool.and_eq_true, beq_iff_eq] at matching
      exact matching.1.1.1.1
    refine .inr ⟨lease, _, _, isArmed, rfl, ?_, rfl, rfl⟩
    exact {
      known := known
      follows := .inl (by rw [isArmed]; exact Nat.zero_lt_one)
      leaseId := rfl
      scope := rfl
      expiresAt := rfl
      receiptLease := rfl
      receiptAction := rfl
      receiptState := rfl
      unreceipted := consistent.unreceipted known (by rw [isArmed]; exact Nat.zero_lt_one)
      disarms := by
        intro impossible
        cases impossible }
  | _ :: _ :: _, _, rest => exact (abort_eq_ok.mp rest).elim

variable {occurredAt : Instant}

theorem consume_steps {leaseId requestHash receiptId : String} (consistent : Consistent now tables)
    (committed : consumeDiagnosticLease backend leaseId requestHash receiptId occurredAt tables =
      .ok (result, tables')) :
    tables'.receipts.get? (leaseId, .consumed) = some result.receipt ∧ (tables' = tables ∨
      Change (.consume leaseId requestHash receiptId occurredAt) tables tables') := by
  obtain ⟨lease, _, required, rest⟩ := bind_eq_ok.mp committed
  obtain ⟨known, rfl⟩ := requiredLease_eq_ok required
  obtain ⟨found, _, looked, answers⟩ := bind_eq_ok.mp rest
  obtain ⟨held, rfl⟩ := optionalReceipt_eq_ok looked
  cases found with
  | some prior =>
    obtain ⟨rfl, rfl⟩ := pure_eq_ok.mp answers
    exact ⟨held, .inl rfl⟩
  | none =>
    have sameId := consistent.keyed leaseId lease known
    subst sameId
    change (if lease.state ≠ .bound then _ else _ : Tx _) _ = _ at answers
    split at answers
    · exact (abort_eq_ok.mp answers).elim
    · rename_i isBound
      have isBound := Decidable.not_not.mp isBound
      obtain ⟨rfl, rfl⟩ := recordChange_eq_ok answers
      refine ⟨get?_set_self _ _ _, .inr (.moves lease _ _ ?_)⟩
      exact {
        known := known
        follows := .inl (by rw [isBound]; exact Nat.one_lt_two)
        leaseId := rfl
        scope := rfl
        expiresAt := rfl
        receiptLease := rfl
        receiptAction := rfl
        receiptState := rfl
        unreceipted := held
        disarms := by
          intro impossible
          cases impossible }

theorem disarm_steps {leaseId requestHash receiptId : String} (consistent : Consistent now tables)
    (committed : disarmDiagnosticLease backend leaseId requestHash receiptId occurredAt tables =
      .ok (result, tables')) :
    tables' = tables ∨
      Change (.disarm leaseId requestHash receiptId occurredAt) tables tables' := by
  obtain ⟨lease, _, required, rest⟩ := bind_eq_ok.mp committed
  obtain ⟨known, rfl⟩ := requiredLease_eq_ok required
  obtain ⟨found, _, looked, answers⟩ := bind_eq_ok.mp rest
  obtain ⟨held, rfl⟩ := optionalReceipt_eq_ok looked
  cases found with
  | some prior =>
    change (if prior.requestHash ≠ requestHash then _ else _ : Tx _) _ = _ at answers
    split at answers
    · exact (abort_eq_ok.mp answers).elim
    · exact .inl (pure_eq_ok.mp answers).2.symm
  | none =>
    have sameId := consistent.keyed leaseId lease known
    subst sameId
    obtain ⟨rfl, rfl⟩ := recordChange_eq_ok answers
    refine .inr (.moves lease _ _ ?_)
    exact {
      known := known
      follows := .inr rfl
      leaseId := rfl
      scope := rfl
      expiresAt := rfl
      receiptLease := rfl
      receiptAction := rfl
      receiptState := rfl
      unreceipted := held
      disarms := fun _ => ⟨_, _, _, rfl⟩ }

variable {receiptIds : String → String} {results : List SmppDiagnosticControlResult}

/-- Each lease of the list is stored as it was scanned, whatever was expired before it. -/
theorem expireEach_steps {leases : List SmppDiagnosticLease} (consistent : Consistent now tables)
    (distinct : (leases.map SmppDiagnosticLease.leaseId).Nodup) (live : ∀ lease ∈ leases,
      tables.leases.get? lease.leaseId = some lease ∧ lease.state.rank < 2)
    (committed : expireEach backend receiptIds occurredAt leases tables =
      .ok (results, tables')) :
    Relation.ReflTransGen (Change (.expire receiptIds occurredAt)) tables tables' := by
  induction leases generalizing tables results with
  | nil =>
    obtain ⟨-, rfl⟩ := pure_eq_ok.mp committed
    exact .refl
  | cons lease rest ih =>
    obtain ⟨_, _, recorded, expires⟩ := bind_eq_ok.mp committed
    obtain ⟨_, _, continues, answered⟩ := bind_eq_ok.mp expires
    obtain ⟨-, rfl⟩ := pure_eq_ok.mp answered
    obtain ⟨-, rfl⟩ := recordChange_eq_ok recorded
    obtain ⟨known, before⟩ := live lease List.mem_cons_self
    have parts := List.nodup_cons.mp distinct
    have moves : Moves (.expire receiptIds occurredAt) tables lease
        { lease with
          state := .expired
          cleanupAt := some occurredAt }
        { receiptId := receiptIds lease.leaseId
          leaseId := lease.leaseId
          action := .expired
          requestHash := lease.canonicalRequestHash
          occurredAt := occurredAt
          state := .expired
          reasonCode := "SMPP_DIAGNOSTIC_EXPIRED"
          binding := none } := {
      known := known
      follows := .inl before
      leaseId := rfl
      scope := rfl
      expiresAt := rfl
      receiptLease := rfl
      receiptAction := rfl
      receiptState := rfl
      unreceipted := consistent.unreceipted known before
      disarms := by
        intro impossible
        cases impossible }
    have expired := ih (consistent.recorded moves) parts.2 (by
      intro other member
      obtain ⟨otherKnown, otherBefore⟩ := live other (List.mem_cons_of_mem _ member)
      have different : other.leaseId ≠ lease.leaseId := by
        intro same
        apply parts.1
        rw [← same]
        exact List.mem_map.mpr ⟨other, member, rfl⟩
      refine ⟨?_, otherBefore⟩
      simp only [DiagnosticTables.recorded]
      rw [get?_set_ne _ _ different]
      exact otherKnown) continues
    exact Relation.ReflTransGen.head (.moves lease _ _ moves) expired

theorem expire_steps (consistent : Consistent now tables)
    (committed : expireDiagnosticLeases backend receiptIds occurredAt tables =
      .ok (results, tables')) :
    Relation.ReflTransGen (Change (.expire receiptIds occurredAt)) tables tables' := by
  obtain ⟨expired, stored, scanned, rest⟩ := bind_eq_ok.mp committed
  obtain ⟨perm, same⟩ := scan_eq_ok scanned
  rw [same] at rest
  refine expireEach_steps consistent ?_ ?_ rest
  · have sublist := (List.filter_sublist
      (p := fun lease => lease.isLive && decide (lease.expiresAt ≤ occurredAt))
      (l := tables.leases.values)).map SmppDiagnosticLease.leaseId
    exact ((perm.map _).nodup_iff).mpr (consistent.values_nodup.sublist sublist)
  · intro lease member
    obtain ⟨stored, matching⟩ := List.mem_filter.mp (perm.subset member)
    refine ⟨consistent.known_of_mem stored, ?_⟩
    rw [Bool.and_eq_true] at matching
    exact isLive_iff.mp matching.1

def DiagnosticCall.Fresh (call : DiagnosticCall) (tables : DiagnosticTables) : Prop :=
  ∀ request, call = .arm request → tables.leases.get? request.leaseId = none

theorem call_steps (consistent : Consistent now tables) (fresh : call.Fresh tables)
    (committed : call.tx backend tables = .ok (results, tables')) :
    Relation.ReflTransGen (Change call) tables tables' := by
  cases call with
  | arm request =>
    obtain ⟨_, _, armed, answered⟩ := bind_eq_ok.mp committed
    obtain ⟨-, rfl⟩ := pure_eq_ok.mp answered
    rcases arm_steps (fresh request rfl) armed with rfl | change
    · exact .refl
    · exact .single change
  | bind binding receiptId =>
    obtain ⟨_, _, bound, answered⟩ := bind_eq_ok.mp committed
    obtain ⟨-, rfl⟩ := pure_eq_ok.mp answered
    rcases bind_steps consistent bound with ⟨-, rfl⟩ | ⟨lease, next, receipt, -, -, moves, -, rfl⟩
    · exact .refl
    · exact .single (.moves lease next receipt moves)
  | consume leaseId requestHash receiptId occurredAt =>
    obtain ⟨_, _, consumed, answered⟩ := bind_eq_ok.mp committed
    obtain ⟨-, rfl⟩ := pure_eq_ok.mp answered
    rcases (consume_steps consistent consumed).2 with rfl | change
    · exact .refl
    · exact .single change
  | disarm leaseId requestHash receiptId occurredAt =>
    obtain ⟨_, _, disarmed, answered⟩ := bind_eq_ok.mp committed
    obtain ⟨-, rfl⟩ := pure_eq_ok.mp answered
    rcases disarm_steps consistent disarmed with rfl | change
    · exact .refl
    · exact .single change
  | expire receiptIds occurredAt => exact expire_steps consistent committed

variable (backend) in
theorem commit_steps (consistent : Consistent now tables) (fresh : call.Fresh tables) :
    Relation.ReflTransGen (Change call) tables ((call.tx backend).commit tables).2 := by
  refine commit_keeps ?_ ?_
  · exact Relation.ReflTransGen.refl
  · intro results after committed
    exact call_steps consistent fresh committed

/-! ### What every change keeps -/

structure Grows (before after : DiagnosticTables) : Prop where
  receipts : ∀ key receipt, before.receipts.get? key = some receipt →
    after.receipts.get? key = some receipt
  leases : ∀ leaseId lease, before.leases.get? leaseId = some lease →
    ∃ grown, after.leases.get? leaseId = some grown ∧ lease.state.rank ≤ grown.state.rank

instance : Std.Refl Grows where
  refl _ :=
    { receipts := fun _ _ known => known
      leases := fun _ lease known => ⟨lease, known, Nat.le_refl _⟩ }

instance : IsTrans DiagnosticTables Grows where
  trans first second third early late :=
    { receipts := fun key receipt known =>
        late.receipts key receipt (early.receipts key receipt known)
      leases := by
        intro leaseId lease known
        obtain ⟨between, knownBetween, firstRank⟩ := early.leases leaseId lease known
        obtain ⟨grown, knownAfter, secondRank⟩ := late.leases leaseId between knownBetween
        exact ⟨grown, knownAfter, Nat.le_trans firstRank secondRank⟩ }

theorem Change.grows (consistent : Consistent now tables) (change : Change call tables tables') :
    Grows tables tables' := by
  cases change with
  | arms request fence isArm unknown free =>
    constructor
    · rintro ⟨leaseId, action⟩ receipt known
      have different : leaseId ≠ request.leaseId := by
        rintro rfl
        obtain ⟨lease, present, -⟩ := consistent.reached _ _ _ known
        rw [unknown] at present
        cases present
      simp only [DiagnosticTables.armed]
      rw [get?_set_ne _ _ (fun equal => different (congrArg Prod.fst equal))]
      exact known
    · intro leaseId lease known
      have different : leaseId ≠ request.leaseId := by
        rintro rfl
        rw [unknown] at known
        cases known
      refine ⟨lease, ?_, Nat.le_refl _⟩
      simp only [DiagnosticTables.armed]
      rw [get?_set_ne _ _ different]
      exact known
  | moves lease next receipt moves =>
    constructor
    · intro key other known
      have different : key ≠ (receipt.leaseId, receipt.action) := by
        rintro rfl
        rw [moves.receiptLease, moves.receiptAction, moves.unreceipted] at known
        cases known
      simp only [DiagnosticTables.recorded]
      rw [get?_set_ne _ _ different]
      exact known
    · intro leaseId other known
      simp only [DiagnosticTables.recorded, get?_set]
      by_cases same : leaseId = lease.leaseId
      · rw [if_pos same]
        rw [same, moves.known] at known
        cases known
        exact ⟨next, rfl, moves.follows.rank_le⟩
      · rw [if_neg same]
        exact ⟨other, known, Nat.le_refl _⟩

def DiagnosticCall.SparesEnds (call : DiagnosticCall) (tables : DiagnosticTables) : Prop :=
  ∀ leaseId requestHash receiptId occurredAt,
    call = .disarm leaseId requestHash receiptId occurredAt →
      ∀ lease, tables.leases.get? leaseId = some lease →
        lease.state ≠ .consumed ∧ lease.state ≠ .expired

def FinalKept (before after : DiagnosticTables) : Prop :=
  ∀ leaseId lease, before.leases.get? leaseId = some lease → lease.state.IsFinal →
    ∃ kept, after.leases.get? leaseId = some kept ∧ kept.state = lease.state

theorem FinalKept.trans {first second third : DiagnosticTables} (early : FinalKept first second)
    (late : FinalKept second third) : FinalKept first third := by
  intro leaseId lease known isFinal
  obtain ⟨between, knownBetween, same⟩ := early leaseId lease known isFinal
  rw [← same] at isFinal
  obtain ⟨kept, knownAfter, again⟩ := late leaseId between knownBetween isFinal
  exact ⟨kept, knownAfter, again.trans same⟩

theorem Change.finalKept (consistent : Consistent now tables) (change : Change call tables tables')
    (known : tables.leases.get? leaseId = some lease) (isFinal : lease.state.IsFinal)
    (spared : ∀ requestHash receiptId occurredAt,
      call = .disarm leaseId requestHash receiptId occurredAt →
        lease.state ≠ .consumed ∧ lease.state ≠ .expired) :
    ∃ kept, tables'.leases.get? leaseId = some kept ∧ kept.state = lease.state := by
  cases change with
  | arms request fence isArm unknown free =>
    have different : leaseId ≠ request.leaseId := by
      rintro rfl
      rw [unknown] at known
      cases known
    refine ⟨lease, ?_, rfl⟩
    simp only [DiagnosticTables.armed]
    rw [get?_set_ne _ _ different]
    exact known
  | moves moved next receipt moves =>
    by_cases same : leaseId = moved.leaseId
    · exfalso
      subst same
      rw [moves.known] at known
      cases known
      have atEnd := isFinal_iff.mp isFinal
      rcases moves.follows with later | disarmed
      · have most := rank_le_two next.state
        omega
      · obtain ⟨requestHash, receiptId, occurredAt, isDisarm⟩ := moves.disarms disarmed
        obtain ⟨notConsumed, notExpired⟩ := spared _ _ _ isDisarm
        have already : lease.state = .disarmed := by
          rcases isFinal with consumed | disarmed | expired
          · exact absurd consumed notConsumed
          · exact disarmed
          · exact absurd expired notExpired
        obtain ⟨prior, held, -⟩ := consistent.receipted _ _ moves.known
        have unreceipted := moves.unreceipted
        rw [disarmed, ← already, held] at unreceipted
        cases unreceipted
    · refine ⟨lease, ?_, rfl⟩
      simp only [DiagnosticTables.recorded]
      rw [get?_set_ne _ _ same]
      exact known

theorem steps_sound (consistent : Consistent call.time tables)
    (steps : Relation.ReflTransGen (Change call) tables tables') :
    Consistent call.time tables' ∧ Grows tables tables' := by
  induction steps with
  | refl => exact ⟨consistent, refl_of Grows tables⟩
  | tail earlier last ih =>
    obtain ⟨between, grown⟩ := ih
    exact ⟨last.consistent between, trans_of Grows grown (last.grows between)⟩

theorem steps_finalKept (consistent : Consistent call.time tables)
    (spares : call.SparesEnds tables)
    (steps : Relation.ReflTransGen (Change call) tables tables') : FinalKept tables tables' := by
  intro leaseId lease known isFinal
  induction steps with
  | refl => exact ⟨lease, known, rfl⟩
  | tail earlier last ih =>
    obtain ⟨kept, keptKnown, same⟩ := ih
    have between := (steps_sound consistent earlier).1
    rw [← same] at isFinal ⊢
    apply last.finalKept between keptKnown isFinal
    intro requestHash receiptId occurredAt isDisarm
    rw [same]
    exact spares leaseId requestHash receiptId occurredAt isDisarm lease known

/-! ### Runs -/

/-- Times do not decrease, and no two arming calls name the same new lease. -/
structure Precedes (earlier later : DiagnosticCall) : Prop where
  time : earlier.time ≤ later.time
  leaseId : ∀ request other, earlier = .arm request → later = .arm other →
    request.leaseId ≠ other.leaseId

structure Ready (tables : DiagnosticTables) (calls : List DiagnosticCall) : Prop where
  consistent : ∃ latest, Consistent latest tables ∧ ∀ call ∈ calls, latest ≤ call.time
  fresh : ∀ call ∈ calls, call.Fresh tables
  ordered : calls.Pairwise Precedes

theorem ready_empty {calls : List DiagnosticCall} (ordered : calls.Pairwise Precedes) :
    Ready .empty calls where
  consistent := by
    cases calls with
    | nil =>
      refine ⟨0, consistent_empty 0, ?_⟩
      intro call member
      cases member
    | cons first rest =>
      refine ⟨first.time, consistent_empty _, ?_⟩
      intro call member
      rcases List.mem_cons.mp member with rfl | later
      · exact Int.le_refl _
      · exact ((List.pairwise_cons.mp ordered).1 call later).time
  fresh := by
    intro call member request isArm
    rfl
  ordered := ordered

theorem Change.arms_only (change : Change call tables tables')
    (known : tables'.leases.get? leaseId = some lease) :
    (tables.leases.get? leaseId).isSome ∨ ∃ request, call = .arm request ∧
      request.leaseId = leaseId := by
  cases change with
  | arms request fence isArm unknown free =>
    by_cases same : leaseId = request.leaseId
    · exact .inr ⟨request, isArm, same.symm⟩
    · simp only [DiagnosticTables.armed] at known
      rw [get?_set_ne _ _ same] at known
      exact .inl (by rw [known]; rfl)
  | moves moved next receipt moves =>
    by_cases same : leaseId = moved.leaseId
    · exact .inl (by rw [same, moves.known]; rfl)
    · simp only [DiagnosticTables.recorded] at known
      rw [get?_set_ne _ _ same] at known
      exact .inl (by rw [known]; rfl)

theorem steps_arm_only (steps : Relation.ReflTransGen (Change call) tables tables')
    (unknown : tables.leases.get? leaseId = none)
    (notArmed : ∀ request, call = .arm request → request.leaseId ≠ leaseId) :
    tables'.leases.get? leaseId = none := by
  induction steps with
  | refl => exact unknown
  | tail earlier last ih =>
    apply Option.eq_none_iff_forall_not_mem.mpr
    intro lease known
    rcases last.arms_only known with present | ⟨request, isArm, same⟩
    · rw [ih] at present
      cases present
    · exact notArmed request isArm same

variable {calls rest earlier : List DiagnosticCall}

variable (backend) in
theorem Ready.commit (ready : Ready tables (call :: rest)) :
    Consistent call.time tables ∧
      Relation.ReflTransGen (Change call) tables ((call.tx backend).commit tables).2 ∧
        Ready ((call.tx backend).commit tables).2 rest := by
  obtain ⟨latest, consistent, onTime⟩ := ready.consistent
  have atCall := consistent.later (onTime call List.mem_cons_self)
  have steps := commit_steps backend atCall (ready.fresh call List.mem_cons_self)
  obtain ⟨first, ordered⟩ := List.pairwise_cons.mp ready.ordered
  refine ⟨atCall, steps, ?_⟩
  exact {
    consistent := ⟨call.time, (steps_sound atCall steps).1, fun later member =>
      (first later member).time⟩
    fresh := by
      intro later member request isArm
      apply steps_arm_only steps (ready.fresh later (List.mem_cons_of_mem _ member) request isArm)
      intro other isFirst
      exact (first later member).leaseId other request isFirst isArm
    ordered := ordered }

variable (backend) in
theorem Ready.run (ready : Ready tables (earlier ++ rest)) :
    Ready (run backend tables earlier) rest := by
  induction earlier generalizing tables with
  | nil => exact ready
  | cons call others ih => exact ih (ready.commit backend).2.2

theorem run_grows (ready : Ready tables calls) : Grows tables (run backend tables calls) := by
  induction calls generalizing tables with
  | nil => exact refl_of Grows tables
  | cons call others ih =>
    obtain ⟨consistent, steps, after⟩ := ready.commit backend
    exact trans_of Grows (steps_sound consistent steps).2 (ih after)

theorem run_append (backend : Backend) (tables : DiagnosticTables)
    (earlier rest : List DiagnosticCall) :
    run backend tables (earlier ++ rest) = run backend (run backend tables earlier) rest := by
  induction earlier generalizing tables with
  | nil => rfl
  | cons call others ih => exact ih _

/-- Every disarming of the run spares the leases that were consumed or expired. -/
def EndsSpared (backend : Backend) : DiagnosticTables → List DiagnosticCall → Prop
  | _, [] => True
  | tables, call :: rest =>
    call.SparesEnds tables ∧ EndsSpared backend ((call.tx backend).commit tables).2 rest

theorem EndsSpared.run (spared : EndsSpared backend tables (earlier ++ rest)) :
    EndsSpared backend (run backend tables earlier) rest := by
  induction earlier generalizing tables with
  | nil => exact spared
  | cons call others ih => exact ih spared.2

theorem run_finalKept (ready : Ready tables calls) (spared : EndsSpared backend tables calls) :
    FinalKept tables (Diagnostic.run backend tables calls) := by
  induction calls generalizing tables with
  | nil =>
    intro leaseId lease known isFinal
    exact ⟨lease, known, rfl⟩
  | cons call others ih =>
    obtain ⟨consistent, steps, after⟩ := ready.commit backend
    have first := steps_finalKept consistent spared.1 steps
    exact first.trans (ih after spared.2)

theorem mem_history {entry : DiagnosticCall × Except String (List SmppDiagnosticControlResult)}
    (member : entry ∈ history backend tables calls) :
    ∃ earlier rest, calls = earlier ++ entry.1 :: rest ∧
      entry.2 = ((entry.1.tx backend).commit (run backend tables earlier)).1 := by
  induction calls generalizing tables with
  | nil => cases member
  | cons call others ih =>
    rcases List.mem_cons.mp member with rfl | later
    · exact ⟨[], others, rfl, rfl⟩
    · obtain ⟨earlier, rest, rfl, answer⟩ := ih later
      exact ⟨call :: earlier, rest, rfl, answer⟩

theorem scan_length_le_one (consistent : Consistent now tables)
    (one : ∀ left right, tables.leases.get? left.leaseId = some left →
      tables.leases.get? right.leaseId = some right → matching left = true →
        matching right = true → left.leaseId = right.leaseId)
    (committed : scan backend matching tables = .ok (found, tables')) : found.length ≤ 1 := by
  obtain ⟨perm, -⟩ := scan_eq_ok committed
  rw [perm.length_eq]
  have distinct := consistent.values_nodup.sublist
    ((List.filter_sublist (p := matching) (l := tables.leases.values)).map _)
  have stored : ∀ lease ∈ tables.leases.values.filter matching,
      tables.leases.get? lease.leaseId = some lease ∧ matching lease = true := by
    intro lease member
    obtain ⟨present, isMatch⟩ := List.mem_filter.mp member
    exact ⟨consistent.known_of_mem present, isMatch⟩
  match listed : tables.leases.values.filter matching, distinct, stored with
  | [], _, _ => exact Nat.zero_le 1
  | [_], _, _ => exact Nat.le_refl 1
  | left :: right :: rest, distinct, stored =>
    exfalso
    obtain ⟨leftKnown, leftMatches⟩ := stored left List.mem_cons_self
    obtain ⟨rightKnown, rightMatches⟩ :=
      stored right (List.mem_cons_of_mem _ List.mem_cons_self)
    have same := one left right leftKnown rightKnown leftMatches rightMatches
    apply (List.nodup_cons.mp distinct).1
    rw [same]
    exact List.mem_map.mpr ⟨right, List.mem_cons_self, rfl⟩

theorem Consistent.one_candidate (consistent : Consistent now tables)
    {binding : SmppDiagnosticBinding} (onTime : now ≤ binding.observedAt)
    (scanned : scan backend (isCandidate binding) tables = .ok (found, tables')) :
    found.length ≤ 1 := by
  apply scan_length_le_one consistent ?_ scanned
  intro left right leftKnown rightKnown leftMatches rightMatches
  simp only [isCandidate, Bool.and_eq_true, beq_iff_eq, decide_eq_true_eq]
    at leftMatches rightMatches
  obtain ⟨⟨⟨⟨leftArmed, -⟩, leftHash⟩, -⟩, leftLasts⟩ := leftMatches
  obtain ⟨⟨⟨⟨rightArmed, -⟩, rightHash⟩, -⟩, rightLasts⟩ := rightMatches
  apply consistent.exclusive _ _ left right leftKnown rightKnown
  refine ⟨?_, ?_, ?_, ?_, ?_⟩
  · rw [isLive_iff, leftArmed]
    decide
  · rw [isLive_iff, rightArmed]
    decide
  · rw [leftHash, rightHash]
  · exact Int.lt_of_le_of_lt onTime leftLasts
  · exact Int.lt_of_le_of_lt onTime rightLasts

theorem Consistent.status (consistent : Consistent now tables) (backend : Backend)
    (leaseId : String) :
    ∃ result, getDiagnosticStatus backend leaseId tables = .ok (result, tables) ∧
      result.map SmppDiagnosticControlResult.lease = tables.leases.get? leaseId ∧
        ∀ answer ∈ result, answer.receipt.action = answer.lease.state.action ∧
          answer.receipt.state = answer.lease.state := by
  cases known : tables.leases.get? leaseId with
  | none =>
    refine ⟨none, ?_, rfl, ?_⟩
    · unfold getDiagnosticStatus
      rw [read_bind, known]
      rfl
    · intro answer member
      cases member
  | some lease =>
    obtain ⟨receipt, held, -, action, state⟩ := consistent.receipted leaseId lease known
    refine ⟨some { lease := lease, receipt := receipt }, ?_, rfl, ?_⟩
    · unfold getDiagnosticStatus
      simp only [read_bind, known, held]
      rfl
    · intro answer member
      cases member
      exact ⟨action, state⟩

/-! ### Binding -/

def DiagnosticTables.boundBefore (tables : DiagnosticTables) (leaseId : String) : Nat :=
  match tables.leases.get? leaseId with
  | some lease => min 1 lease.state.rank
  | none => 0

theorem Grows.boundBefore (grows : Grows tables tables') (leaseId : String) :
    tables.boundBefore leaseId ≤ tables'.boundBefore leaseId := by
  unfold DiagnosticTables.boundBefore
  cases known : tables.leases.get? leaseId with
  | none => exact Nat.zero_le _
  | some lease =>
    obtain ⟨grown, knownAfter, later⟩ := grows.leases leaseId lease known
    simp only [knownAfter]
    omega

def binds (leaseId : String) :
    DiagnosticCall × Except String (List SmppDiagnosticControlResult) → Bool
  | (.bind _ _, .ok results) => results.any fun result => result.lease.leaseId == leaseId
  | _ => false

theorem bind_boundBefore {binding : SmppDiagnosticBinding} {receiptId leaseId : String}
    (consistent : Consistent now tables)
    (bound : binds leaseId (.bind binding receiptId,
      (((DiagnosticCall.bind binding receiptId).tx backend).commit tables).1) = true) :
    tables.boundBefore leaseId = 0 ∧
      ((((DiagnosticCall.bind binding receiptId).tx backend).commit tables).2).boundBefore
        leaseId = 1 := by
  cases answer : (((DiagnosticCall.bind binding receiptId).tx backend).commit tables).1 with
  | error failure =>
    rw [answer] at bound
    cases bound
  | ok results =>
    rw [answer] at bound
    have committed := commit_ok_iff.mp answer
    obtain ⟨_, _, ran, answered⟩ := bind_eq_ok.mp committed
    obtain ⟨rfl, same⟩ := pure_eq_ok.mp answered
    rw [← same]
    rcases bind_steps consistent ran with
      ⟨rfl, -⟩ | ⟨lease, next, receipt, isArmed, isBound, moves, rfl, rfl⟩
    · cases bound
    · have isLease : lease.leaseId = leaseId := by
        simpa [binds, moves.leaseId] using bound
      subst isLease
      simp only [DiagnosticTables.boundBefore, DiagnosticTables.recorded, moves.known,
        get?_set_self, isArmed, isBound]
      exact ⟨rfl, rfl⟩

variable (backend) in
theorem commit_boundBefore (ready : Ready tables (call :: rest)) (leaseId : String) :
    (if binds leaseId (call, ((call.tx backend).commit tables).1) = true then 1 else 0) +
        tables.boundBefore leaseId ≤
      (((call.tx backend).commit tables).2).boundBefore leaseId := by
  obtain ⟨consistent, steps, -⟩ := ready.commit backend
  have grows := (steps_sound consistent steps).2.boundBefore leaseId
  by_cases bound : binds leaseId (call, ((call.tx backend).commit tables).1) = true
  · rw [if_pos bound]
    cases call with
    | bind binding receiptId =>
      obtain ⟨before, after⟩ := bind_boundBefore consistent bound
      exact Nat.le_of_eq (by rw [before, after])
    | arm request => cases bound
    | consume leaseId requestHash receiptId occurredAt => cases bound
    | disarm leaseId requestHash receiptId occurredAt => cases bound
    | expire receiptIds occurredAt => cases bound
  · rw [if_neg bound]
    omega

variable (backend) in
theorem history_binds (ready : Ready tables calls) (leaseId : String) :
    (history backend tables calls).countP (binds leaseId) + tables.boundBefore leaseId ≤
      (run backend tables calls).boundBefore leaseId := by
  induction calls generalizing tables with
  | nil =>
    simp only [history, List.countP_nil, run]
    omega
  | cons call others ih =>
    have first := commit_boundBefore backend ready leaseId
    have later := ih (ready.commit backend).2.2
    simp only [history, List.countP_cons, run] at later ⊢
    omega

/-! ### The lifecycle -/

structure Lifecycle (backend : Backend) (calls : List DiagnosticCall) : Prop where
  /-- A lease is bound at most once. -/
  boundOnce : ∀ leaseId, (history backend .empty calls).countP (binds leaseId) ≤ 1
  /-- A receipt that is stored stays as it is. -/
  receipts : ∀ earlier rest, calls = earlier ++ rest → ∀ key receipt,
    (run backend .empty earlier).receipts.get? key = some receipt →
      (run backend .empty calls).receipts.get? key = some receipt
  /-- What a lease was consumed with is the one receipt of it. -/
  consumedOnce : ∀ leaseId requestHash receiptId occurredAt results,
    (.consume leaseId requestHash receiptId occurredAt, .ok results) ∈
      history backend .empty calls → ∀ result ∈ results,
        (run backend .empty calls).receipts.get? (leaseId, .consumed) = some result.receipt
  /-- The status of every lease is answered, with the receipt of its state. -/
  status : ∀ earlier rest, calls = earlier ++ rest → ∀ leaseId, ∃ result,
    getDiagnosticStatus backend leaseId (run backend .empty earlier) =
        .ok (result, run backend .empty earlier) ∧
      result.map SmppDiagnosticControlResult.lease =
        (run backend .empty earlier).leases.get? leaseId ∧
      ∀ answer ∈ result, answer.receipt.action = answer.lease.state.action ∧
        answer.receipt.state = answer.lease.state
  /-- A binding does not find two candidates. -/
  oneCandidate : ∀ earlier binding receiptId rest,
    calls = earlier ++ .bind binding receiptId :: rest → ∀ found tables,
      scan backend (isCandidate binding) (run backend .empty earlier) = .ok (found, tables) →
        found.length ≤ 1

def FinalStates (backend : Backend) (calls : List DiagnosticCall) : Prop :=
  ∀ earlier rest, calls = earlier ++ rest →
    FinalKept (run backend .empty earlier) (run backend .empty calls)

/-- On either store, in every run with times that do not decrease: a lease is bound at most once
and consumed with one receipt, its status is always answered, and a binding finds no two
candidates. Where no disarming finds its lease consumed or expired, final states do not change. -/
theorem diagnosticLease_lifecycle (backend : Backend) (calls : List DiagnosticCall)
    (ordered : calls.Pairwise Precedes) :
    Lifecycle backend calls ∧ (EndsSpared backend .empty calls → FinalStates backend calls) := by
  have ready := ready_empty ordered
  constructor
  · constructor
    · intro leaseId
      have counted := history_binds backend ready leaseId
      have most : (run backend .empty calls).boundBefore leaseId ≤ 1 := by
        unfold DiagnosticTables.boundBefore
        split <;> omega
      omega
    · rintro earlier rest rfl key receipt known
      rw [run_append]
      exact (run_grows (ready.run backend)).receipts key receipt known
    · intro leaseId requestHash receiptId occurredAt results member result isResult
      obtain ⟨earlier, rest, rfl, answer⟩ := mem_history member
      have atCall := ready.run backend
      obtain ⟨consistent, -, after⟩ := atCall.commit backend
      have committed := commit_ok_iff.mp answer.symm
      obtain ⟨_, _, ran, answered⟩ := bind_eq_ok.mp committed
      obtain ⟨rfl, same⟩ := pure_eq_ok.mp answered
      obtain rfl := List.mem_singleton.mp isResult
      rw [run_append]
      apply (run_grows after).receipts
      rw [← same]
      exact (consume_steps consistent ran).1
    · rintro earlier rest rfl leaseId
      obtain ⟨latest, consistent, -⟩ := (ready.run backend).consistent
      exact consistent.status backend leaseId
    · rintro earlier binding receiptId rest rfl found tables scanned
      obtain ⟨latest, consistent, onTime⟩ := (ready.run backend).consistent
      exact consistent.one_candidate (onTime _ List.mem_cons_self) scanned
  · rintro spared earlier rest rfl
    rw [run_append]
    exact run_finalKept (ready.run backend) spared.run

/-! ### A consumed lease that is disarmed -/

namespace Sample

def request : ArmRequest :=
  { leaseId := "lease"
    receiptId := "armed"
    capabilityId := .responseLoss
    stableOperationKey := "operation"
    requestHash := "hash"
    scope := { argumentHash := "argument", taskId := none }
    now := 0
    ttlMs := 60000 }

def binding : SmppDiagnosticBinding :=
  { capabilityId := .responseLoss
    argumentHash := "argument"
    logicalInvocationId := "invocation"
    taskId := "task"
    externalExecutionId := "execution"
    deviceMissionId := "mission"
    observedAt := 1 }

def armedAndBound : List DiagnosticCall :=
  [.arm request, .bind binding "bound"]

def disarmedInTime : List DiagnosticCall :=
  armedAndBound ++ [.disarm "lease" "disarm-hash" "disarmed" 2]

def consumed : List DiagnosticCall :=
  armedAndBound ++ [.consume "lease" "consume-hash" "consumed" 2]

def disarmedAfter : List DiagnosticCall :=
  consumed ++ [.disarm "lease" "disarm-hash" "disarmed" 3]

theorem precedes {earlier later : DiagnosticCall} (time : earlier.time ≤ later.time)
    (notArm : ∀ request, later ≠ .arm request) : Precedes earlier later where
  time := time
  leaseId := fun _ other _ isArm => absurd isArm (notArm other)

end Sample

open Sample in
theorem disarmedInTime_lifecycle :
    Lifecycle .postgres disarmedInTime ∧ FinalStates .postgres disarmedInTime := by
  have ordered : disarmedInTime.Pairwise Precedes := by
    simp only [disarmedInTime, armedAndBound, List.cons_append, List.nil_append,
      List.pairwise_cons, List.mem_cons, List.not_mem_nil, or_false, forall_eq_or_imp, forall_eq]
    refine ⟨⟨precedes ?_ ?_, precedes ?_ ?_⟩, precedes ?_ ?_, ?_⟩
    all_goals first | decide | simp
  have bound : ((run .postgres .empty armedAndBound).leases.get? "lease").map
      state = some .bound := by
    decide +kernel
  obtain ⟨lifecycle, finalStates⟩ :=
    diagnosticLease_lifecycle .postgres disarmedInTime ordered
  refine ⟨lifecycle, finalStates ⟨?_, ?_, ?_, trivial⟩⟩
  · intro leaseId requestHash receiptId occurredAt isDisarm
    cases isDisarm
  · intro leaseId requestHash receiptId occurredAt isDisarm
    cases isDisarm
  · intro leaseId requestHash receiptId occurredAt isDisarm lease known
    cases isDisarm
    change (run .postgres .empty armedAndBound).leases.get? "lease" = some lease at known
    rw [known] at bound
    have isBound := Option.some.inj bound
    rw [isBound]
    exact ⟨by decide, by decide⟩

open Sample in
/-- A disarming takes a consumed lease out of its final state, in memory and in PostgreSQL. -/
theorem disarmedAfter_notFinal :
    disarmedAfter.Pairwise Precedes ∧
      ¬FinalStates .memory disarmedAfter ∧ ¬FinalStates .postgres disarmedAfter := by
  have changes (backend : Backend)
      (before : ((run backend .empty consumed).leases.get? "lease").map
        state = some .consumed)
      (after : ((run backend .empty disarmedAfter).leases.get? "lease").map
        state = some .disarmed) : ¬FinalStates backend disarmedAfter := by
    intro finalStates
    obtain ⟨lease, known, isConsumed⟩ := Option.map_eq_some_iff.mp before
    obtain ⟨kept, keptKnown, same⟩ :=
      finalStates consumed _ rfl "lease" lease known (.inl isConsumed)
    rw [keptKnown, Option.map_some, same, isConsumed] at after
    cases after
  refine ⟨?_, changes .memory ?_ ?_, changes .postgres ?_ ?_⟩
  · simp only [disarmedAfter, consumed, armedAndBound, List.cons_append, List.nil_append,
      List.pairwise_cons, List.mem_cons, List.not_mem_nil, or_false, forall_eq_or_imp, forall_eq]
    refine ⟨⟨precedes ?_ ?_, precedes ?_ ?_, precedes ?_ ?_⟩,
      ⟨precedes ?_ ?_, precedes ?_ ?_⟩, precedes ?_ ?_, ?_⟩
    all_goals first | decide | simp
  all_goals decide +kernel

end SdarRuntime.Diagnostic
