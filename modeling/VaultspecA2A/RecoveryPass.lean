import VaultspecA2A.TerminalSettlement

/-!
# The recovery of an accepted action

A recovery pass redelivers an accepted action from its journal row, under the schedule it
has claimed: the recovery attempt of the action. Each exit of the pass settles the
attempt, releases it, reschedules it or leaves it as it is. A settled attempt is never
reopened, so an action that still has to be delivered must keep its own open.

The attempt is what the pass writes to it. The clock, the workspace and the delivery are
inputs, with the store the transaction after the delivery finds; the times a retry is
put off to are those the source computes.
-/
namespace VaultspecA2A.RecoveryPass
open Tables ThreadLifecycle Database ControlActions ActionLeases ActionClaims Option
open ThreadElections PermissionJournal PermissionResponses TerminalSettlement

def failureValue : FailureType → String
  | .circuitOpen => "circuit_open"
  | .atCapacity => "at_capacity"
  | .unreachable => "unreachable"
  | .rejected => "rejected"
  | .notFound => "not_found"
  | .terminal => "terminal"
  | .inputRequired => "input_required"
  | .conflict => "conflict"
  | .runBusy => "run_busy"
  | .queueFull => "queue_full"
  | .noActiveProject => "no_active_project"
  | .authoringSubscriberUnavailable => "authoring_subscriber_unavailable"
  | .incompatibleState => "incompatible_state"
  | .credentialsRequired => "credentials_required"
  | .deadlineExceeded => "deadline_exceeded"
  | .storeBusy => "store_busy"
  | .envelopeTooLarge => "envelope_too_large"

/-- The schedule of one accepted action, as the pass has claimed it. -/
structure RecoveryAttemptClaim where
  threadId : String
  authority : RunWriteAuthority
  deadlineAt : Instant
  attemptCount : ℕ

structure StoredAction where
  dispatchId : String
  requestId : Option String
  idempotencyKey : String
  threadId : String
  actionType : ControlActionType
  payload : Option ActionPayload
  recoveryDeadlineAt : Instant

structure DispatchFailure where
  failureType : FailureType
  detail : String
  retryAfter : Option Instant

inductive RecoveryOutcome
  | dispatched
  | deferred
  | conflicted
  | refused
  | applied
deriving DecidableEq, Repr

inductive AttemptWrite
  | kept
  | settled
  | released
  | rescheduled (nextEligibleAt : Instant)
deriving DecidableEq, Repr

structure Surroundings where
  claimStarted : Instant
  checkedAt : Instant
  observedAt : Instant
  settledAt : Instant
  drawn : Drawn
  claimToken : String
  restore : Option ActionPayload → Except DispatchRefusal DispatchInput
  isDirectory : String → Bool
  failure : Option DispatchFailure
  later : Store

abbrev Pass := Except Raised (Store × AttemptWrite × RecoveryOutcome)

def retryDelay (attemptCount : ℕ) : Instant := (min (2 ^ min attemptCount 6) 60 : ℕ) * second

def leaseFreeFrom (expiresAt : Option Instant) (at' : Instant) : Instant :=
  match expiresAt with
  | none => at'
  | some expiry => max at' expiry

def reconstructDispatch (s : Store) (surroundings : Surroundings) (action : StoredAction) :
    Except DispatchRefusal DispatchInput :=
  if (getThread s action.threadId).isNone then
    .error ⟨.notFound,"the accepted run no longer exists"⟩
  else do
    let dispatch ← surroundings.restore action.payload
    let expectedAction :=
      if action.actionType = .cancel then some "cancel" else graphActionVerb action.actionType
    if dispatch.threadId ≠ action.threadId ∨ some dispatch.verb ≠ expectedAction then
      .error ⟨.incompatibleState,"accepted input identity mismatch"⟩
    else if dispatch.verb ∈ ["ingest","resume"] ∧
        ¬ surroundings.isDirectory dispatch.workspaceRoot then
      .error ⟨.noActiveProject,"accepted project is unavailable"⟩
    else .ok dispatch

/-- The status a run has when the action is to be delivered on it. -/
def requestedStatus (actionType : ControlActionType) (status : ThreadStatus) : ThreadStatus :=
  match actionType with
  | .messageFollowupRequested => .running
  | .cancel => if status ∈ [.cancelling,.reconciling] then status else .cancelling
  | _ => status

def restoreRequestedState (s : Store) (action : StoredAction) (actionReceiptId : String) : Bool :=
  (getThread s action.threadId).any fun thread =>
    decide (requestedStatus action.actionType thread.status = thread.status) &&
      thread.authority.ownedBy action.actionType (some actionReceiptId)

def actionQuarantinedTransition : RepairTransition :=
  { repairStatus := .operatorInterventionRequired }

/-- Hand a run whose accepted action was refused for good to an operator. -/
def quarantineForOperator (s : Store) (threadId : String) (refusal : DispatchRefusal) :
    Except Raised Store :=
  applyRepairTransition s threadId actionQuarantinedTransition
    (some (failureValue refusal.failureType ++ ": " ++ refusal.reason))

/-- Move the run to reconciling under the witness of its row, unless it is there. -/
def electReconciling (s : Store) (threadId : String) (thread : ThreadModel)
    (actionType : ControlActionType) (receiptId : String) :
    Except Raised (Store × ThreadStatusElectionOutcome) :=
  if thread.status = .reconciling then .ok (s,.won)
  else
    electThreadStatus s threadId (threadWriteExpectation thread) .reconciling actionType receiptId

/-- Quarantine one impossible accepted action under exact current authority. -/
def settlePermanentRefusal (s : Store) (action : StoredAction) (refusal : DispatchRefusal)
    (now : Instant) : Except Raised (Store × Bool) :=
  match getThread s action.threadId,
      getControlActionByDispatchId s action.threadId action.dispatchId with
  | some thread, some row =>
    if row.appliedAt.isSome ∨ thread.status ∈ nonActiveStatuses ∨
        ¬ thread.authority.ownedBy action.actionType (some action.dispatchId) then .ok (s,false)
    else do
      let (elected,outcome) ←
        electReconciling s action.threadId thread action.actionType action.dispatchId
      if outcome ≠ .won then .ok (elected,false)
      else do
        let marked ← markControlActionApplied elected row.id now .rejectedInvalidState
        let quarantined ← quarantineForOperator marked action.threadId refusal
        .ok (quarantined,true)
  | _, _ => .ok (s,false)

/-- Quarantine exact authority whose accepted action row disappeared. -/
def settleOrphanedRefusal (s : Store) (threadId : String) (authority : RunWriteAuthority)
    (refusal : DispatchRefusal) : Except Raised (Store × Bool) :=
  match getThread s threadId with
  | none => .ok (s,false)
  | some thread =>
    if thread.status ∈ nonActiveStatuses ∨ thread.authority ≠ authority then .ok (s,false)
    else do
      let (elected,outcome) ←
        electReconciling s threadId thread authority.actionType authority.actionReceiptId
      if outcome ∉ [.won,.receiptMismatch] then .ok (elected,false)
      else do
        let quarantined ← quarantineForOperator elected threadId refusal
        .ok (quarantined,true)

/-- A refusal that could not be settled rolls back to the start of the transaction. -/
def settleRefused (before : Store) (settlement : Except Raised (Store × Bool)) : Pass := do
  let (settled,quarantined) ← settlement
  .ok (if quarantined then (settled,.settled,.refused) else (before,.kept,.conflicted))

def storedAction (claim : RecoveryAttemptClaim) (row : ControlActionModel) : StoredAction where
  dispatchId := claim.authority.actionReceiptId
  requestId := row.requestId
  idempotencyKey := row.idempotencyKey
  threadId := claim.threadId
  actionType := claim.authority.actionType
  payload := row.payload
  recoveryDeadlineAt := claim.deadlineAt

def settleMissingAction (s : Store) (claim : RecoveryAttemptClaim)
    (row : Option ControlActionModel) (now : Instant) : Pass :=
  let refusal : DispatchRefusal :=
    ⟨.incompatibleState,"accepted recovery input is absent or inconsistent"⟩
  settleRefused s <|
    match row.filter fun row => claim.authority.ownedBy row.actionType row.dispatchId with
    | some row => settlePermanentRefusal s (storedAction claim row) refusal now
    | none => settleOrphanedRefusal s claim.threadId claim.authority refusal

def settleDeliveryFailure (surroundings : Surroundings) (claim : RecoveryAttemptClaim)
    (action : StoredAction) (actionClaim : ControlActionClaim) (failure : DispatchFailure) :
    Pass :=
  let s := surroundings.later
  if failure.failureType = .incompatibleState then
    settleRefused s (settlePermanentRefusal s action ⟨failure.failureType,failure.detail⟩
      surroundings.settledAt)
  else
    match actionClaim.claimToken with
    | none => .error (.runtimeError "recovery dispatch lost its action claim")
    | some token => do
        let (released,_) ←
          (if failure.failureType ∈ definiteNonDelivery then
            releaseControlActionLease s actionClaim.actionId token
          else .ok (s,false))
        let delay := max (retryDelay claim.attemptCount) (failure.retryAfter.getD 0)
        .ok (released,
          if claim.deadlineAt ≤ surroundings.observedAt then .released
          else .rescheduled (min (surroundings.observedAt + delay) claim.deadlineAt),.deferred)

def dispatchPreparedClaim (before claimed : Store) (surroundings : Surroundings)
    (claim : RecoveryAttemptClaim) (action : StoredAction) (actionClaim : ControlActionClaim) :
    Pass :=
  match reconstructDispatch claimed surroundings action with
  | .error refusal =>
    settleRefused before (settlePermanentRefusal claimed action refusal surroundings.settledAt)
  | .ok _ =>
    if ¬ restoreRequestedState claimed action actionClaim.dispatchId then
      .ok (claimed,.settled,.conflicted)
    else do
      let _ ← finalizeControlActionAcceptance claimed actionClaim
      match surroundings.failure with
      | some failure => settleDeliveryFailure surroundings claim action actionClaim failure
      | none =>
        .ok (surroundings.later,
          if claim.deadlineAt ≤ surroundings.observedAt then .released
          else .rescheduled (min (leaseFreeFrom
            (some (surroundings.claimStarted + controlActionLeaseTtl)) surroundings.observedAt)
            claim.deadlineAt),.dispatched)

/-- Claim an accepted action from its own row; a pass names no witness of the run. -/
def recoveryRequest (action : StoredAction) : ControlActionClaimRequest where
  threadId := action.threadId
  actionType := action.actionType
  requestId := action.requestId
  idempotencyKey := action.idempotencyKey
  payload := action.payload
  dispatchId := action.dispatchId
  recoveryDeadlineAt := some action.recoveryDeadlineAt

section
variable (fingerprint : ActionPayload → String)

def redriveOneClaim (s : Store) (claim : RecoveryAttemptClaim) (surroundings : Surroundings) :
    Pass :=
  match getControlActionByDispatchId s claim.threadId claim.authority.actionReceiptId with
  | none => settleMissingAction s claim none surroundings.settledAt
  | some row =>
    if row.payload.isNone ∨ row.recoveryDeadlineAt ≠ some claim.deadlineAt then
      settleMissingAction s claim (some row) surroundings.settledAt
    else if row.appliedAt.isSome then .ok (s,.settled,.applied)
    else do
      let action := storedAction claim row
      let (claimed,actionClaim) ← prepareControlActionClaim fingerprint s
        (recoveryRequest action) surroundings.claimStarted surroundings.drawn
        surroundings.claimToken
      if ¬ actionClaim.authorityMatches then
        .ok (if claim.deadlineAt ≤ surroundings.checkedAt then (claimed,.released,.deferred)
          else (claimed,.settled,.conflicted))
      else if ¬ actionClaim.payloadMatches then
        settleRefused s (settlePermanentRefusal claimed action
          ⟨.incompatibleState,"accepted recovery payload changed after acceptance"⟩
          surroundings.settledAt)
      else if ¬ actionClaim.acquired then
        .ok (claimed,
          if claim.deadlineAt ≤ surroundings.checkedAt then .released
          else .rescheduled (min (leaseFreeFrom row.claimExpiresAt surroundings.checkedAt)
            claim.deadlineAt),.deferred)
      else dispatchPreparedClaim s claimed surroundings claim action actionClaim

end

variable {threadId tid dispatchId did : String} {actionType ty : ControlActionType}

section
variable {fp : ActionPayload → String}
lemma persistGraphActionReceipt_stored
    (ht : getThread s na.threadId = some th) (hm : row ∈ s.controlActions.rows)
    (hn : receiptNames na row = true) (hs : readReceipt row = some rc)
    (hown : th.authority.ownedBy na.actionType (some na.dispatchId)
      (some na.writerGeneration) (some na.runRevision) = true)
    (hma : receiptMatches rc na.threadId na.actionId na.actionType
      (some na.dispatchId) na.payloadFingerprint (some th.authority) = true) :
    persistGraphActionReceipt s na (threadWriteExpectation th) = .ok (s,some rc) := by
  have ho : ∀ a ∈ s.controlActions.rows, receiptNames na a = true → a = row := by
    intro a ha hna
    simp only [receiptNames,Bool.and_eq_true,decide_eq_true_eq] at hna hn
    have hid : a.id = row.id := hna.1.trans hn.1.symm
    exact Table.eq_of_not_fits ha hm (fun hf => hf.1 hid) fun hf => hf.1 hid.symm
  have hso : row.graphReceipt = some rc := (filter_eq_some_iff.1 hs).1
  have howne : s.threads.holds (fun t => decide (t.id = na.threadId) &&
      witnessed (threadWriteExpectation th) true t) = true := by
    refine List.any_eq_true.2 ⟨th,Table.lookup_mem ThreadModel.id ht,?_⟩
    rw [Bool.and_eq_true,decide_eq_true_eq]
    exact ⟨Table.lookup_key ThreadModel.id ht,witnessed_iff.2 ⟨rfl,rfl,rfl⟩⟩
  -- The row has its receipt, so the statement that attaches one matches nothing.
  have hz : s.controlActions.affected (fun a => receiptNames na a &&
      (a.graphReceipt.isNone && true)) = 0 := by
    refine List.countP_eq_zero.2 fun a ha hw => ?_
    rw [Bool.and_eq_true] at hw
    rw [ho a ha hw.1,hso] at hw
    cases hw.2
  have hex : (threadWriteExpectation th).authority.ownedBy na.actionType
      (some na.dispatchId) (some na.writerGeneration) (some na.runRevision) = true :=
    hown
  unfold persistGraphActionReceipt
  simp only [hex,not_true_eq_false,if_false,howne,if_true,Table.updateWhere_of_affected_zero hz,
    Table.first_of_mem hm hn ho,bind_some,hs]
  simp [threadWriteExpectation,hma]

lemma prepareGraphActionReceipt_current (ht : getThread s tid = some th)
    (hrow : getControlActionByDispatchId s tid did = some row)
    (hact : th.status ∉ nonActiveStatuses)
    (ho : th.authority.ownedBy row.actionType (some did) = true)
    (hc : validateCurrentGraphReceipt fp th row = some rc) :
    prepareGraphActionReceipt fp s tid did inf = .ok (s,some rc) := by
  obtain ⟨hme,hru,hd⟩ := getControlActionByDispatchId_ok hrow
  obtain rfl : th.id = tid := Table.lookup_key ThreadModel.id ht
  unfold validateCurrentGraphReceipt at hc
  split at hc
  swap
  · cases hc
  rename_i fo pl ac hfo hp ha
  split_ifs at hc with hm
  cases hc
  obtain ⟨hi,hve,hm⟩ := hm
  have hn : rc.threadId = th.id ∧ rc.actionId = row.id ∧
      rc.actionType = row.actionType ∧ rc.dispatchId = did := by
    have hf := of_decide_eq_true (Bool.and_eq_true_iff.1 hm).1
    rw [hd] at hf
    exact ⟨hf.1,hf.2.1,hf.2.2.1,Option.some.inj hf.2.2.2.1⟩
  obtain ⟨hth,hac,hty,hdi⟩ := hn
  have hv := (filter_eq_some_iff.1 hfo).2
  let na : GraphActionReceipt :=
    { threadId := th.id, actionId := row.id, actionType := row.actionType
      payloadFingerprint := fp pl, dispatchId := did
      runRevision := th.authority.runRevision
      writerGeneration := th.authority.writerGeneration }
  have hna : validReceipt na = true := by
    simp only [validReceipt,hth,hac,hty,hdi,Bool.and_eq_true] at hv
    simp only [validReceipt,na,Bool.and_eq_true,decide_eq_true_eq]
    exact ⟨hv.1,th.authority.generation_pos⟩
  have hex : th.authority.ownedBy row.actionType (some did)
      (some th.authority.writerGeneration) (some th.authority.runRevision) = true := by
    obtain ⟨hk,hw⟩ := RunWriteAuthority.ownedBy_identity.1 ho
    rw [← hk,← hw]
    exact RunWriteAuthority.ownedBy_exact.2 rfl
  have hp' : acceptedGraphAction row th.id = some pl := by
    unfold acceptedGraphAction
    rw [ha]
    dsimp only
    rw [if_pos ⟨hi,hty ▸ hve⟩,hp]
  have hn : receiptNames na row = true := by simp [receiptNames,na,hru,hd]
  have hpe := persistGraphActionReceipt_stored ht hme hn hfo hex (hd ▸ hm)
  unfold prepareGraphActionReceipt
  rw [ht,hrow]
  simp only [hact,if_false,hp',installWriter,ho,if_true,bind,Except.bind]
  change (if validReceipt na then _ else _) = _
  rw [if_pos hna]
  exact hpe

lemma existing_reserved (st : ClaimStages fp s rq it dr tk t ac)
    (hf : getControlActionByIdempotencyKey s rq.threadId rq.idempotencyKey =
      some row) : st.reserved = s ∧ st.reservation.action = row := by
  obtain ⟨hold,hn,-⟩ := reserveControlAction_ok st.reserves
  cases hc : st.reservation.created with
  | false =>
    obtain ⟨hs,hrow⟩ := hold hc
    exact ⟨hs,Option.some.inj (hrow.symm.trans hf)⟩
  | true => exact (some_ne_none _ (hf.symm.trans (hn hc).1)).elim

lemma bindClaim_threads (h : bindClaim fp s rq did tn = .ok (t,ow))
    (hw : rq.writeExpectation = none) : t.threads = s.threads := by
  unfold bindClaim at h
  split_ifs at h
  · obtain ⟨⟨bo,rc⟩,hre,hret⟩ := bind_ok.1 h
    cases hret
    obtain ⟨s',hi,hp⟩ := prepareGraphActionReceipt_ok hre
    obtain rfl : s' = s := hi.resolve_right fun ⟨_,_,_,_,hf,_⟩ => by rw [hw] at hf; cases hf
    rcases hp with rfl | ⟨_,_,_,hp⟩
    · rfl
    · rcases persistGraphActionReceipt_ok hp with hs | ⟨hs,-⟩ <;> rw [hs]
  · cases h
    rfl

lemma prepareControlActionClaim_threads (h : prepareControlActionClaim fp s rq it dr tk =
      .ok (t,ac)) (hw : rq.writeExpectation = none) :
    t.threads = s.threads := by
  obtain ⟨st⟩ := prepareControlActionClaim_stages h
  have hre : st.reserved.threads = s.threads := by
    obtain ⟨hold,hf,-⟩ := reserveControlAction_ok st.reserves
    cases hc : st.reservation.created with
    | false => rw [(hold hc).1]
    | true => exact (createControlAction_ok (hf hc).2).2.1
  rw [st.after]
  split_ifs
  · rw [bindClaim_threads st.binds hw,claimReservedAction_threads st.leases,hre]
  · rfl

lemma bindClaim_writer (h : bindClaim fp s rq did tn = .ok (t,ow))
    (ht : getThread s rq.threadId = some th) (ha : th.status ∉ nonActiveStatuses)
    (ho : th.authority.ownedBy row.actionType (some did) = true)
    (hrow : tn.isSome = true → getControlActionByDispatchId s rq.threadId did =
      some row) (hc : rq.actionType = .cancel ∨
      (validateCurrentGraphReceipt fp th row).isSome = true) : ow = true := by
  unfold bindClaim at h
  split_ifs at h with hgr
  · obtain ⟨rc,hre⟩ := isSome_iff_exists.1 (hc.resolve_left hgr.2)
    rw [prepareGraphActionReceipt_current ht (hrow hgr.1) ha ho hre] at h
    cases h
    rfl
  · cases h
    rfl

lemma owned_of_writer (st : ClaimStages fp s rq it dr tk t ac)
    (hf : getControlActionByIdempotencyKey s rq.threadId rq.idempotencyKey =
      some row) (ht : getThread s rq.threadId = some th)
    (hac : th.status ∉ nonActiveStatuses)
    (ho : th.authority.ownedBy row.actionType row.dispatchId = true)
    (hc : rq.actionType = .cancel ∨
      (validateCurrentGraphReceipt fp th row).isSome = true) : st.owned = true := by
  obtain ⟨hre,ha⟩ := existing_reserved st hf
  have hm : row ∈ s.controlActions.rows := Table.lookup_mem actionKey hf
  have hru : row.threadId = rq.threadId := (Prod.mk.inj (Table.lookup_key actionKey hf)).1
  have hl := st.leases
  have hd := st.dispatchId
  rw [hre] at hl
  rw [ha] at hd
  rw [hd] at ho
  have hth := claimReservedAction_threads hl
  -- The lease changes nothing of the row that the receipt depends on.
  have hle : st.token.isSome = true → getControlActionByDispatchId st.leased
      rq.threadId ac.dispatchId = some (granted tk (it + controlActionLeaseTtl) row) := by
    intro hw
    obtain ⟨-,ro,hrow',-,haf⟩ := claimReservedAction_acquirable hl hw
    rw [ha,getControlAction, Table.lookup_of_mem ControlActionModel.id action_id_unique hm] at hrow'
    cases hrow'
    exact getControlActionByDispatchId_of_mem (Table.lookup_mem ControlActionModel.id haf) hru hd
  have hr' : getThread st.leased rq.threadId = some th := by
    rw [getThread,hth]
    exact ht
  refine bindClaim_writer st.binds hr' hac ?_ hle hc
  exact ho

end

structure Owns (s : Store) (claim : RecoveryAttemptClaim) (thread : ThreadModel) : Prop where
  run : getThread s claim.threadId = some thread
  active : thread.status ∉ nonActiveStatuses
  owned : thread.authority.ownedBy claim.authority.actionType
    (some claim.authority.actionReceiptId) = true

def rowOf (s : Store) (claim : RecoveryAttemptClaim) : Option ControlActionModel :=
  getControlActionByDispatchId s claim.threadId claim.authority.actionReceiptId

/-- While it owns the run the claimed action is an accepted one: its row holds a current
receipt, or is a cancellation. -/
def Accepted (fingerprint : ActionPayload → String) (s : Store) (claim : RecoveryAttemptClaim) :
    Prop :=
  ∀ thread row, Owns s claim thread → rowOf s claim = some row →
    row.actionType = claim.authority.actionType ∧ (row.actionType = .cancel ∨
        (validateCurrentGraphReceipt fingerprint thread row).isSome = true)

def Quarantined (s : Store) (threadId : String) : Prop :=
  ∃ thread, getThread s threadId = some thread ∧ thread.repairStatus = .operatorInterventionRequired

/-- The reasons for which an attempt may be settled. -/
def SettledForCause (s t : Store) (claim : RecoveryAttemptClaim) (instant : Instant) : Prop :=
  (∃ row, rowOf s claim = some row ∧ row.appliedAt.isSome = true) ∨
    (∀ thread, ¬ Owns s claim thread) ∨ claim.deadlineAt ≤ instant ∨ Quarantined t claim.threadId

/-- The action can be delivered: it is open and in time, nobody leases it, and its
dispatch can be rebuilt. -/
structure Deliverable (s : Store) (claim : RecoveryAttemptClaim) (surroundings : Surroundings)
    (thread : ThreadModel) (row : ControlActionModel) : Prop where
  owns : Owns s claim thread
  found : rowOf s claim = some row
  payload : row.payload.isSome = true
  deadline : row.recoveryDeadlineAt = some claim.deadlineAt
  inTime : surroundings.claimStarted < claim.deadlineAt
  unapplied : row.appliedAt = none
  free : acquirableBy row surroundings.claimToken surroundings.claimStarted = true
  dispatch : (reconstructDispatch s surroundings (storedAction claim row)).isOk = true
  unattended : thread.repairStatus ≠ .operatorInterventionRequired

variable {thread th : ThreadModel}

section
variable {fingerprint fp : ActionPayload → String} {s t : Store} {claim cl : RecoveryAttemptClaim}
variable {surroundings su : Surroundings}
variable {an : StoredAction}

lemma quarantineForOperator_quarantined (h : quarantineForOperator s tid re = .ok t)
    (hru : (getThread s tid).isSome = true) : Quarantined t tid := by
  obtain ⟨th,ht⟩ := isSome_iff_exists.1 hru
  have ha := getThread_updateThread_map h fun _ => rfl
  rw [ht] at ha
  exact ⟨_,ha,rfl⟩

lemma electReconciling_run (h : electReconciling s tid th ty ri = .ok (t,el))
    (ht : getThread s tid = some th) : (getThread t tid).isSome = true := by
  unfold electReconciling at h
  split_ifs at h
  · cases h
    rw [ht]
    rfl
  · rw [(electThreadStatus_ok h).2 tid,ht]
    rfl

lemma settlePermanentRefusal_quarantined (h : settlePermanentRefusal s an re now = .ok (t,true)) :
    Quarantined t an.threadId := by
  unfold settlePermanentRefusal at h
  split at h
  · rename_i th row ht hrow
    split at h
    · cases h
    obtain ⟨⟨el,oc⟩,hel,hre⟩ := bind_ok.1 h
    dsimp only at hre
    split at hre
    · cases hre
    obtain ⟨ma,hm,hre⟩ := bind_ok.1 hre
    obtain ⟨qu,hq,hret⟩ := bind_ok.1 hre
    cases hret
    refine quarantineForOperator_quarantined hq ?_
    rw [getThread,(markControlActionApplied_others hm).2]
    exact electReconciling_run hel ht
  · cases h

lemma settleOrphanedRefusal_quarantined (h : settleOrphanedRefusal s tid au re = .ok (t,true)) :
    Quarantined t tid := by
  unfold settleOrphanedRefusal at h
  split at h
  · cases h
  rename_i th ht
  split at h
  · cases h
  obtain ⟨⟨el,oc⟩,hel,hre⟩ := bind_ok.1 h
  dsimp only at hre
  split at hre
  · cases hre
  obtain ⟨qu,hq,hret⟩ := bind_ok.1 hre
  cases hret
  exact quarantineForOperator_quarantined hq (electReconciling_run hel ht)

lemma settleRefused_settled (h : settleRefused s se = .ok (t,.settled,oc)) : se = .ok (t,true) := by
  obtain ⟨⟨settled,qu⟩,hs,hre⟩ := bind_ok.1 h
  cases qu with
  | false => cases hre
  | true =>
    cases hre
    exact hs

lemma settleMissingAction_settled (h : settleMissingAction s cl row now = .ok (t,.settled,oc)) :
    Quarantined t cl.threadId := by
  have hs := settleRefused_settled h
  split at hs
  · exact settlePermanentRefusal_quarantined hs
  · exact settleOrphanedRefusal_quarantined hs

lemma settleDeliveryFailure_settled (h : settleDeliveryFailure su cl an ac fa =
    .ok (t,.settled,oc)) : Quarantined t an.threadId := by
  unfold settleDeliveryFailure at h
  dsimp only at h
  split at h
  · exact settlePermanentRefusal_quarantined (settleRefused_settled h)
  split at h
  · cases h
  obtain ⟨⟨fr,fo⟩,-,hre⟩ := bind_ok.1 h
  dsimp only at hre
  split at hre <;> cases hre

lemma dispatchPreparedClaim_settled (h : dispatchPreparedClaim s cm su cl an ac =
      .ok (t,.settled,oc)) :
    Quarantined t an.threadId ∨ t = cm ∧ (reconstructDispatch cm su an).isOk = true ∧
      restoreRequestedState cm an ac.dispatchId = false := by
  unfold dispatchPreparedClaim at h
  split at h
  · exact .inl (settlePermanentRefusal_quarantined (settleRefused_settled h))
  rename_i dispatch hd
  split at h
  · rename_i hres
    cases h
    exact .inr ⟨rfl,by rw [hd]; rfl,Bool.eq_false_iff.2 hres⟩
  · obtain ⟨fi,-,hre⟩ := bind_ok.1 h
    split at hre
    · exact .inl (settleDeliveryFailure_settled hre)
    · split at hre <;> cases hre

/-- The claim with which a pass settles an attempt without a quarantine. -/
structure Dropped (fingerprint : ActionPayload → String) (s t : Store)
    (claim : RecoveryAttemptClaim) (surroundings : Surroundings) (row : ControlActionModel)
    (actionClaim : ControlActionClaim) : Prop where
  found : rowOf s claim = some row
  payload : row.payload.isSome = true
  deadline : row.recoveryDeadlineAt = some claim.deadlineAt
  unapplied : row.appliedAt = none
  claims : prepareControlActionClaim fingerprint s (recoveryRequest (storedAction claim row))
    surroundings.claimStarted surroundings.drawn surroundings.claimToken = .ok (t,actionClaim)
  cause : actionClaim.authorityMatches = false ∨ actionClaim.acquired = true ∧
    (reconstructDispatch t surroundings (storedAction claim row)).isOk = true ∧
      restoreRequestedState t (storedAction claim row) actionClaim.dispatchId = false

lemma redriveOneClaim_settled (h : redriveOneClaim fp s cl su = .ok (t,.settled,oc)) :
    Quarantined t cl.threadId ∨ (∃ row, rowOf s cl = some row ∧ row.appliedAt.isSome = true) ∨
      ∃ row ac, Dropped fp s t cl su row ac := by
  unfold redriveOneClaim at h
  split at h
  · exact .inl (settleMissingAction_settled h)
  rename_i row hrow
  split at h
  · exact .inl (settleMissingAction_settled h)
  rename_i hw
  simp only [not_or,Bool.not_eq_true,isNone_eq_false_iff,not_not] at hw
  split at h
  · rename_i hap
    exact .inr (.inl ⟨row,hrow,hap⟩)
  rename_i ho
  rw [Bool.not_eq_true,isSome_eq_false_iff,isNone_iff_eq_none] at ho
  obtain ⟨⟨cm,ac⟩,hc,hre⟩ := bind_ok.1 h
  dsimp only at hre
  split at hre
  · rename_i hau
    split at hre <;> cases hre
    exact .inr (.inr ⟨row,ac,hrow,hw.1,hw.2,ho,hc,.inl (Bool.eq_false_iff.2 hau)⟩)
  split at hre
  · exact .inl (settlePermanentRefusal_quarantined (settleRefused_settled hre))
  split at hre
  · split at hre <;> cases hre
  · rename_i ha
    rcases dispatchPreparedClaim_settled hre with hq | ⟨rfl,hd,hres⟩
    · exact .inl hq
    · exact .inr (.inr ⟨row,ac,hrow,hw.1,hw.2,ho,hc,.inr ⟨not_not.1 ha,hd,hres⟩⟩)

section
lemma rowOf_key (h : rowOf s cl = some row) :
    getControlActionByIdempotencyKey s cl.threadId row.idempotencyKey = some row := by
  obtain ⟨hm,hru,-⟩ := getControlActionByDispatchId_ok h
  rw [← hru]
  exact Table.lookup_of_mem actionKey action_key_unique hm

/-- The claim of the writer of an open run, in time: the row is found, and bound. -/
lemma Accepted.stages (hac : Accepted fp s cl) (ho : Owns s cl th) (hrow : rowOf s cl = some row)
    (hde : row.recoveryDeadlineAt = some cl.deadlineAt)
    (hin : su.claimStarted < cl.deadlineAt)
    (h : prepareControlActionClaim fp s (recoveryRequest (storedAction cl row))
      su.claimStarted su.drawn su.claimToken = .ok (t,ac)) :
    ∃ st : ClaimStages fp s (recoveryRequest (storedAction cl row))
        su.claimStarted su.drawn su.claimToken t ac,
      st.reserved = s ∧ st.reservation.action = row ∧ st.inTime = true ∧ st.owned = true ∧
        ac.dispatchId = cl.authority.actionReceiptId := by
  obtain ⟨ht,hcu⟩ := hac th row ho hrow
  obtain ⟨-,-,hd⟩ := getControlActionByDispatchId_ok hrow
  obtain ⟨st⟩ := prepareControlActionClaim_stages h
  obtain ⟨hre,ha⟩ := existing_reserved st (rowOf_key hrow)
  refine ⟨st,hre,ha,?_,?_,?_⟩
  · rw [(claimReservedAction_ok st.leases).1,ha,withinDeadline,hde]
    simp [hin]
  · refine owned_of_writer st (rowOf_key hrow) ho.run ho.active ?_ ?_
    · rw [ht,hd]
      exact ho.owned
    · rwa [ht] at hcu
  · have hc := st.dispatchId
    rw [ha,hd] at hc
    exact (Option.some.inj hc).symm

lemma Deliverable.acquired (hd : Deliverable s cl su th row) (hac : Accepted fp s cl)
    (h : prepareControlActionClaim fp s (recoveryRequest (storedAction cl row))
      su.claimStarted su.drawn su.claimToken = .ok (t,ac)) : ac.acquired = true := by
  obtain ⟨st,hre,ha,ht,ho,-⟩ := hac.stages hd.owns hd.found hd.deadline hd.inTime h
  have hm := (getControlActionByDispatchId_ok hd.found).1
  have hrow : getControlAction st.reserved st.reservation.action.id =
      some st.reservation.action := by
    rw [hre,ha]
    exact Table.lookup_of_mem ControlActionModel.id action_id_unique hm
  have hb : st.reservation.payloadMatches = true := by
    obtain ⟨-,-,hb⟩ := reserveControlAction_ok st.reserves
    rw [hb,ha]
    exact ⟨(hac th row hd.owns hd.found).1,rfl,rfl⟩
  have hw := claimReservedAction_free st.leases hrow (by rw [ha]; exact hd.free)
    (by rw [ha]; exact hd.unapplied) ht hb
  rw [st.acquired,hw,ho]
  rfl

lemma Owns.restoreRequestedState_iff (ho : Owns s cl th) (hk : t.threads = s.threads) :
    restoreRequestedState t (storedAction cl row) cl.authority.actionReceiptId = true ↔
      requestedStatus cl.authority.actionType th.status = th.status := by
  have hru : getThread t cl.threadId = some th := by
    rw [getThread,hk]
    exact ho.run
  unfold restoreRequestedState
  simp only [storedAction,hru,any_some,ho.owned,Bool.and_true]
  exact decide_eq_true_iff

lemma reconstructDispatch_of_threads (hk : t.threads = s.threads) :
    reconstructDispatch t su an = reconstructDispatch s su an := by
  unfold reconstructDispatch
  rw [getThread,getThread,hk]

/-- What the writer of an open run is dropped for, in time and without an operator. -/
lemma Dropped.unrequested (hd : Dropped fp s t cl su row ac)
    (hac : Accepted fp s cl) (ho : Owns s cl th)
    (hin : su.claimStarted < cl.deadlineAt)
    (hu : ¬ Quarantined t cl.threadId) :
    Deliverable s cl su th row ∧ requestedStatus cl.authority.actionType th.status ≠ th.status := by
  have hk := prepareControlActionClaim_threads hd.claims rfl
  obtain ⟨st,hres,hact,ht,hown,hdi⟩ := hac.stages ho hd.found hd.deadline hin hd.claims
  have hau : ac.authorityMatches = true := by
    rw [st.authorityMatches,ht,hown]
    rfl
  obtain ⟨ha,hreb,hre⟩ := hd.cause.resolve_left (Bool.ne_false_iff.2 hau)
  have hf : acquirableBy row su.claimToken su.claimStarted = true := by
    rw [st.acquired,Bool.and_eq_true] at ha
    obtain ⟨-,ro,hrow',hf,-⟩ := claimReservedAction_acquirable st.leases ha.1
    rw [hres,hact,getControlAction,Table.lookup_of_mem ControlActionModel.id
      action_id_unique (getControlActionByDispatchId_ok hd.found).1] at hrow'
    cases hrow'
    exact hf
  refine ⟨⟨ho,hd.found,hd.payload,hd.deadline,hin,hd.unapplied,hf,
    ?_,fun hrep => hu ⟨th,?_,hrep⟩⟩,fun hs => ?_⟩
  · rwa [reconstructDispatch_of_threads hk] at hreb
  · rw [getThread,hk]
    exact ho.run
  · rw [hdi,(ho.restoreRequestedState_iff hk).2 hs] at hre
    cases hre

lemma Deliverable.settled (hd : Deliverable s cl su th row) (ha : Accepted fp s cl)
    (hs : requestedStatus cl.authority.actionType th.status ≠ th.status)
    (h : redriveOneClaim fp s cl su = .ok (t,write,oc)) :
    write = .settled ∧ t.threads = s.threads := by
  unfold redriveOneClaim at h
  rw [show getControlActionByDispatchId s cl.threadId cl.authority.actionReceiptId =
    some row from hd.found] at h
  dsimp only at h
  rw [if_neg (by simp [← not_isSome,hd.payload,hd.deadline]), if_neg (by simp [hd.unapplied])] at h
  obtain ⟨⟨cm,ac⟩,hc,hre⟩ := bind_ok.1 h
  have hk := prepareControlActionClaim_threads hc rfl
  have hac := hd.acquired ha hc
  obtain ⟨hau,hb,-⟩ := prepareControlActionClaim_acquired hc hac
  obtain ⟨-,-,-,-,-,hdi⟩ := ha.stages hd.owns hd.found hd.deadline hd.inTime hc
  have hl : ¬ restoreRequestedState cm (storedAction cl row) ac.dispatchId = true := by
    rw [hdi,hd.owns.restoreRequestedState_iff hk]
    exact hs
  dsimp only at hre
  rw [hau,hb,hac] at hre
  simp only [not_true_eq_false,if_false] at hre
  unfold dispatchPreparedClaim at hre
  have hreb := hd.dispatch
  rw [← reconstructDispatch_of_threads hk] at hreb
  split at hre
  · rename_i re href
    rw [href] at hreb
    cases hreb
  · rw [if_pos hl] at hre
    cases hre
    exact ⟨rfl,hk⟩

end

end

/-- Over every pass, an attempt is settled for cause exactly when any deliverable action
finds its run in the status it requested. -/
theorem settled_for_cause_iff {fingerprint : ActionPayload → String} {s t : Store}
    {claim : RecoveryAttemptClaim} {surroundings : Surroundings} {write : AttemptWrite}
    {outcome : RecoveryOutcome} (haccepted : Accepted fingerprint s claim)
    (h : redriveOneClaim fingerprint s claim surroundings = .ok (t,write,outcome)) :
    (write = .settled → SettledForCause s t claim surroundings.claimStarted) ↔
      ∀ thread row, Deliverable s claim surroundings thread row →
        requestedStatus claim.authority.actionType thread.status = thread.status := by
  constructor
  · intro hc thread row hd
    by_contra hs
    obtain ⟨hse,hk⟩ := hd.settled haccepted hs h
    rcases hc hse with ⟨row',hrow',ha⟩ | ho | hl | ⟨thread',hr',hrep⟩
    · rw [hd.found] at hrow'
      cases hrow'
      rw [hd.unapplied] at ha
      cases ha
    · exact ho thread hd.owns
    · exact absurd hd.inTime (not_lt.2 hl)
    · rw [getThread,hk] at hr'
      have hsa : some thread' = some thread := hr'.symm.trans hd.owns.run
      cases hsa
      exact hd.unattended hrep
  · rintro hs rfl
    by_contra hc
    obtain ⟨hop,hre⟩ := not_or.1 hc
    obtain ⟨ho,hre⟩ := not_or.1 hre
    obtain ⟨hl,hu⟩ := not_or.1 hre
    obtain ⟨thread,hown⟩ := not_forall_not.1 ho
    obtain ⟨row,actionClaim,hdr⟩ := ((redriveOneClaim_settled h).resolve_left hu).resolve_left hop
    obtain ⟨hd,hun⟩ := hdr.unrequested haccepted hown (not_le.1 hl) hu
    exact hun (hs thread row hd)

def turnDispatch : DispatchInput :=
  { followonDispatch "run-1" PermissionAsks.plainFollowon (.permissionAnswer "" "") with
    verb := "ingest"
    optionId := none }

def turnRequest (thread : ThreadModel) : ControlActionClaimRequest where
  threadId := "run-1"
  actionType := .messageFollowupRequested
  idempotencyKey := "key-1"
  payload := some (.accepted ⟨.followup "go on" "agent-1",turnDispatch,false⟩)
  dispatchId := "dispatch-2"
  writeExpectation := some (threadWriteExpectation thread)
  recoveryTimeoutSeconds := some 600

/-- The statuses a run passes through under the receipt of its follow-up turn. -/
def passThrough (s : Store) : List ThreadStatus → Except Raised Store
  | [] => .ok s
  | status :: rest =>
    match getThread s "run-1" with
    | none => .error .keyError
    | some thread => do
        let (elected,_) ← electThreadStatus s "run-1" (threadWriteExpectation thread) status
          .messageFollowupRequested "dispatch-2"
        passThrough elected rest

/-- The admitted run with an accepted turn that nobody has delivered. -/
def acceptedTurn (statuses : List ThreadStatus) : Except Raised Store := do
  let s ← admittedRun
  match getThread s "run-1" with
  | none => .error .keyError
  | some thread => do
      let (claimed,_) ← prepareControlActionClaim (fun _ => "digest") s (turnRequest thread) 0
        ⟨"action-2","dispatch-2"⟩ "token-1"
      passThrough claimed statuses

def turnClaim : RecoveryAttemptClaim :=
  ⟨"run-1",⟨2,2,.messageFollowupRequested,"dispatch-2",by decide,by decide⟩,600 * second,1⟩

/-- A pass once the first lease has lapsed, with a worker that takes the dispatch. -/
def afterLapse : Surroundings where
  claimStarted := 100 * second
  checkedAt := 100 * second
  observedAt := 101 * second
  settledAt := 101 * second
  drawn := ⟨"action-3","dispatch-3"⟩
  claimToken := "token-2"
  restore := fun _ => .ok turnDispatch
  isDirectory := fun _ => true
  failure := none
  later := Store.empty

lemma accepted_of_all (h : (getThread s cl.threadId).all (fun th => (rowOf s cl).all fun row =>
      decide (row.actionType = cl.authority.actionType) &&
        (validateCurrentGraphReceipt fp th row).isSome) = true) :
    Accepted fp s cl := by
  intro th row ho hrow
  rw [ho.run,hrow,all_some,all_some,Bool.and_eq_true] at h
  exact ⟨of_decide_eq_true h.1,.inr h.2⟩

/-- The turn of a running run is delivered, and its attempt stays open. -/
theorem settled_for_cause_iff_running : ∃ s t write, acceptedTurn [.running] = .ok s ∧
    redriveOneClaim (fun _ => "digest") s turnClaim afterLapse = .ok (t,write,.dispatched) ∧
    (∃ thread row, Deliverable s turnClaim afterLapse thread row) ∧
    ((write = .settled → SettledForCause s t turnClaim afterLapse.claimStarted) ↔
      ∀ thread row, Deliverable s turnClaim afterLapse thread row →
        requestedStatus turnClaim.authority.actionType thread.status = thread.status) := by
  have hp : ∃ s t write, acceptedTurn [.running] = .ok s ∧
      redriveOneClaim (fun _ => "digest") s turnClaim afterLapse = .ok (t,write,.dispatched) ∧
      (∃ thread row, Deliverable s turnClaim afterLapse thread row) ∧
      Accepted (fun _ => "digest") s turnClaim := by
    refine ⟨_,_,_,rfl,rfl,⟨_,_,⟨rfl,?_,rfl⟩,rfl,rfl,rfl,?_,rfl,rfl,rfl,?_⟩,accepted_of_all rfl⟩ <;>
      decide
  obtain ⟨s,t,write,hs,hre,hd,ha⟩ := hp
  exact ⟨s,t,write,hs,hre,hd,settled_for_cause_iff ha hre⟩

/-- The startup reconciler moves the run of an undelivered turn to reconciling under the
receipt of the turn, and the next pass settles the attempt without a cause. -/
theorem reconciling_turn_dropped : ∃ s t, acceptedTurn [.running,.reconciling] = .ok s ∧
    Accepted (fun _ => "digest") s turnClaim ∧
    redriveOneClaim (fun _ => "digest") s turnClaim afterLapse = .ok (t,.settled,.conflicted) ∧
    ¬ SettledForCause s t turnClaim afterLapse.claimStarted := by
  refine ⟨_,_,rfl,accepted_of_all rfl,rfl,?_⟩
  rintro (⟨row,hrow,ha⟩ | ho | hl | ⟨thread,ht,hre⟩)
  · cases hrow
    cases ha
  · exact ho _ ⟨rfl,by decide,rfl⟩
  · exact absurd hl (by decide)
  · cases ht
    cases hre

end VaultspecA2A.RecoveryPass
