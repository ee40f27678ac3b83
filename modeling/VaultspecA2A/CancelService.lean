import VaultspecA2A.ClarificationService

/-!
# Cancellation of a run

A cancellation is admitted where the run can still enter the cancelling status, and on a
run that is there already. It is journaled under one key for each run, whatever label its
caller supplied; the label is only echoed. The claim of the cancellation enters no graph:
it is leased, and the run is elected into the cancelling status under its receipt.

What the transaction commits before the delivery is modelled, and then what a delivery that was
taken, or one that failed, is told.
-/
namespace VaultspecA2A.CancelService
open ThreadLifecycle Database ControlActions ThreadElections
open ActionClaims IdempotencyKeys PermissionJournal PermissionResponses ClarificationService

structure CancelEligibility where
  allowed : Bool
  alreadyCancelled : Bool
  reason : Option String
deriving DecidableEq, Repr

def canCancel (outside : Outside) (status : ThreadStatus) : CancelEligibility :=
  if status = .cancelling ∨ .cancelling ∈ validTransitions status then ⟨true,false,none⟩
  else
    ⟨false,decide (status = .cancelled),
      some ("Cannot cancel thread in " ++ outside.quoted status.value ++ " state")⟩

structure CancelOutcome extends ControlActionOutcome where
  cancelled : Bool := false
  threadStatus : Option ThreadStatus := none
deriving DecidableEq, Repr

structure CancelPreflight where
  thread : ThreadModel
  recoveryDeadlineAt : Instant

def cancelPreflight (outside : Outside) (s : Store) (threadId : String) (now : Instant) :
    Except CancelOutcome CancelPreflight :=
  match getThread s threadId with
  | none =>
    .error { threadId := threadId, errorDetail := some "Run not found"
             failureType := some .notFound }
  | some thread =>
    let eligibility := canCancel outside thread.status
    if ¬ eligibility.allowed then
      .error { threadId := threadId, threadStatus := some thread.status
               errorDetail := eligibility.reason, applied := eligibility.alreadyCancelled
               failureType := some .terminal }
    else
      let owning := getControlActionByDispatchId s threadId thread.authority.actionReceiptId
      match owning.bind ControlActionModel.recoveryDeadlineAt with
      | none =>
        .error { threadId := threadId, threadStatus := some thread.status
                 errorDetail := some "The accepted run carries no recovery deadline"
                 failureType := some .incompatibleState }
      | some deadline =>
        if deadline ≤ now then
          .error { threadId := threadId, threadStatus := some thread.status
                   errorDetail := some "The accepted run deadline has expired"
                   failureType := some .deadlineExceeded }
        else .ok ⟨thread,deadline⟩

/-- The body a cancellation is journaled with; its dispatch names the run only. -/
def cancelPayload (threadId : String) : ActionPayload := .accepted
    { intent := .cancel
      dispatch :=
        { verb := "cancel", threadId := threadId, teamPreset := "", graphDefinition := ⟨"",0,0,""⟩
          autonomous := false, workspaceRoot := "", recursionLimit := 0, modelAssignment := ""
          optionId := none }
      actorTokensRequired := false }

def cancelClaimRequest (threadId key : String) (deadline : Instant) (drawn : Drawn) :
    ControlActionClaimRequest where
  threadId := threadId
  actionType := .cancel
  idempotencyKey := key
  payload := some (cancelPayload threadId)
  dispatchId := drawn.dispatchId
  recoveryDeadlineAt := some deadline

def cancelAuthorityAlreadyOwned (expectation : ThreadWriteExpectation) (dispatchId : String) :
    Bool :=
  decide (expectation.status = .cancelling) &&
    expectation.authority.ownedBy .cancel (some dispatchId)

def cancelKeyConflict : String := "Idempotency key is already bound to a different action"

/-- What an action that was journaled before reports; nothing when this call owns it. -/
def existingCancelClaim (s : Store) (claim : ControlActionClaim) (thread : ThreadModel)
    (responseKey : String) : Option CancelOutcome :=
  if ¬ claim.payloadMatches then
    some { actionId := some claim.actionId, threadId := thread.id
           threadStatus := some thread.status, errorDetail := some cancelKeyConflict
           idempotencyKey := some responseKey, failureType := some .conflict }
  else if ¬ claim.acquired then
    match getThread s thread.id with
    | none =>
      some { actionId := some claim.actionId, threadId := thread.id
             errorDetail := some "Thread disappeared while cancellation was leased"
             actionStatus := claim.resultStatus, idempotencyKey := some responseKey
             failureType := some .notFound }
    | some current =>
      if ¬ cancelAuthorityAlreadyOwned (threadWriteExpectation current) claim.dispatchId then
        some { actionId := some claim.actionId, threadId := thread.id
               cancelled := decide (current.status = .cancelled)
               threadStatus := some current.status
               errorDetail := some "Cancellation action is leased but does not own thread authority"
               applied := decide (current.status = .cancelled)
               actionStatus := claim.resultStatus, idempotencyKey := some responseKey
               failureType := some .conflict }
      else
        some { actionId := some claim.actionId, threadId := thread.id, cancelled := true
               threadStatus := some .cancelling, accepted := true, applied := claim.applied
               actionStatus := claim.resultStatus, idempotencyKey := some responseKey }
  else none

def cancelElectionConflict (eligibility : CancelEligibility) : Option FailureType × Option String :=
  if eligibility.alreadyCancelled then (none,none)
  else if eligibility.allowed then
    (some .conflict,some "Thread authority changed during cancellation election")
  else (some .terminal,eligibility.reason)

def lostCancelElection (outside : Outside) (s : Store) (claim : ControlActionClaim)
    (thread : ThreadModel) (responseKey : String) :
    ThreadStatusElectionOutcome → CancelOutcome
  | .notFound =>
    { actionId := some claim.actionId, threadId := thread.id
      errorDetail := some "Thread disappeared during cancellation election"
      idempotencyKey := some responseKey, failureType := some .notFound }
  | .receiptMismatch =>
    { actionId := some claim.actionId, threadId := thread.id
      threadStatus := some thread.status
      errorDetail := some "Cancellation receipt does not match its durable action"
      idempotencyKey := some responseKey, failureType := some .conflict }
  | _ =>
    let current := (getThread s thread.id).getD thread
    let eligibility := canCancel outside current.status
    let (failureType,detail) := cancelElectionConflict eligibility
    { actionId := some claim.actionId, threadId := thread.id
      cancelled := eligibility.alreadyCancelled, threadStatus := some current.status
      errorDetail := detail, applied := eligibility.alreadyCancelled
      idempotencyKey := some responseKey, failureType := failureType }

inductive CancelAnswer
  | settled (outcome : CancelOutcome)
  | dispatching (claim : ControlActionClaim)
deriving DecidableEq, Repr

def electCancelAuthority (outside : Outside) (before claimed : Store)
    (claim : ControlActionClaim) (thread : ThreadModel) (responseKey : String) :
    Except Raised (Store × Option CancelOutcome) :=
  if cancelAuthorityAlreadyOwned (threadWriteExpectation thread) claim.dispatchId then
    .ok (claimed,none)
  else do
    let (elected,outcome) ← electThreadStatus claimed thread.id (threadWriteExpectation thread)
      .cancelling .cancel claim.dispatchId
    if outcome ≠ .won then
      .ok (before,some (lostCancelElection outside before claim thread responseKey outcome))
    else do
      let transition ← repairStateForAction .cancel .requested
      let repaired ← applyRepairTransition elected thread.id transition
      .ok (repaired,none)

/-- The transaction of a cancellation, up to the commit before its delivery. -/
def cancelThread (outside : Outside) (s : Store) (threadId : String)
    (idempotencyKey : Option String) (now : Instant) (drawn : Drawn) (claimToken : String) :
    Except Raised (Store × CancelAnswer) :=
  let resolvedKey := defaultCancelKey outside.sha256Hex threadId
  let responseKey := (idempotencyKey.filter fun key => !key.isEmpty).getD resolvedKey
  match cancelPreflight outside s threadId now with
  | .error outcome => .ok (s,.settled outcome)
  | .ok preflight => do
      let (claimed,claim) ← prepareControlActionClaim outside.fingerprint s
        (cancelClaimRequest threadId resolvedKey preflight.recoveryDeadlineAt drawn) now drawn
        claimToken
      match existingCancelClaim s claim preflight.thread responseKey with
      | some outcome => .ok (s,.settled outcome)
      | none => do
          let (elected,lost) ←
            electCancelAuthority outside s claimed claim preflight.thread responseKey
          match lost with
          | some outcome => .ok (elected,.settled outcome)
          | none => do
              let committed ← finalizeControlActionAcceptance elected claim
              .ok (committed,.dispatching claim)

def deliveredCancel (threadId responseKey : String) (claim : ControlActionClaim) :
    CancelOutcome :=
  { actionId := some claim.actionId, threadId := threadId, cancelled := true
    threadStatus := some .cancelling, accepted := true, actionStatus := .acceptedNotApplied
    idempotencyKey := some responseKey }

def failedCancelDispatch (s : Store) (threadId responseKey : String)
    (claim : ControlActionClaim) (failureType : FailureType) (detail : String)
    (recorded : Bool) (instant : Instant) : Except Raised (Store × CancelOutcome) := do
  let (settled,disposition) ← recordDispatchFailure s claim failureType recorded instant
  let status := (getThread settled threadId).map ThreadModel.status
  match disposition with
  | .ambiguousDelivery => .ok (settled,deliveredCancel threadId responseKey claim)
  | .applicationWon =>
    .ok (settled,{ deliveredCancel threadId responseKey claim with
      threadStatus := status, applied := true, actionStatus := .applied })
  | .authorityLost =>
    .ok (settled,
      { actionId := some claim.actionId, threadId := threadId, threadStatus := status
        idempotencyKey := some responseKey
        errorDetail := some "Cancellation authority changed before failure settlement"
        failureType := some .incompatibleState })
  | .deadlineExpired =>
    .ok (settled,
      { actionId := some claim.actionId, threadId := threadId, threadStatus := status
        idempotencyKey := some responseKey
        errorDetail := some "The accepted run deadline expired"
        failureType := some .deadlineExceeded })
  | .definiteNonDelivery => do
      let noted ← recordUndeliveredDispatch settled threadId detail
      .ok (noted,
        { actionId := some claim.actionId, threadId := threadId
          threadStatus := some .cancelling, idempotencyKey := some responseKey
          errorDetail := some "Cancel dispatch failed", failureType := some failureType })

end VaultspecA2A.CancelService
