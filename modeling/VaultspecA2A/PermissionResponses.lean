import VaultspecA2A.PermissionJournal

/-!
# Responses to permission requests

A response names a request and an option. The checkpoint is read first, outside any
transaction; everything after that is one write transaction: the guards that refuse
or replay the response, the claim of its answer, and the projections that commit
with the claim. Delivery to the worker follows the commit, and a failed delivery is
settled in a transaction of its own.

Outside functions are parameters: the digest behind the default key and the payload fingerprint,
and the quoting of a text in a message.
-/
namespace VaultspecA2A.PermissionResponses
open Tables PyValue ThreadLifecycle Database ControlActions ActionLeases ActionClaims
open PermissionOptions IdempotencyKeys ThreadElections PermissionJournal

structure Outside where
  sha256Hex : String → String
  fingerprint : ActionPayload → String
  quoted : String → String

inductive FailureType
  | circuitOpen
  | atCapacity
  | unreachable
  | rejected
  | notFound
  | terminal
  | inputRequired
  | conflict
  | runBusy
  | queueFull
  | noActiveProject
  | authoringSubscriberUnavailable
  | incompatibleState
  | credentialsRequired
  | deadlineExceeded
  | storeBusy
  | envelopeTooLarge
deriving DecidableEq, Repr

/-- What one verb did; it defaults to a refusal that reserved nothing. -/
structure ControlActionOutcome where
  threadId : String
  requestId : String := ""
  actionId : Option String := none
  idempotencyKey : Option String := none
  accepted : Bool := false
  applied : Bool := false
  actionStatus : ControlActionResultStatus := .rejectedInvalidState
  dispatched : Bool := false
  approvalStatus : Option ApprovalStatus := none
  errorDetail : Option String := none
  errorStatusCode : Option ℕ := none
  failureType : Option FailureType := none
deriving DecidableEq, Repr

structure PermissionInput where
  requestId : String
  optionId : String
  idempotencyKey : Option String := none
  notes : Option String := none
deriving DecidableEq, Repr

structure ParkedPermission where
  requestId : String
  pauseReasonType : String
  toolCall : Option String
  description : String
  offered : List Value
  pending : Bool

def ParkedPermission.optionIds (permission : ParkedPermission) : List String :=
  validOptionIds permission.offered

def ParkedPermission.fromInterrupt (interrupt : ProjectedInterrupt) (description : String) :
    ParkedPermission where
  requestId := interrupt.interruptId
  pauseReasonType := interrupt.interruptType.value
  toolCall :=
    if interrupt.interruptType.value ∈ planApprovalPauseCauses then none
    else interrupt.toolName.bind Value.nonemptyStr
  description := description
  offered := interrupt.offered
  pending := true

def ParkedPermission.fromJournal (row : PermissionRequestModel) : ParkedPermission where
  requestId := row.requestId
  pauseReasonType := row.pauseReasonType
  toolCall := row.toolCall
  description := row.description
  offered := (decodeAllowedOptions row.allowedOptions).getD []
  pending := false

/-- Resolve the request from the checkpoint first, then from this run's row. -/
def parkedPermission (s : Store) (threadId requestId : String)
    (held : Option ProjectedInterrupt) : Option ParkedPermission :=
  let journal := (getPermissionRequest s requestId).filter fun row => row.threadId = threadId
  match held with
  | some interrupt =>
    some (.fromInterrupt interrupt ((journal.map PermissionRequestModel.description).getD ""))
  | none => journal.map .fromJournal

def locallyRespondablePauseCauses : List String :=
  planApprovalPauseCauses.filter (· ≠ InterruptType.documentApprovalRequest.value)

/-- The pauses only the engine's review surface decides. -/
def decidedElsewhere (pauseReasonType : String) : Bool :=
  decide (pauseReasonType ∈ planApprovalPauseCauses) &&
    !decide (pauseReasonType ∈ locallyRespondablePauseCauses)

structure PermissionAsk where
  generation : Generation
  accepted : Option ControlActionModel

/-- The first ask whose answer has not been applied, and the last answer that was. -/
structure JournaledAsks where
  unanswered : PermissionAsk
  answered : Option ControlActionModel

def JournaledAsks.addressed (asks : JournaledAsks) (held : Bool) : PermissionAsk :=
  if held ∨ asks.unanswered.accepted.isSome ∨ asks.answered.isNone then asks.unanswered
  else
    ⟨⟨asks.unanswered.generation.val - 1,
      Nat.lt_of_le_of_lt (Nat.sub_le _ _) asks.unanswered.generation.isLt⟩,asks.answered⟩

def walkAsks (s : Store) (threadId requestId : String) (answered : Option ControlActionModel) :
    List Generation → Option JournaledAsks
  | [] => none
  | generation :: later =>
    match getControlActionByIdempotencyKey s threadId
        (permissionResponseActionKey requestId generation) with
    | none => some ⟨⟨generation,none⟩,answered⟩
    | some action =>
      if action.appliedAt.isNone then some ⟨⟨generation,some action⟩,answered⟩
      else walkAsks s threadId requestId (some action) later

def journaledPermissionAsks (s : Store) (threadId requestId : String) : Option JournaledAsks :=
  walkAsks s threadId requestId none (List.finRange maxPermissionAsks)

structure AuthorizedPermission where
  permission : ParkedPermission
  threadRecord : ThreadModel
  resolvedIdempotencyKey : String
  ask : PermissionAsk

inductive Authorization
  | answered (outcome : ControlActionOutcome)
  | authorized (permission : AuthorizedPermission)

def rejectedPermissionError (permission : ParkedPermission) (threadTerminal : Bool)
    (optionId : String) : String × ℕ :=
  if threadTerminal then ("thread is no longer active",409)
  else if ¬ permission.pending then ("Permission request is no longer pending",409)
  else if permission.optionIds.isEmpty then ("Permission request has no valid options",409)
  else if optionId ∉ permission.optionIds then
    ("Unknown permission option for this request",409)
  else ("Permission response was previously rejected",409)

def existingRejectionError (action : ControlActionModel) : Option String :=
  match action.payload with
  | some (.rejection _ detail) => if detail.isEmpty then none else some detail
  | _ => none

def requestNotFound (outside : Outside) (requestId threadId : String) : ControlActionOutcome :=
  { threadId := threadId, requestId := requestId
    errorDetail := some ("Permission request " ++ outside.quoted requestId ++
      " not found for run " ++ outside.quoted threadId)
    errorStatusCode := some 404 }

def documentApprovalRefusal (requestId threadId : String) : ControlActionOutcome :=
  { threadId := threadId, requestId := requestId
    errorDetail := some ("Document-approval pauses are decided by the engine review surface, " ++
      "not this route; the run resumes only through the verdict subscriber.")
    errorStatusCode := some 403 }

def resolvedIdempotencyKey (outside : Outside) (response : PermissionInput) : String :=
  match response.idempotencyKey with
  | none => defaultPermissionResponseKey outside.sha256Hex response.requestId response.optionId
  | some key =>
    if key.isEmpty then
      defaultPermissionResponseKey outside.sha256Hex response.requestId response.optionId
    else key

/-- The arguments of a row that settles a response without an answer. -/
def settledArgs (threadId : String) (response : PermissionInput) (key : String)
    (payload : ActionPayload) (status : ControlActionResultStatus) : ActionArgs :=
  { threadId := threadId, actionType := .permissionResponseSubmitted, idempotencyKey := key
    requestId := some response.requestId, payload := some payload, resultStatus := status }

/-- Journal a refusal, so that a replay under the same key reads its reason back. -/
def journalRejection (s : Store) (thread : ThreadModel) (response : PermissionInput)
    (resolvedKey : String) (error : String × ℕ) (drawn : Drawn) :
    Except Raised (Store × ControlActionOutcome) := do
  let (journaled,action) ← createControlAction s
    (settledArgs thread.id response (permissionRejectionActionKey resolvedKey)
      (.rejection response.optionId error.1) .rejectedInvalidState) drawn
  .ok (journaled,
    { threadId := thread.id, requestId := response.requestId, actionId := some action.id
      idempotencyKey := some resolvedKey, approvalStatus := thread.approvalStatus
      errorDetail := some error.1, errorStatusCode := some error.2 })

/-- A row under the refusal key answers the response itself; an accepted answer of the
ask lets it through to the claim. -/
def deduplicatePermissionResponse (s : Store) (permission : ParkedPermission)
    (thread : ThreadModel) (response : PermissionInput) (resolvedKey : String)
    (ask : PermissionAsk) : Option Authorization :=
  match getControlActionByIdempotencyKey s thread.id (permissionRejectionActionKey resolvedKey) with
  | some existing =>
    if existing.resultStatus = .rejectedInvalidState then
      let error := rejectedPermissionError permission
        (decide (thread.status ∈ terminalStatuses)) response.optionId
      some (.answered
        { threadId := thread.id, requestId := response.requestId
          actionStatus := existing.resultStatus, actionId := some existing.id
          idempotencyKey := some resolvedKey, approvalStatus := thread.approvalStatus
          errorDetail := (existingRejectionError existing).or (some error.1)
          errorStatusCode := some error.2 })
    else
      some (.answered
        { threadId := thread.id, requestId := response.requestId, accepted := true
          applied := existing.appliedAt.isSome, actionStatus := existing.resultStatus
          actionId := some existing.id, idempotencyKey := some resolvedKey
          approvalStatus := thread.approvalStatus })
  | none =>
    if ask.accepted.isSome then some (.authorized ⟨permission,thread,resolvedKey,ask⟩) else none

def refuseUnparkedPermission (s : Store) (permission : ParkedPermission) (thread : ThreadModel)
    (response : PermissionInput) (resolvedKey : String) (unconfirmed : Bool) (drawn : Drawn) :
    Except Raised (Store × ControlActionOutcome) :=
  if (getPermissionRequest s response.requestId).any fun row => row.requestStatus = .applied then do
    let (journaled,action) ← createControlAction s
      (settledArgs thread.id response (permissionDuplicateActionKey resolvedKey)
        (.duplicate response.optionId) .duplicate) drawn
    .ok (journaled,
      { threadId := thread.id, requestId := response.requestId, accepted := true
        applied := true, actionStatus := .duplicate, actionId := some action.id
        idempotencyKey := some resolvedKey, approvalStatus := thread.approvalStatus })
  else if unconfirmed then
    .ok (s,
      { threadId := thread.id, requestId := response.requestId
        errorDetail := some "Permission request cannot be confirmed pending"
        errorStatusCode := some 409 })
  else
    journalRejection s thread response resolvedKey
      (rejectedPermissionError permission false response.optionId) drawn

def authorizeParkedPermission (s : Store) (permission : ParkedPermission) (thread : ThreadModel)
    (response : PermissionInput) (resolvedKey : String) (ask : PermissionAsk)
    (unconfirmed : Bool) (drawn : Drawn) : Except Raised (Store × Authorization) :=
  if ¬ permission.pending then do
    let (refused,outcome) ←
      refuseUnparkedPermission s permission thread response resolvedKey unconfirmed drawn
    .ok (refused,.answered outcome)
  else if thread.status ∈ terminalStatuses then
    .ok (s,.answered
      { threadId := thread.id, requestId := response.requestId
        errorDetail := some "thread is no longer active", errorStatusCode := some 409 })
  else if response.optionId ∈ permission.optionIds then
    .ok (s,.authorized ⟨permission,thread,resolvedKey,ask⟩)
  else do
    let (refused,outcome) ← journalRejection s thread response resolvedKey
      (rejectedPermissionError permission false response.optionId) drawn
    .ok (refused,.answered outcome)

/-- Authorize a response to a request on a run before any change of the run. -/
def authorizePermissionResponse (outside : Outside) (s : Store) (threadId : String)
    (response : PermissionInput) (held : Option ProjectedInterrupt) (unconfirmed : Bool)
    (drawn : Drawn) : Except Raised (Store × Authorization) :=
  match getThread s threadId with
  | none => .ok (s,.answered (requestNotFound outside response.requestId threadId))
  | some thread =>
    match parkedPermission s threadId response.requestId held with
    | none => .ok (s,.answered (requestNotFound outside response.requestId threadId))
    | some permission =>
      if decidedElsewhere permission.pauseReasonType then
        .ok (s,.answered (documentApprovalRefusal permission.requestId threadId))
      else
        let resolvedKey := resolvedIdempotencyKey outside response
        match journaledPermissionAsks s threadId response.requestId with
        | none =>
          .ok (s,.answered
            { threadId := threadId, requestId := response.requestId
              idempotencyKey := some resolvedKey, approvalStatus := thread.approvalStatus
              errorDetail := some "Permission request has been asked too many times"
              errorStatusCode := some 409, failureType := some .incompatibleState })
        | some asks =>
          let ask := asks.addressed permission.pending
          match deduplicatePermissionResponse s permission thread response resolvedKey
              ask with
          | some replay => .ok (s,replay)
          | none =>
            authorizeParkedPermission s permission thread response resolvedKey ask unconfirmed drawn

section
variable {s : Store} {threadId tid requestId rid : String}

/-- The ask has no answer, or one that has not been applied. -/
def OpenAsk (s : Store) (threadId requestId : String) (generation : Generation) : Prop :=
  ∀ row, getControlActionByIdempotencyKey s threadId
    (permissionResponseActionKey requestId generation) = some row → row.appliedAt = none

lemma walkAsks_isSome : (walkAsks s tid rid answered ge).isSome = true ↔
    ∃ gn ∈ ge, OpenAsk s tid rid gn := by
  induction ge generalizing answered with
  | nil => simp [walkAsks]
  | cons gn la ih =>
    rw [walkAsks]
    cases hrow : getControlActionByIdempotencyKey s tid (permissionResponseActionKey rid gn) with
    | none => simp [OpenAsk,hrow]
    | some ac =>
      have ho : OpenAsk s tid rid gn ↔ ac.appliedAt = none := by
        simp [OpenAsk,hrow]
      cases ha : ac.appliedAt with
      | none => simp [ho,ha]
      | some it => simp [ih,ho,ha]

lemma journaledPermissionAsks_isSome : (journaledPermissionAsks s tid rid).isSome = true ↔
    ∃ gn, OpenAsk s tid rid gn := by
  simp [journaledPermissionAsks,walkAsks_isSome]

lemma decidedElsewhere_interruptType (it : InterruptType) :
    decidedElsewhere it.value = decide (it = .documentApprovalRequest) := by
  cases it <;> decide

end

section
variable (outside : Outside) (s : Store) (threadId : String) (response : PermissionInput)
variable (projection : CheckpointProjection) (unconfirmed : Bool) (drawn : Drawn)
variable {interrupt : ProjectedInterrupt} {thread : ThreadModel}

/-- A response that names an option the checkpoint offers for a request it holds, on a
run that is not terminal and under a key that no journal row refuses, is authorized
exactly when the pause is not the review surface's to decide and some ask of the
request is still open. It is addressed to the first such ask. -/
theorem held_response_authorized_iff
    (hheld : heldInterrupt projection response.requestId = some interrupt)
    (hoffered : response.optionId ∈ validOptionIds interrupt.offered)
    (hthread : getThread s threadId = some thread) (hactive : thread.status ∉ terminalStatuses)
    (hfresh : getControlActionByIdempotencyKey s threadId
      (permissionRejectionActionKey (resolvedIdempotencyKey outside response)) = none) :
    (∃ authorized asks, authorizePermissionResponse outside s threadId response
        (heldInterrupt projection response.requestId) unconfirmed drawn =
          .ok (s,.authorized authorized) ∧
        journaledPermissionAsks s threadId response.requestId = some asks ∧
        authorized.ask = asks.unanswered) ↔
      interrupt.interruptType ≠ .documentApprovalRequest ∧
        ∃ generation, OpenAsk s threadId response.requestId generation := by
  have hid : thread.id = threadId := Table.lookup_key ThreadModel.id hthread
  rw [← journaledPermissionAsks_isSome,authorizePermissionResponse,hthread,hheld]
  simp only [parkedPermission,ParkedPermission.fromInterrupt,decidedElsewhere_interruptType]
  by_cases hd : interrupt.interruptType = .documentApprovalRequest
  · simp [hd]
  cases hask : journaledPermissionAsks s threadId response.requestId with
  | none => simp [hd]
  | some asks =>
    have ha : asks.addressed true = asks.unanswered := by
      simp [JournaledAsks.addressed]
    simp only [hd,decide_false,Bool.false_eq_true,if_false,ha,
      deduplicatePermissionResponse,hid,hfresh]
    cases hac : asks.unanswered.accepted with
    | some action => simp [hd]
    | none =>
      simp [authorizeParkedPermission,hd,hactive,ParkedPermission.optionIds,hoffered]

end

def admittedRun : Except Raised Store :=
  admitRun Store.empty "run-1" "receipt-1" (.other "start") (3600 * second) ⟨"action-1",""⟩

def plainOutside : Outside := ⟨id,fun _ => "digest",id⟩

def goAhead : PermissionInput := { requestId := "request-1", optionId := "go" }

theorem held_response_authorized_first_ask : ∃ s authorized, admittedRun = .ok s ∧
    authorizePermissionResponse plainOutside s "run-1" goAhead
      (heldInterrupt (some [goOrStop]) "request-1") false ⟨"action-2","dispatch-2"⟩ =
        .ok (s,.authorized authorized) ∧
    authorized.ask.generation.val = 0 := by
  have hru : ∃ s, admittedRun = .ok s := ⟨_,rfl⟩
  obtain ⟨s,hs⟩ := hru
  have hi := held_response_authorized_iff plainOutside s "run-1" goAhead (some [goOrStop])
    false ⟨"action-2","dispatch-2"⟩ rfl (by decide) (by cases hs; rfl) (by decide)
    (by cases hs; rfl)
  obtain ⟨authorized,asks,hau,hasks,ha⟩ := hi.2
    ⟨by decide,⟨0,by decide⟩,by cases hs; intro row hrow; cases hrow⟩
  refine ⟨s,authorized,hs,hau,?_⟩
  rw [ha]
  cases hs
  cases hasks
  rfl

def documentGate : ProjectedInterrupt where
  interruptId := "request-1"
  interruptType := .documentApprovalRequest
  options := none
  bare := fun _ => rfl

/-- An option refused while it was not offered stays refused under the default key once
it is; and an approval the checkpoint offers is refused when it is a document's. -/
theorem offered_option_refused : (∃ s refused first second, admittedRun = .ok s ∧
      authorizePermissionResponse plainOutside s "run-1" goAhead
        (heldInterrupt (some [toolInterrupt [declaredOption "stop" "reject_once"]]) "request-1")
        false ⟨"action-2","dispatch-2"⟩ = .ok (refused,.answered first) ∧
      authorizePermissionResponse plainOutside refused "run-1" goAhead
        (heldInterrupt (some [goOrStop]) "request-1") false ⟨"action-3","dispatch-3"⟩ =
          .ok (refused,.answered second) ∧
      goAhead.optionId ∈ validOptionIds goOrStop.offered ∧
      ((getThread refused "run-1").map ThreadModel.status) = some .submitted ∧
      getControlActionByIdempotencyKey refused "run-1"
        (permissionResponseActionKey "request-1" ⟨0,by decide⟩) = none ∧
      second.accepted = false ∧
      second.errorDetail = some "Unknown permission option for this request") ∧
    ∃ s outcome, admittedRun = .ok s ∧ authorizePermissionResponse plainOutside s "run-1"
        { requestId := "request-1", optionId := "approve" }
        (heldInterrupt (some [documentGate]) "request-1") false ⟨"action-2","dispatch-2"⟩ =
          .ok (s,.answered outcome) ∧
      outcome.errorStatusCode = some 403 :=
  ⟨⟨_,_,_,_,rfl,rfl,rfl,by decide,rfl,rfl,rfl,rfl⟩,_,_,rfl,rfl,rfl⟩

structure FollowonAuthority where
  graphDefinition : GraphDefinition
  autonomous : Bool
  workspaceRoot : String
  recursionLimit : ℕ
  modelAssignment : String
deriving DecidableEq, Repr

structure DispatchRefusal where
  failureType : FailureType
  reason : String
deriving DecidableEq, Repr

structure Drawing where
  now : Instant
  drawn : Drawn
  claimToken : String
  followon : Except DispatchRefusal FollowonAuthority

def permissionResumeValue (pauseReasonType optionId : String) (notes : Option String)
    (requestId : String) : ResumeValue :=
  if pauseReasonType ∉ locallyRespondablePauseCauses then .permissionAnswer optionId requestId
  else
    .approvalVerdict (some (if optionId = "approve" then "approved" else "rejected")) notes
      requestId

/-- The resume a response dispatches, without its transport identity. -/
def followonDispatch (threadId : String) (authority : FollowonAuthority)
    (value : ResumeValue) : DispatchInput where
  verb := "resume"
  threadId := threadId
  teamPreset := authority.graphDefinition.teamId
  graphDefinition := authority.graphDefinition
  autonomous := authority.autonomous
  workspaceRoot := authority.workspaceRoot
  recursionLimit := authority.recursionLimit
  modelAssignment := authority.modelAssignment
  optionId := some value

def answerPayload (threadId : String) (permission : ParkedPermission)
    (response : PermissionInput) (authority : FollowonAuthority) : ActionPayload :=
  .accepted
    { intent := .response response.optionId response.notes
      dispatch := followonDispatch threadId authority
        (permissionResumeValue permission.pauseReasonType response.optionId response.notes
          response.requestId)
      actorTokensRequired := false }

def answerClaimRequest (authorized : AuthorizedPermission) (response : PermissionInput)
    (authority : FollowonAuthority) (drawing : Drawing) : ControlActionClaimRequest where
  threadId := authorized.threadRecord.id
  actionType := .permissionResponseSubmitted
  idempotencyKey := permissionResponseActionKey response.requestId authorized.ask.generation
  payload := some (answerPayload authorized.threadRecord.id authorized.permission response authority)
  dispatchId := drawing.drawn.dispatchId
  requestId := some response.requestId
  writeExpectation := some (threadWriteExpectation authorized.threadRecord)
  recoveryTimeoutSeconds := some authority.graphDefinition.runTimeoutSeconds

def decisionVerdict (permission : ParkedPermission) (optionId : String) : ApprovalStatus :=
  if answerIsRejection permission.offered optionId then .rejected else .approved

def auditedToolName (permission : ParkedPermission) : String :=
  match permission.toolCall with
  | none => "plan_approval"
  | some name => if name.isEmpty then "plan_approval" else name

def appendPermissionLog (s : Store) (entry : PermissionLogModel) : Store :=
  { s with permissionLogs := s.permissionLogs ++ [entry] }

structure PermissionTransition where
  claim : ControlActionClaim
  dispatch : DispatchInput
  approvalStatus : Option ApprovalStatus
deriving DecidableEq, Repr

inductive Answer
  | settled (outcome : ControlActionOutcome)
  | dispatching (transition : PermissionTransition)
deriving DecidableEq, Repr

def projectSubmission (s : Store) (authorized : AuthorizedPermission) (response : PermissionInput)
    (claim : ControlActionClaim) (now : Instant) : Except Raised Store := do
  let permission := authorized.permission
  let threadId := authorized.threadRecord.id
  let verdict := decisionVerdict permission response.optionId
  let submitted ← recordPermissionResponseSubmission s response.requestId now
  let logged := appendPermissionLog submitted
    ⟨threadId,auditedToolName permission,verdict,some response.optionId⟩
  let stamped ←
    (if permission.pauseReasonType ∈ locallyRespondablePauseCauses then
      setThreadApprovalState logged threadId (some verdict) (some response.requestId)
        (some (some claim.actionId))
    else .ok logged)
  let transition ← repairStateForAction .permissionResponseSubmitted .requested
  applyRepairTransition stamped threadId transition

def recordPermissionTransition (outside : Outside) (s : Store) (authorized : AuthorizedPermission)
    (response : PermissionInput) (drawing : Drawing) : Except Raised (Store × Answer) :=
  let thread := authorized.threadRecord
  let refusal : ControlActionOutcome :=
    { threadId := thread.id, requestId := response.requestId
      idempotencyKey := some authorized.resolvedIdempotencyKey
      approvalStatus := thread.approvalStatus }
  match drawing.followon with
  | .error refused =>
    .ok (s,.settled { refusal with
      errorDetail := some refused.reason, failureType := some refused.failureType })
  | .ok authority => do
      let (claimed,claim) ← prepareControlActionClaim outside.fingerprint s
        (answerClaimRequest authorized response authority drawing) drawing.now drawing.drawn
        drawing.claimToken
      if ¬ claim.authorityMatches then
        .ok (claimed,.settled { refusal with
          errorStatusCode := some 409, failureType := some .incompatibleState
          errorDetail := some "Accepted action no longer owns the current run" })
      else if ¬ claim.payloadMatches then
        .ok (claimed,.settled { refusal with
          errorStatusCode := some 409, failureType := some .conflict
          errorDetail := some "Permission request already has a different response" })
      else if ¬ claim.acquired then
        .ok (claimed,.settled { refusal with
          accepted := true, applied := claim.applied, actionStatus := claim.resultStatus
          actionId := some claim.actionId })
      else do
        let projected ← projectSubmission claimed authorized response claim drawing.now
        let committed ← finalizeControlActionAcceptance projected claim
        .ok (committed,.dispatching
          { claim := claim
            dispatch := followonDispatch thread.id authority
              (permissionResumeValue authorized.permission.pauseReasonType response.optionId
                response.notes response.requestId)
            approvalStatus :=
              if authorized.permission.pauseReasonType ∈ locallyRespondablePauseCauses then
                some (decisionVerdict authorized.permission response.optionId)
              else thread.approvalStatus })

/-- The write transaction of a response, from the guards to the commit of its answer. -/
def respondToPermission (outside : Outside) (s : Store) (threadId : String)
    (response : PermissionInput) (held : Option ProjectedInterrupt) (unconfirmed : Bool)
    (drawing : Drawing) : Except Raised (Store × Answer) := do
  let (guarded,authorization) ←
    authorizePermissionResponse outside s threadId response held unconfirmed drawing.drawn
  match authorization with
  | .answered outcome => .ok (guarded,.settled outcome)
  | .authorized authorized =>
    recordPermissionTransition outside guarded authorized response drawing

def deliveredOutcome (threadId : String) (response : PermissionInput) (resolvedKey : String)
    (transition : PermissionTransition) : ControlActionOutcome :=
  { threadId := threadId, requestId := response.requestId, accepted := true
    actionStatus := .acceptedNotApplied, actionId := some transition.claim.actionId
    idempotencyKey := some resolvedKey, approvalStatus := transition.approvalStatus
    dispatched := true }

def definiteNonDelivery : List FailureType := [.circuitOpen,.atCapacity,.rejected]

inductive DispatchFailureDisposition
  | definiteNonDelivery
  | ambiguousDelivery
  | authorityLost
  | deadlineExpired
  | applicationWon
deriving DecidableEq, Repr

def marksRunFailed : FailureType → Bool
  | .circuitOpen | .atCapacity | .unreachable | .runBusy | .storeBusy => false
  | _ => true

def failureAction (s : Store) (claim : ControlActionClaim) (instant : Instant) :
    Except DispatchFailureDisposition ControlActionModel :=
  match getControlAction s claim.actionId with
  | none => .error .authorityLost
  | some action =>
    if action.dispatchId ≠ some claim.dispatchId then .error .authorityLost
    else if action.appliedAt.isSome then .error .applicationWon
    else if ¬ action.recoveryDeadlineAt.any (instant < ·) then .error .deadlineExpired
    else if claim.claimToken.isNone ∨ action.claimToken ≠ claim.claimToken then
      .error .authorityLost
    else .ok action

def failureOwnsThread (s : Store) (action : ControlActionModel) : Bool :=
  (getThread s action.threadId).any fun thread =>
    thread.isActive && thread.authority.ownedBy action.actionType action.dispatchId

/-- Settle a failed delivery: only a proven non-delivery gives its lease back.
`recorded` says whether the recovery attempt could still be written. -/
def recordDispatchFailure (s : Store) (claim : ControlActionClaim) (failureType : FailureType)
    (recorded : Bool) (instant : Instant) : Except Raised (Store × DispatchFailureDisposition) :=
  match failureAction s claim instant with
  | .error disposition => .ok (s,disposition)
  | .ok action =>
    if ¬ failureOwnsThread s action then .ok (s,.authorityLost)
    else if failureType ∈ definiteNonDelivery then do
      let (released,won) ← releaseControlActionLease s claim.actionId (claim.claimToken.getD "")
      .ok (released,if won ∧ recorded then .definiteNonDelivery else .authorityLost)
    else .ok (s,if recorded then .ambiguousDelivery else .authorityLost)

lemma recordDispatchFailure_claimStep {Good : ControlActionModel → Prop}
    (hgo : ∀ {a b}, SameProgress a b → Good a → Good b)
    (h : recordDispatchFailure s cl ft recorded it = .ok (t,di)) :
    ClaimStep Good s t := by
  unfold recordDispatchFailure at h
  split at h
  · cases h
    exact .refl _
  split at h
  · cases h
    exact .refl _
  split at h
  · obtain ⟨⟨released,won⟩,hre,hret⟩ := bind_ok.1 h
    cases hret
    have hs : ∀ a, SameProgress a (ActionLeases.released a) :=
      fun a => ⟨⟨rfl,rfl,rfl,rfl,rfl,rfl,rfl⟩,rfl,rfl⟩
    obtain ⟨hf,hup,-⟩ := updateAction_rows hre
    exact .journal (.updateWhere SameProgress.refl hs (fun a _ _ => hgo (hs a)) hup) hf
  · cases h
    exact .refl _

def recordFailedPermissionResume (s : Store) (threadId reason : String) : Except Raised Store :=
  match getThread s threadId with
  | none => .ok s
  | some thread =>
    if thread.status = .inputRequired then
      applyRepairTransition s threadId dispatchFailedTransition (some reason)
    else do
      let (elected,outcome) ← electThreadStatus s threadId (threadWriteExpectation thread)
        .inputRequired thread.authority.actionType thread.authority.actionReceiptId
      if outcome = .won then
        applyRepairTransition elected threadId dispatchFailedTransition (some reason)
      else .ok elected

def failedPermissionDispatch (s : Store) (threadId : String) (response : PermissionInput)
    (claim : ControlActionClaim) (failureType : FailureType) (detail : String) (recorded : Bool)
    (instant : Instant) : Except Raised Store := do
  let (settled,disposition) ← recordDispatchFailure s claim failureType recorded instant
  let reset ←
    (if disposition = .definiteNonDelivery then
      resetPermissionResponseSubmission settled response.requestId
    else .ok settled)
  if marksRunFailed failureType ∧
      (disposition = .definiteNonDelivery ∨ disposition = .ambiguousDelivery) then
    recordFailedPermissionResume reset threadId detail
  else .ok reset

end VaultspecA2A.PermissionResponses
