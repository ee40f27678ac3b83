import VaultspecA2A.PermissionOptions
import VaultspecA2A.IdempotencyKeys
import VaultspecA2A.ActionClaims

/-!
# The permission journal

A permission request has a row keyed by its id and a creation action in the journal
of its run. The relay writes them when the frame that announces a pause is handled
and the checkpoint still holds that pause; the same frame retires the rows of the
run that the checkpoint no longer holds. The row of an accepted answer waits for the
receipt that proves the answer was incorporated, and the settlement of that receipt
closes the row and the response action together. A request held again after its
answer settled reopens its row.

A checkpoint is what its projection shows: the interrupts the run is parked on, or nothing when it
cannot be read. Whether the evidence of a receipt proves its incorporation is an input.
-/
namespace VaultspecA2A.PermissionJournal
open Tables PyValue ThreadLifecycle Database ControlActions ActionClaims List
open PermissionOptions IdempotencyKeys

def outstandingPermissionStatuses : List PermissionRequestStatus := [.pending,.answeredPendingApply]

def isOutstanding (row : PermissionRequestModel) : Bool :=
  decide (row.requestStatus ∈ outstandingPermissionStatuses)

def updateRequests (s : Store) (wanted : PermissionRequestModel → Bool)
    (values : PermissionRequestModel → PermissionRequestModel) : Except Raised Store :=
  match s.permissionRequests.updateWhere wanted values with
  | none => .error .integrityError
  | some requests => .ok { s with permissionRequests := requests }

def isRequest (requestId : String) (row : PermissionRequestModel) : Bool :=
  decide (row.requestId = requestId)

/-- Create or refresh a request. A refreshed row keeps the run it was filed under. -/
def recordPermissionRequest (s : Store) (requestId threadId pauseReasonType description : String)
    (allowedOptions : List Value) (toolCall : Option String) : Except Raised Store :=
  match getPermissionRequest s requestId with
  | some _ =>
    updateRequests s (isRequest requestId) fun row =>
      { row with
        pauseReasonType := pauseReasonType
        description := description
        allowedOptions := storedOptions allowedOptions
        toolCall := toolCall
        requestStatus := .pending
        respondedAt := none
        appliedAt := none }
  | none =>
    let row : PermissionRequestModel :=
      { requestId := requestId, threadId := threadId, pauseReasonType := pauseReasonType
        toolCall := toolCall, description := description
        allowedOptions := storedOptions allowedOptions, requestStatus := .pending
        respondedAt := none, appliedAt := none }
    match s.permissionRequests.insert row with
    | none => .error .integrityError
    | some requests => .ok { s with permissionRequests := requests }

/-- Move a request to awaiting application; a request without a row stays without one. -/
def recordPermissionResponseSubmission (s : Store) (requestId : String) (now : Instant) :
    Except Raised Store :=
  updateRequests s (isRequest requestId) fun row =>
    { row with requestStatus := .answeredPendingApply, respondedAt := some now }

def reopenReaskedPermissionRequest (s : Store) (requestId : String)
    (allowedOptions : List Value) : Except Raised Store :=
  updateRequests s (fun row => isRequest requestId row && !isOutstanding row) fun row =>
    { row with
      allowedOptions := storedOptions allowedOptions
      requestStatus := .pending
      respondedAt := none
      appliedAt := none }

def markPermissionRequestApplied (s : Store) (requestId : String)
    (status : PermissionRequestStatus) (now : Instant) : Except Raised Store :=
  updateRequests s (isRequest requestId) fun row =>
    { row with requestStatus := status, appliedAt := some now }

/-- Roll back a submitted response when its resume was never delivered. -/
def resetPermissionResponseSubmission (s : Store) (requestId : String) : Except Raised Store :=
  updateRequests s (isRequest requestId) fun row =>
    { row with requestStatus := .pending, respondedAt := none }

def supersedePermissionRequests (s : Store) (threadId : String) (heldRequestIds : List String)
    (now : Instant) : Except Raised Store :=
  updateRequests s (fun row => decide (row.threadId = threadId) && isOutstanding row &&
      !decide (row.requestId ∈ heldRequestIds))
    fun row => { row with requestStatus := .superseded, appliedAt := row.appliedAt.or (some now) }

def updateThread (s : Store) (threadId : String) (values : ThreadModel → ThreadModel) :
    Except Raised Store :=
  match s.threads.updateWhere (fun t => decide (t.id = threadId)) values with
  | none => .error .integrityError
  | some threads => .ok { s with threads := threads }

/-- Persist plan-approval state; an unset action id leaves its column alone. -/
def setThreadApprovalState (s : Store) (threadId : String) (status : Option ApprovalStatus)
    (requestId : Option String) (responseActionId : Option (Option String) := none) :
    Except Raised Store :=
  updateThread s threadId fun t =>
    { t with
      approvalStatus := status
      approvalRequestId := requestId
      approvalResponseActionId := responseActionId.getD t.approvalResponseActionId }

inductive RepairPhase
  | requested
  | applied
deriving DecidableEq, Repr

structure RepairTransition where
  repairStatus : RepairStatus
  action : Option ControlActionType := none
  phase : Option RepairPhase := none
  reason : Option String := none
deriving DecidableEq, Repr

def actionTransitions : List RepairTransition :=
  [{ repairStatus := .healthy, action := some .ingest, phase := some .requested },
    { repairStatus := .healthy, action := some .ingest, phase := some .applied },
    { repairStatus := .pausedResumable, action := some .permissionRequestCreated
      phase := some .applied
      reason := some "Worker reported a pending permission request" },
    { repairStatus := .pausedResumable, action := some .permissionResponseSubmitted
      phase := some .requested },
    { repairStatus := .healthy, action := some .permissionResponseApplied
      phase := some .applied },
    { repairStatus := .healthy, action := some .messageFollowupRequested
      phase := some .requested },
    { repairStatus := .healthy, action := some .messageFollowupApplied, phase := some .applied },
    { repairStatus := .cancelPending, action := some .cancel, phase := some .requested },
    { repairStatus := .healthy, action := some .cancel, phase := some .applied }]

def dispatchFailedTransition : RepairTransition :=
  { repairStatus := .operatorInterventionRequired, reason := some "Worker dispatch failed" }

def repairStateForAction (actionType : ControlActionType) (phase : RepairPhase) :
    Except Raised RepairTransition :=
  match actionTransitions.find? fun transition =>
      decide (transition.action = some actionType ∧ transition.phase = some phase) with
  | some transition => .ok transition
  | none => .error .keyError

def applyRepairTransition (s : Store) (threadId : String) (transition : RepairTransition)
    (reason : Option String := none) : Except Raised Store :=
  updateThread s threadId fun t =>
    { t with
      repairStatus := transition.repairStatus
      repairReason :=
        match reason with
        | some text => if text.isEmpty then transition.reason else some text
        | none => transition.reason
      lastRequestedAction :=
        if transition.phase = some .requested then transition.action.or t.lastRequestedAction
        else t.lastRequestedAction
      lastAppliedAction :=
        if transition.phase = some .applied then transition.action.or t.lastAppliedAction
        else t.lastAppliedAction }

abbrev CheckpointProjection := Option (List ProjectedInterrupt)

def permissionRequestEventTypes : List InterruptType :=
  [.permissionRequest,.planApprovalRequest,.documentApprovalRequest]

def heldPermissionInterrupts (projection : CheckpointProjection) : List ProjectedInterrupt :=
  (projection.getD []).filter fun i => decide (i.interruptType ∈ permissionRequestEventTypes)

def heldPermissionRequestIds (projection : CheckpointProjection) : List String :=
  (heldPermissionInterrupts projection).map ProjectedInterrupt.interruptId

def heldInterrupt (projection : CheckpointProjection) (requestId : String) :
    Option ProjectedInterrupt :=
  (heldPermissionInterrupts projection).find? fun i => decide (i.interruptId = requestId)

/-- The fields the relay reads of a frame that announces a request. -/
structure PermissionFrame where
  requestId : Option String
  toolCall : Option String
  description : Option String
  options : Option Value

/-- What one checkpoint read says about the request a frame announces. -/
structure HeldPause where
  announced : ProjectedInterrupt
  heldRequestIds : List String

def heldRequestInterrupt (frame : PermissionFrame) (projection : CheckpointProjection) :
    Option HeldPause :=
  (frame.requestId.bind (heldInterrupt projection)).map fun held =>
    ⟨held,heldPermissionRequestIds projection⟩

def maxPermissionDescriptionChars : ℕ := 4096

def approvalGateInterruptTypes : List InterruptType :=
  [.planApprovalRequest,.documentApprovalRequest]

def classifyPermissionPauseReason (toolCall : Option String) : String :=
  match toolCall with
  | none => InterruptType.permissionRequest.value
  | some name =>
    if name = "plan_approval" then InterruptType.planApprovalRequest.value
    else if name.isEmpty then InterruptType.permissionRequest.value
    else name

def permissionRequestFields (frame : PermissionFrame) (held : ProjectedInterrupt) :
    String × String :=
  (if held.interruptType ∈ approvalGateInterruptTypes then held.interruptType.value
    else classifyPermissionPauseReason frame.toolCall,
  String.ofList ((frame.description.getD "").toList.take maxPermissionDescriptionChars))

/-- Record a request in the journal, or reopen the row of one asked again. -/
def persistPermissionRequest (s : Store) (threadId : String) (frame : PermissionFrame)
    (pause : HeldPause) (drawn : Drawn) (now : Instant) : Except Raised Store :=
  let requestId := pause.announced.interruptId
  let (pauseReasonType,description) := permissionRequestFields frame pause.announced
  if (getThread s threadId).isNone then .ok s
  else do
    let (reserved,reservation) ← reserveControlAction s
      { threadId := threadId, actionType := .permissionRequestCreated
        idempotencyKey := permissionRequestActionKey requestId, requestId := some requestId
        payload := some (.description description) } drawn
    if ¬ reservation.payloadMatches then .ok s
    else if ¬ reservation.created then
      reopenReaskedPermissionRequest reserved requestId (optionMappings frame.options)
    else do
      let marked ← markControlActionApplied reserved reservation.action.id now
      let retired ← supersedePermissionRequests marked threadId pause.heldRequestIds now
      recordPermissionRequest retired requestId threadId pauseReasonType description
        (optionMappings frame.options) frame.toolCall

def handlePermissionEvent (s : Store) (threadId : String) (frame : PermissionFrame)
    (projection : CheckpointProjection) (drawn : Drawn) (now : Instant) : Except Raised Store :=
  match heldRequestInterrupt frame projection with
  | none => .ok s
  | some pause => persistPermissionRequest s threadId frame pause drawn now

def acceptedAnswerOption : ActionIntent → Option String
  | .response optionId _ => if optionId.isEmpty then none else some optionId
  | .initialMessage _ | .followup _ _ | .cancel | .resume _ => none

structure PermissionResolutionEffects where
  targetStatus : PermissionRequestStatus
  lastAppliedAction : ControlActionType
  isPlanApproval : Bool
  approvalStatus : Option ApprovalStatus
deriving DecidableEq, Repr

def computePermissionResolutionEffects (pauseReasonType : String) (rejected : Bool) :
    PermissionResolutionEffects :=
  let isPlan := decide (pauseReasonType ∈ planApprovalPauseCauses)
  { targetStatus := if rejected then .rejected else .applied
    lastAppliedAction := .permissionResponseApplied
    isPlanApproval := isPlan
    approvalStatus :=
      if isPlan then if rejected then some .rejected else some .approved else none }

def responseAppliedKey (responseActionKey : String) : Except Raised String :=
  match permissionResponseAppliedActionKey responseActionKey with
  | some key => .ok key
  | none => .error (.valueError "not the journal key of a permission response")

def settlePermission (s : Store) (submitted : ControlActionModel) (requestId optionId : String)
    (permission : PermissionRequestModel) (drawn : Drawn) (now : Instant) :
    Except Raised Store := do
  let effects := computePermissionResolutionEffects permission.pauseReasonType
    (responseIsRejection permission.allowedOptions optionId)
  let closed ← markPermissionRequestApplied s requestId effects.targetStatus now
  let marked ←
    (if submitted.appliedAt.isNone then markControlActionApplied closed submitted.id now
      else .ok closed)
  let key ← responseAppliedKey submitted.idempotencyKey
  let (recorded,_) ← createControlAction marked
    { threadId := submitted.threadId, actionType := effects.lastAppliedAction
      idempotencyKey := key, requestId := some requestId
      payload := some (.request requestId), resultStatus := .applied } drawn
  let transition ← repairStateForAction effects.lastAppliedAction .applied
  let repaired ← applyRepairTransition recorded submitted.threadId transition
  if effects.isPlanApproval then
    setThreadApprovalState repaired submitted.threadId effects.approvalStatus (some requestId)
  else .ok repaired

/-- Finalize an applied answer. Only a request still awaiting application is settled. -/
def applyPermissionResolution (s : Store) (submitted : ControlActionModel) (drawn : Drawn)
    (now : Instant) : Except Raised Store :=
  match submitted.requestId with
  | none => .ok s
  | some requestId =>
    match getPermissionRequest s requestId with
    | none => .ok s
    | some permission =>
      if permission.requestStatus ≠ .answeredPendingApply then .ok s
      else
        match (readAcceptedInput submitted).bind fun input =>
            acceptedAnswerOption input.intent with
        | none => .ok s
        | some optionId =>
          settlePermission s submitted requestId optionId permission drawn now

structure DispatchApplicationReceipt where
  dispatchId : String
  action : String
  graphActionReceipt : GraphActionReceipt
deriving DecidableEq, Repr

def validApplicationReceipt (threadId : String) (application : DispatchApplicationReceipt) :
    Bool :=
  decide (application.graphActionReceipt.threadId = threadId) &&
    decide (some application.action = graphActionVerb application.graphActionReceipt.actionType)

def appliedRepairAction : ControlActionType → Option ControlActionType
  | .ingest => some .ingest
  | .messageFollowupRequested => some .messageFollowupApplied
  | _ => none

section
variable (fingerprint : ActionPayload → String)

/-- The unapplied action a receipt names, while the receipt is its current evidence. -/
def provenAction (s : Store) (threadId : String) (application : DispatchApplicationReceipt) :
    Option ControlActionModel :=
  match getControlActionByDispatchId s threadId application.dispatchId, getThread s threadId with
  | some action, some thread =>
    if action.appliedAt.isNone ∧ validateCurrentGraphReceipt fingerprint thread action =
        some application.graphActionReceipt then some action
    else none
  | _, _ => none

variable (settleResume : Store → ControlActionModel → Except Raised (Store × Bool))

def commitProvenApplication (s : Store) (threadId : String)
    (application : DispatchApplicationReceipt) (drawn : Drawn) (now : Instant) :
    Except Raised Store :=
  match provenAction fingerprint s threadId application with
  | none => .ok s
  | some action =>
    match appliedRepairAction action.actionType with
    | some applied => do
        let marked ← markControlActionApplied s action.id now
        let transition ← repairStateForAction applied .applied
        applyRepairTransition marked threadId transition
    | none =>
      if action.actionType = .permissionResponseSubmitted ∧ action.requestId.isSome then
        applyPermissionResolution s action drawn now
      else do
        let (settled,done) ← settleResume s action
        .ok (if done then settled else s)

/-- The first reading of a receipt proves it against the journal and the checkpoint; the
second, in the write transaction, is the one that settles. -/
def handleProgressEvent (s : Store) (threadId : String)
    (application : DispatchApplicationReceipt) (incorporated : Bool) (drawn : Drawn)
    (now : Instant) : Except Raised Store :=
  if validApplicationReceipt threadId application ∧
      (provenAction fingerprint s threadId application).isSome ∧ incorporated then
    commitProvenApplication fingerprint settleResume s threadId application drawn now
  else .ok s

end

/-- The request the resume a receipt proves was an answer to. -/
def answeredRequestId (s : Store) (threadId dispatchId : String) : Option String :=
  if dispatchId.isEmpty then none
  else
    match getControlActionByDispatchId s threadId dispatchId with
    | none => none
    | some action =>
      if action.actionType = .permissionResponseSubmitted then action.requestId else none

/-- Reopen a request its run holds again, after the settlement of the receipt. -/
def handleReaskedPermissionEvent (s : Store) (threadId : String)
    (application : DispatchApplicationReceipt) (projection : CheckpointProjection) :
    Except Raised Store :=
  if application.action ≠ "resume" then .ok s
  else
    match (answeredRequestId s threadId application.dispatchId).bind (heldInterrupt projection) with
    | none => .ok s
    | some held =>
      reopenReaskedPermissionRequest s held.interruptId (optionMappings held.options)

variable {wa : PermissionRequestModel → Bool}
variable {vs : PermissionRequestModel → PermissionRequestModel} {now : Instant}
lemma updateRequests_ok (h : updateRequests s wa vs = .ok t) :
    t = { s with permissionRequests := t.permissionRequests } ∧
      s.permissionRequests.updateWhere wa vs = some t.permissionRequests := by
  unfold updateRequests at h
  split at h
  · cases h
  · rename_i re hup
    cases h
    exact ⟨rfl,hup⟩

lemma updateThread_ok {vs : ThreadModel → ThreadModel} (h : updateThread s tid vs = .ok t) :
    t = { s with threads := t.threads } ∧
      s.threads.updateWhere (fun r => decide (r.id = tid)) vs = some t.threads := by
  unfold updateThread at h
  split at h
  · cases h
  · rename_i th hup
    cases h
    exact ⟨rfl,hup⟩

lemma markControlActionApplied_ok (h : markControlActionApplied s aid now su = .ok t) :
    t = { s with controlActions := t.controlActions } ∧
      s.controlActions.updateWhere (fun a => decide (a.id = aid))
        (settleApplied now su) = some t.controlActions := by
  unfold markControlActionApplied at h
  split at h
  · cases h
  · rename_i ac hup
    cases h
    exact ⟨rfl,hup⟩

def requestView (s : Store) (requestId : String) : Option (String × PermissionRequestStatus) :=
  (getPermissionRequest s requestId).map fun row => (row.threadId,row.requestStatus)

def retire (threadId : String) (heldRequestIds : List String) (requestId : String)
    (view : String × PermissionRequestStatus) : String × PermissionRequestStatus :=
  if view.1 = threadId ∧ view.2 ∈ outstandingPermissionStatuses ∧ requestId ∉ heldRequestIds then
    (view.1,.superseded)
  else view

section
variable {s t : Store} {threadId tid requestId rid other o : String}

lemma requestView_of_eq (h : t.permissionRequests = s.permissionRequests) (rid : String) :
    requestView t rid = requestView s rid := by
  rw [requestView,requestView,getPermissionRequest,getPermissionRequest,h]

lemma getPermissionRequest_updateRequests (h : updateRequests s wa vs = .ok t)
    (hk : ∀ row, (vs row).requestId = row.requestId) :
    getPermissionRequest t rid = (getPermissionRequest s rid).map (Table.changed wa vs) :=
  Table.lookup_updateWhere PermissionRequestModel.requestId hk (updateRequests_ok h).2

lemma requestView_isRequest (h : updateRequests s (isRequest rid) vs = .ok t)
    (hk : ∀ row, (vs row).requestId = row.requestId) (ho : o ≠ rid) :
    requestView t o = requestView s o := by
  rw [requestView,requestView,getPermissionRequest_updateRequests h hk,Option.map_map]
  cases hrow : getPermissionRequest s o with
  | none => rfl
  | some row =>
    have hid : row.requestId = o := Table.lookup_key PermissionRequestModel.requestId hrow
    simp [Table.changed,isRequest,hid,ho]

lemma requestView_isRequest_self (h : updateRequests s (isRequest rid) vs = .ok t)
    (hk : ∀ row, (vs row).requestId = row.requestId)
    (ht : ∀ row, (vs row).threadId = row.threadId)
    (hs : ∀ row, (vs row).requestStatus = su) :
    requestView t rid = (requestView s rid).map fun view => (view.1,su) := by
  rw [requestView,requestView,getPermissionRequest_updateRequests h hk,Option.map_map,
    Option.map_map]
  cases hrow : getPermissionRequest s rid with
  | none => rfl
  | some row =>
    have hid : row.requestId = rid := Table.lookup_key PermissionRequestModel.requestId hrow
    simp [Table.changed,isRequest,hid,ht,hs]

lemma requestView_supersede {heldRequestIds : List String}
    (h : supersedePermissionRequests s tid heldRequestIds now = .ok t) :
    requestView t rid = (requestView s rid).map (retire tid heldRequestIds rid) := by
  rw [requestView,requestView,getPermissionRequest_updateRequests h fun _ => rfl,Option.map_map,
    Option.map_map]
  cases hrow : getPermissionRequest s rid with
  | none => rfl
  | some row =>
    have hid : row.requestId = rid := Table.lookup_key PermissionRequestModel.requestId hrow
    simp only [Option.map_some,Function.comp_apply,Table.changed,retire,isOutstanding,hid,
      Bool.and_eq_true,decide_eq_true_eq,Bool.not_eq_true',decide_eq_false_iff_not,and_assoc]
    split_ifs <;> rfl

lemma recordPermissionRequest_ok (h : recordPermissionRequest s rid tid prt de ao tc = .ok t) :
    t = { s with permissionRequests := t.permissionRequests } ∧
      (∃ row, getPermissionRequest t rid = some row ∧ row.requestStatus = .pending ∧
        row.allowedOptions = storedOptions ao ∧
        row.threadId = ((requestView s rid).map Prod.fst).getD tid) ∧
      ∀ o, o ≠ rid → requestView t o = requestView s o := by
  unfold recordPermissionRequest at h
  split at h
  · rename_i row hrow
    have hid : row.requestId = rid := Table.lookup_key PermissionRequestModel.requestId hrow
    have hc : getPermissionRequest t rid = _ := getPermissionRequest_updateRequests h fun _ => rfl
    rw [hrow,Option.map_some,Table.changed,if_pos (by simp [isRequest,hid])] at hc
    refine ⟨(updateRequests_ok h).1,⟨_,hc,rfl,rfl,?_⟩,fun o ho => ?_⟩
    · rw [requestView,hrow]
      rfl
    · exact requestView_isRequest h (fun _ => rfl) ho
  · rename_i hrow
    dsimp only at h
    split at h
    · cases h
    rename_i re hi
    cases h
    have hl : ∀ k, re.lookup PermissionRequestModel.requestId k = _ := fun k =>
      Table.lookup_insert PermissionRequestModel.requestId hi
    have hown := hl rid
    rw [show s.permissionRequests.lookup _ rid = none from hrow,Option.none_or,if_pos rfl] at hown
    refine ⟨rfl,⟨_,hown,rfl,rfl,?_⟩,fun o ho => ?_⟩
    · rw [requestView,hrow]
      rfl
    · simp [requestView,getPermissionRequest,hl,Ne.symm ho]

lemma getThread_updateThread {vs : ThreadModel → ThreadModel}
    (h : updateThread s tid vs = .ok t) (hid : ∀ row, (vs row).id = row.id) :
    (getThread t run).isSome = (getThread s run).isSome := by
  have hl : getThread t run = _ := Table.lookup_updateWhere ThreadModel.id hid (updateThread_ok h).2
  rw [hl,Option.isSome_map]
  rfl

/-- What the first frame of a request writes. -/
structure Announced (s t : Store) (threadId requestId : String) (heldRequestIds : List String)
    (options : List Value) : Prop where
  threads : t.threads = s.threads
  kept : ∀ a ∈ s.controlActions.rows, a ∈ t.controlActions.rows
  fresh : ∀ a ∈ t.controlActions.rows, a ∈ s.controlActions.rows ∨
    a.idempotencyKey = permissionRequestActionKey requestId
  own : requestView t requestId =
    some (((requestView s requestId).map Prod.fst).getD threadId,.pending)
  row : ∃ row, getPermissionRequest t requestId = some row ∧ row.requestStatus = .pending ∧
    row.allowedOptions = storedOptions options
  others : ∀ other, other ≠ requestId →
    requestView t other = (requestView s other).map (retire threadId heldRequestIds other)

lemma retire_fst {heldRequestIds : List String} (view : String × PermissionRequestStatus) :
    (retire tid heldRequestIds rid view).1 = view.1 := by
  unfold retire
  split_ifs <;> rfl

lemma markCreated_rows (hc : createControlAction s ar dr = .ok (t,row))
    (hm : markControlActionApplied t row.id now = .ok u) :
    u.controlActions.rows = s.controlActions.rows ++ [settleApplied now .applied row] := by
  have hi := (createControlAction_ok hc).2.2.2.2
  have hro := Table.rows_of_insert hi
  have hf := t.controlActions.fits
  rw [hro,pairwise_append] at hf
  rw [Table.rows_of_updateWhere (markControlActionApplied_ok hm).2,hro,map_append]
  congr 1
  · refine (map_congr_left fun a ha => ?_).trans (map_id _)
    have hne : a.id ≠ row.id := action_id_unique (hf.2.2 a ha row mem_cons_self)
    simp [Table.changed,hne]
  · simp [Table.changed]

/-- The ways a frame of a held request is persisted. -/
inductive Persisted (s : Store) (threadId : String) (frame : PermissionFrame)
    (pause : HeldPause) (drawn : Drawn) (now : Instant) : Store → Prop
  | missing : getThread s threadId = none → Persisted s threadId frame pause drawn now s
  | stands {row : ControlActionModel} {t : Store} :
      getControlActionByIdempotencyKey s threadId
        (permissionRequestActionKey pause.announced.interruptId) = some row →
      (if row.actionType = .permissionRequestCreated ∧
          row.requestId = some pause.announced.interruptId ∧
          row.payload = some (.description (permissionRequestFields frame pause.announced).2) then
        reopenReaskedPermissionRequest s pause.announced.interruptId (optionMappings frame.options)
      else .ok s) = .ok t → Persisted s threadId frame pause drawn now t
  | filed {args : ActionArgs} {reserved marked retired t : Store} {action : ControlActionModel} :
      getControlActionByIdempotencyKey s threadId
        (permissionRequestActionKey pause.announced.interruptId) = none →
      args.idempotencyKey = permissionRequestActionKey pause.announced.interruptId →
      createControlAction s args drawn = .ok (reserved,action) →
      markControlActionApplied reserved action.id now = .ok marked →
      supersedePermissionRequests marked threadId pause.heldRequestIds now = .ok retired →
      recordPermissionRequest retired pause.announced.interruptId threadId
        (permissionRequestFields frame pause.announced).1
        (permissionRequestFields frame pause.announced).2 (optionMappings frame.options)
        frame.toolCall = .ok t → Persisted s threadId frame pause drawn now t

lemma persistPermissionRequest_persisted (h : persistPermissionRequest s tid fr pa dr now = .ok t) :
    Persisted s tid fr pa dr now t := by
  unfold persistPermissionRequest at h
  dsimp only at h
  split_ifs at h with hru
  · cases h
    exact .missing (Option.isNone_iff_eq_none.1 hru)
  obtain ⟨⟨rs,rr⟩,hre,h⟩ := bind_ok.1 h
  obtain ⟨hold,hn,hm⟩ := reserveControlAction_ok hre
  dsimp only at h
  cases hc : rr.created with
  | false =>
    obtain ⟨rfl,hf⟩ := hold hc
    refine .stands hf ?_
    simp only [hc,hm,ite_not,Bool.false_eq_true,if_false] at h
    exact h
  | true =>
    obtain ⟨hf,hcr⟩ := hn hc
    have hp := hm.2 (by rw [(createControlAction_ok hcr).1]; exact ⟨rfl,rfl,rfl⟩)
    rw [if_neg (by simp [hp]),if_neg (by simp [hc])] at h
    obtain ⟨ma,hma,h⟩ := bind_ok.1 h
    obtain ⟨re,hret,h⟩ := bind_ok.1 h
    exact .filed hf rfl hcr hma hret h

lemma persistPermissionRequest_announced (hru : (getThread s tid).isSome = true)
    (hn : ∀ a ∈ s.controlActions.rows, a.threadId = tid →
      a.idempotencyKey ≠ permissionRequestActionKey pa.announced.interruptId)
    (h : persistPermissionRequest s tid fr pa dr now = .ok t) :
    Announced s t tid pa.announced.interruptId pa.heldRequestIds (optionMappings fr.options) := by
  cases persistPermissionRequest_persisted h with
  | missing hno => rw [hno] at hru; cases hru
  | stands hf =>
    obtain ⟨ht,hk⟩ := Prod.mk.inj (Table.lookup_key actionKey hf)
    exact (hn _ (Table.lookup_mem actionKey hf) ht hk).elim
  | @filed _ _ ma re _ ac _ hk hc hm hre h =>
    obtain ⟨hrow,ht,hreq,-,-⟩ := createControlAction_ok hc
    have hma := (markControlActionApplied_ok hm).1
    have hret := (updateRequests_ok hre).1
    obtain ⟨hl,⟨row,hrw,hs,hop,hth⟩,hot⟩ := recordPermissionRequest_ok h
    have hro : t.controlActions.rows = s.controlActions.rows ++
        [settleApplied now .applied ac] := by
      have hac : t.controlActions = ma.controlActions := by rw [hl,hret]
      rw [hac]
      exact markCreated_rows hc hm
    have hb : ∀ o, requestView re o = (requestView s o).map (retire tid pa.heldRequestIds o) := by
      intro o
      have hs : ma.permissionRequests = s.permissionRequests := by rw [hma,hreq]
      rw [requestView_supersede hre,requestView_of_eq hs]
    refine ⟨?_,?_,?_,?_,⟨row,hrw,hs,hop⟩,?_⟩
    · rw [hl,hret,hma]
      exact ht
    · intro a ha
      rw [hro]
      exact mem_append_left _ ha
    · intro a ha
      rw [hro,mem_append,mem_singleton] at ha
      rcases ha with ha | rfl
      · exact .inl ha
      · exact .inr (by rw [hrow]; exact hk)
    · rw [requestView,hrw,Option.map_some,hs,hth,hb,Option.map_map]
      cases requestView s pa.announced.interruptId with
      | none => rfl
      | some view => simp [retire_fst]
    · intro o ho
      rw [hot o ho,hb]

lemma targetStatus_settles (prt : String) (re : Bool) :
    (computePermissionResolutionEffects prt re).targetStatus ∉
      outstandingPermissionStatuses := by
  cases re <;> simp [computePermissionResolutionEffects,outstandingPermissionStatuses]

/-- What the settlement of an answer writes. -/
structure SettledBy (s t : Store) (requestId : String) (submitted : ControlActionModel) :
    Prop where
  own : ∃ status, status ∉ outstandingPermissionStatuses ∧
    requestView t requestId = (requestView s requestId).map fun view => (view.1,status)
  others : ∀ other, other ≠ requestId → requestView t other = requestView s other
  applied : ∃ row ∈ t.controlActions.rows, SameIntention submitted row ∧
    row.appliedAt.isSome = true
  fresh : ∀ a ∈ t.controlActions.rows, (∃ b ∈ s.controlActions.rows, actionKey b = actionKey a) ∨
    ∃ responseKey, responseAppliedKey responseKey = .ok a.idempotencyKey
  run : ∀ run, (getThread t run).isSome = (getThread s run).isSome

lemma settlePermission_ok {su : ControlActionModel}
    (h : settlePermission s su rid oid pe dr now = .ok t) :
    ∃ st closed ma ar recorded row, st ∉ outstandingPermissionStatuses ∧
      markPermissionRequestApplied s rid st now = .ok closed ∧
      (if su.appliedAt.isNone then markControlActionApplied closed su.id now else .ok closed) =
        .ok ma ∧
      responseAppliedKey su.idempotencyKey = .ok ar.idempotencyKey ∧
      createControlAction ma ar dr = .ok (recorded,row) ∧
      t = { recorded with threads := t.threads } ∧
      ∀ run, (getThread t run).isSome = (getThread recorded run).isSome := by
  unfold settlePermission at h
  obtain ⟨closed,hc,h⟩ := bind_ok.1 h
  obtain ⟨ma,hm,h⟩ := bind_ok.1 h
  obtain ⟨key,hk,h⟩ := bind_ok.1 h
  obtain ⟨⟨recorded,row⟩,hrec,h⟩ := bind_ok.1 h
  obtain ⟨tr,-,h⟩ := bind_ok.1 h
  obtain ⟨re,hre,h⟩ := bind_ok.1 h
  have hrep : re = { recorded with threads := re.threads } := (updateThread_ok hre).1
  refine ⟨_,closed,ma,_,recorded,row,targetStatus_settles _ _,hc,hm,hk,hrec,?_⟩
  have hth : ∀ run, (getThread re run).isSome = (getThread recorded run).isSome :=
    fun _ => getThread_updateThread hre fun _ => rfl
  split at h
  · refine ⟨by rw [(updateThread_ok h).1,hrep],fun run => ?_⟩
    rw [getThread_updateThread h fun _ => rfl,hth]
  · cases h
    exact ⟨hrep,hth⟩

lemma settlePermission_settledBy (h : settlePermission s su rid oid pe dr now = .ok t)
    (hme : su ∈ s.controlActions.rows) (ho : su.appliedAt = none) :
    SettledBy s t rid su := by
  obtain ⟨st,closed,ma,ar,recorded,row,hst,hc,hm,hk,hrec,hl,hru⟩ := settlePermission_ok h
  rw [if_pos (by simp [ho])] at hm
  obtain ⟨hrow,ht,hreq,-,hi⟩ := createControlAction_ok hrec
  obtain ⟨hma,hup⟩ := markControlActionApplied_ok hm
  have hcl := (updateRequests_ok hc).1
  have hv : ∀ o, requestView t o = requestView closed o := by
    intro o
    refine requestView_of_eq ?_ o
    rw [hl]
    exact hreq.trans (by rw [hma])
  have hac : ∀ a, a ∈ t.controlActions.rows ↔ a ∈ ma.controlActions.rows ∨ a = row := by
    intro a
    rw [hl]
    exact Table.mem_of_insert hi
  have hs : closed.controlActions = s.controlActions := by rw [hcl]
  rw [hs] at hup
  refine ⟨⟨st,hst,(hv _).trans
    (requestView_isRequest_self hc (fun _ => rfl) (fun _ => rfl) fun _ => rfl)⟩,?_,?_,?_,?_⟩
  · intro o hot
    exact (hv o).trans (requestView_isRequest hc (fun _ => rfl) hot)
  · refine ⟨settleApplied now .applied su,(hac _).2 (.inl ?_),⟨rfl,rfl,rfl,rfl,rfl,rfl,rfl⟩,rfl⟩
    exact (Table.mem_of_updateWhere hup).2 ⟨su,hme,by simp [Table.changed]⟩
  · intro a ha
    rcases (hac a).1 ha with ha | rfl
    · obtain ⟨b,hb,rfl⟩ := (Table.mem_of_updateWhere hup).1 ha
      refine .inl ⟨b,hb,?_⟩
      unfold Table.changed
      split_ifs <;> rfl
    · exact .inr ⟨_,by rw [hrow]; exact hk⟩
  · intro run
    rw [hru]
    unfold getThread
    rw [ht,hma,hcl]

end

end VaultspecA2A.PermissionJournal
