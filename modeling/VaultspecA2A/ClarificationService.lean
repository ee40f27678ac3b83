import VaultspecA2A.FreshClaims
import VaultspecA2A.PermissionAsks

/-!
# Resolutions of a clarification

A research run whose preset declares questions commits them at the start of every turn
and parks at a gate until a resume resolves them. The control plane accepts such a
resolution: it reads the checkpoint for the questions the run is parked on and for the
receipts of the resolutions the graph has taken, finds the action journaled under the
request, and either reports what it finds or claims and dispatches the resume.

The journal key and the receipt are named by the request, and the request by the run, so
a run has one of each for all of its turns. A resolution is accepted exactly when nothing
was accepted under them before, or the same resolution is still on its way.

What a checkpoint read shows is an argument: the questions the projection discloses and the
channel values. Of a turn only the stage that asks is modelled, without the message it adds to the
transcript.
-/
namespace VaultspecA2A.ClarificationService
open Tables PyText PyValue ThreadLifecycle Database ControlActions ActionLeases ActionClaims
open Clarification IdempotencyKeys PermissionJournal PermissionResponses FreshClaims

structure DeclaredClarification where
  questions : List ClarificationQuestion
  questions_some : questions ≠ []
  questions_bounded : questions.length ≤ maxQuestionsPerRequest
  ids_unique : (questions.map ClarificationQuestion.id).Nodup

def clarificationRequestId (threadId : String) : String :=
  if threadId.isEmpty then "clarification"
  else String.ofList (("clarify-" ++ threadId).toList.take maxRequestIdChars)

/-- The declared questions as a request; an id outside the grammar raises. -/
def DeclaredClarification.clarificationRequest (declared : DeclaredClarification)
    (requestId : String) : Option ClarificationRequest :=
  if h : isRequestId requestId = true then
    some ⟨requestId,declared.questions,h,declared.questions_some,declared.questions_bounded,
      declared.ids_unique⟩
  else none

structure ResearchChannels where
  clarificationRequest : Option ClarificationRequest
  clarificationResolutionReceipts : List (String × String)

/-- `{**existing, **new}`, up to the order of the entries. -/
def mergeClarificationResolutionReceipts (existing new : List (String × String)) :
    List (String × String) :=
  new ++ existing.filter fun e => decide (e.1 ∉ new.map Prod.fst)

/-- Commit what the run is asked; nothing when the request could not be built. -/
def clarificationRequestNode (declared : DeclaredClarification) (threadId : String)
    (channels : ResearchChannels) : Option ResearchChannels :=
  (declared.clarificationRequest (clarificationRequestId threadId)).map fun request =>
    { channels with clarificationRequest := some request }

/-- Hand a resume to the gate: the channels once it takes the resume as an answer to its
own request, or nothing while it goes on asking. -/
def clarificationGateNode (digest : ClarificationResolution → String)
    (channels : ResearchChannels) (resume : Value) : Option ResearchChannels :=
  match channels.clarificationRequest with
  | none => some channels
  | some request =>
    match parseClarificationResolution resume request.requestId with
    | .error _ => none
    | .ok resolution =>
      some
        { clarificationRequest := none
          clarificationResolutionReceipts := mergeClarificationResolutionReceipts
            channels.clarificationResolutionReceipts [(request.requestId,digest resolution)] }

structure CheckpointReading where
  parked : Option ClarificationRequest
  channelValues : Value

def checkpointReceipt (reading : CheckpointReading) (requestId : String) : Option String :=
  match reading.channelValues.get "clarification_resolution_receipts" with
  | some (.dict receipts) => ((Value.dict receipts).get requestId).bind Value.text?
  | _ => none

def ResearchChannels.reading (channels : ResearchChannels) : CheckpointReading where
  parked := channels.clarificationRequest
  channelValues := .dict [(.str "clarification_resolution_receipts",
    .dict (channels.clarificationResolutionReceipts.map fun e => (.str e.1,.str e.2)))]

def storedResolution (action : ControlActionModel) : Option ClarificationResolution :=
  match action.requestId, readAcceptedInput action with
  | some requestId, some accepted =>
    match accepted.intent with
    | .resume (.clarification resolution) =>
      (parseClarificationResolution (asResumeValue resolution) requestId).toOption
    | _ => none
  | _, _ => none

def settleAcceptedAction (s : Store) (action : ControlActionModel) (now : Instant) :
    Except Raised (Store × Bool) :=
  match action.claimToken.filter fun token => !token.isEmpty with
  | some token => settleControlActionLease s action.id token now
  | none => do
      let marked ← markControlActionApplied s action.id now
      .ok (marked,(getControlAction s action.id).isSome)

def settleClarificationDispatchReceipt (s : Store) (action : ControlActionModel)
    (now : Instant) : Except Raised (Store × Bool) :=
  if action.actionType ≠ .resume ∨ resumeIntent action.idempotencyKey ≠ some .clarification ∨
      action.appliedAt.isSome then .ok (s,false)
  else settleAcceptedAction s action now

def settleFromReceipt (s : Store) (action : ControlActionModel) (fingerprint : String)
    (reading : CheckpointReading) (now : Instant) : Except Raised (Store × Bool) :=
  if checkpointReceipt reading (action.requestId.getD "") ≠ some fingerprint then .ok (s,false)
  else if action.appliedAt.isSome then .ok (s,true)
  else settleAcceptedAction s action now

def resolutionConflict : String := "A different clarification resolution is already accepted"

def actionResult (action : ControlActionModel) : ControlActionOutcome where
  threadId := action.threadId
  requestId := action.requestId.getD ""
  actionId := some action.id
  idempotencyKey := some action.idempotencyKey
  accepted := true
  applied := action.appliedAt.isSome
  actionStatus := action.resultStatus

def refusedResult (action : ControlActionModel) (detail : String) : ControlActionOutcome :=
  { actionResult action with
    accepted := false, errorDetail := some detail, errorStatusCode := some 409 }

def refreshed (s : Store) (action : ControlActionModel) : ControlActionModel :=
  (getControlAction s action.id).getD action

/-- Report the action already journaled for the request, unless it may be driven again. -/
def replayExistingAction (digest : ClarificationResolution → String) (s : Store)
    (existing : ControlActionModel) (fingerprint : String) (reading : CheckpointReading)
    (parkedMatches : Bool) (now : Instant) :
    Except Raised (Store × Option ControlActionOutcome) :=
  if (storedResolution existing).map digest ≠ some fingerprint then
    .ok (s,some (refusedResult existing resolutionConflict))
  else do
    let (settled,applied) ← settleFromReceipt s existing fingerprint reading now
    if applied then
      .ok (settled,some { actionResult (refreshed settled existing) with applied := true })
    else if existing.appliedAt.isSome then
      .ok (settled,some { actionResult existing with applied := true })
    else if ¬ parkedMatches then .ok (settled,some (actionResult existing))
    else .ok (settled,none)

def invalidParkedAnswers (parked : Option ClarificationRequest)
    (resolution : ClarificationResolution) (threadId requestId : String) :
    Option ControlActionOutcome :=
  match parked, resolution with
  | some request, .answers _ answers =>
    if request.requestId ≠ requestId then none
    else
      match validateClarificationAnswers request answers with
      | [] => none
      | violations =>
        some { threadId := threadId, requestId := requestId
               errorDetail := some ("; ".intercalate violations)
               errorStatusCode := some 422 }
  | _, _ => none

def clarificationClaimRequest (thread : ThreadModel) (requestId : String)
    (resolution : ClarificationResolution) (authority : FollowonAuthority) (drawing : Drawing) :
    ControlActionClaimRequest where
  threadId := thread.id
  actionType := .resume
  idempotencyKey := clarificationResponseActionKey requestId
  payload := some (.accepted
    { intent := .resume (.clarification resolution)
      dispatch := followonDispatch thread.id authority (.clarification resolution)
      actorTokensRequired := false })
  dispatchId := drawing.drawn.dispatchId
  requestId := some requestId
  writeExpectation := some (threadWriteExpectation thread)
  recoveryTimeoutSeconds := some authority.graphDefinition.runTimeoutSeconds

/-- An accepted resolution on its way to the worker. -/
structure ClarificationTransition where
  claim : ControlActionClaim
  action : ControlActionModel
  dispatch : DispatchInput
deriving DecidableEq

inductive ClarificationAnswer
  | settled (outcome : ControlActionOutcome)
  | dispatching (transition : ClarificationTransition)
deriving DecidableEq

def claimedActionResult (action : ControlActionModel) (claim : ControlActionClaim)
    (parkedMatches : Bool) (threadStatus : ThreadStatus) : Option ControlActionOutcome :=
  if ¬ claim.payloadMatches then some (refusedResult action resolutionConflict)
  else if claim.applied ∨ action.appliedAt.isSome then
    some { actionResult action with applied := true }
  else if ¬ parkedMatches then
    some (refusedResult action "Clarification application cannot be confirmed")
  else if threadStatus ∈ nonActiveStatuses then some (refusedResult action "Run is not active")
  else if ¬ claim.acquired then some (actionResult action)
  else none

def claimAndDispatch (outside : Outside) (s : Store) (thread : ThreadModel) (requestId : String)
    (resolution : ClarificationResolution) (parkedMatches : Bool) (drawing : Drawing) :
    Except Raised (Store × ClarificationAnswer) :=
  match drawing.followon with
  | .error refused =>
    .ok (s,.settled
      { threadId := thread.id, requestId := requestId
        errorDetail := some refused.reason, failureType := some refused.failureType })
  | .ok authority => do
      let (claimed,claim) ← prepareControlActionClaim outside.fingerprint s
        (clarificationClaimRequest thread requestId resolution authority drawing) drawing.now
        drawing.drawn drawing.claimToken
      if ¬ claim.authorityMatches then
        .ok (s,.settled
          { threadId := thread.id, requestId := requestId, errorStatusCode := some 409
            failureType := some .incompatibleState
            errorDetail := some "Accepted action no longer owns the current run" })
      else
        match getControlAction claimed claim.actionId with
        | none => .error (.runtimeError "claimed clarification action disappeared")
        | some action =>
          match claimedActionResult action claim parkedMatches thread.status with
          | some outcome => .ok (s,.settled outcome)
          | none => do
              let committed ← finalizeControlActionAcceptance claimed claim
              .ok (committed,.dispatching
                ⟨claim,action,followonDispatch thread.id authority (.clarification resolution)⟩)

def runNotFound (requestId threadId : String) : ControlActionOutcome :=
  { threadId := threadId, requestId := requestId, errorDetail := some "Run not found"
    errorStatusCode := some 404 }

def isParked (reading : CheckpointReading) (requestId : String) : Bool :=
  reading.parked.any fun request => decide (request.requestId = requestId)

/-- Reserve, lease and dispatch one resolution, up to the commit before its delivery. -/
def respondToClarification (outside : Outside) (digest : ClarificationResolution → String)
    (s : Store) (threadId requestId : String) (resolution : ClarificationResolution)
    (reading : CheckpointReading) (drawing : Drawing) :
    Except Raised (Store × ClarificationAnswer) :=
  match getThread s threadId with
  | none => .ok (s,.settled (runNotFound requestId threadId))
  | some thread =>
    let existing := getControlActionByIdempotencyKey s threadId
      (clarificationResponseActionKey requestId)
    let parked := isParked reading requestId
    if existing.isNone ∧ ¬ parked then
      .ok (s,.settled
        { threadId := threadId, requestId := requestId
          errorDetail := some "Clarification request is not pending for this run"
          errorStatusCode := some 404 })
    else
      match invalidParkedAnswers reading.parked resolution threadId requestId with
      | some refusal => .ok (s,.settled refusal)
      | none =>
        match existing with
        | none => claimAndDispatch outside s thread requestId resolution parked drawing
        | some action => do
            let (replayed,outcome) ← replayExistingAction digest s action (digest resolution)
              reading parked drawing.now
            match outcome with
            | some outcome => .ok (replayed,.settled outcome)
            | none =>
              claimAndDispatch outside replayed thread requestId resolution parked drawing

def deliveredClarification (s : Store) (transition : ClarificationTransition)
    (fingerprint : String) (latest : CheckpointReading) (now : Instant) :
    Except Raised (Store × ControlActionOutcome) := do
  let (settled,applied) ← settleFromReceipt s transition.action fingerprint latest now
  let action := if applied then refreshed settled transition.action else transition.action
  .ok (settled,{ actionResult action with applied := applied, dispatched := true })

def recordUndeliveredDispatch (s : Store) (threadId reason : String) : Except Raised Store :=
  updateThread s threadId fun t => { t with repairReason := some reason }

def failedClarificationDispatch (s : Store) (threadId : String)
    (transition : ClarificationTransition) (failureType : FailureType) (detail : String)
    (recorded : Bool) (instant : Instant) : Except Raised (Store × ControlActionOutcome) := do
  let (settled,disposition) ←
    recordDispatchFailure s transition.claim failureType recorded instant
  let noted ←
    (if disposition = .definiteNonDelivery then
      recordUndeliveredDispatch settled threadId ("Clarification resume not delivered: " ++ detail)
    else .ok settled)
  .ok (noted,{ actionResult transition.action with
    errorDetail := some detail, failureType := some failureType })

variable {row : ControlActionModel}

section
variable {Good : ControlActionModel → Prop}
variable {di : ClarificationResolution → String}
variable (hgood : ∀ {a b}, SameIntention a b → Good a → Good b)
include hgood

lemma settleAcceptedAction_step (h : settleAcceptedAction s row now = .ok (t,dn)) :
    IntentStep Good s t := by
  have hs : ∀ a, SameIntention a (settleApplied now .applied a) :=
    fun a => ⟨rfl,rfl,rfl,rfl,rfl,rfl,rfl⟩
  unfold settleAcceptedAction at h
  split at h
  · obtain ⟨hf,hup,-⟩ := updateAction_rows h
    exact .journal (.updateWhere SameIntention.refl hs (fun a _ _ => hgood (hs a)) hup) hf
  · obtain ⟨ma,hm,h⟩ := bind_ok.1 h
    cases h
    obtain ⟨hf,hup⟩ := markControlActionApplied_ok hm
    exact .journal (.updateWhere SameIntention.refl hs (fun a _ _ => hgood (hs a)) hup) hf

lemma settleFromReceipt_step (h : settleFromReceipt s row fp rd now = .ok (t,dn)) :
    IntentStep Good s t := by
  unfold settleFromReceipt at h
  split at h
  · cases h
    exact .refl _
  split at h
  · cases h
    exact .refl _
  · exact settleAcceptedAction_step hgood h

lemma replayExistingAction_step
    (h : replayExistingAction di s row fp rd pm now = .ok (t,oc)) : IntentStep Good s t := by
  unfold replayExistingAction at h
  split at h
  · cases h
    exact .refl _
  obtain ⟨⟨settled,ap⟩,hs,h⟩ := bind_ok.1 h
  have hse := settleFromReceipt_step hgood hs
  dsimp only at h
  split_ifs at h <;> cases h <;> exact hse

variable (hnew : ∀ row : ControlActionModel, row.actionType = .resume →
  row.idempotencyKey = clarificationResponseActionKey rid → Good row)
include hnew

lemma claimAndDispatch_step
    (h : claimAndDispatch ou s th rid rs pm dw = .ok (t,an)) : IntentStep Good s t := by
  unfold claimAndDispatch at h
  split at h
  · cases h
    exact .refl _
  obtain ⟨⟨cm,cl⟩,hc,h⟩ := bind_ok.1 h
  dsimp only at h
  split at h
  · cases h
    exact .refl _
  split at h
  · cases h
  split at h
  · cases h
    exact .refl _
  obtain ⟨co,hco,h⟩ := bind_ok.1 h
  cases h
  rw [finalizeControlActionAcceptance_same hco]
  exact (prepareControlActionClaim_claimStep_new (fun hs => hgood hs.toSameIntention) hc
    fun _ => hnew _ rfl rfl).intent

lemma respondToClarification_step
    (h : respondToClarification ou di s tid rid rs rd dw = .ok (t,an)) : IntentStep Good s t := by
  unfold respondToClarification at h
  split at h
  · cases h
    exact .refl _
  dsimp only at h
  split at h
  · cases h
    exact .refl _
  split at h
  · cases h
    exact .refl _
  split at h
  · exact claimAndDispatch_step hgood hnew h
  obtain ⟨⟨replayed,oc⟩,hrep,h⟩ := bind_ok.1 h
  have hre := replayExistingAction_step hgood hrep
  dsimp only at h
  split at h
  · cases h
    exact hre
  · exact hre.trans (fun h g => h.trans g) (claimAndDispatch_step hgood hnew h)

end

lemma settleApplied_check (h : row.Check) : (settleApplied now .applied row).Check := by
  obtain ⟨hd,hp,-⟩ := h
  refine ⟨?_,hp,fun hq => by cases hq⟩
  unfold ControlActionModel.DeadlineCheck at hd ⊢
  by_cases ht : row.actionType ∈ recoveryActionTypes
  · simp [settleApplied,ht,dispatchableResultStatuses]
  · rw [if_neg ht] at hd
    simp [settleApplied,ht,hd]

lemma settle_total (s : Store) (now : Instant) (p : ControlActionModel → Bool) :
    ∃ ac, s.controlActions.updateWhere p (settleApplied now .applied) = some ac :=
  updateWhere_total (fun _ => rfl) (fun _ hq => by cases hq)
    fun a ha _ => settleApplied_check (s.controlActions.checks a ha)

/-- An unapplied row of the store is settled by whoever holds it as it stands. -/
lemma settleAcceptedAction_total (now : Instant) (hrow : getControlAction s row.id = some row)
    (ho : row.appliedAt = none) : ∃ t, settleAcceptedAction s row now = .ok (t,true) := by
  unfold settleAcceptedAction
  split
  · rename_i tk ht
    have hh : heldUnapplied tk row = true := by
      simp [heldUnapplied,ho,heldBy,(Option.filter_eq_some_iff.1 ht).1]
    obtain ⟨ac,hup⟩ := settle_total s now fun a => decide (a.id = row.id) && heldUnapplied tk a
    have hd : updateAction s row.id (heldUnapplied tk) (settleApplied now .applied) =
        .ok ({ s with controlActions := ac },decide (s.controlActions.affected
          (fun a => decide (a.id = row.id) && heldUnapplied tk a) = 1)) := by
      unfold updateAction
      dsimp only
      rw [hup]
    rw [updateAction_matched hrow hh hd] at hd
    exact ⟨_,hd⟩
  · obtain ⟨ac,hup⟩ := settle_total s now fun a => decide (a.id = row.id)
    refine ⟨{ s with controlActions := ac },?_⟩
    unfold markControlActionApplied
    rw [hup,hrow]
    rfl

section
variable {s t : Store} {thread th : ThreadModel}
variable {drawing dw : Drawing}

lemma claimAndDispatch_open (hrow : getControlActionByIdempotencyKey s th.id
      (clarificationResponseActionKey rid) = some row) (hop : row.appliedAt = none)
    (h : claimAndDispatch ou s th rid re pm dw = .ok (t,an)) :
    (∀ oc, an = .settled oc → oc.applied = false) ∧ ∀ tr, an = .dispatching tr →
        row.requestId = some rid ∧ tr.action.requestId = some rid := by
  unfold claimAndDispatch at h
  split at h
  · cases h
    exact ⟨fun oc ho => by cases ho; rfl,fun _ ht => by cases ht⟩
  obtain ⟨⟨cm,cl⟩,hc,h⟩ := bind_ok.1 h
  dsimp only at h
  split at h
  · cases h
    exact ⟨fun oc ho => by cases ho; rfl,fun _ ht => by cases ht⟩
  split at h
  · cases h
  rename_i ac ha
  obtain ⟨st⟩ := prepareControlActionClaim_stages hc
  have hres : st.reservation.action = row := reserveControlAction_held st.reserves hrow
  -- the claim keeps the row, so the row it reads back is the one it found
  have hst : ClaimStep (fun _ => True) s cm :=
    prepareControlActionClaim_claimStep (fun _ _ => trivial) hc fun _ _ _ => trivial
  obtain ⟨kept,hk,hs⟩ := hst.actions.kept row (Table.lookup_mem actionKey hrow)
  have hre : ac = kept := by
    have hf := Table.lookup_of_mem ControlActionModel.id action_id_unique hk
    rw [hs.id,← hres,← st.actionId] at hf
    exact Option.some.inj (ha.symm.trans hf)
  have hu : ac.appliedAt = none := by rw [hre,hs.appliedAt,hop]
  have hcl : cl.applied = false := by rw [st.applied,hres,hop]; rfl
  split at h
  · rename_i oc hou
    cases h
    refine ⟨fun o ho => ?_,fun _ ht => by cases ht⟩
    cases ho
    unfold claimedActionResult at hou
    simp only [hcl,hu,Bool.false_eq_true,Option.isSome_none,or_self,if_false] at hou
    split_ifs at hou <;> cases hou <;> simp [refusedResult,actionResult,hu]
  · rename_i hn
    obtain ⟨co,hco,hret⟩ := bind_ok.1 h
    cases hret
    refine ⟨(fun _ ho => by cases ho),fun tr ht => ?_⟩
    cases ht
    have hb : cl.payloadMatches = true := by
      by_contra hb
      simp [claimedActionResult,hb] at hn
    rw [st.payloadMatches,reserveControlAction_matches_iff st.reserves] at hb
    have hreq : row.requestId = some rid := (hb row hrow).2.1
    exact ⟨hreq,by rw [hre,hs.requestId,hreq]⟩

/-- The surroundings of a response: an active run, the authority its resume is rebuilt
from, and identities drawn afresh. -/
structure Serviced (s : Store) (threadId : String) (thread : ThreadModel) (drawing : Drawing)
    (authority : FollowonAuthority) : Prop where
  run : getThread s threadId = some thread
  run_id : isToken maxRunIdChars threadId = true
  active : thread.status ∉ nonActiveStatuses
  followon : drawing.followon = .ok authority
  timeout : 1 ≤ authority.graphDefinition.runTimeoutSeconds
  fresh : Fresh s drawing.drawn.actionId drawing.drawn.dispatchId
  token : drawing.claimToken.isEmpty = false

lemma claimAndDispatch_fresh (ou : Outside) (re : ClarificationResolution)
    (hs : Serviced s tid th dw au)
    (hf : getControlActionByIdempotencyKey s tid (clarificationResponseActionKey rid) = none) :
    ∃ t tr, claimAndDispatch ou s th rid re true dw = .ok (t,.dispatching tr) ∧
      tr.dispatch = followonDispatch tid au (.clarification re) ∧
      getControlAction t tr.action.id = some tr.action ∧
      tr.action.appliedAt = none ∧ tr.action.requestId = some rid := by
  have hid : th.id = tid := Table.lookup_key ThreadModel.id hs.run
  subst hid
  have hre : Claimable s (clarificationClaimRequest th rid re au dw) th
      { intent := .resume (.clarification re)
        dispatch := followonDispatch th.id au (.clarification re)
        actorTokensRequired := false } :=
    ⟨hs.run,hs.run_id,hs.active,rfl,hf,rfl,rfl,rfl,rfl,⟨_,hs.timeout,rfl⟩,rfl⟩
  obtain ⟨t,row,hc,hco,hrow,ho,hreq⟩ := prepareControlActionClaim_fresh
    ou.fingerprint dw.now hre hs.fresh hs.token
  let cl := freshClaim (clarificationClaimRequest th rid re au dw) dw.drawn dw.claimToken
  have hau : cl.authorityMatches = true := rfl
  have ha : cl.actionId = dw.drawn.actionId := rfl
  have hres : claimedActionResult row cl true th.status = none := by
    simp [claimedActionResult,cl,freshClaim,ho,hs.active]
  have hk : row.id = dw.drawn.actionId := Table.lookup_key ControlActionModel.id hrow
  refine ⟨t,⟨cl,row,followonDispatch th.id au (.clarification re)⟩,?_,rfl, by rw [hk,hrow],ho,hreq⟩
  unfold claimAndDispatch
  rw [hs.followon]
  change prepareControlActionClaim _ _ _ _ _ _ = .ok (t,cl) at hc
  simp only [hc,bind,Except.bind,hau,not_true_eq_false,if_false,ha,hrow,hres]
  change finalizeControlActionAcceptance t cl = .ok t at hco
  rw [hco]

end

/-- The resolution carries the request's id and its answers pass the check. -/
structure ValidFor (request : ClarificationRequest) (resolution : ClarificationResolution) :
    Prop where
  requestId : resolution.requestId = request.requestId
  admissible : ∀ requestId answers, resolution = .answers requestId answers →
    validateClarificationAnswers request answers = []

/-- The same resolution of the request is accepted and not yet applied. -/
def InFlight (digest : ClarificationResolution → String) (s : Store) (threadId requestId : String)
    (resolution : ClarificationResolution) : Prop :=
  ∃ row, getControlActionByIdempotencyKey s threadId
      (clarificationResponseActionKey requestId) = some row ∧ row.appliedAt = none ∧
    row.requestId = some requestId ∧ (storedResolution row).map digest = some (digest resolution)

/-- What a response to a parked questionnaire is owed: the resolution is dispatched or the
same one is in flight, and nobody is told that it was applied while the run stays parked. -/
structure WellAnswered (outside : Outside) (digest : ClarificationResolution → String)
    (s : Store) (threadId requestId : String) (resolution : ClarificationResolution)
    (reading : CheckpointReading) (drawing : Drawing) : Prop where
  reaches : (∃ t transition, respondToClarification outside digest s threadId requestId resolution
        reading drawing = .ok (t,.dispatching transition) ∧
      transition.dispatch.optionId = some (.clarification resolution)) ∨
    InFlight digest s threadId requestId resolution
  settled : ∀ t outcome, respondToClarification outside digest s threadId requestId resolution
    reading drawing = .ok (t,.settled outcome) → outcome.applied = false
  delivered : ∀ t transition, respondToClarification outside digest s threadId requestId
      resolution reading drawing = .ok (t,.dispatching transition) →
    ∀ later latest now, latest.parked = reading.parked →
      checkpointReceipt latest requestId = checkpointReceipt reading requestId →
      ∃ outcome, deliveredClarification later transition (digest resolution) latest now =
        .ok (later,outcome) ∧ outcome.accepted = true ∧ outcome.dispatched = true ∧
        outcome.applied = false

section
variable {di : ClarificationResolution → String} {s : Store}
variable {rd : CheckpointReading}

lemma invalidParkedAnswers_valid (hp : rd.parked = some rq) (hv : ValidFor rq re) :
    invalidParkedAnswers rd.parked re tid rq.requestId = none := by
  unfold invalidParkedAnswers
  split
  · rename_i parked rid an hh
    cases hp.symm.trans hh
    rw [if_neg (not_not.2 rfl),hv.admissible _ _ rfl]
  · rfl

lemma isParked_parked (hp : rd.parked = some rq) : isParked rd rq.requestId = true := by
  simp [isParked,hp]

lemma respondToClarification_free (ou : Outside)
    (di : ClarificationResolution → String) (dw : Drawing) (hru : getThread s tid = some th)
    (hp : rd.parked = some rq) (hv : ValidFor rq re)
    (hf : getControlActionByIdempotencyKey s tid
      (clarificationResponseActionKey rq.requestId) = none) :
    respondToClarification ou di s tid rq.requestId re rd dw =
      claimAndDispatch ou s th rq.requestId re true dw := by
  unfold respondToClarification
  simp only [hru,hf,isParked_parked hp,invalidParkedAnswers_valid hp hv,
    not_true_eq_false,and_false,if_false]

lemma respondToClarification_existing (ou : Outside)
    (di : ClarificationResolution → String) (dw : Drawing)
    (hru : getThread s tid = some th) (hp : rd.parked = some rq)
    (hv : ValidFor rq re) (hrow : getControlActionByIdempotencyKey s tid
      (clarificationResponseActionKey rq.requestId) = some row) :
    respondToClarification ou di s tid rq.requestId re rd dw =
      (replayExistingAction di s row (di re) rd true dw.now).bind fun replay =>
          match replay.2 with
          | some oc => .ok (replay.1,.settled oc)
          | none =>
            claimAndDispatch ou replay.1 th rq.requestId re true
              dw := by
  unfold respondToClarification
  simp only [hru,hrow,isParked_parked hp,invalidParkedAnswers_valid hp hv,
    not_true_eq_false,and_false,if_false]
  rfl

lemma replayExistingAction_conflict (h : (storedResolution row).map di ≠ some fp) :
    replayExistingAction di s row fp rd pm now =
      .ok (s,some (refusedResult row resolutionConflict)) := by
  unfold replayExistingAction
  rw [if_pos h]

lemma replayExistingAction_applied (hrow : getControlAction s row.id = some row)
    (hs : (storedResolution row).map di = some fp)
    (h : checkpointReceipt rd (row.requestId.getD "") = some fp ∨ row.appliedAt.isSome = true) :
    ∃ t oc, replayExistingAction di s row fp rd pm now = .ok (t,some oc) ∧ oc.applied = true := by
  have hsett : ∃ t ap, settleFromReceipt s row fp rd now =
      .ok (t,ap) ∧ (ap = true ∨ row.appliedAt.isSome = true) := by
    unfold settleFromReceipt
    split_ifs with hre ha
    · exact ⟨s,false,rfl,.inr (h.resolve_left hre)⟩
    · exact ⟨s,true,rfl,.inl rfl⟩
    · obtain ⟨t,hset⟩ := settleAcceptedAction_total now hrow (by simpa using ha)
      exact ⟨t,true,hset,.inl rfl⟩
  obtain ⟨t,ap,hse,ha⟩ := hsett
  unfold replayExistingAction
  rw [if_neg (not_not.2 hs)]
  simp only [hse,bind,Except.bind]
  split_ifs with hn hb
  · exact ⟨_,_,rfl,rfl⟩
  · exact ⟨_,_,rfl,rfl⟩
  · exact (ha.elim hn hb).elim
  · exact (ha.elim hn hb).elim

lemma replayExistingAction_open (hs : (storedResolution row).map di = some fp)
    (hre : checkpointReceipt rd (row.requestId.getD "") ≠ some fp)
    (ho : row.appliedAt = none) :
    replayExistingAction di s row fp rd true now = .ok (s,none) := by
  unfold replayExistingAction settleFromReceipt
  rw [if_neg (not_not.2 hs),if_pos hre]
  simp [ho,bind,Except.bind]

lemma deliveredClarification_unproven
    (h : checkpointReceipt lt (tr.action.requestId.getD "") ≠ some fp) :
    deliveredClarification la tr fp lt now =
      .ok (la,{ actionResult tr.action with applied := false, dispatched := true }) := by
  unfold deliveredClarification settleFromReceipt
  rw [if_pos h]
  rfl

lemma deliveredClarification_proven (now : Instant)
    (h : checkpointReceipt lt (tr.action.requestId.getD "") = some fp)
    (hrow : getControlAction la tr.action.id = some tr.action)
    (ho : tr.action.appliedAt = none) :
    ∃ t oc, deliveredClarification la tr fp lt now = .ok (t,oc) ∧ oc.applied = true := by
  obtain ⟨t,hs⟩ := settleAcceptedAction_total now hrow ho
  unfold deliveredClarification settleFromReceipt
  rw [if_neg (not_not.2 h),if_neg (by simp [ho])]
  simp only [hs,bind,Except.bind]
  exact ⟨_,_,rfl,rfl⟩

lemma wellAnswered_free (ou : Outside) (di : ClarificationResolution → String)
    (hs : Serviced s tid th dw au)
    (hp : rd.parked = some rq) (hv : ValidFor rq re)
    (hf : getControlActionByIdempotencyKey s tid
      (clarificationResponseActionKey rq.requestId) = none) :
    WellAnswered ou di s tid rq.requestId re rd dw ↔
      checkpointReceipt rd rq.requestId ≠ some (di re) := by
  obtain ⟨t,tr,hc,hd,hrow,ho,hreq⟩ := claimAndDispatch_fresh ou re hs hf
  have hre := (respondToClarification_free ou di dw hs.run hp hv hf).trans hc
  have hn : tr.action.requestId.getD "" = rq.requestId := by rw [hreq]; rfl
  constructor
  · intro h hrec
    obtain ⟨oc,hou,-,-,ha⟩ := h.delivered t tr hre t rd 0 rfl rfl
    obtain ⟨t',ot,ho',ha'⟩ := deliveredClarification_proven 0 (by rw [hn,hrec]) hrow ho
    cases hou.symm.trans ho'
    exact Bool.false_ne_true (ha.symm.trans ha')
  · intro hrec
    refine ⟨.inl ⟨t,tr,hre,by rw [hd]; rfl⟩,?_,?_⟩
    · intro t' oc hse
      cases hre.symm.trans hse
    · intro t' tn hdi la lt now _ hst
      cases hre.symm.trans hdi
      refine ⟨_,deliveredClarification_unproven ?_,rfl,rfl,rfl⟩
      rw [hn,hst]
      exact hrec

/-- A journaled action lets through the resolution it was accepted with, for as long as it
is neither applied nor proven by a receipt. -/
lemma wellAnswered_existing (ou : Outside) (di : ClarificationResolution → String)
    (hru : getThread s tid = some th) (hp : rd.parked = some rq)
    (hv : ValidFor rq re) (hrow : getControlActionByIdempotencyKey s tid
      (clarificationResponseActionKey rq.requestId) = some row) :
    WellAnswered ou di s tid rq.requestId re rd dw ↔
      checkpointReceipt rd rq.requestId ≠ some (di re) ∧ InFlight di s tid rq.requestId re := by
  have hid : th.id = tid := Table.lookup_key ThreadModel.id hru
  have hsto : getControlAction s row.id = some row :=
    Table.lookup_of_mem ControlActionModel.id action_id_unique (Table.lookup_mem actionKey hrow)
  have hre := respondToClarification_existing ou di dw hru hp hv hrow
  by_cases hs : (storedResolution row).map di = some (di re)
  swap
  · -- another resolution holds the key
    have hf : ¬ InFlight di s tid rq.requestId re := by
      rintro ⟨o,hot,-,-,hstor⟩
      cases hrow.symm.trans hot
      exact hs hstor
    rw [replayExistingAction_conflict hs] at hre
    refine ⟨fun h => (h.reaches.resolve_right hf).elim ?_,fun h => (hf h.2).elim⟩
    rintro t ⟨tr,hd,-⟩
    cases hre.symm.trans hd
  by_cases hrep : checkpointReceipt rd (row.requestId.getD "") =
      some (di re) ∨ row.appliedAt.isSome = true
  · obtain ⟨t,oc,hrepl,ha⟩ := replayExistingAction_applied hsto hs hrep
    rw [hrepl] at hre
    constructor
    · intro h
      exact (Bool.false_ne_true ((h.settled t oc hre).symm.trans ha)).elim
    · rintro ⟨hrec,o,hot,ho,hreq,-⟩
      cases hrow.symm.trans hot
      rw [hreq,ho] at hrep
      exact (hrep.elim hrec (by simp)).elim
  · obtain ⟨hrec,hno⟩ := not_or.1 hrep
    have ho : row.appliedAt = none := by simpa using hno
    rw [replayExistingAction_open hs hrec ho] at hre
    change _ = claimAndDispatch ou s th rq.requestId re true dw at hre
    have hc : ∀ t an, respondToClarification ou di s tid rq.requestId re rd dw = .ok (t,an) → _ :=
      fun t an h => claimAndDispatch_open (hid ▸ hrow) ho (hre.symm.trans h)
    constructor
    · intro h
      have hreq : row.requestId = some rq.requestId := by
        rcases h.reaches with ⟨t,tr,hd,-⟩ | ⟨o,hot,-,hreq,-⟩
        · exact ((hc t _ hd).2 tr rfl).1
        · cases hrow.symm.trans hot
          exact hreq
      rw [hreq,Option.getD_some] at hrec
      exact ⟨hrec,row,hrow,ho,hreq,hs⟩
    · rintro ⟨hu,hf⟩
      refine ⟨.inr hf,fun t oc h => (hc t _ h).1 oc rfl,?_⟩
      intro t tr hd la lt now _ hst
      have hn := ((hc t _ hd).2 tr rfl).2
      refine ⟨_,deliveredClarification_unproven ?_,rfl,rfl,rfl⟩
      rw [hn,Option.getD_some,hst]
      exact hu

end

/-- A valid resolution of the questions an active run is parked on is answered as it is owed
exactly if the checkpoint holds no receipt of it and the journal has nothing under the
request, or the same resolution still in flight. -/
theorem clarification_answered_iff (outside : Outside)
    (digest : ClarificationResolution → String) (s : Store) (threadId : String)
    (thread : ThreadModel) (request : ClarificationRequest) (resolution : ClarificationResolution)
    (reading : CheckpointReading) (drawing : Drawing) (authority : FollowonAuthority)
    (hserviced : Serviced s threadId thread drawing authority)
    (hparked : reading.parked = some request) (hvalid : ValidFor request resolution) :
    WellAnswered outside digest s threadId request.requestId resolution reading drawing ↔
      checkpointReceipt reading request.requestId ≠ some (digest resolution) ∧
        (getControlActionByIdempotencyKey s threadId
            (clarificationResponseActionKey request.requestId) = none ∨
          InFlight digest s threadId request.requestId resolution) := by
  cases hf : getControlActionByIdempotencyKey s threadId
      (clarificationResponseActionKey request.requestId) with
  | none =>
    rw [wellAnswered_free outside digest hserviced hparked hvalid hf]
    simp
  | some row =>
    rw [wellAnswered_existing outside digest hserviced.run hparked hvalid hf]
    simp

def scopeQuestion : ClarificationQuestion where
  id := "scope"
  prompt := "Which scope?"
  kind := .text
  id_valid := blankQuestion.id_valid
  prompt_valid := blankQuestion.prompt_valid
  options_bounded := by decide
  options_valid := by decide
  options_match := by decide

def scopeClarification : DeclaredClarification where
  questions := [scopeQuestion]
  questions_some := by simp
  questions_bounded := by decide
  ids_unique := by decide

def scopeRequest : ClarificationRequest where
  requestId := "clarify-run-1"
  questions := [scopeQuestion]
  requestId_valid := by decide
  questions_some := by simp
  questions_bounded := by decide
  ids_unique := by decide

def wholeScope : ClarificationResolution := .answers "clarify-run-1" [("scope","all")]

def plainDigest : ClarificationResolution → String
  | .answers _ answers => "answers:" ++ ";".intercalate (answers.map fun a => a.1 ++ "=" ++ a.2)
  | .continuation _ prompt => "continuation:" ++ prompt
  | .decline _ => "decline"

theorem clarification_answered_first_turn : ∃ s, admittedRun = .ok s ∧
    WellAnswered plainOutside plainDigest s "run-1" "clarify-run-1" wholeScope
      (ResearchChannels.reading ⟨some scopeRequest,[]⟩)
      (PermissionAsks.drawingAt 0 "action-2" "dispatch-2") := by
  have hru : ∃ s, admittedRun = .ok s := ⟨_,rfl⟩
  obtain ⟨s,hs⟩ := hru
  refine ⟨s,hs,?_⟩
  have ht : ∃ thread, getThread s "run-1" = some thread ∧ thread.status ∉ nonActiveStatuses := by
    cases hs
    exact ⟨_,rfl,by decide⟩
  obtain ⟨thread,ht,ha⟩ := ht
  have hf : Fresh s "action-2" "dispatch-2" := by
    cases hs
    exact ⟨by decide,by decide,by decide,by decide,by decide⟩
  refine (clarification_answered_iff plainOutside plainDigest s "run-1" thread scopeRequest
    wholeScope _ _ PermissionAsks.plainFollowon
    ⟨ht,by decide,ha,rfl,by decide,hf,by decide⟩ rfl ⟨rfl,?_⟩).2 ⟨by decide,.inl ?_⟩
  · intro requestId answers h
    cases h
    decide
  · cases hs
    rfl

def present {α : Type} : Option α → Except Raised α
  | some a => .ok a
  | none => .error .keyError

/-- A run through its first turn: the questions are asked and answered, the gate takes the
answer, the worker's receipt settles it, and the next turn asks again. -/
def secondTurn : Except Raised (Store × ResearchChannels) := do
  let s ← admittedRun
  let asked ← present (clarificationRequestNode scopeClarification "run-1" ⟨none,[]⟩)
  let (claimed,_) ← respondToClarification plainOutside plainDigest s "run-1" "clarify-run-1"
    wholeScope asked.reading (PermissionAsks.drawingAt 0 "action-2" "dispatch-2")
  let passed ← present (clarificationGateNode plainDigest asked (asResumeValue wholeScope))
  let action ← present (getControlAction claimed "action-2")
  let (settled,_) ← settleClarificationDispatchReceipt claimed action 1
  let again ← present (clarificationRequestNode scopeClarification "run-1" passed)
  .ok (settled,again)

/-- In the second turn the same answer is reported applied and any other is refused, while
the run stays parked on the questions. -/
theorem second_turn_unanswered : ∃ s channels, secondTurn = .ok (s,channels) ∧
    channels.clarificationRequest.map ClarificationRequest.requestId = some "clarify-run-1" ∧
    (getThread s "run-1").any (fun thread => decide (thread.status ∉ nonActiveStatuses)) = true ∧
    (∃ t outcome, respondToClarification plainOutside plainDigest s "run-1" "clarify-run-1"
      wholeScope channels.reading (PermissionAsks.drawingAt 2 "action-3" "dispatch-3") =
        .ok (t,.settled outcome) ∧ outcome.applied = true ∧ outcome.dispatched = false) ∧
    ∃ t outcome, respondToClarification plainOutside plainDigest s "run-1" "clarify-run-1"
      (.answers "clarify-run-1" [("scope","half")]) channels.reading
      (PermissionAsks.drawingAt 2 "action-3" "dispatch-3") = .ok (t,.settled outcome) ∧
      outcome.accepted = false ∧ outcome.errorStatusCode = some 409 ∧
      outcome.errorDetail = some "A different clarification resolution is already accepted" :=
  ⟨_,_,rfl,rfl,rfl,⟨_,_,rfl,rfl,rfl⟩,⟨_,_,rfl,rfl,rfl,rfl⟩⟩

end VaultspecA2A.ClarificationService
