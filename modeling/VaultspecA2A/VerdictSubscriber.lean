import Mathlib.Data.List.Sort
import VaultspecA2A.PermissionAsks

/-!
# The verdict subscriber

Documents are reviewed outside the service. The subscriber consumes the engine's
stream of lifecycle events and resumes the run a reviewer's verdict belongs to. An
event reaches its run through the pending row of a document gate; when the stream
reports a gap, a snapshot of the engine's proposals is compared with the gates of the
runs that may be parked. Either way the resume is prepared against the proposal the
run's checkpoint is pending on, and claimed in the journal under that proposal's key.

Events and snapshots arrive decoded. What a checkpoint read shows is the mapping of its channels,
and a read that fails shows none.
-/
namespace VaultspecA2A.VerdictSubscriber
open Runs Tables PyValue ThreadLifecycle Database ControlActions ActionClaims List
open PermissionOptions IdempotencyKeys ThreadElections PermissionJournal PermissionResponses
open PermissionAsks (drawingAt)

inductive Verdict
  | approved
  | rejected
  | requestChanges
deriving DecidableEq, Repr

def Verdict.value : Verdict → String
  | .approved => "approved"
  | .rejected => "rejected"
  | .requestChanges => "request_changes"

def decisionToVerdict : String → Option Verdict
  | "approve" => some .approved
  | "reject" => some .rejected
  | "request_changes" => some .requestChanges
  | _ => none

/-- A lifecycle event; `data` is the mapping with the fields of the decision. -/
structure LifecycleEvent where
  seq : ℤ
  eventKind : String
  aggregateId : String
  data : Value

def correlationKeys : List String := ["proposal_id","changeset_id","approval_id"]

def LifecycleEvent.correlationIds (event : LifecycleEvent) : List String :=
  (if event.aggregateId.isEmpty then [] else [event.aggregateId]) ++
    correlationKeys.filterMap fun key => event.data.getStr key

def notes (event : LifecycleEvent) : Option String := event.data.getStr "comment"

def verdictFromEvent (event : LifecycleEvent) : Option (Verdict × Option String) :=
  match ((event.data.get "decision").bind Value.text?).bind decisionToVerdict with
  | some verdict => some (verdict,notes event)
  | none =>
    if event.eventKind = "proposal.rejected" then some (.rejected,notes event)
    else if event.eventKind = "approval.resolved" then some (.approved,notes event)
    else none

def objectMapping (value : Value) : Option Value :=
  if value.isStringKeyed then some value else none

structure RecoveryProposal where
  status : String
  ids : List String
  approval : Option Value

def recoveryProposal (item : Value) : Option RecoveryProposal :=
  match objectMapping item with
  | none => none
  | some mapping =>
    match (mapping.get "status").bind Value.text? with
    | none => none
    | some status =>
      let approval := (mapping.get "approval").bind objectMapping
      let ids := (mapping.getStr "changeset_id").toList ++
        (approval.bind (Value.getStr "proposal_id")).toList
      if ids.isEmpty then none else some ⟨status,ids,approval⟩

def iterRecoveryProposals (data : Value) : List RecoveryProposal :=
  match (objectMapping data).bind fun payload => (payload.get "snapshot").bind objectMapping with
  | none => []
  | some snapshot =>
    let proposals := (snapshot.get "proposals").getD .null
    let items :=
      match objectMapping proposals with
      | some mapping => (mapping.get "items").bind Value.items?
      | none => proposals.items?
    (items.getD []).filterMap recoveryProposal

def gateResumeVerdict (status : String) : Option Verdict :=
  if status ∈ ["applied","approved"] then some .approved
  else if status = "rejected" then some .rejected
  else none

def proposalReconcileVerdict (proposal : RecoveryProposal) : Option Verdict :=
  match gateResumeVerdict proposal.status with
  | some verdict => some verdict
  | none =>
    match proposal.approval with
    | none => none
    | some approval =>
      if ¬ ((approval.get "present").getD .null).truthy ∨
          ((approval.get "stale").getD .null).truthy then none
      else ((approval.get "decision").bind Value.text?).bind decisionToVerdict

/-- The verdict of every decided id; the first entry that names an id is the one read. -/
def decidedVerdicts (data : Value) : List (String × Verdict) :=
  (iterRecoveryProposals data).flatMap fun proposal =>
    match proposalReconcileVerdict proposal with
    | none => []
    | some verdict => proposal.ids.map fun id => (id,verdict)

/-- The event names the proposal and approves it, by its decision or, when it has no
decision field, as a resolved approval. -/
def LifecycleEvent.Approves (event : LifecycleEvent) (proposal : String) : Prop :=
  proposal ∈ event.correlationIds ∧ (event.data.getStr "decision" = some "approve" ∨
      event.eventKind = "approval.resolved" ∧ event.data.get "decision" = none)

def RecoveryProposal.Approves (entry : RecoveryProposal) (proposal : String) : Prop :=
  proposal ∈ entry.ids ∧ (entry.status ∈ ["approved","applied"] ∨
      entry.approval.bind (Value.getStr "decision") = some "approve")

/-- A resolved approval has no decision field, or one of the engine's decisions in it. -/
def LifecycleEvent.Decided (event : LifecycleEvent) : Prop :=
  event.eventKind = "approval.resolved" → event.data.get "decision" = none ∨
    (((event.data.get "decision").bind Value.text?).bind decisionToVerdict).isSome = true

lemma decisionToVerdict_approved : decisionToVerdict d = some .approved ↔ d = "approve" := by
  unfold decisionToVerdict
  split <;> simp_all

lemma getStr_of_text {value : Value} (hne : x.isEmpty = false)
    (h : (value.get key).bind Value.text? = some x) : value.getStr key = some x := by
  unfold Value.getStr
  cases hge : value.get key with
  | none => simp [hge] at h
  | some fo =>
    rw [hge] at h
    cases fo <;> simp_all [Value.text?,Value.nonemptyStr]

/-- An event that reads as an approval approves each proposal it names exactly when its
decision field, if it has one, holds a decision the engine knows. -/
lemma approves_iff_decided
    (hv : verdictFromEvent e = some (.approved,nt)) (hn : pr ∈ e.correlationIds) : e.Approves pr ↔ e.Decided := by
  unfold verdictFromEvent at hv
  unfold LifecycleEvent.Approves LifecycleEvent.Decided
  cases hk : ((e.data.get "decision").bind Value.text?).bind decisionToVerdict with
  | some ve =>
    rw [hk] at hv
    cases hv
    obtain ⟨d,ht,hd⟩ := Option.bind_eq_some_iff.1 hk
    rw [decisionToVerdict_approved.1 hd] at ht
    have ha := getStr_of_text (by decide) ht
    simp [hn,ha]
  | none =>
    rw [hk] at hv
    dsimp only at hv
    split_ifs at hv with hrej hre
    · cases hv
    have hno : e.data.getStr "decision" ≠ some "approve" := by
      intro ha
      unfold Value.getStr at ha
      obtain ⟨fo,hge,hs⟩ := Option.bind_eq_some_iff.1 ha
      cases fo with
      | str s =>
        simp only [Value.nonemptyStr] at hs
        split_ifs at hs
        cases hs
        simp [hge,Value.text?,decisionToVerdict] at hk
      | _ => cases hs
    simp [hn,hre,hno]

lemma gateResumeVerdict_approved :
    gateResumeVerdict su = some .approved ↔ su ∈ ["approved","applied"] := by
  unfold gateResumeVerdict
  split_ifs with ha hre
  · simpa [or_comm] using ha
  · simp [hre]
  · simpa [or_comm] using ha

lemma proposalReconcileVerdict_approved (h : proposalReconcileVerdict e = some .approved) :
    e.status ∈ ["approved","applied"] ∨
      e.approval.bind (Value.getStr "decision") = some "approve" := by
  unfold proposalReconcileVerdict at h
  cases hs : gateResumeVerdict e.status with
  | some ve =>
    rw [hs] at h
    exact .inl (gateResumeVerdict_approved.1 (hs.trans h))
  | none =>
    rw [hs] at h
    cases ha : e.approval with
    | none => simp [ha] at h
    | some approval =>
      rw [ha] at h
      dsimp only at h
      split_ifs at h
      obtain ⟨d,ht,hd⟩ := Option.bind_eq_some_iff.1 h
      rw [decisionToVerdict_approved.1 hd] at ht
      exact .inr (getStr_of_text (by decide) ht)

lemma decidedVerdicts_approved (h : (decidedVerdicts da).lookup pr = some .approved) :
    ∃ e ∈ iterRecoveryProposals da, e.Approves pr := by
  obtain ⟨p,q,hs,-⟩ := lookup_eq_some_iff.1 h
  have hm : (pr,Verdict.approved) ∈ decidedVerdicts da := by simp [hs]
  obtain ⟨e,hen,hp⟩ := mem_flatMap.1 hm
  cases hv : proposalReconcileVerdict e with
  | none => simp [hv] at hp
  | some ve =>
    rw [hv] at hp
    obtain ⟨id,hid,heq⟩ := mem_map.1 hp
    cases heq
    exact ⟨e,hen,hid,proposalReconcileVerdict_approved hv⟩

def gatePendingProposalField : String := "gate_pending_proposal_id"

def threadPendingGateProposal (channels : Value) : Option String :=
  channels.getStr gatePendingProposalField

structure VerdictSetup where
  writeExpectation : ThreadWriteExpectation
  currentGate : String
  resumeValue : ResumeValue

def prepareVerdictResume (s : Store) (threadId : String) (channels : Value) (verdict : Verdict)
    (notes : Option String) (correlatedIds : List String) : Option VerdictSetup :=
  match getThread s threadId, threadPendingGateProposal channels with
  | some thread, some gate =>
    if gate ∈ correlatedIds then
      some ⟨threadWriteExpectation thread,gate,.approvalVerdict (some verdict.value) notes gate⟩
    else none
  | _, _ => none

def verdictPayload (threadId : String) (setup : VerdictSetup) (authority : FollowonAuthority) :
    ActionPayload :=
  .accepted
    { intent := .resume setup.resumeValue
      dispatch := followonDispatch threadId authority setup.resumeValue
      actorTokensRequired := false }

def verdictClaimRequest (threadId : String) (setup : VerdictSetup)
    (authority : FollowonAuthority) (drawing : Drawing) : ControlActionClaimRequest where
  threadId := threadId
  actionType := .resume
  idempotencyKey := authoringVerdictActionKey setup.currentGate
  payload := some (verdictPayload threadId setup authority)
  dispatchId := drawing.drawn.dispatchId
  requestId := some setup.currentGate
  writeExpectation := some setup.writeExpectation
  recoveryTimeoutSeconds := some authority.graphDefinition.runTimeoutSeconds

inductive VerdictResume
  | refused (refusal : DispatchRefusal)
  | staleAuthority
  | competing
  | replayed (applied : Bool)
  | dispatching (claim : ControlActionClaim) (payload : ActionPayload) (dispatch : DispatchInput)

section
variable (fingerprint : ActionPayload → String)

def claimVerdictResume (s : Store) (threadId : String) (setup : VerdictSetup)
    (drawing : Drawing) : Except Raised (Store × VerdictResume) :=
  match drawing.followon with
  | .error refusal => .ok (s,.refused refusal)
  | .ok authority => do
      let (claimed,claim) ← prepareControlActionClaim fingerprint s
        (verdictClaimRequest threadId setup authority drawing) drawing.now drawing.drawn
        drawing.claimToken
      if ¬ claim.authorityMatches then .ok (claimed,.staleAuthority)
      else if ¬ claim.payloadMatches then .ok (claimed,.competing)
      else if ¬ claim.acquired then .ok (claimed,.replayed claim.applied)
      else do
        let committed ← finalizeControlActionAcceptance claimed claim
        .ok (committed,.dispatching claim (verdictPayload threadId setup authority)
          (followonDispatch threadId authority setup.resumeValue))

end

def pendingDocumentApprovalThread (s : Store) (requestIds : List String) : Option String :=
  (s.permissionRequests.first fun row =>
    decide (row.requestId ∈ requestIds) && !row.requestId.isEmpty &&
      decide (row.pauseReasonType = InterruptType.documentApprovalRequest.value) &&
      decide (row.requestStatus = .pending) &&
      (getThread s row.threadId).any fun thread => decide (thread.status = .inputRequired)).map
    PermissionRequestModel.threadId

def getPendingPermissionRequests (s : Store) (threadId pauseReasonType : String) :
    List PermissionRequestModel :=
  s.permissionRequests.rows.filter fun row =>
    isOutstanding row && decide (row.threadId = threadId) &&
      decide (row.pauseReasonType = pauseReasonType)

def settleVerdictDispatchReceipt (s : Store) (action : ControlActionModel) (now : Instant) :
    Except Raised (Store × Bool) :=
  if action.actionType ≠ .resume ∨ resumeIntent action.idempotencyKey ≠ some .authoringVerdict ∨
      action.appliedAt.isSome then .ok (s,false)
  else do
    let marked ← markControlActionApplied s action.id now
    let pending := getPendingPermissionRequests marked action.threadId
      InterruptType.documentApprovalRequest.value
    let closed ← pending.foldlM
      (fun t permission => markPermissionRequestApplied t permission.requestId .applied now) marked
    .ok (closed,true)

structure Attempt where
  threadId : String
  verdict : Verdict
  notes : Option String
  correlatedIds : List String

structure Prepared where
  attempt : Attempt
  channels : Value
  setup : VerdictSetup

/-- A prepared resume whose claim was committed, and the body it was committed with. -/
structure Accepted where
  prepared : Prepared
  payload : ActionPayload

structure System where
  store : Store
  attempts : List Attempt
  prepared : List Prepared
  accepted : List Accepted

inductive Label
  | event (event : LifecycleEvent)
  | snapshot (data : Value)
  | prepare
  | claim
  | undelivered
  | elsewhere

def logged (accepted : List Accepted) (prepared : Prepared) : VerdictResume → List Accepted
  | .dispatching _ payload _ => accepted ++ [⟨prepared,payload⟩]
  | _ => accepted

/-- Every journaled intention stands; rows may be settled, leased and added. -/
def IntentionsKept (s t : Store) : Prop :=
  ∀ a ∈ s.controlActions.rows, ∃ b ∈ t.controlActions.rows, SameIntention a b

section
variable (fingerprint : ActionPayload → String)

/-- The subscriber reads, prepares and claims in steps of its own, so that anything may
happen in between. A snapshot is compared with one candidate in a step. -/
inductive Move : System → Label → System → Prop
  | event {sys : System} {event : LifecycleEvent} {verdict : Verdict} {noted : Option String}
      {threadId : String} : verdictFromEvent event = some (verdict,noted) →
      pendingDocumentApprovalThread sys.store event.correlationIds = some threadId →
      Move sys (.event event) { sys with
        attempts := ⟨threadId,verdict,noted,event.correlationIds⟩ :: sys.attempts }
  | unmatched {sys : System} {event : LifecycleEvent} : (verdictFromEvent event = none ∨
      pendingDocumentApprovalThread sys.store event.correlationIds = none) →
      Move sys (.event event) sys
  | snapshot {sys : System} {data : Value} (threadId : String) (channels : Value)
      {gate : String} {verdict : Verdict} : threadPendingGateProposal channels = some gate →
      (decidedVerdicts data).lookup gate = some verdict →
      Move sys (.snapshot data) { sys with
        attempts := ⟨threadId,verdict,none,[gate]⟩ :: sys.attempts }
  | undecided {sys : System} (data : Value) (channels : Value) :
      ((threadPendingGateProposal channels).bind fun gate => (decidedVerdicts data).lookup gate) = none →
      Move sys (.snapshot data) sys
  | prepare {sys : System} {attempt : Attempt} (channels : Value) {setup : VerdictSetup} :
      attempt ∈ sys.attempts →
      prepareVerdictResume sys.store attempt.threadId channels attempt.verdict attempt.notes
        attempt.correlatedIds = some setup →
      Move sys .prepare { sys with prepared := ⟨attempt,channels,setup⟩ :: sys.prepared }
  | claim {sys : System} {prepared : Prepared} (drawing : Drawing) {t : Store}
      {outcome : VerdictResume} : prepared ∈ sys.prepared →
      claimVerdictResume fingerprint sys.store prepared.attempt.threadId prepared.setup drawing =
        .ok (t,outcome) →
      Move sys .claim { sys with
        store := t, accepted := logged sys.accepted prepared outcome }
  | undelivered {sys : System} (claim : ControlActionClaim) (failureType : FailureType)
      (recorded : Bool) (instant : Instant) {t : Store}
      {disposition : DispatchFailureDisposition} :
      recordDispatchFailure sys.store claim failureType recorded instant = .ok (t,disposition) →
      Move sys .undelivered { sys with store := t }
  | elsewhere {sys : System} {t : Store} : IntentionsKept sys.store t →
      Move sys .elsewhere { sys with store := t }

end

/-- Something the subscriber consumed approves the proposal. -/
def ApprovedIn (history : List Label) (proposal : String) : Prop :=
  (∃ event, .event event ∈ history ∧ event.Approves proposal) ∨ ∃ data, .snapshot data ∈ history ∧
      ∃ entry ∈ iterRecoveryProposals data, entry.Approves proposal

def resumeValueOf : ActionPayload → Option ResumeValue
  | .accepted input => input.dispatch.optionId
  | _ => none

/-- What the accepted verdicts of a history satisfy. -/
structure SoundVerdicts (sys : System) (history : List Label) : Prop where
  names : ∀ a ∈ sys.accepted, ∃ row ∈ sys.store.controlActions.rows, ∃ gate verdict noted,
    threadPendingGateProposal a.prepared.channels = some gate ∧
      row.threadId = a.prepared.attempt.threadId ∧ row.requestId = some gate ∧
      row.payload = some a.payload ∧
      resumeValueOf a.payload = some (.approvalVerdict (some verdict) noted gate)
  once : ∀ a ∈ sys.accepted, ∀ b ∈ sys.accepted,
    a.prepared.attempt.threadId = b.prepared.attempt.threadId →
    threadPendingGateProposal a.prepared.channels = threadPendingGateProposal b.prepared.channels →
    a.payload = b.payload
  approved : ∀ a ∈ sys.accepted, ∀ noted proposal,
    resumeValueOf a.payload =
      some (.approvalVerdict (some Verdict.approved.value) noted proposal) →
    ApprovedIn history proposal

/-- An approval rests on something consumed, for every id it was matched on. -/
def Attempt.Backed (attempt : Attempt) (history : List Label) : Prop :=
  attempt.verdict = .approved → ∀ id ∈ attempt.correlatedIds, ApprovedIn history id

structure Prepared.Precise (prepared : Prepared) : Prop where
  pending : threadPendingGateProposal prepared.channels = some prepared.setup.currentGate
  matched : prepared.setup.currentGate ∈ prepared.attempt.correlatedIds
  value : prepared.setup.resumeValue = .approvalVerdict (some prepared.attempt.verdict.value)
    prepared.attempt.notes prepared.setup.currentGate

/-- The row an accepted verdict was journaled in. -/
structure Journaled (s : Store) (a : Accepted) (row : ControlActionModel) : Prop where
  mem : row ∈ s.controlActions.rows
  key : actionKey row = (a.prepared.attempt.threadId,
    authoringVerdictActionKey a.prepared.setup.currentGate)
  requestId : row.requestId = some a.prepared.setup.currentGate
  payload : row.payload = some a.payload

structure Sound (sys : System) (history : List Label) : Prop where
  attempts : ∀ a ∈ sys.attempts, a.Backed history
  prepared : ∀ p ∈ sys.prepared, p.attempt.Backed history ∧ p.Precise
  accepted : ∀ a ∈ sys.accepted, a.prepared.attempt.Backed history ∧ a.prepared.Precise ∧
    resumeValueOf a.payload = some a.prepared.setup.resumeValue ∧ ∃ row, Journaled sys.store a row

variable {att : Attempt} {ve : Verdict}

section
variable {fingerprint fp : ActionPayload → String} {sys sys' sy : System} {lg : List Label}
variable {l : Label} {s t : Store}

lemma ApprovedIn.append (h : ApprovedIn lg pr) : ApprovedIn (lg ++ [l]) pr := by
  rcases h with ⟨e,hm,ha⟩ | ⟨da,hm,ha⟩
  · exact .inl ⟨e,mem_append_left _ hm,ha⟩
  · exact .inr ⟨da,mem_append_left _ hm,ha⟩

lemma Attempt.Backed.append (h : att.Backed lg) : att.Backed (lg ++ [l]) :=
  fun ha id hid => (h ha id hid).append

lemma Journaled.kept (h : Journaled s a row)
    (hk : IntentionsKept s t) : ∃ ro, Journaled t a ro := by
  obtain ⟨ro,hm,hs⟩ := hk row h.mem
  refine ⟨ro,hm,?_,hs.requestId.trans h.requestId,hs.payload.trans h.payload⟩
  rw [← h.key,actionKey,actionKey,hs.threadId,hs.idempotencyKey]

/-- A later history and a journal that stands keep everything but new entries sound. -/
lemma Sound.kept (h : Sound sys lg) (hk : IntentionsKept sys.store t) :
    Sound { sys with store := t } (lg ++ [l]) := by
  refine ⟨fun a ha => (h.attempts a ha).append,
    fun p hp => ⟨(h.prepared p hp).1.append,(h.prepared p hp).2⟩,fun a ha => ?_⟩
  obtain ⟨hb,hpr,hv,row,hrow⟩ := h.accepted a ha
  exact ⟨hb.append,hpr,hv,hrow.kept hk⟩

lemma IntentionsKept.refl (s : Store) : IntentionsKept s s := fun a ha => ⟨a,ha,.refl a⟩

lemma IntentionsKept.of_claimStep (h : ClaimStep (fun _ => True) s t) : IntentionsKept s t := by
  intro a ha
  obtain ⟨b,hb,hs⟩ := h.actions.kept a ha
  exact ⟨b,hb,hs.toSameIntention⟩

lemma prepareVerdictResume_precise
    (h : prepareVerdictResume s att.threadId chs att.verdict att.notes
      att.correlatedIds = some se) : Prepared.Precise ⟨att,chs,se⟩ := by
  unfold prepareVerdictResume at h
  split at h
  · rename_i th ga ht hga
    split_ifs at h with hm
    cases h
    exact ⟨hga,hm,rfl⟩
  · cases h

/-- A claim leaves every intention standing, and one that goes through journals its body
under the key of the gate. -/
lemma claimVerdictResume_ok (h : claimVerdictResume fp s tid se dw = .ok (t,oc)) :
    ClaimStep (fun _ => True) s t ∧ ∀ cl pl dispatch, oc = .dispatching cl pl dispatch →
      resumeValueOf pl = some se.resumeValue ∧ ∃ row ∈ t.controlActions.rows,
        actionKey row = (tid,authoringVerdictActionKey se.currentGate) ∧
        row.requestId = some se.currentGate ∧ row.payload = some pl := by
  unfold claimVerdictResume at h
  split at h
  · cases h
    exact ⟨.refl _,fun _ _ _ ho => by cases ho⟩
  rename_i au hau
  obtain ⟨⟨cm,cl⟩,hc,h⟩ := bind_ok.1 h
  have hs : ClaimStep (fun _ => True) s cm :=
    prepareControlActionClaim_claimStep (fun _ _ => trivial) hc fun _ _ _ => trivial
  dsimp only at h
  split at h
  · cases h
    exact ⟨hs,fun _ _ _ ho => by cases ho⟩
  rename_i ha
  split at h
  · cases h
    exact ⟨hs,fun _ _ _ ho => by cases ho⟩
  rename_i hb
  split at h
  · cases h
    exact ⟨hs,fun _ _ _ ho => by cases ho⟩
  obtain ⟨co,hf,h⟩ := bind_ok.1 h
  cases h
  rw [finalizeControlActionAcceptance_same hf]
  refine ⟨hs,?_⟩
  rintro cla pl dispatch ho
  cases ho
  rw [not_not] at ha hb
  obtain ⟨row,hm,hrow⟩ := prepareControlActionClaim_row hc ha hb
  exact ⟨rfl,row,hm,Prod.ext hrow.threadId hrow.idempotencyKey,hrow.requestId,hrow.payload⟩

lemma event_backed (hd : e.Decided) (h : verdictFromEvent e = some (ve,nt)) :
    Attempt.Backed ⟨tid,ve,nt,e.correlationIds⟩ (lg ++ [.event e]) := by
  intro ha id hid
  cases ha
  exact .inl ⟨e,by simp,(approves_iff_decided h hid).2 hd⟩

lemma snapshot_backed (h : (decidedVerdicts da).lookup ga = some ve) :
    Attempt.Backed ⟨tid,ve,none,[ga]⟩ (lg ++ [.snapshot da]) := by
  intro ha id hid
  cases ha
  rw [mem_singleton.1 hid]
  exact .inr ⟨da,by simp,decidedVerdicts_approved h⟩

/-- A label that is an event is one whose decision is known. -/
def Label.Decided : Label → Prop
  | .event e => LifecycleEvent.Decided e
  | _ => True

lemma Move.sound (h : Sound sys lg) (hmo : Move fp sys l sy)
    (hd : l.Decided) : Sound sy (lg ++ [l]) := by
  have hk : Sound sys (lg ++ [l]) := h.kept (.refl _)
  cases hmo with
  | event hv ht =>
    exact ⟨forall_mem_cons.2 ⟨event_backed hd hv,hk.attempts⟩, hk.prepared,hk.accepted⟩
  | unmatched _ => exact hk
  | snapshot tid chs hga hl =>
    exact ⟨forall_mem_cons.2 ⟨snapshot_backed hl,hk.attempts⟩,hk.prepared, hk.accepted⟩
  | undecided da chs _ => exact hk
  | prepare chs hm hpr =>
    exact ⟨hk.attempts,forall_mem_cons.2
      ⟨⟨hk.attempts _ hm,prepareVerdictResume_precise hpr⟩,hk.prepared⟩,
      hk.accepted⟩
  | @claim pr dw t oc hm hc =>
    obtain ⟨hs,hj⟩ := claimVerdictResume_ok hc
    have hn : Sound { sys with store := t } (lg ++ [.claim]) := h.kept (.of_claimStep hs)
    refine ⟨hn.attempts,hn.prepared,fun a ha => ?_⟩
    cases oc with
    | dispatching claim pl dispatch =>
      rw [logged,mem_append,mem_singleton] at ha
      rcases ha with ha | rfl
      · exact hn.accepted a ha
      · obtain ⟨hb,hp⟩ := hn.prepared pr hm
        obtain ⟨hv,row,hrow,hk,hr,hpl⟩ := hj claim pl dispatch rfl
        exact ⟨hb,hp,hv,row,hrow,hk,hr,hpl⟩
    | _ => exact hn.accepted a ha
  | undelivered claim ft recorded it hf =>
    exact h.kept (.of_claimStep (recordDispatchFailure_claimStep (fun _ _ => trivial) hf))
  | elsewhere hs => exact h.kept hs

lemma Verdict.value_approved (h : ve.value = Verdict.approved.value) : ve = .approved := by
  cases ve with
  | approved => rfl
  | _ => simp [Verdict.value] at h

lemma Sound.verdicts (h : Sound sys lg) : SoundVerdicts sys lg := by
  refine ⟨fun a ha => ?_,fun a ha b hb ht hga => ?_,fun a ha nt pr hv => ?_⟩
  · obtain ⟨-,hp,hv,row,hrow⟩ := h.accepted a ha
    rw [hp.value] at hv
    exact ⟨row,hrow.mem,_,_,_,hp.pending,(Prod.mk.inj hrow.key).1,hrow.requestId,hrow.payload,hv⟩
  · obtain ⟨-,hap,-,row,hrow⟩ := h.accepted a ha
    obtain ⟨-,hbp,-,ro,hrow'⟩ := h.accepted b hb
    -- One gate of one run has one key, and a key has one row.
    rw [hap.pending,hbp.pending] at hga
    have hk : actionKey row = actionKey ro := by
      rw [hrow.key,hrow'.key,ht,Option.some.inj hga]
    have hs : row = ro := Table.eq_of_not_fits hrow.mem hrow'.mem
      (fun hf => action_key_unique hf hk) fun hf => action_key_unique hf hk.symm
    have hpa := hrow'.payload
    rw [← hs,hrow.payload] at hpa
    exact Option.some.inj hpa
  · obtain ⟨hba,hp,hre,-⟩ := h.accepted a ha
    rw [hv,hp.value] at hre
    obtain ⟨hve,-,hpr⟩ := ResumeValue.approvalVerdict.inj (Option.some.inj hre)
    rw [hpr]
    exact hba (Verdict.value_approved (Option.some.inj hve).symm) _ hp.matched

/-- Whatever the subscriber consumes, as long as no resolved approval carries a decision
the engine does not know. -/
theorem accepted_verdicts_sound {s : Store} {labels : List Label}
    (hrun : Run (fun sys l sys' => Move fingerprint sys l sys' ∧ l.Decided) ⟨s,[],[],[]⟩
      labels sys) : SoundVerdicts sys labels := by
  have hst : Sound ⟨s,[],[],[]⟩ [] := ⟨by simp,by simp,by simp⟩
  have hs := hrun.remembers Sound (fun h hm => Move.sound h hm.1 hm.2) hst
  exact hs.verdicts

end

lemma firstReceipt_valid : ReceiptIdValid "receipt-1" := by decide

/-- A run whose document gate is announced and recorded as its pause. -/
def parkedAtGate : Except Raised Store := do
  let admitted ← admittedRun
  let framed ← handlePermissionEvent admitted "run-1" ⟨some "request-1",none,some "review",none⟩
    (some [documentGate]) ⟨"created-1","created-1"⟩ 0
  let (parked,_) ← electThreadStatus framed "run-1"
    ⟨.submitted,⟨0,1,.ingest,"receipt-1",Nat.one_pos,firstReceipt_valid⟩⟩ .inputRequired .ingest
      "receipt-1"
  .ok parked

def gateChannels : Value := .dict [(.str gatePendingProposalField,.str "request-1")]

def approvalClaim : Except Raised (Store × VerdictResume) := do
  let parked ← parkedAtGate
  match prepareVerdictResume parked "run-1" gateChannels .approved none ["request-1"] with
  | none => .error .keyError
  | some setup =>
    claimVerdictResume (fun _ => "digest") parked "run-1" setup
      (drawingAt 1 "action-2" "dispatch-2")

def VerdictResume.value : VerdictResume → Option ResumeValue
  | .dispatching _ payload _ => resumeValueOf payload
  | _ => none

def gateApproval : ResumeValue := .approvalVerdict (some "approved") none "request-1"

lemma approval_accepted (P : Label → Prop) (e : LifecycleEvent) (hev : P (.event e))
    (hpr : P .prepare) (hc : P .claim)
    (hv : verdictFromEvent e = some (.approved,none))
    (hi : e.correlationIds = ["request-1"]) :
    ∃ s sys, Run (fun sys l sy => Move (fun _ => "digest") sys l sy ∧ P l) ⟨s,[],[],[]⟩
        [.event e,.prepare,.claim] sys ∧
      sys.accepted.map (fun a => resumeValueOf a.payload) = [some gateApproval] := by
  have hre : approvalClaim.toOption.map (fun r => r.2.value) = some (some gateApproval) := by
    decide +kernel
  have hm : parkedAtGate.toOption.map (pendingDocumentApprovalThread · ["request-1"]) =
      some (some "run-1") := by decide +kernel
  cases hru : approvalClaim with
  | error ra =>
    rw [hru] at hre
    cases hre
  | ok en =>
    obtain ⟨t,oc⟩ := en
    rw [hru] at hre
    obtain ⟨parked,hp,hru⟩ := bind_ok.1 hru
    rw [hp] at hm
    split at hru
    · cases hru
    rename_i se hs
    cases oc with
    | dispatching cl pl dispatch =>
      refine ⟨parked,_,.step ⟨.event hv (by
          rw [hi]
          exact Option.some.inj hm),hev⟩ <|
        .step ⟨.prepare gateChannels mem_cons_self (by rw [hi]; exact hs),hpr⟩ <|
        .single ⟨.claim (drawingAt 1 "action-2" "dispatch-2") mem_cons_self hru,hc⟩,?_⟩
      exact congrArg (fun value => [value]) (Option.some.inj hre)
    | _ => cases hre

def reviewEvent (decision : String) : LifecycleEvent :=
  ⟨1,"approval.resolved","request-1",.dict [(.str "decision",.str decision)]⟩

theorem accepted_verdicts_sound_approve :
    ∃ s sys, Run (fun sys l sys' => Move (fun _ => "digest") sys l sys' ∧ l.Decided)
        ⟨s,[],[],[]⟩ [.event (reviewEvent "approve"),.prepare,.claim] sys ∧
      sys.accepted.map (fun a => resumeValueOf a.payload) = [some gateApproval] ∧
      SoundVerdicts sys [.event (reviewEvent "approve"),.prepare,.claim] := by
  obtain ⟨s,sys,hru,ha⟩ := approval_accepted Label.Decided (reviewEvent "approve")
    (fun _ => .inr rfl) trivial trivial rfl rfl
  exact ⟨s,sys,hru,ha,accepted_verdicts_sound hru⟩

/-- A resolved approval whose decision the engine does not know approves the document. -/
theorem unknown_decision_approves : ∃ s sys, Run (Move fun _ => "digest") ⟨s,[],[],[]⟩
      [.event (reviewEvent "abstain"),.prepare,.claim] sys ∧
    sys.accepted.map (fun a => resumeValueOf a.payload) = [some gateApproval] ∧
    ¬ ApprovedIn [.event (reviewEvent "abstain"),.prepare,.claim] "request-1" := by
  obtain ⟨s,sys,hru,hac⟩ := approval_accepted (fun _ => True)
    (reviewEvent "abstain") trivial trivial trivial rfl rfl
  refine ⟨s,sys,hru.replace (fun _ => True) (fun _ h => ⟨h.1,trivial⟩) trivial,hac,?_⟩
  rintro (⟨event,hm,ha⟩ | ⟨data,hm,-⟩)
  · have hev : event = reviewEvent "abstain" := by simpa using hm
    rw [hev] at ha
    rcases ha.2 with hd | ⟨-,hn⟩
    · revert hd
      decide
    · cases hn
  · simp at hm

end VaultspecA2A.VerdictSubscriber
