import VaultspecA2A.ContinuationQueue
import VaultspecA2A.CancelService

/-!
# Follow-up messages and the keys of the other verbs

A message to a run that is executing a turn is reserved as a waiting turn, under the key
its client chose. The journal has one name space of keys for each run, and the other verbs
look for their own rows in it under keys they derive: the digest that stands for the
cancellation of the run, a text with a readable head for the refusal of a response, for
the answer to an ask and for the resolution of a questionnaire. A client may choose any of
these texts for a message.

A history is any sequence of messages, cancellations, responses and resolutions of one
run, with whatever other work in between. Other work carries on the rows of the run or
adds rows; it adds no message, and nothing but a cancellation under the key of one.

A digest is assumed to have no colon in it.
-/
namespace VaultspecA2A.FollowupMessages
open Runs Tables PyText ThreadLifecycle Database ControlActions ThreadElections ActionLeases List
open ActionClaims IdempotencyKeys PermissionJournal PermissionResponses PermissionAsks
open Clarification ClarificationService CancelService
open ContinuationQueue (ContinuationConfig QueuedContinuationRequest QueuedContinuation
  QueuedContinuationDisposition runLifetimeDeadline reserveQueuedContinuation
  reserveQueuedContinuation_ok)

inductive PauseAnswerability
  | awaitingAnswer
  | applyingAnswer
deriving DecidableEq, Repr

structure ParkedPause where
  runId : String
  permissionRequestId : Option String := none
  answerability : PauseAnswerability := .awaitingAnswer
deriving DecidableEq, Repr

def outstandingPermissionPause (s : Store) (threadId : String) : Option PermissionRequestModel :=
  s.permissionRequests.first fun row => decide (row.threadId = threadId) && isOutstanding row

def parkedPause (s : Store) (thread : ThreadModel) : Option ParkedPause :=
  if thread.status ≠ .inputRequired then none
  else
    match outstandingPermissionPause s thread.id with
    | none => some { runId := thread.id }
    | some row =>
      some ⟨thread.id,some row.requestId,
        if row.requestStatus = .pending then .awaitingAnswer else .applyingAnswer⟩

def parkedReason : Option ParkedPause → String
  | none =>
    "Cannot send a follow-up message while the run is paused for input. " ++
      "Answer the pause through its own typed respond verb; run-status " ++
      "names the request that is waiting."
  | some ⟨runId,none,_⟩ =>
    "Cannot send a follow-up message while the run is paused on a " ++
      "clarification. Answer it with POST /v1/runs/" ++ runId ++
      "/clarifications/\x7brequest_id\x7d/respond, reading the pending " ++
      "request id from run-status."
  | some ⟨_,some requestId,.applyingAnswer⟩ =>
    "Cannot send a follow-up message while the run is applying the " ++
      "answer already given to permission request " ++ requestId ++
      ". The run continues on its own; nothing needs to be sent."
  | some ⟨runId,some requestId,.awaitingAnswer⟩ =>
    "Cannot send a follow-up message while the run is paused on a " ++
      "permission request. Answer it with POST /v1/runs/" ++ runId ++ "/permissions/" ++
      requestId ++ "/respond."

structure MessageEligibility where
  allowed : Bool
  reason : Option String := none
  failureType : Option FailureType := none
deriving DecidableEq, Repr

def canSendFollowup (outside : Outside) (status : ThreadStatus) (parkedOn : Option ParkedPause) :
    MessageEligibility :=
  if status = .inputRequired then ⟨false,some (parkedReason parkedOn),some .inputRequired⟩
  else if status = .repairNeeded ∨ status = .reconciling then
    ⟨false,some ("Cannot send messages while thread is in " ++ outside.quoted status.value ++
      " repair state"),some .terminal⟩
  else if status = .submitted ∨ status = .running then { allowed := true }
  else if status = .cancelling then
    ⟨false,some "Cannot send a follow-up message while the run is cancelling",some .runBusy⟩
  else if status ∈ nonActiveStatuses then
    ⟨false,some ("Cannot send messages to thread in " ++ outside.quoted status.value ++ " state"),
      some .terminal⟩
  else { allowed := true }

def idempotencyKeyMaxLength : ℕ := 255

structure ClientKey where
  text : String
  nonempty : 1 ≤ text.length
  bounded : text.length ≤ idempotencyKeyMaxLength

structure MessageOutcome extends ControlActionOutcome where
  threadStatus : Option ThreadStatus := none
  queuePosition : Option ℕ := none
deriving DecidableEq, Repr

def followupPayload (threadId content agentId : String) (authority : FollowonAuthority) :
    ActionPayload :=
  .accepted
    { intent := .followup content agentId
      dispatch :=
        { verb := "ingest", threadId := threadId
          teamPreset := authority.graphDefinition.teamId
          graphDefinition := authority.graphDefinition, autonomous := authority.autonomous
          workspaceRoot := authority.workspaceRoot, recursionLimit := authority.recursionLimit
          modelAssignment := authority.modelAssignment, optionId := none }
      actorTokensRequired := false }

/-- What a disposition of the queue that refuses means to the caller. -/
def refusals : QueuedContinuationDisposition → Option (FailureType × String)
  | .conflict => some (.conflict,"Idempotency key is already bound to a different message")
  | .queueFull =>
    some (.queueFull,"The run already holds the continuations it may hold, or the service " ++
      "does. Nothing was reserved; retry once the waiting turn has run.")
  | _ => none

def lifetimeSpent : String := "The run's total lifetime is spent, so it can take no further " ++
    "turn. Start a new run naming this one as its predecessor."

def continuationRequest (config : ContinuationConfig) (createdAt : Instant)
    (threadId content agentId : String) (key : ClientKey) (authority : FollowonAuthority)
    (drawn : Drawn) : QueuedContinuationRequest where
  threadId := threadId
  idempotencyKey := key.text
  payload := followupPayload threadId content agentId authority
  dispatchId := drawn.dispatchId
  lifetimeDeadlineAt := runLifetimeDeadline config createdAt
  limits := config.limits

/-- What the queue's answer is to the caller; a refusal is rolled back. -/
def reservedOutcome (s reserved : Store) (thread : ThreadModel) (queued : QueuedContinuation) :
    Store × MessageOutcome :=
  match refusals queued.disposition with
  | some (failureType,detail) =>
    (s,{ actionId := some queued.actionId, threadId := thread.id
         threadStatus := some thread.status, errorDetail := some detail
         failureType := some failureType })
  | none =>
    (reserved,{ actionId := some queued.actionId, threadId := thread.id
                threadStatus := some thread.status, accepted := true
                applied := decide (queued.resultStatus = .applied)
                queuePosition := queued.position, actionStatus := queued.resultStatus })

def sendFollowupMessage (outside : Outside) (config : ContinuationConfig) (createdAt : Instant)
    (s : Store) (threadId content agentId : String) (key : ClientKey) (drawing : Drawing) :
    Except Raised (Store × MessageOutcome) :=
  match getThread s threadId with
  | none =>
    .ok (s,{ threadId := threadId, errorDetail := some "Run not found"
             failureType := some .notFound })
  | some thread =>
    let refused (failureType : Option FailureType) (detail : String) : MessageOutcome :=
      { threadId := threadId, threadStatus := some thread.status, errorDetail := some detail
        failureType := failureType }
    let replaying := (getControlActionByIdempotencyKey s threadId key.text).isSome
    let eligibility := canSendFollowup outside thread.status (parkedPause s thread)
    if ¬ replaying ∧ ¬ eligibility.allowed then
      .ok (s,refused eligibility.failureType
        (eligibility.reason.getD "The run cannot take this now"))
    else
      match drawing.followon with
      | .error refusal => .ok (s,refused (some refusal.failureType) refusal.reason)
      | .ok authority =>
        if ¬ replaying ∧ runLifetimeDeadline config createdAt ≤ drawing.now then
          .ok (s,refused (some .terminal) lifetimeSpent)
        else do
          let (reserved,queued) ← reserveQueuedContinuation s
            (continuationRequest config createdAt threadId content agentId key authority
              drawing.drawn)
            drawing.now drawing.drawn drawing.claimToken
          .ok (reservedOutcome s reserved thread queued)

def verbKeyHeads : List String :=
  ["permission-response:","permission-rejection:","clarification-response:"]

def isVerbKey (outside : Outside) (threadId key : String) : Bool :=
  decide (key = defaultCancelKey outside.sha256Hex threadId) || verbKeyHeads.any (startsWith key)

def isMessage (row : ControlActionModel) : Bool :=
  decide (row.actionType = .messageFollowupRequested)

structure CancelRow (threadId : String) (row : ControlActionModel) : Prop where
  actionType : row.actionType = .cancel
  requestId : row.requestId = none
  payload : row.payload = some (cancelPayload threadId)

/-- A message of the run stands under no key of another verb, and nothing but a
cancellation under the key of one. -/
def Apart (outside : Outside) (threadId : String) (row : ControlActionModel) : Prop :=
  row.threadId = threadId →
    (isMessage row = true → isVerbKey outside threadId row.idempotencyKey = false) ∧
    (row.idempotencyKey = defaultCancelKey outside.sha256Hex threadId → CancelRow threadId row)

def HexDigest (sha256Hex : String → String) : Prop := ∀ text, ':' ∉ (sha256Hex text).toList

section
variable {ou : Outside}

lemma startsWith_append (head r : String) : startsWith (head ++ r) head = true := by
  rw [startsWith,String.toList_append]
  exact isPrefixOf_iff_prefix.2 (prefix_append _ _)

lemma HexDigest.ne (h : HexDigest ou.sha256Hex) {head : String} (hc : ':' ∈ head.toList)
    (r x : String) : head ++ r ≠ ou.sha256Hex x := by
  intro hs
  apply h x
  rw [← hs,String.toList_append]
  exact mem_append_left _ hc

lemma isVerbKey_head {head : String} (hh : head ∈ verbKeyHeads) (r : String) :
    isVerbKey ou tid (head ++ r) = true := by
  have ha : verbKeyHeads.any (startsWith (head ++ r)) = true :=
    any_eq_true.2 ⟨head,hh,startsWith_append head r⟩
  rw [isVerbKey,ha,Bool.or_true]

lemma isVerbKey_response (rid : String) (gn : Generation) :
    isVerbKey ou tid (permissionResponseActionKey rid gn) = true := by
  unfold permissionResponseActionKey
  exact isVerbKey_head (by decide) _

lemma isVerbKey_rejection (key : String) :
    isVerbKey ou tid (permissionRejectionActionKey key) = true :=
  isVerbKey_head (by decide) _

lemma isVerbKey_clarification (rid : String) :
    isVerbKey ou tid (clarificationResponseActionKey rid) = true :=
  isVerbKey_head (by decide) _

lemma Apart.same_intention (h : SameIntention row la)
    (ha : Apart ou tid row) : Apart ou tid la := by
  intro hru
  rw [h.threadId] at hru
  obtain ⟨hm,hc⟩ := ha hru
  rw [isMessage,h.actionType,h.idempotencyKey]
  refine ⟨hm,fun hk => ?_⟩
  obtain ⟨ht,hre,hp⟩ := hc hk
  exact ⟨h.actionType.trans ht,h.requestId.trans hre,h.payload.trans hp⟩

lemma Apart.of_head (hd : HexDigest ou.sha256Hex) {head r : String}
    (hco : ':' ∈ head.toList) (hk : row.idempotencyKey = head ++ r)
    (ht : isMessage row = false) : Apart ou tid row := by
  intro _
  refine ⟨fun hm => ?_,fun hc => ?_⟩
  · rw [ht] at hm
    cases hm
  · exact absurd (hk.symm.trans hc) (hd.ne hco r _)

lemma Apart.found (ha : ∀ row ∈ s.controlActions.rows, Apart ou tid row)
    (hv : isVerbKey ou tid key = true)
    (hrow : getControlActionByIdempotencyKey s tid key = some row) :
    isMessage row = false := by
  obtain ⟨hru,hk⟩ := Prod.mk.inj (Table.lookup_key actionKey hrow)
  obtain ⟨hm,-⟩ := ha row (Table.lookup_mem actionKey hrow) hru
  by_contra his
  have hf := hm (Bool.not_eq_false _ ▸ his)
  rw [hk,hv] at hf
  cases hf

end

variable {ac ex : ControlActionModel}

section
variable {outside ou : Outside} {threadId tid : String} {s t : Store}

def AllApart (outside : Outside) (threadId : String) (s : Store) : Prop :=
  ∀ row ∈ s.controlActions.rows, Apart outside threadId row

lemma Apart.same_progress (h : SameProgress a b) (ha : Apart ou tid a) : Apart ou tid b :=
  ha.same_intention h.toSameIntention

lemma AllApart.evolves (h : AllApart ou tid s)
    (hs : s.controlActions.Evolves SameIntention (Apart ou tid) t.controlActions) :
    AllApart ou tid t := hs.sound h

lemma admits_key_free (h : ContinuationQueue.Admits s rq qu t row) :
    getControlActionByIdempotencyKey s rq.threadId rq.idempotencyKey = none := by
  rw [Option.eq_none_iff_forall_ne_some]
  intro old hold
  have hf := t.controlActions.fits
  rw [h.rows,pairwise_append] at hf
  have hne := action_key_unique (hf.2.2 old (Table.lookup_mem actionKey hold) row
    (mem_singleton_self row))
  refine hne ((Table.lookup_key actionKey hold).trans ?_)
  rw [actionKey,h.recorded.threadId,h.recorded.idempotencyKey]

/-- A message wrote nothing, or was admitted under its key to the line of a run that may take
it. -/
lemma sendFollowupMessage_cases (h : sendFollowupMessage ou cf ca s tid co gid key dw =
      .ok (t,oc)) :
    t = s ∨ ∃ th rq qu row, getThread s tid = some th ∧
      (canSendFollowup ou th.status (parkedPause s th)).allowed = true ∧
      rq.idempotencyKey = key.text ∧ ContinuationQueue.Admits s rq qu t row := by
  unfold sendFollowupMessage at h
  split at h
  · cases h
    exact .inl rfl
  rename_i th ht
  dsimp only at h
  split at h
  · cases h
    exact .inl rfl
  rename_i hel
  split at h
  · cases h
    exact .inl rfl
  split at h
  · cases h
    exact .inl rfl
  obtain ⟨⟨re,qu⟩,hre,h⟩ := bind_ok.1 h
  have hs : t = (reservedOutcome s re th qu).1 := congrArg Prod.fst (Except.ok.inj h).symm
  unfold reservedOutcome at hs
  split at hs
  · exact .inl hs
  rw [hs]
  rcases reserveQueuedContinuation_ok hre with ⟨-,row,ha⟩ | ⟨-,hsa⟩
  · have hf : getControlActionByIdempotencyKey s tid key.text = none := admits_key_free ha
    rw [hf] at hel
    exact .inr ⟨th,_,qu,row,ht,by simpa using hel,rfl,ha⟩
  · exact .inl hsa

lemma followup_allApart (h : AllApart ou tid s) (hk : isVerbKey ou tid key.text = false)
    (hs : sendFollowupMessage ou cf ca s tid co gid key dw = .ok (t,oc)) : AllApart ou tid t := by
  rcases sendFollowupMessage_cases hs with
    rfl | ⟨th,rq,qu,row,-,-,hre,ha⟩
  · exact h
  intro o ho
  rw [ha.rows] at ho
  rcases mem_append.1 ho with hold | hn
  · exact h o hold
  · rw [mem_singleton.1 hn]
    intro _
    have hrow : row.idempotencyKey = key.text := ha.recorded.idempotencyKey.trans hre
    rw [hrow]
    refine ⟨fun _ => hk,fun hc => ?_⟩
    rw [isVerbKey,decide_eq_true hc] at hk
    cases hk

lemma electCancelAuthority_actions (h : electCancelAuthority ou s cm cl th rk = .ok (el,lo)) :
    el = s ∨ el.controlActions = cm.controlActions := by
  unfold electCancelAuthority at h
  split at h
  · cases h
    exact .inr rfl
  obtain ⟨⟨mo,oc⟩,hm,h⟩ := bind_ok.1 h
  dsimp only at h
  split at h
  · cases h
    exact .inl rfl
  obtain ⟨tr,-,h⟩ := bind_ok.1 h
  obtain ⟨re,hre,h⟩ := bind_ok.1 h
  cases h
  right
  rw [(updateThread_ok hre).1,(electThreadStatus_ok hm).1]

lemma cancelThread_evolves (h : cancelThread ou s tid l now dr ct = .ok (t,an)) :
    s.controlActions.Evolves SameIntention (Apart ou tid) t.controlActions := by
  have hst : s.controlActions.Evolves SameIntention (Apart ou tid) s.controlActions :=
    .refl SameIntention.refl _
  unfold cancelThread at h
  dsimp only at h
  split at h
  · cases h
    exact hst
  obtain ⟨⟨cm,cl⟩,hc,h⟩ := bind_ok.1 h
  have hcl : s.controlActions.Evolves SameIntention (Apart ou tid)
      cm.controlActions :=
    (prepareControlActionClaim_claimStep_new Apart.same_progress hc fun _ _ =>
      ⟨fun hm => (by cases hm),fun _ => ⟨rfl,rfl,rfl⟩⟩).intent.actions
  dsimp only at h
  split at h
  · cases h
    exact hst
  obtain ⟨⟨el,lo⟩,hel,h⟩ := bind_ok.1 h
  have hk : s.controlActions.Evolves SameIntention (Apart ou tid)
      el.controlActions := by
    rcases electCancelAuthority_actions hel with rfl | hs
    · exact hst
    · rw [hs]
      exact hcl
  dsimp only at h
  split at h
  · cases h
    exact hk
  · obtain ⟨co,hco,h⟩ := bind_ok.1 h
    cases h
    rw [finalizeControlActionAcceptance_same hco]
    exact hk

lemma ResponseRow.apart (hd : HexDigest ou.sha256Hex) (h : ResponseRow tid row) :
    Apart ou tid row := by
  have ht : isMessage row = false := by rw [isMessage,h.actionType]; rfl
  rcases h.key with ⟨_,hk,-⟩ | ⟨_,hk⟩ | ⟨_,_,hk⟩
  · exact .of_head hd (by decide) hk ht
  · exact .of_head hd (by decide) hk ht
  · unfold permissionResponseActionKey at hk
    exact .of_head hd (by decide) hk ht

variable {di : ClarificationResolution → String}
lemma respondToClarification_evolves {rid : String} (hd : HexDigest ou.sha256Hex)
    (h : respondToClarification ou di s tid rid rs re dw = .ok (t,an)) :
    s.controlActions.Evolves SameIntention (Apart ou tid) t.controlActions :=
  (respondToClarification_step Apart.same_intention (fun row ht hk =>
    .of_head hd (by decide) hk (by rw [isMessage,ht]; rfl)) h).actions

end

variable {fp : ActionPayload → String} {it : Instant}

section
variable {s t : Store}

def NotFromMessage (s : Store) (outcome : ControlActionOutcome) : Prop :=
  ∀ row ∈ s.controlActions.rows, isMessage row = true → outcome.actionId ≠ some row.id

lemma notFromMessage_none (h : oc.actionId = none) : NotFromMessage s oc := by
  intro row _ _ hs
  rw [h] at hs
  cases hs

lemma notFromMessage_row (hid : oc.actionId = some ac.id)
    (hme : ac ∈ s.controlActions.rows) (ht : isMessage ac = false) :
    NotFromMessage s oc := by
  intro row hrow hm hs
  have hs' : ac.id = row.id := Option.some.inj (hid.symm.trans hs)
  have heq : row = ac := Table.eq_of_not_fits hrow hme (fun hf => hf.1 hs'.symm) fun hf => hf.1 hs'
  rw [heq,ht] at hm
  cases hm

lemma notFromMessage_evolves
    (hst : s.controlActions.Evolves SameIntention (fun _ => True) t.controlActions)
    (h : NotFromMessage t oc) : NotFromMessage s oc := by
  intro row hrow hm
  obtain ⟨la,hl,hs⟩ := hst.kept row hrow
  rw [← hs.id]
  refine h la hl ?_
  rw [isMessage,hs.actionType]
  exact hm

lemma createControlAction_notFromMessage (h : createControlAction s ar dr = .ok (t,ac))
    (ht : ar.actionType ≠ .messageFollowupRequested) (hid : oc.actionId = some ac.id) : NotFromMessage s oc := by
  obtain ⟨hrow,-,-,-,hi⟩ := createControlAction_ok h
  refine notFromMessage_evolves (.insert SameIntention.refl trivial hi)
    (notFromMessage_row hid ((Table.mem_of_insert hi).2 (.inr rfl)) ?_)
  rw [hrow]
  exact decide_eq_false ht

lemma claim_not_message (h : prepareControlActionClaim fp s rq it dr tk = .ok (t,cl))
    (ht : rq.actionType ≠ .messageFollowupRequested)
    (hf : ∀ row, getControlActionByIdempotencyKey s rq.threadId rq.idempotencyKey =
      some row → isMessage row = false) (hid : oc.actionId = some cl.actionId) : NotFromMessage s oc := by
  obtain ⟨st⟩ := prepareControlActionClaim_stages h
  obtain ⟨hold,hn,-⟩ := reserveControlAction_ok st.reserves
  rw [st.actionId] at hid
  cases hc : st.reservation.created with
  | false =>
    have hl := (hold hc).2
    exact notFromMessage_row hid (Table.lookup_mem actionKey hl) (hf _ hl)
  | true => exact createControlAction_notFromMessage (hn hc).2 ht hid

lemma claim_mismatch_iff (h : prepareControlActionClaim fp s rq it dr tk = .ok (t,cl)) :
    cl.payloadMatches = false ↔
      ∃ row, getControlActionByIdempotencyKey s rq.threadId rq.idempotencyKey = some row ∧
        ¬ (row.actionType = rq.actionType ∧ row.requestId = rq.requestId ∧
          row.payload = rq.payload) := by
  obtain ⟨st⟩ := prepareControlActionClaim_stages h
  rw [st.payloadMatches,← Bool.not_eq_true,reserveControlAction_matches_iff st.reserves, not_forall]
  exact exists_congr fun row => Classical.not_imp

lemma canCancel_reason (su : ThreadStatus) : (canCancel ou su).reason ≠ some cancelKeyConflict := by
  unfold canCancel
  split_ifs
  · simp
  · intro hs
    have ht := Option.some.inj hs
    rw [String.append_assoc] at ht
    exact append_ne (b := "Idempotency") (by decide) _
      " key is already bound to a different action" ht

lemma cancelPreflight_detail {oc : CancelOutcome} (h : cancelPreflight ou s tid now = .error oc) :
    oc.errorDetail ≠ some cancelKeyConflict := by
  unfold cancelPreflight at h
  split at h
  · cases h
    simp [cancelKeyConflict]
  dsimp only at h
  split at h
  · cases h
    exact canCancel_reason _
  split at h
  · cases h
    simp [cancelKeyConflict]
  split at h
  · cases h
    simp [cancelKeyConflict]
  · cases h

lemma lostCancelElection_detail (ec : ThreadStatusElectionOutcome) :
    (lostCancelElection ou s cl th rk ec).errorDetail ≠ some cancelKeyConflict := by
  have hc : ∀ su, (cancelElectionConflict (canCancel ou su)).2 ≠ some cancelKeyConflict := by
    intro su
    unfold cancelElectionConflict
    split_ifs
    · simp
    · simp [cancelKeyConflict]
    · exact canCancel_reason su
  cases ec with
  | notFound | receiptMismatch => simp [lostCancelElection,cancelKeyConflict]
  | won | lost => exact hc _

lemma electCancelAuthority_detail {oc : CancelOutcome} (h : electCancelAuthority ou s cm cl th rk =
    .ok (el,some oc)) : oc.errorDetail ≠ some cancelKeyConflict := by
  unfold electCancelAuthority at h
  split at h
  · cases h
  obtain ⟨⟨mo,ec⟩,-,h⟩ := bind_ok.1 h
  dsimp only at h
  split at h
  · cases h
    exact lostCancelElection_detail ec
  · obtain ⟨tr,-,h⟩ := bind_ok.1 h
    obtain ⟨re,-,h⟩ := bind_ok.1 h
    cases h

lemma existingCancelClaim_detail {oc : CancelOutcome} (hb : cl.payloadMatches = true)
    (h : existingCancelClaim s cl th rk = some oc) :
    oc.errorDetail ≠ some cancelKeyConflict := by
  unfold existingCancelClaim at h
  rw [hb,if_neg (by simp)] at h
  split at h
  · split at h
    · cases h
      simp [cancelKeyConflict]
    · split at h <;> cases h <;> simp [cancelKeyConflict]
  · cases h

lemma cancelThread_conflict
    {oc : CancelOutcome}
    (h : cancelThread ou s tid l now dr ct = .ok (t,.settled oc))
    (hco : oc.errorDetail = some cancelKeyConflict) :
    ∃ row, getControlActionByIdempotencyKey s tid
      (defaultCancelKey ou.sha256Hex tid) = some row ∧ ¬ CancelRow tid row := by
  unfold cancelThread at h
  dsimp only at h
  split at h
  · rename_i hp
    cases h
    exact absurd hco (cancelPreflight_detail hp)
  obtain ⟨⟨cm,cl⟩,hcl,h⟩ := bind_ok.1 h
  dsimp only at h
  split at h
  · rename_i hex
    cases h
    cases hb : cl.payloadMatches with
    | false =>
      obtain ⟨row,hrow,ho⟩ := (claim_mismatch_iff hcl).1 hb
      exact ⟨row,hrow,fun hc => ho ⟨hc.actionType,hc.requestId,hc.payload⟩⟩
    | true => exact absurd hco (existingCancelClaim_detail hb hex)
  obtain ⟨⟨el,lo⟩,hel,h⟩ := bind_ok.1 h
  dsimp only at h
  split at h
  · cases h
    exact absurd hco (electCancelAuthority_detail hel)
  · obtain ⟨co,-,h⟩ := bind_ok.1 h
    cases h

lemma respondToPermission_told (ha : AllApart ou tid s) (hfo : dw.followon = .ok au)
    (h : respondToPermission ou s tid rs held uc dw = .ok (t,.settled oc)) :
    NotFromMessage s oc ∧ (oc.failureType = some .conflict →
      ∃ gn row, getControlActionByIdempotencyKey s tid
        (permissionResponseActionKey rs.requestId gn) = some row ∧ isMessage row = false) := by
  unfold respondToPermission at h
  obtain ⟨⟨gu,ah⟩,hau,hre⟩ := bind_ok.1 h
  cases authorizePermissionResponse_guarded hau with
  | refused _ hn hp =>
    cases hre
    exact ⟨notFromMessage_none hn,fun hc => (hp hc).elim⟩
  | replayed hex _ hid hp =>
    cases hre
    exact ⟨notFromMessage_row hid (Table.lookup_mem actionKey hex)
      (Apart.found ha (isVerbKey_rejection _) hex),
      fun hc => (hp hc).elim⟩
  | journaled hcr hrow _ hid hp =>
    cases hre
    refine ⟨createControlAction_notFromMessage hcr ?_ hid,fun hc => (hp hc).elim⟩
    have ht := hrow.actionType
    rw [(createControlAction_ok hcr).1] at ht
    exact fun hm => nomatch ht.symm.trans hm
  | authorized hru =>
    subst hru
    have hf : ∀ gn row, getControlActionByIdempotencyKey s _
        (permissionResponseActionKey rs.requestId gn) = some row →
        isMessage row = false := fun gn row hrow =>
      Apart.found ha (isVerbKey_response _ _) hrow
    cases recordPermissionTransition_transitioned hre with
    | refused href => cases hfo.symm.trans href
    | unclaimed _ hcl _ hid hb =>
      constructor
      · rcases hid with ⟨hn,-⟩ | ⟨hs,-⟩
        · exact notFromMessage_none hn
        · exact claim_not_message hcl nofun (hf _) hs
      · intro hc
        obtain ⟨row,hrow,-⟩ := (claim_mismatch_iff hcl).1 (hb hc)
        exact ⟨_,row,hrow,hf _ row hrow⟩

variable {di : ClarificationResolution → String}

lemma claimedActionResult_told (h : claimedActionResult ac cl pm su = some oc) :
    oc.actionId = some ac.id ∧
      (oc.errorDetail = some resolutionConflict → cl.payloadMatches = false) := by
  unfold claimedActionResult at h
  split at h
  · rename_i hb
    cases h
    exact ⟨rfl,fun _ => Bool.not_eq_true _ ▸ hb⟩
  split_ifs at h <;> cases h <;>
    refine ⟨rfl,fun hs => ?_⟩ <;> simp [refusedResult,actionResult,resolutionConflict] at hs

lemma claimAndDispatch_told (hap : AllApart ou th.id s) (hf : dw.followon = .ok au)
    (h : claimAndDispatch ou s th rid rs pm dw = .ok (t,.settled oc)) :
    NotFromMessage s oc ∧ (oc.errorDetail = some resolutionConflict →
      ∃ row, getControlActionByIdempotencyKey s th.id
        (clarificationResponseActionKey rid) = some row) := by
  unfold claimAndDispatch at h
  rw [hf] at h
  obtain ⟨⟨cm,cl⟩,hc,h⟩ := bind_ok.1 h
  dsimp only at h
  split at h
  · cases h
    exact ⟨notFromMessage_none rfl,fun hs => by simp [resolutionConflict] at hs⟩
  split at h
  · cases h
  rename_i ac ha
  have hid : ac.id = cl.actionId := Table.lookup_key ControlActionModel.id ha
  split at h
  · rename_i tl hto
    cases h
    obtain ⟨ht,hco⟩ := claimedActionResult_told hto
    rw [hid] at ht
    refine ⟨claim_not_message hc nofun (fun row hrow => Apart.found hap
      (isVerbKey_clarification rid) hrow) ht,fun hs => ?_⟩
    obtain ⟨row,hrow,-⟩ := (claim_mismatch_iff hc).1 (hco hs)
    exact ⟨row,hrow⟩
  · obtain ⟨co,-,h⟩ := bind_ok.1 h
    cases h

lemma refreshed_id (s : Store) (ac : ControlActionModel) : (refreshed s ac).id = ac.id := by
  unfold refreshed
  cases hf : getControlAction s ac.id with
  | none => rfl
  | some fo => exact Table.lookup_key ControlActionModel.id hf

lemma replayExistingAction_told {fp : String} (h : replayExistingAction di s ex fp re pm now =
      .ok (t,some oc)) : oc.actionId = some ex.id := by
  unfold replayExistingAction at h
  split at h
  · cases h
    rfl
  obtain ⟨⟨settled,ap⟩,-,h⟩ := bind_ok.1 h
  dsimp only at h
  split_ifs at h <;> cases h
  · exact congrArg some (refreshed_id _ ex)
  · rfl
  · rfl

lemma respondToClarification_told (ha : AllApart ou tid s) (hp : re.parked = some rq)
    (hv : ValidFor rq rs) (hf : dw.followon = .ok au)
    (h : respondToClarification ou di s tid rq.requestId rs re dw = .ok (t,.settled oc)) :
    NotFromMessage s oc ∧ (oc.errorDetail = some resolutionConflict →
      ∃ row, getControlActionByIdempotencyKey s tid
        (clarificationResponseActionKey rq.requestId) = some row ∧ isMessage row = false) := by
  cases hru : getThread s tid with
  | none =>
    unfold respondToClarification at h
    rw [hru] at h
    cases h
    exact ⟨notFromMessage_none rfl,fun hs => by
      simp [runNotFound,resolutionConflict] at hs⟩
  | some th =>
    obtain rfl : th.id = tid := Table.lookup_key ThreadModel.id hru
    cases hrow : getControlActionByIdempotencyKey s th.id
        (clarificationResponseActionKey rq.requestId) with
    | none =>
      rw [respondToClarification_free ou di dw hru hp hv hrow] at h
      obtain ⟨hn,hc⟩ := claimAndDispatch_told ha hf h
      refine ⟨hn,fun hs => ?_⟩
      obtain ⟨row,hfo⟩ := hc hs
      cases hrow.symm.trans hfo
    | some row =>
      have ht : isMessage row = false := Apart.found ha (isVerbKey_clarification rq.requestId) hrow
      refine ⟨?_,fun _ => ⟨row,rfl,ht⟩⟩
      rw [respondToClarification_existing ou di dw hru hp hv hrow] at h
      obtain ⟨⟨replayed,tl⟩,hre,h⟩ := bind_ok.1 h
      have hst : s.controlActions.Evolves SameIntention (Apart ou th.id)
          replayed.controlActions := (replayExistingAction_step Apart.same_intention hre).actions
      cases tl with
      | some tl =>
        cases h
        exact notFromMessage_row (replayExistingAction_told hre)
          (Table.lookup_mem actionKey hrow) ht
      | none =>
        exact notFromMessage_evolves (replayExistingAction_step (fun _ _ => trivial) hre).actions
          (claimAndDispatch_told (ha.evolves hst) hf h).1

end

/-- Other work on the store: it carries on the rows of the run or adds rows, none of them a
message, and only a cancellation under the key of one. -/
def OtherWork (outside : Outside) (threadId : String) (s t : Store) : Prop :=
  ∀ row ∈ t.controlActions.rows, row.threadId = threadId →
    (∃ old ∈ s.controlActions.rows, SameIntention old row) ∨ isMessage row = false ∧
        (row.idempotencyKey = defaultCancelKey outside.sha256Hex threadId → CancelRow threadId row)

inductive Label
  | followup (content agentId : String) (key : ClientKey)
  | cancel (label : Option String)
  | permission (response : PermissionInput)
  | clarification (requestId : String) (resolution : ClarificationResolution)
  | elsewhere

/-- The message, if it is one, carries no key of another verb. -/
def Label.clear (outside : Outside) (threadId : String) : Label → Bool
  | .followup _ _ key => !isVerbKey outside threadId key.text
  | _ => true

section
variable (outside : Outside) (digest : ClarificationResolution → String)
variable (config : ContinuationConfig) (createdAt : Instant) (threadId : String)

inductive Move : Store → Label → Store → Prop
  | followup {s t : Store} {content agentId : String} {key : ClientKey} {drawing : Drawing}
      {outcome : MessageOutcome}
      (h : sendFollowupMessage outside config createdAt s threadId content agentId key drawing =
        .ok (t,outcome)) :
      Move s (.followup content agentId key) t
  | cancel {s t : Store} {label : Option String} {now : Instant} {drawn : Drawn}
      {claimToken : String} {answer : CancelAnswer}
      (h : cancelThread outside s threadId label now drawn claimToken = .ok (t,answer)) :
      Move s (.cancel label) t
  | permission {s t : Store} {response : PermissionInput}
      {held : Option PermissionOptions.ProjectedInterrupt} {unconfirmed : Bool}
      {drawing : Drawing} {answer : Answer}
      (h : respondToPermission outside s threadId response held unconfirmed drawing =
        .ok (t,answer)) :
      Move s (.permission response) t
  | clarification {s t : Store} {requestId : String} {resolution : ClarificationResolution}
      {reading : CheckpointReading} {drawing : Drawing} {answer : ClarificationAnswer}
      (h : respondToClarification outside digest s threadId requestId resolution reading
        drawing = .ok (t,answer)) :
      Move s (.clarification requestId resolution) t
  | elsewhere {s t : Store} (h : OtherWork outside threadId s t) : Move s .elsewhere t

/-- The other verbs of the run do as if its messages had no keys of theirs. A cancellation
without a key is not refused as a key conflict. A response, and a resolution the parked
questionnaire admits, is not answered from a message, and is refused as a conflict only
over a row that is none. -/
structure Undisturbed (s : Store) : Prop where
  cancel : ∀ now drawn claimToken t outcome,
    cancelThread outside s threadId none now drawn claimToken = .ok (t,.settled outcome) →
    outcome.errorDetail ≠ some cancelKeyConflict
  permission : ∀ response held unconfirmed drawing authority t outcome,
    drawing.followon = .ok authority →
    respondToPermission outside s threadId response held unconfirmed drawing =
      .ok (t,.settled outcome) →
    NotFromMessage s outcome ∧ (outcome.failureType = some .conflict →
      ∃ generation row, getControlActionByIdempotencyKey s threadId
        (permissionResponseActionKey response.requestId generation) = some row ∧
          isMessage row = false)
  clarification : ∀ request resolution reading drawing authority t outcome,
    reading.parked = some request → ValidFor request resolution →
    drawing.followon = .ok authority →
    respondToClarification outside digest s threadId request.requestId resolution reading
      drawing = .ok (t,.settled outcome) →
    NotFromMessage s outcome ∧ (outcome.errorDetail = some resolutionConflict →
      ∃ row, getControlActionByIdempotencyKey s threadId
        (clarificationResponseActionKey request.requestId) = some row ∧
          isMessage row = false)

end

section
variable {outside ou : Outside} {digest di : ClarificationResolution → String}
variable {config cf : ContinuationConfig} {createdAt ca : Instant} {threadId tid : String}
variable {s t : Store} {label l : Label} {labels ls : List Label}

lemma OtherWork.allApart (h : OtherWork ou tid s t)
    (ha : AllApart ou tid s) : AllApart ou tid t := by
  intro row hrow hru
  rcases h row hrow hru with ⟨old,hold,hs⟩ | ⟨ht,hc⟩
  · exact (ha old hold).same_intention hs hru
  · refine ⟨fun hm => ?_,hc⟩
    rw [ht] at hm
    cases hm

lemma admitRun_otherWork (hd : HexDigest ou.sha256Hex) {ri : String}
    (h : admitRun s tid ri pl dl dr = .ok t) :
    OtherWork ou tid s t := by
  unfold admitRun at h
  split at h
  · cases h
  split at h
  · cases h
  rename_i cr hc
  split at h
  · cases h
  rename_i jo ac ha
  cases h
  obtain ⟨hrow,-,-,-,hi⟩ := createControlAction_ok ha
  have hac : cr.controlActions = s.controlActions := (createThread_ok hc).1
  intro row hm _
  rcases (Table.mem_of_insert hi).1 hm with hold | rfl
  · exact .inl ⟨row,hac ▸ hold,SameIntention.refl row⟩
  · rw [hrow]
    exact .inr ⟨rfl,fun hk => absurd hk (hd.ne (by decide) tid _)⟩

/-- One step of a history keeps the rows apart, if its message has a clear key. -/
lemma move_allApart (hd : HexDigest ou.sha256Hex) (hc : l.clear ou tid = true)
    (hm : Move ou di cf ca tid s l t)
    (ha : AllApart ou tid s) : AllApart ou tid t := by
  cases hm with
  | followup h => exact followup_allApart ha (Bool.not_eq_true' _ ▸ hc) h
  | cancel h => exact ha.evolves (cancelThread_evolves h)
  | permission h =>
    exact ha.evolves (respondToPermission_evolves Apart.same_progress
      (fun row hrow => ResponseRow.apart hd hrow) h)
  | clarification h => exact ha.evolves (respondToClarification_evolves hd h)
  | elsewhere h => exact h.allApart ha

lemma run_allApart (hd : HexDigest ou.sha256Hex) (hru : Run (Move ou di cf ca tid) s ls t)
    (hc : ∀ l ∈ ls, l.clear ou tid = true)
    (ha : AllApart ou tid s) : AllApart ou tid t := by
  induction hru with
  | done s => exact ha
  | step hm _ ih =>
    exact ih (fun l hl => hc l (.tail _ hl))
      (move_allApart hd (hc _ (.head _)) hm ha)

lemma AllApart.undisturbed (ha : AllApart ou tid s) : Undisturbed ou di tid s where
  cancel := by
    intro now dr ct t oc h hc
    obtain ⟨row,hrow,ho⟩ := cancelThread_conflict h hc
    obtain ⟨hru,hk⟩ := Prod.mk.inj (Table.lookup_key actionKey hrow)
    exact ho ((ha row (Table.lookup_mem actionKey hrow) hru).2 hk)
  permission := fun _ _ _ _ _ _ _ hf h => respondToPermission_told ha hf h
  clarification := fun _ _ _ _ _ _ _ hp hv hf h =>
    respondToClarification_told ha hp hv hf h

/-- In every history of a run whose messages carry no key of another verb, the other verbs
are undisturbed. -/
theorem followups_undisturbed (hdigest : HexDigest outside.sha256Hex)
    (hstart : ∀ row ∈ s.controlActions.rows, row.threadId ≠ threadId)
    (hrun : Run (Move outside digest config createdAt threadId) s labels t)
    (hclear : ∀ label ∈ labels, label.clear outside threadId = true) :
    Undisturbed outside digest threadId t := by
  have ha : AllApart outside threadId s := fun row hrow hs => absurd hs (hstart row hrow)
  exact (run_allApart hdigest hrun hclear ha).undisturbed

end

def digestOutside : Outside := ⟨fun _ => "digest",fun _ => "digest",id⟩

lemma digestOutside_hex : HexDigest digestOutside.sha256Hex := by
  intro _
  show ':' ∉ "digest".toList
  decide

def messaged (key : ClientKey) : Except Raised (Store × MessageOutcome) := do
  let s ← admittedRun
  sendFollowupMessage digestOutside {} 0 s "run-1" "go on" "agent-1" key
    (drawingAt second "action-2" "dispatch-2")

def plainKey : ClientKey := ⟨"key-1",by decide,by decide⟩

theorem followups_undisturbed_plain_key :
    ∃ s t outcome, admittedRun = .ok s ∧ messaged plainKey = .ok (t,outcome) ∧
      outcome.accepted = true ∧ t.controlActions.rows.any isMessage = true ∧
      Undisturbed digestOutside plainDigest "run-1" t := by
  have hsen : ∃ s t outcome, admittedRun = .ok s ∧ sendFollowupMessage digestOutside {} 0 s
      "run-1" "go on" "agent-1" plainKey (drawingAt second "action-2" "dispatch-2") =
        .ok (t,outcome) ∧ outcome.accepted = true ∧
          t.controlActions.rows.any isMessage = true := ⟨_,_,_,rfl,rfl,rfl,rfl⟩
  obtain ⟨s,t,outcome,hs,hse,ha,hw⟩ := hsen
  refine ⟨s,t,outcome,hs,?_,ha,hw,?_⟩
  · unfold messaged
    rw [hs]
    exact hse
  · exact followups_undisturbed (s := Store.empty) digestOutside_hex
      (fun _ hrow => (not_mem_nil hrow).elim)
      (.step (.elsewhere (admitRun_otherWork digestOutside_hex hs)) (.single (.followup hse)))
      (by decide)

/-- A message under a key of another verb disturbs it. Under the digest of the run it
makes its cancellation a conflict; under the key of an ask, the response to it; under the key
of a questionnaire, its resolution. Under the key of the refusal of a response, the response
is reported accepted from the message, and nothing is dispatched. -/
theorem verb_key_disturbs :
    (∃ s sent t outcome, messaged ⟨"digest",by decide,by decide⟩ = .ok (s,sent) ∧
      sent.accepted = true ∧
      cancelThread digestOutside s "run-1" none (2 * second) ⟨"action-3","dispatch-3"⟩ "token-3" =
        .ok (t,.settled outcome) ∧
      outcome.errorDetail = some cancelKeyConflict) ∧
    (∃ s sent t outcome,
      messaged ⟨"permission-response:request-1",by decide,by decide⟩ = .ok (s,sent) ∧
      sent.accepted = true ∧
      respondToPermission digestOutside s "run-1" goAhead
        (heldInterrupt (some [PermissionOptions.goOrStop]) "request-1") false
        (drawingAt (2 * second) "action-3" "dispatch-3") = .ok (t,.settled outcome) ∧
      outcome.failureType = some .conflict) ∧
    (∃ s sent t outcome,
      messaged ⟨"permission-rejection:digest",by decide,by decide⟩ = .ok (s,sent) ∧
      sent.accepted = true ∧
      respondToPermission digestOutside s "run-1" goAhead
        (heldInterrupt (some [PermissionOptions.goOrStop]) "request-1") false
        (drawingAt (2 * second) "action-3" "dispatch-3") = .ok (t,.settled outcome) ∧
      outcome.accepted = true ∧ outcome.dispatched = false ∧
      outcome.actionId = sent.actionId) ∧
    ∃ s sent t outcome,
      messaged ⟨"clarification-response:clarify-run-1",by decide,by decide⟩ = .ok (s,sent) ∧
      sent.accepted = true ∧
      respondToClarification digestOutside plainDigest s "run-1" "clarify-run-1" wholeScope
        (ResearchChannels.reading ⟨some scopeRequest,[]⟩)
        (drawingAt (2 * second) "action-3" "dispatch-3") = .ok (t,.settled outcome) ∧
      outcome.errorDetail = some resolutionConflict :=
  ⟨⟨_,_,_,_,rfl,rfl,rfl,rfl⟩,⟨_,_,_,_,rfl,rfl,rfl,rfl⟩,⟨_,_,_,_,rfl,rfl,rfl,rfl,rfl,rfl⟩,
    ⟨_,_,_,_,rfl,rfl,rfl,rfl⟩⟩

end VaultspecA2A.FollowupMessages
