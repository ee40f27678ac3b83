import VaultspecA2A.PermissionResponses

/-!
# The asks of one permission request

A run may ask one permission request many times. The checkpoint says which ask it
holds; a response reads the checkpoint, then commits in a transaction of its own, and
the transaction infers from the journal which ask it answers: the first whose answer
has not been applied. Parks, responses, failed deliveries, frames and receipts
interleave in any order, together with work elsewhere that loses no journal row.

The log of accepted answers is not part of the program. It records, for each response
that had read a held ask and was accepted, the ask it had read, the journal row it was
accepted under and the answer it gave.
-/
namespace VaultspecA2A.PermissionAsks
open Runs Tables ThreadLifecycle Database ControlActions ActionLeases ActionClaims List
open PermissionOptions IdempotencyKeys ThreadElections PermissionJournal PermissionResponses

/-- A row under the key of a refusal is a refusal. -/
def RefusalRow (threadId : String) (row : ControlActionModel) : Prop :=
  ∀ key, row.threadId = threadId → row.idempotencyKey = permissionRejectionActionKey key →
    row.resultStatus = .rejectedInvalidState ∧ readAcceptedInput row = none

def JournalStep (threadId : String) (s t : Store) : Prop :=
  s.controlActions.Evolves SameIntention (RefusalRow threadId) t.controlActions

section
variable {threadId tid : String} {s t u : Store} {a b : ControlActionModel}

lemma RefusalRow.of_key (h : ∀ key, a.idempotencyKey ≠ permissionRejectionActionKey key) :
    RefusalRow tid a := fun key _ hk => (h key hk).elim

lemma RefusalRow.same_progress (h : SameProgress a b) (ha : RefusalRow tid a) :
    RefusalRow tid b := by
  intro key ht hk
  rw [h.threadId] at ht
  rw [h.idempotencyKey] at hk
  obtain ⟨hs,hre⟩ := ha key ht hk
  refine ⟨h.resultStatus.trans hs,?_⟩
  rw [readAcceptedInput,h.payload]
  exact hre

lemma JournalStep.refl (s : Store) : JournalStep tid s s := Table.Evolves.refl SameIntention.refl _

lemma JournalStep.trans (h : JournalStep tid s t) (g : JournalStep tid t u) :
    JournalStep tid s u := Table.Evolves.trans (fun h g => h.trans g) h g

lemma JournalStep.of_eq (h : t.controlActions = s.controlActions) : JournalStep tid s t := by
  rw [JournalStep,h]
  exact Table.Evolves.refl SameIntention.refl _

lemma JournalStep.of_claimStep (h : ClaimStep (RefusalRow tid) s t) :
    JournalStep tid s t := h.actions.weaken fun _ _ hs => hs.toSameIntention

/-! The keys the gateway derives are told apart by their first letters. -/

lemma response_key_ne (rid : String) (gn : Generation) (key : String) :
    permissionResponseActionKey rid gn ≠ permissionRejectionActionKey key :=
  append_ne (by decide) _ _

lemma request_key_ne (rid key : String) :
    permissionRequestActionKey rid ≠ permissionRejectionActionKey key :=
  append_ne (by decide) _ _

lemma duplicate_key_ne (rk key : String) :
    permissionDuplicateActionKey rk ≠ permissionRejectionActionKey key :=
  append_ne (by decide) _ _

lemma responseAppliedKey_ne (h : responseAppliedKey rk = .ok ap) (key : String) :
    ap ≠ permissionRejectionActionKey key := by
  unfold responseAppliedKey permissionResponseAppliedActionKey at h
  split_ifs at h
  cases h
  exact append_ne (by decide) _ _

/-! Every handler is a journal step. -/

lemma createControlAction_journalStep (h : createControlAction s ar dr = .ok (t,row))
    (hrow : RefusalRow tid (newRow ar dr)) : JournalStep tid s t := by
  obtain ⟨hn,-,-,-,hi⟩ := createControlAction_ok h
  exact Table.Evolves.insert SameIntention.refl (hn ▸ hrow) hi

lemma markControlActionApplied_journalStep (h : markControlActionApplied s aid now = .ok t)
    (hn : ∀ row ∈ s.controlActions.rows, row.id = aid →
      (∀ key, row.idempotencyKey ≠ permissionRejectionActionKey key) ∨
        readAcceptedInput row ≠ none) : JournalStep tid s t := by
  have hs : ∀ a, SameIntention a (settleApplied now .applied a) :=
    fun a => ⟨rfl,rfl,rfl,rfl,rfl,rfl,rfl⟩
  refine Table.Evolves.updateWhere SameIntention.refl hs ?_ (markControlActionApplied_ok h).2
  intro row hm hid href key ht hk
  rcases hn row hm (by simpa using hid) with hne | hre
  · exact (hne key hk).elim
  · exact (hre (href key ht hk).2).elim

lemma updateRequests_journalStep (h : updateRequests s wa vs = .ok t) : JournalStep tid s t :=
  .of_eq (by rw [(updateRequests_ok h).1])

lemma persistPermissionRequest_journalStep
    (h : persistPermissionRequest s run fr pa dr now = .ok t) :
    JournalStep tid s t := by
  cases persistPermissionRequest_persisted h with
  | missing => exact .refl _
  | stands _ h =>
    split at h
    · exact updateRequests_journalStep h
    · cases h
      exact .refl _
  | @filed _ reserved marked _ _ ac _ hk hc hm hre hrec =>
    have hne : ∀ key, (newRow _ dr).idempotencyKey ≠ permissionRejectionActionKey key :=
      fun key => hk.trans_ne (request_key_ne _ key)
    have hma : JournalStep tid reserved marked := by
      refine markControlActionApplied_journalStep hm fun row hme hid => .inl ?_
      have hrow : row = ac := Option.some.inj <|
        (Table.lookup_of_mem ControlActionModel.id action_id_unique hme).symm.trans
          (hid ▸ (createControlAction_found hc).1)
      rw [hrow,(createControlAction_ok hc).1]
      exact hne
    have hs : JournalStep tid s reserved := createControlAction_journalStep hc (.of_key hne)
    exact hs.trans <| hma.trans <| (updateRequests_journalStep hre).trans <|
      .of_eq (by rw [(recordPermissionRequest_ok hrec).1])

lemma handlePermissionEvent_journalStep (h : handlePermissionEvent s run fr pr dr now = .ok t) :
    JournalStep tid s t := by
  unfold handlePermissionEvent at h
  split at h
  · cases h
    exact .refl _
  · exact persistPermissionRequest_journalStep h

lemma markAccepted_journalStep (h : markControlActionApplied s ac.id now = .ok t)
    (hm : ac ∈ s.controlActions.rows) (hre : readAcceptedInput ac ≠ none) :
    JournalStep tid s t := by
  refine markControlActionApplied_journalStep h fun row hrow hid => .inr ?_
  have hs : row = ac := Table.eq_of_not_fits hrow hm (fun hf => hf.1 hid) fun hf => hf.1 hid.symm
  rw [hs]
  exact hre

lemma settlePermission_journalStep (h : settlePermission s su rid oid pe dr now = .ok t)
    (hme : su ∈ s.controlActions.rows) (hre : readAcceptedInput su ≠ none) :
    JournalStep tid s t := by
  obtain ⟨st,closed,ma,ar,recorded,row,-,hc,hm,hk,hrec,hl,-⟩ := settlePermission_ok h
  have hma : JournalStep tid closed ma := by
    split at hm
    · have hs : closed.controlActions = s.controlActions := by rw [(updateRequests_ok hc).1]
      exact markAccepted_journalStep hm (hs ▸ hme) hre
    · cases hm
      exact .refl _
  have hreco : JournalStep tid ma recorded :=
    createControlAction_journalStep hrec (.of_key (responseAppliedKey_ne hk))
  exact (updateRequests_journalStep hc).trans <| hma.trans <| hreco.trans (.of_eq (by rw [hl]))

lemma applyPermissionResolution_cases (h : applyPermissionResolution s su dr now = .ok t) :
    t = s ∨ ∃ rid oid pe, su.requestId = some rid ∧
      settlePermission s su rid oid pe dr now = .ok t := by
  unfold applyPermissionResolution at h
  split at h
  · cases h
    exact .inl rfl
  rename_i rid hrid
  split at h
  · cases h
    exact .inl rfl
  split at h
  · cases h
    exact .inl rfl
  split at h
  · cases h
    exact .inl rfl
  · exact .inr ⟨rid,_,_,hrid,h⟩

lemma provenAction_ok (h : provenAction fp s tid ap = some ac) :
    ac ∈ s.controlActions.rows ∧ ac.threadId = tid ∧ ac.appliedAt = none ∧
      readAcceptedInput ac ≠ none := by
  unfold provenAction at h
  split at h
  · rename_i fo th hf _
    split_ifs at h with hp
    cases h
    have hk := Table.lookup_key (fun a : ControlActionModel => (a.threadId,a.dispatchId)) hf
    exact ⟨Table.lookup_mem _ hf,(Prod.mk.inj hk).1,Option.isNone_iff_eq_none.1 hp.1,
      Option.isSome_iff_ne_none.1 (validateCurrentGraphReceipt_names hp.2).2.2.2⟩
  · cases h

def unownedResume (s : Store) (_ : ControlActionModel) : Except Raised (Store × Bool) :=
  .ok (s,false)

lemma handleProgressEvent_journalStep (h : handleProgressEvent fp unownedResume s run ap ic dr now =
    .ok t) : JournalStep tid s t := by
  unfold handleProgressEvent at h
  split at h
  swap
  · cases h
    exact .refl _
  unfold commitProvenApplication at h
  split at h
  · cases h
    exact .refl _
  rename_i ac hp
  obtain ⟨hm,-,-,hre⟩ := provenAction_ok hp
  split at h
  · obtain ⟨ma,hma,h⟩ := bind_ok.1 h
    obtain ⟨tr,-,h⟩ := bind_ok.1 h
    exact (markAccepted_journalStep hma hm hre).trans (.of_eq (by rw [(updateThread_ok h).1]))
  split at h
  · rcases applyPermissionResolution_cases h with rfl | ⟨_,_,_,-,hs⟩
    · exact .refl _
    · exact settlePermission_journalStep hs hm hre
  · cases h
    exact .refl _

lemma handleReaskedPermissionEvent_journalStep
    (h : handleReaskedPermissionEvent s run ap pr = .ok t) :
    JournalStep tid s t := by
  unfold handleReaskedPermissionEvent at h
  split at h
  · cases h
    exact .refl _
  split at h
  · cases h
    exact .refl _
  · exact updateRequests_journalStep h

/-- A failed delivery gives up the claim and may reset the row of the request. -/
lemma failedPermissionDispatch_ok
    (h : failedPermissionDispatch s run rs cl ft de recorded it = .ok t) :
    ∃ settled re, ClaimStep (RefusalRow tid) s settled ∧
      (re = settled ∨ resetPermissionResponseSubmission settled rs.requestId = .ok re) ∧
      t = { re with threads := t.threads } := by
  unfold failedPermissionDispatch at h
  obtain ⟨⟨settled,di⟩,hs,h⟩ := bind_ok.1 h
  obtain ⟨re,hre,h⟩ := bind_ok.1 h
  refine ⟨settled,re,recordDispatchFailure_claimStep RefusalRow.same_progress hs,?_,?_⟩
  · split at hre
    · exact .inr hre
    · cases hre
      exact .inl rfl
  split at h
  · unfold recordFailedPermissionResume at h
    split at h
    · cases h
      rfl
    split at h
    · exact (updateThread_ok h).1
    obtain ⟨⟨el,oc⟩,hele,h⟩ := bind_ok.1 h
    have hel := (electThreadStatus_ok hele).1
    dsimp only at h
    split at h
    · rw [(updateThread_ok h).1,hel]
    · cases h
      exact hel
  · cases h
    rfl

lemma failedPermissionDispatch_journalStep
    (h : failedPermissionDispatch s run rs cl ft de recorded it = .ok t) :
    JournalStep tid s t := by
  obtain ⟨settled,re,hs,hre,ht⟩ := failedPermissionDispatch_ok h
  refine (JournalStep.of_claimStep hs).trans (.of_eq ?_)
  rw [ht]
  rcases hre with rfl | hre
  · rfl
  · rw [(updateRequests_ok hre).1]

lemma projectSubmission_ok (h : projectSubmission s au rs cl now = .ok t) :
    t.controlActions = s.controlActions ∧
      (∃ su, recordPermissionResponseSubmission s rs.requestId now = .ok su ∧
        t.permissionRequests = su.permissionRequests) ∧
      ∃ e : PermissionLogModel, e.threadId = au.threadRecord.id ∧
        t.permissionLogs = s.permissionLogs ++ [e] := by
  unfold projectSubmission at h
  obtain ⟨su,hsu,h⟩ := bind_ok.1 h
  obtain ⟨st,hs,h⟩ := bind_ok.1 h
  obtain ⟨tr,-,h⟩ := bind_ok.1 h
  have hsub := (updateRequests_ok hsu).1
  obtain ⟨e,he,hst⟩ : ∃ e : PermissionLogModel, e.threadId = au.threadRecord.id ∧
      st = { appendPermissionLog su e with threads := st.threads } := by
    refine ⟨⟨au.threadRecord.id,auditedToolName au.permission,
      decisionVerdict au.permission rs.optionId,some rs.optionId⟩,rfl,?_⟩
    split at hs
    · exact (updateThread_ok hs).1
    · cases hs
      rfl
  rw [(updateThread_ok h).1,hst]
  refine ⟨by rw [hsub]; rfl,⟨su,hsu,rfl⟩,e,he,?_⟩
  rw [hsub]
  rfl

structure SettledRow (threadId : String) (row : ControlActionModel) : Prop where
  threadId : row.threadId = threadId
  actionType : row.actionType = .permissionResponseSubmitted
  key : (∃ key, row.idempotencyKey = permissionRejectionActionKey key ∧
      row.resultStatus = .rejectedInvalidState ∧ readAcceptedInput row = none) ∨
    ∃ key, row.idempotencyKey = permissionDuplicateActionKey key

/-- The ways the guards of a response end. Only a refusal or a duplicate writes anything. -/
inductive Guarded (s : Store) (threadId : String) (response : PermissionInput)
    (held : Option ProjectedInterrupt) (drawn : Drawn) : Store → Authorization → Prop
  | refused {outcome : ControlActionOutcome} : outcome.accepted = false →
      outcome.actionId = none → outcome.failureType ≠ some .conflict →
      Guarded s threadId response held drawn s (.answered outcome)
  | replayed {outcome : ControlActionOutcome} {key : String} {existing : ControlActionModel} :
      getControlActionByIdempotencyKey s threadId (permissionRejectionActionKey key) =
        some existing →
      (existing.resultStatus = .rejectedInvalidState → outcome.accepted = false) →
      outcome.actionId = some existing.id → outcome.failureType ≠ some .conflict →
      Guarded s threadId response held drawn s (.answered outcome)
  | journaled {outcome : ControlActionOutcome} {args : ActionArgs} {row : ControlActionModel}
      {t : Store} : createControlAction s args drawn = .ok (t,row) → SettledRow threadId row →
      (held.isSome = true → outcome.accepted = false) → outcome.actionId = some row.id →
      outcome.failureType ≠ some .conflict →
      Guarded s threadId response held drawn t (.answered outcome)
  | authorized {authorized : AuthorizedPermission} {asks : JournaledAsks} :
      authorized.threadRecord.id = threadId →
      parkedPermission s threadId response.requestId held = some authorized.permission →
      journaledPermissionAsks s threadId response.requestId = some asks →
      authorized.ask = asks.addressed authorized.permission.pending →
      Guarded s threadId response held drawn s (.authorized authorized)

lemma journalRejection_guarded (hru : th.id = tid)
    (h : journalRejection s th rs rk er dr = .ok (t,oc)) :
    Guarded s tid rs held dr t (.answered oc) := by
  unfold journalRejection at h
  obtain ⟨⟨jo,ac⟩,hc,h⟩ := bind_ok.1 h
  cases h
  refine .journaled hc ?_ (fun _ => rfl) rfl nofun
  rw [(createControlAction_ok hc).1]
  exact ⟨hru,rfl,.inl ⟨_,rfl,rfl,rfl⟩⟩

lemma authorizePermissionResponse_guarded (h : authorizePermissionResponse ou s tid rs held uc dr =
    .ok (t,au)) : Guarded s tid rs held dr t au := by
  unfold authorizePermissionResponse at h
  split at h
  · cases h
    exact .refused rfl rfl nofun
  rename_i th ht
  have hru : th.id = tid := Table.lookup_key ThreadModel.id ht
  split at h
  · cases h
    exact .refused rfl rfl nofun
  rename_i pe hp
  split at h
  · cases h
    exact .refused rfl rfl nofun
  dsimp only at h
  split at h
  · cases h
    exact .refused rfl rfl (by simp)
  rename_i asks ha
  split at h
  · rename_i replay hrep
    cases h
    unfold deduplicatePermissionResponse at hrep
    split at hrep
    · rename_i ex hex
      rw [hru] at hex
      split_ifs at hrep with hs <;> cases hrep
      · exact .replayed hex (fun _ => rfl) rfl nofun
      · exact .replayed hex (fun href => (hs href).elim) rfl nofun
    · split_ifs at hrep
      cases hrep
      exact .authorized hru hp ha rfl
  unfold authorizeParkedPermission at h
  split at h
  · rename_i hgo
    have hu : held.isSome = true → False := by
      cases held with
      | none => nofun
      | some it =>
        cases hp
        exact fun _ => hgo rfl
    obtain ⟨⟨re,oc⟩,hre,h⟩ := bind_ok.1 h
    cases h
    unfold refuseUnparkedPermission at hre
    split at hre
    · obtain ⟨⟨jo,ac⟩,hc,hret⟩ := bind_ok.1 hre
      cases hret
      refine .journaled hc ?_ (fun hh => (hu hh).elim) rfl nofun
      rw [(createControlAction_ok hc).1]
      exact ⟨hru,rfl,.inr ⟨_,rfl⟩⟩
    split at hre
    · cases hre
      exact .refused rfl rfl nofun
    · exact journalRejection_guarded hru hre
  split at h
  · cases h
    exact .refused rfl rfl nofun
  split at h
  · cases h
    exact .authorized hru hp ha rfl
  · obtain ⟨⟨re,oc⟩,hre,h⟩ := bind_ok.1 h
    cases h
    exact journalRejection_guarded hru hre

def acceptedAction : Answer → Option String
  | .settled outcome => if outcome.accepted then outcome.actionId else none
  | .dispatching transition => some transition.claim.actionId

structure AnswerRow (threadId : String) (response : PermissionInput) (generation : Generation)
    (actionId : String) (row : ControlActionModel) : Prop where
  id : row.id = actionId
  threadId : row.threadId = threadId
  key : row.idempotencyKey = permissionResponseActionKey response.requestId generation
  answer : ∃ input, row.payload = some (.accepted input) ∧
    input.intent = .response response.optionId response.notes

inductive Transitioned (outside : Outside) (s : Store) (authorized : AuthorizedPermission)
    (response : PermissionInput) (drawing : Drawing) : Store → Answer → Prop
  | refused {outcome : ControlActionOutcome} {refusal : DispatchRefusal} :
      drawing.followon = .error refusal → outcome.accepted = false →
      Transitioned outside s authorized response drawing s (.settled outcome)
  | unclaimed {outcome : ControlActionOutcome} {authority : FollowonAuthority}
      {claim : ControlActionClaim} : drawing.followon = .ok authority →
      prepareControlActionClaim outside.fingerprint s
        (answerClaimRequest authorized response authority drawing) drawing.now drawing.drawn
        drawing.claimToken = .ok (s,claim) →
      (outcome.accepted = true → claim.authorityMatches = true ∧ claim.payloadMatches = true) →
      (outcome.actionId = none ∧ outcome.accepted = false ∨
        outcome.actionId = some claim.actionId ∧ outcome.failureType ≠ some .conflict) →
      (outcome.failureType = some .conflict → claim.payloadMatches = false) →
      Transitioned outside s authorized response drawing s (.settled outcome)
  | dispatched {authority : FollowonAuthority} {claimed t : Store}
      {transition : PermissionTransition} : drawing.followon = .ok authority →
      prepareControlActionClaim outside.fingerprint s
        (answerClaimRequest authorized response authority drawing) drawing.now drawing.drawn
        drawing.claimToken = .ok (claimed,transition.claim) →
      transition.claim.acquired = true →
      projectSubmission claimed authorized response transition.claim drawing.now = .ok t →
      transition.dispatch.threadId = authorized.threadRecord.id →
      Transitioned outside s authorized response drawing t (.dispatching transition)

lemma recordPermissionTransition_transitioned
    (h : recordPermissionTransition ou s au rs dw = .ok (t,an)) :
    Transitioned ou s au rs dw t an := by
  unfold recordPermissionTransition at h
  dsimp only at h
  split at h
  · rename_i hf
    cases h
    exact .refused hf rfl
  rename_i ah hf
  obtain ⟨⟨cm,cl⟩,hc,h⟩ := bind_ok.1 h
  have hk : cl.acquired = false → cm = s := by
    obtain ⟨st⟩ := prepareControlActionClaim_stages hc
    intro hl
    rw [st.after,hl,if_neg Bool.false_ne_true]
  have hm : cl.acquired = true → cl.authorityMatches = true ∧ cl.payloadMatches = true := fun ha =>
    ⟨(prepareControlActionClaim_acquired hc ha).1,(prepareControlActionClaim_acquired hc ha).2.1⟩
  dsimp only at h
  split at h
  · rename_i hau
    cases h
    obtain rfl := hk (Bool.eq_false_iff.2 fun ha => hau (hm ha).1)
    exact .unclaimed hf hc nofun (.inl ⟨rfl,rfl⟩) (by simp)
  rename_i hau
  split at h
  · rename_i hb
    cases h
    obtain rfl := hk (Bool.eq_false_iff.2 fun ha => hb (hm ha).2)
    exact .unclaimed hf hc nofun (.inl ⟨rfl,rfl⟩) fun _ => by simpa using hb
  rename_i hb
  split at h
  · rename_i hl
    cases h
    obtain rfl := hk (Bool.eq_false_iff.2 hl)
    exact .unclaimed hf hc (fun _ => ⟨not_not.1 hau,not_not.1 hb⟩)
      (.inr ⟨rfl,nofun⟩) nofun
  · rename_i ha
    obtain ⟨pr,hp,h⟩ := bind_ok.1 h
    obtain ⟨co,hco,h⟩ := bind_ok.1 h
    rw [finalizeControlActionAcceptance_same hco] at h
    cases h
    exact .dispatched hf hc (not_not.1 ha) hp rfl

/-- An accepted response stands in the journal under the key of its ask, with its body. -/
lemma recordPermissionTransition_accepted
    (h : recordPermissionTransition ou s au rs dw = .ok (t,an))
    (ha : acceptedAction an = some aid) :
    ∃ row ∈ t.controlActions.rows, AnswerRow au.threadRecord.id rs au.ask.generation aid row := by
  have hrow : ∀ {ah cm cl}, prepareControlActionClaim ou.fingerprint s
      (answerClaimRequest au rs ah dw) dw.now dw.drawn
        dw.claimToken = .ok (cm,cl) → cl.authorityMatches = true →
      cl.payloadMatches = true → ∃ row ∈ cm.controlActions.rows, AnswerRow
        au.threadRecord.id rs au.ask.generation cl.actionId row := by
    intro ah cm cl hc hau hb
    obtain ⟨row,hme,hrow⟩ := prepareControlActionClaim_row hc hau hb
    exact ⟨row,hme,hrow.id,hrow.threadId,hrow.idempotencyKey,_,hrow.payload,rfl⟩
  cases recordPermissionTransition_transitioned h with
  | refused _ hre => simp [acceptedAction,hre] at ha
  | unclaimed _ hc hm hid _ =>
    simp only [acceptedAction,Option.ite_none_right_eq_some] at ha
    obtain ⟨hau,hb⟩ := hm ha.1
    obtain ⟨-,hn⟩ | ⟨hid,-⟩ := hid
    · rw [hn] at ha
      cases ha.1
    · cases hid.symm.trans ha.2
      exact hrow hc hau hb
  | dispatched _ hc hac hp _ =>
    cases ha
    obtain ⟨hau,hb,-⟩ := prepareControlActionClaim_acquired hc hac
    rw [(projectSubmission_ok hp).1]
    exact hrow hc hau hb

/-- A row that a response to a request of the run may journal: a refusal, a duplicate, or
the answer to an ask. -/
structure ResponseRow (threadId : String) (row : ControlActionModel) : Prop where
  threadId : row.threadId = threadId
  actionType : row.actionType = .permissionResponseSubmitted
  key : (∃ key, row.idempotencyKey = permissionRejectionActionKey key ∧
      row.resultStatus = .rejectedInvalidState ∧ readAcceptedInput row = none) ∨
    (∃ key, row.idempotencyKey = permissionDuplicateActionKey key) ∨
    ∃ requestId generation, row.idempotencyKey = permissionResponseActionKey requestId generation

section
variable {response rs : PermissionInput}
lemma respondToPermission_evolves {Good : ControlActionModel → Prop}
    (hgo : ∀ {a b}, SameProgress a b → Good a → Good b)
    (hn : ∀ row, ResponseRow tid row → Good row)
    (h : respondToPermission ou s tid rs held uc dw =
      .ok (t,an)) : s.controlActions.Evolves SameIntention Good t.controlActions := by
  unfold respondToPermission at h
  obtain ⟨⟨gu,au⟩,ha,h⟩ := bind_ok.1 h
  cases authorizePermissionResponse_guarded ha with
  | refused | replayed =>
    cases h
    exact .refl SameIntention.refl _
  | journaled hcr hrow =>
    cases h
    obtain ⟨-,-,-,-,hi⟩ := createControlAction_ok hcr
    refine .insert SameIntention.refl (hn _ ⟨hrow.threadId,hrow.actionType,?_⟩) hi
    exact hrow.key.imp_right .inl
  | authorized hru =>
    cases recordPermissionTransition_transitioned h with
    | refused | unclaimed => exact .refl SameIntention.refl _
    | dispatched _ hc _ hp _ =>
      rw [(projectSubmission_ok hp).1]
      exact (prepareControlActionClaim_claimStep_new hgo hc fun _ =>
        hn _ ⟨hru,rfl,.inr (.inr ⟨_,_,rfl⟩)⟩).actions.weaken fun _ _ hs => hs.toSameIntention

lemma ResponseRow.refusalRow (h : ResponseRow tid row) : RefusalRow tid row := by
  rcases h.key with ⟨_,-,hre⟩ | ⟨_,hk⟩ | ⟨_,_,hk⟩
  · exact fun _ _ _ => hre
  · exact .of_key fun key => hk ▸ duplicate_key_ne _ key
  · exact .of_key fun key => hk ▸ response_key_ne _ _ key

lemma respondToPermission_journalStep (h : respondToPermission ou s tid rs held uc dw =
    .ok (t,an)) : JournalStep tid s t :=
  respondToPermission_evolves RefusalRow.same_progress (fun _ => ResponseRow.refusalRow) h

def HeldAuthorization (s : Store) (threadId : String) (response : PermissionInput) :
    Authorization → Prop
  | .answered outcome => outcome.accepted = false
  | .authorized authorized => authorized.threadRecord.id = threadId ∧
      ∃ asks, journaledPermissionAsks s threadId response.requestId = some asks ∧
        authorized.ask = asks.unanswered

/-- While the request is held, a response is authorized for the first open ask, or it is
not accepted. -/
lemma authorizePermissionResponse_held
    (h : authorizePermissionResponse ou s tid rs (some it) uc dr = .ok (t,au))
    (href : ∀ row ∈ s.controlActions.rows, RefusalRow tid row) :
    HeldAuthorization s tid rs au := by
  cases authorizePermissionResponse_guarded h with
  | refused hre => exact hre
  | replayed hex hre =>
    obtain ⟨ht,hk⟩ := Prod.mk.inj (Table.lookup_key actionKey hex)
    exact hre (href _ (Table.lookup_mem actionKey hex) _ ht hk).1
  | journaled _ _ hre => exact hre rfl
  | authorized hru hp hasks ha =>
    refine ⟨hru,_,hasks,?_⟩
    have hpe := (Option.some.inj hp).symm
    rw [ha,hpe,JournaledAsks.addressed,if_pos (.inl rfl)]

end

def FirstOpenAsk (s : Store) (threadId requestId : String) (n : ℕ) : Prop :=
  ∃ generation : Generation, generation.val = n ∧ OpenAsk s threadId requestId generation ∧
    ∀ earlier < generation, ¬ OpenAsk s threadId requestId earlier

lemma walkAsks_some (h : walkAsks s tid rid answered ge = some asks) :
    ∃ p q, ge = p ++ asks.unanswered.generation :: q ∧ (∀ ea ∈ p, ¬ OpenAsk s tid rid ea) ∧
      OpenAsk s tid rid asks.unanswered.generation := by
  induction ge generalizing answered with
  | nil => cases h
  | cons gn la ih =>
    rw [walkAsks] at h
    split at h
    · rename_i hrow
      cases h
      refine ⟨[],la,rfl,by simp,?_⟩
      intro row hf
      rw [hrow] at hf
      cases hf
    · rename_i ac hrow
      split_ifs at h with ho
      · cases h
        refine ⟨[],la,rfl,by simp,?_⟩
        intro row hf
        rw [hrow] at hf
        cases hf
        simpa using ho
      · obtain ⟨p,q,hs,hb,hfi⟩ := ih h
        refine ⟨gn :: p,q,by rw [hs]; rfl,?_,hfi⟩
        intro ea hm
        rcases mem_cons.1 hm with rfl | hm
        · intro hc
          exact ho (by rw [hc ac hrow]; rfl)
        · exact hb ea hm

lemma journaledPermissionAsks_first (h : journaledPermissionAsks s tid rid = some asks) :
    FirstOpenAsk s tid rid asks.unanswered.generation.val := by
  obtain ⟨p,q,hsp,hb,ho⟩ := walkAsks_some h
  refine ⟨_,rfl,ho,fun ea hlt => ?_⟩
  have hs := pairwise_lt_finRange maxPermissionAsks
  rw [hsp,pairwise_append,pairwise_cons] at hs
  have hm : ea ∈ p ++ asks.unanswered.generation :: q := hsp ▸ mem_finRange ea
  rcases mem_append.1 hm with hm | hm
  · exact hb ea hm
  rcases mem_cons.1 hm with heq | hm
  · exact (Fin.ne_of_lt hlt heq).elim
  · exact (Fin.lt_irrefl _ (Fin.lt_trans hlt (hs.2.1.1 ea hm))).elim

lemma FirstOpenAsk.unique (hm : FirstOpenAsk s tid rid m) (hn : FirstOpenAsk s tid rid n) :
    m = n := by
  obtain ⟨g,rfl,ho,hea⟩ := hm
  obtain ⟨g',rfl,ho',he'⟩ := hn
  by_contra hne
  rcases Nat.lt_or_gt_of_ne hne with hlt | hlt
  · exact he' g hlt ho
  · exact hea g' hlt ho'

end

structure Reading where
  response : PermissionInput
  ask : Option (ℕ × ProjectedInterrupt)
  unconfirmed : Bool

structure AcceptedAnswer where
  ask : ℕ
  actionId : String
  key : String
  optionId : String
  notes : Option String
deriving DecidableEq, Repr

/-- The store, the number of asks the run has made, the interrupt of the last one while
it is held, the responses under way, and the log. -/
structure System where
  store : Store
  asked : ℕ
  held : Option ProjectedInterrupt
  readings : List Reading
  answers : List AcceptedAnswer

inductive Event
  | park (interrupt : ProjectedInterrupt)
  | leave
  | read (response : PermissionInput)
  | readUnconfirmed (response : PermissionInput)
  | respond (reading : Reading) (drawing : Drawing)
  | fail (response : PermissionInput) (claim : ControlActionClaim) (failureType : FailureType)
      (detail : String) (recorded : Bool) (instant : Instant)
  | frame (frame : PermissionFrame) (projection : CheckpointProjection) (drawn : Drawn)
      (now : Instant)
  | receipt (application : DispatchApplicationReceipt) (incorporated : Bool)
      (projection : CheckpointProjection) (drawn : Drawn) (now : Instant)
  | elsewhere

def logged (answers : List AcceptedAnswer) (reading : Reading) (t : Store) (answer : Answer) :
    List AcceptedAnswer :=
  match reading.ask, acceptedAction answer with
  | some (n,_), some actionId =>
    answers ++ [⟨n,actionId,((getControlAction t actionId).map fun row =>
      row.idempotencyKey).getD "",reading.response.optionId,reading.response.notes⟩]
  | _, _ => answers

section
variable (outside : Outside) (threadId requestId : String)

/-- The relay hands every frame of the run and the receipts of its permission answers to
their handlers; other receipts are work elsewhere. -/
inductive Move : System → Event → System → Prop
  | park {sys : System} {interrupt : ProjectedInterrupt} :
      sys.held = none → interrupt.interruptId = requestId →
      Move sys (.park interrupt) { sys with asked := sys.asked + 1, held := some interrupt }
  | leave {sys : System} : Move sys .leave { sys with held := none }
  | read {sys : System} {response : PermissionInput} : response.requestId = requestId →
      Move sys (.read response)
        { sys with readings :=
            ⟨response,sys.held.map fun interrupt => (sys.asked - 1,interrupt),false⟩ ::
              sys.readings }
  | readUnconfirmed {sys : System} {response : PermissionInput} :
      response.requestId = requestId →
      Move sys (.readUnconfirmed response)
        { sys with readings := ⟨response,none,true⟩ :: sys.readings }
  | respond {sys : System} {reading : Reading} (before after : List Reading)
      {drawing : Drawing} {t : Store} {answer : Answer} :
      sys.readings = before ++ reading :: after →
      respondToPermission outside sys.store threadId reading.response
        (reading.ask.map Prod.snd) reading.unconfirmed drawing = .ok (t,answer) →
      Move sys (.respond reading drawing)
        { sys with
          store := t
          readings := before ++ after
          answers := logged sys.answers reading t answer }
  | fail {sys : System} {response : PermissionInput} {claim : ControlActionClaim}
      {failureType : FailureType} {detail : String} {recorded : Bool} {instant : Instant}
      {t : Store} :
      failedPermissionDispatch sys.store threadId response claim failureType detail recorded
        instant = .ok t →
      Move sys (.fail response claim failureType detail recorded instant) { sys with store := t }
  | frame {sys : System} {frame : PermissionFrame} {projection : CheckpointProjection}
      {drawn : Drawn} {now : Instant} {t : Store} :
      heldInterrupt projection requestId = sys.held →
      handlePermissionEvent sys.store threadId frame projection drawn now = .ok t →
      Move sys (.frame frame projection drawn now) { sys with store := t }
  | receipt {sys : System} {application : DispatchApplicationReceipt} {incorporated : Bool}
      {projection : CheckpointProjection} {drawn : Drawn} {now : Instant} {settled t : Store} :
      heldInterrupt projection requestId = sys.held →
      (∀ action, getControlActionByDispatchId sys.store threadId application.dispatchId =
        some action → action.actionType = .permissionResponseSubmitted) →
      handleProgressEvent outside.fingerprint unownedResume sys.store threadId application
        incorporated drawn now = .ok settled →
      handleReaskedPermissionEvent settled threadId application projection = .ok t →
      Move sys (.receipt application incorporated projection drawn now) { sys with store := t }
  | elsewhere {sys : System} {t : Store} : JournalStep threadId sys.store t →
      Move sys .elsewhere { sys with store := t }

/-- A response that read a held ask commits while that ask is the first open one. -/
def InTurn (sys : System) : Event → Prop
  | .respond reading _ =>
    ∀ n interrupt, reading.ask = some (n,interrupt) → FirstOpenAsk sys.store threadId requestId n
  | _ => True

/-- Each ask has one accepted answer, under a key and in a row of its own. -/
def OneAnswerPerAsk (answers : List AcceptedAnswer) : Prop := ∀ a ∈ answers, ∀ b ∈ answers,
    (a.ask = b.ask ↔ a.actionId = b.actionId) ∧ (a.ask = b.ask ↔ a.key = b.key) ∧
      (a.ask = b.ask → a.optionId = b.optionId ∧ a.notes = b.notes)

/-- The logged answer stands in the journal under the key of its ask. -/
def Journaled (s : Store) (a : AcceptedAnswer) : Prop :=
  ∃ generation : Generation, generation.val = a.ask ∧ ∃ row ∈ s.controlActions.rows,
    row.idempotencyKey = a.key ∧
      AnswerRow threadId ⟨requestId,a.optionId,none,a.notes⟩ generation a.actionId row

structure Sound (sys : System) : Prop where
  refusals : ∀ row ∈ sys.store.controlActions.rows, RefusalRow threadId row
  readings : ∀ reading ∈ sys.readings, reading.response.requestId = requestId
  journaled : ∀ a ∈ sys.answers, Journaled threadId requestId sys.store a

end

section
variable {outside ou : Outside} {threadId tid requestId rid : String} {s t : Store}

lemma Journaled.kept (h : Journaled tid rid s a)
    (hst : JournalStep tid s t) : Journaled tid rid t a := by
  obtain ⟨gn,hn,row,hm,hk,hrow⟩ := h
  obtain ⟨ro,hm',hs⟩ := hst.kept row hm
  refine ⟨gn,hn,ro,hm',hs.idempotencyKey.trans hk,hs.id.trans hrow.id,
    hs.threadId.trans hrow.threadId,hs.idempotencyKey.trans hrow.key,?_⟩
  rw [hs.payload]
  exact hrow.answer

lemma Sound.journalStep (h : Sound tid rid sys) (hs : JournalStep tid sys.store t) :
    Sound tid rid { sys with store := t } :=
  ⟨hs.sound h.refusals,h.readings,fun a ha => (h.journaled a ha).kept hs⟩

lemma respondToPermission_accepted
    (h : respondToPermission ou s tid rs (some it) uc dw = .ok (t,an))
    (hre : ∀ row ∈ s.controlActions.rows, RefusalRow tid row)
    (ha : acceptedAction an = some aid) :
    ∃ gn : Generation, FirstOpenAsk s tid rs.requestId gn.val ∧
      ∃ row ∈ t.controlActions.rows, AnswerRow tid rs gn aid row := by
  unfold respondToPermission at h
  obtain ⟨⟨gu,au⟩,hau,h⟩ := bind_ok.1 h
  have hh := authorizePermissionResponse_held hau hre
  cases au with
  | answered oc =>
    cases h
    have href : oc.accepted = false := hh
    simp [acceptedAction,href] at ha
  | authorized authorized =>
    obtain ⟨hid,asks,hasks,hask⟩ := hh
    obtain ⟨row,hm,hrow⟩ := recordPermissionTransition_accepted h ha
    refine ⟨authorized.ask.generation,?_,row,hm,hid ▸ hrow⟩
    rw [hask]
    exact journaledPermissionAsks_first hasks

lemma logged_journaled (h : respondToPermission ou s tid re.response (re.ask.map Prod.snd)
      re.unconfirmed dw = .ok (t,an))
    (hre : re.response.requestId = rid)
    (href : ∀ row ∈ s.controlActions.rows, RefusalRow tid row)
    (ht : ∀ n it, re.ask = some (n,it) → FirstOpenAsk s tid rid n)
    (hj : ∀ a ∈ ans, Journaled tid rid s a) :
    ∀ a ∈ logged ans re t an, Journaled tid rid t a := by
  have hs : JournalStep tid s t := respondToPermission_journalStep h
  have hk : ∀ a ∈ ans, Journaled tid rid t a := fun a ha => (hj a ha).kept hs
  unfold logged
  split
  · rename_i n it aid hask hac
    rw [hask] at h
    obtain ⟨gn,hf,row,hm,hrow⟩ := respondToPermission_accepted h href hac
    have hn : gn.val = n := hf.unique (hre ▸ ht n it hask)
    intro a ha
    rcases mem_append.1 ha with ha | ha
    · exact hk a ha
    · rw [mem_singleton.1 ha]
      have hfo : getControlAction t aid = some row :=
        hrow.id ▸ Table.lookup_of_mem ControlActionModel.id action_id_unique hm
      refine ⟨gn,hn,row,hm,by simp [hfo],?_⟩
      exact ⟨hrow.id,hrow.threadId,by rw [hrow.key,hre],hrow.answer⟩
  · exact hk

lemma Move.sound (h : Move ou tid rid sys e sy) (ht : InTurn tid rid sys e)
    (hs : Sound tid rid sys) : Sound tid rid sy := by
  cases h with
  | park _ _ => exact ⟨hs.refusals,hs.readings,hs.journaled⟩
  | leave => exact ⟨hs.refusals,hs.readings,hs.journaled⟩
  | read hre =>
    exact ⟨hs.refusals,forall_mem_cons.2 ⟨hre,hs.readings⟩,hs.journaled⟩
  | readUnconfirmed hre =>
    exact ⟨hs.refusals,forall_mem_cons.2 ⟨hre,hs.readings⟩,hs.journaled⟩
  | respond p q hrea hres =>
    have hre := hs.readings _ (hrea ▸ mem_append_right _ mem_cons_self)
    refine ⟨(respondToPermission_journalStep hres).sound hs.refusals,?_,
      logged_journaled hres hre hs.refusals ht hs.journaled⟩
    intro re hm
    apply hs.readings
    rw [hrea]
    rcases mem_append.1 hm with hm | hm
    · exact mem_append_left _ hm
    · exact mem_append_right _ (mem_cons_of_mem _ hm)
  | fail hf => exact hs.journalStep (failedPermissionDispatch_journalStep hf)
  | frame _ hfr => exact hs.journalStep (handlePermissionEvent_journalStep hfr)
  | receipt _ _ hp hreas =>
    exact hs.journalStep ((handleProgressEvent_journalStep hp).trans
      (handleReaskedPermissionEvent_journalStep hreas))
  | elsewhere hst => exact hs.journalStep hst

lemma Sound.oneAnswerPerAsk (h : Sound tid rid sys) : OneAnswerPerAsk sys.answers := by
  intro a ha b hb
  obtain ⟨g,hg,row,hm,hkey,hrow⟩ := h.journaled a ha
  obtain ⟨g',hg',ro,hm',hk',hrow'⟩ := h.journaled b hb
  have hs : a.ask = b.ask → row = ro := by
    intro hask
    have hge : g = g' := Fin.ext (hg.trans (hask.trans hg'.symm))
    have hke : row.idempotencyKey = ro.idempotencyKey := by
      rw [hrow.key,hrow'.key,hge]
    have ht : row.threadId = ro.threadId := hrow.threadId.trans hrow'.threadId.symm
    exact Table.eq_of_not_fits hm hm' (fun hf => hf.2.1 ⟨ht,hke⟩)
      fun hf => hf.2.1 ⟨ht.symm,hke.symm⟩
  have hke : a.key = b.key → a.ask = b.ask := by
    intro hk
    have hre : permissionResponseActionKey rid g = permissionResponseActionKey rid g' := by
      rw [← hrow.key,← hrow'.key,hkey,hk',hk]
    rw [← hg,← hg',permissionResponseActionKey_inj hre]
  refine ⟨⟨fun hask => ?_,fun hid => ?_⟩,⟨fun hask => ?_,hke⟩,fun hask => ?_⟩
  · rw [← hrow.id,← hrow'.id,hs hask]
  · have hi : row.id = ro.id := hrow.id.trans (hid.trans hrow'.id.symm)
    have hro : row = ro := Table.eq_of_not_fits hm hm' (fun hf => hf.1 hi)
      fun hf => hf.1 hi.symm
    exact hke (by rw [← hkey,← hk',hro])
  · rw [← hkey,← hk',hs hask]
  · obtain ⟨it,hp,hin⟩ := hrow.answer
    obtain ⟨ip,hp',hi'⟩ := hrow'.answer
    rw [hs hask,hp'] at hp
    cases hp
    have han := hin.symm.trans hi'
    simpa using han

lemma own_key_iff_in_turn (hre : ∀ row ∈ s.controlActions.rows, RefusalRow tid row)
    (h : respondToPermission ou s tid rs (some it) uc dw = .ok (t,an))
    (hac : acceptedAction an = some aid) (hrow : getControlAction t aid = some row) :
    (∃ gn : Generation, gn.val = n ∧
        row.idempotencyKey = permissionResponseActionKey rs.requestId gn) ↔
      FirstOpenAsk s tid rs.requestId n := by
  obtain ⟨first,hf,ro,hm,ha⟩ := respondToPermission_accepted h hre hac
  have hs : getControlAction t aid = some ro :=
    ha.id ▸ Table.lookup_of_mem ControlActionModel.id action_id_unique hm
  cases hrow.symm.trans hs
  constructor
  · intro ho
    obtain ⟨gn,hn,hk⟩ := ho
    rw [← hn,← permissionResponseActionKey_inj (ha.key.symm.trans hk)]
    exact hf
  · intro ht
    exact ⟨first,hf.unique ht,ha.key⟩

/-- In every interleaving whose responses commit in their turn, each ask has one accepted
answer: no response is accepted by the answer to another ask, the answers to different
asks stand under different keys, and no ask has two. In the states reached, a response
accepted after reading an ask is journaled under that ask's key exactly when it commits
in its turn. -/
theorem asks_answered_once {start sys : System} {events : List Event}
    (hanswers : start.answers = []) (hreadings : start.readings = [])
    (hrefusals : ∀ row ∈ start.store.controlActions.rows, RefusalRow threadId row)
    (hrun : Run (fun s e t => Move outside threadId requestId s e t ∧
      InTurn threadId requestId s e) start events sys) :
    OneAnswerPerAsk sys.answers ∧ ∀ reading n interrupt drawing t answer actionId row,
        reading.response.requestId = requestId → reading.ask = some (n,interrupt) →
        respondToPermission outside sys.store threadId reading.response
          (reading.ask.map Prod.snd) reading.unconfirmed drawing = .ok (t,answer) →
        acceptedAction answer = some actionId → getControlAction t actionId = some row →
        ((∃ generation : Generation, generation.val = n ∧
            row.idempotencyKey = permissionResponseActionKey requestId generation) ↔
          InTurn threadId requestId sys (.respond reading drawing)) := by
  have hst : Sound threadId requestId start := ⟨hrefusals,by simp [hreadings],by simp [hanswers]⟩
  have hs := hrun.invariant (Sound threadId requestId) (fun hs hm => hm.1.sound hm.2 hs) hst
  refine ⟨hs.oneAnswerPerAsk,?_⟩
  rintro reading n interrupt drawing t answer actionId row rfl ha h hac hrow
  have ht : InTurn threadId reading.response.requestId sys (.respond reading drawing) ↔
      FirstOpenAsk sys.store threadId reading.response.requestId n := by
    simp [InTurn,ha]
  rw [ha] at h
  rw [ht]
  exact own_key_iff_in_turn hs.refusals h hac hrow

end

def plainFollowon : FollowonAuthority where
  graphDefinition := ⟨"team",600,50,""⟩
  autonomous := false
  workspaceRoot := "/work"
  recursionLimit := 50
  modelAssignment := ""

def drawingAt (now : Instant) (actionId dispatchId : String) : Drawing :=
  ⟨now,⟨actionId,dispatchId⟩,"token-" ++ dispatchId,.ok plainFollowon⟩

def goOrStopFrame : Event :=
  .frame ⟨some "request-1",some "shell",some "run it?",some (frameOptions goOrStop)⟩
    (some [goOrStop]) ⟨"created-1","created-1"⟩ 0

def firstReceipt (projection : CheckpointProjection) : Event := .receipt ⟨"dispatch-2","resume",
      ⟨"run-1","action-2",.permissionResponseSubmitted,"digest","dispatch-2",1,2⟩⟩
    true projection ⟨"applied-1","applied-1"⟩ 1

def goReading (n : ℕ) : Reading := ⟨goAhead,some (n,goOrStop),false⟩

lemma inTurn_of_walk (ha : re.ask = some (n,it))
    (hw : journaledPermissionAsks sys.store tid rid = some asks)
    (hn : asks.unanswered.generation.val = n) :
    InTurn tid rid sys (.respond re dw) := by
  intro m i h
  cases ha.symm.trans h
  exact hn ▸ journaledPermissionAsks_first hw

theorem asks_answered_once_twice_asked : ∃ sys : System, OneAnswerPerAsk sys.answers ∧
    sys.answers.map (fun a => (a.ask,a.actionId)) = [(0,"action-2"),(1,"action-3")] := by
  have hru : ∃ s sys, admittedRun = .ok s ∧
      (∀ row ∈ s.controlActions.rows, RefusalRow "run-1" row) ∧
      Run (fun s e t => Move plainOutside "run-1" "request-1" s e t ∧
        InTurn "run-1" "request-1" s e) ⟨s,0,none,[],[]⟩
        [.park goOrStop,goOrStopFrame,.read goAhead,
          .respond (goReading 0) (drawingAt 0 "action-2" "dispatch-2"),.leave,firstReceipt (some []),
          .park goOrStop,.read goAhead,
          .respond (goReading 1) (drawingAt 2 "action-3" "dispatch-3")] sys ∧
      sys.answers.map (fun a => (a.ask,a.actionId)) = [(0,"action-2"),(1,"action-3")] :=
    ⟨_,_,rfl,forall_mem_singleton.2 (.of_key fun _ => append_ne (by decide) _ _),
      .step ⟨.park rfl rfl,trivial⟩ <|
      .step ⟨.frame rfl rfl,trivial⟩ <|
      .step ⟨.read rfl,trivial⟩ <|
      .step ⟨.respond [] [] rfl rfl,inTurn_of_walk rfl rfl rfl⟩ <|
      .step ⟨.leave,trivial⟩ <|
      .step ⟨.receipt rfl (fun action h => by cases h; rfl) rfl rfl,trivial⟩ <|
      .step ⟨.park rfl rfl,trivial⟩ <|
      .step ⟨.read rfl,trivial⟩ <|
      .single ⟨.respond [] [] rfl rfl,inTurn_of_walk rfl rfl rfl⟩,rfl⟩
  obtain ⟨s,sys,-,hre,hru,hl⟩ := hru
  exact ⟨sys,(asks_answered_once rfl rfl hre hru).1,hl⟩

/-- A response that reads the second ask before the receipt of the first answer is
handled is accepted by that answer; and one that read the first ask but commits after
the second was made is journaled as the answer to the second. -/
theorem reask_replays_earlier_answer : (∃ s sys, admittedRun = .ok s ∧
      Run (Move plainOutside "run-1" "request-1") ⟨s,0,none,[],[]⟩
        [.park goOrStop,goOrStopFrame,.read goAhead,
          .respond (goReading 0) (drawingAt 0 "action-2" "dispatch-2"),.leave,.park goOrStop,
          .read goAhead,.respond (goReading 1) (drawingAt 1 "action-3" "dispatch-3")] sys ∧
      sys.answers.map (fun a => (a.ask,a.actionId)) = [(0,"action-2"),(1,"action-2")]) ∧
    ∃ s sys, admittedRun = .ok s ∧ Run (Move plainOutside "run-1" "request-1") ⟨s,0,none,[],[]⟩
        [.park goOrStop,goOrStopFrame,.read goAhead,.read goAhead,
          .respond (goReading 0) (drawingAt 0 "action-2" "dispatch-2"),.leave,firstReceipt (some []),
          .park goOrStop,.respond (goReading 0) (drawingAt 2 "action-3" "dispatch-3")] sys ∧
      sys.answers.map (fun a => (a.ask,a.actionId)) = [(0,"action-2"),(0,"action-3")] := by
  constructor
  · exact ⟨_,_,rfl,.step (.park rfl rfl) <| .step (.frame rfl rfl) <| .step (.read rfl) <|
      .step (.respond [] [] rfl rfl) <| .step .leave <| .step (.park rfl rfl) <|
      .step (.read rfl) <| .single (.respond [] [] rfl rfl),rfl⟩
  · exact ⟨_,_,rfl,.step (.park rfl rfl) <| .step (.frame rfl rfl) <| .step (.read rfl) <|
      .step (.read rfl) <| .step (.respond [] [goReading 0] rfl rfl) <| .step .leave <|
      .step (.receipt rfl (fun action h => by cases h; rfl) rfl rfl) <|
      .step (.park rfl rfl) <| .single (.respond [] [] rfl rfl),rfl⟩

end VaultspecA2A.PermissionAsks
