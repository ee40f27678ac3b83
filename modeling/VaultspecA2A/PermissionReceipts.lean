import VaultspecA2A.PermissionAsks

/-!
# The acceptance and the receipt of an answer

What the transaction of an accepted answer writes, and what the receipt of its resume
does. An answer on its way to the worker stands unapplied in the journal, under a
receipt that is current for as long as its action stays the writer of the run. The
receipt settles the answer exactly if the row of the request awaits application at
that moment; otherwise it changes nothing.
-/
namespace VaultspecA2A.PermissionReceipts
open Tables ThreadLifecycle Database ControlActions ActionClaims Option
open IdempotencyKeys PermissionJournal PermissionResponses
open PermissionAsks

/-- No frame of the request has been journaled in the run. -/
def Unannounced (threadId requestId : String) (a : ControlActionModel) : Prop :=
  a.threadId = threadId → a.idempotencyKey ≠ permissionRequestActionKey requestId

lemma Unannounced.same (h : SameProgress a b)
    (ha : Unannounced tid rid a) : Unannounced tid rid b := by
  intro ht
  rw [h.idempotencyKey]
  exact ha (h.threadId.symm.trans ht)

lemma response_key_unannounced (gn : Generation) :
    permissionResponseActionKey o gn ≠ permissionRequestActionKey rid :=
  append_ne (by decide) _ _

lemma applied_key_unannounced (h : responseAppliedKey rk = .ok ap) :
    ap ≠ permissionRequestActionKey rid := by
  unfold responseAppliedKey permissionResponseAppliedActionKey at h
  split_ifs at h
  cases h
  exact append_ne (by decide) _ _

lemma request_key_unannounced (hne : o ≠ rid) :
    permissionRequestActionKey o ≠ permissionRequestActionKey rid :=
  fun h => hne (append_right_inj h)

lemma unannounced_of_settledBy (h : SettledBy s t o su)
    (hn : ∀ a ∈ s.controlActions.rows, Unannounced tid rid a) :
    ∀ a ∈ t.controlActions.rows, Unannounced tid rid a := by
  intro a ha hru
  rcases h.fresh a ha with ⟨b,hb,hk⟩ | ⟨rk,hk⟩
  · obtain ⟨hbr,hbk⟩ := Prod.mk.inj hk
    exact hbk ▸ hn b hb (hbr.trans hru)
  · exact applied_key_unannounced hk

section
variable {threadId tid : String} {s t : Store} {response rs : PermissionInput}
lemma respondToPermission_dispatching (h : respondToPermission ou s tid rs held uc dw =
      .ok (t,.dispatching tr)) :
    ∃ authorized ah cl, authorized.threadRecord.id = tid ∧
      prepareControlActionClaim ou.fingerprint s
        (answerClaimRequest authorized rs ah dw) dw.now dw.drawn
        dw.claimToken = .ok (cl,tr.claim) ∧
      tr.claim.acquired = true ∧
      projectSubmission cl authorized rs tr.claim dw.now = .ok t ∧
      tr.dispatch.threadId = tid := by
  unfold respondToPermission at h
  obtain ⟨⟨gu,au⟩,hau,h⟩ := bind_ok.1 h
  cases authorizePermissionResponse_guarded hau with
  | refused | replayed | journaled => cases h
  | authorized hru =>
    cases recordPermissionTransition_transitioned h with
    | dispatched _ hc ha hp hd =>
      exact ⟨_,_,_,hru,hc,ha,hp,hd.trans hru⟩

structure OpenAnswer (threadId actionId dispatchId : String) (response : PermissionInput)
    (row : ControlActionModel) : Prop where
  id : row.id = actionId
  threadId : row.threadId = threadId
  dispatchId : row.dispatchId = some dispatchId
  actionType : row.actionType = .permissionResponseSubmitted
  requestId : row.requestId = some response.requestId
  payload : ∃ input, row.payload = some (.accepted input) ∧
    input.intent = .response response.optionId response.notes
  unapplied : row.appliedAt = none

/-- What an acceptance writes. -/
structure Submitted (s t : Store) (threadId : String) (response : PermissionInput)
    (claim : ControlActionClaim) : Prop where
  own : requestView t response.requestId =
    (requestView s response.requestId).map fun view => (view.1,.answeredPendingApply)
  others : ∀ other, other ≠ response.requestId → requestView t other = requestView s other
  unannounced : ∀ requestId, (∀ a ∈ s.controlActions.rows, Unannounced threadId requestId a) →
    ∀ a ∈ t.controlActions.rows, Unannounced threadId requestId a
  row : ∃ row ∈ t.controlActions.rows,
    OpenAnswer threadId claim.actionId claim.dispatchId response row

lemma respondToPermission_submitted (h : respondToPermission ou s tid rs held uc dw =
      .ok (t,.dispatching tr)) :
    Submitted s t tid rs tr.claim := by
  obtain ⟨au,ah,cl,hid,hc,hac,hp,-⟩ := respondToPermission_dispatching h
  obtain ⟨ha,⟨su,hs,hre⟩,-⟩ := projectSubmission_ok hp
  have hcl : ClaimStep (fun _ => True) s cl :=
    prepareControlActionClaim_claimStep (fun _ _ => trivial) hc fun _ _ _ => trivial
  have hb : cl.permissionRequests = s.permissionRequests := hcl.requests
  refine ⟨?_,?_,?_,?_⟩
  · rw [requestView_of_eq hre,
      requestView_isRequest_self hs (fun _ => rfl) (fun _ => rfl) fun _ => rfl,
      requestView_of_eq hb]
  · intro o hot
    rw [requestView_of_eq hre,requestView_isRequest hs (fun _ => rfl) hot,requestView_of_eq hb]
  · intro rid hn
    rw [ha]
    have hst : ClaimStep (Unannounced tid rid) s cl :=
      prepareControlActionClaim_claimStep Unannounced.same hc
        fun row _ hk _ => hk ▸ response_key_unannounced _
    exact hst.actions.sound hn
  · obtain ⟨hau,hbo,ho⟩ := prepareControlActionClaim_acquired hc hac
    obtain ⟨row,hm,hrow⟩ := prepareControlActionClaim_row hc hau hbo
    refine ⟨row,ha ▸ hm,hrow.id,hrow.threadId.trans hid,hrow.dispatchId,hrow.actionType,
      hrow.requestId,⟨_,hrow.payload,rfl⟩,?_⟩
    have hn := hrow.applied
    rw [ho,isSome_eq_false_iff,isNone_iff_eq_none] at hn
    exact hn

end

/-- An accepted answer stands unapplied, and the receipt of its delivery is current. -/
structure AwaitsProof (fingerprint : ActionPayload → String) (threadId : String)
    (response : PermissionInput) (actionId : String) (application : DispatchApplicationReceipt)
    (s : Store) (row : ControlActionModel) (thread : ThreadModel) : Prop where
  mem : row ∈ s.controlActions.rows
  answer : OpenAnswer threadId actionId application.dispatchId response row
  run : getThread s threadId = some thread
  verb : application.action = "resume"
  current : validateCurrentGraphReceipt fingerprint thread row =
    some application.graphActionReceipt

section
variable {fp : ActionPayload → String} {tid aid : String} {s t : Store}
variable {row : ControlActionModel}
variable {settleResume : Store → ControlActionModel → Except Raised (Store × Bool)}

lemma AwaitsProof.found (h : AwaitsProof fp tid rs aid ap s row th) :
    getControlActionByDispatchId s tid ap.dispatchId = some row :=
  getControlActionByDispatchId_of_mem h.mem h.answer.threadId h.answer.dispatchId

lemma AwaitsProof.proven (h : AwaitsProof fp tid rs aid ap s row th) :
    provenAction fp s tid ap = some row := by
  rw [provenAction,h.found,h.run]
  simp [h.answer.unapplied,h.current]

lemma AwaitsProof.valid (h : AwaitsProof fp tid rs aid ap s row th) :
    validApplicationReceipt tid ap = true := by
  obtain ⟨ht,hty,-⟩ := validateCurrentGraphReceipt_names h.current
  have hid : th.id = tid := Table.lookup_key ThreadModel.id h.run
  simp [validApplicationReceipt,ht,hid,hty,h.answer.actionType,h.verb,graphActionVerb]

lemma AwaitsProof.handled (h : AwaitsProof fp tid rs aid ap s row th) :
    handleProgressEvent fp settleResume s tid ap true dr now =
      applyPermissionResolution s row dr now := by
  rw [handleProgressEvent,if_pos ⟨h.valid,by rw [h.proven]; rfl,rfl⟩,commitProvenApplication,
    h.proven]
  simp [h.answer.actionType,appliedRepairAction,h.answer.requestId]

lemma AwaitsProof.settles {run : String} (h : AwaitsProof fp tid rs aid ap s row th)
    (ho : rs.optionId.isEmpty = false)
    (hv : requestView s rs.requestId = some (run,.answeredPendingApply))
    (hre : handleProgressEvent fp settleResume s tid ap true dr
      now = .ok t) : SettledBy s t rs.requestId row := by
  rw [h.handled,applyPermissionResolution,h.answer.requestId] at hre
  obtain ⟨pe,hf,hpe⟩ := map_eq_some_iff.1 hv
  have hst : pe.requestStatus = .answeredPendingApply := (Prod.mk.inj hpe).2
  obtain ⟨ip,hp,hi⟩ := h.answer.payload
  have hrea : readAcceptedInput row = some ip := by
    have hs := (validateCurrentGraphReceipt_names h.current).2.2.2
    rw [readAcceptedInput,hp,acceptedInput] at hs ⊢
    split_ifs at hs ⊢
    · rfl
    · cases hs
  have ha : acceptedAnswerOption ip.intent = some rs.optionId := by
    rw [hi,acceptedAnswerOption,ho]
    rfl
  simp only [hf,hst,ne_eq,not_true_eq_false,if_false,hrea,bind_some,ha] at hre
  exact settlePermission_settledBy hre h.mem h.answer.unapplied

lemma AwaitsProof.misses (h : AwaitsProof fp tid rs aid ap s row th)
    (hv : ∀ view, requestView s rs.requestId = some view → view.2 ≠ .answeredPendingApply)
    (hre : handleProgressEvent fp settleResume s tid ap true dr now = .ok t) : t = s := by
  rw [h.handled,applyPermissionResolution,h.answer.requestId] at hre
  cases hf : getPermissionRequest s rs.requestId with
  | none =>
    simp only [hf] at hre
    cases hre
    rfl
  | some pe =>
    have hs : pe.requestStatus ≠ .answeredPendingApply := hv _ (by rw [requestView,hf]; rfl)
    simp only [hf,if_pos hs] at hre
    cases hre
    rfl

/-- A receipt of an answer to a request that is no longer held reopens nothing. -/
lemma handleReaskedPermissionEvent_unheld
    (hrow : ∀ row, getControlActionByDispatchId s tid ap.dispatchId = some row →
      row.requestId = some rid) (hh : heldInterrupt pr rid = none)
    (h : handleReaskedPermissionEvent s tid ap pr = .ok t) : t = s := by
  have hn : (answeredRequestId s tid ap.dispatchId).bind (heldInterrupt pr) = none := by
    unfold answeredRequestId
    split_ifs
    · rfl
    cases hf : getControlActionByDispatchId s tid ap.dispatchId with
    | none => rfl
    | some row =>
      simp only [hrow row hf]
      split_ifs
      · exact hh
      · rfl
  rw [handleReaskedPermissionEvent,hn] at h
  split_ifs at h <;> cases h <;> rfl

lemma AwaitsProof.kept (h : AwaitsProof fp tid rs aid ap s row th)
    (hm : row ∈ t.controlActions.rows) (hru : getThread t tid = some la)
    (ht : la.authority.actionType = th.authority.actionType)
    (hre : la.authority.actionReceiptId = th.authority.actionReceiptId)
    (hge : la.authority.writerGeneration = th.authority.writerGeneration)
    (hrev : th.authority.runRevision ≤ la.authority.runRevision) :
    AwaitsProof fp tid rs aid ap t row la := by
  have hid : la.id = th.id :=
    (Table.lookup_key ThreadModel.id hru).trans (Table.lookup_key ThreadModel.id h.run).symm
  exact ⟨hm,h.answer,hru,h.verb,validateCurrentGraphReceipt_advance hid ht hre hge hrev h.current⟩

lemma AwaitsProof.announced (h : AwaitsProof fp tid rs aid ap s row th)
    (ha : Announced s t tid rid ids os) :
    AwaitsProof fp tid rs aid ap t row th := by
  have hru : getThread t tid = some th := by
    rw [getThread,ha.threads]
    exact h.run
  exact h.kept (ha.kept row h.mem) hru rfl rfl rfl (Nat.le_refl _)

lemma bindGraphActionReceipt_awaits (h : bindGraphActionReceipt fp s dispatch did = some rc)
    (ht : dispatch.threadId = tid) (hm : row ∈ s.controlActions.rows)
    (hrow : OpenAnswer tid aid did rs row) :
    ∃ th, AwaitsProof fp tid rs aid ⟨did,"resume",rc⟩ s row
      th := by
  rw [bindGraphActionReceipt,ht,
    getControlActionByDispatchId_of_mem hm hrow.threadId hrow.dispatchId] at h
  cases hru : getThread s tid with
  | none =>
    rw [hru] at h
    cases h
  | some th =>
    simp only [hru] at h
    split_ifs at h
    exact ⟨th,hm,hrow,hru,rfl,(filter_eq_some_iff.1 h).1⟩

end

end VaultspecA2A.PermissionReceipts
