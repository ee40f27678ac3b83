import VaultspecA2A.FollowupMessages
import VaultspecA2A.PermissionReceipts

/-!
# How a run ends

A run ends by a settlement: an election of a terminal status and, in the same transaction, an
answer for every continuation that waits, the expiry of its open requests, a cleared approval
and the mark on the settled action. A recovery pass settles a completed turn from its
checkpoint, the worker's own evidence settles a cancellation or a failure, and a sweep fails
a run it can no longer execute. A message to the run is admitted to its line in a transaction
of its own.

A pass reads the run, its writer and its action first, closes that transaction, reads the
checkpoint and decides in a second one; the sweep lists the run before it locks it. What they
read is part of the state here and may be stale when it is used. The store serialises the
transactions that write, so each is one step, and one that raises is rolled back.

What a checkpoint says and what a worker reports is an input. Other work on the run changes its
status as an election may, puts no row into its line and takes none of its actions out of the
journal.
-/
namespace VaultspecA2A.TerminalSettlement
open Runs Tables ThreadLifecycle Database ControlActions ThreadElections ActionLeases List
open ActionClaims PermissionJournal PermissionResponses ContinuationQueue
open FollowupMessages (ClientKey MessageOutcome canSendFollowup sendFollowupMessage
  sendFollowupMessage_cases)

/-- What a recovery pass keeps of its first transaction. -/
structure Pass where
  actionId : String
  decision : CheckpointDecision

section
variable (fingerprint : ActionPayload → String)

/-- The first transaction of a recovery pass over a run. -/
def observeRun (config : ContinuationConfig) (createdAt : Instant) (s : Store)
    (threadId : String) : Option Pass :=
  match getThread s threadId with
  | none => none
  | some thread =>
    if thread.status ∈ nonActiveStatuses then none
    else
      let expectation := threadWriteExpectation thread
      match getControlActionByDispatchId s threadId expectation.authority.actionReceiptId with
      | none => none
      | some action =>
        (validateCurrentGraphReceipt fingerprint thread action).map fun receipt =>
          ⟨action.id,⟨threadId,expectation,receipt.actionType,receipt.dispatchId,
            runLifetimeDeadline config createdAt⟩⟩

/-- A terminal that the worker's evidence asks for, and how the evidence is judged. -/
structure ProvenTerminal where
  dispatchId : String
  status : ThreadStatus
  prove : ThreadModel → ControlActionModel → Option TerminalEvidence

/-- Settle a run on its own evidence; what does not win is rolled back. -/
def settleProvenTerminal (s : Store) (threadId : String) (terminal : ProvenTerminal)
    (settledAt : Instant) : Except Raised (Store × Option ThreadStatusElectionOutcome) :=
  match getThread s threadId, getControlActionByDispatchId s threadId terminal.dispatchId with
  | some thread, some action =>
    match terminal.prove thread action with
    | none => .ok (s,none)
    | some proof => do
        let (settled,outcome) ← settleTerminal s threadId terminal.status proof settledAt
        .ok (if outcome = .won then settled else s,some outcome)
  | _, _ => .ok (s,none)

inductive CancellationOutcome
  | ceased
  | noActiveWork
deriving DecidableEq, Repr

structure CancellationEvidence where
  dispatchId : String
  outcome : CancellationOutcome
deriving DecidableEq, Repr

def CancellationEvidence.resultStatus (evidence : CancellationEvidence) :
    ControlActionResultStatus :=
  if evidence.outcome = .ceased then .cancelledCeased else .cancelledNoActiveWork

def provenCancellation (evidence : CancellationEvidence) : ProvenTerminal where
  dispatchId := evidence.dispatchId
  status := .cancelled
  prove thread action :=
    let expectation := threadWriteExpectation thread
    if action.actionType ≠ .cancel ∨ (thread.status ≠ .cancelling ∧ thread.status ≠ .reconciling) ∨
        ¬ expectation.authority.ownedBy .cancel (some evidence.dispatchId) then none
    else
      some
        { expectation := expectation, actionId := action.id, actionType := .cancel
          actionReceiptId := evidence.dispatchId, resultStatus := evidence.resultStatus }

structure GraphFailureEvidence where
  action : GraphActionReceipt
  providerCondition : String
deriving DecidableEq, Repr

def provenFailure (evidence : GraphFailureEvidence) (failureReason : String) : ProvenTerminal where
  dispatchId := evidence.action.dispatchId
  status := .failed
  prove thread action :=
    if thread.status ∈ nonActiveStatuses ∨
        validateCurrentGraphReceipt fingerprint thread action ≠ some evidence.action then none
    else
      some
        { expectation := threadWriteExpectation thread, actionId := action.id
          actionType := evidence.action.actionType
          actionReceiptId := evidence.action.dispatchId, failureReason := some failureReason
          providerCondition := some evidence.providerCondition }

end

def failReconcilingRun (s : Store) (threadId : String) (listed : ThreadWriteExpectation)
    (failureReason : String) (settledAt : Instant) :
    Except Raised (Store × ThreadStatusElectionOutcome) :=
  let authority := listed.authority
  if (getThread s threadId).isNone then .ok (s,.notFound)
  else
    match getControlActionByDispatchId s threadId authority.actionReceiptId with
    | none => .ok (s,.receiptMismatch)
    | some action =>
      settleTerminal s threadId .failed
        { expectation := listed, actionId := action.id, actionType := authority.actionType
          actionReceiptId := authority.actionReceiptId, failureReason := some failureReason }
        settledAt

inductive Call
  | message (content agentId : String) (key : ClientKey) (drawing : Drawing)
  | complete (pass : Pass) (observedAt settledAt : Instant)
  | cancelled (evidence : CancellationEvidence) (settledAt : Instant)
  | failed (evidence : GraphFailureEvidence) (failureReason : String) (settledAt : Instant)
  | swept (listed : ThreadWriteExpectation) (failureReason : String) (settledAt : Instant)
  | elects (call : ElectionCall)

inductive Answer
  | message (outcome : MessageOutcome)
  | reconciliation (result : Reconciliation)
  | settlement (outcome : Option ThreadStatusElectionOutcome)
  | election (outcome : ThreadStatusElectionOutcome)
deriving DecidableEq

/-- The election of the settlement an answer reports. -/
def Answer.settled : Answer → Option ThreadStatusElectionOutcome
  | .reconciliation (.settlement outcome) => some outcome
  | .settlement outcome => outcome
  | _ => none

/-- What a settlement records of its end. -/
structure Ending where
  status : ThreadStatus
  dispatchId : String
  resultStatus : ControlActionResultStatus := .applied
  settledAt : Instant

def Call.ending : Call → Option Ending
  | .complete pass _ settledAt => some ⟨.completed,pass.decision.dispatchId,.applied,settledAt⟩
  | .cancelled evidence settledAt =>
    some ⟨.cancelled,evidence.dispatchId,evidence.resultStatus,settledAt⟩
  | .failed evidence _ settledAt => some ⟨.failed,evidence.action.dispatchId,.applied,settledAt⟩
  | .swept listed _ settledAt =>
    some ⟨.failed,listed.authority.actionReceiptId,.applied,settledAt⟩
  | _ => none

section
variable (outside : Outside) (config : ContinuationConfig) (createdAt : Instant) (run : String)

def perform (s : Store) : Call → Except Raised (Store × Answer)
  | .message content agentId key drawing => do
      let (t,outcome) ←
        sendFollowupMessage outside config createdAt s run content agentId key drawing
      .ok (t,.message outcome)
  | .complete pass observedAt settledAt => do
      let (t,result) ← reconcileCompletedCheckpoint outside.fingerprint s pass.actionId
        pass.decision observedAt settledAt
      .ok (t,.reconciliation result)
  | .cancelled evidence settledAt => do
      let (t,outcome) ← settleProvenTerminal s run (provenCancellation evidence) settledAt
      .ok (t,.settlement outcome)
  | .failed evidence failureReason settledAt => do
      let (t,outcome) ← settleProvenTerminal s run
        (provenFailure outside.fingerprint evidence failureReason) settledAt
      .ok (t,.settlement outcome)
  | .swept listed failureReason settledAt => do
      let (t,outcome) ← failReconcilingRun s run listed failureReason settledAt
      .ok (t,.settlement (some outcome))
  | .elects call => do
      let (t,outcome) ← elect s run call
      .ok (t,.election outcome)

/-- The store, and what passes and sweeps have read of the run. -/
structure Gateway where
  store : Store
  passes : List Pass := []
  listed : List ThreadWriteExpectation := []

def Call.Witnessed (g : Gateway) : Call → Prop
  | .complete pass _ _ => pass ∈ g.passes
  | .swept listed _ _ => listed ∈ g.listed
  | _ => True

inductive Label
  | call (call : Call) (answer : Except Raised Answer)
  | observes
  | lists
  | elsewhere

def statusOf (s : Store) : Option ThreadStatus := (getThread s run).map ThreadModel.status

def waitingIds (s : Store) : List String := (waitingLine s run).map ControlActionModel.id

/-- The actions of the run stay in the journal under their identities. -/
def ActionsHeld (s t : Store) : Prop :=
  ∀ a ∈ s.controlActions.rows, a.threadId = run → ∃ b ∈ t.controlActions.rows,
    b.id = a.id ∧ b.threadId = run ∧ b.dispatchId = a.dispatchId

/-- The status stays, or moves as an election may move it. -/
def StatusMoved (s t : Store) : Prop :=
  ∀ after ∈ statusOf run t, ∃ before ∈ statusOf run s, after = before ∨ Permitted before after

/-- What other work on the run may do. -/
structure Elsewhere (s t : Store) : Prop where
  status : StatusMoved run s t
  line : waitingIds run t ⊆ waitingIds run s
  journal : ActionsHeld run s t

inductive Move : Gateway → Label → Gateway → Prop
  | performed {g : Gateway} {call : Call} {t : Store} {answer : Answer} :
      call.Witnessed g → perform outside config createdAt run g.store call = .ok (t,answer) →
      Move g (.call call (.ok answer)) { g with store := t }
  | raised {g : Gateway} {call : Call} {raised : Raised} :
      call.Witnessed g → perform outside config createdAt run g.store call = .error raised →
      Move g (.call call (.error raised)) g
  | observed {g : Gateway} {pass : Pass} :
      observeRun outside.fingerprint config createdAt g.store run = some pass →
      Move g .observes { g with passes := g.passes ++ [pass] }
  | listed {g : Gateway} {thread : ThreadModel} :
      getThread g.store run = some thread → thread.status = .reconciling →
      Move g .lists { g with listed := g.listed ++ [threadWriteExpectation thread] }
  | elsewhere {g : Gateway} {t : Store} :
      Elsewhere run g.store t → Move g .elsewhere { g with store := t }

end

variable {vs : ThreadModel → ThreadModel} {re did : String}
variable {fp : ActionPayload → String} {result rs : Reconciliation}

section
variable {s t u : Store} {run tid : String} {status su : ThreadStatus}
variable {sa : Instant}
variable {outcome oc : ThreadStatusElectionOutcome}

lemma getThread_updateThread_map (h : updateThread s tid vs = .ok t)
    (hid : ∀ row, (vs row).id = row.id) :
    getThread t tid = (getThread s tid).map vs := by
  have hl : getThread t tid = _ := Table.lookup_updateWhere ThreadModel.id hid (updateThread_ok h).2
  rw [hl]
  change (getThread s tid).map _ = _
  cases hrow : getThread s tid with
  | none => rfl
  | some row =>
    have hk : row.id = tid := Table.lookup_key ThreadModel.id hrow
    simp [Table.changed,hk]

lemma updateThread_others (h : updateThread s tid vs = .ok t) :
    t.permissionRequests = s.permissionRequests ∧ t.controlActions = s.controlActions := by
  rw [(updateThread_ok h).1]
  exact ⟨rfl,rfl⟩

lemma markControlActionApplied_others {aid : String} {now : Instant}
    {rst : ControlActionResultStatus}
    (h : markControlActionApplied s aid now rst = .ok t) :
    t.permissionRequests = s.permissionRequests ∧ t.threads = s.threads := by
  rw [(markControlActionApplied_ok h).1]
  exact ⟨rfl,rfl⟩

lemma statusOf_of_threads (h : t.threads = s.threads) : statusOf run t = statusOf run s := by
  rw [statusOf,statusOf,getThread,getThread,h]

lemma rejectQueuedContinuations_empty {co : ℕ}
    (h : rejectQueuedContinuations s run sa = .ok (t,co)) : waitingLine t run = [] := by
  obtain ⟨re,hu,hre⟩ := bind_ok.1 h
  cases hre
  refine filter_eq_nil_iff.2 fun row hrow => ?_
  rw [Table.rows_of_updateWhere (updateActions_ok hu).2] at hrow
  obtain ⟨old,-,rfl⟩ := mem_map.1 hrow
  unfold Table.changed
  split_ifs with hw
  · simp [waitsOn,isWaiting,settleApplied]
  · exact hw

lemma lineKept_empty (h : LineKept HeldPlace s t) (hem : waitingLine s run = []) :
    waitingLine t run = [] := by
  have ht := h.tickets run
  rw [tickets,tickets,hem,map_nil,sublist_nil] at ht
  exact map_eq_nil_iff.1 ht

lemma stages_waiting (h : Stages s run su ev sa t) : waitingLine t run = [] := by
  obtain ⟨co,hre⟩ := h.refuses
  obtain ⟨tr,hrep⟩ := h.repairs
  have ha := (updateRequests_lineKept h.expires).turns ((updateThread_lineKept h.clears).turns
    ((markControlActionApplied_lineKept h.marks).turns (updateThread_lineKept hrep)))
  exact lineKept_empty ha.place (rejectQueuedContinuations_empty hre)

lemma stages_requests (h : Stages s run su ev sa t) :
    ∀ row ∈ t.permissionRequests.rows, row.threadId = run → isOutstanding row = false := by
  obtain ⟨tr,hre⟩ := h.repairs
  have hs : t.permissionRequests = h.expired.permissionRequests := (updateThread_others hre).1.trans
      ((markControlActionApplied_others h.marks).1.trans (updateThread_others h.clears).1)
  intro row hrow hru
  rw [hs,Table.rows_of_updateWhere (updateRequests_ok h.expires).2] at hrow
  obtain ⟨old,-,rfl⟩ := mem_map.1 hrow
  unfold Table.changed at hru ⊢
  split_ifs at hru ⊢ with ho
  · rfl
  · rw [Bool.and_eq_true,not_and] at ho
    exact Bool.eq_false_iff.2 (ho (decide_eq_true hru))

lemma electThreadStatus_won {ex : ThreadWriteExpectation}
    {ty : ControlActionType} {ri : String} {re co : Option String}
    (h : electThreadStatus s run ex su ty ri re co = .ok (t,.won)) : statusOf run t = some su := by
  unfold electThreadStatus at h
  split at h
  · cases h
  split at h
  · cases h
  split_ifs at h
  obtain ⟨row,-,-,-,-,ha,-⟩ := compareAndSetThread_won (fun _ => by rfl) h
  rw [statusOf,ha]
  rfl

lemma stages_thread (h : Stages s run su ev sa t) :
    ∃ th, getThread t run = some th ∧ th.status = su ∧
      th.approvalStatus = none ∧ th.approvalRequestId = none ∧
      th.approvalResponseActionId = none := by
  obtain ⟨tr,hrep⟩ := h.repairs
  obtain ⟨row,hrow,hs⟩ := Option.map_eq_some_iff.1 (electThreadStatus_won h.elects)
  have hex : getThread h.expired run = some row := by
    obtain ⟨co,href⟩ := h.refuses
    obtain ⟨re,hu,hret⟩ := bind_ok.1 href
    have hrefu : h.refused.threads = h.elected.threads := by
      rw [← (Prod.mk.inj (Except.ok.inj hret)).1,(updateActions_ok hu).1]
    have ht : h.expired.threads = h.elected.threads := by
      rw [(updateRequests_ok h.expires).1]
      exact hrefu
    rw [getThread,ht]
    exact hrow
  have hc := getThread_updateThread_map h.clears fun _ => rfl
  have hm : getThread h.marked run = getThread h.cleared run := by
    rw [getThread,(markControlActionApplied_others h.marks).2]
    rfl
  have hre := getThread_updateThread_map hrep fun _ => rfl
  rw [hm,hc,hex] at hre
  exact ⟨_,hre,hs,rfl,rfl,rfl⟩

lemma stages_applied (h : Stages s run su ev sa t) {row : ControlActionModel}
    (hrow : row ∈ s.controlActions.rows) (hid : row.id = ev.actionId) :
    ∃ la ∈ t.controlActions.rows, SameIntention row la ∧
      la.appliedAt = some sa ∧ la.resultStatus = ev.resultStatus := by
  obtain ⟨co,hre⟩ := h.refuses
  obtain ⟨tr,hrep⟩ := h.repairs
  have hb := (electThreadStatus_lineKept h.elects).turns
    ((rejectQueuedContinuations_lineKept hre).turns
      ((updateRequests_lineKept h.expires).turns (updateThread_lineKept h.clears)))
  obtain ⟨kept,hk,hh⟩ := Table.Rewrites.kept hb hrow
  have hm : settleApplied sa ev.resultStatus kept ∈
      h.marked.controlActions.rows := by
    refine (Table.mem_of_updateWhere (markControlActionApplied_ok h.marks).2).2 ⟨kept,hk,?_⟩
    rw [Table.changed,if_pos (decide_eq_true (hh.id.trans hid))]
  rw [← (updateThread_others hrep).2] at hm
  refine ⟨_,hm,?_,rfl,rfl⟩
  exact hh.toSameIntention.trans ⟨rfl,rfl,rfl,rfl,rfl,rfl,rfl⟩

/-- The run has ended, and nothing of it is left open. -/
structure Ended (run : String) (ending : Ending) (t : Store) : Prop where
  status : statusOf run t = some ending.status
  waiting : waitingLine t run = []
  requests : ∀ row ∈ t.permissionRequests.rows, row.threadId = run → isOutstanding row = false
  approval : ∀ thread, getThread t run = some thread → thread.approvalStatus = none ∧
    thread.approvalRequestId = none ∧ thread.approvalResponseActionId = none
  applied : ∃ row, getControlActionByDispatchId t run ending.dispatchId = some row ∧
    row.appliedAt = some ending.settledAt ∧ row.resultStatus = ending.resultStatus

lemma stages_ended (h : Stages s run su ev sa t)
    (hrow : row ∈ s.controlActions.rows) (hid : row.id = ev.actionId)
    (hru : row.threadId = run) (hd : row.dispatchId = some did) :
    Ended run ⟨su,did,ev.resultStatus,sa⟩ t := by
  obtain ⟨th,ht,hst,hap⟩ := stages_thread h
  obtain ⟨la,hl,hs,ha⟩ := stages_applied h hrow hid
  refine ⟨?_,stages_waiting h,stages_requests h,?_,la,?_,ha⟩
  · rw [statusOf,ht,Option.map_some,hst]
  · intro o ho
    rw [ht] at ho
    cases ho
    exact hap
  · exact getControlActionByDispatchId_of_mem hl (hs.threadId.trans hru) (hs.dispatchId.trans hd)

lemma StatusMoved.of_eq (h : statusOf run t = statusOf run s) : StatusMoved run s t := by
  intro q ha
  exact ⟨q,h ▸ ha,Or.inl rfl⟩

lemma Elsewhere.refl (s : Store) : Elsewhere run s s :=
  ⟨.of_eq rfl,List.Subset.refl _,fun a ha hru => ⟨a,ha,rfl,hru,rfl⟩⟩

lemma Elsewhere.of_lineKept (h : LineKept HeldPlace s t) (hs : StatusMoved run s t) :
    Elsewhere run s t := by
  refine ⟨hs,?_,?_⟩
  · have hl := ((h.tickets run).map Prod.fst).subset
    rw [tickets,tickets,map_map,map_map] at hl
    exact hl
  · intro a ha hru
    obtain ⟨b,hb,hh⟩ := Table.Rewrites.kept h ha
    exact ⟨b,hb,hh.id,hh.threadId.trans hru,hh.dispatchId⟩

lemma elect_moved {call : ElectionCall} (h : elect s run call = .ok (t,oc)) :
    StatusMoved run s t := by
  by_cases hwo : oc = .won
  · subst hwo
    obtain ⟨row,ro,hw⟩ := elect_won h
    intro q ha
    rw [statusOf,hw.after] at ha
    cases ha
    refine ⟨row.status,?_,hw.status_change⟩
    rw [statusOf,hw.before]
    rfl
  · rw [elect_missed hwo h]
    exact .of_eq rfl

lemma elect_elsewhere {call : ElectionCall} (h : elect s run call = .ok (t,oc)) :
    Elsewhere run s t := by
  refine .of_lineKept (LineKept.of_eq ?_).place (elect_moved h)
  by_cases hw : oc = .won
  · subst hw
    obtain ⟨row,ro,hwi⟩ := elect_won h
    exact hwi.journal_same
  · rw [elect_missed hw h]

lemma stages_elsewhere (h : Stages s run su ev sa t) : Elsewhere run s t := by
  obtain ⟨th,ht,hst,-⟩ := stages_thread h
  have hc : elect s run (.status ev.expectation su ev.actionType
    ev.actionReceiptId ev.failureReason ev.providerCondition) = .ok (h.elected,.won) := h.elects
  have hm := elect_moved hc
  refine .of_lineKept h.lineKept.place ?_
  rw [StatusMoved,electThreadStatus_won h.elects] at hm
  rw [StatusMoved,statusOf,ht,Option.map_some,hst]
  exact hm

/-- A settlement that lost its election wrote nothing; one that won ended the run. -/
def Settled (run : String) (ending : Ending) (s t : Store)
    (outcome : ThreadStatusElectionOutcome) : Prop :=
  (outcome ≠ .won ∧ t = s) ∨ outcome = .won ∧ Ended run ending t ∧ Elsewhere run s t

lemma settleTerminal_settled (h : settleTerminal s run su ev sa = .ok (t,oc))
    (hrow : row ∈ s.controlActions.rows) (hid : row.id = ev.actionId)
    (hru : row.threadId = run) (hd : row.dispatchId = some did) :
    Settled run ⟨su,did,ev.resultStatus,sa⟩ s t oc := by
  rcases settleTerminal_ok h with hm | ⟨hw,⟨st⟩⟩
  · exact .inl hm
  · exact .inr ⟨hw,stages_ended st hrow hid hru hd,stages_elsewhere st⟩

lemma getControlActionByDispatchId_ok (h : getControlActionByDispatchId s run did = some row) :
    row ∈ s.controlActions.rows ∧ row.threadId = run ∧ row.dispatchId = some did := by
  obtain ⟨hru,hd⟩ := Prod.mk.inj
    (Table.lookup_key (fun a : ControlActionModel => (a.threadId,a.dispatchId)) h)
  exact ⟨Table.lookup_mem (fun a : ControlActionModel => (a.threadId,a.dispatchId)) h,hru,hd⟩

lemma settleProvenTerminal_settled {rst : ControlActionResultStatus}
    (hpr : ∀ th ac pr, te.prove th ac = some pr → pr.actionId = ac.id ∧ pr.resultStatus = rst)
    (h : settleProvenTerminal s run te sa = .ok (t,an)) :
    (an = none ∧ t = s) ∨ ∃ oc, an = some oc ∧
      Settled run ⟨te.status,te.dispatchId,rst,sa⟩ s t oc := by
  unfold settleProvenTerminal at h
  split at h
  · rename_i th ac ht ha
    split at h
    · cases h
      exact .inl ⟨rfl,rfl⟩
    rename_i pr hp
    obtain ⟨⟨settled,oc⟩,hs,h⟩ := bind_ok.1 h
    cases h
    refine .inr ⟨oc,rfl,?_⟩
    obtain ⟨hid,hre⟩ := hpr th ac pr hp
    obtain ⟨hm,hru,hd⟩ := getControlActionByDispatchId_ok ha
    rw [← hre]
    by_cases hw : oc = .won
    · rw [if_pos hw]
      exact settleTerminal_settled hs hm hid.symm hru hd
    · rw [if_neg hw]
      exact .inl ⟨hw,rfl⟩
  · cases h
    exact .inl ⟨rfl,rfl⟩

lemma provenCancellation_proves {ca : CancellationEvidence}
    (h : (provenCancellation ca).prove th ac = some pr) :
    pr.actionId = ac.id ∧ pr.resultStatus = ca.resultStatus := by
  unfold provenCancellation at h
  dsimp only at h
  split_ifs at h
  cases h
  exact ⟨rfl,rfl⟩

lemma provenFailure_proves {fa : GraphFailureEvidence}
    (h : (provenFailure fp fa re).prove th ac = some pr) :
    pr.actionId = ac.id ∧ pr.resultStatus = .applied := by
  unfold provenFailure at h
  dsimp only at h
  split_ifs at h
  cases h
  exact ⟨rfl,rfl⟩

lemma failReconcilingRun_settled {li : ThreadWriteExpectation}
    (h : failReconcilingRun s run li re sa = .ok (t,oc)) :
    Settled run ⟨.failed,li.authority.actionReceiptId,.applied,sa⟩ s t oc := by
  unfold failReconcilingRun at h
  dsimp only at h
  split_ifs at h
  · cases h
    exact .inl ⟨nofun,rfl⟩
  split at h
  · cases h
    exact .inl ⟨nofun,rfl⟩
  · rename_i ac ha
    obtain ⟨hm,hru,hd⟩ := getControlActionByDispatchId_ok ha
    exact settleTerminal_settled h hm rfl hru hd

lemma promoted_moved (st : Promoted fp s aid d pa aa
    da w t) : statusOf d.threadId t = some .running ∧ StatusMoved d.threadId s t := by
  obtain ⟨rc,hb⟩ := st.binds
  obtain ⟨tr,hre⟩ := st.repairs
  have hma : statusOf d.threadId st.marked = statusOf d.threadId s := by
    refine statusOf_of_threads ((markControlActionApplied_others st.marks).2.trans ?_)
    rw [(updateActions_ok st.opens).1]
  have ha : statusOf d.threadId t = statusOf d.threadId st.elected := by
    rw [statusOf,getThread_updateThread_map hre fun _ => rfl,Option.map_map,
      getThread,(prepareGraphActionReceipt_none hb).2]
    rfl
  have hc : elect st.marked d.threadId (.status d.expectation .running
    .messageFollowupRequested st.dispatchId none none) = .ok (st.elected,.won) := st.elects
  have hm := elect_moved hc
  rw [StatusMoved,hma,← ha] at hm
  exact ⟨ha.trans (electThreadStatus_won st.elects),hm⟩

lemma canSendFollowup_shut (h : su ∈ nonActiveStatuses) (pa : Option FollowupMessages.ParkedPause) :
    (canSendFollowup ou su pa).allowed = false := by
  cases su <;> first | rfl | simp [nonActiveStatuses,terminalStatuses] at h

/-- A message is admitted to the line of a run that is not over, or writes nothing. -/
lemma sendFollowupMessage_ok {cf : ContinuationConfig} {ca : Instant}
    {co gid : String} {key : ClientKey} {dw : Drawing} {an : MessageOutcome}
    (h : sendFollowupMessage ou cf ca s run co gid key dw = .ok (t,an)) :
    t = s ∨ (∃ su ∈ statusOf run s, su ∉ nonActiveStatuses) ∧
      ∃ row, t.controlActions.rows = s.controlActions.rows ++ [row] := by
  rcases sendFollowupMessage_cases h with
    hs | ⟨th,rq,qu,row,ht,ha,-,hadm⟩
  · exact .inl hs
  refine .inr ⟨⟨th.status,?_,?_⟩,row,hadm.rows⟩
  · rw [statusOf,ht]
    rfl
  · intro hsh
    rw [canSendFollowup_shut hsh] at ha
    cases ha

end

section
variable {outside ou : Outside} {config cf : ContinuationConfig} {createdAt ca : Instant} {run : String}
variable {g g' : Gateway} {s t : Store} {call : Call} {answer an : Answer}

structure Observed (config : ContinuationConfig) (createdAt : Instant) (run : String) (s : Store)
    (pass : Pass) : Prop where
  threadId : pass.decision.threadId = run
  lifetime : pass.decision.lifetimeDeadlineAt = runLifetimeDeadline config createdAt
  action : ∃ row ∈ s.controlActions.rows, row.id = pass.actionId ∧ row.threadId = run ∧
    row.dispatchId = some pass.decision.dispatchId

lemma observeRun_observed {pa : Pass} (h : observeRun ou.fingerprint cf ca s run = some pa) :
    Observed cf ca run s pa := by
  unfold observeRun at h
  split at h
  · cases h
  split_ifs at h
  dsimp only at h
  split at h
  · cases h
  rename_i ac ha
  obtain ⟨rc,hre,rfl⟩ := Option.map_eq_some_iff.1 h
  obtain ⟨hm,hru,-⟩ := getControlActionByDispatchId_ok ha
  exact ⟨rfl,rfl,ac,hm,rfl,hru,(validateCurrentGraphReceipt_names hre).2.2.1⟩

lemma Observed.held {pa : Pass} (h : Observed cf ca run s pa)
    (hh : ActionsHeld run s t) : Observed cf ca run t pa := by
  obtain ⟨row,hrow,hid,hru,hd⟩ := h.action
  obtain ⟨la,hl,hi',hr',hd'⟩ := hh row hrow hru
  exact ⟨h.threadId,h.lifetime,la,hl,hi'.trans hid,hr',hd'.trans hd⟩

/-- A step writes nothing, admits a message to a run that is not over, or does what other work
on the run may do. -/
inductive Written (run : String) (s t : Store) : Prop
  | nothing : t = s → Written run s t
  | admitted (status : ThreadStatus) (row : ControlActionModel) :
      status ∈ statusOf run s → status ∉ nonActiveStatuses →
      t.controlActions.rows = s.controlActions.rows ++ [row] → Written run s t
  | elsewhere : Elsewhere run s t → Written run s t

lemma Written.held (h : Written run s t) : ActionsHeld run s t := by
  intro a ha hru
  cases h with
  | nothing hs => exact ⟨a,hs ▸ ha,rfl,hru,rfl⟩
  | admitted su row _ _ hro =>
    refine ⟨a,?_,rfl,hru,rfl⟩
    rw [hro]
    exact mem_append_left _ ha
  | elsewhere hel => exact hel.journal a ha hru

/-- A call that settles nothing writes what a step may write, and any other is settled as its
ending says. -/
lemma perform_cases (hp : ∀ pa ∈ g.passes, Observed cf ca run g.store pa) (hw : call.Witnessed g)
    (h : perform ou cf ca run g.store call = .ok (t,an)) :
    (an.settled = none ∧ Written run g.store t) ∨ ∃ en oc,
      call.ending = some en ∧ an.settled = some oc ∧
      Settled run en g.store t oc := by
  cases call with
  | message co gid key dw =>
    obtain ⟨⟨t',oc⟩,hse,hre⟩ := bind_ok.1 h
    cases hre
    rcases sendFollowupMessage_ok hse with hsa | ⟨⟨su,hst,hl⟩,row,hro⟩
    · exact .inl ⟨rfl,.nothing hsa⟩
    · exact .inl ⟨rfl,.admitted su row hst hl hro⟩
  | complete pa oa sa =>
    obtain ⟨⟨t',rs⟩,hrec,hre⟩ := bind_ok.1 h
    cases hre
    obtain ⟨hru,-,row,hrow,hid,ht,hd⟩ := hp pa hw
    rcases reconcileCompletedCheckpoint_cases hrec with
      ⟨oc,rfl,-,hs⟩ | ⟨hs,pr,rfl,-⟩ | ⟨-,w,da,rfl,⟨st⟩⟩
    · rw [hru] at hs
      exact .inr ⟨_,oc,rfl,rfl,settleTerminal_settled hs hrow hid ht hd⟩
    · exact .inl ⟨rfl,.nothing hs⟩
    · refine .inl ⟨rfl,.elsewhere (.of_lineKept (reconcileCompletedCheckpoint_lineKept hrec) ?_)⟩
      exact hru ▸ (promoted_moved st).2
  | cancelled ev sa =>
    obtain ⟨⟨t',oc⟩,hs,hre⟩ := bind_ok.1 h
    cases hre
    rcases settleProvenTerminal_settled (fun _ _ _ => provenCancellation_proves) hs with
      ⟨rfl,hsa⟩ | ⟨oc,rfl,hse⟩
    · exact .inl ⟨rfl,.nothing hsa⟩
    · exact .inr ⟨_,oc,rfl,rfl,hse⟩
  | failed ev re sa =>
    obtain ⟨⟨t',oc⟩,hs,hre⟩ := bind_ok.1 h
    cases hre
    rcases settleProvenTerminal_settled (fun _ _ _ => provenFailure_proves) hs with
      ⟨rfl,hsa⟩ | ⟨oc,rfl,hse⟩
    · exact .inl ⟨rfl,.nothing hsa⟩
    · exact .inr ⟨_,oc,rfl,rfl,hse⟩
  | swept li re sa =>
    obtain ⟨⟨t',oc⟩,hs,hre⟩ := bind_ok.1 h
    cases hre
    exact .inr ⟨_,oc,rfl,rfl,failReconcilingRun_settled hs⟩
  | elects call =>
    obtain ⟨⟨t',oc⟩,hel,hre⟩ := bind_ok.1 h
    cases hre
    exact .inl ⟨rfl,.elsewhere (elect_elsewhere hel)⟩

def Sound (config : ContinuationConfig) (createdAt : Instant) (run : String) (g : Gateway) :
    Prop :=
  ∀ pass ∈ g.passes, Observed config createdAt run g.store pass

lemma Move.written (hm : Move ou cf ca run g l g')
    (h : Sound cf ca run g) : Written run g.store g'.store := by
  cases hm with
  | performed hw hp =>
    rcases perform_cases h hw hp with ⟨-,hwr⟩ | ⟨en,oc,-,-,⟨-,hs⟩ | ⟨-,-,hel⟩⟩
    · exact hwr
    · exact .nothing hs
    · exact .elsewhere hel
  | raised _ _ => exact .nothing rfl
  | observed _ => exact .nothing rfl
  | listed _ _ => exact .nothing rfl
  | elsewhere hel => exact .elsewhere hel

lemma Move.sound (h : Sound cf ca run g) (hm : Move ou cf ca run g l g') : Sound cf ca run g' := by
  have hh := (hm.written h).held
  cases hm with
  | observed ho =>
    intro pa hp
    rcases mem_append.1 hp with hold | hn
    · exact h pa hold
    · rw [mem_singleton.1 hn]
      exact observeRun_observed ho
  | performed _ _ => exact fun pa hp => (h pa hp).held hh
  | raised _ _ => exact h
  | listed _ _ => exact h
  | elsewhere _ => exact fun pa hp => (h pa hp).held hh

def Shut (run : String) (s : Store) : Prop := ∀ status ∈ statusOf run s, status ∈ nonActiveStatuses

lemma permitted_nonActive {p q : ThreadStatus} (h : Permitted p q)
    (hb : p ∈ nonActiveStatuses) : q ∈ nonActiveStatuses := by
  rcases h with hv | ⟨-,rfl⟩
  · revert hv hb
    cases p <;> cases q <;> decide
  · decide

lemma Written.shut (h : Written run s t) (hs : Shut run s) :
    Shut run t ∧ waitingIds run t ⊆ waitingIds run s := by
  cases h with
  | nothing hsa =>
    rw [hsa]
    exact ⟨hs,List.Subset.refl _⟩
  | admitted su row hst hl _ => exact (hl (hs su hst)).elim
  | elsewhere hel =>
    refine ⟨?_,hel.line⟩
    intro q ha
    obtain ⟨p,hb,hm⟩ := hel.status q ha
    rcases hm with rfl | hp
    · exact hs q hb
    · exact permitted_nonActive hp (hs p hb)

/-- What the settlements of a run keep to, from a state of its history on. -/
structure Final (outside : Outside) (config : ContinuationConfig) (createdAt : Instant)
    (run : String) (g : Gateway) : Prop where
  /-- A settlement that wins its election ends the run in one transaction. -/
  won : ∀ call ending answer g', call.ending = some ending →
    Move outside config createdAt run g (.call call (.ok answer)) g' →
    answer.settled = some .won → Ended run ending g'.store
  /-- A settlement that does not win writes nothing. -/
  lost : ∀ call answer outcome g',
    Move outside config createdAt run g (.call call (.ok answer)) g' →
    answer.settled = some outcome → outcome ≠ .won → g'.store = g.store
  /-- Nothing joins the line of a run that has ended. -/
  closed : ∀ labels g', Run (Move outside config createdAt run) g labels g' →
    (∃ status ∈ statusOf run g.store, status ∈ terminalStatuses) →
    waitingIds run g'.store ⊆ waitingIds run g.store
  /-- While a continuation waits within the run's lifetime, a completed turn does not end the
  run. -/
  deferred : ∀ pass observedAt settledAt answer g',
    Move outside config createdAt run g (.call (.complete pass observedAt settledAt) answer) g' →
    observedAt < runLifetimeDeadline config createdAt → waitingLine g.store run ≠ [] →
    (∀ outcome, answer ≠ .ok (.reconciliation (.settlement outcome))) ∧
      (statusOf run g'.store = statusOf run g.store ∨ statusOf run g'.store = some .running)

lemma Move.deferred (h : Sound cf ca run g) {pa : Pass}
    {oa sa : Instant} {rs : Except Raised Answer}
    (hm : Move ou cf ca run g (.call (.complete pa oa sa) rs) g')
    (hea : oa < runLifetimeDeadline cf ca)
    (hw : waitingLine g.store run ≠ []) :
    (∀ oc, rs ≠ .ok (.reconciliation (.settlement oc))) ∧
      (statusOf run g'.store = statusOf run g.store ∨ statusOf run g'.store = some .running) := by
  cases hm with
  | raised _ _ => exact ⟨nofun,.inl rfl⟩
  | performed hwi hp =>
    obtain ⟨⟨t',re⟩,hre,hret⟩ := bind_ok.1 hp
    cases hret
    have ho := h pa hwi
    rcases reconcileCompletedCheckpoint_cases hre with
      ⟨oc,-,hs | hem,-⟩ | ⟨rfl,pr,rfl,-⟩ | ⟨-,w,da,rfl,⟨st⟩⟩
    · exact (not_le.2 hea (ho.lifetime ▸ hs)).elim
    · rw [ho.threadId] at hem
      exact (hw (argmin_eq_none.1 hem)).elim
    · exact ⟨nofun,.inl rfl⟩
    · exact ⟨nofun,.inr (ho.threadId ▸ (promoted_moved st).1)⟩

lemma Run.shut {ls : List Label} (hru : Run (Move ou cf ca run) g ls g')
    (h : Sound cf ca run g) (hs : Shut run g.store) :
    waitingIds run g'.store ⊆ waitingIds run g.store := by
  have hi : Sound cf ca run g' ∧ Shut run g'.store ∧
      waitingIds run g'.store ⊆ waitingIds run g.store := by
    refine hru.invariant (fun v => Sound cf ca run v ∧ Shut run v.store ∧
      waitingIds run v.store ⊆ waitingIds run g.store) ?_ ⟨h,hs,List.Subset.refl _⟩
    rintro v l v' ⟨hso,hs,hl⟩ hm
    obtain ⟨hs',hl'⟩ := (hm.written hso).shut hs
    exact ⟨hm.sound hso,hs',List.Subset.trans hl' hl⟩
  exact hi.2.2

/-- Over every interleaving of settlements, messages, promotions and elections of a run. -/
theorem settlements_final {s₀ : Store} {labels : List Label}
    (hrun : Run (Move outside config createdAt run) ⟨s₀,[],[]⟩ labels g) :
    Final outside config createdAt run g := by
  have hs : Sound config createdAt run g := by
    refine hrun.invariant (Sound config createdAt run) (fun h hm => hm.sound h) ?_
    exact forall_mem_nil _
  refine ⟨?_,?_,?_,?_⟩
  · intro call ending answer g' hen hm hwo
    cases hm with
    | performed hwi hp =>
      rcases perform_cases hs hwi hp with ⟨hno,-⟩ | ⟨_,_,hen',hse,⟨hm,-⟩ | ⟨-,hend,-⟩⟩
      · cases hno.symm.trans hwo
      · exact (hm (Option.some.inj (hse.symm.trans hwo))).elim
      · cases hen.symm.trans hen'
        exact hend
  · intro call answer outcome g' hm hse hmi
    cases hm with
    | performed hwi hp =>
      rcases perform_cases hs hwi hp with ⟨hno,-⟩ | ⟨_,_,-,hse',⟨-,hsa⟩ | ⟨rfl,-⟩⟩
      · cases hno.symm.trans hse
      · exact hsa
      · exact (hmi (Option.some.inj (hse.symm.trans hse'))).elim
  · rintro labels g' hl ⟨status,hst,ht⟩
    refine Run.shut hl hs ?_
    intro other ho
    cases hst.symm.trans ho
    exact mem_append_left _ ht
  · intro pass observedAt settledAt result g' hm hea hw
    exact hm.deferred hs hea hw

end

def firstTurn : Except Raised Store := do
  let admitted ← admitRun Store.empty "run-1" "receipt-1" (soloMessage "start") 60
    ⟨"action-1","unused-1"⟩
  let (bound,_) ← prepareGraphActionReceipt FollowupMessages.digestOutside.fingerprint admitted
    "run-1" "receipt-1" none
  .ok bound

/-- A message to a run is promoted when the first turn completes, and the second turn ends the
run. -/
theorem settlements_final_two_turns : ∃ s₀ g labels pass g', firstTurn = .ok s₀ ∧
    Run (Move FollowupMessages.digestOutside {} 0 "run-1") ⟨s₀,[],[]⟩ labels g ∧
    Move FollowupMessages.digestOutside {} 0 "run-1" g
      (.call (.complete pass 30 30) (.ok (.reconciliation (.settlement .won)))) g' ∧
    Ended "run-1" ⟨.completed,pass.decision.dispatchId,.applied,30⟩ g'.store ∧
    Final FollowupMessages.digestOutside {} 0 "run-1" g := by
  have ht : ∃ s₀ first s₁ sent s₂ promoted deadlineAt second s₃, firstTurn = .ok s₀ ∧
      observeRun FollowupMessages.digestOutside.fingerprint {} 0 s₀ "run-1" = some first ∧
      perform FollowupMessages.digestOutside {} 0 "run-1" s₀ (.message "go on" "agent-1"
        FollowupMessages.plainKey (PermissionAsks.drawingAt 10 "action-2" "dispatch-2")) =
          .ok (s₁,.message sent) ∧
      perform FollowupMessages.digestOutside {} 0 "run-1" s₁ (.complete first 20 20) =
        .ok (s₂,.reconciliation (.promotion (.promoted promoted deadlineAt))) ∧
      observeRun FollowupMessages.digestOutside.fingerprint {} 0 s₂ "run-1" = some second ∧
      perform FollowupMessages.digestOutside {} 0 "run-1" s₂ (.complete second 30 30) =
        .ok (s₃,.reconciliation (.settlement .won)) :=
    ⟨_,_,_,_,_,_,_,_,_,rfl,rfl,rfl,rfl,rfl,rfl⟩
  obtain ⟨s₀,first,s₁,sent,s₂,promoted,deadlineAt,second,s₃,h₀,hfi,hse,hp,hs,hset⟩ := ht
  have hru : Run (Move FollowupMessages.digestOutside {} 0 "run-1") ⟨s₀,[],[]⟩ _
      ⟨s₂,[first,second],[]⟩ :=
    .step (.observed hfi) (.step (.performed (by exact trivial) hse)
      (.step (.performed (by exact mem_singleton_self first) hp) (.single (.observed hs))))
  have hm : Move FollowupMessages.digestOutside {} 0 "run-1" ⟨s₂,[first,second],[]⟩
      (.call (.complete second 30 30) (.ok (.reconciliation (.settlement .won)))) _ :=
    .performed (mem_cons_of_mem _ mem_cons_self) hset
  have hf := settlements_final hru
  exact ⟨s₀,_,_,second,_,h₀,hru,hm,hf.won _ _ _ _ rfl hm rfl,hf⟩

end VaultspecA2A.TerminalSettlement
