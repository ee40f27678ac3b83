import VaultspecA2A.Lines
import VaultspecA2A.PermissionJournal

/-!
# The queue of continuations

A message to a busy run is reserved as a waiting journal row. The row has a place and
a lease, and neither a receipt nor a deadline of its own turn: it does not own the run.
The settlement of the turn before it either promotes the row with the lowest place, in
the transaction that would have ended the run, or ends the run and refuses all rows
that wait on it. Depth and cap are counted in the transaction of the reservation.

The store serialises these transactions; each is one step here.
-/
namespace VaultspecA2A.ContinuationQueue
open Runs Lines Tables ThreadLifecycle Database ControlActions ThreadElections ActionLeases List
open ActionClaims PermissionJournal

def isWaiting (a : ControlActionModel) : Bool := decide (a.resultStatus = .queued)

def waitsOn (threadId : String) (a : ControlActionModel) : Bool :=
  decide (a.threadId = threadId) && isWaiting a

/-- The rows that wait on a run, in the order of the journal. -/
def waitingLine (s : Store) (threadId : String) : List ControlActionModel :=
  s.controlActions.rows.filter (waitsOn threadId)

/-- The number of a row's place; a row without one sorts first. -/
def placeOf (a : ControlActionModel) : ℕ := a.queuePosition.getD 0

def countQueuedContinuations (s : Store) (threadId : Option String) : ℕ :=
  match threadId with
  | none => s.controlActions.affected isWaiting
  | some run => s.controlActions.affected (waitsOn run)

def nextQueuePosition (s : Store) (threadId : String) : ℕ :=
  nextPlace placeOf (waitingLine s threadId)

def updateActions (s : Store) (wanted : ControlActionModel → Bool)
    (values : ControlActionModel → ControlActionModel) : Except Raised Store :=
  match s.controlActions.updateWhere wanted values with
  | none => .error .integrityError
  | some actions => .ok { s with controlActions := actions }

/-- Mark a reserved action as waiting, at the next free place on its run. -/
def enqueueContinuation (s : Store) (action : ControlActionModel) : Except Raised (Store × ℕ) := do
  let position := nextQueuePosition s action.threadId
  let queued ← updateActions s (fun a => decide (a.id = action.id)) fun a =>
    { a with resultStatus := .queued, queuePosition := some position }
  .ok (queued,position)

def readNextQueuedContinuation (s : Store) (threadId : String) : Option ControlActionModel :=
  (waitingLine s threadId).argmin placeOf

/-- Settle every row that waits on a run as refused; each keeps its place. -/
def rejectQueuedContinuations (s : Store) (threadId : String) (rejectedAt : Instant) :
    Except Raised (Store × ℕ) := do
  let rejected ← updateActions s (waitsOn threadId) (settleApplied rejectedAt .rejectedInvalidState)
  .ok (rejected,(waitingLine s threadId).length)

structure ContinuationQueueLimits where
  perRunDepth : ℕ := 1
  serviceCap : ℕ := 64
deriving DecidableEq, Repr

structure ContinuationConfig where
  limits : ContinuationQueueLimits := {}
  maxRunLifetimeSeconds : ℕ := 86400
deriving DecidableEq, Repr

def runLifetimeDeadline (config : ContinuationConfig) (createdAt : Instant) : Instant :=
  createdAt + config.maxRunLifetimeSeconds * second

inductive QueuedContinuationDisposition
  | queued
  | replayed
  | conflict
  | queueFull
deriving DecidableEq, Repr

structure QueuedContinuation where
  disposition : QueuedContinuationDisposition
  actionId : String
  dispatchId : String
  position : Option ℕ
  claimToken : Option String
  resultStatus : ControlActionResultStatus := .queued
deriving DecidableEq, Repr

structure QueuedContinuationRequest where
  threadId : String
  idempotencyKey : String
  payload : ActionPayload
  dispatchId : String
  lifetimeDeadlineAt : Instant
  limits : ContinuationQueueLimits

def queueRefusal (s : Store) (request : QueuedContinuationRequest) : Option QueuedContinuation :=
  if request.limits.perRunDepth ≤ countQueuedContinuations s (some request.threadId) ∨
      request.limits.serviceCap ≤ countQueuedContinuations s none then
    some { disposition := .queueFull, actionId := "", dispatchId := request.dispatchId
           position := none, claimToken := none }
  else none

def QueuedContinuationRequest.args (request : QueuedContinuationRequest) : ActionArgs where
  threadId := request.threadId
  actionType := .messageFollowupRequested
  idempotencyKey := request.idempotencyKey
  payload := some request.payload
  dispatchId := some request.dispatchId
  recoveryDeadlineAt := some request.lifetimeDeadlineAt

def reserveQueuedContinuation (s : Store) (request : QueuedContinuationRequest) (now : Instant)
    (drawn : Drawn) (freshToken : String) : Except Raised (Store × QueuedContinuation) :=
  let held := getControlActionByIdempotencyKey s request.threadId request.idempotencyKey
  if held.isNone ∧ request.lifetimeDeadlineAt ≤ now then
    .error (.valueError "a waiting continuation needs a lifetime still to run")
  else
    match if held.isNone then queueRefusal s request else none with
    | some refusal => .ok (s,refusal)
    | none => do
        let (reserved,reservation) ← reserveControlAction s request.args drawn
        let action := reservation.action
        match action.dispatchId with
        | none => .error (.runtimeError "reserved continuation has no stable dispatch id")
        | some dispatchId =>
          if ¬ reservation.payloadMatches then
            .ok (reserved,⟨.conflict,action.id,dispatchId,action.queuePosition,none,
              action.resultStatus⟩)
          else if ¬ reservation.created then
            .ok (reserved,⟨.replayed,action.id,dispatchId,action.queuePosition,none,
              action.resultStatus⟩)
          else do
            let (leased,token) ← takeActionLease reserved action.id freshToken now
            let (queued,position) ← enqueueContinuation leased action
            .ok (queued,⟨.queued,action.id,dispatchId,some position,token,.queued⟩)

def promotedTurnDeadline (action : ControlActionModel)
    (promotedAt lifetimeDeadlineAt : Instant) : Option Instant :=
  match readAcceptedInput action with
  | none => none
  | some accepted =>
    if accepted.dispatch.verb ≠ "ingest" then none
    else
      some (min (promotedAt + accepted.dispatch.graphDefinition.runTimeoutSeconds * second)
        lifetimeDeadlineAt)

/-- Turn a waiting reservation into accepted work awaiting delivery. -/
def openPromotedContinuation (deadlineAt : Instant) (a : ControlActionModel) :
    ControlActionModel :=
  { a with
    resultStatus := .acceptedNotApplied
    recoveryDeadlineAt := some deadlineAt
    claimToken := none
    claimExpiresAt := none }

/-- What a recovery pass decided on before its transaction. -/
structure CheckpointDecision where
  threadId : String
  expectation : ThreadWriteExpectation
  actionType : ControlActionType
  dispatchId : String
  lifetimeDeadlineAt : Instant

inductive Promotion
  | nothingWaiting
  | notPromotable (reason : String)
  | promoted (actionId : String) (deadlineAt : Instant)
deriving DecidableEq, Repr

def ThreadStatusElectionOutcome.value : ThreadStatusElectionOutcome → String
  | .won => "won"
  | .lost => "lost"
  | .notFound => "not_found"
  | .receiptMismatch => "receipt_mismatch"

section
variable (fingerprint : ActionPayload → String)

/-- Hand the run to the continuation that waits behind a proven turn. A promotion that
fails is rolled back. -/
def promoteQueuedContinuation (s : Store) (settledActionId : String)
    (decision : CheckpointDecision) (promotedAt appliedAt : Instant) :
    Except Raised (Store × Promotion) :=
  match readNextQueuedContinuation s decision.threadId with
  | none => .ok (s,.nothingWaiting)
  | some waiting =>
    match promotedTurnDeadline waiting promotedAt decision.lifetimeDeadlineAt,
        waiting.dispatchId with
    | some deadlineAt, some dispatchId => do
        let opened ← updateActions s (fun a => decide (a.id = waiting.id))
          (openPromotedContinuation deadlineAt)
        let marked ← markControlActionApplied opened settledActionId appliedAt
        let (elected,outcome) ← electThreadStatus marked decision.threadId decision.expectation
          .running .messageFollowupRequested dispatchId
        if outcome ≠ .won then .ok (s,.notPromotable (ThreadStatusElectionOutcome.value outcome))
        else do
          let (bound,receipt) ←
            prepareGraphActionReceipt fingerprint elected decision.threadId dispatchId none
          if receipt.isNone then .ok (s,.notPromotable "receipt refused")
          else do
            let transition ← repairStateForAction .messageFollowupRequested .requested
            let repaired ← applyRepairTransition bound decision.threadId transition
            .ok (repaired,.promoted waiting.id deadlineAt)
    | _, _ => .ok (s,.notPromotable "unreadable accepted envelope")

end

def expirePendingPermissionRequests (s : Store) (threadId : String) (now : Instant) :
    Except Raised Store :=
  updateRequests s (fun row => decide (row.threadId = threadId) && isOutstanding row) fun row =>
    { row with
      requestStatus := .expiredByTerminalState
      appliedAt := row.appliedAt.or (some now) }

def runSettledTransition : RepairTransition := { repairStatus := .healthy }

def terminalRepairTransition (status : ThreadStatus) : Except Raised RepairTransition :=
  if status = .cancelled then repairStateForAction .cancel .applied else .ok runSettledTransition

/-- The action a proven terminal settles, and what settling it records. -/
structure TerminalEvidence where
  expectation : ThreadWriteExpectation
  actionId : String
  actionType : ControlActionType
  actionReceiptId : String
  resultStatus : ControlActionResultStatus := .applied
  failureReason : Option String := none
  providerCondition : Option String := none

def settleTerminal (s : Store) (threadId : String) (status : ThreadStatus)
    (evidence : TerminalEvidence) (settledAt : Instant) :
    Except Raised (Store × ThreadStatusElectionOutcome) := do
  let (elected,outcome) ← electThreadStatus s threadId evidence.expectation status
    evidence.actionType evidence.actionReceiptId evidence.failureReason evidence.providerCondition
  if outcome ≠ .won then .ok (elected,outcome)
  else do
    let (refused,_) ← rejectQueuedContinuations elected threadId settledAt
    let expired ← expirePendingPermissionRequests refused threadId settledAt
    let cleared ← setThreadApprovalState expired threadId none none (some none)
    let marked ←
      markControlActionApplied cleared evidence.actionId settledAt evidence.resultStatus
    let transition ← terminalRepairTransition status
    let repaired ← applyRepairTransition marked threadId transition
    .ok (repaired,outcome)

inductive Reconciliation
  | promotion (result : Promotion)
  | settlement (outcome : ThreadStatusElectionOutcome)
deriving DecidableEq, Repr

/-- Promote the next continuation of a run that completed its turn, or end the run. Past
the run's lifetime nothing is promoted. -/
def reconcileCompletedCheckpoint (fingerprint : ActionPayload → String) (s : Store)
    (actionId : String) (decision : CheckpointDecision) (observedAt settledAt : Instant) :
    Except Raised (Store × Reconciliation) := do
  let (tried,promotion) ←
    (if decision.lifetimeDeadlineAt ≤ observedAt then .ok (s,.nothingWaiting)
      else promoteQueuedContinuation fingerprint s actionId decision observedAt settledAt)
  match promotion with
  | .nothingWaiting => do
      let (settled,outcome) ← settleTerminal tried decision.threadId .completed
        { expectation := decision.expectation, actionId := actionId
          actionType := decision.actionType, actionReceiptId := decision.dispatchId } settledAt
      .ok (settled,.settlement outcome)
  | result => .ok (tried,.promotion result)

/-- The same row at the same place; it may leave the line, and never enters it. -/
structure HeldPlace (a b : ControlActionModel) : Prop extends SameIntention a b where
  queuePosition : b.queuePosition = a.queuePosition
  waited : isWaiting b = true → isWaiting a = true

structure HeldTurn (a b : ControlActionModel) : Prop extends HeldPlace a b where
  recoveryDeadlineAt : b.recoveryDeadlineAt = a.recoveryDeadlineAt

lemma HeldPlace.refl (a : ControlActionModel) : HeldPlace a a := ⟨.refl a,rfl,id⟩

lemma HeldPlace.trans (h : HeldPlace a b) (g : HeldPlace b c) : HeldPlace a c :=
  ⟨h.toSameIntention.trans g.toSameIntention,g.queuePosition.trans h.queuePosition,
    fun hc => h.waited (g.waited hc)⟩

lemma HeldTurn.refl (a : ControlActionModel) : HeldTurn a a := ⟨.refl a,rfl⟩

lemma HeldTurn.trans (h : HeldTurn a b) (g : HeldTurn b c) : HeldTurn a c :=
  ⟨h.toHeldPlace.trans g.toHeldPlace,g.recoveryDeadlineAt.trans h.recoveryDeadlineAt⟩

lemma HeldPlace.not_waiting (h : HeldPlace a b)
    (ha : isWaiting a = false) : isWaiting b = false := by
  rw [Bool.eq_false_iff] at ha ⊢
  exact fun hb => ha (h.waited hb)

/-- No row joins a line, and every row of the journal stays as `Keeps` allows. -/
def LineKept (Keeps : ControlActionModel → ControlActionModel → Prop) (s t : Store) : Prop :=
  s.controlActions.Rewrites Keeps (fun a => isWaiting a = false) t.controlActions

section
variable {s t u : Store} {threadId tid : String}

lemma LineKept.of_eq (h : t.controlActions = s.controlActions) : LineKept HeldTurn s t := by
  unfold LineKept
  rw [h]
  exact .refl HeldTurn.refl _

lemma LineKept.place (h : LineKept HeldTurn s t) : LineKept HeldPlace s t :=
  Table.Rewrites.weaken HeldTurn.toHeldPlace h

lemma LineKept.trans (h : LineKept HeldPlace s t) (g : LineKept HeldPlace t u) :
    LineKept HeldPlace s u := by
  refine Table.Rewrites.trans ?_ ?_ h g
  · exact fun k l => k.trans l
  · exact fun k ha => k.not_waiting ha

lemma LineKept.turns (h : LineKept HeldTurn s t) (g : LineKept HeldTurn t u) :
    LineKept HeldTurn s u := by
  refine Table.Rewrites.trans ?_ ?_ h g
  · exact fun k l => k.trans l
  · exact fun k ha => k.toHeldPlace.not_waiting ha

lemma updateActions_ok (h : updateActions s wa vs = .ok t) :
    t = { s with controlActions := t.controlActions } ∧
      s.controlActions.updateWhere wa vs = some t.controlActions := by
  unfold updateActions at h
  split at h
  · cases h
  · rename_i ac hup
    cases h
    exact ⟨rfl,hup⟩

/-- A settled row does not wait: the journal refuses one that is applied and waiting. -/
lemma settleApplied_heldTurn (h : (settleApplied at' su a).Check) :
    HeldTurn a (settleApplied at' su a) := by
  refine ⟨⟨⟨rfl,rfl,rfl,rfl,rfl,rfl,rfl⟩,rfl,fun hw => ?_⟩,rfl⟩
  have ho := (h.2.2 (of_decide_eq_true hw)).2.2
  cases ho

variable {actionId aid : String}

lemma markControlActionApplied_lineKept
    (h : markControlActionApplied s aid now su = .ok t) : LineKept HeldTurn s t :=
  .updateWhere HeldTurn.refl (fun _ _ hc => settleApplied_heldTurn hc)
    (markControlActionApplied_ok h).2

lemma rejectQueuedContinuations_lineKept (h : rejectQueuedContinuations s tid ra = .ok (t,co)) :
    LineKept HeldTurn s t := by
  obtain ⟨re,hu,hre⟩ := bind_ok.1 h
  cases hre
  exact .updateWhere HeldTurn.refl (fun _ _ hc => settleApplied_heldTurn hc)
    (updateActions_ok hu).2

lemma updateThread_lineKept (h : updateThread s tid vs = .ok t) : LineKept HeldTurn s t :=
  .of_eq (by rw [(updateThread_ok h).1])

lemma updateRequests_lineKept (h : updateRequests s wa vs = .ok t) : LineKept HeldTurn s t :=
  .of_eq (by rw [(updateRequests_ok h).1])

lemma electThreadStatus_lineKept (h : electThreadStatus s tid ex su ty ri rs co =
    .ok (t,oc)) : LineKept HeldTurn s t :=
  .of_eq (by rw [(electThreadStatus_ok h).1])

lemma persistGraphActionReceipt_lineKept (h : persistGraphActionReceipt s rc ex = .ok (t,st)) :
    LineKept HeldTurn s t := by
  rcases persistGraphActionReceipt_ok h with rfl | ⟨-,p,hup⟩
  · exact .of_eq rfl
  have hf : ∀ a, HeldTurn a (attachReceipt rc a) :=
    fun a => ⟨⟨⟨rfl,rfl,rfl,rfl,rfl,rfl,rfl⟩,rfl,id⟩,rfl⟩
  exact .updateWhere HeldTurn.refl (fun a _ _ => hf a) hup

lemma prepareGraphActionReceipt_none
    (h : prepareGraphActionReceipt fp s tid did none = .ok (t,rc)) :
    LineKept HeldTurn s t ∧ t.threads = s.threads := by
  obtain ⟨s',hi,hp⟩ := prepareGraphActionReceipt_ok h
  have hs : s' = s := by
    rcases hi with hs | ⟨run,ty,wi,oc,hfr,-⟩
    · exact hs
    · cases hfr
  subst hs
  rcases hp with rfl | ⟨na,ex,st,hp⟩
  · exact ⟨.of_eq rfl,rfl⟩
  refine ⟨persistGraphActionReceipt_lineKept hp,?_⟩
  rcases persistGraphActionReceipt_ok hp with rfl | ⟨hf,-⟩
  · rfl
  · rw [hf]

/-- A settlement that won, stage by stage. -/
structure Stages (s : Store) (threadId : String) (status : ThreadStatus)
    (evidence : TerminalEvidence) (settledAt : Instant) (t : Store) where
  elected : Store
  refused : Store
  expired : Store
  cleared : Store
  marked : Store
  elects : electThreadStatus s threadId evidence.expectation status evidence.actionType
    evidence.actionReceiptId evidence.failureReason evidence.providerCondition = .ok (elected,.won)
  refuses : ∃ count, rejectQueuedContinuations elected threadId settledAt = .ok (refused,count)
  expires : expirePendingPermissionRequests refused threadId settledAt = .ok expired
  clears : setThreadApprovalState expired threadId none none (some none) = .ok cleared
  marks : markControlActionApplied cleared evidence.actionId settledAt evidence.resultStatus =
    .ok marked
  repairs : ∃ transition, applyRepairTransition marked threadId transition = .ok t

/-- A settlement lost its election and wrote nothing, or went through every stage. -/
lemma settleTerminal_ok (h : settleTerminal s tid su ev sa = .ok (t,oc)) : (oc ≠ .won ∧ t = s) ∨
    (oc = .won ∧ Nonempty (Stages s tid su ev sa t)) := by
  obtain ⟨⟨el,ou⟩,hel,h⟩ := bind_ok.1 h
  dsimp only at h
  split_ifs at h with hm
  · cases h
    have hc : elect s tid (.status ev.expectation su ev.actionType
      ev.actionReceiptId ev.failureReason ev.providerCondition) = .ok (t,oc) := hel
    exact .inl ⟨hm,elect_missed hm hc⟩
  rw [not_not] at hm
  subst hm
  obtain ⟨⟨re,co⟩,hre,h⟩ := bind_ok.1 h
  obtain ⟨ex,hex,h⟩ := bind_ok.1 h
  obtain ⟨cl,hcl,h⟩ := bind_ok.1 h
  obtain ⟨ma,hma,h⟩ := bind_ok.1 h
  obtain ⟨tr,-,h⟩ := bind_ok.1 h
  obtain ⟨rp,hrep,hret⟩ := bind_ok.1 h
  cases hret
  exact .inr ⟨rfl,⟨el,re,ex,cl,ma,hel,⟨co,hre⟩,hex,hcl, hma,tr,hrep⟩⟩

lemma Stages.lineKept (st : Stages s tid su ev sa t) : LineKept HeldTurn s t := by
  obtain ⟨co,hre⟩ := st.refuses
  obtain ⟨tr,hrep⟩ := st.repairs
  have hli := (electThreadStatus_lineKept st.elects).turns (rejectQueuedContinuations_lineKept hre)
  have hru := (updateRequests_lineKept st.expires).turns (updateThread_lineKept st.clears)
  have hl := (markControlActionApplied_lineKept st.marks).turns (updateThread_lineKept hrep)
  exact (hli.turns hru).turns hl

lemma settleTerminal_lineKept (h : settleTerminal s tid su ev sa = .ok (t,oc)) :
    LineKept HeldTurn s t := by
  rcases settleTerminal_ok h with ⟨-,rfl⟩ | ⟨-,⟨st⟩⟩
  · exact .of_eq rfl
  · exact st.lineKept

/-- A promotion that went through, stage by stage. -/
structure Promoted (fingerprint : ActionPayload → String) (s : Store) (settledActionId : String)
    (decision : CheckpointDecision) (promotedAt appliedAt : Instant) (deadlineAt : Instant)
    (waiting : ControlActionModel) (t : Store) where
  dispatchId : String
  opened : Store
  marked : Store
  elected : Store
  bound : Store
  next : readNextQueuedContinuation s decision.threadId = some waiting
  deadline : promotedTurnDeadline waiting promotedAt decision.lifetimeDeadlineAt = some deadlineAt
  opens : updateActions s (fun a => decide (a.id = waiting.id))
    (openPromotedContinuation deadlineAt) = .ok opened
  marks : markControlActionApplied opened settledActionId appliedAt = .ok marked
  elects : electThreadStatus marked decision.threadId decision.expectation .running
    .messageFollowupRequested dispatchId = .ok (elected,.won)
  binds : ∃ receipt, prepareGraphActionReceipt fingerprint elected decision.threadId dispatchId
    none = .ok (bound,receipt)
  repairs : ∃ transition, applyRepairTransition bound decision.threadId transition = .ok t

variable {fp : ActionPayload → String}
variable {decision d : CheckpointDecision}

lemma promoteQueuedContinuation_cases (h : promoteQueuedContinuation fp s sai d pa aa =
      .ok (t,re)) :
    (t = s ∧ (∀ aid da, re ≠ .promoted aid da) ∧
      (re = .nothingWaiting → readNextQueuedContinuation s d.threadId = none)) ∨
      ∃ w da, re = .promoted w.id da ∧ Nonempty (Promoted fp s sai d pa aa da w t) := by
  unfold promoteQueuedContinuation at h
  split at h
  · rename_i hno
    cases h
    exact .inl ⟨rfl,nofun,fun _ => hno⟩
  rename_i w hn
  split at h
  · rename_i da did hd hdi
    obtain ⟨opened,ho,h⟩ := bind_ok.1 h
    obtain ⟨ma,hma,h⟩ := bind_ok.1 h
    obtain ⟨⟨el,oc⟩,hel,h⟩ := bind_ok.1 h
    dsimp only at h
    split_ifs at h with hm
    · cases h
      exact .inl ⟨rfl,nofun,nofun⟩
    rw [not_not] at hm
    subst hm
    obtain ⟨⟨bo,rc⟩,hb,h⟩ := bind_ok.1 h
    dsimp only at h
    split_ifs at h
    · cases h
      exact .inl ⟨rfl,nofun,nofun⟩
    obtain ⟨tr,-,h⟩ := bind_ok.1 h
    obtain ⟨rp,hre,hret⟩ := bind_ok.1 h
    cases hret
    exact .inr ⟨w,da,rfl,⟨did,opened,ma,el,bo,hn,hd,ho,hma,hel,⟨rc,hb⟩,tr,hre⟩⟩
  · cases h
    exact .inl ⟨rfl,nofun,nofun⟩

lemma Promoted.opensLine (st : Promoted fp s sai d pa
    aa da w t) : LineKept HeldPlace s st.opened := by
  refine Table.Rewrites.updateWhere HeldPlace.refl (fun a _ _ => ?_) (updateActions_ok st.opens).2
  exact ⟨⟨rfl,rfl,rfl,rfl,rfl,rfl,rfl⟩,rfl,nofun⟩

lemma Promoted.keepsOpened (st : Promoted fp s sai d pa
    aa da w t) : LineKept HeldTurn st.opened t := by
  obtain ⟨rc,hb⟩ := st.binds
  obtain ⟨tr,hre⟩ := st.repairs
  have hbo := (markControlActionApplied_lineKept st.marks).turns
    ((electThreadStatus_lineKept st.elects).turns (prepareGraphActionReceipt_none hb).1)
  exact hbo.turns (updateThread_lineKept hre)

lemma Promoted.row (st : Promoted fp s sai d pa aa da w t) : da ≤ d.lifetimeDeadlineAt ∧
    ∃ row, getControlAction t w.id = some row ∧ row.recoveryDeadlineAt = some da := by
  constructor
  · have hd := st.deadline
    unfold promotedTurnDeadline at hd
    split at hd
    · cases hd
    split_ifs at hd
    cases hd
    exact min_le_right _ _
  · -- the opened row reaches the end of the transaction with the deadline it was given
    have hw : w ∈ s.controlActions.rows := mem_of_mem_filter (argmin_mem st.next)
    have hm : openPromotedContinuation da w ∈ st.opened.controlActions.rows :=
      (Table.mem_of_updateWhere (updateActions_ok st.opens).2).2 ⟨w,hw,by simp [Table.changed]⟩
    obtain ⟨row,hrow,hh⟩ := Table.Rewrites.kept st.keepsOpened hm
    refine ⟨row,?_,hh.recoveryDeadlineAt⟩
    have hid : row.id = w.id := hh.id
    rw [← hid]
    exact Table.lookup_of_mem ControlActionModel.id action_id_unique hrow

/-- The evidence a reconciliation settles a completed turn with. -/
def CheckpointDecision.evidence (decision : CheckpointDecision) (actionId : String) :
    TerminalEvidence where
  expectation := decision.expectation
  actionId := actionId
  actionType := decision.actionType
  actionReceiptId := decision.dispatchId

/-- How a completed turn is reconciled: the run is settled, where nothing waited or its
lifetime was over; or nothing is written; or the next turn is promoted. -/
lemma reconcileCompletedCheckpoint_cases (h : reconcileCompletedCheckpoint fp s aid d oa sa =
      .ok (t,re)) :
    (∃ oc, re = .settlement oc ∧ (d.lifetimeDeadlineAt ≤ oa ∨
        readNextQueuedContinuation s d.threadId = none) ∧
      settleTerminal s d.threadId .completed (d.evidence aid) sa = .ok (t,oc)) ∨
    (t = s ∧ ∃ pr, re = .promotion pr ∧ ∀ promoted da, pr ≠ .promoted promoted da) ∨
    oa < d.lifetimeDeadlineAt ∧ ∃ w da, re = .promotion (.promoted w.id da) ∧
      Nonempty (Promoted fp s aid d oa sa da w t) := by
  obtain ⟨⟨tr,pr⟩,ht,h⟩ := bind_ok.1 h
  dsimp only at h
  have hs : pr = .nothingWaiting → tr = s → ∃ oc, re = .settlement oc ∧ settleTerminal s d.threadId
        .completed (d.evidence aid) sa = .ok (t,oc) := by
    intro hp hs
    rw [hp,hs] at h
    obtain ⟨⟨settled,oc⟩,hse,hre⟩ := bind_ok.1 h
    cases hre
    exact ⟨oc,rfl,hse⟩
  split_ifs at ht with hsp
  · cases ht
    obtain ⟨oc,hre,hse⟩ := hs rfl rfl
    exact .inl ⟨oc,hre,.inl hsp,hse⟩
  rcases promoteQueuedContinuation_cases ht with ⟨rfl,hn,hno⟩ | ⟨w,da,rfl,st⟩
  · cases pr with
    | nothingWaiting =>
      obtain ⟨oc,hre,hse⟩ := hs rfl rfl
      exact .inl ⟨oc,hre,.inr (hno rfl),hse⟩
    | notPromotable rs =>
      cases h
      exact .inr (.inl ⟨rfl,_,rfl,hn⟩)
    | promoted aid da => exact (hn _ _ rfl).elim
  · cases h
    exact .inr (.inr ⟨not_le.1 hsp,w,da,rfl,st⟩)

lemma reconcileCompletedCheckpoint_lineKept (h : reconcileCompletedCheckpoint fp s aid d oa sa =
    .ok (t,re)) : LineKept HeldPlace s t := by
  rcases reconcileCompletedCheckpoint_cases h with
    ⟨oc,-,-,hse⟩ | ⟨rfl,-⟩ | ⟨-,w,da,-,⟨st⟩⟩
  · exact (settleTerminal_lineKept hse).place
  · exact (LineKept.of_eq rfl).place
  · exact st.opensLine.trans st.keepsOpened.place

end

/-- The journal row of an admission, wherever it has got to since. -/
structure RecordedBy (request : QueuedContinuationRequest) (outcome : QueuedContinuation)
    (row : ControlActionModel) : Prop where
  id : row.id = outcome.actionId
  threadId : row.threadId = request.threadId
  idempotencyKey : row.idempotencyKey = request.idempotencyKey
  actionType : row.actionType = .messageFollowupRequested
  requestId : row.requestId = none
  payload : row.payload = some request.payload
  dispatchId : row.dispatchId = some outcome.dispatchId
  position : row.queuePosition = outcome.position

lemma RecordedBy.kept (h : RecordedBy rq oc a) (hk : HeldPlace a b) : RecordedBy rq oc b :=
  ⟨hk.id.trans h.id,hk.threadId.trans h.threadId,hk.idempotencyKey.trans h.idempotencyKey,
    hk.actionType.trans h.actionType,hk.requestId.trans h.requestId,hk.payload.trans h.payload,
    hk.dispatchId.trans h.dispatchId,hk.queuePosition.trans h.position⟩

/-- An admission adds one row at the back of its run's line, below both limits. -/
structure Admits (s : Store) (request : QueuedContinuationRequest) (outcome : QueuedContinuation)
    (t : Store) (row : ControlActionModel) : Prop where
  rows : t.controlActions.rows = s.controlActions.rows ++ [row]
  recorded : RecordedBy request outcome row
  waits : isWaiting row = true
  position : outcome.position = some (nextQueuePosition s request.threadId)
  depth : countQueuedContinuations s (some request.threadId) < request.limits.perRunDepth
  cap : countQueuedContinuations s none < request.limits.serviceCap

section
variable {s t : Store} {rq : QueuedContinuationRequest}
lemma changed_granted (p : ControlActionModel → Bool) (tn : String) (ea : Instant)
    (a : ControlActionModel) : SameProgress a (Table.changed p (granted tn ea) a) := by
  unfold Table.changed
  split_ifs
  · exact ⟨⟨rfl,rfl,rfl,rfl,rfl,rfl,rfl⟩,rfl,rfl⟩
  · exact .refl a

variable {row : ControlActionModel}

lemma waitingLine_snoc (tid : String) (h : t.controlActions.rows = s.controlActions.rows ++ [row]) :
    waitingLine t tid = waitingLine s tid ++ if waitsOn tid row then [row] else [] := by
  unfold waitingLine
  rw [h,filter_append]
  congr 1
  by_cases hw : waitsOn tid row = true <;> simp [hw]

lemma queueRefusal_none (h : queueRefusal s rq = none) :
    countQueuedContinuations s (some rq.threadId) < rq.limits.perRunDepth ∧
      countQueuedContinuations s none < rq.limits.serviceCap := by
  unfold queueRefusal at h
  split_ifs at h with hf
  push Not at hf
  exact hf

lemma enqueueContinuation_created (hc : createControlAction s rq.args dr = .ok (re,ac))
    (hl : takeActionLease re ac.id tk now = .ok (le,tn))
    (hen : enqueueContinuation le ac = .ok (qu,pos)) :
    pos = nextQueuePosition s rq.threadId ∧
      ∃ row, qu.controlActions.rows = s.controlActions.rows ++ [row] ∧
        SameIntention ac row ∧ isWaiting row = true ∧ row.queuePosition = some pos := by
  obtain ⟨hrow,-,-,-,hi⟩ := createControlAction_ok hc
  obtain ⟨won,-,hu⟩ := takeActionLease_ok hl
  obtain ⟨-,hle,-⟩ := updateAction_rows hu
  obtain ⟨t',hup,hre⟩ := bind_ok.1 hen
  cases hre
  -- no other row has the id of the new one, so both updates are of the last row only
  have hro := Table.rows_of_updateWhere_newest (Table.rows_of_insert hi) (fun a hf => by simp [hf.1]) hle
  have hs := changed_granted (fun a => decide (a.id = ac.id) && (a.appliedAt.isNone &&
    acquirableBy a tk now)) tk (now + controlActionLeaseTtl) ac
  generalize Table.changed _ (granted tk (now + controlActionLeaseTtl)) ac = row at hro hs
  have hr' := Table.rows_of_updateWhere_newest hro
    (fun a hf => decide_eq_false fun ha => hf.1 (ha.trans hs.id.symm))
    (updateActions_ok hup).2
  rw [Table.changed,if_pos (decide_eq_true hs.id)] at hr'
  refine ⟨?_,_,hr',?_,rfl,rfl⟩
  · have ho : isWaiting row = false := by
      rw [isWaiting,hs.resultStatus,hrow]
      rfl
    have ht : ac.threadId = rq.threadId := by rw [hrow]; rfl
    unfold nextQueuePosition
    rw [waitingLine_snoc _ hro,waitsOn,ho,ht]
    simp
  · exact ⟨hs.id,hs.threadId,hs.actionType,hs.requestId,hs.idempotencyKey,hs.payload,hs.dispatchId⟩

/-- An offer is admitted at the back of the line, or leaves the store as it is. -/
lemma reserveQueuedContinuation_ok (h : reserveQueuedContinuation s rq now dr tk = .ok (t,oc)) :
    (oc.disposition = .queued ∧ ∃ row, Admits s rq oc t row) ∨
      (oc.disposition ≠ .queued ∧ t = s) := by
  unfold reserveQueuedContinuation at h
  dsimp only at h
  split at h
  · cases h
  split at h
  · -- the refusal of a full queue
    rename_i rf hre
    cases h
    split_ifs at hre
    unfold queueRefusal at hre
    split_ifs at hre
    cases hre
    exact .inr ⟨nofun,rfl⟩
  rename_i hro
  obtain ⟨⟨re,⟨ac,cr,pm⟩⟩,hres,h⟩ := bind_ok.1 h
  obtain ⟨hf,hcr,hm⟩ := reserveControlAction_ok hres
  dsimp only at h hf hcr hm
  split at h
  · cases h
  rename_i did hdi
  cases cr with
  | false =>
    obtain ⟨hs,-⟩ := hf rfl
    split at h
    · cases h
      exact .inr ⟨nofun,hs⟩
    · rw [if_pos (by simp)] at h
      cases h
      exact .inr ⟨nofun,hs⟩
  | true =>
    obtain ⟨hno,hc⟩ := hcr rfl
    have hrow := (createControlAction_ok hc).1
    have hb : pm = true := hm.2 (by rw [hrow]; exact ⟨rfl,rfl,rfl⟩)
    rw [if_neg (by simp [hb]),if_neg (by simp)] at h
    obtain ⟨⟨le,tn⟩,hl,h⟩ := bind_ok.1 h
    obtain ⟨⟨qu,pos⟩,hen,hret⟩ := bind_ok.1 h
    cases hret
    obtain ⟨hn,row,hrows,hs,hw,hp⟩ := enqueueContinuation_created hc hl hen
    have hfr : queueRefusal s rq = none := by
      have hh : getControlActionByIdempotencyKey s rq.threadId rq.idempotencyKey =
        none := hno
      simpa [hh] using hro
    obtain ⟨hd,hca⟩ := queueRefusal_none hfr
    refine .inl ⟨rfl,row,hrows,⟨hs.id,?_,?_,?_,?_,?_,?_,hp⟩,hw,congrArg some hn, hd,hca⟩
    · exact hs.threadId.trans (by rw [hrow]; rfl)
    · exact hs.idempotencyKey.trans (by rw [hrow]; rfl)
    · exact hs.actionType.trans (by rw [hrow]; rfl)
    · exact hs.requestId.trans (by rw [hrow]; rfl)
    · exact hs.payload.trans (by rw [hrow]; rfl)
    · exact hs.dispatchId.trans hdi

lemma reserveQueuedContinuation_held {first : QueuedContinuationRequest}
    (hrow : getControlActionByIdempotencyKey s rq.threadId rq.idempotencyKey = some row)
    (h : RecordedBy first ad row) :
    reserveQueuedContinuation s rq now dr tk =
      .ok (s,⟨if rq.payload = first.payload then .replayed else .conflict,
        ad.actionId,ad.dispatchId,ad.position,none,row.resultStatus⟩) := by
  have hre : reserveControlAction s rq.args dr =
      .ok (s,⟨row,false,decide (rq.payload = first.payload)⟩) := by
    unfold reserveControlAction getOrCreateControlAction
    have hh : getControlActionByIdempotencyKey s rq.args.threadId
      rq.args.idempotencyKey = some row := hrow
    simp only [hh,h.actionType,h.requestId,h.payload]
    simp [QueuedContinuationRequest.args,eq_comm]
  unfold reserveQueuedContinuation
  dsimp only
  rw [if_neg (by simp [hrow]),hrow,hre]
  simp only [Option.isNone_some,Bool.false_eq_true,if_false,bind,Except.bind,h.dispatchId,
    h.id,h.position]
  by_cases hb : rq.payload = first.payload <;> simp [hb]

end

inductive Label
  | offer (request : QueuedContinuationRequest) (now : Instant)
      (answer : Except Raised QueuedContinuation)
  | reconcile (actionId : String) (decision : CheckpointDecision) (observedAt settledAt : Instant)
      (answer : Except Raised Reconciliation)
  | settle (threadId : String) (status : ThreadStatus) (evidence : TerminalEvidence)
      (settledAt : Instant) (answer : Except Raised ThreadStatusElectionOutcome)
  | elsewhere

section
variable (config : ContinuationConfig) (created : String → Instant)
variable (fingerprint : ActionPayload → String)

def lifetimeEnd (threadId : String) : Instant := runLifetimeDeadline config (created threadId)

/-- The transactions on the queue. A message to a run is offered under the configured limits
and with the end of the run's lifetime; a recovery pass decides with the same end. Other
writers of the store put no row into a line. A transaction that raises is rolled back. -/
inductive Move : Store → Label → Store → Prop
  | offered {s t : Store} {request : QueuedContinuationRequest} {now : Instant} {drawn : Drawn}
      {freshToken : String} {outcome : QueuedContinuation} :
      request.limits = config.limits →
      request.lifetimeDeadlineAt = lifetimeEnd config created request.threadId →
      reserveQueuedContinuation s request now drawn freshToken = .ok (t,outcome) →
      Move s (.offer request now (.ok outcome)) t
  | offerRaised {s : Store} {request : QueuedContinuationRequest} {now : Instant} {drawn : Drawn}
      {freshToken : String} {raised : Raised} :
      reserveQueuedContinuation s request now drawn freshToken = .error raised →
      Move s (.offer request now (.error raised)) s
  | reconciled {s t : Store} {actionId : String} {decision : CheckpointDecision}
      {observedAt settledAt : Instant} {result : Reconciliation} :
      decision.lifetimeDeadlineAt = lifetimeEnd config created decision.threadId →
      reconcileCompletedCheckpoint fingerprint s actionId decision observedAt settledAt =
        .ok (t,result) →
      Move s (.reconcile actionId decision observedAt settledAt (.ok result)) t
  | reconcileRaised {s : Store} {actionId : String} {decision : CheckpointDecision}
      {observedAt settledAt : Instant} {raised : Raised} :
      reconcileCompletedCheckpoint fingerprint s actionId decision observedAt settledAt =
        .error raised →
      Move s (.reconcile actionId decision observedAt settledAt (.error raised)) s
  | settled {s t : Store} {threadId : String} {status : ThreadStatus}
      {evidence : TerminalEvidence} {settledAt : Instant}
      {outcome : ThreadStatusElectionOutcome} :
      settleTerminal s threadId status evidence settledAt = .ok (t,outcome) →
      Move s (.settle threadId status evidence settledAt (.ok outcome)) t
  | settleRaised {s : Store} {threadId : String} {status : ThreadStatus}
      {evidence : TerminalEvidence} {settledAt : Instant} {raised : Raised} :
      settleTerminal s threadId status evidence settledAt = .error raised →
      Move s (.settle threadId status evidence settledAt (.error raised)) s
  | elsewhere {s t : Store} : LineKept HeldPlace s t → Move s .elsewhere t

end

def Label.admission : Label → Option (QueuedContinuationRequest × QueuedContinuation)
  | .offer request _ (.ok outcome) =>
    if outcome.disposition = .queued then some (request,outcome) else none
  | _ => none

def admissions (history : List Label) : List (QueuedContinuationRequest × QueuedContinuation) :=
  history.filterMap Label.admission

def admitted (threadId : String) (history : List Label) : List String :=
  ((admissions history).filter fun admission => decide (admission.1.threadId = threadId)).map
    fun admission => admission.2.actionId

def ticket (a : ControlActionModel) : String × ℕ := (a.id,placeOf a)

def tickets (s : Store) (threadId : String) : List (String × ℕ) :=
  (waitingLine s threadId).map ticket

section
variable {s t : Store} {config cf : ContinuationConfig} {history lg : List Label}

lemma countQueuedContinuations_run (s : Store) (tid : String) :
    countQueuedContinuations s (some tid) = (tickets s tid).length := by
  simp [countQueuedContinuations,Table.affected,tickets,waitingLine,countP_eq_length_filter]

lemma countQueuedContinuations_service (s : Store) :
    countQueuedContinuations s none = (s.controlActions.rows.filter isWaiting).length := by
  simp [countQueuedContinuations,Table.affected,countP_eq_length_filter]

lemma ticket_of_heldPlace (h : HeldPlace a b) : ticket b = ticket a := by
  rw [ticket,ticket,placeOf,placeOf,h.id,h.queuePosition]

lemma waitsOn_of_heldPlace (h : HeldPlace a b)
    (hb : waitsOn tid b = true) : waitsOn tid a = true := by
  simp only [waitsOn,Bool.and_eq_true,decide_eq_true_eq] at hb ⊢
  exact ⟨h.threadId ▸ hb.1,h.waited hb.2⟩

lemma LineKept.tickets (h : LineKept HeldPlace s t) (tid : String) :
    (tickets t tid).Sublist (tickets s tid) := by
  obtain ⟨f,new,hro,hk,hn⟩ := h
  have hno : new.filter (waitsOn tid) = [] :=
    filter_eq_nil_iff.2 fun a ha => by simp [waitsOn,hn a ha]
  unfold ContinuationQueue.tickets waitingLine
  rw [hro,filter_append,hno,append_nil]
  exact sublist_of_rewritten (fun a ha => waitsOn_of_heldPlace (hk a ha))
    fun a ha => ticket_of_heldPlace (hk a ha)

lemma LineKept.service (h : LineKept HeldPlace s t) :
    countQueuedContinuations t none ≤ countQueuedContinuations s none := by
  obtain ⟨f,new,hro,hk,hn⟩ := h
  have hno : new.filter isWaiting = [] := filter_eq_nil_iff.2 fun a ha => by simp [hn a ha]
  have hl := sublist_of_rewritten (fun a ha => (hk a ha).waited)
    fun a ha => ticket_of_heldPlace (hk a ha)
  rw [countQueuedContinuations_service,countQueuedContinuations_service,hro,
    filter_append,hno,append_nil]
  simpa using hl.length_le

structure Kept (config : ContinuationConfig) (s : Store) (history : List Label) : Prop where
  ordered : ∀ run, Ordered Prod.snd (tickets s run)
  inLine : ∀ run, ((tickets s run).map Prod.fst).Sublist (admitted run history)
  once : ∀ run, (admitted run history).Nodup
  depth : ∀ run, (tickets s run).length ≤ config.limits.perRunDepth
  cap : countQueuedContinuations s none ≤ config.limits.serviceCap
  recorded : ∀ admission ∈ admissions history, ∃ row ∈ s.controlActions.rows,
    RecordedBy admission.1 admission.2 row

lemma admissions_append (lg : List Label) (l : Label) :
    admissions (lg ++ [l]) = admissions lg ++ l.admission.toList := by
  cases h : l.admission <;> simp [admissions,h]

lemma admitted_append (run : String) (lg : List Label) (l : Label) :
    admitted run (lg ++ [l]) = admitted run lg ++
      (l.admission.toList.filter fun a => decide (a.1.threadId = run)).map (·.2.actionId) := by
  simp [admitted,admissions_append]

lemma Kept.start (h : countQueuedContinuations s none = 0) : Kept cf s [] := by
  have hi : ∀ a ∈ s.controlActions.rows, isWaiting a = false := fun a ha => by
    simpa using countP_eq_zero.1 h a ha
  have hn : ∀ run, tickets s run = [] := fun run => by
    have hl : waitingLine s run = [] := filter_eq_nil_iff.2 fun a ha => by simp [waitsOn,hi a ha]
    rw [tickets,hl,map_nil]
  refine ⟨?_,?_,?_,?_,?_,by simp [admissions]⟩
  · intro run
    rw [hn run]
    exact List.Pairwise.nil
  · intro run
    rw [hn run]
    exact nil_sublist _
  · exact fun run => nodup_nil
  · intro run
    rw [hn run]
    exact Nat.zero_le _
  · rw [h]
    exact Nat.zero_le _

lemma Kept.leaves (h : Kept cf s lg) (hli : LineKept HeldPlace s t)
    (hl : l.admission = none) : Kept cf t (lg ++ [l]) := by
  have ha : admissions (lg ++ [l]) = admissions lg := by
    simp [admissions_append,hl]
  have hadm : ∀ run, admitted run (lg ++ [l]) = admitted run lg := fun run => by
    simp [admitted,ha]
  refine ⟨?_,?_,?_,?_,?_,?_⟩
  · exact fun run => (h.ordered run).sublist (hli.tickets run)
  · intro run
    rw [hadm run]
    exact ((hli.tickets run).map _).trans (h.inLine run)
  · intro run
    rw [hadm run]
    exact h.once run
  · exact fun run => ((hli.tickets run).length_le).trans (h.depth run)
  · exact hli.service.trans h.cap
  · intro ad hm
    rw [ha] at hm
    obtain ⟨row,hrow,hre⟩ := h.recorded ad hm
    obtain ⟨ro,hrow',hh⟩ := Table.Rewrites.kept hli hrow
    exact ⟨ro,hrow',hre.kept hh⟩

lemma Admits.tickets (h : Admits s rq oc t row) (run : String) :
    tickets t run = tickets s run ++ if rq.threadId = run then [ticket row] else [] := by
  unfold ContinuationQueue.tickets
  rw [waitingLine_snoc run h.rows,map_append,waitsOn,h.waits,h.recorded.threadId]
  by_cases hru : rq.threadId = run <;> simp [hru]

lemma nextQueuePosition_tickets (s : Store) (run : String) :
    nextQueuePosition s run = nextPlace Prod.snd (tickets s run) := by
  rw [nextQueuePosition,nextPlace,nextPlace,tickets,map_map]
  rfl

lemma Kept.fresh (h : Kept cf s lg) (ha : Admits s rq oc t row) (run : String) :
    oc.actionId ∉ admitted run lg := by
  intro hm
  obtain ⟨ad,hadm,hid⟩ := mem_map.1 hm
  obtain ⟨old,hold,hre⟩ := h.recorded ad (mem_of_mem_filter hadm)
  have hf := t.controlActions.fits
  rw [ha.rows,pairwise_append] at hf
  have hne := (hf.2.2 old hold row (mem_singleton_self row)).1
  exact hne (hre.id.trans (hid.trans ha.recorded.id.symm))

/-- An admission keeps the order of every line, since its place is behind all others. -/
lemma Kept.admits (h : Kept cf s lg) (ha : Admits s rq oc t row)
    (hli : rq.limits = cf.limits) (hl : l.admission = some (rq,oc)) : Kept cf t (lg ++ [l]) := by
  have hadm : ∀ run, admitted run (lg ++ [l]) =
      admitted run lg ++ if rq.threadId = run then [oc.actionId] else [] := by
    intro run
    rw [admitted_append,hl]
    by_cases hru : rq.threadId = run <;> simp [hru]
  have hd := ha.depth
  have hc := ha.cap
  rw [hli] at hd hc
  refine ⟨fun run => ?_,fun run => ?_,fun run => ?_,fun run => ?_,?_,?_⟩
  · rw [ha.tickets run]
    split_ifs with hru
    · refine (h.ordered run).snoc ?_
      have hp : row.queuePosition = some (nextQueuePosition s rq.threadId) :=
        ha.recorded.position.trans ha.position
      rw [← nextQueuePosition_tickets,← hru]
      simp [ticket,placeOf,hp]
    · rw [append_nil]
      exact h.ordered run
  · rw [ha.tickets run,hadm run,map_append]
    refine (h.inLine run).append ?_
    split_ifs
    · rw [map_singleton,ticket,ha.recorded.id]
    · exact List.Sublist.refl _
  · rw [hadm run]
    split_ifs
    · have hf := h.fresh ha run
      refine List.Nodup.append (h.once run) (nodup_singleton _) ?_
      simpa using hf
    · rw [append_nil]
      exact h.once run
  · rw [ha.tickets run,length_append]
    have hold := h.depth run
    split_ifs with hru
    · rw [countQueuedContinuations_run,hru] at hd
      exact hd
    · exact hold
  · have ho : countQueuedContinuations t none = countQueuedContinuations s none + 1 := by
      rw [countQueuedContinuations_service,countQueuedContinuations_service,ha.rows,
        filter_append,length_append]
      simp [ha.waits]
    omega
  · intro ad hm
    rw [admissions_append,hl,Option.toList_some] at hm
    rcases mem_append.1 hm with hold | hn
    · obtain ⟨old,hrow,hre⟩ := h.recorded ad hold
      exact ⟨old,by rw [ha.rows]; exact mem_append_left _ hrow,hre⟩
    · rw [mem_singleton.1 hn]
      exact ⟨row,by rw [ha.rows]; simp,ha.recorded⟩

variable {created cr : String → Instant} {fingerprint fp : ActionPayload → String}

lemma Move.kept (h : Kept cf s lg) (hm : Move cf cr fp s l t) : Kept cf t (lg ++ [l]) := by
  have hs : LineKept HeldPlace s s := (LineKept.of_eq rfl).place
  cases hm with
  | offered hl _ hres =>
    rcases reserveQueuedContinuation_ok hres with ⟨hq,row,ha⟩ | ⟨hn,rfl⟩
    · exact h.admits ha hl (by simp [Label.admission,hq])
    · exact h.leaves hs (by simp [Label.admission,hn])
  | offerRaised _ => exact h.leaves hs rfl
  | reconciled _ hre => exact h.leaves (reconcileCompletedCheckpoint_lineKept hre) rfl
  | reconcileRaised _ => exact h.leaves hs rfl
  | settled hse => exact h.leaves (settleTerminal_lineKept hse).place rfl
  | settleRaised _ => exact h.leaves hs rfl
  | elsewhere hli => exact h.leaves hli rfl

lemma Kept.inOrder (h : Kept cf s lg) (run : String) : Ordered placeOf (waitingLine s run) := by
  have ht := h.ordered run
  rw [Ordered,tickets,pairwise_map] at ht
  exact ht

lemma Kept.next (h : Kept cf s lg) (hn : readNextQueuedContinuation s run = some w) :
    (admitted run lg).find?
      (fun id => decide (id ∈ (waitingLine s run).map ControlActionModel.id)) = some w.id := by
  have ho : Ordered placeOf (waitingLine s run) := h.inOrder run
  have hl : ((waitingLine s run).map ControlActionModel.id).Sublist (admitted run lg) := by
    have hi := h.inLine run
    rwa [tickets,map_map] at hi
  unfold readNextQueuedContinuation at hn
  cases hro : waitingLine s run with
  | nil =>
    rw [hro] at hn
    cases hn
  | cons first r =>
    rw [hro] at hn ho hl
    rw [ho.argmin] at hn
    cases hn
    exact find?_of_sublist hl (h.once run)

/-- What holds of a store after the transactions of a history. -/
structure FairQueue (config : ContinuationConfig) (created : String → Instant)
    (fingerprint : ActionPayload → String) (s : Store) (history : List Label) : Prop where
  /-- No two rows that wait on a run have one place. -/
  distinct : ∀ run, ((waitingLine s run).map ControlActionModel.queuePosition).Nodup
  depth : ∀ run, countQueuedContinuations s (some run) ≤ config.limits.perRunDepth
  cap : countQueuedContinuations s none ≤ config.limits.serviceCap
  /-- A second offer under an admitted key answers with the first action and its place. -/
  replay : ∀ admission ∈ admissions history, ∀ request : QueuedContinuationRequest,
    request.threadId = admission.1.threadId →
    request.idempotencyKey = admission.1.idempotencyKey → ∀ now drawn freshToken,
    ∃ row, getControlAction s admission.2.actionId = some row ∧
      reserveQueuedContinuation s request now drawn freshToken =
        .ok (s,⟨if request.payload = admission.1.payload then .replayed else .conflict,
          admission.2.actionId,admission.2.dispatchId,admission.2.position,none,
          row.resultStatus⟩)
  /-- A promotion takes the earliest admission that waits, before the end of the run's
  lifetime, and gives its turn a deadline by that end. -/
  promotion : ∀ actionId decision observedAt settledAt promoted deadlineAt t,
    Move config created fingerprint s (.reconcile actionId decision observedAt settledAt
      (.ok (.promotion (.promoted promoted deadlineAt)))) t →
    (admitted decision.threadId history).find? (fun id =>
      decide (id ∈ (waitingLine s decision.threadId).map ControlActionModel.id)) =
        some promoted ∧
    observedAt < lifetimeEnd config created decision.threadId ∧
    deadlineAt ≤ lifetimeEnd config created decision.threadId ∧
    ∃ row, getControlAction t promoted = some row ∧ row.recoveryDeadlineAt = some deadlineAt

lemma Kept.fair (h : Kept cf s lg) : FairQueue cf cr fp s lg := by
  refine ⟨fun run => ?_,fun run => ?_,h.cap,?_,?_⟩
  · refine pairwise_map.2 ((h.inOrder run).imp fun {a b} hlt heq => ?_)
    rw [placeOf,placeOf,heq] at hlt
    exact lt_irrefl _ hlt
  · rw [countQueuedContinuations_run]
    exact h.depth run
  · intro ad hm rq ht hk now dr tk
    obtain ⟨row,hrow,hre⟩ := h.recorded ad hm
    refine ⟨row,?_,reserveQueuedContinuation_held ?_ hre⟩
    · rw [← hre.id]
      exact Table.lookup_of_mem ControlActionModel.id action_id_unique hrow
    · rw [ht,hk,← hre.threadId,← hre.idempotencyKey]
      exact Table.lookup_of_mem actionKey action_key_unique hrow
  · intro aid d oa sa pm da t hmo
    cases hmo with
    | reconciled hen hreco =>
      rcases reconcileCompletedCheckpoint_cases hreco with
        ⟨oc,hno,-⟩ | ⟨-,pr,hp,hno⟩ | ⟨hea,w,da,hp,⟨st⟩⟩
      · cases hno
      · cases hp
        exact (hno _ _ rfl).elim
      · cases hp
        obtain ⟨hd,hrow⟩ := st.row
        rw [hen] at hea hd
        exact ⟨h.next st.next,hea,hd,hrow⟩

/-- From a store in which nothing waits, every sequence of transactions keeps the places of
a run's line distinct and both limits, replays what was admitted, and promotes in the order
of admission within the lifetime of the run. -/
theorem continuations_promoted_in_order {s₀ : Store} {labels : List Label}
    (hidle : countQueuedContinuations s₀ none = 0)
    (hrun : Run (Move config created fingerprint) s₀ labels s) :
    FairQueue config created fingerprint s labels := by
  have hk : Kept config s ([] ++ labels) :=
    hrun.remembers (Kept config) (fun h hm => hm.kept h) (Kept.start hidle)
  exact hk.fair

end

def soloMessage (message : String) : ActionPayload := .accepted
    { intent := .initialMessage message
      dispatch :=
        { verb := "ingest", threadId := "run-1", teamPreset := "solo"
          graphDefinition := ⟨"solo",60,25,""⟩, autonomous := false, workspaceRoot := "/w"
          recursionLimit := 25, modelAssignment := "", optionId := none }
      actorTokensRequired := false }

def twoDeep : ContinuationConfig := { limits := { perRunDepth := 2 } }

def soloOffer (key message dispatchId : String) : QueuedContinuationRequest where
  threadId := "run-1"
  idempotencyKey := key
  payload := soloMessage message
  dispatchId := dispatchId
  lifetimeDeadlineAt := 86400 * second
  limits := twoDeep.limits

def firstTurnDone : CheckpointDecision :=
  ⟨"run-1",⟨.submitted,⟨0,1,.ingest,"receipt-1",by decide,by decide⟩⟩,.ingest,"receipt-1",
    86400 * second⟩

def twoWaiting : Except Raised (Store × Reconciliation) := do
  let admitted ← admitRun Store.empty "run-1" "receipt-1" (soloMessage "start") 60
    ⟨"action-1","unused-1"⟩
  let (first,_) ← reserveQueuedContinuation admitted (soloOffer "key-1" "first" "receipt-2") 5
    ⟨"action-2","unused-2"⟩ "token-2"
  let (second,_) ← reserveQueuedContinuation first (soloOffer "key-2" "second" "receipt-3") 6
    ⟨"action-3","unused-3"⟩ "token-3"
  reconcileCompletedCheckpoint (fun _ => "") second "action-1" firstTurnDone 10 10

theorem continuations_promoted_in_order_two_waiting :
    ∃ s₀ s t labels, countQueuedContinuations s₀ none = 0 ∧
      Run (Move twoDeep (fun _ => 0) fun _ => "") s₀ labels s ∧
      Move twoDeep (fun _ => 0) (fun _ => "") s (.reconcile "action-1" firstTurnDone 10 10
        (.ok (.promotion (.promoted "action-2" (60 * second + 10))))) t ∧
      FairQueue twoDeep (fun _ => 0) (fun _ => "") s labels := by
  have hre : twoWaiting.toOption.map Prod.snd =
      some (.promotion (.promoted "action-2" (60 * second + 10))) := by decide +kernel
  cases hru : twoWaiting with
  | error raised =>
    rw [hru] at hre
    cases hre
  | ok ended =>
    obtain ⟨t,result⟩ := ended
    rw [hru] at hre
    cases hre
    obtain ⟨s₀,h₀,hru⟩ := bind_ok.1 hru
    obtain ⟨⟨s₁,first⟩,hf,hru⟩ := bind_ok.1 hru
    obtain ⟨⟨s,second⟩,hs,hen⟩ := bind_ok.1 hru
    have hi : countQueuedContinuations s₀ none = 0 := by
      cases h₀
      rfl
    have hrun : Run (Move twoDeep (fun _ => 0) fun _ => "") s₀
        [.offer (soloOffer "key-1" "first" "receipt-2") 5 (.ok first),
          .offer (soloOffer "key-2" "second" "receipt-3") 6 (.ok second)] s :=
      .step (.offered rfl rfl hf) (.single (.offered rfl rfl hs))
    exact ⟨s₀,s,t,_,hi,hrun,.reconciled rfl hen,continuations_promoted_in_order hi hrun⟩

end VaultspecA2A.ContinuationQueue
