import VaultspecA2A.Tables
import VaultspecA2A.ThreadLifecycle
import VaultspecA2A.Clarification

/-!
# The durable store

The tables the control plane writes: runs, the control-action journal, permission
requests and the log of permission decisions. A row keeps the columns that some
modelled function reads or writes; titles, creation times, metadata and the other
display columns are left out. Each table carries its own constraints: the columns
the schema declares unique and the CHECK predicates over one row.

Instants count microseconds on one clock. A digest never appears here as a computed
value: functions that need one take it as a parameter.
-/
namespace VaultspecA2A.Database
open Tables ThreadLifecycle PyText PyValue

abbrev Instant := ℤ

def second : Instant := 1000000

inductive ControlActionResultStatus
  | acceptedNotApplied
  | applied
  | queued
  | rejectedInvalidState
  | superseded
  | duplicate
  | cancelledCeased
  | cancelledNoActiveWork
deriving DecidableEq, Repr

def ControlActionResultStatus.value : ControlActionResultStatus → String
  | .acceptedNotApplied => "accepted_not_applied"
  | .applied => "applied"
  | .queued => "queued"
  | .rejectedInvalidState => "rejected_invalid_state"
  | .superseded => "superseded"
  | .duplicate => "duplicate"
  | .cancelledCeased => "cancelled_ceased"
  | .cancelledNoActiveWork => "cancelled_no_active_work"

inductive PermissionRequestStatus
  | pending
  | answeredPendingApply
  | applied
  | rejected
  | superseded
  | expiredByTerminalState
deriving DecidableEq, Repr

inductive ApprovalStatus
  | pending
  | approved
  | rejected
  | superseded
deriving DecidableEq, Repr

inductive RepairStatus
  | healthy
  | pausedResumable
  | cancelPending
  | replayGap
  | checkpointUnavailable
  | needsReconciliation
  | operatorInterventionRequired
deriving DecidableEq, Repr

/-- The program a run was accepted with; `body` is the rest of the frozen definition. -/
structure GraphDefinition where
  teamId : String
  runTimeoutSeconds : ℕ
  recursionLimit : ℕ
  body : String
deriving DecidableEq, Repr

inductive ResumeValue
  | permissionAnswer (optionId requestId : String)
  | approvalVerdict (verdict : Option String) (notes : Option String) (requestId : String)
  | clarification (resolution : Clarification.ClarificationResolution)
deriving DecidableEq, Repr

/-- The effective input of one dispatch, without its transport identity. -/
structure DispatchInput where
  verb : String
  threadId : String
  teamPreset : String
  graphDefinition : GraphDefinition
  autonomous : Bool
  workspaceRoot : String
  recursionLimit : ℕ
  modelAssignment : String
  optionId : Option ResumeValue
deriving DecidableEq, Repr

inductive ActionIntent
  | initialMessage (message : String)
  | followup (content agentId : String)
  | cancel
  | response (optionId : String) (notes : Option String)
  | resume (value : ResumeValue)
deriving DecidableEq, Repr

structure AcceptedActionInput where
  intent : ActionIntent
  dispatch : DispatchInput
  actorTokensRequired : Bool
deriving DecidableEq, Repr

inductive ActionPayload
  | accepted (input : AcceptedActionInput)
  | rejection (optionId errorDetail : String)
  | duplicate (optionId : String)
  | description (text : String)
  | request (requestId : String)
  | other (text : String)
deriving DecidableEq, Repr

/-- Evidence that names one journaled action and the authority it was accepted under. -/
structure GraphActionReceipt where
  threadId : String
  actionId : String
  actionType : ControlActionType
  payloadFingerprint : String
  dispatchId : String
  runRevision : ℕ
  writerGeneration : ℕ
deriving DecidableEq, Repr

/-- A run. The four authority columns are kept together; the row checks that
validate them are those of the authority, but for the SQL view of the receipt. -/
structure ThreadModel where
  id : String
  authority : RunWriteAuthority
  status : ThreadStatus
  isActive : Bool
  failureReason : Option String
  providerCondition : Option String
  repairStatus : RepairStatus
  repairReason : Option String
  approvalStatus : Option ApprovalStatus
  approvalRequestId : Option String
  approvalResponseActionId : Option String
  lastRequestedAction : Option ControlActionType
  lastAppliedAction : Option ControlActionType
deriving DecidableEq

namespace ThreadModel

def Check (t : ThreadModel) : Prop := 1 ≤ sqlLength (sqlTrim t.authority.actionReceiptId) ∧
    sqlLength t.authority.actionReceiptId ≤ receiptIdMaxLength

def Fits (a b : ThreadModel) : Prop :=
  a.id ≠ b.id ∧ a.authority.actionReceiptId ≠ b.authority.actionReceiptId

instance : DecidablePred Check := fun _ => inferInstanceAs (Decidable (_ ∧ _))
instance : DecidableRel Fits := fun _ _ => inferInstanceAs (Decidable (_ ∧ _))

end ThreadModel

structure ControlActionModel where
  id : String
  threadId : String
  actionType : ControlActionType
  requestId : Option String
  idempotencyKey : String
  appliedAt : Option Instant
  supersededAt : Option Instant
  resultStatus : ControlActionResultStatus
  payload : Option ActionPayload
  graphReceipt : Option GraphActionReceipt
  dispatchId : Option String
  claimToken : Option String
  claimExpiresAt : Option Instant
  recoveryDeadlineAt : Option Instant
  queuePosition : Option ℕ
deriving DecidableEq, Repr

def dispatchableResultStatuses : List ControlActionResultStatus := [.acceptedNotApplied,.queued]

namespace ControlActionModel

def DeadlineCheck (a : ControlActionModel) : Prop :=
  if a.actionType ∈ recoveryActionTypes then
    a.resultStatus ∈ dispatchableResultStatuses → a.recoveryDeadlineAt ≠ none
  else a.recoveryDeadlineAt = none

def QueuePositionCheck (a : ControlActionModel) : Prop :=
  ∀ n ∈ a.queuePosition, 1 ≤ n ∧ a.actionType = .messageFollowupRequested

def QueuedReservationCheck (a : ControlActionModel) : Prop := a.resultStatus = .queued →
    a.queuePosition ≠ none ∧ a.graphReceipt = none ∧ a.appliedAt = none

def Check (a : ControlActionModel) : Prop :=
  a.DeadlineCheck ∧ a.QueuePositionCheck ∧ a.QueuedReservationCheck

/-- Unique are the id, the key within a run, the dispatch id where there is one,
and the position among the rows waiting on a run. -/
def Fits (a b : ControlActionModel) : Prop :=
  a.id ≠ b.id ∧ ¬ (a.threadId = b.threadId ∧ a.idempotencyKey = b.idempotencyKey) ∧
    ¬ (a.dispatchId ≠ none ∧ a.dispatchId = b.dispatchId) ∧
    ¬ (a.resultStatus = .queued ∧ b.resultStatus = .queued ∧ a.threadId = b.threadId ∧
      a.queuePosition ≠ none ∧ a.queuePosition = b.queuePosition)

instance : DecidablePred Check := fun a =>
  haveI : Decidable a.DeadlineCheck := by unfold DeadlineCheck; infer_instance
  haveI : Decidable a.QueuePositionCheck :=
    match h : a.queuePosition with
    | none => isTrue (by simp [QueuePositionCheck,h])
    | some n => decidable_of_iff (1 ≤ n ∧ a.actionType = .messageFollowupRequested)
        (by simp [QueuePositionCheck,h])
  haveI : Decidable a.QueuedReservationCheck := inferInstanceAs (Decidable (_ → _))
  inferInstanceAs (Decidable (_ ∧ _ ∧ _))

instance : DecidableRel Fits := fun _ _ => inferInstanceAs (Decidable (_ ∧ _ ∧ _ ∧ _))

end ControlActionModel

inductive StoredJson
  | absent
  | malformed
  | decoded (value : Value)
deriving Repr

structure PermissionRequestModel where
  requestId : String
  threadId : String
  pauseReasonType : String
  toolCall : Option String
  description : String
  allowedOptions : StoredJson
  requestStatus : PermissionRequestStatus
  respondedAt : Option Instant
  appliedAt : Option Instant
deriving Repr

namespace PermissionRequestModel

def Fits (a b : PermissionRequestModel) : Prop := a.requestId ≠ b.requestId

instance : DecidableRel Fits := fun a b => inferInstanceAs (Decidable (a.requestId ≠ b.requestId))

end PermissionRequestModel

structure PermissionLogModel where
  threadId : String
  toolName : String
  action : ApprovalStatus
  optionId : Option String
deriving DecidableEq, Repr

abbrev ThreadTable := Table ThreadModel ThreadModel.Check ThreadModel.Fits
abbrev ControlActionTable :=
  Table ControlActionModel ControlActionModel.Check ControlActionModel.Fits
abbrev PermissionRequestTable :=
  Table PermissionRequestModel (fun _ => True) PermissionRequestModel.Fits

structure Store where
  threads : ThreadTable
  controlActions : ControlActionTable
  permissionRequests : PermissionRequestTable
  permissionLogs : List PermissionLogModel

def Store.empty : Store := ⟨∅,∅,∅,[]⟩

def getThread (s : Store) (threadId : String) : Option ThreadModel :=
  s.threads.lookup ThreadModel.id threadId

def getControlAction (s : Store) (actionId : String) : Option ControlActionModel :=
  s.controlActions.lookup ControlActionModel.id actionId

def actionKey (a : ControlActionModel) : String × String := (a.threadId,a.idempotencyKey)

def getControlActionByIdempotencyKey (s : Store) (threadId idempotencyKey : String) :
    Option ControlActionModel :=
  s.controlActions.lookup actionKey (threadId,idempotencyKey)

def getControlActionByDispatchId (s : Store) (threadId dispatchId : String) :
    Option ControlActionModel :=
  s.controlActions.lookup (fun a => (a.threadId,a.dispatchId)) (threadId,some dispatchId)

def getPermissionRequest (s : Store) (requestId : String) : Option PermissionRequestModel :=
  s.permissionRequests.lookup PermissionRequestModel.requestId requestId

lemma thread_id_unique (h : ThreadModel.Fits a b) : a.id ≠ b.id := h.1

lemma action_id_unique (h : ControlActionModel.Fits a b) : a.id ≠ b.id := h.1

lemma action_key_unique (h : ControlActionModel.Fits a b) :
    actionKey a ≠ actionKey b := fun he => h.2.1 (Prod.mk.inj he)

end VaultspecA2A.Database
