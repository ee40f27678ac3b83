import VaultspecA2A.PyText

/-!
# Lifecycle states and write authority

The durable lifecycle states of a run, the journaled action types, the transition
table and its check, and the write authority: the identity that elects one writer
of a run's durable state. An authority is validated when it is built, so the
validity of its generation and of its receipt id are fields of the structure and
an invalid authority cannot be written down.
-/
namespace VaultspecA2A.ThreadLifecycle
open PyText

inductive ThreadStatus
  | submitted
  | running
  | inputRequired
  | cancelling
  | cancelled
  | completed
  | failed
  | archived
  | repairNeeded
  | reconciling
  | deleting
deriving DecidableEq, Repr

inductive ControlActionType
  | ingest
  | resume
  | cancel
  | permissionRequestCreated
  | permissionResponseSubmitted
  | permissionResponseApplied
  | messageFollowupRequested
  | messageFollowupApplied
deriving DecidableEq, Repr

inductive Raised
  | valueError (message : String)
  | invalidTransitionError (message : String)
  | integrityError
  | runtimeError (message : String)
  | keyError
deriving DecidableEq, Repr

lemma bind_ok {ε α β : Type} {x : Except ε α} {f : α → Except ε β} {b : β} :
    x >>= f = .ok b ↔ ∃ a, x = .ok a ∧ f a = .ok b := by
  cases x with
  | error e => simp [bind,Except.bind]
  | ok a => simp [bind,Except.bind]

namespace ThreadStatus

def value : ThreadStatus → String
  | submitted => "submitted"
  | running => "running"
  | inputRequired => "input_required"
  | cancelling => "cancelling"
  | cancelled => "cancelled"
  | completed => "completed"
  | failed => "failed"
  | archived => "archived"
  | repairNeeded => "repair_needed"
  | reconciling => "reconciling"
  | deleting => "deleting"

end ThreadStatus

def ControlActionType.value : ControlActionType → String
  | .ingest => "ingest"
  | .resume => "resume"
  | .cancel => "cancel"
  | .permissionRequestCreated => "permission_request_created"
  | .permissionResponseSubmitted => "permission_response_submitted"
  | .permissionResponseApplied => "permission_response_applied"
  | .messageFollowupRequested => "message_followup_requested"
  | .messageFollowupApplied => "message_followup_applied"

open ThreadStatus

def terminalStatuses : List ThreadStatus := [completed,failed,cancelled]

/-- The statuses in which a run is never dispatched, cancelled or messaged again. -/
def nonActiveStatuses : List ThreadStatus := terminalStatuses ++ [archived,deleting]

def activeStatuses : List ThreadStatus :=
  [submitted,running,inputRequired,cancelling,repairNeeded,reconciling]

def recoveryActionTypes : List ControlActionType :=
  [.ingest,.resume,.cancel,.permissionResponseSubmitted,.messageFollowupRequested]

def validTransitions : ThreadStatus → List ThreadStatus
  | submitted =>
    [running,completed,inputRequired,cancelling,cancelled,failed,reconciling,repairNeeded]
  | running =>
    [inputRequired,cancelling,cancelled,completed,failed,reconciling,repairNeeded]
  | inputRequired =>
    [running,cancelling,cancelled,completed,failed,reconciling,repairNeeded]
  | cancelling => [cancelled,failed,reconciling,repairNeeded]
  | reconciling =>
    [submitted,running,inputRequired,cancelling,cancelled,completed,failed,repairNeeded]
  | repairNeeded => [reconciling,running,inputRequired,cancelling,cancelled,failed]
  | completed => [archived]
  | failed => [archived]
  | cancelled => [archived]
  | archived => []
  | deleting => []

def validateTransition (current target : ThreadStatus) (threadId : String) : Except Raised Unit :=
  if current = target then .ok ()
  else if target ∈ validTransitions current then .ok ()
  else .error (.invalidTransitionError
    ("Cannot transition thread " ++ threadId ++ " from '" ++ current.value ++ "' to '" ++
      target.value ++ "'"))

lemma validateTransition_ok : validateTransition cu ta tid = .ok () ↔
    cu = ta ∨ ta ∈ validTransitions cu := by
  unfold validateTransition
  split_ifs with h₁ h₂ <;> simp [*]

structure DeleteEligibility where
  allowed : Bool
  reason : Option String
deriving DecidableEq, Repr

def canDelete (status : ThreadStatus) : DeleteEligibility :=
  if status ∉ terminalStatuses ++ [archived] then
    ⟨false,some ("Cannot delete thread in '" ++ status.value ++ "' state")⟩
  else ⟨true,none⟩

def Deletable (status : ThreadStatus) : Prop := status ∈ terminalStatuses ++ [archived]

lemma canDelete_allowed : (canDelete su).allowed = true ↔ Deletable su := by
  unfold canDelete Deletable
  split_ifs with h <;> simp [h]

lemma validTransitions_sinks (h : ta ∈ validTransitions cu) :
    ta ≠ deleting ∧ cu ≠ deleting ∧ cu ≠ archived := by
  cases cu <;> cases ta <;> simp [validTransitions] at h ⊢

def receiptIdMaxLength : ℕ := 64

def ReceiptIdValid (receiptId : String) : Prop :=
  ¬ isBlank receiptId ∧ receiptId.length ≤ receiptIdMaxLength

instance (receiptId : String) : Decidable (ReceiptIdValid receiptId) :=
  inferInstanceAs (Decidable (_ ∧ _))

/-- Complete identity required to elect one durable run-state writer. -/
structure RunWriteAuthority where
  runRevision : ℕ
  writerGeneration : ℕ
  actionType : ControlActionType
  actionReceiptId : String
  generation_pos : 1 ≤ writerGeneration
  receipt_valid : ReceiptIdValid actionReceiptId
deriving DecidableEq

variable {a b : RunWriteAuthority} {actionType ty : ControlActionType} {actionReceiptId ari : String}

namespace RunWriteAuthority

/-- The constructor with its checks. Revisions are non-negative by type. -/
def make (runRevision writerGeneration : ℕ) (actionType : ControlActionType)
    (actionReceiptId : String) : Except Raised RunWriteAuthority :=
  if hg : 1 ≤ writerGeneration then
    if hr : ReceiptIdValid actionReceiptId then
      .ok ⟨runRevision,writerGeneration,actionType,actionReceiptId,hg,hr⟩
    else .error (.valueError
      "action_receipt_id cannot be blank and must contain at most 64 characters")
  else .error (.valueError "writer_generation must be a positive integer")

/-- Whether the named action holds this authority. Evidence that also records a
generation or a revision pins those too. -/
def ownedBy (a : RunWriteAuthority) (actionType : ControlActionType)
    (actionReceiptId : Option String) (writerGeneration runRevision : Option ℕ := none)
    (exactRevision : Bool := true) : Bool :=
  if a.actionType ≠ actionType ∨ some a.actionReceiptId ≠ actionReceiptId then false
  else if writerGeneration.any (· ≠ a.writerGeneration) then false
  else
    match runRevision with
    | none => true
    | some r => if exactRevision then r == a.runRevision else r ≤ a.runRevision

def successor (a : RunWriteAuthority) (actionType : ControlActionType)
    (actionReceiptId : String) : Except Raised RunWriteAuthority :=
  make (a.runRevision + 1) (if a.ownedBy actionType (some actionReceiptId) then a.writerGeneration
      else a.writerGeneration + 1)
    actionType actionReceiptId

@[simp] lemma ownedBy_identity : a.ownedBy ty (some ari) = true ↔
    a.actionType = ty ∧ a.actionReceiptId = ari := by
  unfold ownedBy
  by_cases h : a.actionType ≠ ty ∨ some a.actionReceiptId ≠ some ari
  · rw [if_pos h]
    simp only [ne_eq,Option.some.injEq] at h
    simpa using fun ht => h.resolve_left (not_not.mpr ht)
  · rw [if_neg h]
    simp only [ne_eq,Option.some.injEq,not_or,not_not] at h
    simpa using h

lemma ownedBy_exact : a.ownedBy b.actionType (some b.actionReceiptId) (some b.writerGeneration)
    (some b.runRevision) = true ↔ a = b := by
  constructor
  · intro h
    unfold ownedBy at h
    split_ifs at h with h₁ h₂ h₃
    · simp only [ne_eq,Option.some.injEq,not_or,not_not] at h₁
      simp only [Option.any_some,ne_eq,decide_not,Bool.not_eq_true',decide_eq_false_iff_not,not_not] at h₂
      obtain ⟨r,g,t,i,hg,hi⟩ := a
      obtain ⟨r',g',t',i',hg',hi'⟩ := b
      simp only [beq_iff_eq] at h
      simp_all
    · exact (h₃ rfl).elim
  · rintro rfl
    simp [ownedBy]

lemma make_ok (h : make rr wg ty ari = .ok a) : a.runRevision = rr ∧ a.writerGeneration = wg ∧
    a.actionType = ty ∧ a.actionReceiptId = ari := by
  unfold make at h
  split_ifs at h
  cases h
  exact ⟨rfl,rfl,rfl,rfl⟩

lemma successor_ok (h : a.successor ty ari = .ok b) :
    b.runRevision = a.runRevision + 1 ∧ b.actionType = ty ∧ b.actionReceiptId = ari ∧
      b.writerGeneration =
        if a.actionType = ty ∧ a.actionReceiptId = ari
          then a.writerGeneration else a.writerGeneration + 1 := by
  obtain ⟨hr,hg,ht,hi⟩ := make_ok h
  refine ⟨hr,ht,hi,?_⟩
  rw [hg]
  simp only [ownedBy_identity]

end RunWriteAuthority

/-- Exact durable state and authority a lifecycle writer observed. -/
structure ThreadWriteExpectation where
  status : ThreadStatus
  authority : RunWriteAuthority
deriving DecidableEq

end VaultspecA2A.ThreadLifecycle
