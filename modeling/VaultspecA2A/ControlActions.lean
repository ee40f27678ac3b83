import VaultspecA2A.Database

/-!
# The control-action journal

Rows of the journal are created, found again under their idempotency key, and
marked applied. A key names one intention of a run: reserving it a second time
returns the stored row and says whether the body is the same. Row and dispatch
identities that the code draws at random are arguments here, so every statement
holds for whatever was drawn.
-/
namespace VaultspecA2A.ControlActions
open Tables ThreadLifecycle Database

structure ActionArgs where
  threadId : String
  actionType : ControlActionType
  idempotencyKey : String
  requestId : Option String := none
  payload : Option ActionPayload := none
  resultStatus : ControlActionResultStatus := .acceptedNotApplied
  dispatchId : Option String := none
  recoveryDeadlineAt : Option Instant := none

structure Drawn where
  actionId : String
  dispatchId : String
deriving DecidableEq, Repr

def requiresDeadline (actionType : ControlActionType) (status : ControlActionResultStatus) :
    Bool :=
  actionType ∈ recoveryActionTypes ∧ status ∈ dispatchableResultStatuses

def newRow (args : ActionArgs) (drawn : Drawn) : ControlActionModel where
  id := drawn.actionId
  threadId := args.threadId
  actionType := args.actionType
  requestId := args.requestId
  idempotencyKey := args.idempotencyKey
  appliedAt := none
  supersededAt := none
  resultStatus := args.resultStatus
  payload := args.payload
  graphReceipt := none
  dispatchId :=
    match args.dispatchId with
    | none => some drawn.dispatchId
    | some d => if d.isEmpty then some drawn.dispatchId else some d
  claimToken := none
  claimExpiresAt := none
  recoveryDeadlineAt := args.recoveryDeadlineAt
  queuePosition := none

def createControlAction (s : Store) (args : ActionArgs) (drawn : Drawn) :
    Except Raised (Store × ControlActionModel) :=
  let required := requiresDeadline args.actionType args.resultStatus
  if required ≠ args.recoveryDeadlineAt.isSome then
    .error (.valueError (args.actionType.value ++ " journaled as " ++ args.resultStatus.value ++
      (if required then " requires" else " cannot carry") ++ " a recovery deadline"))
  else
    match s.controlActions.insert (newRow args drawn) with
    | none => .error .integrityError
    | some actions => .ok ({ s with controlActions := actions },newRow args drawn)

/-- The journal record of a run under a key, inserted only when absent. The flag
says whether this call created it. -/
def getOrCreateControlAction (s : Store) (args : ActionArgs) (drawn : Drawn) :
    Except Raised (Store × ControlActionModel × Bool) :=
  match getControlActionByIdempotencyKey s args.threadId args.idempotencyKey with
  | some existing => .ok (s,existing,false)
  | none =>
    match createControlAction s args drawn with
    | .ok (s',created) => .ok (s',created,true)
    | .error .integrityError =>
      match getControlActionByIdempotencyKey s args.threadId args.idempotencyKey with
      | some conflicting => .ok (s,conflicting,false)
      | none => .error .integrityError
    | .error e => .error e

structure ControlActionReservation where
  action : ControlActionModel
  created : Bool
  payloadMatches : Bool

/-- Reserve one durable intention and compare any replay with its winner. -/
def reserveControlAction (s : Store) (args : ActionArgs) (drawn : Drawn) :
    Except Raised (Store × ControlActionReservation) :=
  match getOrCreateControlAction s args drawn with
  | .error e => .error e
  | .ok (s',action,created) =>
    .ok (s',⟨action,created,decide (action.actionType = args.actionType ∧
      action.requestId = args.requestId ∧ action.payload = args.payload)⟩)

def settleApplied (appliedAt : Instant) (status : ControlActionResultStatus)
    (a : ControlActionModel) : ControlActionModel :=
  { a with
    appliedAt := some appliedAt
    resultStatus := status
    claimToken := none
    claimExpiresAt := none }

def markControlActionApplied (s : Store) (actionId : String) (appliedAt : Instant)
    (status : ControlActionResultStatus := .applied) : Except Raised Store :=
  match s.controlActions.updateWhere (fun a => decide (a.id = actionId))
      (settleApplied appliedAt status) with
  | none => .error .integrityError
  | some actions => .ok { s with controlActions := actions }

variable {row : ControlActionModel}

lemma createControlAction_ok (h : createControlAction s ar dr = .ok (t,row)) :
    row = newRow ar dr ∧ t.threads = s.threads ∧
      t.permissionRequests = s.permissionRequests ∧ t.permissionLogs = s.permissionLogs ∧
      s.controlActions.insert row = some t.controlActions := by
  unfold createControlAction at h
  dsimp only at h
  split_ifs at h
  split at h
  · cases h
  rename_i ac hi
  cases h
  exact ⟨rfl,rfl,rfl,rfl,hi⟩

lemma createControlAction_found (h : createControlAction s ar dr = .ok (t,row)) :
    getControlAction t row.id = some row ∧
      getControlActionByIdempotencyKey t row.threadId row.idempotencyKey = some row := by
  have hm := (Table.mem_of_insert (createControlAction_ok h).2.2.2.2).mpr (.inr rfl)
  exact ⟨Table.lookup_of_mem ControlActionModel.id action_id_unique hm,
    Table.lookup_of_mem actionKey action_key_unique hm⟩

lemma getControlActionByDispatchId_of_mem
    (hm : row ∈ s.controlActions.rows) (ht : row.threadId = tid)
    (hd : row.dispatchId = some did) :
    getControlActionByDispatchId s tid did = some row := by
  refine Table.first_of_mem hm (by simp [ht,hd]) fun b hb hk => ?_
  obtain ⟨-,hd'⟩ := Prod.mk.inj (of_decide_eq_true hk)
  refine Table.eq_of_not_fits hb hm (fun hf => hf.2.2.1 ?_) fun hf => hf.2.2.1 ?_
  · exact ⟨by simp [hd'],hd'.trans hd.symm⟩
  · exact ⟨by simp [hd],hd.trans hd'.symm⟩

/-- The columns of a journal row that nothing writes after its insertion. -/
structure SameIntention (a b : ControlActionModel) : Prop where
  id : b.id = a.id
  threadId : b.threadId = a.threadId
  actionType : b.actionType = a.actionType
  requestId : b.requestId = a.requestId
  idempotencyKey : b.idempotencyKey = a.idempotencyKey
  payload : b.payload = a.payload
  dispatchId : b.dispatchId = a.dispatchId

lemma SameIntention.refl (a : ControlActionModel) : SameIntention a a :=
  ⟨rfl,rfl,rfl,rfl,rfl,rfl,rfl⟩

lemma SameIntention.trans (h : SameIntention a b) (g : SameIntention b c) : SameIntention a c :=
  ⟨g.id.trans h.id,g.threadId.trans h.threadId,g.actionType.trans h.actionType,
    g.requestId.trans h.requestId,g.idempotencyKey.trans h.idempotencyKey,
    g.payload.trans h.payload,g.dispatchId.trans h.dispatchId⟩

/-- The same row, settled no further. -/
structure SameProgress (a b : ControlActionModel) : Prop extends SameIntention a b where
  appliedAt : b.appliedAt = a.appliedAt
  resultStatus : b.resultStatus = a.resultStatus

lemma SameProgress.refl (a : ControlActionModel) : SameProgress a a := ⟨.refl a,rfl,rfl⟩

lemma SameProgress.trans (h : SameProgress a b) (g : SameProgress b c) : SameProgress a c :=
  ⟨h.toSameIntention.trans g.toSameIntention,g.appliedAt.trans h.appliedAt,
    g.resultStatus.trans h.resultStatus⟩

lemma reserveControlAction_ok (h : reserveControlAction s ar dr = .ok (t,r)) :
    (r.created = false → t = s ∧
      getControlActionByIdempotencyKey s ar.threadId ar.idempotencyKey = some r.action) ∧
    (r.created = true → getControlActionByIdempotencyKey s ar.threadId ar.idempotencyKey = none ∧
      createControlAction s ar dr = .ok (t,r.action)) ∧
    (r.payloadMatches = true ↔ r.action.actionType = ar.actionType ∧
      r.action.requestId = ar.requestId ∧ r.action.payload = ar.payload) := by
  unfold reserveControlAction getOrCreateControlAction at h
  cases hf : getControlActionByIdempotencyKey s ar.threadId ar.idempotencyKey with
  | some ex =>
    simp only [hf] at h
    cases h
    simp
  | none =>
    simp only [hf] at h
    cases hc : createControlAction s ar dr with
    | ok p =>
      simp only [hc] at h
      cases h
      simp
    | error e =>
      simp only [hc] at h
      cases e <;> cases h

lemma reserveControlAction_held (h : reserveControlAction s ar dr = .ok (t,r))
    (hrow : getControlActionByIdempotencyKey s ar.threadId ar.idempotencyKey = some row) :
    r.action = row := by
  obtain ⟨hold,hn,-⟩ := reserveControlAction_ok h
  cases hc : r.created with
  | false => exact Option.some.inj ((hold hc).2.symm.trans hrow)
  | true => cases (hn hc).1.symm.trans hrow

lemma reserveControlAction_matches_iff (h : reserveControlAction s ar dr = .ok (t,r)) :
    r.payloadMatches = true ↔
      ∀ row, getControlActionByIdempotencyKey s ar.threadId ar.idempotencyKey = some row →
        row.actionType = ar.actionType ∧ row.requestId = ar.requestId ∧
          row.payload = ar.payload := by
  obtain ⟨hold,hn,hm⟩ := reserveControlAction_ok h
  rw [hm]
  constructor
  · intro hb row hrow
    rw [← reserveControlAction_held h hrow]
    exact hb
  · intro ha
    cases hc : r.created with
    | false => exact ha _ (hold hc).2
    | true =>
      rw [(createControlAction_ok (hn hc).2).1]
      exact ⟨rfl,rfl,rfl⟩

end VaultspecA2A.ControlActions
