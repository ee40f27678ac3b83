import VaultspecA2A.ThreadElections
import VaultspecA2A.ActionLeases

/-!
# Claims of accepted actions

An accepted action is journaled under its key, leased to one dispatcher and bound
to the run by a receipt, all in one transaction. A caller that finds the key taken
compares its body with the stored one; a caller that does not win the lease, or
whose action cannot own the run, rolls back whatever it attempted. The claim it
gets tells the cases apart.
-/
namespace VaultspecA2A.ActionClaims
open Tables PyText ThreadLifecycle Database ControlActions ThreadElections ActionLeases

def graphActionVerb : ControlActionType → Option String
  | .ingest => some "ingest"
  | .messageFollowupRequested => some "ingest"
  | .resume => some "resume"
  | .permissionResponseSubmitted => some "resume"
  | _ => none

def maxRunIdChars : ℕ := 128

/-- The receipts the schema admits; a revision is non-negative by type. -/
def validReceipt (receipt : GraphActionReceipt) : Bool :=
  isToken maxRunIdChars receipt.threadId && isToken receiptIdMaxLength receipt.actionId &&
    (graphActionVerb receipt.actionType).isSome && isToken receiptIdMaxLength receipt.dispatchId &&
    decide (1 ≤ receipt.writerGeneration)

/-- The receipt names exactly the given action. With an authority, that action must
also still own the run; its revision may have moved on. -/
def receiptMatches (receipt : GraphActionReceipt) (threadId actionId : String)
    (actionType : ControlActionType) (dispatchId : Option String) (payloadFingerprint : String)
    (authority : Option RunWriteAuthority := none) : Bool :=
  decide (receipt.threadId = threadId ∧ receipt.actionId = actionId ∧
      receipt.actionType = actionType ∧ some receipt.dispatchId = dispatchId ∧
      receipt.payloadFingerprint = payloadFingerprint) &&
    authority.all fun current => current.ownedBy receipt.actionType (some receipt.dispatchId)
      (some receipt.writerGeneration) (some receipt.runRevision) false

def acceptedInput : Option ActionPayload → Option AcceptedActionInput
  | some (.accepted input) =>
    if input.dispatch.verb = "cancel" ∨
        input.dispatch.graphDefinition.teamId = input.dispatch.teamPreset then some input
    else none
  | _ => none

def readAcceptedInput (action : ControlActionModel) : Option AcceptedActionInput :=
  acceptedInput action.payload

def readReceipt (action : ControlActionModel) : Option GraphActionReceipt :=
  action.graphReceipt.filter validReceipt

def acceptedGraphAction (action : ControlActionModel) (threadId : String) : Option ActionPayload :=
  match readAcceptedInput action with
  | none => none
  | some accepted =>
    if accepted.dispatch.threadId = threadId ∧
        some accepted.dispatch.verb = graphActionVerb action.actionType then action.payload
    else none

def threadWriteExpectation (thread : ThreadModel) : ThreadWriteExpectation :=
  ⟨thread.status,thread.authority⟩

section
variable (fingerprint : ActionPayload → String)

/-- Validate stored evidence against the current writer without creating it. -/
def validateCurrentGraphReceipt (thread : ThreadModel) (action : ControlActionModel) :
    Option GraphActionReceipt :=
  match readReceipt action, action.payload, readAcceptedInput action with
  | some receipt, some payload, some accepted =>
    if accepted.dispatch.threadId = thread.id ∧
        some accepted.dispatch.verb = graphActionVerb receipt.actionType ∧
        receiptMatches receipt thread.id action.id action.actionType action.dispatchId
          (fingerprint payload) (some thread.authority) then some receipt
    else none
  | _, _, _ => none

/-- The evidence a delivery carries: the receipt of its own committed acceptance. -/
def bindGraphActionReceipt (s : Store) (dispatch : DispatchInput) (dispatchId : String) :
    Option GraphActionReceipt :=
  match getThread s dispatch.threadId,
      getControlActionByDispatchId s dispatch.threadId dispatchId with
  | some thread, some action =>
    if thread.status ∈ nonActiveStatuses then none
    else
      (validateCurrentGraphReceipt fingerprint thread action).filter fun receipt =>
        decide (graphActionVerb receipt.actionType = some dispatch.verb) &&
          (readAcceptedInput action).any fun accepted =>
            decide (accepted.dispatch = dispatch) && !accepted.actorTokensRequired
  | _, _ => none

def receiptNames (receipt : GraphActionReceipt) (a : ControlActionModel) : Bool :=
  decide (a.id = receipt.actionId) && (decide (a.threadId = receipt.threadId) &&
    decide (a.dispatchId = some receipt.dispatchId) && decide (a.actionType = receipt.actionType))

def attachReceipt (receipt : GraphActionReceipt) (a : ControlActionModel) : ControlActionModel :=
  { a with graphReceipt := some receipt }

/-- Persist once under exact ownership; every retry returns the stored receipt. -/
def persistGraphActionReceipt (s : Store) (receipt : GraphActionReceipt)
    (expectation : ThreadWriteExpectation) : Except Raised (Store × Option GraphActionReceipt) :=
  let authority := expectation.authority
  if ¬ authority.ownedBy receipt.actionType (some receipt.dispatchId)
      (some receipt.writerGeneration) (some receipt.runRevision) then .ok (s,none)
  else
    let ownsThread := s.threads.holds fun t =>
      decide (t.id = receipt.threadId) && witnessed expectation true t
    match s.controlActions.updateWhere
        (fun a => receiptNames receipt a && (a.graphReceipt.isNone && ownsThread))
        (attachReceipt receipt) with
    | none => .error .integrityError
    | some actions =>
      let stored :=
        if ownsThread then (actions.first (receiptNames receipt)).bind readReceipt else none
      .ok ({ s with controlActions := actions },
        stored.filter fun found => receiptMatches found receipt.threadId receipt.actionId
          receipt.actionType (some receipt.dispatchId) receipt.payloadFingerprint
          (some authority))

/-- The expectation under which an action owns the run, installed by an election from
the caller's witness if it does not own it yet. -/
def installWriter (s : Store) (thread : ThreadModel) (actionType : ControlActionType)
    (dispatchId : String) (installFrom : Option ThreadWriteExpectation) :
    Except Raised (Store × Option ThreadWriteExpectation) :=
  if thread.authority.ownedBy actionType (some dispatchId) then
    .ok (s,some (threadWriteExpectation thread))
  else
    match installFrom with
    | none => .ok (s,none)
    | some witness => do
        let (s',outcome) ←
          electThreadStatus s thread.id witness witness.status actionType dispatchId
        .ok (s',if outcome = .won then (getThread s' thread.id).map threadWriteExpectation
          else none)

/-- Attach evidence only when this action owns the exact current run. -/
def prepareGraphActionReceipt (s : Store) (threadId dispatchId : String)
    (installFrom : Option ThreadWriteExpectation) :
    Except Raised (Store × Option GraphActionReceipt) :=
  match getThread s threadId, getControlActionByDispatchId s threadId dispatchId with
  | some thread, some action =>
    if thread.status ∈ nonActiveStatuses then .ok (s,none)
    else
      match acceptedGraphAction action threadId with
      | none => .ok (s,none)
      | some payload => do
          let (s',installed) ←
            installWriter s thread action.actionType dispatchId installFrom
          match installed with
          | none => .ok (s',none)
          | some expectation =>
            let receipt : GraphActionReceipt :=
              { threadId := threadId, actionId := action.id, actionType := action.actionType
                payloadFingerprint := fingerprint payload, dispatchId := dispatchId
                runRevision := expectation.authority.runRevision
                writerGeneration := expectation.authority.writerGeneration }
            if validReceipt receipt then persistGraphActionReceipt s' receipt expectation
            else .ok (s',none)
  | _, _ => .ok (s,none)

end

lemma validateCurrentGraphReceipt_advance
    (hid : la.id = th.id) (hty : la.authority.actionType = th.authority.actionType)
    (hre : la.authority.actionReceiptId = th.authority.actionReceiptId)
    (hgene : la.authority.writerGeneration = th.authority.writerGeneration)
    (hrev : th.authority.runRevision ≤ la.authority.runRevision)
    (h : validateCurrentGraphReceipt fp th ac = some rc) :
    validateCurrentGraphReceipt fp la ac = some rc := by
  unfold validateCurrentGraphReceipt at h ⊢
  split at h
  · rename_i fo pl ad hf hp ha
    split_ifs at h with hm
    cases h
    obtain ⟨ht,hv,hm⟩ := hm
    simp only [receiptMatches,Bool.and_eq_true,decide_eq_true_eq,Option.all_some] at hm
    have howne : la.authority.ownedBy rc.actionType (some rc.dispatchId)
        (some rc.writerGeneration) (some rc.runRevision) false = true := by
      have ho := hm.2
      unfold RunWriteAuthority.ownedBy at ho ⊢
      rw [hty,hre,hgene]
      simp only [Bool.false_eq_true,if_false] at ho ⊢
      split_ifs at ho with hi hge
      rw [if_neg hi,if_neg hge]
      rw [decide_eq_true_eq] at ho ⊢
      exact Nat.le_trans ho hrev
    rw [if_pos]
    refine ⟨ht.trans hid.symm,hv,?_⟩
    simp only [receiptMatches,Bool.and_eq_true,decide_eq_true_eq,Option.all_some,hid]
    exact ⟨hm.1,howne⟩
  · cases h

lemma validateCurrentGraphReceipt_names (h : validateCurrentGraphReceipt fp th ac = some rc) :
    rc.threadId = th.id ∧ rc.actionType = ac.actionType ∧ ac.dispatchId = some rc.dispatchId ∧
      (readAcceptedInput ac).isSome = true := by
  unfold validateCurrentGraphReceipt at h
  split at h
  · rename_i hre
    split_ifs at h with hm
    cases h
    have hn := hm.2.2
    simp only [receiptMatches,Bool.and_eq_true,decide_eq_true_eq] at hn
    exact ⟨hn.1.1,hn.1.2.2.1,hn.1.2.2.2.1.symm,by rw [hre]; rfl⟩
  · cases h

structure ControlActionClaimRequest where
  threadId : String
  actionType : ControlActionType
  idempotencyKey : String
  payload : Option ActionPayload
  dispatchId : String
  requestId : Option String := none
  writeExpectation : Option ThreadWriteExpectation := none
  recoveryTimeoutSeconds : Option ℕ := none
  recoveryDeadlineAt : Option Instant := none

/-- The caller's view of a reservation and of its attempt at the lease. -/
structure ControlActionClaim where
  actionId : String
  dispatchId : String
  created : Bool
  payloadMatches : Bool
  acquired : Bool
  authorityMatches : Bool
  applied : Bool
  resultStatus : ControlActionResultStatus
  claimToken : Option String
deriving DecidableEq, Repr

def resolvedRecoveryDeadline (actionType : ControlActionType) (instant : Instant)
    (timeoutSeconds : Option ℕ) (deadlineAt : Option Instant) :
    Except Raised (Option Instant) :=
  if actionType ∉ recoveryActionTypes then
    if timeoutSeconds.isSome ∨ deadlineAt.isSome then
      .error (.valueError "non-recoverable action cannot carry a recovery deadline")
    else .ok none
  else
    match timeoutSeconds, deadlineAt with
    | some timeout, none =>
      if timeout < 1 then .error (.valueError "recovery_timeout_seconds must be positive")
      else .ok (some (instant + timeout * second))
    | none, some deadline =>
      if deadline ≤ instant then
        .error (.valueError "recovery deadline must be later than acceptance")
      else .ok (some deadline)
    | _, _ =>
      .error (.valueError "recoverable action requires exactly one run timeout or deadline")

def withinDeadline (actionType : ControlActionType) (action : ControlActionModel)
    (instant : Instant) : Bool :=
  decide (actionType ∉ recoveryActionTypes) || action.recoveryDeadlineAt.any (instant < ·)

def claimReservedAction (s : Store) (reservation : ControlActionReservation)
    (actionType : ControlActionType) (instant : Instant) (freshToken : String) :
    Except Raised (Store × Option String × Bool) :=
  let action := reservation.action
  let authorityMatches := withinDeadline actionType action instant
  if ¬ authorityMatches ∨ ¬ reservation.payloadMatches ∨ action.appliedAt.isSome then
    .ok (s,none,authorityMatches)
  else do
    let (s',token) ← takeActionLease s action.id freshToken instant
    .ok (s',token,authorityMatches)

section
variable (fingerprint : ActionPayload → String)

def bindClaim (s : Store) (request : ControlActionClaimRequest) (dispatchId : String)
    (token : Option String) : Except Raised (Store × Bool) :=
  if token.isSome ∧ request.actionType ≠ .cancel then do
    let (s',receipt) ←
      prepareGraphActionReceipt fingerprint s request.threadId dispatchId request.writeExpectation
    .ok (s',receipt.isSome)
  else .ok (s,true)

def ControlActionClaimRequest.args (request : ControlActionClaimRequest)
    (deadline : Option Instant) : ActionArgs where
  threadId := request.threadId
  actionType := request.actionType
  idempotencyKey := request.idempotencyKey
  requestId := request.requestId
  payload := request.payload
  dispatchId := some request.dispatchId
  recoveryDeadlineAt := deadline

/-- Prepare one accepted action inside the caller's transaction. A claim that is not
acquired leaves the store as it was. -/
def prepareControlActionClaim (s : Store) (request : ControlActionClaimRequest)
    (instant : Instant) (drawn : Drawn) (freshToken : String) :
    Except Raised (Store × ControlActionClaim) := do
  let deadline ← resolvedRecoveryDeadline request.actionType instant
    request.recoveryTimeoutSeconds request.recoveryDeadlineAt
  let (reserved,reservation) ← reserveControlAction s (request.args deadline) drawn
  let action := reservation.action
  match action.dispatchId with
  | none => .error (.runtimeError "reserved control action has no stable dispatch id")
  | some dispatchId => do
      let (leased,token,inTime) ←
        claimReservedAction reserved reservation request.actionType instant freshToken
      let (bound,owned) ← bindClaim fingerprint leased request dispatchId token
      let acquired := token.isSome && owned
      .ok (if acquired then bound else s,
        { actionId := action.id, dispatchId := dispatchId, created := reservation.created
          payloadMatches := reservation.payloadMatches, acquired := acquired
          authorityMatches := inTime && owned, applied := action.appliedAt.isSome
          resultStatus := action.resultStatus
          claimToken := if acquired then token else none })

end

def finalizeControlActionAcceptance (s : Store) (claim : ControlActionClaim) :
    Except Raised Store :=
  match claim.acquired, claim.claimToken with
  | true, some token =>
    match getControlAction s claim.actionId with
    | none => .error (.runtimeError "control action lease is not owned by this dispatcher")
    | some action =>
      if action.claimToken = some token ∧ action.claimExpiresAt.isSome ∧
          action.appliedAt.isNone then .ok s
      else .error (.runtimeError "control action lease is not owned by this dispatcher")
  | _, _ => .error (.runtimeError "cannot finalize an unowned control action acceptance")

lemma finalizeControlActionAcceptance_same
    (h : finalizeControlActionAcceptance s cl = .ok t) : t = s := by
  unfold finalizeControlActionAcceptance at h
  split at h
  · split at h
    · cases h
    · split_ifs at h
      cases h
      rfl
  · cases h

def RunsKept (s t : Store) : Prop :=
  ∀ threadId, (getThread t threadId).isSome = (getThread s threadId).isSome

/-- The journal evolved, and the permission tables and the runs stayed. -/
structure StoreStep (Same : ControlActionModel → ControlActionModel → Prop)
    (Good : ControlActionModel → Prop) (s t : Store) : Prop where
  actions : s.controlActions.Evolves Same Good t.controlActions
  requests : t.permissionRequests = s.permissionRequests
  logs : t.permissionLogs = s.permissionLogs
  runs : RunsKept s t

/-- A step that settles nothing. -/
abbrev ClaimStep (Good : ControlActionModel → Prop) (s t : Store) : Prop :=
  StoreStep SameProgress Good s t

/-- A step that may settle. -/
abbrev IntentStep (Good : ControlActionModel → Prop) (s t : Store) : Prop :=
  StoreStep SameIntention Good s t

variable {st : Option GraphActionReceipt}
section
variable {Good : ControlActionModel → Prop} {s t : Store}

lemma ClaimStep.refl (s : Store) : ClaimStep Good s s :=
  ⟨.refl SameProgress.refl _,rfl,rfl,fun _ => rfl⟩

lemma IntentStep.refl (s : Store) : IntentStep Good s s :=
  ⟨.refl SameIntention.refl _,rfl,rfl,fun _ => rfl⟩

lemma StoreStep.trans {Same : ControlActionModel → ControlActionModel → Prop}
    (hs : ∀ {a b c}, Same a b → Same b c → Same a c) (h : StoreStep Same Good s t)
    (g : StoreStep Same Good t u) : StoreStep Same Good s u :=
  ⟨h.actions.trans @hs g.actions,g.requests.trans h.requests,g.logs.trans h.logs,
    fun run => (g.runs run).trans (h.runs run)⟩

lemma ClaimStep.trans (h : ClaimStep Good s t) (g : ClaimStep Good t u) : ClaimStep Good s u :=
  StoreStep.trans (fun h g => h.trans g) h g

lemma ClaimStep.intent (h : ClaimStep Good s t) : IntentStep Good s t :=
  ⟨h.actions.weaken fun _ _ hs => hs.toSameIntention,h.requests,h.logs,h.runs⟩

lemma StoreStep.journal {Same : ControlActionModel → ControlActionModel → Prop}
    (h : s.controlActions.Evolves Same Good t.controlActions)
    (hs : t = { s with controlActions := t.controlActions }) : StoreStep Same Good s t := by
  refine ⟨h,?_,?_,fun run => ?_⟩
  · rw [hs]
  · rw [hs]
  · rw [getThread,hs,getThread]

lemma electThreadStatus_ok (h : electThreadStatus s tid ex su ty ri re co = .ok (t,oc)) :
    t = { s with threads := t.threads } ∧ RunsKept s t := by
  unfold electThreadStatus at h
  split at h
  · cases h
  split at h
  · cases h
  split_ifs at h
  unfold compareAndSetThread at h
  dsimp only at h
  split at h
  · cases h
  rename_i th hup
  have ht : t = { s with threads := th } := by split_ifs at h <;> cases h <;> rfl
  refine ⟨by rw [ht],fun run => ?_⟩
  rw [ht,getThread,Table.lookup_updateWhere ThreadModel.id ?_ hup,Option.isSome_map,getThread]
  exact fun _ => rfl

lemma electThreadStatus_claimStep (h : electThreadStatus s tid ex su ty ri re co =
    .ok (t,oc)) : ClaimStep Good s t := by
  obtain ⟨hs,hr⟩ := electThreadStatus_ok h
  refine ⟨?_,?_,?_,hr⟩
  all_goals rw [hs]
  exact .refl SameProgress.refl _

lemma persistGraphActionReceipt_ok (h : persistGraphActionReceipt s rc ex = .ok (t,st)) :
    t = s ∨ t = { s with controlActions := t.controlActions } ∧
      ∃ p, s.controlActions.updateWhere p (attachReceipt rc) = some t.controlActions := by
  unfold persistGraphActionReceipt at h
  dsimp only at h
  split at h
  · cases h
    exact .inl rfl
  split at h
  · cases h
  rename_i ac hup
  cases h
  exact .inr ⟨rfl,_,hup⟩

lemma installWriter_ok (h : installWriter s th ty did inf = .ok (t,ins)) :
    t = s ∨ ∃ wi oc, inf = some wi ∧ electThreadStatus s th.id wi wi.status ty did =
        .ok (t,oc) := by
  unfold installWriter at h
  split_ifs at h
  · cases h
    exact .inl rfl
  cases inf with
  | none =>
    cases h
    exact .inl rfl
  | some wi =>
    obtain ⟨⟨s',oc⟩,hel,hre⟩ := bind_ok.1 h
    cases hre
    exact .inr ⟨wi,oc,rfl,hel⟩

lemma prepareGraphActionReceipt_ok (h : prepareGraphActionReceipt fp s tid did inf = .ok (t,rc)) :
    ∃ s', (s' = s ∨ ∃ run ty wi oc, inf = some wi ∧ electThreadStatus s run wi wi.status ty did =
          .ok (s',oc)) ∧
      (t = s' ∨ ∃ na ex st, persistGraphActionReceipt s' na ex = .ok (t,st)) := by
  unfold prepareGraphActionReceipt at h
  split at h
  · split_ifs at h
    · cases h
      exact ⟨_,.inl rfl,.inl rfl⟩
    split at h
    · cases h
      exact ⟨_,.inl rfl,.inl rfl⟩
    obtain ⟨⟨s',ins⟩,hi,hre⟩ := bind_ok.1 h
    refine ⟨s',?_,?_⟩
    · rcases installWriter_ok hi with hs | ⟨wi,oc,hf,hel⟩
      · exact .inl hs
      · exact .inr ⟨_,_,wi,oc,hf,hel⟩
    · cases ins with
      | none =>
        cases hre
        exact .inl rfl
      | some ex =>
        dsimp only at hre
        split_ifs at hre
        · exact .inr ⟨_,_,_,hre⟩
        · cases hre
          exact .inl rfl
  · cases h
    exact ⟨_,.inl rfl,.inl rfl⟩

variable (hgood : ∀ {a b}, SameProgress a b → Good a → Good b)

include hgood in
lemma takeActionLease_claimStep
    (h : takeActionLease s aid tk it = .ok (t,tn)) : ClaimStep Good s t := by
  obtain ⟨won,-,hu⟩ := takeActionLease_ok h
  obtain ⟨hs,hup,-⟩ := updateAction_rows hu
  have hf : ∀ a, SameProgress a (granted tk (it + controlActionLeaseTtl) a) :=
    fun a => ⟨⟨rfl,rfl,rfl,rfl,rfl,rfl,rfl⟩,rfl,rfl⟩
  exact .journal (.updateWhere SameProgress.refl hf (fun a _ _ => hgood (hf a)) hup) hs

include hgood in
lemma persistGraphActionReceipt_claimStep (h : persistGraphActionReceipt s rc ex = .ok (t,st)) :
    ClaimStep Good s t := by
  rcases persistGraphActionReceipt_ok h with rfl | ⟨hs,p,hup⟩
  · exact .refl _
  have hf : ∀ a, SameProgress a (attachReceipt rc a) :=
    fun a => ⟨⟨rfl,rfl,rfl,rfl,rfl,rfl,rfl⟩,rfl,rfl⟩
  exact .journal (.updateWhere SameProgress.refl hf (fun a _ _ => hgood (hf a)) hup) hs

include hgood in
lemma prepareGraphActionReceipt_claimStep (h : prepareGraphActionReceipt fp s tid did inf =
    .ok (t,rc)) : ClaimStep Good s t := by
  obtain ⟨s',hi,hp⟩ := prepareGraphActionReceipt_ok h
  have hf : ClaimStep Good s s' := by
    rcases hi with rfl | ⟨run,ty,wi,oc,-,hel⟩
    · exact .refl _
    · exact electThreadStatus_claimStep hel
  rcases hp with rfl | ⟨na,ex,st,hp⟩
  · exact hf
  · exact hf.trans (persistGraphActionReceipt_claimStep hgood hp)

include hgood in
lemma bindClaim_claimStep (h : bindClaim fp s rq did tn = .ok (t,ow)) : ClaimStep Good s t := by
  unfold bindClaim at h
  split_ifs at h
  · obtain ⟨⟨s',rc⟩,hre,hret⟩ := bind_ok.1 h
    cases hret
    exact prepareGraphActionReceipt_claimStep hgood hre
  · cases h
    exact .refl _

section
lemma claimReservedAction_ok (h : claimReservedAction s re ty it tk = .ok (t,tn,im)) :
    im = withinDeadline ty re.action it ∧
      if im = true ∧ re.payloadMatches = true ∧ re.action.appliedAt = none then
        takeActionLease s re.action.id tk it = .ok (t,tn)
      else t = s ∧ tn = none := by
  unfold claimReservedAction at h
  dsimp only at h
  split_ifs at h with hs
  · cases h
    rw [if_neg (by simpa [or_iff_not_imp_left,Option.isSome_iff_ne_none] using hs)]
    exact ⟨rfl,rfl,rfl⟩
  · obtain ⟨⟨s',tok⟩,ht,hre⟩ := bind_ok.1 h
    cases hre
    rw [if_pos (by simpa [not_or] using hs)]
    exact ⟨rfl,ht⟩

include hgood in
lemma claimReservedAction_claimStep (h : claimReservedAction s re ty it tk = .ok (t,tn,im)) :
    ClaimStep Good s t := by
  obtain ⟨-,hc⟩ := claimReservedAction_ok h
  split_ifs at hc
  · exact takeActionLease_claimStep hgood hc
  · obtain ⟨rfl,-⟩ := hc
    exact .refl _

lemma claimReservedAction_won (h : claimReservedAction s re ty it tk = .ok (t,tn,im))
    (hw : tn.isSome = true) :
    (im = true ∧ re.payloadMatches = true ∧ re.action.appliedAt = none) ∧
      takeActionLease s re.action.id tk it = .ok (t,tn) := by
  obtain ⟨-,hc⟩ := claimReservedAction_ok h
  split_ifs at hc with hs
  · exact ⟨hs,hc⟩
  · rw [hc.2] at hw
    cases hw

lemma claimReservedAction_acquirable (h : claimReservedAction s re ty it tk = .ok (t,tn,im))
    (hw : tn.isSome = true) : withinDeadline ty re.action it = true ∧
      ∃ row, getControlAction s re.action.id = some row ∧ acquirableBy row tk it = true ∧
        getControlAction t re.action.id = some (granted tk (it + controlActionLeaseTtl) row) := by
  obtain ⟨hin,ht⟩ := claimReservedAction_won h hw
  obtain ⟨won,rfl,hu⟩ := takeActionLease_ok ht
  obtain ⟨row,hrow,hf,haf⟩ := (updateAction_ok (fun _ => by rfl) hu).1 (by simpa using hw)
  exact ⟨(claimReservedAction_ok h).1 ▸ hin.1,row,hrow,(Bool.and_eq_true_iff.1 hf).2,haf⟩

lemma claimReservedAction_free (h : claimReservedAction s re ty it tk = .ok (t,tn,im))
    (hrow : getControlAction s re.action.id = some re.action)
    (hf : acquirableBy re.action tk it = true)
    (ho : re.action.appliedAt = none) (hin : im = true)
    (hb : re.payloadMatches = true) : tn.isSome = true := by
  obtain ⟨-,hc⟩ := claimReservedAction_ok h
  rw [if_pos ⟨hin,hb,ho⟩] at hc
  obtain ⟨won,rfl,hu⟩ := takeActionLease_ok hc
  rw [updateAction_matched hrow (by simp [ho,hf]) hu]
  rfl

lemma claimReservedAction_threads (h : claimReservedAction s re ty it tk = .ok (t,tn,im)) :
    t.threads = s.threads := by
  obtain ⟨-,hc⟩ := claimReservedAction_ok h
  split_ifs at hc
  · obtain ⟨won,-,hu⟩ := takeActionLease_ok hc
    rw [(updateAction_rows hu).1]
  · rw [hc.1]

end

structure Claimed (request : ControlActionClaimRequest) (claim : ControlActionClaim)
    (row : ControlActionModel) : Prop where
  id : row.id = claim.actionId
  threadId : row.threadId = request.threadId
  idempotencyKey : row.idempotencyKey = request.idempotencyKey
  actionType : row.actionType = request.actionType
  requestId : row.requestId = request.requestId
  payload : row.payload = request.payload
  dispatchId : row.dispatchId = some claim.dispatchId
  applied : row.appliedAt.isSome = claim.applied

section
variable {fingerprint fp : ActionPayload → String} {request rq : ControlActionClaimRequest}
variable {instant it : Instant} {drawn dr : Drawn} {freshToken tk : String} {claim cl : ControlActionClaim}

structure ClaimStages (fingerprint : ActionPayload → String) (s : Store)
    (request : ControlActionClaimRequest) (instant : Instant) (drawn : Drawn)
    (freshToken : String) (t : Store) (claim : ControlActionClaim) where
  deadline : Option Instant
  reserved : Store
  reservation : ControlActionReservation
  leased : Store
  token : Option String
  inTime : Bool
  bound : Store
  owned : Bool
  reserves : reserveControlAction s (request.args deadline) drawn = .ok (reserved,reservation)
  dispatchId : reservation.action.dispatchId = some claim.dispatchId
  leases : claimReservedAction reserved reservation request.actionType instant freshToken =
    .ok (leased,token,inTime)
  binds : bindClaim fingerprint leased request claim.dispatchId token = .ok (bound,owned)
  after : t = if claim.acquired then bound else s
  actionId : claim.actionId = reservation.action.id
  created : claim.created = reservation.created
  payloadMatches : claim.payloadMatches = reservation.payloadMatches
  acquired : claim.acquired = (token.isSome && owned)
  authorityMatches : claim.authorityMatches = (inTime && owned)
  applied : claim.applied = reservation.action.appliedAt.isSome

lemma prepareControlActionClaim_stages (h : prepareControlActionClaim fp s rq it dr tk =
      .ok (t,cl)) :
    Nonempty (ClaimStages fp s rq it dr tk t cl) := by
  unfold prepareControlActionClaim at h
  obtain ⟨dl,-,h⟩ := bind_ok.1 h
  obtain ⟨⟨rs,re⟩,hre,h⟩ := bind_ok.1 h
  dsimp only at h
  split at h
  · cases h
  rename_i did hd
  obtain ⟨⟨le,tn,im⟩,hl,h⟩ := bind_ok.1 h
  obtain ⟨⟨bo,ow⟩,hb,h⟩ := bind_ok.1 h
  cases h
  exact ⟨dl,rs,re,le,tn,im,bo,ow,hre,hd,hl,hb,rfl,rfl,rfl,rfl,rfl,rfl,rfl⟩

lemma prepareControlActionClaim_acquired (h : prepareControlActionClaim fp s rq it dr tk =
      .ok (t,cl)) (ha : cl.acquired = true) :
    cl.authorityMatches = true ∧ cl.payloadMatches = true ∧ cl.applied = false := by
  obtain ⟨st⟩ := prepareControlActionClaim_stages h
  rw [st.acquired,Bool.and_eq_true] at ha
  obtain ⟨⟨hin,hb,ho⟩,-⟩ := claimReservedAction_won st.leases ha.1
  rw [st.authorityMatches,st.payloadMatches,st.applied,hin,hb,ho,ha.2]
  exact ⟨rfl,rfl,rfl⟩

lemma ClaimStages.reserved_row (st : ClaimStages fp s rq it dr tk t cl)
    (hb : cl.payloadMatches = true) :
    st.reservation.action ∈ st.reserved.controlActions.rows ∧
      Claimed rq cl st.reservation.action := by
  obtain ⟨hold,hn,hm⟩ := reserveControlAction_ok st.reserves
  obtain ⟨hty,hre,hp⟩ := hm.1 (st.payloadMatches ▸ hb)
  have hk : actionKey st.reservation.action = (rq.threadId,rq.idempotencyKey) ∧
      st.reservation.action ∈ st.reserved.controlActions.rows := by
    cases hc : st.reservation.created with
    | false =>
      obtain ⟨hs,hf⟩ := hold hc
      rw [hs]
      exact ⟨Table.lookup_key actionKey hf,Table.lookup_mem actionKey hf⟩
    | true =>
      obtain ⟨hrow,-,-,-,hin⟩ := createControlAction_ok (hn hc).2
      exact ⟨by rw [hrow]; rfl,(Table.mem_of_insert hin).2 (.inr rfl)⟩
  obtain ⟨ht,hi⟩ := Prod.mk.inj hk.1
  exact ⟨hk.2,st.actionId.symm,ht,hi,hty,hre,hp,st.dispatchId,st.applied.symm⟩

include hgood in
lemma ClaimStages.step_new (st : ClaimStages fp s rq it dr tk t cl)
    (hn : Good (newRow (rq.args st.deadline) dr)) :
    ClaimStep Good s st.reserved ∧ ClaimStep Good st.reserved st.bound := by
  constructor
  · obtain ⟨hold,hf,-⟩ := reserveControlAction_ok st.reserves
    cases hc : st.reservation.created with
    | false =>
      rw [(hold hc).1]
      exact .refl _
    | true =>
      obtain ⟨hrow,hth,hre,hl,hi⟩ := createControlAction_ok (hf hc).2
      exact ⟨.insert SameProgress.refl (hrow ▸ hn) hi,hre,hl,fun _ => by
        rw [getThread,hth,getThread]⟩
  · exact (claimReservedAction_claimStep hgood st.leases).trans (bindClaim_claimStep hgood st.binds)

include hgood in
lemma ClaimStages.step (st : ClaimStages fp s rq it dr tk t cl)
    (hn : ∀ row, row.threadId = rq.threadId → row.idempotencyKey = rq.idempotencyKey → Good row) :
    ClaimStep Good s st.reserved ∧ ClaimStep Good st.reserved st.bound :=
  st.step_new hgood (hn _ rfl rfl)

include hgood in
lemma prepareControlActionClaim_claimStep_new (h : prepareControlActionClaim fp s rq it dr tk =
      .ok (t,cl))
    (hn : ∀ dl, Good (newRow (rq.args dl) dr)) : ClaimStep Good s t := by
  obtain ⟨st⟩ := prepareControlActionClaim_stages h
  obtain ⟨hf,hs⟩ := st.step_new hgood (hn _)
  rw [st.after]
  split_ifs
  · exact hf.trans hs
  · exact .refl _

include hgood in
lemma prepareControlActionClaim_claimStep (h : prepareControlActionClaim fp s rq it dr tk =
      .ok (t,cl))
    (hn : ∀ row, row.threadId = rq.threadId →
      row.idempotencyKey = rq.idempotencyKey → Good row) : ClaimStep Good s t :=
  prepareControlActionClaim_claimStep_new hgood h fun _ => hn _ rfl rfl

/-- A claim whose body and authority match speaks of a row that stands afterwards,
whether it was acquired or replayed. -/
lemma prepareControlActionClaim_row (h : prepareControlActionClaim fp s rq it dr tk =
      .ok (t,cl)) (hau : cl.authorityMatches = true)
    (hb : cl.payloadMatches = true) :
    ∃ row ∈ t.controlActions.rows, Claimed rq cl row := by
  obtain ⟨st⟩ := prepareControlActionClaim_stages h
  obtain ⟨hm,hc⟩ := st.reserved_row hb
  rw [st.authorityMatches,Bool.and_eq_true] at hau
  cases ha : cl.acquired with
  | true =>
    have hst : ClaimStep (fun _ => True) st.reserved st.bound :=
      (st.step (fun _ _ => trivial) (fun _ _ _ => trivial)).2
    obtain ⟨row,hrow,hs⟩ := hst.actions.kept _ hm
    rw [st.after,ha,if_pos rfl]
    exact ⟨row,hrow,hs.id.trans hc.id,hs.threadId.trans hc.threadId,
      hs.idempotencyKey.trans hc.idempotencyKey,
      hs.actionType.trans hc.actionType,hs.requestId.trans hc.requestId,
      hs.payload.trans hc.payload,hs.dispatchId.trans hc.dispatchId,
      by rw [hs.appliedAt]; exact hc.applied⟩
  | false =>
    rw [st.after,ha,if_neg Bool.false_ne_true]
    -- A row this call created has no owner, so its lease would have been won.
    have hcr : st.reservation.created = false := by
      by_contra hcr
      rw [Bool.not_eq_false] at hcr
      obtain ⟨-,hf,-⟩ := reserveControlAction_ok st.reserves
      have hcre := (hf hcr).2
      have hrow := (createControlAction_ok hcre).1
      have hw := claimReservedAction_free st.leases (createControlAction_found hcre).1
        (by rw [hrow]; rfl) (by rw [hrow]; rfl) hau.1 (st.payloadMatches ▸ hb)
      rw [st.acquired,hw,hau.2] at ha
      cases ha
    obtain ⟨hold,-⟩ := reserveControlAction_ok st.reserves
    rw [(hold hcr).1] at hm
    exact ⟨_,hm,hc⟩

end

end

end VaultspecA2A.ActionClaims
