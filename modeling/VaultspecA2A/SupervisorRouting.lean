import VaultspecA2A.Database
import VaultspecA2A.Grounding

/-!
# The routing decisions of a supervisor

A supervisor reads a reply of its model and decides where the run goes: to one of its
workers, or to the end. A reply that names no route or several is refused. A finished
run is sent to the worker that can satisfy the completion gate, if the gate is not
satisfied. A worker of a phase is refused while the vault holds no document of the
phase before it, and a worker of the execution phase waits for a human to approve the
plan. Refusals and blocked ends are counted against budgets of the turn.

The state holds the channels these decisions read or write.
-/
namespace VaultspecA2A.SupervisorRouting
open PyText PyValue ThreadLifecycle Database Grounding

/-- Functions that are not part of the model: `str.lower` and `repr`, for their Unicode
tables, and the canonical digest of a value. -/
structure Primitives where
  lower : String → String
  repr : String → String
  canonicalDigest : Value → String

structure VaultIndex where
  entries : List (String × List String)
deriving DecidableEq, Repr

def putEntry (key : String) (paths : List String) :
    List (String × List String) → List (String × List String)
  | [] => [(key,paths)]
  | e :: es => if e.1 = key then (key,paths) :: es else e :: putEntry key paths es

namespace VaultIndex

def get (index : VaultIndex) (key : String) : List String :=
  ((index.entries.find? fun e => decide (e.1 = key)).map Prod.snd).getD []

def put (index : VaultIndex) (key : String) (paths : List String) : VaultIndex :=
  ⟨putEntry key paths index.entries⟩

end VaultIndex

def mergeUniqueStrs (existing new : List String) : List String :=
  new.foldl (fun merged item => if item ∈ merged then merged else merged ++ [item]) existing

def mergeVaultIndex (existing new : VaultIndex) : VaultIndex := new.entries.foldl
    (fun merged e => merged.put e.1 (mergeUniqueStrs (merged.get e.1) e.2)) existing

@[simp] lemma VaultIndex.get_put (i : VaultIndex) (key k : String) (pa : List String) :
    (i.put key pa).get k = if k = key then pa else i.get k := by
  obtain ⟨en⟩ := i
  unfold VaultIndex.get VaultIndex.put
  dsimp only
  induction en with
  | nil =>
    by_cases hk : k = key
    · simp [putEntry,hk]
    · simp [putEntry,hk,Ne.symm hk]
  | cons e es ih =>
    rw [putEntry]
    by_cases he : e.1 = key
    · by_cases hk : k = key
      · simp [he,hk]
      · simp [he,hk,Ne.symm hk]
    · by_cases hk : e.1 = k
      · have hne : k ≠ key := fun h => he (hk.trans h)
        simp [hk,hne]
      · simpa [he,hk] using ih

lemma mergeUniqueStrs_ne_nil (new : List String) (h : ex ≠ []) : mergeUniqueStrs ex new ≠ [] := by
  unfold mergeUniqueStrs
  induction new generalizing ex with
  | nil => exact h
  | cons x new ih =>
    rw [List.foldl_cons]
    apply ih
    split_ifs
    · exact h
    · simp

lemma mergeVaultIndex_get_ne_nil (new : VaultIndex)
    (h : ex.get key ≠ []) : (mergeVaultIndex ex new).get key ≠ [] := by
  obtain ⟨en⟩ := new
  unfold mergeVaultIndex
  dsimp only
  induction en generalizing ex with
  | nil => exact h
  | cons e es ih =>
    rw [List.foldl_cons]
    apply ih
    rw [VaultIndex.get_put]
    split_ifs with hk
    · rw [← hk]
      exact mergeUniqueStrs_ne_nil _ h
    · exact h

lemma mergeUniqueStrs_union (ex new : List String) :
    (∀ x, x ∈ mergeUniqueStrs ex new ↔ x ∈ ex ∨ x ∈ new) ∧
      (ex.Nodup → (mergeUniqueStrs ex new).Nodup) := by
  unfold mergeUniqueStrs
  induction new generalizing ex with
  | nil => simp
  | cons y new ih =>
    rw [List.foldl_cons]
    obtain ⟨hm,hn⟩ := ih (if y ∈ ex then ex else ex ++ [y])
    refine ⟨fun x => (hm x).trans ?_,fun h => hn ?_⟩
    · split_ifs with hy
      · rw [List.mem_cons,← or_assoc,or_iff_left_of_imp fun e : x = y => e ▸ hy]
      · simp [or_assoc]
    · split_ifs with hy
      · exact h
      · exact h.append (List.nodup_singleton y) (by simpa using hy)

/-- Whatever is merged into the index stays in it, once, and nothing else is in it: the order of
the updates decides no more than the order of the paths. -/
theorem vaultIndex_unites (updates : List VaultIndex) (index : VaultIndex) (key : String) :
    (∀ path, path ∈ (updates.foldl mergeVaultIndex index).get key ↔ path ∈ index.get key ∨
      ∃ e ∈ updates.flatMap VaultIndex.entries, e.1 = key ∧ path ∈ e.2) ∧
    ((index.get key).Nodup → ((updates.foldl mergeVaultIndex index).get key).Nodup) := by
  unfold mergeVaultIndex
  rw [← List.foldl_flatMap]
  generalize updates.flatMap VaultIndex.entries = es
  induction es generalizing index with
  | nil => simp
  | cons e es ih =>
    obtain ⟨hm,hn⟩ := mergeUniqueStrs_union (index.get e.1) e.2
    obtain ⟨im,hi⟩ := ih (index.put e.1 (mergeUniqueStrs (index.get e.1) e.2))
    rw [VaultIndex.get_put] at im hi
    refine ⟨fun path => (im path).trans ?_,fun h => hi ?_⟩
    · by_cases hk : key = e.1
      · simp [hk,hm,or_assoc]
      · simp [hk,Ne.symm hk]
    · split_ifs with hk
      · exact hn (hk ▸ h)
      · exact h

def appendValidationErrors (existing new : List String) : List String :=
  if new.isEmpty then [] else existing ++ new

structure PlanEntry where
  content : String
  status : String
deriving DecidableEq, Repr

structure TeamState where
  threadId : String := ""
  next : Option String := none
  activeAgent : String := ""
  currentPlan : List PlanEntry := []
  pipelinePhase : Option String := none
  activeFeature : Option String := none
  vaultIndex : VaultIndex := ⟨[]⟩
  validationErrors : List String := []
  approvalStatus : Option ApprovalStatus := none
  approvalRequestId : Option String := none
  planApprovalsAsked : List String := []
  routingError : Option String := none
  supervisorReasks : ℕ := 0
  supervisorFinishBlocks : ℕ := 0
deriving DecidableEq, Repr

/-- What a node returns: a channel that is absent is left alone. -/
structure Update where
  next : Option String := none
  activeAgent : Option String := none
  currentPlan : Option (List PlanEntry) := none
  pipelinePhase : Option String := none
  vaultIndex : VaultIndex := ⟨[]⟩
  validationErrors : Option (List String) := none
  approvalStatus : Option (Option ApprovalStatus) := none
  approvalRequestId : Option (Option String) := none
  planApprovalsAsked : List String := []
  routingError : Option (Option String) := none
  supervisorReasks : Option ℕ := none
  supervisorFinishBlocks : Option ℕ := none
deriving DecidableEq, Repr

def TeamState.apply (state : TeamState) (update : Update) : TeamState where
  threadId := state.threadId
  next := update.next.or state.next
  activeAgent := update.activeAgent.getD state.activeAgent
  currentPlan := update.currentPlan.getD state.currentPlan
  pipelinePhase := update.pipelinePhase.or state.pipelinePhase
  activeFeature := state.activeFeature
  vaultIndex := mergeVaultIndex state.vaultIndex update.vaultIndex
  validationErrors :=
    match update.validationErrors with
    | none => state.validationErrors
    | some errors => appendValidationErrors state.validationErrors errors
  approvalStatus := update.approvalStatus.getD state.approvalStatus
  approvalRequestId := update.approvalRequestId.getD state.approvalRequestId
  planApprovalsAsked := mergeUniqueStrs state.planApprovalsAsked update.planApprovalsAsked
  routingError := update.routingError.getD state.routingError
  supervisorReasks := update.supervisorReasks.getD state.supervisorReasks
  supervisorFinishBlocks := update.supervisorFinishBlocks.getD state.supervisorFinishBlocks

def truthy (text : Option String) : Option String := text.filter fun t => !t.isEmpty

def featureBound (state : TeamState) : Bool := (truthy state.activeFeature).isSome

/-- The phase of each worker that has one; a later entry replaces an earlier one. -/
structure WorkerPhaseMap where
  entries : List (String × PipelinePhase)
deriving DecidableEq, Repr

def WorkerPhaseMap.get (phases : WorkerPhaseMap) (worker : String) : Option PipelinePhase :=
  (phases.entries.reverse.find? fun e => decide (e.1 = worker)).map Prod.snd

def phaseOrder : List String := ["research","reference","adr","plan","exec","audit"]

def inferPhaseFromVaultIndex (index : VaultIndex) : String :=
  (phaseOrder.reverse.find? fun phase => !(index.get phase).isEmpty).getD "research"

def workerOwningPhase (target : PipelinePhase) (workers : List String)
    (phases : WorkerPhaseMap) : Option String :=
  workers.find? fun worker => decide (phases.get worker = some target)

def phaseForRoute (route fallback : String) (phases : WorkerPhaseMap) : String :=
  ((phases.get route).map PipelinePhase.value).getD fallback

def finishRoute : String := "FINISH"

def activeAgentForRoute (route : String) : String := if route = finishRoute then "" else route

def planEntryForRoute (route : String) : PlanEntry where
  content := if route = finishRoute then "Complete task" else "Route to " ++ route
  status := if route = finishRoute then "completed" else "in_progress"

/-- The routes a reply names, less those named only inside another. -/
def namedOptions (prims : Primitives) (text : String) (options : List String) : List String :=
  let matched := (options.filter fun option =>
    contains (prims.lower text) (prims.lower option)).zipIdx
  (matched.filter fun option => !matched.any fun other =>
    decide (other.2 ≠ option.2) && contains (prims.lower other.1) (prims.lower option.1)).map
      Prod.fst

def refusedTextChars : ℕ := 200

def quoteReply (prims : Primitives) (text : String) : String :=
  prims.repr (String.ofList (text.toList.take refusedTextChars))

def parseRoute (prims : Primitives) (text : String) (options : List String) :
    Except String String :=
  if text ∈ options then .ok text
  else
    match namedOptions prims text options with
    | [route] => .ok route
    | [] =>
      .error ("supervisor could not parse route from: " ++ quoteReply prims text ++
        "; respond with exactly one of: " ++ ", ".intercalate options ++ ".")
    | named =>
      .error ("supervisor named more than one route (" ++
        ", ".intercalate (named.insertionSort (· ≤ ·)) ++ ") in: " ++ quoteReply prims text ++
        "; respond with exactly one of: " ++ ", ".intercalate options ++ " and nothing else.")

structure GateResult where
  blocked : Bool
  warning : Bool
  message : String
deriving DecidableEq, Repr

structure PlanApprovalRequest where
  feature : Option String
  planPaths : List String
  execWorker : String
deriving DecidableEq, Repr

/-- One evaluated decision. A refused one is not followed; one that blocks the end of the
run goes to a worker instead. -/
structure SupervisorDecision where
  nextRoute : Option String
  inferredPhase : String
  routingError : Option String := none
  planApprovalRequest : Option PlanApprovalRequest := none
  refused : Bool := false
  blocksFinish : Bool := false
deriving DecidableEq, Repr

def blockedFinishDecision (reason : String) (target : PipelinePhase) (workers : List String)
    (inferredPhase : String) (phases : WorkerPhaseMap) : SupervisorDecision :=
  match workerOwningPhase target workers phases with
  | none =>
    { nextRoute := none
      inferredPhase := inferredPhase
      routingError := some (reason ++ " No worker of the '" ++ target.value ++
        "' phase is on this team to satisfy it.")
      refused := true }
  | some owner =>
    { nextRoute := some owner
      inferredPhase := phaseForRoute owner inferredPhase phases
      routingError := some reason
      blocksFinish := true }

def checkFinishBlocked (state : TeamState) (workers : List String) (inferredPhase : String)
    (phases : WorkerPhaseMap) : Option SupervisorDecision :=
  if ¬ state.validationErrors.isEmpty then
    some (blockedFinishDecision ("FINISH blocked: " ++ toString state.validationErrors.length ++
        " validation error(s) must be resolved first.")
      .exec workers inferredPhase phases)
  else if featureBound state ∧ ¬ (state.vaultIndex.get "exec").isEmpty ∧
      (state.vaultIndex.get "audit").isEmpty then
    some (blockedFinishDecision ("FINISH blocked: no review artifact in vault_index[\"audit\"]. " ++
        "A reviewer agent must produce an audit artifact before completion.")
      .audit workers inferredPhase phases)
  else none

/-- The stage a phase needs a document of, and whether its absence blocks. -/
def phasePrerequisites : PipelinePhase → Option (PipelinePhase × Bool)
  | .research => none
  | .adr => some (.research,false)
  | .plan => some (.adr,true)
  | .exec => some (.plan,true)
  | .audit => some (.exec,true)

def phaseGateMessage (target required : PipelinePhase) : String :=
  "Phase gate: routing to '" ++ target.value ++ "' requires vault_index[\"" ++ required.value ++
    "\"] to be non-empty."

def phaseGateRefusal (target required : PipelinePhase) : String :=
  phaseGateMessage target required ++
    " The route was refused; choose a worker that produces the '" ++ required.value ++
    "' artifact first."

def checkPhasePrerequisites (target : PipelinePhase) (index : VaultIndex) : GateResult :=
  match phasePrerequisites target with
  | none => ⟨false,false,""⟩
  | some (required,hard) =>
    if ¬ (index.get required.value).isEmpty then ⟨false,false,""⟩
    else if hard then ⟨true,false,phaseGateRefusal target required⟩
    else ⟨false,true,phaseGateMessage target required⟩

def phaseGateDecision (state : TeamState) (nextRoute inferredPhase : String)
    (phases : WorkerPhaseMap) : Option SupervisorDecision :=
  if ¬ featureBound state then none
  else
    match phases.get nextRoute with
    | none => none
    | some target =>
      let gate := checkPhasePrerequisites target state.vaultIndex
      if gate.blocked then
        some
          { nextRoute := some nextRoute
            inferredPhase := inferredPhase
            routingError := some gate.message
            refused := true }
      else if gate.warning then
        some
          { nextRoute := some nextRoute
            inferredPhase := phaseForRoute nextRoute inferredPhase phases
            routingError := some gate.message }
      else none

def planReady (state : TeamState) : Bool :=
  featureBound state && !(state.vaultIndex.get "plan").isEmpty

def planApprovalDecision (state : TeamState) (nextRoute : String) (phases : WorkerPhaseMap)
    (autonomous : Bool) : Option SupervisorDecision :=
  if autonomous ∨ phases.get nextRoute ≠ some .exec ∨ ¬ planReady state ∨
      state.approvalStatus = some .approved then none
  else
    some
      { nextRoute := some nextRoute
        inferredPhase := inferPhaseFromVaultIndex state.vaultIndex
        planApprovalRequest := some ⟨state.activeFeature,state.vaultIndex.get "plan",nextRoute⟩ }

/-- Keep a blocked end counted, whatever the gates of its reroute decided. -/
def carryingFinishBlock (decision : SupervisorDecision)
    (finishBlock : Option SupervisorDecision) : SupervisorDecision :=
  match finishBlock with
  | none => decision
  | some block =>
    if decision.refused then decision
    else
      { decision with
        routingError := truthy (some (" ".intercalate
          ([block.routingError,decision.routingError].filterMap truthy)))
        blocksFinish := true }

def gatedDecision (state : TeamState) (inferredPhase : String) (phases : WorkerPhaseMap)
    (autonomous : Bool) (nextRoute : String) (finishBlock : Option SupervisorDecision) :
    Option SupervisorDecision :=
  let gate := phaseGateDecision state nextRoute inferredPhase phases
  if gate.any SupervisorDecision.refused then gate.map (carryingFinishBlock · finishBlock)
  else
    match planApprovalDecision state nextRoute phases autonomous with
    | some approval =>
      let carried :=
        match gate with
        | some warned => { approval with routingError := warned.routingError }
        | none => approval
      some (carryingFinishBlock carried finishBlock)
    | none =>
      match gate with
      | some warned => some (carryingFinishBlock warned finishBlock)
      | none => finishBlock

def routeDecision (state : TeamState) (inferredPhase : String) (phases : WorkerPhaseMap)
    (autonomous : Bool) (nextRoute : String) (finishBlock : Option SupervisorDecision) :
    SupervisorDecision :=
  (gatedDecision state inferredPhase phases autonomous nextRoute finishBlock).getD
    { nextRoute := some nextRoute
      inferredPhase := phaseForRoute nextRoute inferredPhase phases }

/-- Apply the deterministic routing and gating to a reply of the model. -/
def evaluateSupervisorResponse (prims : Primitives) (state : TeamState) (responseText : String)
    (workers : List String) (phases : WorkerPhaseMap) (autonomous : Bool) :
    SupervisorDecision :=
  let inferredPhase := inferPhaseFromVaultIndex state.vaultIndex
  match parseRoute prims responseText (workers ++ [finishRoute]) with
  | .error refusal =>
    { nextRoute := none
      inferredPhase := inferredPhase
      routingError := some refusal
      refused := true }
  | .ok route =>
    if route = finishRoute then
      match checkFinishBlocked state workers inferredPhase phases with
      | none => routeDecision state inferredPhase phases autonomous route none
      | some blocked =>
        match blocked.refused, blocked.nextRoute with
        | false, some owner =>
          routeDecision state inferredPhase phases autonomous owner (some blocked)
        | _, _ => blocked
    else routeDecision state inferredPhase phases autonomous route none

inductive GraphError
  | supervisorRouting (reason : String) (attempts : ℕ)
  | config (message : String)
  | value (message : String)
  | key (route : String)
deriving DecidableEq, Repr

structure RoutingLimits where
  supervisorReaskLimit : ℕ := 2
  supervisorFinishBlockLimit : ℕ := 3
deriving DecidableEq, Repr

/-- Keep a granted approval across a decision; a pending mark or a rejection is spent. -/
def carriedApproval (state : TeamState) : Update :=
  if state.approvalStatus = some .approved then { approvalStatus := some (some .approved) }
  else { approvalStatus := some none, approvalRequestId := some none }

/-- Send a refused decision back to the supervisor, or fail once over budget. -/
def refusedUpdate (limits : RoutingLimits) (state : TeamState) (decision : SupervisorDecision) :
    Except GraphError Update :=
  let reasks := state.supervisorReasks + 1
  let reason := (truthy decision.routingError).getD "inadmissible routing decision"
  if limits.supervisorReaskLimit < reasks then .error (.supervisorRouting reason reasks)
  else
    .ok
      { carriedApproval state with
        next := decision.nextRoute
        activeAgent := some ""
        pipelinePhase := some decision.inferredPhase
        routingError := some (some reason)
        supervisorReasks := some reasks }

/-- Count one blocked end, or fail the run once the budget is spent. -/
def spendFinishBlock (limits : RoutingLimits) (state : TeamState)
    (decision : SupervisorDecision) : Except GraphError ℕ :=
  let blocks := state.supervisorFinishBlocks + 1
  if limits.supervisorFinishBlockLimit < blocks then
    .error (.supervisorRouting ((truthy decision.routingError).getD "FINISH blocked") blocks)
  else .ok blocks

def acceptedUpdate (state : TeamState) (decision : SupervisorDecision) (nextRoute : String)
    (finishBlocks : ℕ) : Update :=
  let approval : Update :=
    if decision.planApprovalRequest.isSome then
      { approvalStatus := some (some .pending)
        approvalRequestId := some none
        routingError := some decision.routingError }
    else { carriedApproval state with routingError := some (truthy decision.routingError) }
  { approval with
    next := some nextRoute
    activeAgent := some (activeAgentForRoute nextRoute)
    pipelinePhase := some decision.inferredPhase
    currentPlan := some [planEntryForRoute nextRoute]
    supervisorReasks := some 0
    supervisorFinishBlocks := some finishBlocks }

/-- Re-derive the documents of the active feature from disk, where `scan` is what the disk
holds. -/
def refreshVaultIndex (hasWorkspace : Bool) (state : TeamState) (scan : VaultIndex) :
    VaultIndex :=
  if hasWorkspace ∧ featureBound state then scan else ⟨[]⟩

structure SupervisorOptions where
  workerPhaseMap : WorkerPhaseMap := ⟨[]⟩
  autonomous : Bool := false
  hasWorkspace : Bool := false
  limits : RoutingLimits := {}
deriving DecidableEq, Repr

def refreshed (options : SupervisorOptions) (state : TeamState) (scan : VaultIndex) : TeamState :=
  { state with
    vaultIndex := mergeVaultIndex state.vaultIndex
      (refreshVaultIndex options.hasWorkspace state scan) }

def supervisorNode (prims : Primitives) (workers : List String) (options : SupervisorOptions)
    (state : TeamState) (scan : VaultIndex) (content : String) : Except GraphError Update := do
  let seen := refreshed options state scan
  let decision := evaluateSupervisorResponse prims seen (strip content) workers
    options.workerPhaseMap options.autonomous
  let update ←
    (match decision.refused, decision.nextRoute with
    | false, some nextRoute => do
        let finishBlocks ←
          (if decision.blocksFinish then spendFinishBlock options.limits seen decision else .ok 0)
        .ok (acceptedUpdate seen decision nextRoute finishBlocks)
    -- a decision that is not refused has a route
    | _, _ => refusedUpdate options.limits seen decision)
  .ok { update with vaultIndex := refreshVaultIndex options.hasWorkspace state scan }

variable {pr : Primitives} {ws : List String}

section
variable {state st : TeamState} {phases ph : WorkerPhaseMap} {autonomous au : Bool}
variable {route rt ip x : String}
variable {fb : Option SupervisorDecision} {decision d : SupervisorDecision}

def PrerequisiteMet (state : TeamState) (phases : WorkerPhaseMap) (route : String) : Prop :=
  featureBound state = true → ∀ target, phases.get route = some target →
    (checkPhasePrerequisites target state.vaultIndex).blocked = false

def NeedsApproval (state : TeamState) (phases : WorkerPhaseMap) (autonomous : Bool)
    (route : String) : Prop :=
  autonomous = false ∧ phases.get route = some .exec ∧ planReady state = true ∧
    state.approvalStatus ≠ some .approved

/-- A decision that goes to a route has passed the gate of its phase, and asks for an
approval if and only if the route needs one. -/
structure Admits (state : TeamState) (phases : WorkerPhaseMap) (autonomous : Bool)
    (decision : SupervisorDecision) (route : String) : Prop where
  goes : decision.nextRoute = some route
  prerequisite : PrerequisiteMet state phases route
  approval : decision.planApprovalRequest.isSome ↔ NeedsApproval state phases autonomous route

lemma checkPhasePrerequisites_exec :
    (checkPhasePrerequisites .exec i).blocked = false ↔ i.get "plan" ≠ [] := by
  simp only [checkPhasePrerequisites,phasePrerequisites,PipelinePhase.value,if_true]
  split_ifs with h
  · simpa using h
  · simpa using h

lemma PrerequisiteMet.of_eq (h : PrerequisiteMet st ph rt)
    (hf : la.activeFeature = st.activeFeature)
    (hi : la.vaultIndex = st.vaultIndex) : PrerequisiteMet la ph rt := by
  intro hb ta ht
  have hb' : featureBound st = true := by
    rw [featureBound,← hf]
    exact hb
  rw [hi]
  exact h hb' ta ht

lemma PrerequisiteMet.plan (h : PrerequisiteMet st ph rt)
    (hex : ph.get rt = some .exec) (hf : featureBound st = true) :
    st.vaultIndex.get "plan" ≠ [] :=
  checkPhasePrerequisites_exec.1 (h hf .exec hex)

/-- With a plan, a worker of the execution phase needs no approval only if there is one. -/
lemma PrerequisiteMet.approved (h : PrerequisiteMet st ph rt)
    (hex : ph.get rt = some .exec) (hf : featureBound st = true)
    (hfr : ¬ NeedsApproval st ph false rt) :
    st.approvalStatus = some .approved := by
  have hp := h.plan hex hf
  have hre : planReady st = true := by simp [planReady,hf,hp]
  by_contra hs
  exact hfr ⟨rfl,hex,hre,hs⟩

lemma planApprovalDecision_isSome : (planApprovalDecision st rt ph au).isSome ↔
    NeedsApproval st ph au rt := by
  unfold planApprovalDecision NeedsApproval
  split_ifs with h
  · constructor
    · intro hs
      cases hs
    · rintro ⟨ha,hex,hre,hst⟩
      simp [ha,hex,hre,hst] at h
  · push Not at h
    simpa using h

lemma planApprovalDecision_admits (h : planApprovalDecision st rt ph au = some d) :
    d.nextRoute = some rt ∧ d.planApprovalRequest.isSome ∧ d.refused = false := by
  unfold planApprovalDecision at h
  split_ifs at h
  cases h
  exact ⟨rfl,rfl,rfl⟩

lemma phaseGateDecision_none (h : phaseGateDecision st rt ip ph = none) :
    PrerequisiteMet st ph rt := by
  intro hf ta ht
  simp only [phaseGateDecision,hf,ht,not_true_eq_false,if_false] at h
  split_ifs at h with hb
  simpa using hb

lemma phaseGateDecision_some (h : phaseGateDecision st rt ip ph = some d) :
    d.nextRoute = some rt ∧ d.planApprovalRequest = none ∧
      (d.refused = false → PrerequisiteMet st ph rt) := by
  unfold phaseGateDecision at h
  split at h
  · cases h
  · split at h
    · cases h
    · rename_i ta ht
      dsimp only at h
      split_ifs at h with hb hw
      · cases h
        exact ⟨rfl,rfl,fun hre => by cases hre⟩
      · cases h
        refine ⟨rfl,rfl,fun _ _ tr ht' => ?_⟩
        rw [ht] at ht'
        cases ht'
        simpa using hb

lemma carryingFinishBlock_nextRoute : (carryingFinishBlock d fb).nextRoute = d.nextRoute := by
  unfold carryingFinishBlock
  split
  · rfl
  · split_ifs <;> rfl

lemma carryingFinishBlock_planApprovalRequest : (carryingFinishBlock d fb).planApprovalRequest =
    d.planApprovalRequest := by
  unfold carryingFinishBlock
  split
  · rfl
  · split_ifs <;> rfl

lemma carryingFinishBlock_refused : (carryingFinishBlock d fb).refused = d.refused := by
  unfold carryingFinishBlock
  split
  · rfl
  · split_ifs <;> rfl

lemma Admits.carry (h : Admits st ph au d rt) : Admits st ph au (carryingFinishBlock d fb) rt where
  goes := carryingFinishBlock_nextRoute.trans h.goes
  prerequisite := h.prerequisite
  approval := by
    rw [carryingFinishBlock_planApprovalRequest]
    exact h.approval

/-- A blocked end that goes to a worker, before the gates of that worker. -/
structure Reroutes (block : SupervisorDecision) (route : String) : Prop where
  goes : block.nextRoute = some route
  unasked : block.planApprovalRequest = none

lemma checkFinishBlocked_reroutes (h : checkFinishBlocked st ws ip ph = some d)
    (ho : d.nextRoute = some ow) : Reroutes d ow := by
  have hu : ∀ re ta, (blockedFinishDecision re ta ws ip ph).planApprovalRequest = none := by
    intro re ta
    unfold blockedFinishDecision
    split <;> rfl
  unfold checkFinishBlocked at h
  split_ifs at h <;> cases h
  · exact ⟨ho,hu _ _⟩
  · exact ⟨ho,hu _ _⟩

lemma checkFinishBlocked_nextRoute (h : checkFinishBlocked st ws ip ph = some d)
    (hf : d.refused = false) : d.nextRoute ≠ none := by
  have hro : ∀ re ta, (blockedFinishDecision re ta ws ip
      ph).refused = false → (blockedFinishDecision re ta ws ip
      ph).nextRoute ≠ none := by
    intro re ta
    unfold blockedFinishDecision
    split <;> simp
  unfold checkFinishBlocked at h
  split_ifs at h <;> cases h
  · exact hro _ _ hf
  · exact hro _ _ hf

lemma routeDecision_admits (hb : ∀ bl ∈ fb, Reroutes bl rt)
    (h : (routeDecision st ip ph au rt fb).refused = false) :
    Admits st ph au (routeDecision st ip ph au rt fb) rt := by
  have hn : (planApprovalDecision st rt ph au).isSome ↔
      NeedsApproval st ph au rt := planApprovalDecision_isSome
  unfold routeDecision gatedDecision at h ⊢
  cases hga : phaseGateDecision st rt ip ph with
  | none =>
    have hm := phaseGateDecision_none hga
    cases ha : planApprovalDecision st rt ph au with
    | none =>
      have hf : ¬ NeedsApproval st ph au rt := by
        rw [← hn,ha]
        simp
      cases fb with
      | none => exact ⟨rfl,hm,by simpa using hf⟩
      | some bl =>
        obtain ⟨hgo,hu⟩ := hb bl rfl
        refine ⟨hgo,hm,?_⟩
        simp [hu,hf]
    | some ak =>
      obtain ⟨hgo,hask,-⟩ := planApprovalDecision_admits ha
      have hadm : Admits st ph au ak rt := ⟨hgo,hm,iff_of_true hask (hn.1 (by rw [ha]; rfl))⟩
      exact hadm.carry
  | some ga =>
    obtain ⟨hgo,hu,hm⟩ := phaseGateDecision_some hga
    cases hre : ga.refused with
    | true => simp [hga,hre,carryingFinishBlock_refused] at h
    | false =>
      cases ha : planApprovalDecision st rt ph au with
      | none =>
        have hf : ¬ NeedsApproval st ph au rt := by
          rw [← hn,ha]
          simp
        have hadm : Admits st ph au ga rt := ⟨hgo,hm hre,by simp [hu,hf]⟩
        simpa [hre] using hadm.carry
      | some ak =>
        obtain ⟨hgo,hask,-⟩ := planApprovalDecision_admits ha
        have hadm : Admits st ph au
            { ak with routingError := ga.routingError } rt :=
          ⟨hgo,hm hre,iff_of_true hask (hn.1 (by rw [ha]; rfl))⟩
        simpa [hre] using hadm.carry

/-- Whatever the reply, a decision that is not refused has passed every gate of the route
it goes to. -/
lemma evaluateSupervisorResponse_admits
    (h : (evaluateSupervisorResponse pr st x ws ph au).refused = false) :
    ∃ rt, Admits st ph au (evaluateSupervisorResponse pr st x ws ph au) rt := by
  unfold evaluateSupervisorResponse at h ⊢
  dsimp only at h ⊢
  split at h
  · cases h
  · rename_i rt _
    split_ifs at h ⊢ with hf
    · cases hb : checkFinishBlocked st ws (inferPhaseFromVaultIndex st.vaultIndex) ph with
      | none =>
        rw [hb] at h
        exact ⟨rt,routeDecision_admits (by simp) h⟩
      | some bl =>
        rw [hb] at h
        dsimp only at h ⊢
        split at h
        · rename_i ow _ ho
          refine ⟨ow,routeDecision_admits ?_ h⟩
          rintro _ ⟨⟩
          exact checkFinishBlocked_reroutes hb ho
        · rename_i hn
          have hro := checkFinishBlocked_nextRoute hb h
          obtain ⟨ow,ho⟩ := Option.ne_none_iff_exists'.1 hro
          exact (hn ow h ho).elim
    · exact ⟨rt,routeDecision_admits (by simp) h⟩

end

section
variable {options os : SupervisorOptions}
variable {state st : TeamState} {update : Update}

/-- A turn asks the supervisor again, sends the run to a human, or to a route. -/
inductive Turn (options : SupervisorOptions) (state seen : TeamState) (update : Update) : Prop
  | refused (reasks : update.supervisorReasks = some (state.supervisorReasks + 1))
      (carried : update.approvalStatus = (carriedApproval state).approvalStatus)
  | asks (route : String) (goes : update.next = some route)
      (reasks : update.supervisorReasks = some 0)
      (pending : update.approvalStatus = some (some .pending))
      (prerequisite : PrerequisiteMet seen options.workerPhaseMap route)
      (needed : NeedsApproval seen options.workerPhaseMap options.autonomous route)
  | goes (route : String) (goes : update.next = some route)
      (reasks : update.supervisorReasks = some 0)
      (carried : update.approvalStatus = (carriedApproval state).approvalStatus)
      (prerequisite : PrerequisiteMet seen options.workerPhaseMap route)
      (free : ¬ NeedsApproval seen options.workerPhaseMap options.autonomous route)

lemma carriedApproval_approvalStatus : (carriedApproval st).approvalStatus =
    some (if st.approvalStatus = some .approved then some .approved else none) := by
  unfold carriedApproval
  split_ifs <;> rfl

lemma carriedApproval_refreshed : carriedApproval (refreshed os st sc) = carriedApproval st := rfl

lemma refusedUpdate_ok (h : refusedUpdate li st d = .ok update) :
    update.supervisorReasks = some (st.supervisorReasks + 1) ∧
      update.approvalStatus = (carriedApproval st).approvalStatus := by
  unfold refusedUpdate at h
  dsimp only at h
  split_ifs at h
  cases h
  exact ⟨rfl,rfl⟩

lemma supervisorNode_vaultIndex (h : supervisorNode pr ws os st sc co = .ok update) :
    (st.apply update).vaultIndex = (refreshed os st sc).vaultIndex := by
  unfold supervisorNode at h
  obtain ⟨wr,-,hl⟩ := bind_ok.1 h
  cases hl
  rfl

lemma supervisorNode_turn (h : supervisorNode pr ws os st sc co = .ok update) :
    Turn os st (refreshed os st sc) update := by
  unfold supervisorNode at h
  obtain ⟨wr,hw,hl⟩ := bind_ok.1 h
  cases hl
  split at hw
  · rename_i nr hf hnex
    obtain ⟨bl,-,hac⟩ := bind_ok.1 hw
    cases hac
    obtain ⟨rt,hgo,hm,ha⟩ := evaluateSupervisorResponse_admits hf
    have hro : nr = rt := Option.some.inj (hnex.symm.trans hgo)
    subst hro
    by_cases hn : NeedsApproval (refreshed os st sc) os.workerPhaseMap os.autonomous nr
    · refine .asks nr rfl rfl ?_ hm hn
      simp [acceptedUpdate,ha.2 hn]
    · refine .goes nr rfl rfl ?_ hm hn
      simp [acceptedUpdate,mt ha.1 hn,carriedApproval_refreshed]
  · obtain ⟨hre,hc⟩ := refusedUpdate_ok hw
    exact .refused hre hc

end

end VaultspecA2A.SupervisorRouting
