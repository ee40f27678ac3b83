import VaultspecA2A.Runs
import VaultspecA2A.SupervisorRouting

/-!
# Runs of a compiled star

A star has a supervisor, its workers, a mount node before each worker, and a node where a
human approves the plan. The supervisor's decision is followed along the declared edges.
The approval node interrupts the run under a request id that is derived from the state.
Each resume value is stored, and the node runs again from its start with all of them; the
first value that names its request is its answer.

A thread takes one step at a time. Replies of the model, documents found on disk, resume values
and new turns are labels of the steps, and nothing is assumed about them. A node that raises
leaves the thread where it was.
-/
namespace VaultspecA2A.StarGraph
open Runs PyValue ThreadLifecycle Grounding SupervisorRouting List

structure AgentConfig where
  id : String
  role : String
deriving DecidableEq, Repr

structure TeamConfig where
  id : String
  workers : List String
  recursionLimit : ℕ
deriving DecidableEq, Repr

structure AgentConfigs where
  entries : List (String × AgentConfig)

def AgentConfigs.get (configs : AgentConfigs) (agentId : String) : Option AgentConfig :=
  (configs.entries.find? fun e => decide (e.1 = agentId)).map Prod.snd

def roleToPhase : String → Option PipelinePhase
  | "researcher" => some .research
  | "analyst" => some .adr
  | "adr-author" => some .adr
  | "planner" => some .plan
  | "plan-author" => some .plan
  | "coder" => some .exec
  | "reviewer" => some .audit
  | _ => none

/-- A compiled star: the ids the supervisor may name, those that have nodes, and the
options of the supervisor. -/
structure Graph where
  workers : List String
  compiledWorkerIds : List String
  options : SupervisorOptions
deriving DecidableEq, Repr

def graphCompletionNode : String := "_record_graph_completion"

def superstepsPerFinishBlock : ℕ := 3

def requiredRecursionLimitForFinishBlocks (limits : RoutingLimits) : ℕ :=
  superstepsPerFinishBlock * limits.supervisorFinishBlockLimit + 1

def canSpendFinishBlockBudget (team : TeamConfig) (configs : AgentConfigs) : Bool :=
  (team.workers.filterMap configs.get).any fun config =>
    decide (roleToPhase config.role = some .exec) || decide (roleToPhase config.role = some .audit)

def validateFinishBlockBudget (prims : Primitives) (team : TeamConfig) (configs : AgentConfigs)
    (limits : RoutingLimits) : Except GraphError Unit :=
  let required := requiredRecursionLimitForFinishBlocks limits
  if ¬ canSpendFinishBlockBudget team configs ∨ required ≤ team.recursionLimit then .ok ()
  else
    .error (.config ("Team " ++ prims.repr team.id ++ " declares recursion_limit " ++
      toString team.recursionLimit ++ ", which is below the " ++ toString required ++
      " supersteps the supervisor finish-block budget of " ++
      toString limits.supervisorFinishBlockLimit ++
      " needs to report a blocked FINISH: each blocked FINISH costs " ++
      toString superstepsPerFinishBlock ++ " supersteps, and one more carries the " ++
      "supervisor turn that spends the budget. A run cut shorter ends in " ++
      "GraphRecursionError with the gate's reason unreported. Raise " ++
      "recursion_limit to at least " ++ toString required ++
      ", or lower the finish-block budget."))

def addGraphNode (nodes : List String) (name : String) : Except GraphError (List String) :=
  if name ∈ nodes then .error (.value ("Node `" ++ name ++ "` already present."))
  else .ok (nodes ++ [name])

def starWorkerPhaseMap (team : TeamConfig) (configs : AgentConfigs) : WorkerPhaseMap :=
  ⟨(team.workers.filterMap configs.get).filterMap fun config =>
    (roleToPhase config.role).map fun phase => (config.id,phase)⟩

def compileWorkers (prims : Primitives) (team : TeamConfig) (configs : AgentConfigs) :
    List String → List String → Except GraphError (List String × List String)
  | [], nodes => .ok (nodes,[])
  | agentId :: rest, nodes =>
    match configs.get agentId with
    | none =>
      .error (.config ("Worker " ++ prims.repr agentId ++ " is listed in team " ++
        prims.repr team.id ++ " but has no resolved AgentConfig. " ++
        "Ensure the agent TOML exists and is loaded."))
    | some config => do
        let withWorker ← addGraphNode nodes config.id
        let withMount ← addGraphNode withWorker ("mount_" ++ config.id)
        let (all,ids) ← compileWorkers prims team configs rest withMount
        .ok (all,config.id :: ids)

def compileTeamGraph (prims : Primitives) (team : TeamConfig) (configs : AgentConfigs)
    (autonomous hasWorkspace : Bool) (limits : RoutingLimits) : Except GraphError Graph := do
  let nodes ← addGraphNode [] graphCompletionNode
  validateFinishBlockBudget prims team configs limits
  let nodes ← addGraphNode nodes "supervisor"
  let (nodes,compiledWorkerIds) ← compileWorkers prims team configs team.workers nodes
  if compiledWorkerIds.isEmpty then
    .error (.value ("Star topology for team " ++ prims.repr team.id ++
      " has zero compiled workers. All worker AgentConfigs are missing or unresolvable."))
  else do
    let _ ← addGraphNode nodes "plan_approval"
    .ok
      { workers := team.workers
        compiledWorkerIds := compiledWorkerIds
        options := ⟨starWorkerPhaseMap team configs,autonomous,hasWorkspace,limits⟩ }

def agentIds (team : TeamConfig) (configs : AgentConfigs) : List String :=
  (team.workers.filterMap configs.get).map AgentConfig.id

variable {team te : TeamConfig} {configs co : AgentConfigs} {workers ws : List String}

lemma compileWorkers_ids {nd all ids : List String}
    (h : compileWorkers pr te co ws nd = .ok (all,ids)) :
    ids = (ws.filterMap co.get).map AgentConfig.id := by
  induction ws generalizing nd all ids with
  | nil =>
    cases h
    rfl
  | cons gid r ih =>
    unfold compileWorkers at h
    cases hc : co.get gid with
    | none => simp [hc] at h
    | some cf =>
      rw [hc] at h
      obtain ⟨ww,-,h⟩ := bind_ok.1 h
      obtain ⟨wm,-,h⟩ := bind_ok.1 h
      obtain ⟨⟨_,la⟩,hre,h⟩ := bind_ok.1 h
      cases h
      rw [ih hre,filterMap_cons_some hc,map_cons]

variable {hasWorkspace : Bool} {limits li : RoutingLimits}

lemma compileTeamGraph_eq (h : compileTeamGraph pr te co au hasWorkspace li = .ok g) :
    g.compiledWorkerIds = agentIds te co ∧
      g.options = ⟨starWorkerPhaseMap te co,au,hasWorkspace,li⟩ := by
  unfold compileTeamGraph at h
  obtain ⟨_,-,h⟩ := bind_ok.1 h
  obtain ⟨_,-,h⟩ := bind_ok.1 h
  obtain ⟨_,-,h⟩ := bind_ok.1 h
  obtain ⟨⟨_,ids⟩,hi,h⟩ := bind_ok.1 h
  dsimp only at h
  split_ifs at h
  obtain ⟨_,-,h⟩ := bind_ok.1 h
  cases h
  exact ⟨compileWorkers_ids hi,rfl⟩

def asStr : Value → Option String
  | .str s => some s
  | _ => none

structure ApprovalVerdict where
  requestId : String
  verdict : Option String
  notes : Option String
deriving DecidableEq, Repr

def namedRequestId (value : Value) : Option String := value.getStr "request_id"

def verdictApproved : String := "approved"

def parseApprovalVerdict (payload : Value) (requestId : String) : Except String ApprovalVerdict :=
  if requestId.isEmpty ∨ namedRequestId payload ≠ some requestId then
    .error "approval verdict does not name the request the gate is parked on"
  else .ok ⟨requestId,(payload.get "verdict").bind asStr,(payload.get "notes").bind asStr⟩

def awaitRequestScopedResume {α : Type} (stored : List Value) (requestId : String)
    (parse : Value → String → Except String α) : Option α :=
  stored.findSome? fun value => (parse value requestId).toOption

def planApprovalsAsked (state : TeamState) : List String :=
  state.planApprovalsAsked.filter fun entry => !entry.isEmpty

def planApprovalRequestId (prims : Primitives) (state : TeamState) (execWorker : String)
    (planPaths : List String) : String :=
  let digest := prims.canonicalDigest (.list
    [.str state.threadId,.str execWorker,.list ((planPaths.insertionSort (· ≤ ·)).map .str),
      .list ((planApprovalsAsked state).map .str)])
  "plan-approval-" ++ String.ofList (digest.toList.take 32)

structure PlanApprovalPayload extends PlanApprovalRequest where
  requestId : String
deriving DecidableEq, Repr

def planApprovalPayload (prims : Primitives) (state : TeamState) : PlanApprovalPayload :=
  let execWorker := state.next.getD ""
  let planPaths := state.vaultIndex.get "plan"
  { feature := state.activeFeature
    planPaths := planPaths
    execWorker := execWorker
    requestId := planApprovalRequestId prims state execWorker planPaths }

def planRejectedReason : String := "Plan rejected by user — revise before proceeding to execution."

/-- The channels after a verdict: an approved plan goes to its worker; any other goes to a
worker of the plan phase, or to the supervisor where the team has none. -/
def verdictUpdate (graph : Graph) (state : TeamState) (payload : PlanApprovalPayload)
    (verdict : ApprovalVerdict) : Update :=
  if verdict.verdict = some verdictApproved then
    { planApprovalsAsked := [payload.requestId]
      next := some payload.execWorker
      activeAgent := some (activeAgentForRoute payload.execWorker)
      currentPlan := some [planEntryForRoute payload.execWorker]
      approvalStatus := some (some .approved)
      approvalRequestId := some (some payload.requestId)
      routingError := some none }
  else
    let rejected : Update :=
      { planApprovalsAsked := [payload.requestId]
        approvalStatus := some (some .rejected)
        approvalRequestId := some (some payload.requestId)
        routingError := some (some planRejectedReason) }
    match workerOwningPhase .plan graph.compiledWorkerIds graph.options.workerPhaseMap with
    | none =>
      { rejected with
        next := some "supervisor"
        activeAgent := some ""
        currentPlan := some [planEntryForRoute "supervisor"] }
    | some revisionWorker =>
      { rejected with
        next := some revisionWorker
        activeAgent := some (activeAgentForRoute revisionWorker)
        pipelinePhase := some (phaseForRoute revisionWorker (state.pipelinePhase.getD "")
          graph.options.workerPhaseMap)
        currentPlan := some [planEntryForRoute revisionWorker] }

def planApprovalNode (prims : Primitives) (graph : Graph) (state : TeamState)
    (stored : List Value) : PlanApprovalPayload ⊕ Update :=
  let payload := planApprovalPayload prims state
  match awaitRequestScopedResume stored payload.requestId parseApprovalVerdict with
  | none => .inl payload
  | some verdict => .inr (verdictUpdate graph state payload verdict)

def mountNode (graph : Graph) (state : TeamState) (scan : VaultIndex) : Update :=
  { vaultIndex := refreshVaultIndex graph.options.hasWorkspace state scan }

/-- What a finished turn of a worker writes: a granted approval is kept, and a worker of
the execution phase retires the validation errors. -/
def finalizeWorkerResponse (graph : Graph) (state : TeamState) (worker : String) : Update :=
  { carriedApproval state with
    validationErrors :=
      if graph.options.workerPhaseMap.get worker = some .exec ∧ ¬ state.validationErrors.isEmpty
      then some [] else none }

/-- Where a thread stands: the node that runs next, a parked approval with the resume
values stored for it, or the end of a turn. -/
inductive Position
  | supervisor
  | planApproval
  | parked (stored : List Value)
  | mount (worker : String)
  | worker (worker : String)
  | completion

def routeMap (graph : Graph) (route : String) : Option Position :=
  if route = finishRoute then some .completion
  else if route ∈ graph.compiledWorkerIds then some (.mount route)
  else none

def supervisorRouteMap (graph : Graph) (route : String) : Option Position :=
  if route = "supervisor" then some .supervisor
  else if route = "plan_approval" then some .planApproval
  else routeMap graph route

def planApprovalRouteMap (graph : Graph) (route : String) : Option Position :=
  if route = "supervisor" then some .supervisor else routeMap graph route

def routeFromSupervisor (state : TeamState) : Except GraphError String :=
  if state.supervisorReasks ≠ 0 then .ok "supervisor"
  else if state.approvalStatus = some .pending then .ok "plan_approval"
  else
    match state.next with
    | none =>
      .error (.config ("supervisor routing invariant broken: 'next' was not set before " ++
        "the supervisor->route edge ran"))
    | some route => .ok route

def routeFromPlanApproval (state : TeamState) : Except GraphError String :=
  match state.next with
  | none =>
    .error (.config ("plan_approval routing invariant broken: 'next' was not set " ++
      "before the plan_approval->route edge ran"))
  | some route => .ok route

/-- Follow a conditional edge; a route that the edge does not map raises. -/
def follow (route : TeamState → Except GraphError String) (targets : String → Option Position)
    (state : TeamState) : Except GraphError Position := do
  let name ← route state
  match targets name with
  | none => .error (.key name)
  | some position => .ok position

structure TurnInput where
  threadId : String
  isFirstIngest : Bool
  activeFeature : Option String := none
  pipelinePhase : Option String := none
  vaultIndex : VaultIndex := ⟨[]⟩
  validationErrors : List String := []

def ingestTurn (state : TeamState) (input : TurnInput) : TeamState :=
  let turn : TeamState :=
    { state with
      threadId := input.threadId
      supervisorReasks := 0
      supervisorFinishBlocks := 0 }
  if input.isFirstIngest then
    { turn with
      activeAgent := ""
      currentPlan := []
      activeFeature := input.activeFeature
      pipelinePhase := input.pipelinePhase
      vaultIndex := mergeVaultIndex state.vaultIndex input.vaultIndex
      validationErrors := appendValidationErrors state.validationErrors input.validationErrors }
  else turn

structure Thread where
  state : TeamState
  position : Position

/-- The steps of a thread, each with what it takes from outside and what it shows. -/
inductive Label
  | ingest (input : TurnInput)
  | supervise (content : String) (scan : VaultIndex)
  | ask (requestId : String)
  | resume (value : Value)
  | decide
  | mount (worker : String) (scan : VaultIndex)
  | work (worker : String)

/-- One step. A new turn can start wherever the thread stands, and a parked node can run
again without a new value. -/
inductive Move (prims : Primitives) (graph : Graph) : Thread → Label → Thread → Prop
  | ingest {state : TeamState} {position : Position} (input : TurnInput) :
      Move prims graph ⟨state,position⟩ (.ingest input) ⟨ingestTurn state input,.supervisor⟩
  | supervise {state : TeamState} {content : String} {scan : VaultIndex} {update : Update}
      {position : Position}
      (node : supervisorNode prims graph.workers graph.options state scan content = .ok update)
      (edge : follow routeFromSupervisor (supervisorRouteMap graph) (state.apply update) =
        .ok position) :
      Move prims graph ⟨state,.supervisor⟩ (.supervise content scan)
        ⟨state.apply update,position⟩
  | ask {state : TeamState} {payload : PlanApprovalPayload}
      (node : planApprovalNode prims graph state [] = .inl payload) :
      Move prims graph ⟨state,.planApproval⟩ (.ask payload.requestId) ⟨state,.parked []⟩
  | askAgain {state : TeamState} {stored : List Value} {payload : PlanApprovalPayload}
      (node : planApprovalNode prims graph state stored = .inl payload) :
      Move prims graph ⟨state,.parked stored⟩ (.ask payload.requestId) ⟨state,.parked stored⟩
  | resume {state : TeamState} {stored : List Value} (value : Value) :
      Move prims graph ⟨state,.parked stored⟩ (.resume value)
        ⟨state,.parked (stored ++ [value])⟩
  | decide {state : TeamState} {stored : List Value} {update : Update} {position : Position}
      (node : planApprovalNode prims graph state stored = .inr update)
      (edge : follow routeFromPlanApproval (planApprovalRouteMap graph) (state.apply update) =
        .ok position) :
      Move prims graph ⟨state,.parked stored⟩ .decide ⟨state.apply update,position⟩
  | mount {state : TeamState} (worker : String) (scan : VaultIndex) :
      Move prims graph ⟨state,.mount worker⟩ (.mount worker scan)
        ⟨state.apply (mountNode graph state scan),.worker worker⟩
  | work {state : TeamState} (worker : String) :
      Move prims graph ⟨state,.worker worker⟩ (.work worker)
        ⟨state.apply (finalizeWorkerResponse graph state worker),.supervisor⟩

def newThread : Thread := ⟨{},.completion⟩

def Label.parks (requestId : String) : Label → Prop
  | .ask asked => asked = requestId
  | .resume _ => True
  | _ => False

/-- The approval node has disclosed the request and is parked on it since, and the values
were handed to it in that time. -/
def Disclosed (requestId : String) (stored : List Value) (history : List Label) : Prop :=
  ∃ before since, history = before ++ .ask requestId :: since ∧
    (∀ label ∈ since, label.parks requestId) ∧ ∀ value ∈ stored, .resume value ∈ since

/-- The approval node was resumed, while it was parked on a request it had disclosed, with
an approved verdict that names this request. -/
def ApprovedIn (history : List Label) : Prop := ∃ before requestId between value after,
    history = before ++ .ask requestId :: (between ++ .resume value :: after) ∧
    (∀ label ∈ between, label.parks requestId) ∧
    namedRequestId value = some requestId ∧
    (value.get "verdict").bind asStr = some verdictApproved

lemma ApprovedIn.append (h : ApprovedIn lg) (la : List Label) : ApprovedIn (lg ++ la) := by
  obtain ⟨p,rid,be,value,q,rfl,hp,hn,hv⟩ := h
  exact ⟨p,rid,be,value,q ++ la,by simp,hp,hn,hv⟩

variable {stored sr : List Value}

lemma Disclosed.ask (h : Disclosed rid sr lg) : Disclosed rid sr (lg ++ [.ask rid]) := by
  obtain ⟨p,si,rfl,hp,hs⟩ := h
  refine ⟨p,si ++ [.ask rid],by simp,?_,?_⟩
  · intro l hl
    rcases mem_append.1 hl with hold | hn
    · exact hp l hold
    · rw [mem_singleton.1 hn]
      rfl
  · intro value hv
    exact mem_append_left _ (hs value hv)

lemma Disclosed.resume (h : Disclosed rid sr lg) (value : Value) :
    Disclosed rid (sr ++ [value]) (lg ++ [.resume value]) := by
  obtain ⟨p,si,rfl,hp,hs⟩ := h
  refine ⟨p,si ++ [.resume value],by simp,?_,?_⟩
  · intro l hl
    rcases mem_append.1 hl with hold | hn
    · exact hp l hold
    · rw [mem_singleton.1 hn]
      trivial
  · intro held hh
    rcases mem_append.1 hh with hold | hn
    · exact mem_append_left _ (hs held hold)
    · rw [mem_singleton.1 hn]
      simp

lemma parseApprovalVerdict_ok (h : parseApprovalVerdict pl rid = .ok ve) :
    namedRequestId pl = some rid ∧ ve.verdict = (pl.get "verdict").bind asStr := by
  unfold parseApprovalVerdict at h
  split_ifs at h with hre
  cases h
  push Not at hre
  exact ⟨hre.2,rfl⟩

lemma awaitRequestScopedResume_verdict
    (h : awaitRequestScopedResume sr rid parseApprovalVerdict = some ve) :
    ∃ value ∈ sr, namedRequestId value = some rid ∧
      ve.verdict = (value.get "verdict").bind asStr := by
  obtain ⟨value,hv,hp⟩ := exists_of_findSome?_eq_some h
  cases hre : parseApprovalVerdict value rid with
  | error m =>
    rw [hre] at hp
    cases hp
  | ok pa =>
    rw [hre] at hp
    cases hp
    exact ⟨value,hv,parseApprovalVerdict_ok hre⟩

lemma Disclosed.approved (h : Disclosed rid sr lg)
    (ha : awaitRequestScopedResume sr rid parseApprovalVerdict = some ve)
    (hap : ve.verdict = some verdictApproved) : ApprovedIn lg := by
  obtain ⟨p,si,rfl,hp,hs⟩ := h
  obtain ⟨value,hv,hn,hve⟩ := awaitRequestScopedResume_verdict ha
  obtain ⟨be,q,rfl⟩ := append_of_mem (hs value hv)
  refine ⟨p,rid,be,value,q,rfl,?_,hn,hve.symm.trans hap⟩
  intro l hl
  exact hp l (mem_append_left _ hl)

variable {ta : String → Option Position}

lemma follow_ok (h : follow rt ta st = .ok pos) : ∃ na, rt st = .ok na ∧ ta na = some pos := by
  obtain ⟨na,hn,ht⟩ := bind_ok.1 h
  refine ⟨na,hn,?_⟩
  split at ht
  · cases ht
  · rename_i hf
    cases ht
    exact hf

lemma follow_of (hn : rt st = .ok na) (ht : ta na = some pos) : follow rt ta st = .ok pos := by
  refine bind_ok.2 ⟨na,hn,?_⟩
  rw [ht]

lemma routeMap_some (h : routeMap g rt = some pos) : pos = .completion ∨ pos = .mount rt := by
  unfold routeMap at h
  split_ifs at h <;> cases h
  · exact .inl rfl
  · exact .inr rfl

lemma planApprovalRouteMap_some (h : planApprovalRouteMap g rt = some pos) :
    pos = .supervisor ∨ pos = .completion ∨ pos = .mount rt := by
  unfold planApprovalRouteMap at h
  split_ifs at h
  · cases h
    exact .inl rfl
  · exact .inr (routeMap_some h)

def ExecutionReady (graph : Graph) (state : TeamState) (history : List Label)
    (worker : String) : Prop :=
  graph.options.workerPhaseMap.get worker = some .exec → featureBound state = true →
    state.vaultIndex.get "plan" ≠ [] ∧ ApprovedIn history

/-- What is known of a thread by where it stands. -/
def Stands (prims : Primitives) (graph : Graph) (state : TeamState) (history : List Label) :
    Position → Prop
  | .planApproval => PrerequisiteMet state graph.options.workerPhaseMap (state.next.getD "")
  | .parked stored =>
    PrerequisiteMet state graph.options.workerPhaseMap (state.next.getD "") ∧
      Disclosed (planApprovalPayload prims state).requestId stored history
  | .mount worker => ExecutionReady graph state history worker
  | .worker worker => ExecutionReady graph state history worker
  | _ => True

structure Guarded (prims : Primitives) (graph : Graph) (thread : Thread)
    (history : List Label) : Prop where
  granted : thread.state.approvalStatus = some .approved → ApprovedIn history
  stands : Stands prims graph thread.state history thread.position

section
variable {prims pr : Primitives} {graph g : Graph} {state st : TeamState} {position pos : Position}
variable {update : Update}

lemma Guarded.carried (h : Guarded pr g ⟨st,pos⟩ lg)
    (hc : update.approvalStatus = (carriedApproval st).approvalStatus)
    (hgr : (st.apply update).approvalStatus = some .approved) :
    ApprovedIn (lg ++ [l]) := by
  have hs : (st.apply update).approvalStatus =
      if st.approvalStatus = some .approved then some .approved else none := by
    rw [TeamState.apply,hc,carriedApproval_approvalStatus]
    rfl
  rw [hs] at hgr
  split_ifs at hgr with ha
  exact (h.granted ha).append _

inductive Supervised (graph : Graph) (state seen : TeamState) (update : Update) : Position → Prop
  | again (carried : update.approvalStatus = (carriedApproval state).approvalStatus) :
      Supervised graph state seen update .supervisor
  | asks (route : String) (goes : update.next = some route)
      (pending : update.approvalStatus = some (some .pending))
      (prerequisite : PrerequisiteMet (state.apply update) graph.options.workerPhaseMap route) :
      Supervised graph state seen update .planApproval
  | goes (route : String) (position : Position) (goes : update.next = some route)
      (carried : update.approvalStatus = (carriedApproval state).approvalStatus)
      (prerequisite : PrerequisiteMet (state.apply update) graph.options.workerPhaseMap route)
      (seenPrerequisite : PrerequisiteMet seen graph.options.workerPhaseMap route)
      (free : ¬ NeedsApproval seen graph.options.workerPhaseMap graph.options.autonomous route)
      (leads : supervisorRouteMap graph route = some position) :
      Supervised graph state seen update position

lemma supervise_leads {co : String}
    (hno : supervisorNode pr g.workers g.options st sc co = .ok update)
    (hed : follow routeFromSupervisor (supervisorRouteMap g) (st.apply update) = .ok pos) :
    Supervised g st (refreshed g.options st sc) update pos := by
  obtain ⟨na,hn,ht⟩ := follow_ok hed
  have hi := supervisorNode_vaultIndex hno
  have hre : (st.apply update).supervisorReasks =
    update.supervisorReasks.getD st.supervisorReasks := rfl
  have hs : (st.apply update).approvalStatus = update.approvalStatus.getD st.approvalStatus := rfl
  have hnex : (st.apply update).next = update.next.or st.next := rfl
  unfold routeFromSupervisor at hn
  cases supervisorNode_turn hno with
  | refused hc hca =>
    rw [hre,hc] at hn
    cases hn
    cases ht
    exact .again hca
  | asks rt hgo hc hp hm hnee =>
    rw [hre,hc,hs,hp] at hn
    cases hn
    cases ht
    exact .asks rt hgo hp (hm.of_eq rfl hi)
  | goes rt hgo hc hca hm hf =>
    have hu : (st.apply update).approvalStatus ≠ some .pending := by
      rw [hs,hca,carriedApproval_approvalStatus]
      split_ifs <;> simp
    rw [hre,hc,if_neg (by simp),if_neg hu,hnex,hgo] at hn
    cases hn
    exact .goes na pos hgo hca (hm.of_eq rfl hi) hm hf ht

lemma supervisorRouteMap_some (h : supervisorRouteMap g rt = some pos) :
    pos = .supervisor ∨ pos = .planApproval ∨ pos = .completion ∨ pos = .mount rt := by
  unfold supervisorRouteMap at h
  split_ifs at h
  · cases h
    exact .inl rfl
  · cases h
    exact .inr (.inl rfl)
  · exact .inr (.inr (routeMap_some h))

lemma guarded_supervise {co : String} (hat : g.options.autonomous = false)
    (h : Guarded pr g ⟨st,.supervisor⟩ lg)
    (hno : supervisorNode pr g.workers g.options st sc co = .ok update)
    (hed : follow routeFromSupervisor (supervisorRouteMap g) (st.apply update) = .ok pos) :
    Guarded pr g ⟨st.apply update,pos⟩ (lg ++ [l]) := by
  have hn : ∀ rt, update.next = some rt → (st.apply update).next.getD "" = rt := by
    intro rt hgo
    rw [TeamState.apply,hgo]
    rfl
  cases supervise_leads hno hed with
  | again hc => exact ⟨h.carried hc,trivial⟩
  | asks rt hgo hp hm =>
    refine ⟨fun hgr => ?_,?_⟩
    · rw [TeamState.apply,hp] at hgr
      cases hgr
    · rw [Stands,hn rt hgo]
      exact hm
  | goes rt _ hgo hc hm hs hfr hl =>
    refine ⟨h.carried hc,?_⟩
    rcases supervisorRouteMap_some hl with rfl | rfl | rfl | rfl
    · trivial
    · rw [Stands,hn rt hgo]
      exact hm
    · trivial
    · intro hex hf
      rw [hat] at hfr
      have ha : st.approvalStatus = some .approved := hs.approved hex hf hfr
      exact ⟨hm.plan hex hf,(h.granted ha).append _⟩

lemma workerOwningPhase_get {ta : PipelinePhase} (h : workerOwningPhase ta ws ph = some wk) :
    ph.get wk = some ta := by
  have hf := find?_some h
  exact of_decide_eq_true hf

lemma verdictUpdate_vaultIndex (pl : PlanApprovalPayload) (ve : ApprovalVerdict) :
    (st.apply (verdictUpdate g st pl ve)).vaultIndex = st.vaultIndex := by
  unfold verdictUpdate
  split_ifs
  · rfl
  · dsimp only
    split <;> rfl

/-- What a verdict leads to: an approved plan goes to the worker that was asked for, any other to a
worker that revises it, or back to the supervisor. -/
inductive Decided (graph : Graph) (state : TeamState) (update : Update)
    (verdict : ApprovalVerdict) : Position → Prop
  | approved (position : Position) (approves : verdict.verdict = some verdictApproved)
      (leads : planApprovalRouteMap graph (state.next.getD "") = some position) :
      Decided graph state update verdict position
  | returned (refuses : verdict.verdict ≠ some verdictApproved)
      (rejected : update.approvalStatus = some (some .rejected)) :
      Decided graph state update verdict .supervisor
  | revised (worker : String) (position : Position)
      (refuses : verdict.verdict ≠ some verdictApproved)
      (rejected : update.approvalStatus = some (some .rejected))
      (owner : workerOwningPhase .plan graph.compiledWorkerIds graph.options.workerPhaseMap =
        some worker)
      (leads : planApprovalRouteMap graph worker = some position) :
      Decided graph state update verdict position

lemma decide_leads (hn : planApprovalNode pr g st sr = .inr update)
    (hed : follow routeFromPlanApproval (planApprovalRouteMap g) (st.apply update) = .ok pos) :
    ∃ ve, awaitRequestScopedResume sr (planApprovalPayload pr st).requestId
        parseApprovalVerdict = some ve ∧
      (st.apply update).vaultIndex = st.vaultIndex ∧
      Decided g st update ve pos := by
  obtain ⟨na,hna,ht⟩ := follow_ok hed
  have hgo : ∀ rt, update.next = some rt → planApprovalRouteMap g rt = some pos := by
    intro rt hro
    have hnex : (st.apply update).next = some rt := by
      rw [TeamState.apply,hro]
      rfl
    rw [routeFromPlanApproval,hnex] at hna
    cases hna
    exact ht
  unfold planApprovalNode at hn
  dsimp only at hn
  split at hn
  · cases hn
  · rename_i ve han
    have hu := Sum.inr.inj hn
    refine ⟨ve,han,?_,?_⟩
    · rw [← hu]
      exact verdictUpdate_vaultIndex _ _
    · unfold verdictUpdate at hu
      split_ifs at hu with ha
      · exact .approved pos ha (hgo _ (by rw [← hu]; rfl))
      · dsimp only at hu
        split at hu
        · have hb := hgo "supervisor" (by rw [← hu])
          cases hb
          exact .returned ha (by rw [← hu])
        · rename_i wk ho
          exact .revised wk pos ha (by rw [← hu]) ho (hgo wk (by rw [← hu]))

lemma guarded_decide (h : Guarded pr g ⟨st,.parked sr⟩ lg)
    (hn : planApprovalNode pr g st sr = .inr update)
    (hed : follow routeFromPlanApproval (planApprovalRouteMap g) (st.apply update) = .ok pos) :
    Guarded pr g ⟨st.apply update,pos⟩ (lg ++ [l]) := by
  obtain ⟨hm,hdi⟩ := h.stands
  obtain ⟨ve,han,hi,hd⟩ := decide_leads hn hed
  have hs : update.approvalStatus = some (some .rejected) →
      (st.apply update).approvalStatus ≠ some .approved := by
    intro hre
    rw [TeamState.apply,hre]
    simp
  cases hd with
  | approved _ hap hl =>
    have ha : ApprovedIn (lg ++ [l]) := (hdi.approved han hap).append _
    refine ⟨fun _ => ha,?_⟩
    rcases planApprovalRouteMap_some hl with rfl | rfl | rfl
    · trivial
    · trivial
    · intro hex hf
      have hm' : PrerequisiteMet (st.apply update) g.options.workerPhaseMap
          (st.next.getD "") := hm.of_eq rfl hi
      exact ⟨hm'.plan hex hf,ha⟩
  | returned _ hre => exact ⟨fun hgr => (hs hre hgr).elim,trivial⟩
  | revised wk _ _ hre ho hl =>
    refine ⟨fun hgr => (hs hre hgr).elim,?_⟩
    rcases planApprovalRouteMap_some hl with rfl | rfl | rfl
    · trivial
    · trivial
    · intro hex
      rw [workerOwningPhase_get ho] at hex
      cases hex

lemma planApprovalNode_inl (h : planApprovalNode pr g st sr = .inl pl) :
    pl = planApprovalPayload pr st := by
  unfold planApprovalNode at h
  dsimp only at h
  split at h
  · exact (Sum.inl.inj h).symm
  · cases h

lemma guarded_move (hat : g.options.autonomous = false)
    (h : Guarded pr g th lg) (hmo : Move pr g th l tr) :
    Guarded pr g tr (lg ++ [l]) := by
  cases hmo with
  | ingest ip =>
    refine ⟨fun hgr => ?_,trivial⟩
    have hk : ∀ st : TeamState, (ingestTurn st ip).approvalStatus = st.approvalStatus := by
      intro st
      unfold ingestTurn
      split_ifs <;> rfl
    rw [hk] at hgr
    exact (h.granted hgr).append _
  | supervise hn hed => exact guarded_supervise hat h hn hed
  | ask hn =>
    refine ⟨fun hgr => (h.granted hgr).append _,h.stands,?_⟩
    rw [planApprovalNode_inl hn]
    exact ⟨lg,[],rfl,by simp,by simp⟩
  | askAgain hn =>
    obtain ⟨hm,hd⟩ := h.stands
    refine ⟨fun hgr => (h.granted hgr).append _,hm,?_⟩
    rw [planApprovalNode_inl hn]
    exact hd.ask
  | resume value =>
    obtain ⟨hm,hd⟩ := h.stands
    exact ⟨fun hgr => (h.granted hgr).append _,hm,hd.resume value⟩
  | decide hn hed => exact guarded_decide h hn hed
  | mount wk sc =>
    refine ⟨fun hgr => (h.granted hgr).append _,?_⟩
    intro hex hf
    obtain ⟨hp,ha⟩ := h.stands hex hf
    exact ⟨mergeVaultIndex_get_ne_nil _ hp,ha.append _⟩
  | work wk => exact ⟨h.carried rfl,trivial⟩

lemma guarded_newThread : Guarded pr g newThread [] := ⟨nofun,trivial⟩

lemma guarded_run (hc : compileTeamGraph pr te co false hasWorkspace li = .ok g)
    (hru : Run (Move pr g) newThread ls th) :
    Guarded pr g th ls := by
  have ha : g.options.autonomous = false := by rw [(compileTeamGraph_eq hc).2]
  have hgu : Guarded pr g th ([] ++ ls) :=
    hru.remembers (Guarded pr g) (fun h hm => guarded_move ha h hm)
      guarded_newThread
  simpa using hgu

/-- In a star that is not autonomous, whatever the model replies, the disk holds and the
human answers, the mount node of a worker of the execution phase is entered with a feature
bound only when the vault index holds a plan, and after the approval node was resumed with
an approved verdict for the very request it had disclosed. -/
theorem exec_mount_approved {team : TeamConfig} {configs : AgentConfigs} {hasWorkspace : Bool}
    {limits : RoutingLimits} {labels : List Label} {worker : String}
    (hcompiled : compileTeamGraph prims team configs false hasWorkspace limits = .ok graph)
    (hrun : Run (Move prims graph) newThread labels ⟨state,.mount worker⟩)
    (hexec : graph.options.workerPhaseMap.get worker = some .exec)
    (hfeature : featureBound state = true) :
    state.vaultIndex.get "plan" ≠ [] ∧ ApprovedIn labels := by
  have hgu := guarded_run hcompiled hrun
  exact hgu.stands hexec hfeature

end

/-- The functions on plain text, and a digest that does not tell requests apart. -/
def plainPrimitives : Primitives where
  lower := PyText.lower
  repr := fun text => "'" ++ text ++ "'"
  canonicalDigest := fun _ => "0"

def coderGraph : Graph where
  workers := ["coder"]
  compiledWorkerIds := ["coder"]
  options := ⟨⟨[("coder",.exec)]⟩,false,true,{}⟩

def coderTurn : TurnInput where
  threadId := "thread"
  isFirstIngest := true
  activeFeature := some "search"
  vaultIndex := ⟨[("plan",["plan.md"])]⟩

def approval : Value :=
  .dict [(.str "verdict",.str "approved"),(.str "request_id",.str "plan-approval-0")]

/-- The coder of a plan that was in the vault from the start is reached by an approval. -/
theorem exec_mount_approved_coder : ∃ state labels,
    Run (Move plainPrimitives coderGraph) newThread labels ⟨state,.mount "coder"⟩ ∧
      state.vaultIndex.get "plan" ≠ [] ∧ ApprovedIn labels := by
  have hc : compileTeamGraph plainPrimitives ⟨"solo",["coder"],10⟩
      ⟨[("coder",⟨"coder","coder"⟩)]⟩ false true {} = .ok coderGraph := rfl
  obtain ⟨state,hf,hru⟩ : ∃ state, featureBound state = true ∧
      Run (Move plainPrimitives coderGraph) newThread
        [.ingest coderTurn,.supervise "coder" ⟨[]⟩,.ask "plan-approval-0",.resume approval,
          .decide] ⟨state,.mount "coder"⟩ :=
    ⟨_,rfl,.step (.ingest _) <| .step (.supervise rfl rfl) <| .step (.ask rfl) <|
      .step (.resume _) <| .single (.decide rfl rfl)⟩
  exact ⟨state,_,hru,exec_mount_approved hc hru rfl hf⟩

end VaultspecA2A.StarGraph
