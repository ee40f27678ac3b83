import VaultspecA2A.StarGraph

/-!
# What a worker finds when it is entered

A worker of a phase is to be entered, while a feature is bound, only when the vault holds a document
of the stage before it. A supervisor's route passes the gate of its phase, whether the model named
it or the end of the run was blocked, and a plan that is approved goes to the worker the gate had
let through. A plan that is rejected goes to a worker of the plan phase, and no gate is asked: that
worker is entered without an architecture decision if the vault holds a plan but none.
-/
namespace VaultspecA2A.WorkerPrerequisites
open Runs PyValue Grounding SupervisorRouting StarGraph

section
variable {prims pr : Primitives} {graph g : Graph} {state st la : TeamState}
variable {stored sr : List Value}

lemma not_blocked_iff : (checkPhasePrerequisites ta i).blocked = false ↔
    ∀ required, phasePrerequisites ta = some (required,true) → i.get required.value ≠ [] := by
  unfold checkPhasePrerequisites
  cases hre : phasePrerequisites ta with
  | none => simp
  | some e =>
    obtain ⟨required,hard⟩ := e
    dsimp only
    cases hard <;> split_ifs with hem <;> simp_all

lemma PrerequisiteMet.grow (h : PrerequisiteMet st ph rt) (hf : la.activeFeature = st.activeFeature)
    (hgr : ∀ key, st.vaultIndex.get key ≠ [] → la.vaultIndex.get key ≠ []) :
    PrerequisiteMet la ph rt := by
  intro hb ta ht
  have hb' : featureBound st = true := by
    rw [featureBound,← hf]
    exact hb
  have hm := not_blocked_iff.1 (h hb' ta ht)
  exact not_blocked_iff.2 fun required hre => hgr _ (hm required hre)

def Meets (graph : Graph) (state : TeamState) : Position → Prop
  | .planApproval => PrerequisiteMet state graph.options.workerPhaseMap (state.next.getD "")
  | .parked _ => PrerequisiteMet state graph.options.workerPhaseMap (state.next.getD "")
  | .mount worker => PrerequisiteMet state graph.options.workerPhaseMap worker
  | .worker worker => PrerequisiteMet state graph.options.workerPhaseMap worker
  | _ => True

lemma meets_supervise (hno : supervisorNode pr g.workers g.options st sc co = .ok update)
    (hed : follow routeFromSupervisor (supervisorRouteMap g) (st.apply update) =
      .ok pos) : Meets g (st.apply update) pos := by
  have hn : ∀ rt, update.next = some rt → (st.apply update).next.getD "" = rt := by
    intro rt hgo
    rw [TeamState.apply,hgo]
    rfl
  cases supervise_leads hno hed with
  | again => trivial
  | asks rt hgo _ hm =>
    rw [Meets,hn rt hgo]
    exact hm
  | goes rt _ hgo _ hm _ _ hl =>
    rcases supervisorRouteMap_some hl with rfl | rfl | rfl | rfl
    · trivial
    · rw [Meets,hn rt hgo]
      exact hm
    · trivial
    · exact hm

def RevisesWithDecision (prims : Primitives) (graph : Graph) (thread : Thread) : Label → Prop
  | .decide => ∀ stored verdict worker, thread.position = .parked stored →
      awaitRequestScopedResume stored (planApprovalPayload prims thread.state).requestId
        parseApprovalVerdict = some verdict →
      verdict.verdict ≠ some verdictApproved →
      workerOwningPhase .plan graph.compiledWorkerIds graph.options.workerPhaseMap = some worker →
      featureBound thread.state = true → thread.state.vaultIndex.get "adr" ≠ []
  | _ => True

lemma prerequisiteMet_plan (hp : ph.get rt = some .plan)
    (h : featureBound st = true → st.vaultIndex.get "adr" ≠ []) :
    PrerequisiteMet st ph rt := by
  intro hf ta ht
  rw [hp] at ht
  cases ht
  apply not_blocked_iff.2
  intro required hre
  cases hre
  exact h hf

lemma meets_decide (h : Meets g st (.parked sr))
    (hrev : RevisesWithDecision pr g ⟨st,.parked sr⟩ .decide)
    (hn : planApprovalNode pr g st sr = .inr update)
    (hed : follow routeFromPlanApproval (planApprovalRouteMap g) (st.apply update) =
      .ok pos) : Meets g (st.apply update) pos := by
  obtain ⟨ve,ha,hi,hd⟩ := decide_leads hn hed
  have hf : (st.apply update).activeFeature = st.activeFeature := rfl
  cases hd with
  | approved _ _ hl =>
    rcases planApprovalRouteMap_some hl with rfl | rfl | rfl
    · trivial
    · trivial
    · exact PrerequisiteMet.of_eq h hf hi
  | returned => trivial
  | revised wk _ hre _ ho hl =>
    rcases planApprovalRouteMap_some hl with rfl | rfl | rfl
    · trivial
    · trivial
    · have hm : PrerequisiteMet st g.options.workerPhaseMap wk :=
        prerequisiteMet_plan (workerOwningPhase_get ho) (hrev sr ve wk rfl ha hre ho)
      exact hm.of_eq hf hi

lemma meets_move (h : Meets g th.state th.position) (hm : Move pr g th l tr)
    (hre : RevisesWithDecision pr g th l) :
    Meets g tr.state tr.position := by
  cases hm with
  | ingest ip => trivial
  | supervise hn hed => exact meets_supervise hn hed
  | ask => exact h
  | askAgain => exact h
  | resume value => exact h
  | decide hn hed => exact meets_decide h hre hn hed
  | mount wk sc =>
    exact PrerequisiteMet.grow h rfl fun key hk => mergeVaultIndex_get_ne_nil _ hk
  | work wk => trivial

end

/-- The steps of a star in which every rejected plan that is revised finds a decision. -/
def RevisingMove (prims : Primitives) (graph : Graph) (thread : Thread) (label : Label)
    (thread' : Thread) : Prop :=
  Move prims graph thread label thread' ∧ RevisesWithDecision prims graph thread label

/-- Whatever the model replies, the disk holds and the human answers: in a run of a star in which
no rejected plan is sent to a worker of the plan phase while the vault lacks a decision, a worker of
a phase is entered with a feature bound only when the vault index holds a document of the stage that
the hard prerequisite of its phase names. -/
theorem entered_with_prerequisite {prims : Primitives} {graph : Graph} {labels : List Label}
    {state : TeamState} {position : Position} {worker : String} {target required : PipelinePhase}
    (hrun : Run (RevisingMove prims graph) newThread labels ⟨state,position⟩)
    (hentered : position = .mount worker ∨ position = .worker worker)
    (hfeature : featureBound state = true)
    (hphase : graph.options.workerPhaseMap.get worker = some target)
    (hhard : phasePrerequisites target = some (required,true)) :
    state.vaultIndex.get required.value ≠ [] := by
  have hm : Meets graph state position :=
    hrun.invariant (fun thread : Thread => Meets graph thread.state thread.position)
      (fun h hmo => meets_move h hmo.1 hmo.2) trivial
  have hme : PrerequisiteMet state graph.options.workerPhaseMap worker := by
    rcases hentered with rfl | rfl
    · exact hm
    · exact hm
  exact not_blocked_iff.1 (hme hfeature target hphase) required hhard

def plannerGraph : Graph where
  workers := ["planner","coder"]
  compiledWorkerIds := ["planner","coder"]
  options := ⟨⟨[("planner",.plan),("coder",.exec)]⟩,false,true,{}⟩

def rejection : Value :=
  .dict [(.str "verdict",.str "rejected"),(.str "request_id",.str "plan-approval-0")]

def rejectedTurn (index : VaultIndex) : List Label :=
  [.ingest ⟨"thread",true,some "search",none,index,[]⟩,.supervise "coder" ⟨[]⟩,
    .ask "plan-approval-0",.resume rejection,.decide,.mount "planner" ⟨[]⟩]

/-- With a decision and a plan in the vault, the planner that revises the plan finds the decision. -/
theorem entered_with_prerequisite_planner : ∃ state,
    Run (RevisingMove plainPrimitives plannerGraph) newThread
      (rejectedTurn ⟨[("adr",["adr.md"]),("plan",["plan.md"])]⟩) ⟨state,.worker "planner"⟩ ∧
    state.vaultIndex.get "adr" ≠ [] := by
  obtain ⟨state,hf,hru⟩ : ∃ state, featureBound state = true ∧
      Run (RevisingMove plainPrimitives plannerGraph) newThread
        (rejectedTurn ⟨[("adr",["adr.md"]),("plan",["plan.md"])]⟩) ⟨state,.worker "planner"⟩ :=
    ⟨_,rfl,.step ⟨.ingest _,trivial⟩ <| .step ⟨.supervise rfl rfl,trivial⟩ <|
      .step ⟨.ask rfl,trivial⟩ <| .step ⟨.resume _,trivial⟩ <|
      .step ⟨.decide rfl rfl,fun _ _ _ _ _ _ _ _ => by decide⟩ <| .single ⟨.mount _ _,trivial⟩⟩
  exact ⟨state,hru,entered_with_prerequisite hru (.inr rfl) hf rfl rfl⟩

/-- With a plan in the vault and no decision, the rejection enters the planner all the same. -/
theorem rejected_plan_enters_planner :
    compileTeamGraph plainPrimitives ⟨"pair",["planner","coder"],25⟩
      ⟨[("planner",⟨"planner","planner"⟩),("coder",⟨"coder","coder"⟩)]⟩ false true {} =
        .ok plannerGraph ∧
    ∃ state, Run (Move plainPrimitives plannerGraph) newThread (rejectedTurn ⟨[("plan",["plan.md"])]⟩)
      ⟨state,.worker "planner"⟩ ∧
    featureBound state = true ∧ plannerGraph.options.workerPhaseMap.get "planner" = some .plan ∧
    phasePrerequisites .plan = some (.adr,true) ∧
    state.vaultIndex.get PipelinePhase.adr.value = [] :=
  ⟨rfl,_,.step (.ingest _) <| .step (.supervise rfl rfl) <| .step (.ask rfl) <| .step (.resume _) <|
    .step (.decide rfl rfl) <| .single (.mount _ _),rfl,rfl,rfl,rfl⟩

end VaultspecA2A.WorkerPrerequisites
