import VaultspecA2A.SupervisorBudgets

/-!
# The supersteps of a run that is never accepted

A run of a star has a limit of supersteps, and the compiler holds a preset to the price of its
blocked ends: three supersteps for each and one more to report. A run can be refused between two
blocked ends, as often as the other budget lets it, and the reroute of a blocked end can pass through
the approval node. What the compiler accepts can therefore be used up before the routing error is
raised.

The price below counts both. The invariant is that the supersteps taken, those the position still
needs before the supervisor's next turn, and what remains of the two budgets stay within it.
-/
namespace VaultspecA2A.StarSupersteps
open Runs PyText ThreadLifecycle SupervisorRouting StarGraph List
open SupervisorBudgets

variable {prims pr : Primitives} {state st : TeamState}

section
variable {graph g : Graph}
variable {worker wk : String}

lemma starWorkerPhaseMap_mem (h : (starWorkerPhaseMap te co).get wk = some ph) :
    wk ∈ agentIds te co := by
  obtain ⟨e,hen,-⟩ := Option.map_eq_some_iff.1 h
  have hf := find?_some hen
  have hk : e.1 = wk := of_decide_eq_true hf
  have hm := mem_reverse.1 (mem_of_find?_eq_some hen)
  obtain ⟨cf,hc,hp⟩ := mem_filterMap.1 hm
  obtain ⟨_,-,rfl⟩ := Option.map_eq_some_iff.1 hp
  exact mem_map.2 ⟨cf,hc,hk⟩

/-- Every worker with a phase has a node, and none is named like the end of the run. -/
structure Routed (graph : Graph) : Prop where
  owned : ∀ worker phase, graph.options.workerPhaseMap.get worker = some phase →
    worker ∈ graph.compiledWorkerIds
  unfinished : finishRoute ∉ graph.compiledWorkerIds

lemma compileTeamGraph_routed (h : compileTeamGraph pr te co au hasWorkspace li = .ok g)
    (hn : finishRoute ∉ agentIds te co) : Routed g := by
  obtain ⟨hi,ho⟩ := compileTeamGraph_eq h
  constructor
  · intro wk ph hp
    rw [ho] at hp
    rw [hi]
    exact starWorkerPhaseMap_mem hp
  · rw [hi]
    exact hn

/-- The supersteps a position needs at most before the supervisor's next turn. -/
def needed : Position → ℕ
  | .planApproval => 3
  | .parked _ => 3
  | .mount _ => 2
  | .worker _ => 1
  | _ => 0

/-- The run has not ended, and the worker that waits for an approval has a node. -/
def Ready (graph : Graph) (state : TeamState) : Position → Prop
  | .planApproval => state.next.getD "" ∈ graph.compiledWorkerIds
  | .parked _ => state.next.getD "" ∈ graph.compiledWorkerIds
  | .completion => False
  | _ => True

lemma Routed.routeMap (h : Routed g) (hw : wk ∈ g.compiledWorkerIds) :
    routeMap g wk = some (.mount wk) := by
  have hn : wk ≠ finishRoute := by
    rintro rfl
    exact h.unfinished hw
  unfold StarGraph.routeMap
  rw [if_neg hn,if_pos hw]

lemma Routed.supervisorRouteMap (h : Routed g) (hw : wk ∈ g.compiledWorkerIds)
    (hn : st.next = some wk) :
    ∃ pos, supervisorRouteMap g wk = some pos ∧ Ready g st pos ∧ needed pos ≤ 3 := by
  unfold StarGraph.supervisorRouteMap
  split_ifs
  · exact ⟨_,rfl,trivial,by decide⟩
  · refine ⟨_,rfl,?_,by decide⟩
    rw [Ready,hn]
    exact hw
  · exact ⟨_,h.routeMap hw,trivial,by simp [needed]⟩

lemma Routed.planApprovalRouteMap (h : Routed g)
    (hw : wk = "supervisor" ∨ wk ∈ g.compiledWorkerIds) :
    ∃ pos, planApprovalRouteMap g wk = some pos ∧ Ready g st pos ∧ needed pos ≤ 2 := by
  unfold StarGraph.planApprovalRouteMap
  split_ifs with hn
  · exact ⟨_,rfl,trivial,by decide⟩
  · exact ⟨_,h.routeMap (hw.resolve_left hn),trivial,by simp [needed]⟩

end

lemma checkFinishBlocked_owner (h : checkFinishBlocked st ws ip ps = some bl)
    (hown : bl.nextRoute = some ow) : ∃ ph, ps.get ow = some ph := by
  have ho : ∀ re ta, (blockedFinishDecision re ta ws ip ps).nextRoute = some ow →
      ∃ ph, ps.get ow = some ph := by
    intro re ta hgo
    unfold blockedFinishDecision at hgo
    split at hgo
    · cases hgo
    · rename_i wk hw
      cases hgo
      exact ⟨ta,workerOwningPhase_get hw⟩
  unfold checkFinishBlocked at h
  split_ifs at h <;> cases h
  · exact ho _ _ hown
  · exact ho _ _ hown

lemma decisionOf_owner (hf : (decisionOf pr ws os st sc co).refused = false)
    (hm : (decisionOf pr ws os st sc co).blocksFinish = true) :
    ∃ ow ph, (decisionOf pr ws os st sc co).nextRoute = some ow ∧
      os.workerPhaseMap.get ow = some ph := by
  unfold decisionOf evaluateSupervisorResponse at hf hm ⊢
  cases hp : parseRoute pr (strip co) (ws ++ [finishRoute]) with
  | error re => simp [hp] at hf
  | ok rt =>
    rw [hp] at hf hm
    dsimp only at hf hm ⊢
    by_cases hfi : rt = finishRoute
    · rw [if_pos hfi] at hf hm ⊢
      cases hb : checkFinishBlocked (refreshed os st sc) ws
          (inferPhaseFromVaultIndex (refreshed os st sc).vaultIndex)
          os.workerPhaseMap with
      | none => simp [hb,routeDecision_unblocked] at hm
      | some bl =>
        rw [hb] at hf hm
        dsimp only at hf hm ⊢
        split at hf
        · rename_i ow _ ho
          obtain ⟨ph,hph⟩ := checkFinishBlocked_owner hb ho
          refine ⟨ow,ph,(routeDecision_admits ?_ hf).goes,hph⟩
          rintro _ ⟨⟩
          exact checkFinishBlocked_reroutes hb ho
        · rename_i hn
          obtain ⟨ow,ho⟩ := Option.ne_none_iff_exists'.1 (checkFinishBlocked_nextRoute hb hf)
          exact (hn ow hf ho).elim
    · rw [if_neg hfi] at hm
      simp [routeDecision_unblocked] at hm

lemma supervisorNode_next (hn : supervisorNode pr ws os st sc co = .ok update)
    (hf : (decisionOf pr ws os st sc co).refused = false)
    (hro : (decisionOf pr ws os st sc co).nextRoute = some rt) :
    update.next = some rt := by
  unfold supervisorNode at hn
  obtain ⟨wr,hw,hl⟩ := bind_ok.1 hn
  cases hl
  unfold decisionOf at hf hro
  rw [hf,hro] at hw
  obtain ⟨bl,-,ha⟩ := bind_ok.1 hw
  cases ha
  rfl

lemma supervise_blocked (hro : Routed g)
    (hf : (decisionOf pr g.workers g.options st sc co).refused = false)
    (hm : (decisionOf pr g.workers g.options st sc co).blocksFinish = true)
    (hno : supervisorNode pr g.workers g.options st sc co = .ok update)
    (hre : (st.apply update).supervisorReasks = 0) :
    ∃ pos, follow routeFromSupervisor (supervisorRouteMap g) (st.apply update) =
        .ok pos ∧ Ready g (st.apply update) pos ∧ needed pos ≤ 3 := by
  obtain ⟨ow,ph,hrou,hph⟩ := decisionOf_owner hf hm
  have ho := hro.owned ow ph hph
  have hn : (st.apply update).next = some ow := by
    rw [TeamState.apply,supervisorNode_next hno hf hrou]
    rfl
  by_cases hp : (st.apply update).approvalStatus = some .pending
  · have ha : routeFromSupervisor (st.apply update) = .ok "plan_approval" := by
      rw [routeFromSupervisor,if_neg (by simp [hre]),if_pos hp]
    refine ⟨.planApproval,follow_of ha rfl,?_,by decide⟩
    rw [Ready,hn]
    exact ho
  · have hgo : routeFromSupervisor (st.apply update) = .ok ow := by
      rw [routeFromSupervisor,if_neg (by simp [hre]),if_neg hp,hn]
    obtain ⟨pos,hl,hrea,hnee⟩ := hro.supervisorRouteMap ho hn
    exact ⟨pos,follow_of hgo hl,hrea,hnee⟩

/-- A turn that is not accepted and returns leads on, at the price of what it spends. -/
lemma supervise_unaccepted (hrou : Routed g)
    (hu : ¬ Accepted (decisionOf pr g.workers g.options st sc co))
    (hn : supervisorNode pr g.workers g.options st sc co = .ok update) :
    ∃ pos, follow routeFromSupervisor (supervisorRouteMap g) (st.apply update) =
        .ok pos ∧ Ready g (st.apply update) pos ∧
      needed pos + 1 + remaining g.options.limits 4 (countersOf (st.apply update)) ≤
        remaining g.options.limits 4 (countersOf st) := by
  have hco := @supervisorNode_counted pr g.workers g.options st sc co
  rw [hn] at hco
  rcases hco.spends hu with ⟨href,hro,hc⟩ | ⟨hf,hro,hc⟩
  · refine ⟨.supervisor,refused_returns href hn,trivial,?_⟩
    have hs : remaining g.options.limits 4 ⟨st.supervisorReasks + 1,st.supervisorFinishBlocks⟩ + 1 =
          remaining g.options.limits 4 (countersOf st) := remaining_reask hro
    have hnee : needed .supervisor = 0 := rfl
    rw [hc,hnee]
    omega
  · have hm : (decisionOf pr g.workers g.options st sc co).blocksFinish = true := by
      simpa [Accepted,hf] using hu
    obtain ⟨pos,hfo,hre,hnee⟩ := supervise_blocked hrou hf hm hn (congrArg Counters.reasks hc)
    refine ⟨pos,hfo,hre,?_⟩
    have hs : remaining g.options.limits 4 ⟨0,st.supervisorFinishBlocks + 1⟩ + 4 ≤
        remaining g.options.limits 4 (countersOf st) := remaining_block hro
    rw [hc]
    omega

lemma verdictUpdate_next (hw : pl.execWorker ∈ g.compiledWorkerIds) :
    ∃ wk, (verdictUpdate g st pl ve).next = some wk ∧
      (wk = "supervisor" ∨ wk ∈ g.compiledWorkerIds) := by
  unfold verdictUpdate
  split_ifs
  · exact ⟨_,rfl,.inr hw⟩
  · dsimp only
    split
    · exact ⟨_,rfl,.inl rfl⟩
    · rename_i wk ho
      exact ⟨wk,rfl,.inr (mem_of_find?_eq_some ho)⟩

lemma decide_ready (hro : Routed g) (hre : Ready g st (.parked sr))
    (hn : planApprovalNode pr g st sr = .inr update) :
    ∃ pos, follow routeFromPlanApproval (planApprovalRouteMap g) (st.apply update) =
        .ok pos ∧ Ready g (st.apply update) pos ∧ needed pos ≤ 2 := by
  unfold planApprovalNode at hn
  dsimp only at hn
  split at hn
  · cases hn
  · rename_i ve _
    cases hn
    obtain ⟨wk,hnex,hw⟩ := @verdictUpdate_next st g (planApprovalPayload pr st) ve hre
    obtain ⟨pos,hle,hl,hnee⟩ := hro.planApprovalRouteMap hw
    have hgo : routeFromPlanApproval (st.apply (verdictUpdate g st
        (planApprovalPayload pr st) ve)) = .ok wk := by
      rw [routeFromPlanApproval,TeamState.apply,hnex]
      rfl
    exact ⟨pos,follow_of hgo hle,hl,hnee⟩

def superstep : Label → Bool
  | .supervise _ _ => true
  | .decide => true
  | .mount _ _ => true
  | .work _ => true
  | _ => false

def supersteps (labels : List Label) : ℕ := labels.countP superstep

def worstCase (limits : RoutingLimits) : ℕ := 4 * limits.supervisorFinishBlockLimit +
    limits.supervisorReaskLimit * (limits.supervisorFinishBlockLimit + 1)

section
variable (prims : Primitives) (graph : Graph)

/-- A step of a turn in which no decision is accepted. -/
def UnacceptedMove (thread : Thread) (label : Label) (thread' : Thread) : Prop :=
  Move prims graph thread label thread' ∧
    match label with
    | .ingest _ => False
    | .supervise content scan =>
      Unaccepted prims graph.workers graph.options ⟨thread.state,scan,content⟩
    | _ => True

def GoesOn (thread : Thread) : Prop :=
  match thread.position with
  | .supervisor => ∀ content scan,
      Unaccepted prims graph.workers graph.options ⟨thread.state,scan,content⟩ →
      (∃ reason attempts, supervisorNode prims graph.workers graph.options thread.state scan content =
        .error (.supervisorRouting reason attempts)) ∨
      ∃ thread', Move prims graph thread (.supervise content scan) thread'
  | .planApproval => ∃ requestId thread', Move prims graph thread (.ask requestId) thread'
  | .parked stored => ∀ update, planApprovalNode prims graph thread.state stored = .inr update →
      ∃ thread', Move prims graph thread .decide thread'
  | .mount worker => ∀ scan, ∃ thread', Move prims graph thread (.mount worker scan) thread'
  | .worker worker => ∃ thread', Move prims graph thread (.work worker) thread'
  | .completion => False

/-- A turn in which no decision is accepted is within its limit of supersteps as long as it goes
on, and ends with the routing error. -/
def ReportsInTime (recursionLimit : ℕ) (start : Thread) : Prop :=
  ∀ labels thread, Run (UnacceptedMove prims graph) start labels thread →
    supersteps labels < recursionLimit ∧ GoesOn prims graph thread

end

section
variable {graph g : Graph} {thread th tr : Thread}
variable {history lg : List Label}

structure Priced (graph : Graph) (thread : Thread) (history : List Label) : Prop where
  ready : Ready graph thread.state thread.position
  within : supersteps history + needed thread.position +
    remaining graph.options.limits 4 (countersOf thread.state) ≤ worstCase graph.options.limits

lemma supersteps_append : supersteps (lg ++ [l]) =
    supersteps lg + if superstep l then 1 else 0 := by
  rw [supersteps,countP_append,countP_singleton]
  rfl

lemma Priced.step (h : Priced g th lg) (hre : Ready g tr.state tr.position)
    (hc : countersOf tr.state = countersOf th.state)
    (hn : (if superstep l then 1 else 0) + needed tr.position ≤
      needed th.position) : Priced g tr (lg ++ [l]) := by
  have hw := h.within
  refine ⟨hre,?_⟩
  rw [supersteps_append,hc]
  omega

lemma priced_move (hro : Routed g) (h : Priced g th lg) (hm : UnacceptedMove pr g th l tr) :
    Priced g tr (lg ++ [l]) := by
  obtain ⟨hm,hu⟩ := hm
  cases hm with
  | ingest => exact hu.elim
  | supervise hn hed =>
    obtain ⟨pos,hf,hre,hp⟩ := supervise_unaccepted hro (not_accepted_iff.2 hu) hn
    cases hf.symm.trans hed
    have hw := h.within
    refine ⟨hre,?_⟩
    rw [supersteps_append,superstep,if_pos rfl]
    dsimp only at hw hp ⊢
    omega
  | ask => exact h.step h.ready rfl (by simp [superstep,needed])
  | askAgain => exact h.step h.ready rfl (by simp [superstep])
  | resume => exact h.step h.ready rfl (by simp [superstep,needed])
  | decide hn hed =>
    obtain ⟨pos,hf,hre,hnee⟩ := decide_ready hro h.ready hn
    cases hf.symm.trans hed
    refine h.step hre (countersOf_move (.decide hn hed) id) ?_
    exact Nat.add_le_add_left hnee 1
  | mount wk sc => exact h.step trivial rfl (by simp [superstep,needed])
  | work wk =>
    exact h.step trivial countersOf_finalizeWorkerResponse (by simp [superstep,needed])

lemma goesOn_of_ready (hro : Routed g) (h : Ready g th.state th.position) : GoesOn pr g th := by
  obtain ⟨st,pos⟩ := th
  cases pos with
  | supervisor =>
    intro co sc hu
    have hc := @supervisorNode_counted pr g.workers g.options st sc co
    cases hn : supervisorNode pr g.workers g.options st sc co with
    | error error =>
      rw [hn] at hc
      cases hc with
      | exhausted re att => exact .inl ⟨re,att,rfl⟩
    | ok update =>
      obtain ⟨pos,hf,-⟩ := supervise_unaccepted hro (not_accepted_iff.2 hu) hn
      exact .inr ⟨_,.supervise hn hf⟩
  | planApproval => exact ⟨_,_,.ask rfl⟩
  | parked sr =>
    intro update hn
    obtain ⟨pos,hf,-⟩ := decide_ready hro h hn
    exact ⟨_,.decide hn hf⟩
  | mount worker => exact fun sc => ⟨_,.mount worker sc⟩
  | worker worker => exact ⟨_,.work worker⟩
  | completion => exact h

end

/-- In every star whose limit is above what both budgets can cost, and none of whose agents is named
like the end of the run, a turn in which no decision is accepted ends with the routing error before
its supersteps are used up. -/
theorem unaccepted_reports_in_time {prims : Primitives} {team : TeamConfig} {configs : AgentConfigs}
    {autonomous hasWorkspace : Bool} {limits : RoutingLimits} {graph : Graph}
    (hcompiled : compileTeamGraph prims team configs autonomous hasWorkspace limits = .ok graph)
    (hlimit : worstCase limits < team.recursionLimit)
    (hnames : finishRoute ∉ agentIds team configs) (state : TeamState) (input : TurnInput) :
    ReportsInTime prims graph team.recursionLimit ⟨ingestTurn state input,.supervisor⟩ := by
  have hro := compileTeamGraph_routed hcompiled hnames
  have hl : graph.options.limits = limits := by rw [(compileTeamGraph_eq hcompiled).2]
  intro labels thread hru
  have hs : Priced graph ⟨ingestTurn state input,.supervisor⟩ [] := by
    refine ⟨trivial,?_⟩
    simpa [supersteps,needed,worstCase] using
      @remaining_le graph.options.limits 4 (countersOf (ingestTurn state input))
  have hp : Priced graph thread ([] ++ labels) :=
    hru.remembers (Priced graph) (fun h hm => priced_move hro h hm) hs
  refine ⟨?_,goesOn_of_ready hro hp.ready⟩
  have hw := hp.within
  rw [hl,nil_append] at hw
  omega

def reviewerGraph : Graph where
  workers := ["reviewer"]
  compiledWorkerIds := ["reviewer"]
  options := reviewerOptions {}

def unreviewedTurn : TurnInput where
  threadId := "thread"
  isFirstIngest := true
  activeFeature := some "search"
  vaultIndex := ⟨[("exec",["step.md"])]⟩

/-- With a limit of 21 a reviewer that never writes its audit is reported. -/
theorem unaccepted_reports_in_time_reviewer :
    compileTeamGraph plainPrimitives ⟨"review",["reviewer"],21⟩
      ⟨[("reviewer",⟨"reviewer","reviewer"⟩)]⟩ false true {} = .ok reviewerGraph ∧
    ReportsInTime plainPrimitives reviewerGraph 21 ⟨ingestTurn {} unreviewedTurn,.supervisor⟩ := by
  have hc : compileTeamGraph plainPrimitives ⟨"review",["reviewer"],21⟩
      ⟨[("reviewer",⟨"reviewer","reviewer"⟩)]⟩ false true {} = .ok reviewerGraph := rfl
  exact ⟨hc,unaccepted_reports_in_time hc (by decide) (by decide) {} unreviewedTurn⟩

/-- Two replies without a route, and an end that is blocked. -/
def refusedThenBlocked : List Label :=
  [.supervise "no idea" ⟨[]⟩,.supervise "no idea" ⟨[]⟩,.supervise "FINISH" ⟨[]⟩,
    .mount "reviewer" ⟨[]⟩,.work "reviewer"]

/-- The compiler accepts a limit of 10, and two rounds use it up without the error. -/
theorem refusals_use_up_supersteps : compileTeamGraph plainPrimitives ⟨"review",["reviewer"],10⟩
      ⟨[("reviewer",⟨"reviewer","reviewer"⟩)]⟩ false true {} = .ok reviewerGraph ∧
    ¬ ReportsInTime plainPrimitives reviewerGraph 10
      ⟨ingestTurn {} unreviewedTurn,.supervisor⟩ := by
  refine ⟨rfl,?_⟩
  intro hre
  obtain ⟨thread,hru⟩ : ∃ thread, Run (UnacceptedMove plainPrimitives reviewerGraph)
      ⟨ingestTurn {} unreviewedTurn,.supervisor⟩ (refusedThenBlocked ++ refusedThenBlocked)
      thread :=
    ⟨_,.step ⟨.supervise rfl rfl,.inl rfl⟩ <| .step ⟨.supervise rfl rfl,.inl rfl⟩ <|
      .step ⟨.supervise rfl rfl,.inr ⟨rfl,rfl⟩⟩ <| .step ⟨.mount _ _,trivial⟩ <|
      .step ⟨.work _,trivial⟩ <| .step ⟨.supervise rfl rfl,.inl rfl⟩ <|
      .step ⟨.supervise rfl rfl,.inl rfl⟩ <| .step ⟨.supervise rfl rfl,.inr ⟨rfl,rfl⟩⟩ <|
      .step ⟨.mount _ _,trivial⟩ <| .single ⟨.work _,trivial⟩⟩
  have hu := (hre _ _ hru).1
  revert hu
  decide

end VaultspecA2A.StarSupersteps
