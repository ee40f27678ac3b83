import VaultspecA2A.PhaseGates

/-!
# Turns of a pipeline

The stages of a pipeline run in their declared order. A pipeline loop puts its loop node last; while
the reply of that node asks for a revision and the budget of the turn lasts, the stage before it and
the loop node run again. A mount node writes no channel that the routing reads.
-/
namespace VaultspecA2A.Pipelines
open Runs ThreadLifecycle Grounding SupervisorRouting List
open StarGraph (AgentConfigs TeamConfig addGraphNode graphCompletionNode)
open PhaseGates (reviewRequestsRevision revisionGranted)

structure TopologyConfig where
  order : List String
  loopNode : Option String
  maxLoops : ℕ
  range : 1 ≤ maxLoops ∧ maxLoops ≤ 100
  listed : ∀ n ∈ loopNode, n ∈ order

/-- A definition holds each agent under its own id. -/
structure FrozenGraphDefinition where
  team : TeamConfig
  topology : TopologyConfig
  agents : AgentConfigs
  named : ∀ e ∈ agents.entries, e.2.id = e.1

def listRepr (prims : Primitives) (texts : List String) : String :=
  "[" ++ ", ".intercalate (texts.map prims.repr) ++ "]"

def duplicateOrderEntries (seen : List String) : List String → List String
  | [] => []
  | a :: rest =>
    if a ∈ seen then a :: duplicateOrderEntries seen rest
    else duplicateOrderEntries (a :: seen) rest

def validatePipelineLoopConfig (prims : Primitives) (d : FrozenGraphDefinition) :
    Except GraphError (String × List String) :=
  let order := d.topology.order
  let team := prims.repr d.team.id
  match d.topology.loopNode with
  | none => .error (.config "pipeline_loop topology requires loop_node to be set")
  | some loopNode =>
    let name := prims.repr loopNode
    let preLoop := order.filter (· != loopNode)
    if ¬ order.Nodup then
      .error (.config ("pipeline_loop order for team " ++ team ++ " has duplicate entries: " ++
        listRepr prims (duplicateOrderEntries [] order) ++ ". Each agent may appear at most once."))
    else if preLoop = [] then
      .error (.config ("Pipeline_loop for team " ++ team ++
        " requires at least one pre-loop stage in addition to the loop_node " ++ name ++
        ". A single-agent pipeline_loop is a degenerate self-loop -- " ++
        "use topology.type='pipeline' for single-agent sequential runs."))
    else if loopNode ∉ d.team.workers then
      .error (.config ("pipeline_loop loop_node " ++ name ++ " is not a known worker in team " ++
        team ++ ". Known workers: " ++ listRepr prims (sortedSet d.team.workers)))
    else if (d.agents.get loopNode).isNone then
      .error (.config ("pipeline_loop loop_node " ++ name ++ " has no resolved AgentConfig. " ++
        "Ensure the agent TOML exists and is loaded before compiling the graph."))
    else .ok (loopNode,preLoop)

def validatedPipelineOrder (prims : Primitives) (d : FrozenGraphDefinition) :
    Except GraphError (List String) :=
  let order := d.topology.order
  if order = [] then
    .error (.config ("Pipeline topology for team " ++ prims.repr d.team.id ++ " has an empty " ++
      "pipeline_order. At least one agent must be listed in topology.order."))
  else if ¬ order.Nodup then
    .error (.config ("Pipeline order for team " ++ prims.repr d.team.id ++
      " has duplicate entries: " ++ listRepr prims (duplicateOrderEntries [] order) ++
      ". Each agent may appear at most once."))
  else .ok order

/-- Add the nodes of an agent that stands in a list; a stage without a worker is refused. -/
def addStage (prims : Primitives) (d : FrozenGraphDefinition) (listing stage : String)
    (refusal : String → GraphError) (nodes : List String) (a : String) :
    Except GraphError (List String) :=
  match d.agents.get a with
  | none =>
    .error (.config ("Agent '" ++ a ++ "' referenced in " ++ listing ++ " but not defined in " ++
      "agent_configs. Ensure the agent TOML exists and is loaded before compiling the graph."))
  | some config =>
    if a ∉ d.team.workers then
      .error (refusal (stage ++ " node " ++ prims.repr a ++
        " has no matching WorkerRef in team " ++ prims.repr d.team.id ++ "."))
    else do addGraphNode (← addGraphNode nodes ("mount_" ++ config.id)) config.id

/-- The nodes, and the stages in the order of their edges; a loop has a budget. -/
structure Graph where
  nodes : List String
  allSequential : List String
  revisionBudget : Option ℕ

def compilePipeline (prims : Primitives) (d : FrozenGraphDefinition) : Except GraphError Graph := do
  let order ← validatedPipelineOrder prims d
  let nodes ←
    order.foldlM (addStage prims d "pipeline_order" "Pipeline" .value) [graphCompletionNode]
  .ok ⟨nodes,order,none⟩

def compilePipelineLoop (prims : Primitives) (d : FrozenGraphDefinition) :
    Except GraphError Graph := do
  let (loopNode,preLoop) ← validatePipelineLoopConfig prims d
  let nodes ← d.topology.order.foldlM
    (addStage prims d "pipeline_loop order" "Pipeline-loop" .config) [graphCompletionNode]
  .ok ⟨nodes,preLoop ++ [loopNode],some (d.topology.maxLoops - 1)⟩

/-- The nodes by the index of their stage. -/
inductive Node
  | mount (i : ℕ)
  | worker (i : ℕ)
  | completion

/-- The node that runs next and the channels the routing reads. -/
structure State where
  node : Node
  messages : List String
  loopCount : ℕ

def loopRouter (g : Graph) (budget : ℕ) (s : State) : Node :=
  if revisionGranted (reviewRequestsRevision s.messages) s.loopCount budget then
    .mount (g.allSequential.length - 2)
  else .completion

def superstep (g : Graph) (reply : String) (s : State) : State :=
  match s.node with
  | .mount i => { s with node := .worker i }
  | .worker i =>
    let replied := { s with messages := s.messages ++ [reply] }
    if i + 1 < g.allSequential.length then { replied with node := .mount (i + 1) }
    else
      match g.revisionBudget with
      | none => { replied with node := .completion }
      | some budget =>
        let counted := { replied with loopCount := s.loopCount + 1 }
        { counted with node := loopRouter g budget counted }
  | .completion => s

/-- The supersteps of a turn, each labelled with the node it runs. -/
def Moves (g : Graph) (answer : State → String) (s : State) (node : Node) (t : State) : Prop :=
  node = s.node ∧ node ≠ .completion ∧ t = superstep g (answer s) s

def visits (first count : ℕ) : List Node :=
  (range' first count).flatMap fun i => [.mount i,.worker i]

/-- Each stage has a mount and a node under its own id, and no two nodes have one name. -/
def Named (g : Graph) (order : List String) : Prop :=
  g.nodes = graphCompletionNode :: order.flatMap (fun a => ["mount_" ++ a,a]) ∧ g.nodes.Nodup

lemma addGraphNode_nodup (h : addGraphNode ns n = .ok ms) (hn : ns.Nodup) :
    ms = ns ++ [n] ∧ ms.Nodup := by
  unfold addGraphNode at h
  split_ifs at h with hm
  cases h
  exact ⟨rfl,hn.append (nodup_singleton n) (by simpa using hm)⟩

lemma addStages_nodup {as ns : List String} (h : as.foldlM (addStage pr d li st re) ns = .ok ms)
    (hn : ns.Nodup) : ms = ns ++ as.flatMap (fun a => ["mount_" ++ a,a]) ∧ ms.Nodup := by
  induction as generalizing ns with
  | nil =>
    cases h
    exact ⟨(append_nil _).symm,hn⟩
  | cons a as ih =>
    obtain ⟨ks,hk,h⟩ := bind_ok.1 h
    unfold addStage at hk
    cases hc : d.agents.get a with
    | none => simp [hc] at hk
    | some c =>
      simp only [hc] at hk
      split_ifs at hk
      obtain ⟨e,he,rfl⟩ := Option.map_eq_some_iff.1 hc
      have hi : e.2.id = a := by
        rw [d.named e (mem_of_find?_eq_some he)]
        simpa using find?_some he
      obtain ⟨js,hj,hk⟩ := bind_ok.1 hk
      obtain ⟨rfl,hj⟩ := addGraphNode_nodup hj hn
      obtain ⟨rfl,hk⟩ := addGraphNode_nodup hk hj
      simpa [hi] using ih h hk

lemma moves_mount (hs : s.node = .mount i) :
    Moves g f s (.mount i) { s with node := .worker i } :=
  ⟨hs.symm,nofun,by rw [superstep,hs]⟩

/-- From a mount the turn runs on through the last stage. -/
lemma run_stages (hn : i + n + 1 = g.allSequential.length) (hs : s.node = .mount i) :
    ∃ u, Run (Moves g f) s (visits i (n + 1)) (superstep g (f u) u) ∧
      u.node = .worker (i + n) ∧ u.loopCount = s.loopCount := by
  induction n generalizing i s with
  | zero => exact ⟨_,.step (moves_mount hs) (.single ⟨rfl,nofun,rfl⟩),rfl,rfl⟩
  | succ n ih =>
    obtain ⟨t,hw,ht,hk⟩ : ∃ t, Moves g f { s with node := .worker i } (.worker i) t ∧
        t.node = .mount (i + 1) ∧ t.loopCount = s.loopCount :=
      ⟨_,⟨rfl,nofun,rfl⟩,by simp [superstep,← hn]⟩
    obtain ⟨u,hu,hl,hc⟩ := ih (by omega) ht
    refine ⟨u,.step (moves_mount hs) (.step hw hu),?_,hc.trans hk⟩
    rw [hl,Nat.add_right_comm]
    rfl

/-- From a mount of a loop the turn runs on through the loop node to the router. -/
lemma run_round (hb : g.revisionBudget = some b) (hn : i + n + 1 = g.allSequential.length)
    (hs : s.node = .mount i) : ∃ t, Run (Moves g f) s (visits i (n + 1)) t ∧
      t.node = loopRouter g b t ∧ t.loopCount = s.loopCount + 1 := by
  obtain ⟨u,hu,hl,hc⟩ := run_stages (f := f) hn hs
  refine ⟨_,hu,?_⟩
  simp [superstep,hl,hn,hb,hc,loopRouter]

/-- From the router the loop spends at most what is left of the budget. -/
lemma run_loop (hb : g.revisionBudget = some b) (hg : n + 2 = g.allSequential.length)
    (hs : s.node = loopRouter g b s) (hm : s.loopCount + m = b + 1) :
    ∃ k ≤ m, ∃ t, Run (Moves g f) s (replicate k (visits n 2)).flatten t ∧
      t.node = .completion ∧ t.loopCount = s.loopCount + k ∧
      (reviewRequestsRevision t.messages → k = m) := by
  induction m generalizing s with
  | zero =>
    have hc : loopRouter g b s = .completion := by
      rw [loopRouter,revisionGranted,decide_eq_false (by omega),Bool.and_false]
      rfl
    exact ⟨0,le_rfl,s,.done s,hs.trans hc,rfl,fun _ => rfl⟩
  | succ m ih =>
    cases hr : reviewRequestsRevision s.messages with
    | false =>
      have hc : loopRouter g b s = .completion := by
        rw [loopRouter,hr]
        rfl
      exact ⟨0,Nat.zero_le _,s,.done s,hs.trans hc,rfl,by simp [hr]⟩
    | true =>
      have hd : loopRouter g b s = .mount n := by
        rw [loopRouter,hr,revisionGranted,decide_eq_true (by omega),← hg]
        rfl
      obtain ⟨t,ht,hn,hc⟩ := run_round (f := f) hb (by omega) (hs.trans hd)
      obtain ⟨k,hk,u,hu,he,hl,hq⟩ := ih hn (by omega)
      refine ⟨k + 1,by omega,u,?_,he,by omega,fun e => by rw [hq e]⟩
      rw [replicate_succ,flatten_cons]
      exact ht.append hu

lemma validatePipelineLoopConfig_ok (h : validatePipelineLoopConfig pr d = .ok (l,p)) :
    d.topology.loopNode = some l ∧ d.topology.order.Nodup ∧ p ≠ [] ∧
      p = d.topology.order.filter (· != l) := by
  unfold validatePipelineLoopConfig at h
  cases hl : d.topology.loopNode with
  | none => simp [hl] at h
  | some l =>
    simp only [hl] at h
    split_ifs at h with hd hp
    cases h
    exact ⟨rfl,hd,hp,rfl⟩

lemma compilePipelineLoop_ok (h : compilePipelineLoop pr d = .ok g) :
    Named g d.topology.order ∧ (∃ l ∈ d.topology.loopNode,
      g.allSequential = d.topology.order.filter (· != l) ++ [l]) ∧
      g.allSequential.length = d.topology.order.length ∧ 2 ≤ d.topology.order.length ∧
      ∃ b, g.revisionBudget = some b ∧ b + 1 = d.topology.maxLoops := by
  obtain ⟨⟨l,p⟩,hv,h⟩ := bind_ok.1 h
  obtain ⟨_,hs,h⟩ := bind_ok.1 h
  obtain ⟨hl,hd,hp,rfl⟩ := validatePipelineLoopConfig_ok hv
  cases h
  have he := (perm_cons_erase (d.topology.listed l hl)).length_eq
  rw [hd.erase_eq_filter,length_cons] at he
  have hn := length_pos_of_ne_nil hp
  refine ⟨addStages_nodup hs (nodup_singleton _),⟨l,hl,rfl⟩,?_,by omega,_,rfl,?_⟩
  · rw [length_append,he,length_singleton]
  · exact Nat.sub_add_cancel d.topology.range.1

/-- Whatever the agents reply, a turn that neither an error nor the limit of supersteps cuts short
runs the stages in their order, and then the last two again fewer than `max_loops` times. It ends
on a reply that asks for a revision only when the loop node has run `max_loops` times. -/
theorem turn_of_compilePipelineLoop (prims : Primitives) (d : FrozenGraphDefinition) (g : Graph)
    (answer : State → String) (messages : List String)
    (h : compilePipelineLoop prims d = .ok g) : Named g d.topology.order ∧
    (∃ l ∈ d.topology.loopNode, g.allSequential = d.topology.order.filter (· != l) ++ [l]) ∧
    ∃ k < d.topology.maxLoops, ∃ t, Run (Moves g answer) ⟨.mount 0,messages,0⟩
      (visits 0 d.topology.order.length ++
        (replicate k (visits (d.topology.order.length - 2) 2)).flatten) t ∧
      t.node = .completion ∧ t.loopCount = k + 1 ∧
      (reviewRequestsRevision t.messages → k + 1 = d.topology.maxLoops) := by
  obtain ⟨hd,hg,hl,hn,b,hb,hm⟩ := compilePipelineLoop_ok h
  obtain ⟨n,hn⟩ := Nat.exists_eq_add_of_le' hn
  rw [hn] at hl ⊢
  obtain ⟨s,hs,hr,hc⟩ := run_round (f := answer) (i := 0) (n := n + 1)
    (s := ⟨.mount 0,messages,0⟩) hb (by omega) rfl
  rw [Nat.zero_add] at hc
  obtain ⟨k,hk,t,ht,he,hk',hq⟩ := run_loop (f := answer) hb hl.symm hr (by rw [hc,Nat.add_comm])
  exact ⟨hd,hg,k,by omega,t,hs.append ht,he,by omega,fun e => by rw [hq e,hm]⟩

/-- A writer and a reviewer that can send the text back twice. -/
def reviewedDraft : FrozenGraphDefinition where
  team := ⟨"team",["writer","reviewer"],25⟩
  topology := ⟨["writer","reviewer"],some "reviewer",3,by decide,by decide⟩
  agents := ⟨[("writer",⟨"writer","coder"⟩),("reviewer",⟨"reviewer","reviewer"⟩)]⟩
  named := by decide

def draftNodes : List String :=
  [graphCompletionNode,"mount_writer","writer","mount_reviewer","reviewer"]

theorem turn_of_reviewedDraft : ∃ k < 3, ∃ t,
    Run (Moves ⟨draftNodes,["writer","reviewer"],some 2⟩ fun _ => "Revision required")
      ⟨.mount 0,["Draft"],0⟩ (visits 0 2 ++ (replicate k (visits 0 2)).flatten) t ∧
      t.loopCount = k + 1 := by
  obtain ⟨-,-,k,hk,t,ht,-,hc,-⟩ := turn_of_compilePipelineLoop StarGraph.plainPrimitives
    reviewedDraft ⟨draftNodes,_,_⟩ (fun _ => "Revision required") ["Draft"] rfl
  exact ⟨k,hk,t,ht,hc⟩

end VaultspecA2A.Pipelines
