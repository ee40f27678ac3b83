import VaultspecA2A.StarGraph
import VaultspecA2A.ClarificationService

/-!
# The document phases of a research graph

A research graph writes three documents, one after the other: the research, the decision
and the plan. Each phase has a writer, a reviewer, a node that submits the document as a
proposal, and a gate where the run waits for the verdict on that proposal. The proposal of
the gate stands in one channel that all phases write, the last write being the one that
counts.

What a writer or a reviewer replies, what becomes of a submission, the resume values and
the new turns are inputs of the steps, and nothing is assumed about them. Resume values
are stored for the node that is running; it starts again from its beginning with all of
them. A node that raises leaves the thread where it was. The branches of the fan-out run
as one step, since the next node waits for all of them.

Of an answered questionnaire the turns it adds to the transcript are an input.
-/
namespace VaultspecA2A.PhaseGates
open Runs PyText PyValue Grounding Clarification ClarificationService List Option
open SupervisorRouting (appendValidationErrors mergeUniqueStrs)
open StarGraph (asStr namedRequestId parseApprovalVerdict awaitRequestScopedResume
  awaitRequestScopedResume_verdict verdictApproved graphCompletionNode)

inductive DocumentPhase
  | research
  | adr
  | plan
deriving DecidableEq, Repr

def DocumentPhase.pipelinePhase : DocumentPhase → PipelinePhase
  | research => .research
  | adr => .adr
  | plan => .plan

def DocumentPhase.value (phase : DocumentPhase) : String := phase.pipelinePhase.value

/-- The nodes; `researchers` stands for all branches of the fan-out. -/
inductive Node
  | clarificationRequest
  | clarificationGate
  | dispatch
  | researchers
  | writer (phase : DocumentPhase)
  | review (phase : DocumentPhase)
  | submit (phase : DocumentPhase)
  | gate (phase : DocumentPhase)
  | completion
  | finished
deriving DecidableEq, Repr

def Node.name : Node → String
  | clarificationRequest => "clarification_request"
  | clarificationGate => "clarification_gate"
  | dispatch => "research_dispatch"
  | researchers => "research_dispatch_researcher"
  | writer .research => "synthesis"
  | writer phase => phase.value ++ "_author"
  | review phase => phase.value ++ "_review"
  | submit phase => phase.value ++ "_submit"
  | gate phase => phase.value ++ "_gate"
  | completion => graphCompletionNode
  | finished => "__end__"

/-- What a preset decides of the graph. -/
structure ResearchGraph where
  maxReviewRevisions : ℕ
  clarification : Option DeclaredClarification

def ResearchGraph.entry (graph : ResearchGraph) : Node :=
  if graph.clarification.isSome then .clarificationRequest else .dispatch

def approvedTarget : DocumentPhase → Node
  | .research => .writer .adr
  | .adr => .writer .plan
  | .plan => .completion

/-- The edges and destinations the compiler declares. -/
def destinations : Node → List Node
  | .clarificationRequest => [.clarificationGate,.dispatch]
  | .clarificationGate => [.dispatch]
  | .dispatch => [.researchers]
  | .researchers => [.writer .research]
  | .writer phase => [.review phase]
  | .review phase => [.writer phase,.submit phase]
  | .submit phase => [.gate phase,.writer phase]
  | .gate phase => [approvedTarget phase,.writer phase]
  | .completion => [.finished]
  | .finished => []

/-- The channels the nodes read or write; a message is its content. -/
structure DocumentState extends ResearchChannels where
  threadId : String
  messages : List String
  next : Option String
  routingError : Option String
  activeFeature : Option String
  validationErrors : List String
  gatePhase : Option String
  gateVerdict : Option String
  gatePendingProposalId : Option String
  authoringProposalIds : List String
  reviewRevisions : List (String × ℕ)

def mergeReviewRevisions (existing new : List (String × ℕ)) : List (String × ℕ) :=
  new ++ existing.filter fun e => decide (e.1 ∉ new.map Prod.fst)

/-- The next node, and the channels once the node's update is merged. -/
structure Command where
  goto : Node
  state : DocumentState

def reviewRevisionSentinel : String := "REVISION REQUIRED"

def reviewRequestsRevision (messages : List String) : Bool :=
  match messages.getLast? with
  | none => false
  | some content => decide (reviewRevisionSentinel ∈ (splitlines content).map fun line =>
    upper (strip line))

def revisionGranted (revisionRequested : Bool) (spent budget : ℕ) : Bool :=
  revisionRequested && decide (spent ≤ budget)

def reviewRevisionsSpent (state : DocumentState) (phase : DocumentPhase) : ℕ :=
  ((state.reviewRevisions.find? fun e => decide (e.1 = phase.value)).map Prod.snd).getD 0

def docReviewRouter (graph : ResearchGraph) (phase : DocumentPhase) (state : DocumentState) :
    Node :=
  if revisionGranted (reviewRequestsRevision state.messages) (reviewRevisionsSpent state phase)
      graph.maxReviewRevisions then .writer phase
  else .submit phase

def countReviewRevisions (phase : DocumentPhase) (state : DocumentState) (reply : String) :
    DocumentState :=
  let reviewed := { state with messages := state.messages ++ [reply] }
  if reviewRequestsRevision [reply] then
    { reviewed with
      reviewRevisions := mergeReviewRevisions state.reviewRevisions
        [(phase.value,reviewRevisionsSpent state phase + 1)] }
  else reviewed

def verdictRejected : String := "rejected"
def verdictRequestChanges : String := "request_changes"

structure DocumentConformanceError where
  phase : DocumentPhase
  revisionNotes : List String
  attempts : ℕ
deriving DecidableEq, Repr

/-- The submitter refuses with notes for the writer, or names the proposal. -/
abbrev Submission := Except (List String) String

def phaseSubmitNode (graph : ResearchGraph) (phase : DocumentPhase) (state : DocumentState) :
    Submission → Except DocumentConformanceError Command
  | .error revisionNotes =>
    let spent := reviewRevisionsSpent state phase
    if revisionGranted true spent graph.maxReviewRevisions then
      .ok ⟨.writer phase,
        { state with
          next := some (Node.writer phase).name
          gatePhase := some phase.value
          gateVerdict := some verdictRequestChanges
          validationErrors := appendValidationErrors state.validationErrors revisionNotes
          reviewRevisions := mergeReviewRevisions state.reviewRevisions [(phase.value,spent + 1)] }⟩
    else .error ⟨phase,revisionNotes,spent⟩
  | .ok proposalId =>
    .ok ⟨.gate phase,
      { state with
        next := some (Node.gate phase).name
        gatePhase := some phase.value
        gatePendingProposalId := some proposalId
        authoringProposalIds := mergeUniqueStrs state.authoringProposalIds [proposalId]
        routingError := none
        reviewRevisions := mergeReviewRevisions state.reviewRevisions [(phase.value,0)] }⟩

structure DocumentApprovalPayload where
  phase : DocumentPhase
  proposalId : String
  feature : Option String
  requestId : String
deriving DecidableEq, Repr

def noProposalNote (phase : DocumentPhase) : String :=
  "Document phase " ++ quoted phase.value ++ " reached its gate with no committed " ++
    "proposal; resubmit it before a decision can be asked for."

def notApprovedNote (phase : DocumentPhase) (verdict : String) : String :=
  "Document phase " ++ quoted phase.value ++ " was not approved (verdict: " ++ verdict ++
    "); revise before resubmitting."

/-- The verdict that is recorded when the document is not approved. -/
def revisionVerdict (verdict : Option String) : String :=
  if verdict = some verdictRequestChanges then verdictRequestChanges else verdictRejected

def verdictCommand (phase : DocumentPhase) (state : DocumentState)
    (verdict notes : Option String) : Command :=
  if verdict = some verdictApproved then
    ⟨approvedTarget phase,
      { state with
        next := some (approvedTarget phase).name
        gatePhase := some phase.value
        gateVerdict := some verdictApproved
        routingError := none
        validationErrors := appendValidationErrors state.validationErrors [] }⟩
  else
    let recorded := revisionVerdict verdict
    let note := (notes.filter fun text => !text.isEmpty).getD (notApprovedNote phase recorded)
    ⟨.writer phase,
      { state with
        next := some (Node.writer phase).name
        gatePhase := some phase.value
        gateVerdict := some recorded
        validationErrors := appendValidationErrors state.validationErrors [note] }⟩

/-- A run of the gate with the values stored for it: it waits under its payload, or
routes. -/
def phaseGateNode (phase : DocumentPhase) (state : DocumentState) (stored : List Value) :
    DocumentApprovalPayload ⊕ Command :=
  match state.gatePendingProposalId.filter fun id => !id.isEmpty with
  | none =>
    .inr (verdictCommand phase state (some verdictRejected) (some (noProposalNote phase)))
  | some proposalId =>
    match awaitRequestScopedResume stored proposalId parseApprovalVerdict with
    | none => .inl ⟨phase,proposalId,state.activeFeature,proposalId⟩
    | some decision => .inr (verdictCommand phase state decision.verdict decision.notes)

def clarificationCommand (graph : ResearchGraph) (state : DocumentState) : Option Command := do
  let declared ← graph.clarification
  let channels ← clarificationRequestNode declared state.threadId state.toResearchChannels
  some ⟨.clarificationGate,
    { state with
      toResearchChannels := channels
      next := some Node.clarificationGate.name
      routingError := none }⟩

/-- The gate of the questionnaire; with no request committed it goes on at once. -/
def clarifiedChannels (digest : ClarificationResolution → String) (channels : ResearchChannels)
    (stored : List Value) : Option ResearchChannels :=
  match channels.clarificationRequest with
  | none => some channels
  | some _ => stored.findSome? (clarificationGateNode digest channels)

def clarifiedCommand (digest : ClarificationResolution → String) (state : DocumentState)
    (stored : List Value) (turns : List String) : Option Command :=
  (clarifiedChannels digest state.toResearchChannels stored).map fun channels =>
    ⟨.dispatch,
      { state with
        toResearchChannels := channels
        messages := state.messages ++ turns
        next := some Node.dispatch.name }⟩

inductive Input
  | nothing
  | reply (content : String)
  | turns (contents : List String)
  | submission (outcome : Submission)

def runNode (digest : ClarificationResolution → String) (graph : ResearchGraph)
    (state : DocumentState) (stored : List Value) : Node → Input → Option Command
  | .clarificationRequest, .nothing => clarificationCommand graph state
  | .clarificationGate, .turns contents => clarifiedCommand digest state stored contents
  | .dispatch, .nothing => some ⟨.researchers,state⟩
  | .researchers, .nothing => some ⟨.writer .research,state⟩
  | .writer phase, .reply content =>
    some ⟨.review phase,{ state with messages := state.messages ++ [content] }⟩
  | .review phase, .reply content =>
    let reviewed := countReviewRevisions phase state content
    some ⟨docReviewRouter graph phase reviewed,reviewed⟩
  | .submit phase, .submission outcome => (phaseSubmitNode graph phase state outcome).toOption
  | .gate phase, .nothing => (phaseGateNode phase state stored).getRight?
  | .completion, .nothing => some ⟨.finished,state⟩
  | _, _ => none

structure TurnInput where
  threadId : String
  messages : List String
  isFirstIngest : Bool
  activeFeature : Option String
  validationErrors : List String

def buildGraphInput (state : DocumentState) (input : TurnInput) : DocumentState :=
  let turn :=
    { state with threadId := input.threadId, messages := state.messages ++ input.messages }
  if input.isFirstIngest then
    { turn with
      activeFeature := input.activeFeature
      validationErrors := appendValidationErrors state.validationErrors input.validationErrors }
  else turn

structure Thread where
  state : DocumentState
  node : Node
  stored : List Value

inductive Label
  | ingest (input : TurnInput)
  | resume (value : Value)
  | ask (requestId : String)
  | execute (node : Node) (input : Input)

/-- One step. A new turn can start wherever the thread stands, and a waiting gate can run
again without a new value. -/
inductive Move (digest : ClarificationResolution → String) (graph : ResearchGraph) :
    Thread → Label → Thread → Prop
  | ingest {thread : Thread} (input : TurnInput) :
      Move digest graph thread (.ingest input) ⟨buildGraphInput thread.state input,graph.entry,[]⟩
  | resume {thread : Thread} (value : Value) :
      Move digest graph thread (.resume value)
        ⟨thread.state,thread.node,thread.stored ++ [value]⟩
  | ask {thread : Thread} {phase : DocumentPhase} {payload : DocumentApprovalPayload}
      (parked : thread.node = .gate phase)
      (waits : phaseGateNode phase thread.state thread.stored = .inl payload) :
      Move digest graph thread (.ask payload.requestId) thread
  | execute {thread : Thread} {input : Input} {command : Command}
      (ran : runNode digest graph thread.state thread.stored thread.node input = some command) :
      Move digest graph thread (.execute thread.node input) ⟨command.state,command.goto,[]⟩

/-- The label of a thread that stays where it stands. -/
def Label.waits : Label → Bool
  | .resume _ => true
  | .ask _ => true
  | _ => false

def SubmittedLast (phase : DocumentPhase) (proposalId : String) (since history : List Label) :
    Prop :=
  ∃ before, history = before ++ .execute (.submit phase) (.submission (.ok proposalId)) :: since ∧
    ∀ label ∈ since, label.waits = true

/-- The gate was resumed with an approval of the proposal the latest submission of its
phase committed. -/
def Opened (phase : DocumentPhase) (history : List Label) : Prop :=
  ∃ proposalId since value, SubmittedLast phase proposalId since history ∧
    .resume value ∈ since ∧ namedRequestId value = some proposalId ∧
    (value.get "verdict").bind asStr = some verdictApproved

variable {digest di : ClarificationResolution → String} {graph g : ResearchGraph} {state st : DocumentState}
variable {phase ph : DocumentPhase}

lemma verdictCommand_declared (ve notes : Option String) :
    (verdictCommand ph st ve notes).goto ∈ destinations (.gate ph) := by
  unfold verdictCommand
  split_ifs <;> simp [destinations]

lemma runNode_declared (h : runNode di g st sr nd ip = some co) : co.goto ∈ destinations nd := by
  unfold runNode at h
  split at h
  · obtain ⟨_,-,h⟩ := bind_eq_some_iff.1 h
    obtain ⟨_,-,h⟩ := bind_eq_some_iff.1 h
    cases h
    simp [destinations]
  · obtain ⟨_,-,rfl⟩ := map_eq_some_iff.1 h
    simp [destinations]
  · cases h
    simp [destinations]
  · cases h
    simp [destinations]
  · cases h
    simp [destinations]
  · cases h
    dsimp only [docReviewRouter]
    split_ifs <;> simp [destinations]
  · rename_i ph oc
    cases oc with
    | error notes =>
      dsimp only [phaseSubmitNode] at h
      split_ifs at h <;> cases h
      simp [destinations]
    | ok pri =>
      cases h
      simp [destinations]
  · rename_i ph
    unfold phaseGateNode at h
    split at h
    · cases h
      exact verdictCommand_declared _ _
    · split at h
      · cases h
      · cases h
        exact verdictCommand_declared _ _
  · cases h
    simp [destinations]
  · cases h

lemma runNode_gate (h : runNode di g st sr nd ip = some co) (hga : co.goto = .gate ph) :
    ∃ pri, nd = .submit ph ∧ ip = .submission (.ok pri) ∧
      co.state.gatePendingProposalId = some pri := by
  have hd := runNode_declared h
  rw [hga] at hd
  obtain rfl : nd = .submit ph := by
    cases nd with
    | gate o => cases o <;> simp [destinations,approvedTarget] at hd
    | _ => simp_all [destinations]
  cases ip with
  | submission oc =>
    cases oc with
    | error notes =>
      dsimp only [runNode,phaseSubmitNode] at h
      split_ifs at h <;> cases h
      cases hga
    | ok pri =>
      cases h
      exact ⟨pri,rfl,rfl,rfl⟩
  | _ => cases h

lemma verdictCommand_forward (h : (verdictCommand ph st ve notes).goto = approvedTarget ph) :
    ve = some verdictApproved := by
  unfold verdictCommand at h
  split_ifs at h with ha
  · exact ha
  · cases ph <;> cases h

lemma phaseGateNode_forward (h : phaseGateNode ph st sr = .inr co)
    (hf : co.goto = approvedTarget ph) :
    ∃ pri, st.gatePendingProposalId = some pri ∧ ∃ value ∈ sr, namedRequestId value = some pri ∧
        (value.get "verdict").bind asStr = some verdictApproved := by
  unfold phaseGateNode at h
  split at h
  · cases h
    have ha := verdictCommand_forward hf
    exact absurd ha (by decide)
  · rename_i pri hp
    split at h
    · cases h
    · rename_i d han
      cases h
      obtain ⟨value,hv,hn,hve⟩ := awaitRequestScopedResume_verdict han
      have ha := verdictCommand_forward hf
      exact ⟨pri,(filter_eq_some_iff.1 hp).1,value,hv,hn,hve.symm.trans ha⟩

/-- A thread at a gate has waited there since the latest submission of the phase, the
proposal it reads is the one that was committed, and its values were stored since. -/
def Committed (thread : Thread) (history : List Label) : Prop :=
  ∀ phase, thread.node = .gate phase →
    ∃ proposalId since, SubmittedLast phase proposalId since history ∧
      thread.state.gatePendingProposalId = some proposalId ∧
      ∀ value ∈ thread.stored, .resume value ∈ since

lemma SubmittedLast.wait (h : SubmittedLast ph pri si lg) (hw : l.waits = true) :
    SubmittedLast ph pri (si ++ [l]) (lg ++ [l]) := by
  obtain ⟨p,rfl,hs⟩ := h
  refine ⟨p,by simp,?_⟩
  intro o ho
  rcases mem_append.1 ho with hold | hn
  · exact hs o hold
  · rw [mem_singleton.1 hn]
    exact hw

lemma entry_ne_gate : g.entry ≠ .gate ph := by
  unfold ResearchGraph.entry
  split_ifs <;> simp

lemma committed_move (h : Committed th lg) (hm : Move di g th l tr) : Committed tr (lg ++ [l]) := by
  intro ph hga
  cases hm with
  | ingest ip => exact absurd hga entry_ne_gate
  | resume value =>
    obtain ⟨pri,si,hl,hp,hs⟩ := h ph hga
    refine ⟨pri,si ++ [.resume value],hl.wait rfl,hp,?_⟩
    intro held hh
    rcases mem_append.1 hh with hold | hn
    · exact mem_append_left _ (hs held hold)
    · rw [mem_singleton.1 hn]
      simp
  | ask _ _ =>
    obtain ⟨pri,si,hl,hp,hs⟩ := h ph hga
    exact ⟨pri,_,hl.wait rfl,hp,fun value hv =>
      mem_append_left _ (hs value hv)⟩
  | execute hra =>
    obtain ⟨pri,hno,rfl,hp⟩ := runNode_gate hra hga
    rw [hno]
    exact ⟨pri,[],⟨lg,rfl,by simp⟩,hp,by simp⟩

lemma committed_run (hru : Run (Move di g) ⟨st,.finished,[]⟩ ls th) : Committed th ls := by
  have hc : Committed th ([] ++ ls) :=
    hru.remembers Committed (fun h hm => committed_move h hm) fun _ h => by cases h
  simpa using hc

lemma move_forward (hga : th.node = .gate ph) (hm : Move di g th l tr)
    (hf : tr.node = approvedTarget ph) :
    ∃ co, phaseGateNode ph th.state th.stored = .inr co ∧ co.goto = approvedTarget ph := by
  cases hm with
  | ingest ip =>
    have hen : g.entry ≠ approvedTarget ph := by
      unfold ResearchGraph.entry
      split_ifs <;> cases ph <;> simp [approvedTarget]
    exact absurd hf hen
  | resume value =>
    have hs : th.node = approvedTarget ph := hf
    rw [hga] at hs
    cases ph <;> cases hs
  | ask _ _ =>
    rw [hga] at hf
    cases ph <;> cases hf
  | @execute ip co hra =>
    rw [hga] at hra
    cases ip with
    | nothing =>
      refine ⟨co,?_,hf⟩
      exact Sum.getRight?_eq_some_iff.1 hra
    | _ => cases hra

lemma opened_of_move (h : Committed th lg) (hga : th.node = .gate ph) (hm : Move di g th l tr)
    (hf : tr.node = approvedTarget ph) : Opened ph lg := by
  obtain ⟨co,hno,hgo⟩ := move_forward hga hm hf
  obtain ⟨pri,hp,value,hv,hn,hve⟩ := phaseGateNode_forward hno hgo
  obtain ⟨cm,si,hl,hc,hs⟩ := h ph hga
  cases hp.symm.trans hc
  exact ⟨pri,si,value,hl,hs value hv,hn,hve⟩

/-- In every run, when a document phase is left forwards, its gate was resumed with an
approved verdict that names the very proposal which the latest submission of this phase
committed. -/
theorem phase_left_approved (digest : ClarificationResolution → String) (graph : ResearchGraph)
    (state : DocumentState) (phase : DocumentPhase) {labels : List Label} {label : Label}
    {thread thread' : Thread}
    (hrun : Run (Move digest graph) ⟨state,.finished,[]⟩ labels thread)
    (hgate : thread.node = .gate phase) (hmove : Move digest graph thread label thread')
    (hforward : thread'.node = approvedTarget phase) : Opened phase labels :=
  opened_of_move (committed_run hrun) hgate hmove hforward

def emptyState : DocumentState where
  clarificationRequest := none
  clarificationResolutionReceipts := []
  threadId := ""
  messages := []
  next := none
  routingError := none
  activeFeature := none
  validationErrors := []
  gatePhase := none
  gateVerdict := none
  gatePendingProposalId := none
  authoringProposalIds := []
  reviewRevisions := []

def plainGraph : ResearchGraph := ⟨3,none⟩

def verdictOn (proposalId verdict : String) : Value :=
  .dict [(.str "verdict",.str verdict),(.str "request_id",.str proposalId)]

/-- A first turn up to the gate of its research, with a verdict on another proposal and one
on its own. -/
def firstGate : List Label := [.ingest ⟨"run-1",["start"],true,none,[]⟩,.execute .dispatch .nothing,
    .execute .researchers .nothing,.execute (.writer .research) (.reply "a draft"),
    .execute (.review .research) (.reply "PASS"),
    .execute (.submit .research) (.submission (.ok "proposal-1")),
    .resume (verdictOn "proposal-0" "approved"),.ask "proposal-1",
    .resume (verdictOn "proposal-1" "approved")]

theorem phase_left_approved_research :
    ∃ thread thread', Run (Move (fun _ => "") plainGraph) ⟨emptyState,.finished,[]⟩ firstGate
        thread ∧ thread.node = .gate .research ∧
      Move (fun _ => "") plainGraph thread (.execute thread.node .nothing) thread' ∧
      thread'.node = .writer .adr ∧ Opened .research firstGate := by
  have hga : ∃ thread, Run (Move (fun _ => "") plainGraph) ⟨emptyState,.finished,[]⟩
        firstGate thread ∧ thread.node = .gate .research ∧
      (runNode (fun _ => "") plainGraph thread.state thread.stored thread.node .nothing).map
        Command.goto = some (.writer .adr) :=
    ⟨_,.step (.ingest _) (.step (.execute rfl) (.step (.execute rfl) (.step (.execute rfl)
      (.step (.execute rfl) (.step (.execute rfl) (.step (.resume _) (.step
        (@Move.ask _ _ _ .research ⟨.research,"proposal-1",none,"proposal-1"⟩ rfl rfl)
        (.single (.resume _))))))))),rfl,rfl⟩
  obtain ⟨thread,hru,hn,hgo⟩ := hga
  obtain ⟨command,hra,hf⟩ := map_eq_some_iff.1 hgo
  have hm := Move.execute hra
  exact ⟨thread,_,hru,hn,hm,hf,phase_left_approved _ plainGraph emptyState .research hru hn hm hf⟩

end VaultspecA2A.PhaseGates
