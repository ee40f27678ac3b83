import VaultspecA2A.PhaseGates

/-!
# The revisions of a document phase

The author of a phase can be sent back by its reviewer and by a submission that is refused. Both
spend one counter of the phase. The reviewer counts its request and is then granted it while the
counter is within the budget; a refused submission is granted while the counter is within the budget
and is counted afterwards. An accepted submission, which arrives at the gate, sets the counter to 0.

The invariant is that the counter is at least the number of times the author was sent back since
the last arrival, and that this number is at most one above the budget.
-/
namespace VaultspecA2A.RevisionBudgets
open Runs Clarification PhaseGates List

/-- A step, and the node the thread stands at after it. -/
structure Visit where
  label : Label
  goto : Node

/-- The author of the phase is sent back by the reviewer or by a refused submission. -/
def Visit.sendsBack (phase : DocumentPhase) (visit : Visit) : Bool :=
  match visit.label with
  | .execute node _ =>
    (decide (node = .review phase) || decide (node = .submit phase)) &&
      decide (visit.goto = .writer phase)
  | _ => false

def Visit.arrives (phase : DocumentPhase) (visit : Visit) : Bool :=
  match visit.label with
  | .execute _ _ => decide (visit.goto = .gate phase)
  | _ => false

def Traced (digest : ClarificationResolution → String) (graph : ResearchGraph) (thread : Thread)
    (visit : Visit) (thread' : Thread) : Prop :=
  Move digest graph thread visit.label thread' ∧ thread'.node = visit.goto

/-- How often the author was sent back since the last arrival at the gate. -/
def sentBack (phase : DocumentPhase) (visits : List Visit) : ℕ := visits.foldl (fun n visit =>
      if visit.arrives phase then 0 else if visit.sendsBack phase then n + 1 else n) 0

lemma sentBack_snoc (ph : DocumentPhase) (vi : List Visit) (vs : Visit) : sentBack ph (vi ++ [vs]) =
    if vs.arrives ph then 0
    else if vs.sendsBack ph then sentBack ph vi + 1 else sentBack ph vi := by
  rw [sentBack,foldl_append]
  rfl

lemma sentBack_stretch (p : List Visit) (h : ∀ vs ∈ st, vs.arrives ph = false) :
    sentBack ph (p ++ st) = sentBack ph p + st.countP (Visit.sendsBack ph) := by
  induction st using List.reverseRecOn with
  | nil => simp
  | append_singleton st vs ih =>
    have hk := ih fun o ho => h o (mem_append_left _ ho)
    have hv : vs.arrives ph = false := h vs (by simp)
    rw [← append_assoc,sentBack_snoc,hv,if_neg Bool.false_ne_true,hk,countP_append,countP_singleton]
    split_ifs <;> omega

section
variable {di : ClarificationResolution → String} {graph g : ResearchGraph}
variable {state st : DocumentState} {node nd : Node}
variable {command co : Command} {phase ph own : DocumentPhase}

lemma value_eq_iff : own.value = ph.value ↔ own = ph := by
  cases own <;> cases ph <;> decide

lemma spent_merge
    (h : re.reviewRevisions = mergeReviewRevisions st.reviewRevisions [(own.value,n)]) :
    reviewRevisionsSpent re ph =
      if own = ph then n else reviewRevisionsSpent st ph := by
  unfold reviewRevisionsSpent
  rw [h,mergeReviewRevisions,singleton_append,find?_cons]
  by_cases ho : own = ph
  · simp [ho]
  · have hv : own.value ≠ ph.value := fun h => ho (value_eq_iff.1 h)
    have hk : (fun e : String × ℕ => decide (decide (e.1 ∉ [(own.value,n)].map Prod.fst) = true ∧
        decide (e.1 = ph.value) = true)) = fun e => decide (e.1 = ph.value) := by
      funext e
      by_cases he : e.1 = ph.value
      · simp [he,Ne.symm hv]
      · simp [he]
    rw [if_neg ho,decide_eq_false hv,find?_filter,hk]

inductive Counts (graph : ResearchGraph) (phase : DocumentPhase) (state : DocumentState)
    (node : Node) (command : Command) : Prop
  | arrives (goes : command.goto = .gate phase)
      (cleared : reviewRevisionsSpent command.state phase = 0)
  | sendsBack (back : node = .review phase ∨ node = .submit phase)
      (goes : command.goto = .writer phase)
      (spends : reviewRevisionsSpent command.state phase = reviewRevisionsSpent state phase + 1)
      (granted : reviewRevisionsSpent command.state phase ≤ graph.maxReviewRevisions + 1)
  | goesOn (elsewhere : command.goto ≠ .gate phase)
      (forwards : (node = .review phase ∨ node = .submit phase) → command.goto ≠ .writer phase)
      (keeps : reviewRevisionsSpent state phase ≤ reviewRevisionsSpent command.state phase)

lemma reviewRequestsRevision_snoc (ms : List String) (re : String) :
    reviewRequestsRevision (ms ++ [re]) = reviewRequestsRevision [re] := by
  rw [reviewRequestsRevision,reviewRequestsRevision,getLast?_concat]
  rfl

lemma spent_countReviewRevisions (re : String) :
    reviewRevisionsSpent (countReviewRevisions own st re) ph =
      if own = ph ∧ reviewRequestsRevision [re] = true
      then reviewRevisionsSpent st ph + 1 else reviewRevisionsSpent st ph := by
  unfold countReviewRevisions
  dsimp only
  by_cases ha : reviewRequestsRevision [re] = true
  · rw [if_pos ha,spent_merge rfl]
    by_cases ho : own = ph
    · simp [ho,ha]
    · simp [ho]
  · rw [if_neg ha]
    simp only [ha,Bool.false_eq_true,and_false,if_false]
    rfl

lemma countReviewRevisions_messages (re : String) :
    (countReviewRevisions own st re).messages = st.messages ++ [re] := by
  unfold countReviewRevisions
  dsimp only
  split_ifs <;> rfl

/-- After a review the author goes back exactly when a revision was asked for and the counter,
with this one, is within the budget. -/
lemma docReviewRouter_countReviewRevisions (re : String) :
    docReviewRouter g own (countReviewRevisions own st re) =
      if reviewRequestsRevision [re] = true ∧ reviewRevisionsSpent st own + 1 ≤ g.maxReviewRevisions
      then .writer own else .submit own := by
  unfold docReviewRouter revisionGranted
  rw [countReviewRevisions_messages,reviewRequestsRevision_snoc,spent_countReviewRevisions]
  by_cases ha : reviewRequestsRevision [re] = true
  · simp [ha]
  · simp [ha]

lemma review_counts (re : String) : Counts g ph st (.review own)
    ⟨docReviewRouter g own (countReviewRevisions own st re),countReviewRevisions own st re⟩ := by
  have hs : reviewRevisionsSpent (countReviewRevisions own st re) ph = _ :=
    spent_countReviewRevisions re
  rw [docReviewRouter_countReviewRevisions]
  by_cases ho : own = ph
  · subst ho
    split_ifs with hb
    · rw [if_pos ⟨rfl,hb.1⟩] at hs
      refine .sendsBack (.inl rfl) rfl hs ?_
      rw [hs]
      omega
    · refine .goesOn (by simp) (by simp) ?_
      rw [hs]
      split_ifs <;> omega
  · rw [if_neg fun h => ho h.1] at hs
    refine .goesOn ?_ ?_ hs.ge
    · split_ifs <;> simp
    · simp [ho]

lemma submit_counts (h : phaseSubmitNode g own st oc = .ok co) :
    Counts g ph st (.submit own) co := by
  cases oc with
  | error notes =>
    dsimp only [phaseSubmitNode] at h
    split_ifs at h with hgr
    cases h
    have hw : reviewRevisionsSpent st own ≤ g.maxReviewRevisions := by
      simpa [revisionGranted] using hgr
    by_cases ho : own = ph
    · subst ho
      refine .sendsBack (.inr rfl) rfl ?_ ?_
      · rw [spent_merge rfl,if_pos rfl]
      · rw [spent_merge rfl,if_pos rfl]
        omega
    · exact .goesOn (by simp) (by simp [ho]) ((spent_merge rfl).trans (if_neg ho)).ge
  | ok pri =>
    cases h
    by_cases ho : own = ph
    · refine .arrives (by rw [ho]) ?_
      rw [spent_merge rfl,if_pos ho]
    · exact .goesOn (by simpa using ho) (by simp) ((spent_merge rfl).trans (if_neg ho)).ge

lemma verdictCommand_revisions (ve notes : Option String) :
    (verdictCommand own st ve notes).state.reviewRevisions = st.reviewRevisions := by
  unfold verdictCommand
  split_ifs <;> rfl

lemma gate_revisions (h : runNode di g st sr (.gate own) ip = some co) :
    co.state.reviewRevisions = st.reviewRevisions := by
  cases ip with
  | nothing =>
    have hv := Sum.getRight?_eq_some_iff.1 h
    unfold phaseGateNode at hv
    split at hv
    · cases hv
      exact verdictCommand_revisions _ _
    · split at hv
      · cases hv
      · cases hv
        exact verdictCommand_revisions _ _
  | _ => cases h

lemma runNode_counts (h : runNode di g st sr nd ip = some co) : Counts g ph st nd co := by
  have hd := runNode_declared h
  -- all but the reviews and the submissions leave the counters alone
  have hk : co.state.reviewRevisions = st.reviewRevisions → (∀ own, nd ≠ .submit own) →
      (∀ own, nd ≠ .review own) → Counts g ph st nd co := by
    intro hsa hs hre
    refine .goesOn ?_ ?_ (by rw [reviewRevisionsSpent,reviewRevisionsSpent,hsa])
    · intro hga
      obtain ⟨_,hn,-⟩ := runNode_gate h hga
      exact hs ph hn
    · rintro (hn | hn)
      · exact (hre ph hn).elim
      · exact (hs ph hn).elim
  have hra := h
  unfold runNode at h
  split at h
  · obtain ⟨_,-,h⟩ := Option.bind_eq_some_iff.1 h
    obtain ⟨_,-,h⟩ := Option.bind_eq_some_iff.1 h
    cases h
    exact hk rfl (by simp) (by simp)
  · obtain ⟨_,-,rfl⟩ := Option.map_eq_some_iff.1 h
    exact hk rfl (by simp) (by simp)
  · cases h
    exact hk rfl (by simp) (by simp)
  · cases h
    exact hk rfl (by simp) (by simp)
  · cases h
    exact hk rfl (by simp) (by simp)
  · cases h
    exact review_counts _
  · rename_i own oc
    cases hs : phaseSubmitNode g own st oc with
    | error cn =>
      rw [hs] at h
      cases h
    | ok se =>
      rw [hs] at h
      cases h
      exact submit_counts hs
  · exact hk (gate_revisions hra) (by simp) (by simp)
  · cases h
    exact hk rfl (by simp) (by simp)
  · cases h

end

/-- The invariant: the counter covers what was sent back since the last arrival, this is at most
one above the budget, and at the gate the counter is 0. -/
structure Budgeted (graph : ResearchGraph) (phase : DocumentPhase) (thread : Thread)
    (visits : List Visit) : Prop where
  covered : sentBack phase visits ≤ reviewRevisionsSpent thread.state phase
  bounded : sentBack phase visits ≤ graph.maxReviewRevisions + 1
  cleared : thread.node = .gate phase → reviewRevisionsSpent thread.state phase = 0

/-- With a spent budget the phase ends within three nodes, whatever its author, its reviewer and
the submitter do: an accepted submission arrives at the gate, a refused one fails. -/
def Concludes (digest : ClarificationResolution → String) (graph : ResearchGraph)
    (phase : DocumentPhase) (thread : Thread) : Prop :=
  ∀ draft review, ∃ submitting, Run (Traced digest graph) thread
        [⟨.execute (.writer phase) (.reply draft),.review phase⟩,
          ⟨.execute (.review phase) (.reply review),.submit phase⟩] submitting ∧
      (∀ proposalId, ∃ parked, Traced digest graph submitting
        ⟨.execute (.submit phase) (.submission (.ok proposalId)),.gate phase⟩ parked) ∧
      ∀ notes, phaseSubmitNode graph phase submitting.state (.error notes) =
        .error ⟨phase,notes,reviewRevisionsSpent submitting.state phase⟩

section
variable {di : ClarificationResolution → String}
lemma move_execute (h : Move di g th (.execute nd ip) tr) : th.node = nd ∧ ∃ co,
    runNode di g th.state th.stored nd ip = some co ∧ tr = ⟨co.state,co.goto,[]⟩ := by
  generalize hl : Label.execute nd ip = l at h
  cases h with
  | execute hra =>
    cases hl
    exact ⟨rfl,_,hra,rfl⟩
  | _ => cases hl

lemma execute_move (co : Command) (hn : th.node = nd)
    (hra : runNode di g th.state th.stored nd ip = some co) :
    Move di g th (.execute nd ip) ⟨co.state,co.goto,[]⟩ := by
  subst hn
  exact .execute hra

lemma budgeted_move (h : Budgeted g ph th vi) (hm : Traced di g th vs tr) :
    Budgeted g ph tr (vi ++ [vs]) := by
  obtain ⟨hm,hgot⟩ := hm
  obtain ⟨l,go⟩ := vs
  have hq : Visit.arrives ph ⟨l,go⟩ = false → Visit.sendsBack ph ⟨l,go⟩ = false →
      sentBack ph (vi ++ [⟨l,go⟩]) = sentBack ph vi := by
    intro ha hb
    rw [sentBack_snoc,ha,hb]
    rfl
  cases hm with
  | ingest ip =>
    have hke : reviewRevisionsSpent (buildGraphInput th.state ip) ph =
        reviewRevisionsSpent th.state ph := by
      unfold buildGraphInput
      split_ifs <;> rfl
    refine ⟨?_,?_,fun hga => absurd hga entry_ne_gate⟩
    · rw [hq rfl rfl,hke]
      exact h.covered
    · rw [hq rfl rfl]
      exact h.bounded
  | resume value =>
    refine ⟨?_,?_,h.cleared⟩
    · rw [hq rfl rfl]
      exact h.covered
    · rw [hq rfl rfl]
      exact h.bounded
  | ask _ _ =>
    refine ⟨?_,?_,h.cleared⟩
    · rw [hq rfl rfl]
      exact h.covered
    · rw [hq rfl rfl]
      exact h.bounded
  | @execute ip co hra =>
    have hgo : co.goto = go := hgot
    have hcov := h.covered
    have hco : Counts g ph th.state th.node co := runNode_counts hra
    cases hco with
    | arrives ha hcl =>
      have hc : sentBack ph (vi ++ [⟨.execute th.node ip,go⟩]) = 0 := by
        rw [sentBack_snoc,if_pos]
        exact decide_eq_true (hgo.symm.trans ha)
      exact ⟨by rw [hc]; exact Nat.zero_le _,by rw [hc]; exact Nat.zero_le _,fun _ => hcl⟩
    | sendsBack hn hb hs hgr =>
      have hc : sentBack ph (vi ++ [⟨.execute th.node ip,go⟩]) = sentBack ph vi + 1 := by
        rw [sentBack_snoc,if_neg,if_pos]
        · simpa [Visit.sendsBack,← hgo,hb] using hn
        · simp [Visit.arrives,← hgo,hb]
      refine ⟨?_,?_,?_⟩
      · rw [hc,hs]
        omega
      · rw [hc]
        omega
      · intro hga
        rw [hb] at hga
        cases hga
    | goesOn hel hf hk =>
      have hc : sentBack ph (vi ++ [⟨.execute th.node ip,go⟩]) = sentBack ph vi := by
        refine hq ?_ ?_
        · exact decide_eq_false (hgo ▸ hel)
        · by_cases hb : co.goto = .writer ph
          · have hn := mt hf (not_not.2 hb)
            push Not at hn
            simp [Visit.sendsBack,hn]
          · simp [Visit.sendsBack,← hgo,hb]
      refine ⟨?_,?_,fun hga => absurd hga hel⟩
      · rw [hc]
        exact hcov.trans hk
      · rw [hc]
        exact h.bounded

lemma budgeted_run (hru : Run (Traced di g) ⟨st,.finished,[]⟩ vi th) : Budgeted g ph th vi := by
  have hb : Budgeted g ph th ([] ++ vi) :=
    hru.remembers (Budgeted g ph) (fun h hm => budgeted_move h hm)
      ⟨Nat.zero_le _,Nat.zero_le _,fun h => by cases h⟩
  simpa using hb

lemma concludes_of_spent (hn : th.node = .writer ph)
    (hs : g.maxReviewRevisions < reviewRevisionsSpent th.state ph) :
    Concludes di g ph th := by
  intro df rv
  let dr : DocumentState :=
    { th.state with messages := th.state.messages ++ [df] }
  let re := countReviewRevisions ph dr rv
  have hd : g.maxReviewRevisions < reviewRevisionsSpent dr ph := hs
  have hc : g.maxReviewRevisions < reviewRevisionsSpent re ph := by
    rw [spent_countReviewRevisions]
    split_ifs
    · exact Nat.lt_succ_of_lt hd
    · exact hd
  have hro : docReviewRouter g ph re = .submit ph := by
    rw [docReviewRouter_countReviewRevisions,if_neg]
    rintro ⟨-,hwi⟩
    omega
  have hre : ∀ notes, phaseSubmitNode g ph re (.error notes) =
      .error ⟨ph,notes,reviewRevisionsSpent re ph⟩ := by
    intro notes
    have hsp : revisionGranted true (reviewRevisionsSpent re ph) g.maxReviewRevisions = false := by
      simpa [revisionGranted] using hc
    dsimp only [phaseSubmitNode]
    rw [hsp,if_neg Bool.false_ne_true]
  have hw : Move di g th (.execute (.writer ph) (.reply df)) ⟨dr,.review ph,[]⟩ :=
    execute_move ⟨.review ph,dr⟩ hn rfl
  have hrev : Move di g ⟨dr,.review ph,[]⟩
      (.execute (.review ph) (.reply rv)) ⟨re,.submit ph,[]⟩ := by
    rw [← hro]
    exact execute_move ⟨docReviewRouter g ph re,re⟩ rfl rfl
  exact ⟨⟨re,.submit ph,[]⟩,.step ⟨hw,rfl⟩ (.single ⟨hrev,rfl⟩),
    fun pri => ⟨_,.execute rfl,rfl⟩,hre⟩

end

/-- The revisions of a phase in a run: the author is sent back at most one time more than the
budget between two arrivals at the gate, after which the phase concludes, and a verdict that asks
for changes starts with nothing spent. -/
structure RevisionsBounded (digest : ClarificationResolution → String) (graph : ResearchGraph)
    (phase : DocumentPhase) (visits : List Visit) (thread : Thread) : Prop where
  bounded : ∀ before stretch after, visits = before ++ stretch ++ after →
    (∀ visit ∈ stretch, visit.arrives phase = false) →
    stretch.countP (Visit.sendsBack phase) ≤ graph.maxReviewRevisions + 1
  concludes : ∀ before stretch, visits = before ++ stretch →
    (∀ visit ∈ stretch, visit.arrives phase = false) →
    stretch.countP (Visit.sendsBack phase) = graph.maxReviewRevisions + 1 →
    thread.node = .writer phase → Concludes digest graph phase thread
  restarts : ∀ input thread',
    Traced digest graph thread ⟨.execute (.gate phase) input,.writer phase⟩ thread' →
    reviewRevisionsSpent thread'.state phase = 0

/-- In every run of a research graph, under every revision budget and for every mix of review
verdicts and refused submissions, the revisions of each phase are bounded. -/
theorem revisions_bounded (digest : ClarificationResolution → String) (graph : ResearchGraph)
    (state : DocumentState) (phase : DocumentPhase) {visits : List Visit} {thread : Thread}
    (hrun : Run (Traced digest graph) ⟨state,.finished,[]⟩ visits thread) :
    RevisionsBounded digest graph phase visits thread := by
  have hb : Budgeted graph phase thread visits := budgeted_run hrun
  refine ⟨?_,?_,?_⟩
  · intro before stretch after hv hq
    rw [hv] at hrun
    obtain ⟨middle,hf,-⟩ := hrun.split
    have hm : Budgeted graph phase middle (before ++ stretch) := budgeted_run hf
    have hc := hm.bounded
    rw [sentBack_stretch before hq] at hc
    omega
  · intro before stretch hv hq hfu hn
    refine concludes_of_spent hn ?_
    have hco := hb.covered
    rw [hv,sentBack_stretch before hq,hfu] at hco
    omega
  · intro input thread' hmo
    obtain ⟨hn,command,hra,rfl⟩ := move_execute hmo.1
    rw [reviewRevisionsSpent,gate_revisions hra]
    exact hb.cleared hn

/-- A budget of 0 grants the author of the research one revision, after a refused submission. -/
theorem revisions_bounded_refused : ∃ visits thread,
    Run (Traced (fun _ => "") ⟨0,none⟩) ⟨emptyState,.finished,[]⟩ visits thread ∧
      thread.node = .writer .research ∧
      visits.countP (Visit.sendsBack .research) = 1 ∧
      RevisionsBounded (fun _ => "") ⟨0,none⟩ .research visits thread ∧
      Concludes (fun _ => "") ⟨0,none⟩ .research thread := by
  obtain ⟨thread,hru,hn⟩ : ∃ thread, Run (Traced (fun _ => "") ⟨0,none⟩)
      ⟨emptyState,.finished,[]⟩
      [⟨.ingest ⟨"run-1",["start"],true,none,[]⟩,.dispatch⟩,
        ⟨.execute .dispatch .nothing,.researchers⟩,
        ⟨.execute .researchers .nothing,.writer .research⟩,
        ⟨.execute (.writer .research) (.reply "a draft"),.review .research⟩,
        ⟨.execute (.review .research) (.reply "PASS"),.submit .research⟩,
        ⟨.execute (.submit .research) (.submission (.error ["a link"])),.writer .research⟩] thread ∧
      thread.node = .writer .research :=
    ⟨_,.step ⟨.ingest _,rfl⟩ (.step ⟨.execute rfl,rfl⟩ (.step ⟨.execute rfl,rfl⟩
      (.step ⟨.execute rfl,rfl⟩ (.step ⟨.execute rfl,rfl⟩ (.single ⟨.execute rfl,rfl⟩))))),rfl⟩
  have hb := revisions_bounded (fun _ => "") ⟨0,none⟩ emptyState .research hru
  exact ⟨_,thread,hru,hn,rfl,hb,hb.concludes [] _ rfl (by decide) rfl hn⟩

end VaultspecA2A.RevisionBudgets
