import VaultspecA2A.DocumentSubmitter

/-!
# The revisions of a document

A document that was not approved goes back to its author, and the next submission has to make a new
proposal: the engine answers a key it has seen with the proposal it made under it. The revision in
the keys is counted from the transcript, one for each message of the phase's author. A blank message
is not counted. After a turn of the author that left nothing but a blank message the next submission
therefore has the keys of the one before, and asks again for the verdict that was given.

The transcript is what the steps of a run add to it, message by message.
-/
namespace VaultspecA2A.ProposalRevisions
open Runs PyText PyValue Clarification PhaseGates DocumentSubmitter IdempotencyKeys List


def messagesOf : Label → List Message
  | .ingest input => input.messages.map (Message.mk none)
  | .execute .clarificationGate (.turns contents) => contents.map (Message.mk none)
  | .execute (.writer phase) (.reply content) => [⟨some (Node.writer phase).name,content⟩]
  | .execute (.review phase) (.reply content) => [⟨some (Node.review phase).name,content⟩]
  | _ => []

def transcript (history : List Label) : List Message := history.flatMap messagesOf

section
variable {digest : ClarificationResolution → String}
end

def authorTurn (phase : DocumentPhase) : Label → Bool
  | .execute (.writer author) (.reply _) => decide (author = phase)
  | _ => false

/-- A turn of the phase's author that left a message which is not blank. -/
def authored (phase : DocumentPhase) : Label → Bool
  | .execute (.writer author) (.reply content) => decide (author = phase) && !isBlank content
  | _ => false

variable {phase ph : DocumentPhase} {between be : List Label}

lemma authorTurn_of_authored (h : authored ph l = true) : authorTurn ph l = true := by
  unfold authored at h
  split at h
  · exact (Bool.and_eq_true_iff.1 h).1
  · cases h

lemma writer_name_eq :
    (Node.writer au).name = (phaseAuthoringSpec ph).writerMessageName ↔ au = ph := by
  cases au <;> cases ph <;> decide

lemma review_name_ne : (Node.review re).name ≠ (phaseAuthoringSpec ph).writerMessageName := by
  cases re <;> cases ph <;> decide

lemma authoredBodies_unnamed (co : List String) (wr : String) :
    authoredBodies (co.map (Message.mk none)) wr = [] := by
  simp [authoredBodies]

lemma authoredBodies_messagesOf :
    (authoredBodies (messagesOf l) (phaseAuthoringSpec ph).writerMessageName).length =
      if authored ph l then 1 else 0 := by
  unfold messagesOf authored
  split
  · simp [authoredBodies_unnamed]
  · simp [authoredBodies_unnamed]
  · rename_i au co
    by_cases ha : au = ph <;> by_cases hb : isBlank co = true <;>
      simp [authoredBodies,writer_name_eq,ha,hb]
  · simp [authoredBodies,review_name_ne]
  · rename_i hw _
    split
    · exact (hw _ _ rfl).elim
    · rfl

/-- The revision of a submission is the number of turns of the author that were not blank. -/
lemma revision_transcript :
    (authoredBodies (transcript lg) (phaseAuthoringSpec ph).writerMessageName).length =
      lg.countP (authored ph) := by
  induction lg with
  | nil => rfl
  | cons l lg ih =>
    have hre : transcript (l :: lg) = messagesOf l ++ transcript lg := flatMap_cons
    rw [hre,authoredBodies,filterMap_append,length_append,countP_cons]
    change (authoredBodies _ _).length + (authoredBodies _ _).length = _
    rw [ih,authoredBodies_messagesOf,Nat.add_comm]

/-- What a submission takes from outside, apart from the transcript. -/
structure Attempt where
  activeFeature : Option String
  researchFindings : Value
  held : HeldTokens
  replies : EngineReplies

def submitAfter (submitter : Submitter) (threadId : String) (phase : DocumentPhase)
    (history : List Label) (attempt : Attempt) : Submitting String :=
  submitter.call ⟨threadId,attempt.activeFeature,transcript history,attempt.researchFindings⟩ phase
    attempt.held attempt.replies

/-- The submission created and submitted its proposal under these keys. -/
structure UsesKeys (sent : List EngineCommand) (proposalKey submitKey : String) : Prop where
  created : ∃ sessionId changesetId summary operations,
    .createProposal sessionId changesetId summary operations proposalKey ∈ sent
  submitted : ∃ changesetId expectedRevision summary,
    .submitForReview changesetId expectedRevision summary submitKey ∈ sent

/-- The digest tells the revisions of a phase apart, up to a number of revisions. -/
def TellsApart (sha256Hex : String → String) (threadId : String) (phase : DocumentPhase)
    (revisions : ℕ) : Prop :=
  ∀ command ∈ ["create_proposal","submit"], ∀ m ≤ revisions, ∀ n ≤ revisions,
    sha256Hex (keyMaterial [threadId,phase.value,command,toString m]) =
        sha256Hex (keyMaterial [threadId,phase.value,command,toString n]) →
      keyMaterial [threadId,phase.value,command,toString m] =
        keyMaterial [threadId,phase.value,command,toString n]

section
variable {su : Submitter} {tid co key ke : String}
variable {m n re : ℕ}

lemma keyMaterial_revision_inj (h : keyMaterial [tid,ph.value,co,toString m] =
    keyMaterial [tid,ph.value,co,toString n]) : m = n := by
  have hm : ∀ k : ℕ, keyMaterial [tid,ph.value,co,toString k] =
      tid ++ "\x1f" ++ ph.value ++ "\x1f" ++ co ++ "\x1f" ++ toString k :=
    fun _ => rfl
  rw [hm,hm] at h
  exact decimal_inj (append_right_inj h)

lemma revisionKey_eq_iff (ha : TellsApart su.sha256Hex tid ph re)
    (hc : co ∈ ["create_proposal","submit"]) (hm : m ≤ re) (hn : n ≤ re)
    (hk : su.revisionKey tid ph co m = .ok key)
    (hk' : su.revisionKey tid ph co n = .ok ke) :
    key = ke ↔ m = n := by
  rw [deriveIdempotencyKey_ok hk,deriveIdempotencyKey_ok hk']
  constructor
  · intro h
    exact keyMaterial_revision_inj (ha co hc m hm n hn (append_right_inj h))
  · rintro rfl
    rfl

/-- The key of a later submission is another one exactly when a turn of the author between them was
not blank. -/
lemma revisionKey_after (ha : TellsApart su.sha256Hex tid ph (p ++ be).length)
    (hc : co ∈ ["create_proposal","submit"])
    (hk : su.revisionKey tid ph co (authoredBodies (transcript p)
      (phaseAuthoringSpec ph).writerMessageName).length = .ok key)
    (hk' : su.revisionKey tid ph co (authoredBodies (transcript (p ++ be))
        (phaseAuthoringSpec ph).writerMessageName).length = .ok ke) :
    key = ke ↔ ∀ l ∈ be, authored ph l = false := by
  rw [revision_transcript] at hk hk'
  have hco : (p ++ be).countP (authored ph) =
      p.countP (authored ph) + be.countP (authored ph) := countP_append
  have hl : (p ++ be).countP (authored ph) ≤ (p ++ be).length := countP_le_length
  rw [revisionKey_eq_iff ha hc (by omega) hl hk hk',hco,Nat.left_eq_add,countP_eq_zero]
  simp

end

lemma blank_turns_iff : ((∀ l ∈ be, authored ph l = false) ↔ ∀ l ∈ be, authorTurn ph l = false) ↔
    ((∃ l ∈ be, authorTurn ph l = true) → ∃ l ∈ be, authored ph l = true) := by
  have ht : (∃ l ∈ be, authored ph l = true) → ∃ l ∈ be, authorTurn ph l = true := by
    rintro ⟨l,hl,ha⟩
    exact ⟨l,hl,authorTurn_of_authored ha⟩
  have hb : (∀ l ∈ be, authored ph l = false) ↔ ¬ ∃ l ∈ be, authored ph l = true := by simp
  have hs : (∀ l ∈ be, authorTurn ph l = false) ↔ ¬ ∃ l ∈ be, authorTurn ph l = true := by simp
  rw [hb,hs,not_iff_not]
  exact ⟨fun h => h.2,fun h => ⟨ht,h⟩⟩

/-- Two submissions of a phase in one run have the same keys exactly when no turn of its author
between them was not blank. That they have the same keys exactly when no turn of its author lies
between them is therefore the case exactly when there is none, or one that is not blank. -/
theorem same_keys_iff {submitter : Submitter} {threadId : String} {phase : DocumentPhase}
    {before between : List Label} {first second : Attempt}
    {proposalKey submitKey proposalKey' submitKey' : String}
    (hapart : TellsApart submitter.sha256Hex threadId phase (before ++ between).length)
    (hfirst : UsesKeys (submitAfter submitter threadId phase before first).sent proposalKey submitKey)
    (hsecond : UsesKeys (submitAfter submitter threadId phase (before ++ between) second).sent
      proposalKey' submitKey') :
    ((proposalKey = proposalKey' ↔ ∀ label ∈ between, authorTurn phase label = false) ∧
        (submitKey = submitKey' ↔ ∀ label ∈ between, authorTurn phase label = false)) ↔
      ((∃ label ∈ between, authorTurn phase label = true) →
        ∃ label ∈ between, authored phase label = true) := by
  obtain ⟨⟨_,_,_,_,hc⟩,⟨_,_,_,hsu⟩⟩ := hfirst
  obtain ⟨⟨_,_,_,_,hc'⟩,⟨_,_,_,hs'⟩⟩ := hsecond
  have hp := revisionKey_after hapart (by simp) (call_keyed hc) (call_keyed hc')
  have hs := revisionKey_after hapart (by simp) (call_keyed hsu) (call_keyed hs')
  rw [hp,hs,and_self,blank_turns_iff]

/-- A submitter whose digest is the text itself, and a vault that accepts every document. -/
def plainSubmitter : Submitter where
  projectScope := "/project"
  sha256Hex := id
  isWord := Char.isAlphanum
  splitFrontmatter := fun body => (some "",body)
  coreCheckNotes := fun _ _ => []

def acceptedAttempt : Attempt where
  activeFeature := some "search"
  researchFindings := .list []
  held := ⟨some "bearer",some "token"⟩
  replies :=
    { session := .received (.dict [(.str "session_id",.str "session-1")])
      snapshot := none
      created := .received (.dict [(.str "changeset_revision",.str "revision-1")])
      submitted := .received (.dict [(.str "proposal_id",.str "proposal-1")]) }

def firstResearch : List Label :=
  [.ingest ⟨"run-1",["start"],true,some "search",[]⟩,.execute .dispatch .nothing,
    .execute .researchers .nothing,
    .execute (.writer .research) (.reply "---\ntags: a"),
    .execute (.review .research) (.reply "PASS")]

/-- The submission, its rejection and another turn of the author, up to the next submission. -/
def rejectedResearch (reply : String) : List Label :=
  [.execute (.submit .research) (.submission (.ok "proposal-1")),
    .resume (verdictOn "proposal-1" "rejected"),.execute (.gate .research) .nothing,
    .execute (.writer .research) (.reply reply),.execute (.review .research) (.reply "PASS")]

def redraftedResearch : List Label := rejectedResearch "---\ntags: b"

/-- After a rejection and a new draft the keys are new. -/
theorem same_keys_iff_redrafted : ∃ proposalKey submitKey proposalKey' submitKey',
    UsesKeys (submitAfter plainSubmitter "run-1" .research firstResearch acceptedAttempt).sent
      proposalKey submitKey ∧
    UsesKeys (submitAfter plainSubmitter "run-1" .research (firstResearch ++ redraftedResearch)
      acceptedAttempt).sent proposalKey' submitKey' ∧
    proposalKey ≠ proposalKey' ∧ submitKey ≠ submitKey' := by
  obtain ⟨proposalKey,submitKey,hf⟩ : ∃ proposalKey submitKey, UsesKeys (submitAfter
      plainSubmitter "run-1" .research firstResearch acceptedAttempt).sent proposalKey submitKey :=
    ⟨_,_,⟨_,_,_,_,.tail _ (.head _)⟩,⟨_,_,_,.tail _ (.tail _ (.head _))⟩⟩
  obtain ⟨proposalKey',submitKey',hs⟩ : ∃ proposalKey submitKey, UsesKeys (submitAfter
      plainSubmitter "run-1" .research (firstResearch ++ redraftedResearch)
        acceptedAttempt).sent proposalKey submitKey :=
    ⟨_,_,⟨_,_,_,_,.tail _ (.head _)⟩,⟨_,_,_,.tail _ (.tail _ (.head _))⟩⟩
  have ha : TellsApart plainSubmitter.sha256Hex "run-1" .research
      (firstResearch ++ redraftedResearch).length := fun _ _ _ _ _ _ h => h
  obtain ⟨hp,hsu⟩ := (same_keys_iff ha hf hs).2
    fun _ => ⟨_,.tail _ (.tail _ (.tail _ (.head _))),rfl⟩
  have ht : ¬ ∀ label ∈ redraftedResearch, authorTurn .research label = false :=
    fun h => Bool.false_ne_true (h _ (.tail _ (.tail _ (.tail _ (.head _))))).symm
  exact ⟨_,_,_,_,hf,hs,mt hp.1 ht,mt hsu.1 ht⟩

/-- After a rejection and a blank turn of the author the rejected proposal is submitted again. -/
theorem blank_turn_keeps_keys :
    (∃ thread, Run (Move (fun _ => "") plainGraph) ⟨emptyState,.finished,[]⟩
      (firstResearch ++ rejectedResearch "") thread ∧ thread.node = .submit .research) ∧
    (∃ label ∈ rejectedResearch "", authorTurn .research label = true) ∧
    ∃ proposalKey submitKey,
      UsesKeys (submitAfter plainSubmitter "run-1" .research firstResearch acceptedAttempt).sent
        proposalKey submitKey ∧
      UsesKeys (submitAfter plainSubmitter "run-1" .research (firstResearch ++ rejectedResearch "")
        acceptedAttempt).sent proposalKey submitKey := by
  have hru : ∃ thread, Run (Move (fun _ => "") plainGraph) ⟨emptyState,.finished,[]⟩
      (firstResearch ++ rejectedResearch "") thread ∧ thread.node = .submit .research :=
    ⟨_,.step (.ingest _) <| .step (.execute rfl) <| .step (.execute rfl) <|
      .step (.execute rfl) <| .step (.execute rfl) <| .step (.execute rfl) <|
      .step (.resume _) <| .step (.execute rfl) <| .step (.execute rfl) <|
      .single (.execute rfl),rfl⟩
  exact ⟨hru,⟨_,.tail _ (.tail _ (.tail _ (.head _))),rfl⟩,_,_,
    ⟨⟨_,_,_,_,.tail _ (.head _)⟩,⟨_,_,_,.tail _ (.tail _ (.head _))⟩⟩,
    ⟨⟨_,_,_,_,.tail _ (.head _)⟩,⟨_,_,_,.tail _ (.tail _ (.head _))⟩⟩⟩

end VaultspecA2A.ProposalRevisions
