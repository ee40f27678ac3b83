import VaultspecA2A.CommandTrace
import VaultspecA2A.PhaseGates

/-!
# Submitting the document of a phase

The submitter reads the document of a phase from the transcript: the latest message of the phase's
author that is not blank, less the line that marks its completion and any preamble. It refuses a
body that the vault would not accept. Otherwise it opens the session of the run, finds the documents
the new one rests on, creates a proposal and submits it. The keys of the last two commands are
digests of the run, the phase, the command and the revision, which is the number of messages of the
author that are not blank.

What the engine answers to each command is an input. The vault's own checks of a document, the
digest and the letters a word is made of are parameters.
-/
namespace VaultspecA2A.DocumentSubmitter
open PyText PyValue ThreadLifecycle Grounding Clarification PhaseGates CommandTrace

inductive SubmitterError
  | engineUnavailable (message : String)
  | credentialsMissing (message : String)
  | roleConfigInvalid (message : String)
  | documentUnavailable (message : String)
  | proposalDenied (stage denialKind : String) (reason : Option String)
  | submitter (message : String)
  | revisionRequired (notes : List String)
  | authoring (message : String)
  | raised (error : Raised)
deriving DecidableEq, Repr

def maxIdBytes : ℕ := 160

def isIdChar (c : Char) : Bool := c.isAlphanum || decide (c ∈ ['_','-',':','.','/'])

def validateId (field value : String) : Except SubmitterError String :=
  if value.isEmpty ∨ value ≠ strip value then
    .error (.raised (.valueError
      (field ++ " must be non-empty and free of surrounding whitespace")))
  else if maxIdBytes < utf8Bytes value.toList then
    .error (.raised (.valueError (field ++ " exceeds " ++ toString maxIdBytes ++ " bytes (got " ++
      toString (utf8Bytes value.toList) ++ ")")))
  else if value.toList.all isIdChar then .ok value
  else
    .error (.raised (.valueError (field ++ " may contain only ASCII alphanumerics and the " ++
      "characters _ - : . / (got " ++ quoted value ++ ")")))

def keyMaterial (material : List String) : String := "\x1f".intercalate material

def deriveIdempotencyKey (sha256Hex : String → String) (material : List String) :
    Except SubmitterError String :=
  if material.isEmpty ∨ material.any String.isEmpty then
    .error (.raised (.valueError "idempotency material must be one or more non-empty parts"))
  else .ok ("idk:" ++ sha256Hex (keyMaterial material))

structure PhaseAuthoringSpec where
  documentRole : String
  writerMessageName : String
  docType : String
  completionSentinel : Option String
deriving DecidableEq, Repr

def phaseAuthoringSpec : DocumentPhase → PhaseAuthoringSpec
  | .research => ⟨"vaultspec-synthesist","synthesis","research",some "RESEARCH READY"⟩
  | .adr => ⟨"vaultspec-adr-author","adr_author","adr",some "ADR READY"⟩
  | .plan => ⟨"vaultspec-plan-author","plan_author","plan",some "PLAN READY"⟩

structure Message where
  name : Option String
  content : String
deriving DecidableEq, Repr

def rstripSpace (text : String) : String := String.ofList (text.toList.rdropWhile isSpace)

def stripCompletionSentinel (body : String) (sentinel : Option String) : String :=
  match sentinel.filter fun text => !text.isEmpty with
  | none => body
  | some sentinel =>
    let trimmed := rstripSpace body
    if endsWith trimmed sentinel = false then body
    else
      let head := dropEnd sentinel.toList.length trimmed
      if ¬ head.isEmpty ∧ endsWith head "\n" = false then body else rstripSpace head

def afterFence : List Char → Option (List Char)
  | '-' :: '-' :: '-' :: '\r' :: '\n' :: rest => some rest
  | '-' :: '-' :: '-' :: '\n' :: rest => some rest
  | _ => none

section
variable (isWord : Char → Bool)

def startsWithKey : List Char → Bool
  | [] => false
  | c :: cs =>
    (c.isAlpha || decide (c = '_')) &&
      decide (((cs.dropWhile fun c => isWord c || decide (c = '-')).dropWhile fun c =>
        decide (c = ' ') || decide (c = '\t')).head? = some ':')

def fromFrontmatter : List Char → Option (List Char)
  | [] => none
  | c :: cs =>
    if (afterFence (c :: cs)).any (startsWithKey isWord) then some (c :: cs)
    else fromFrontmatter cs

def stripLeadingPreamble (body : String) : String :=
  ((fromFrontmatter isWord body.toList).map String.ofList).getD body

end

def webLocatorKind : String := "web"

def webUrlFromLocator (locator : Value) : Option String :=
  if (locator.get "kind").any (·.isKey webLocatorKind) then locator.getStr "url" else none

/-- The web sources the run has retrieved, each once and in the order they were first seen. -/
def webLocatorUrls (findings : Value) : List String :=
  ((findings.items?.getD []).flatMap fun finding =>
    (((finding.get "locators").bind Value.items?).getD []).filterMap webUrlFromLocator).eraseDups

def undisclosedWebSourceNotes (prose : String) (webUrls : List String) : List String :=
  (webUrls.filter fun url => !contains prose url).map fun url =>
    "undisclosed web source: " ++ url ++ " - this run retrieved it, so the " ++
      "document must cite it inline and list it in its Sources section " ++
      "as a bare URL with the retrieval date (never in `related:`)"

structure Submitter where
  projectScope : String
  sha256Hex : String → String
  isWord : Char → Bool
  splitFrontmatter : String → Option String × String
  coreCheckNotes : String → String → List String

def Submitter.conformanceNotes (submitter : Submitter) (body docType : String)
    (webUrls : List String) : List String :=
  let split := submitter.splitFrontmatter body
  (if split.1.isNone then
    ["document must begin with a `---` frontmatter fence; the body carries " ++
      "no frontmatter block (remove any preamble before the document)"] else []) ++
    submitter.coreCheckNotes body docType ++
    if docType = "research" then undisclosedWebSourceNotes split.2 webUrls else []

def authoredBodies (messages : List Message) (writerMessageName : String) : List String :=
  messages.filterMap fun message =>
    if message.name = some writerMessageName ∧ ¬ isBlank message.content then some message.content
    else none

def Submitter.latestDocument (submitter : Submitter) (messages : List Message) (findings : Value)
    (spec : PhaseAuthoringSpec) : Except SubmitterError (String × ℕ) :=
  let bodies := authoredBodies messages spec.writerMessageName
  match bodies.getLast? with
  | none =>
    .error (.documentUnavailable ("phase author " ++ quoted spec.writerMessageName ++
      " produced no document body to submit; the run cannot propose an empty document"))
  | some latest =>
    let written := stripCompletionSentinel latest spec.completionSentinel
    if isBlank written then
      .error (.documentUnavailable ("phase author " ++ quoted spec.writerMessageName ++
        " produced only the completion sentinel with no document body; the run cannot " ++
        "propose an empty document"))
    else
      let body := stripLeadingPreamble submitter.isWord written
      let notes := submitter.conformanceNotes body spec.docType (webLocatorUrls findings)
      if notes.isEmpty then .ok (body,bodies.length) else .error (.revisionRequired notes)

inductive EngineCommand
  | createSession (scope title idempotencyKey : String)
  | createProposal (sessionId changesetId summary : String) (operations : List Value)
      (idempotencyKey : String)
  | submitForReview (changesetId expectedRevision summary idempotencyKey : String)

inductive EngineReply
  | received (data : Value)
  | denied (denialKind : String) (reason : Option String)
  | failed (message : String)

/-- What the engine answers to each step of a submission; the snapshot may be unreadable. -/
structure EngineReplies where
  session : EngineReply
  snapshot : Option Value
  created : EngineReply
  submitted : EngineReply

def rejectDenial (stage : String) : EngineReply → Except SubmitterError Value
  | .received data => .ok data
  | .denied denialKind reason => .error (.proposalDenied stage denialKind reason)
  | .failed message => .error (.authoring message)

def receiptText (data : Value) (field missing : String) : Except SubmitterError String :=
  match data.getStr field with
  | some text => .ok text
  | none => .error (.submitter missing)

def openedSession (data : Value) : Except SubmitterError String :=
  match (data.get "session_id").bind Value.text? with
  | some sessionId => .ok sessionId
  | none =>
    .error (.raised (.runtimeError "create_session must run before create_proposal"))

def newChangesetId (runId label : String) : Except SubmitterError String := do
  let label ← validateId "label" label
  validateId "changeset_id" ("cs:" ++ runId ++ ":" ++ label)

structure ProposalContext where
  threadId : String
  feature : String
  phase : DocumentPhase
  body : String
  revisionCycle : ℕ

def wholeDocumentOp (context : ProposalContext) (related : List String) : Value :=
  let spec := phaseAuthoringSpec context.phase
  .dict [(.str "child_key",
        .str (spec.docType ++ "/" ++ context.feature ++ "-" ++ context.phase.value ++ ".md")),
      (.str "operation",.str "create_document"),
      (.str "target",.dict [(.str "document",.dict ([(.str "kind",.str "provisional_create"),
          (.str "provisional_doc_id",.str ("prov:" ++ context.threadId ++ ":" ++
            context.phase.value ++ ":r" ++ toString context.revisionCycle)),
          (.str "doc_type",.str spec.docType),
          (.str "feature",.str context.feature),
          (.str "title",.str (context.feature ++ " " ++ context.phase.value)),
          (.str "collision_status",.str "available")] ++
          if related.isEmpty then [] else [(.str "related",.list (related.map .str))]))]),
      (.str "draft",.dict [(.str "mode",.str "whole_document"),(.str "body",.str context.body)])]

/-- The links of the documents the new one rests on, or the refusal when they do not suffice. -/
def groundedRelated (snapshot : Option Value) (feature : String) (phase : PipelinePhase) :
    Except SubmitterError (List String) :=
  match resolveGroundingRelated snapshot feature phase with
  | .error error => .error (.raised error)
  | .ok related =>
    match refuseUngrounded phase related with
    | .error note => .error (.revisionRequired [note])
    | .ok _ => .ok related

abbrev Submitting := Trace EngineCommand SubmitterError

section
variable (submitter : Submitter)

def Submitter.revisionKey (threadId : String) (phase : DocumentPhase) (command : String)
    (revisionCycle : ℕ) : Except SubmitterError String :=
  deriveIdempotencyKey submitter.sha256Hex [threadId,phase.value,command,toString revisionCycle]

def Submitter.proposeAndSubmit (context : ProposalContext) (replies : EngineReplies) :
    Submitting String := do
  let ⟨threadId,feature,phase,_,revisionCycle⟩ := context
  let rev := toString revisionCycle
  let runId ← .lift (validateId "run_id" threadId)
  let sessionKey ← .lift (deriveIdempotencyKey submitter.sha256Hex [threadId,"create_session"])
  .send (.createSession submitter.projectScope (feature ++ " authoring") sessionKey)
  let session ← .lift (rejectDenial "create_session" replies.session)
  let related ← .lift (groundedRelated replies.snapshot feature phase.pipelinePhase)
  let changesetId ← .lift (newChangesetId runId (phase.value ++ "-r" ++ rev))
  let proposalKey ← .lift (submitter.revisionKey threadId phase "create_proposal" revisionCycle)
  let sessionId ← .lift (openedSession session)
  .send (.createProposal sessionId changesetId
    (feature ++ " " ++ phase.value ++ " document (r" ++ rev ++ ")")
    [wholeDocumentOp context related] proposalKey)
  let created ← .lift (rejectDenial "create_proposal" replies.created)
  let revision ← .lift (receiptText created "changeset_revision"
    "create_proposal receipt carried no changeset_revision; cannot submit")
  let submitKey ← .lift (submitter.revisionKey threadId phase "submit" revisionCycle)
  let expectedRevision ← .lift (validateId "expected_revision" revision)
  .send (.submitForReview changesetId expectedRevision
    ("submit " ++ feature ++ " " ++ phase.value ++ " (r" ++ rev ++ ")") submitKey)
  let submitted ← .lift (rejectDenial "submit" replies.submitted)
  .lift (receiptText submitted "proposal_id" "submit receipt carried no proposal_id")

structure SubmissionState where
  threadId : String
  activeFeature : Option String
  messages : List Message
  researchFindings : Value

/-- The tokens held for the run and the role of the phase's author. -/
structure HeldTokens where
  engineBearer : Option String
  actorToken : Option String

def required (text : Option String) (missing : SubmitterError) : Except SubmitterError String :=
  match text.filter fun text => !text.isEmpty with
  | some text => .ok text
  | none => .error missing

def Submitter.call (state : SubmissionState) (phase : DocumentPhase) (held : HeldTokens)
    (replies : EngineReplies) : Submitting String := do
  let spec := phaseAuthoringSpec phase
  let threadId ← .lift (required (some state.threadId)
    (.engineUnavailable "run state carries no thread_id; cannot resolve run identity"))
  let feature ← .lift (required state.activeFeature
    (.roleConfigInvalid "run state carries no active_feature; cannot scope the proposal"))
  let _ ← .lift (required held.engineBearer
    (.credentialsMissing ("no engine bearer held for run " ++ threadId ++
      "; the run was not provisioned with authoring credentials")))
  let _ ← .lift (required held.actorToken
    (.credentialsMissing ("no actor token held for role " ++ quoted spec.documentRole ++
      " on run " ++ threadId ++ "; identity is unavailable for authoring")))
  let document ← .lift (submitter.latestDocument state.messages state.researchFindings spec)
  submitter.proposeAndSubmit ⟨threadId,feature,phase,document.1,document.2⟩ replies

end

section
variable {submitter su : Submitter} {phase ph : DocumentPhase}
lemma latestDocument_revision (h : su.latestDocument ms fi sp = .ok dc) :
    dc.2 = (authoredBodies ms sp.writerMessageName).length := by
  unfold Submitter.latestDocument at h
  dsimp only at h
  split at h
  · cases h
  · split_ifs at h
    cases h
    rfl

lemma deriveIdempotencyKey_ok (h : deriveIdempotencyKey sh ma = .ok key) :
    key = "idk:" ++ sh (keyMaterial ma) := by
  unfold deriveIdempotencyKey at h
  split_ifs at h
  cases h
  rfl

lemma required_ok (h : required x mi = .ok fo) : x = some fo := by
  unfold required at h
  split at h
  · rename_i x hf
    cases h
    exact (Option.filter_eq_some_iff.1 hf).1
  · cases h

def Keyed (submitter : Submitter) (threadId : String) (phase : DocumentPhase) (revisionCycle : ℕ) :
    EngineCommand → Prop
  | .createSession _ _ _ => True
  | .createProposal _ _ _ _ key =>
    submitter.revisionKey threadId phase "create_proposal" revisionCycle = .ok key
  | .submitForReview _ _ _ key =>
    submitter.revisionKey threadId phase "submit" revisionCycle = .ok key

lemma proposeAndSubmit_keyed (h : cm ∈ (su.proposeAndSubmit co re).sent) :
    Keyed su co.threadId co.phase co.revisionCycle cm := by
  obtain ⟨tid,fe,ph,bo,rc⟩ := co
  simp only [Submitter.proposeAndSubmit,Trace.mem_sent_lift_bind,Trace.mem_sent_send_bind] at h
  obtain ⟨_,-,_,-,rfl | ⟨_,-,_,-,_,-,pk,hp,_,-,rfl | ⟨_,-,_,-,sk,hs,_,-,rfl | ⟨_,-,hl⟩⟩⟩⟩ := h
  · trivial
  · exact hp
  · exact hs
  · exact (Trace.not_mem_sent_lift hl).elim

/-- The keys of a submission are those of the number of bodies its author has written. -/
lemma call_keyed (h : cm ∈ (su.call st ph held re).sent) : Keyed su st.threadId ph
    (authoredBodies st.messages (phaseAuthoringSpec ph).writerMessageName).length cm := by
  simp only [Submitter.call,Trace.mem_sent_lift_bind] at h
  obtain ⟨tid,ht,_,-,_,-,_,-,dc,hd,hs⟩ := h
  cases required_ok ht
  rw [← latestDocument_revision hd]
  exact proposeAndSubmit_keyed hs

end

end VaultspecA2A.DocumentSubmitter
