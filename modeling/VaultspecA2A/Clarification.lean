import Mathlib.Data.List.Nodup
import VaultspecA2A.PyText
import VaultspecA2A.PyValue

/-!
# Clarification questionnaires

A run that needs direction pauses on a bounded set of questions. Constructing a
request checks it: its handles have one grammar, its texts are capped and free of
control characters, a choice declares different options and a text none. A resume
answers the questions, goes on with a new prompt, or declines; it is parsed out of an
untyped payload and then its answers are checked against the request.

A question and a request are structures that carry what their construction checks, so that every
value of them is one that can be constructed. Texts hold no lone surrogates.
-/
namespace VaultspecA2A.Clarification
open PyText PyValue List

def maxQuestionsPerRequest : ℕ := 4
def maxOptionsPerQuestion : ℕ := 4
def maxIdentifierChars : ℕ := 64
def maxRequestIdChars : ℕ := 128
def maxPromptChars : ℕ := 512
def maxOptionChars : ℕ := 128
def maxAnswerChars : ℕ := 2048
def maxRunMessageChars : ℕ := 65536

def isControl (c : Char) : Bool :=
  decide (c.toNat < 0x20) || (decide (0x7f ≤ c.toNat) && decide (c.toNat ≤ 0x9f))

def isLineSafe (c : Char) : Bool := !isControl c

def stripControlCharacters (text : String) : String := String.ofList (text.toList.filter isLineSafe)

def lineSafeText (text : String) : Bool := decide (stripControlCharacters text = text)

def isHandleStart (c : Char) : Bool := c.isAlphanum || decide (c = '_')

def isHandleChar (c : Char) : Bool := isHandleStart c || decide (c = '.') || decide (c = '-')

/-- `^[A-Za-z0-9_][A-Za-z0-9_.\-]*$` with a maximal length. -/
def isHandle (maxLength : ℕ) (text : String) : Bool :=
  decide (text.length ≤ maxLength) &&
    match text.toList with
    | [] => false
    | c :: cs => isHandleStart c && cs.all isHandleChar

def isQuestionId (text : String) : Bool := isHandle maxIdentifierChars text

def isRequestId (text : String) : Bool := isHandle maxRequestIdChars text

def boundedText (minLength maxLength : ℕ) (text : String) : Bool :=
  decide (minLength ≤ text.length) && decide (text.length ≤ maxLength) && lineSafeText text

def isOptionLabel (text : String) : Bool := boundedText 1 maxOptionChars text

def isPromptText (text : String) : Bool := boundedText 1 maxPromptChars text

def isAnswerText (text : String) : Bool := boundedText 0 maxAnswerChars text

def isContinuationPrompt (text : String) : Bool :=
  decide (1 ≤ text.length) && decide (text.length ≤ maxRunMessageChars) && !isBlank text

inductive ClarificationKind
  | choice
  | text
deriving DecidableEq, Repr

def optionsMatchKind (kind : ClarificationKind) (options : Option (List String)) : Bool :=
  match kind, options with
  | .choice, some options => !options.isEmpty && decide options.Nodup
  | .choice, none => false
  | .text, options => options.isNone

structure ClarificationQuestion where
  id : String
  prompt : String
  kind : ClarificationKind
  options : Option (List String) := none
  required : Bool := true
  id_valid : isQuestionId id = true
  prompt_valid : isPromptText prompt = true
  options_bounded : ∀ labels ∈ options, labels.length ≤ maxOptionsPerQuestion
  options_valid : ∀ labels ∈ options, ∀ label ∈ labels, isOptionLabel label = true
  options_match : optionsMatchKind kind options = true

structure ClarificationRequest where
  requestId : String
  questions : List ClarificationQuestion
  requestId_valid : isRequestId requestId = true
  questions_some : questions ≠ []
  questions_bounded : questions.length ≤ maxQuestionsPerRequest
  ids_unique : (questions.map ClarificationQuestion.id).Nodup

inductive ClarificationResolution
  | answers (requestId : String) (answers : List (String × String))
  | continuation (requestId prompt : String)
  | decline (requestId : String)
deriving DecidableEq, Repr

def ClarificationResolution.requestId : ClarificationResolution → String
  | .answers requestId _ => requestId
  | .continuation requestId _ => requestId
  | .decline requestId => requestId

def textEntries (entries : List (Value × Value)) : List (String × String) :=
  entries.filterMap fun e =>
    match e.1, e.2 with
    | .str key, .str value => some (key,value)
    | _, _ => none

def requestIdOf (payload : Value) : Option String :=
  ((payload.get "request_id").bind Value.text?).filter isRequestId

/-- `ClarificationAnswers.model_validate` after the answers have been normalised. -/
def readAnswers (payload : Value) : Option ClarificationResolution :=
  match requestIdOf payload, payload.get "answers" with
  | some requestId, some (.dict entries) =>
    let answers := textEntries entries
    if payload.hasOnlyFields ["type","request_id","answers"] ∧
        answers.length ≤ maxQuestionsPerRequest ∧
        answers.all (fun a => isQuestionId a.1 && isAnswerText a.2) then
      some (.answers requestId answers)
    else none
  | _, _ => none

def readContinuation (payload : Value) : Option ClarificationResolution :=
  match requestIdOf payload, (payload.get "prompt").bind Value.text? with
  | some requestId, some prompt =>
    if payload.hasOnlyFields ["type","request_id","prompt"] ∧ isContinuationPrompt prompt then
      some (.continuation requestId prompt)
    else none
  | _, _ => none

def readDecline (payload : Value) : Option ClarificationResolution :=
  match requestIdOf payload with
  | some requestId =>
    if payload.hasOnlyFields ["type","request_id"] then some (.decline requestId) else none
  | none => none

def quoted (text : String) : String := "'" ++ text ++ "'"

def mismatchMessage (found expected : String) : String :=
  "clarification resume request id does not match the committed request: " ++ quoted found ++
    " != " ++ quoted expected

def resolutionReader (payload : Value) : Option (Value → Option ClarificationResolution) :=
  match (payload.get "type").bind Value.text? with
  | some "clarification_response" => some readAnswers
  | some "clarification_continuation" => some readContinuation
  | some "clarification_decline" => some readDecline
  | _ => none

def parseClarificationResolution (payload : Value) (requestId : String) :
    Except String ClarificationResolution :=
  if ¬ payload.isDict then .error "invalid clarification resume payload"
  else
    match resolutionReader payload with
    | none => .error "invalid clarification resume discriminator"
    | some read =>
      match read payload with
      | none => .error "invalid clarification resume payload"
      | some resolution =>
        if resolution.requestId ≠ requestId then
          .error (mismatchMessage resolution.requestId requestId)
        else .ok resolution

def asResumeValue : ClarificationResolution → Value
  | .answers requestId answers =>
    .dict [(.str "type",.str "clarification_response"),(.str "request_id",.str requestId),
      (.str "answers",.dict (answers.map fun a => (.str a.1,.str a.2)))]
  | .continuation requestId prompt =>
    .dict [(.str "type",.str "clarification_continuation"),(.str "request_id",.str requestId),
      (.str "prompt",.str prompt)]
  | .decline requestId =>
    .dict [(.str "type",.str "clarification_decline"),(.str "request_id",.str requestId)]

def requiredNote (id : String) : String := "question " ++ quoted id ++ " is required and unanswered"

def undeclaredOptionNote (id : String) : String :=
  "answer to question " ++ quoted id ++ " is not one of its declared options"

def unknownQuestionNote (id : String) : String := "unknown question id " ++ quoted id

def missingNote (question : ClarificationQuestion) : Option String :=
  if question.required then some (requiredNote question.id) else none

def questionAnswerNote (question : ClarificationQuestion) : Option String → Option String
  | none => missingNote question
  | some answer =>
    if isBlank answer then missingNote question
    else if question.kind = .choice ∧ answer ∉ question.options.getD [] then
      some (undeclaredOptionNote question.id)
    else none

/-- One note for each violation; no note when the answers are admissible. -/
def validateClarificationAnswers (request : ClarificationRequest)
    (answers : List (String × String)) : List String :=
  ((answers.map Prod.fst).filter fun id =>
      decide (id ∉ request.questions.map ClarificationQuestion.id)).map unknownQuestionNote ++
    request.questions.filterMap fun question =>
      questionAnswerNote question (answers.lookup question.id)

section
variable {request rq : ClarificationRequest} {question : ClarificationQuestion}
variable {answers an : List (String × String)} {label l : String}

lemma isAnswerText_of_label (h : isOptionLabel l = true) : isAnswerText l = true := by
  simp only [isOptionLabel,isAnswerText,boundedText,Bool.and_eq_true,decide_eq_true_eq] at h ⊢
  exact ⟨⟨Nat.zero_le _,h.1.2.trans (by decide)⟩,h.2⟩

lemma textEntries_texts (an : List (String × String)) :
    textEntries (an.map fun a => (.str a.1,.str a.2)) = an := by
  induction an with
  | nil => rfl
  | cons a an ih =>
    simp only [textEntries,map_cons,filterMap_cons] at ih ⊢
    rw [ih]

def boundedAnswers (answers : List (String × String)) : Prop :=
  answers.length ≤ maxQuestionsPerRequest ∧
    ∀ a ∈ answers, isQuestionId a.1 = true ∧ isAnswerText a.2 = true

lemma parse_of_reader {payload : Value} {read : Value → Option ClarificationResolution}
    {resolution : ClarificationResolution} (hd : payload.isDict = true)
    (hr : resolutionReader payload = some read) (h : read payload = some resolution) :
    parseClarificationResolution payload resolution.requestId = .ok resolution := by
  unfold parseClarificationResolution
  rw [if_neg (by simp [hd]),hr]
  simp [h]

lemma parse_of_fields {payload : Value} {rid : String}
    (ht : payload.get "type" = some (.str "clarification_response"))
    (hr : payload.get "request_id" = some (.str rid))
    (ha : payload.get "answers" = some (.dict (an.map fun a => (.str a.1,.str a.2))))
    (hf : payload.hasOnlyFields ["type","request_id","answers"] = true)
    (hid : isRequestId rid = true) (h : boundedAnswers an) :
    parseClarificationResolution payload rid = .ok (.answers rid an) := by
  have hd : payload.isDict = true := by
    cases payload with
    | dict es => rfl
    | _ => cases hf
  have hi : requestIdOf payload = some rid := by
    simp [requestIdOf,hr,Value.text?,hid]
  have hal : an.all (fun a => isQuestionId a.1 && isAnswerText a.2) = true :=
    all_eq_true.2 fun a ha => by simp [h.2 a ha]
  have hre : readAnswers payload = some (.answers rid an) := by
    unfold readAnswers
    rw [hi,ha]
    simp only [textEntries_texts,hf,hal,h.1,and_self,if_true]
  have hrea : resolutionReader payload = some readAnswers := by
    rw [resolutionReader,ht]
    rfl
  exact parse_of_reader hd hrea hre

lemma parse_answers (hid : isRequestId rid = true) (h : boundedAnswers an) :
    parseClarificationResolution (asResumeValue (.answers rid an)) rid = .ok (.answers rid an) :=
  parse_of_fields rfl rfl rfl rfl hid h

lemma questionAnswerNote_label (hl : l ∈ question.options.getD []) :
    questionAnswerNote question (some l) = none ↔
      (question.required = true → isBlank l = false) := by
  unfold questionAnswerNote
  cases hb : isBlank l with
  | true => cases hre : question.required <;> simp [missingNote,hre,hb]
  | false => simp [hl,hb]

lemma label_valid (hl : l ∈ question.options.getD []) : isOptionLabel l = true := by
  cases ho : question.options with
  | none => simp [ho] at hl
  | some ls =>
    rw [ho,Option.getD_some] at hl
    exact question.options_valid ls ho l hl

/-- Every request has answers within their bounds. -/
def firstAnswer (question : ClarificationQuestion) : String := (question.options.getD []).headD "x"

lemma firstAnswer_valid (question : ClarificationQuestion) :
    isAnswerText (firstAnswer question) = true := by
  unfold firstAnswer
  cases ho : question.options.getD [] with
  | nil => decide
  | cons l ls =>
    have hm : l ∈ question.options.getD [] := by simp [ho]
    exact isAnswerText_of_label (label_valid hm)

lemma questionAnswerNote_first (h : question.required = true → question.kind = .choice →
      ∀ l ∈ question.options.getD [], isBlank l = false) :
    questionAnswerNote question (some (firstAnswer question)) = none := by
  have hm := question.options_match
  unfold firstAnswer
  cases ho : question.options.getD [] with
  | nil =>
    have ht : question.kind ≠ .choice := by
      intro hk
      cases hl : question.options with
      | none => simp [optionsMatchKind,hk,hl] at hm
      | some ls =>
        simp only [hl,Option.getD_some] at ho
        simp [optionsMatchKind,hk,hl,ho] at hm
    have hx : isBlank "x" = false := by decide
    simp [questionAnswerNote,hx,ht]
  | cons l ls =>
    have hme : l ∈ question.options.getD [] := by simp [ho]
    refine (questionAnswerNote_label hme).2 fun hre => ?_
    refine h hre ?_ l hme
    -- only a choice has options
    cases hk : question.kind with
    | choice => rfl
    | text =>
      cases hl : question.options with
      | none => simp [hl] at ho
      | some ls => simp [optionsMatchKind,hk,hl] at hm

def firstAnswers (request : ClarificationRequest) : List (String × String) :=
  request.questions.map fun question => (question.id,firstAnswer question)

lemma lookup_firstAnswers (hm : question ∈ rq.questions) :
    (firstAnswers rq).lookup question.id = some (firstAnswer question) := by
  have hn := rq.ids_unique
  unfold firstAnswers
  generalize rq.questions = qu at hm hn
  induction qu with
  | nil => cases hm
  | cons head qu ih =>
    rw [map_cons,nodup_cons] at hn
    rw [map_cons]
    rcases mem_cons.1 hm with rfl | ht
    · simp
    · have hne : question.id ≠ head.id := fun heq =>
        hn.1 (heq ▸ mem_map_of_mem ht)
      rw [lookup_cons,beq_eq_false_iff_ne.2 hne]
      exact ih ht hn.2

/-- What it means for a request to be answerable by what it declares. -/
structure Answerable (request : ClarificationRequest) : Prop where
  /-- Some answers pass the parser unchanged and the check without a note. -/
  answered : ∃ answers, parseClarificationResolution
      (asResumeValue (.answers request.requestId answers)) request.requestId =
        .ok (.answers request.requestId answers) ∧
    validateClarificationAnswers request answers = []
  /-- Every declared option, with any other answers, passes the parser unchanged and is
  accepted for its question. -/
  verbatim : ∀ question ∈ request.questions, question.kind = .choice →
    ∀ label ∈ question.options.getD [], ∀ others, others.length < maxQuestionsPerRequest →
    (∀ a ∈ others, isQuestionId a.1 = true ∧ isAnswerText a.2 = true) →
    parseClarificationResolution (asResumeValue (.answers request.requestId
      ((question.id,label) :: others))) request.requestId =
        .ok (.answers request.requestId ((question.id,label) :: others)) ∧
    questionAnswerNote question (((question.id,label) :: others).lookup question.id) = none

/-- A request is answerable exactly if no required choice of it declares a blank option. -/
theorem answerable_iff (request : ClarificationRequest) : Answerable request ↔
    ∀ question ∈ request.questions, question.required = true → question.kind = .choice →
      ∀ label ∈ question.options.getD [], isBlank label = false := by
  constructor
  · intro h question hm hre hk label hl
    have hn := (h.verbatim question hm hk label hl [] (by decide) (by simp)).2
    rw [lookup_cons_self] at hn
    exact (questionAnswerNote_label hl).1 hn hre
  · intro h
    refine ⟨⟨firstAnswers request,parse_answers request.requestId_valid ⟨?_,?_⟩,?_⟩,?_⟩
    · rw [firstAnswers,length_map]
      exact request.questions_bounded
    · intro a ha
      obtain ⟨question,-,rfl⟩ := mem_map.1 ha
      exact ⟨question.id_valid,firstAnswer_valid question⟩
    · unfold validateClarificationAnswers
      rw [append_eq_nil_iff,map_eq_nil_iff,filter_eq_nil_iff, filterMap_eq_nil_iff]
      refine ⟨fun id hid => ?_,fun question hm => ?_⟩
      · simp only [firstAnswers,map_map] at hid
        simpa using hid
      · rw [lookup_firstAnswers hm]
        exact questionAnswerNote_first (h question hm)
    · intro question hm hk label hl others hle ho
      refine ⟨parse_answers request.requestId_valid ⟨hle,?_⟩,?_⟩
      · intro a ha
        rcases mem_cons.1 ha with rfl | ha
        · exact ⟨question.id_valid,isAnswerText_of_label (label_valid hl)⟩
        · exact ho a ha
      · rw [lookup_cons_self]
        exact (questionAnswerNote_label hl).2 fun hre => h question hm hre hk label hl

end

lemma questionAnswerNote_blank (hre : question.required = true) (hk : question.kind = .choice)
    (hb : ∀ l ∈ question.options.getD [], isBlank l = true)
    (an : Option String) : questionAnswerNote question an ≠ none := by
  have hm : missingNote question ≠ none := by simp [missingNote,hre]
  cases an with
  | none => exact hm
  | some x =>
    dsimp only [questionAnswerNote]
    split_ifs with ht hu
    · exact hm
    · simp
    · simp only [hk,true_and,not_not] at hu
      exact (ht (hb x hu)).elim

def blankQuestion : ClarificationQuestion where
  id := "scope"
  prompt := "Which scope?"
  kind := .choice
  options := some [" "]
  id_valid := by decide
  prompt_valid := by decide
  options_bounded := by decide
  options_valid := by decide
  options_match := by decide

def blankChoice : ClarificationRequest where
  requestId := "clarification-run-1"
  questions := [blankQuestion]
  requestId_valid := by decide
  questions_some := by simp
  questions_bounded := by decide
  ids_unique := by decide

/-- No answers are accepted for it, the declared option included. -/
theorem blank_option_unanswerable :
    (¬ ∃ answers, validateClarificationAnswers blankChoice answers = []) ∧
      validateClarificationAnswers blankChoice [("scope"," ")] =
        ["question 'scope' is required and unanswered"] := by
  refine ⟨?_,by decide⟩
  rintro ⟨answers,h⟩
  have hn := (append_eq_nil_iff.1 h).2
  rw [filterMap_eq_nil_iff] at hn
  exact questionAnswerNote_blank rfl rfl (by decide) _ (hn blankQuestion mem_cons_self)

end VaultspecA2A.Clarification
