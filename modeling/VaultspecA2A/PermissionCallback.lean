import VaultspecA2A.PermissionOptions
import VaultspecA2A.CheckpointProjections

/-!
# The permission callback of a worker turn

A provider calls back from inside a model turn for each tool call that needs a human. A
replayed turn finds its earlier answers in two places: in the answers the run has recorded,
by request, and in the values stored for the task, which `interrupt` hands out strictly in
order before it suspends the run. A node whose input was fixed at its dispatch sees no
recorded answers; its callback reads on past the answers to other requests and keeps them
for the calls they were given for.

One execution of the turn is the list of its calls, up to the one that suspends it.
-/
namespace VaultspecA2A.PermissionCallback
open PyValue PermissionOptions CheckpointProjections List Option

structure ToolCall where
  toolName : String
  toolInput : Value
  options : List Value

/-- Functions that are not part of the model, and the namespace of the task. -/
structure Surroundings where
  digest : Value → String
  repr : String → String
  checkpointNs : String

def permissionRequestId (env : Surroundings) (call : ToolCall) : String :=
  "perm-" ++ String.ofList ((env.digest
    (.list [.str env.checkpointNs,.str call.toolName,call.toolInput])).toList.take 32)

/-- The choices a human is offered: none the provider would remember, unless there is no
other. -/
def offeredOptions (options : List Value) : List Value :=
  let once := options.filter fun option => !isRemembering option
  if once.isEmpty then options else once

structure PermissionRequest where
  requestId : String
  toolName : String
  toolInput : Value
  offered : List Value

def PermissionRequest.answerable (request : PermissionRequest) : Bool :=
  !(validOptionIds request.offered).isEmpty

def PermissionRequest.payload (request : PermissionRequest) : Value :=
  .dict [(.str "type",.str InterruptType.permissionRequest.value),
    (.str "request_id",.str request.requestId),(.str "tool_name",.str request.toolName),
    (.str "tool_input",request.toolInput),(.str "options",.list request.offered)]

structure PermissionAnswer where
  requestId : String
  optionId : String
deriving DecidableEq

def PermissionAnswer.fromResumeValue (value : Value) : Option PermissionAnswer :=
  (namedRequestId value).bind fun requestId =>
    (value.getStr "option_id").map fun optionId => ⟨requestId,optionId⟩

/-- The option chosen for a request by the id. -/
abbrev Answers := String → Option String

def answeredOption (answers : Answers) (request : PermissionRequest) : Option String :=
  (answers request.requestId).filter fun chosen => decide (chosen ∈ validOptionIds request.offered)

structure AnswerReading where
  option : Option String
  learned : Option PermissionAnswer

def readPermissionAnswer (answered : Option PermissionAnswer) (request : PermissionRequest) :
    AnswerReading :=
  match answered with
  | none => ⟨none,none⟩
  | some answer =>
    if answer.requestId ≠ request.requestId then ⟨none,some answer⟩
    else if answer.optionId ∉ validOptionIds request.offered then ⟨none,none⟩
    else ⟨some answer.optionId,none⟩

inductive Outcome
  | answered (optionId : String)
  | denied (message : String)
  | suspended (payload : Value)

/-- How a call ended, the answers kept by then, and the stored values it took and left. -/
structure Reply where
  outcome : Outcome
  learned : Answers
  read : List Value
  left : List Value

def remember (learned : Answers) : Option PermissionAnswer → Answers
  | none => learned
  | some answer => fun r => if r = answer.requestId then some answer.optionId else learned r

def readOn (answersReachTheNode : Bool) (request : PermissionRequest) : Answers → List Value → Reply
  | learned, [] => ⟨.suspended request.payload,learned,[],[]⟩
  | learned, value :: stored =>
    let reading := readPermissionAnswer (PermissionAnswer.fromResumeValue value) request
    match reading.option with
    | some optionId => ⟨.answered optionId,learned,[value],stored⟩
    | none =>
      if answersReachTheNode then ⟨.suspended request.payload,learned,[value],stored⟩
      else
        let reply := readOn answersReachTheNode request (remember learned reading.learned) stored
        { reply with read := value :: reply.read }

section
variable (env : Surroundings) (answersReachTheNode : Bool) (answers : Answers)

def requestOf (call : ToolCall) : PermissionRequest :=
  ⟨permissionRequestId env call,call.toolName,call.toolInput,offeredOptions call.options⟩

def permissionCallback (call : ToolCall) (learned : Answers) (stored : List Value) : Reply :=
  let request := requestOf env call
  if !request.answerable then
    ⟨.denied ("the " ++ env.repr call.toolName ++ " call offers no option a human could pick, " ++
      "so it cannot be put to one"),learned,[],stored⟩
  else
    match answeredOption (fun r => (learned r).or (answers r)) request with
    | some already => ⟨.answered already,learned,[],stored⟩
    | none => readOn answersReachTheNode request learned stored

/-- One call of a turn: what it asked, how it ended and the stored values it took. -/
structure Invocation where
  request : PermissionRequest
  outcome : Outcome
  read : List Value

/-- The calls of one execution. A refused call leaves the turn going; a suspension ends it. -/
def turn : List ToolCall → Answers → List Value → List Invocation
  | [], _, _ => []
  | call :: calls, learned, stored =>
    let reply := permissionCallback env answersReachTheNode answers call learned stored
    ⟨requestOf env call,reply.outcome,reply.read⟩ ::
      match reply.outcome with
      | .suspended _ => []
      | _ => turn calls reply.learned reply.left

end

def Names (value : Value) (requestId optionId : String) : Prop :=
  PermissionAnswer.fromResumeValue value = some ⟨requestId,optionId⟩

def answersTo (requestId : String) (values : List Value) : List String :=
  values.filterMap fun value => (PermissionAnswer.fromResumeValue value).bind fun answer =>
    if answer.requestId = requestId then some answer.optionId else none

/-- The answers to a request among the values a call for another one took past. -/
def passed (answersReachTheNode : Bool) (request : PermissionRequest) (requestId : String)
    (values : List Value) : List String :=
  if answersReachTheNode ∨ request.requestId = requestId then [] else answersTo requestId values

/-- The answers to a request that earlier calls took past. -/
def readPast (requestId : String) (earlier : List Invocation) : List String :=
  earlier.flatMap fun i => passed false i.request requestId i.read

section
variable {answersReachTheNode artn : Bool} {answers an learned le : Answers}
variable {request rq : PermissionRequest} {call : ToolCall} {stored st : List Value} {o r : String}

lemma names_of_mem (h : o ∈ answersTo r vs) : ∃ value ∈ vs, Names value r o := by
  obtain ⟨value,hv,h⟩ := mem_filterMap.1 h
  obtain ⟨⟨rid,oid⟩,ha,h⟩ := bind_eq_some_iff.1 h
  dsimp only at h
  split_ifs at h with hid
  refine ⟨value,hv,?_⟩
  rw [Names,ha,hid,Option.some.inj h]

lemma readPermissionAnswer_option
    (h : (readPermissionAnswer (PermissionAnswer.fromResumeValue value) rq).option = some o) :
    Names value rq.requestId o ∧ o ∈ validOptionIds rq.offered := by
  unfold readPermissionAnswer at h
  split at h
  · cases h
  · rename_i an ha
    split_ifs at h with hid ho
    cases h
    refine ⟨?_,ho⟩
    rw [Names,ha,← not_not.1 hid]

lemma remember_reading (le : Answers) (value : Value) :
    remember le (readPermissionAnswer (PermissionAnswer.fromResumeValue value) rq).learned
      r = (passed false rq r [value]).getLast?.or (le r) := by
  unfold readPermissionAnswer
  cases hv : PermissionAnswer.fromResumeValue value with
  | none => simp [remember,passed,answersTo,hv]
  | some an =>
    by_cases ho : an.requestId = rq.requestId
    · have hn : passed false rq r [value] = [] := by
        simp only [passed,answersTo,filterMap_cons,hv,bind_some,ho]
        split_ifs with h <;> simp_all
      rw [hn]
      dsimp only
      split_ifs <;> first | rfl | contradiction
    · simp only [if_pos (show an.requestId ≠ rq.requestId from ho),remember]
      by_cases hid : r = an.requestId
      · subst hid
        simp [passed,answersTo,hv,Ne.symm ho]
      · rw [if_neg hid]
        simp [passed,answersTo,hv,Ne.symm hid]

lemma passed_append (vs la : List Value) : passed artn rq r (vs ++ la) =
    passed artn rq r vs ++ passed artn rq r la := by
  unfold passed answersTo
  split_ifs
  · rfl
  · rw [filterMap_append]

/-- What one call of the turn does: it takes values off the front of the stored ones, returns
an option only if something names it, returns what it knows without taking any, and keeps
what it read past. -/
structure Serves (answersReachTheNode : Bool) (answers learned : Answers)
    (request : PermissionRequest) (stored : List Value) (reply : Reply) : Prop where
  taken : stored = reply.read ++ reply.left
  named : ∀ o, reply.outcome = .answered o → o ∈ validOptionIds request.offered ∧
    (answers request.requestId = some o ∨ learned request.requestId = some o ∨
      ∃ value ∈ reply.read, Names value request.requestId o)
  known : ∀ o, learned request.requestId = some o → o ∈ validOptionIds request.offered →
    reply.outcome = .answered o ∧ reply.read = []
  keeps : ∀ r, reply.learned r =
    (passed answersReachTheNode request r reply.read).getLast?.or (learned r)

lemma readOn_spec (artn : Bool) (rq : PermissionRequest) (le : Answers) (st : List Value) :
    st = (readOn artn rq le st).read ++ (readOn artn rq le st).left ∧
      (∀ o, (readOn artn rq le st).outcome = .answered o → o ∈ validOptionIds rq.offered ∧
          ∃ value ∈ (readOn artn rq le st).read, Names value rq.requestId o) ∧
      ∀ r, (readOn artn rq le st).learned r =
        (passed artn rq r (readOn artn rq le st).read).getLast?.or (le r) := by
  induction st generalizing le with
  | nil =>
    refine ⟨rfl,nofun,fun r => ?_⟩
    have hno : passed artn rq r [] = [] := by simp [passed,answersTo]
    exact (congrArg (fun l => l.getLast?.or (le r)) hno).symm
  | cons value st ih =>
    unfold readOn
    dsimp only
    split
    · rename_i oid hop
      obtain ⟨hn,hof⟩ := readPermissionAnswer_option hop
      refine ⟨rfl,?_,fun r => ?_⟩
      · intro o ho
        cases ho
        exact ⟨hof,value,mem_singleton_self value,hn⟩
      · have hno : passed artn rq r [value] = [] := by
          rw [Names] at hn
          simp only [passed,answersTo,filterMap_cons,hn,bind_some]
          split_ifs with h <;> simp_all
        rw [hno]
        rfl
    · cases artn with
      | true => exact ⟨rfl,nofun,fun _ => rfl⟩
      | false =>
        obtain ⟨hre,ha,hl⟩ := ih (remember le
          (readPermissionAnswer (PermissionAnswer.fromResumeValue value) rq).learned)
        refine ⟨congrArg (value :: ·) hre,fun o ho => ?_,fun r => ?_⟩
        · obtain ⟨hof,sr,hs,hn⟩ := ha o ho
          exact ⟨hof,sr,mem_cons_of_mem value hs,hn⟩
        · refine (hl r).trans ?_
          rw [remember_reading,← Option.or_assoc,← getLast?_append,← passed_append]
          rfl

lemma permissionCallback_serves (env : Surroundings) (artn : Bool)
    (an : Answers) (call : ToolCall) (le : Answers) (st : List Value) :
    Serves artn an le (requestOf env call) st (permissionCallback env artn an call le st) := by
  have hn : ∀ r, passed artn (requestOf env call) r [] = [] := by
    simp [passed,answersTo]
  unfold permissionCallback
  dsimp only
  split_ifs with ha
  · refine ⟨rfl,nofun,fun o _ hof => ?_,fun r => by rw [hn]; rfl⟩
    rw [PermissionRequest.answerable,Bool.not_not,List.isEmpty_iff] at ha
    rw [ha] at hof
    cases hof
  · split
    · rename_i al hal
      obtain ⟨hc,hof⟩ := filter_eq_some_iff.1 hal
      refine ⟨rfl,?_,?_,fun r => by rw [hn]; rfl⟩
      · intro o ho
        cases ho
        refine ⟨of_decide_eq_true hof,?_⟩
        rcases or_eq_some_iff.1 hc with hl | ⟨-,hre⟩
        · exact .inr (.inl hl)
        · exact .inl hre
      · intro o ho _
        dsimp only at hc
        rw [ho,some_or] at hc
        cases hc
        exact ⟨rfl,rfl⟩
    · rename_i hu
      obtain ⟨ht,han,hk⟩ := readOn_spec artn (requestOf env call) le st
      refine ⟨ht,fun o ho => ?_,fun o ho hof => ?_,hk⟩
      · obtain ⟨hof,hs⟩ := han o ho
        exact ⟨hof,.inr (.inr hs)⟩
      · rw [answeredOption,ho,some_or,filter_some,if_pos (decide_eq_true hof)] at hu
        cases hu

lemma turn_serves (h : turn env artn an cs le st = ea ++ i :: la) :
    ∃ kn left re, st = ea.flatMap Invocation.read ++ left ∧
      (∀ r, kn r = (ea.flatMap fun e => passed artn e.request r e.read).getLast?.or (le r)) ∧
      Serves artn an kn i.request left re ∧
      i.outcome = re.outcome ∧ i.read = re.read := by
  induction cs generalizing le st ea with
  | nil => exact (append_ne_nil_of_right_ne_nil ea (cons_ne_nil i la) h.symm).elim
  | cons call cs ih =>
    have hs := permissionCallback_serves env artn an call le st
    rw [turn] at h
    cases ea with
    | nil =>
      cases h
      exact ⟨le,st,_,rfl,fun _ => rfl,hs,rfl,rfl⟩
    | cons first ea =>
      obtain ⟨hf,h⟩ := List.cons.inj h
      split at h
      · exact (append_ne_nil_of_right_ne_nil ea (cons_ne_nil i la) h.symm).elim
      · obtain ⟨kn,left,re,hl,hk,hre⟩ := ih h
        refine ⟨kn,left,re,?_,fun r => ?_,hre⟩
        · rw [flatMap_cons,append_assoc,← hl,← hf]
          exact hs.taken
        · rw [hk r,hs.keeps r,flatMap_cons,← hf,← Option.or_assoc,← getLast?_append]

end

/-- In every turn a call is answered only with an option it offers that a recorded answer or
a stored value names for it, each stored value is taken at most once and in order, and in a
node without recorded answers the last answer earlier calls read past is given to the call
it names. -/
theorem turn_answers_named {env : Surroundings} {answersReachTheNode : Bool} {answers : Answers}
    {calls : List ToolCall} {stored : List Value} {earlier later : List Invocation}
    {i : Invocation}
    (h : turn env answersReachTheNode answers calls (fun _ => none) stored =
      earlier ++ i :: later) :
    (∀ o, i.outcome = .answered o → o ∈ validOptionIds i.request.offered ∧
      (answers i.request.requestId = some o ∨
        ∃ value ∈ stored, Names value i.request.requestId o)) ∧
    (earlier ++ [i]).flatMap Invocation.read <+: stored ∧
    (answersReachTheNode = false → ∀ o, (readPast i.request.requestId earlier).getLast? = some o →
      o ∈ validOptionIds i.request.offered → i.outcome = .answered o ∧ i.read = []) := by
  obtain ⟨known,left,reply,hst,hk,hs,hou,hre⟩ := turn_serves h
  rw [hou,hre]
  refine ⟨fun o ho => ?_,⟨reply.left,?_⟩,fun hb o hla hof => ?_⟩
  · obtain ⟨hof,hso⟩ := hs.named o ho
    refine ⟨hof,hso.imp_right ?_⟩
    rintro (hl | ⟨value,hv,hn⟩)
    · rw [hk,or_none] at hl
      obtain ⟨e,he,hm⟩ := mem_flatMap.1 (mem_of_getLast? hl)
      unfold passed at hm
      split_ifs at hm
      · cases hm
      · obtain ⟨value,hv,hn⟩ := names_of_mem hm
        refine ⟨value,?_,hn⟩
        rw [hst]
        exact mem_append_left _ (mem_flatMap.2 ⟨e,he,hv⟩)
    · refine ⟨value,?_,hn⟩
      rw [hst,hs.taken]
      exact mem_append_right _ (mem_append_left _ hv)
  · rw [flatMap_append,flatMap_singleton,hre,append_assoc,← hs.taken]
    exact hst.symm
  · subst hb
    refine hs.known o ?_ hof
    rw [hk,or_none]
    exact hla

def byTool : Surroundings where
  digest
    | .list [_,.str toolName,_] => toolName
    | _ => ""
  repr := fun text => "'" ++ text ++ "'"
  checkpointNs := "branch"

def callFor (toolName optionId : String) : ToolCall :=
  ⟨toolName,.null,[.dict [(.str "optionId",.str optionId),(.str "kind",.str "allow_once")]]⟩

def answerValue (requestId optionId : String) : Value :=
  .dict [(.str "option_id",.str optionId),(.str "request_id",.str requestId)]

def branchTurn (stored : List Value) : List Invocation :=
  turn byTool false (fun _ => none) [callFor "edit" "go",callFor "run" "start"] (fun _ => none)
    stored

def editing : Invocation := ⟨requestOf byTool (callFor "edit" "go"),.answered "go",
    [answerValue "perm-run" "start",answerValue "perm-edit" "go"]⟩

def running : Invocation := ⟨requestOf byTool (callFor "run" "start"),.answered "start",[]⟩

/-- The edit reads past the answer to the run. -/
theorem turn_answers_named_running :
    branchTurn [answerValue "perm-run" "start",answerValue "perm-edit" "go"] =
      [editing] ++ running :: [] ∧ running.outcome = .answered "start" ∧ running.read = [] := by
  have ht : branchTurn [answerValue "perm-run" "start",answerValue "perm-edit" "go"] =
      [editing] ++ running :: [] := rfl
  exact ⟨ht,(turn_answers_named ht).2.2 rfl "start" rfl (by decide)⟩

/-- Of two answers to the run that the edit reads past, the later one counts: the run is
suspended on it, though it offers what the other chose and would have been given that had
it come first. -/
theorem superseded_answer_lost :
    (branchTurn [answerValue "perm-run" "start",answerValue "perm-run" "stop",
      answerValue "perm-edit" "go"]).map Invocation.outcome =
        [.answered "go",.suspended (requestOf byTool (callFor "run" "start")).payload] ∧
    (turn byTool false (fun _ => none) [callFor "run" "start"] (fun _ => none)
      [answerValue "perm-run" "start",answerValue "perm-run" "stop",
        answerValue "perm-edit" "go"]).map Invocation.outcome = [.answered "start"] :=
  ⟨rfl,rfl⟩

end VaultspecA2A.PermissionCallback
