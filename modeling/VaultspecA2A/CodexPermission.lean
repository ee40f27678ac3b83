import VaultspecA2A.ToolPolicy

/-!
# The Codex lane's approvals

Codex announces the tool calls it starts and then asks for the approval of each. The question
carries the thread, the turn and the server of its call, and neither the name of the tool nor
an id of the call. The rung therefore keeps, for each thread, turn and server, the call that
was announced last, and decides the question about that one. An announcement without a usable
name is not kept, and none is ever retired.

A session is the list of what the rung sees, in order. A question stands in it where it is
decided, which is on a task of its own and may be after further announcements. Which call it
is about is known to Codex alone: here it is the frame with which that call was started.
-/
namespace VaultspecA2A.CodexPermission
open PyText PyValue PermissionOptions ProjectScope ToolPolicy List

def lenientJsonObject (value : Option Value) : Value :=
  match value with
  | some (.dict entries) => .dict entries
  | _ => .dict []

def acceptAction : String := "accept"

def declineAction : String := "decline"

def cancelAction : String := "cancel"

/-- The two decisions, in the shape of permission options; their names are left out. -/
def approvalOptions : List Value :=
  [.dict [(.str "optionId",.str acceptAction),(.str "kind",.str "allow_once")],
    .dict [(.str "optionId",.str declineAction),(.str "kind",.str "reject_once")]]

structure CodexToolCall where
  server : String
  tool : String
  arguments : Value

def CodexToolCall.qualifiedName (call : CodexToolCall) : String :=
  "mcp__" ++ call.server ++ "__" ++ call.tool

abbrev CallKey := String × String × String

def textField (params : Value) (key : String) : Option String := (params.get key).bind Value.text?

def callKey (params : Value) (server : Option String) : Option CallKey :=
  match textField params "threadId", textField params "turnId", server with
  | some threadId, some turnId, some server => some (threadId,turnId,server)
  | _, _, _ => none

def itemOf (params : Value) : Value := lenientJsonObject (params.get "item")

def announcement (params : Value) : Option (CallKey × CodexToolCall) :=
  match callKey params (textField (itemOf params) "server"), textField (itemOf params) "tool" with
  | some key, some tool =>
    some (key,⟨key.2.2,tool,lenientJsonObject ((itemOf params).get "arguments")⟩)
  | _, _ => none

def isToolCall (params : Value) : Bool := textField (itemOf params) "type" == some "mcpToolCall"

abbrev Announced := List (CallKey × CodexToolCall)

def observe (method : String) (params : Value) (announced : Announced) : Announced :=
  if method ∉ ["item/started","item/updated"] then announced
  else if !isToolCall params then announced
  else
    match announcement params with
    | some entry => entry :: announced
    | none => announced

def announcedCall (params : Value) (announced : Announced) : Option CodexToolCall :=
  (callKey params (textField params "serverName")).bind fun key => announced.lookup key

structure Rung where
  allowedTools : List (String × String)
  projectScope : RunProjectScope
  supervised : Bool
deriving DecidableEq, Repr

def isToolCallApproval (params : Value) : Bool :=
  textField (lenientJsonObject (params.get "_meta")) "codex_approval_kind" == some "mcp_tool_call"

def requestFor (call : CodexToolCall) : ToolPermissionRequest :=
  ⟨call.qualifiedName,call.arguments,approvalOptions⟩

section
variable (host : Host) (rung : Rung)

/-- The decision about a question; `answers` is what the human does when shown a name and
arguments. -/
protected def decide (announced : Announced) (params : Value) (answers : String → Value → Ask) :
    Except GraphBubbleUp String :=
  if !isToolCallApproval params then .ok declineAction
  else
    match announcedCall params announced with
    | none => .ok declineAction
    | some call =>
      (ToolPolicy.decide host (requestFor call) (some rung.projectScope)
        (rung.allowedTools.contains (call.server,call.tool))
        (if rung.supervised then some (answers call.qualifiedName call.arguments) else none)).map
        fun chosen => chosen.getD declineAction

/-- The action the session sends: a suspended decision abandons the call. -/
def sentAction (decision : Except GraphBubbleUp String) : String :=
  match decision with
  | .error _ => cancelAction
  | .ok action =>
    if action ∈ [acceptAction,declineAction,cancelAction] then action else declineAction

end

/-- What the rung sees; a question with the frame that started the call it is about. -/
inductive Event
  | notification (method : String) (params : Value)
  | elicitation (params : Value) (started : Value)

def announcedAfter (history : List Event) : Announced := history.foldl (fun announced event =>
    match event with
    | .notification method params => observe method params announced
    | .elicitation _ _ => announced) []

/-- The call of the question was started earlier, under its thread, turn and server. -/
structure StartedIn (history : List Event) (params started : Value) : Prop where
  seen : .notification "item/started" started ∈ history
  isToolCall : isToolCall started = true
  sameKey : ∃ key, callKey params (textField params "serverName") = some key ∧
    callKey started (textField (itemOf started) "server") = some key

def ownCall (started : Value) : Option CodexToolCall := (announcement started).map Prod.snd

/-- The call itself is accepted: an unattended run covers its tool and its arguments name no
foreign project; of a supervised run the human was shown its name and arguments. -/
def OwnAccepted (host : Host) (rung : Rung) (shown : Option CodexToolCall) (started : Value) :
    Prop :=
  ∃ own, ownCall started = some own ∧
    if rung.supervised then
      ∃ call, shown = some call ∧ call.qualifiedName = own.qualifiedName ∧
        call.arguments = own.arguments
    else
      (own.server,own.tool) ∈ rung.allowedTools ∧
        ¬ NamesForeignProject host rung.projectScope own.arguments

section
variable {host : Host} {rung ru : Rung} {call own : CodexToolCall} {announced an : Announced}
variable {params pa started st : Value} {answers ans : String → Value → Ask}

/-- A recorded call stands under its own server. -/
def ServerKeyed (announced : Announced) : Prop := ∀ entry ∈ announced, entry.2.server = entry.1.2.2

lemma announcement_server (h : announcement pa = some e) : e.2.server = e.1.2.2 := by
  unfold announcement at h
  split at h
  · cases h
    rfl
  · cases h

lemma observe_keyed (me : String) (pa : Value) (h : ServerKeyed an) :
    ServerKeyed (observe me pa an) := by
  unfold observe
  split
  · exact h
  split
  · exact h
  cases hen : announcement pa with
  | none => exact h
  | some e => exact forall_mem_cons.2 ⟨announcement_server hen,h⟩

lemma announcedAfter_keyed (lg : List Event) : ServerKeyed (announcedAfter lg) := by
  unfold announcedAfter
  generalize hs : ([] : Announced) = an
  have hk : ServerKeyed an := by
    rw [← hs]
    exact fun _ hm => (not_mem_nil hm).elim
  clear hs
  induction lg generalizing an with
  | nil => exact hk
  | cons e lg ih =>
    cases e with
    | notification me pa => exact ih _ (observe_keyed me pa hk)
    | elicitation _ _ => exact ih _ hk

lemma CodexToolCall.eq_of_shown (hs : call.server = own.server)
    (hn : call.qualifiedName = own.qualifiedName) (ha : call.arguments = own.arguments) :
    call = own := by
  obtain ⟨sr,tl,ar⟩ := call
  obtain ⟨se,too,ag⟩ := own
  cases hs
  cases ha
  have ht : tl = too := (String.append_right_inj _).1 hn
  rw [ht]

lemma answer_chosen :
    offeredAnswer approvalOptions (narrowedToOneUse acceptAction approvalOptions) =
      some acceptAction := by
  decide +kernel

lemma answer_covered :
    offeredAnswer approvalOptions (narrowestOptionId approvalOptions true) = some acceptAction := by
  decide +kernel

lemma answer_uncovered :
    offeredAnswer approvalOptions (optionIdOfKind approvalOptions .rejectOnce) =
      some declineAction := by
  decide +kernel

lemma decide_recorded (hk : isToolCallApproval pa = true) (hc : announcedCall pa an = some call) :
    CodexPermission.decide host ru an pa ans =
      (ToolPolicy.decide host (requestFor call) (some ru.projectScope)
        (ru.allowedTools.contains (call.server,call.tool))
        (if ru.supervised then some (ans call.qualifiedName call.arguments) else none)).map
        fun ch => ch.getD declineAction := by
  unfold CodexPermission.decide
  rw [hk,hc]
  rfl

lemma accepted_recorded (h : CodexPermission.decide host ru an pa ans = .ok acceptAction) :
    ∃ call, announcedCall pa an = some call ∧
      refusedAheadOfBothRungs host (requestFor call) (some ru.projectScope) = false ∧
      (ru.supervised = false → (call.server,call.tool) ∈ ru.allowedTools) := by
  have hk : isToolCallApproval pa = true := by
    by_contra hk
    rw [CodexPermission.decide,if_pos (by simpa using hk)] at h
    exact absurd h (by decide)
  cases hc : announcedCall pa an with
  | none =>
    unfold CodexPermission.decide at h
    rw [hk,hc] at h
    change Except.ok declineAction = _ at h
    exact absurd h (by decide)
  | some call =>
    rw [decide_recorded hk hc] at h
    have hgu : refusedAheadOfBothRungs host (requestFor call) (some ru.projectScope) =
        false := by
      by_contra hgu
      rw [decide_guarded _ _ (Bool.of_not_eq_false hgu)] at h
      exact absurd h (by decide)
    refine ⟨call,rfl,hgu,fun hu => ?_⟩
    rw [hu,if_neg Bool.false_ne_true,decide_unattended _ hgu] at h
    by_contra hun
    rw [show ru.allowedTools.contains (call.server,call.tool) = false by
      simpa using hun] at h
    change Except.ok ((offeredAnswer approvalOptions
      (optionIdOfKind approvalOptions .rejectOnce)).getD declineAction) = _ at h
    rw [answer_uncovered] at h
    exact absurd h (by decide)

lemma accepts_covered (hk : isToolCallApproval pa = true) (hc : announcedCall pa an = some call)
    (hgu : refusedAheadOfBothRungs host (requestFor call) (some ru.projectScope) = false)
    (hy : if ru.supervised then ans call.qualifiedName call.arguments = .chose acceptAction
      else (call.server,call.tool) ∈ ru.allowedTools) :
    CodexPermission.decide host ru an pa ans = .ok acceptAction := by
  rw [decide_recorded hk hc]
  cases hs : ru.supervised with
  | true =>
    rw [hs,if_pos rfl] at hy
    rw [if_pos rfl,decide_asked _ _ hgu,hy]
    exact congrArg (fun ch => Except.ok (ch.getD declineAction)) answer_chosen
  | false =>
    rw [hs,if_neg Bool.false_ne_true] at hy
    rw [if_neg Bool.false_ne_true,decide_unattended _ hgu,
      show ru.allowedTools.contains (call.server,call.tool) = true by simpa using hy]
    exact congrArg (fun ch => Except.ok (ch.getD declineAction)) answer_covered

lemma sameServer (hsta : StartedIn lg pa st) (hc : announcedCall pa (announcedAfter lg) = some call)
    (ho : ownCall st = some own) : call.server = own.server := by
  obtain ⟨key,hk,hst⟩ := hsta.sameKey
  rw [announcedCall,hk] at hc
  obtain ⟨p,q,hs,-⟩ := lookup_eq_some_iff.1 hc
  have hre := announcedAfter_keyed lg (key,call) (by simp [hs])
  obtain ⟨e,hen,rfl⟩ := Option.map_eq_some_iff.1 ho
  unfold announcement at hen
  rw [hst] at hen
  split at hen
  · cases hen
    rename_i heq _
    cases heq
    exact hre
  · cases hen

/-- Whoever runs the session, a question is accepted only if its own call is, exactly when
nothing is recorded for it, the guards refuse what is, or what is recorded is its own call and
names no foreign project. -/
theorem elicitation_accepted_iff {history : List Event}
    (hstarted : StartedIn history params started) (hkind : isToolCallApproval params = true)
    (host : Host) (scope : RunProjectScope) :
    (∀ (rung : Rung) (answers : String → Value → Ask), rung.projectScope = scope →
        CodexPermission.decide host rung (announcedAfter history) params answers =
          .ok acceptAction →
        OwnAccepted host rung (announcedCall params (announcedAfter history)) started) ↔
      ∀ call, announcedCall params (announcedAfter history) = some call →
        refusedAheadOfBothRungs host (requestFor call) (some scope) = true ∨
          ownCall started = some call ∧ ¬ NamesForeignProject host scope call.arguments := by
  constructor
  · intro h call hc
    by_cases hgu : refusedAheadOfBothRungs host (requestFor call) (some scope) = true
    · exact .inl hgu
    right
    have hp := Bool.eq_false_iff.2 hgu
    -- A human who allows whatever is shown, and an unattended run that covers just this tool.
    obtain ⟨own,ho,hsh⟩ := h ⟨[],scope,true⟩ (fun _ _ => .chose acceptAction) rfl
      (accepts_covered hkind hc hp rfl)
    obtain ⟨own',ho',-,hf⟩ := h ⟨[(call.server,call.tool)],scope,false⟩
      (fun _ _ => .raised) rfl (accepts_covered hkind hc hp (mem_singleton.2 rfl))
    obtain ⟨shown,heq,hn,har⟩ := hsh
    rw [hc] at heq
    cases heq
    have hs := CodexToolCall.eq_of_shown (sameServer hstarted hc ho) hn har
    rw [ho,← hs] at ho'
    cases ho'
    rw [hs] at hf ⊢
    exact ⟨ho,hf⟩
  · rintro h rung answers rfl ha
    obtain ⟨call,hc,hgu,hco⟩ := accepted_recorded ha
    rcases h call hc with hre | ⟨ho,hf⟩
    · rw [hgu] at hre
      cases hre
    refine ⟨call,ho,?_⟩
    split_ifs with hsu
    · exact ⟨call,hc,rfl,rfl⟩
    · exact ⟨hco (Bool.eq_false_iff.2 hsu),hf⟩

end

/-! One turn with calls of one server; the run covers `search_vault` alone. -/

def startedFrame (tool arguments : Value) : Value :=
  .dict [(.str "threadId",.str "thread"),(.str "turnId",.str "turn"),
    (.str "item",.dict [(.str "type",.str "mcpToolCall"),(.str "server",.str "vaultspec-rag"),
      (.str "tool",tool),(.str "arguments",arguments)])]

def question : Value := .dict [(.str "threadId",.str "thread"),(.str "turnId",.str "turn"),
    (.str "serverName",.str "vaultspec-rag"),
    (.str "_meta",.dict [(.str "codex_approval_kind",.str "mcp_tool_call")])]

def ownArguments : Value := .dict [(.str "project_root",.str "/work/run")]

def searchFrame : Value := startedFrame (.str "search_vault") ownArguments

def searchOnly : Rung := ⟨[("vaultspec-rag","search_vault")],runScope,false⟩

lemma startedIn_question (h : .notification "item/started" (startedFrame tl ar) ∈ lg) :
    StartedIn lg question (startedFrame tl ar) :=
  ⟨h,rfl,("thread","turn","vaultspec-rag"),rfl,rfl⟩

/-- The only call of a turn is judged by itself. -/
theorem single_call_accepted :
    let history := [.notification "item/started" searchFrame]
    StartedIn history question searchFrame ∧
      CodexPermission.decide plainHost searchOnly (announcedAfter history) question
        (fun _ _ => .raised) = .ok acceptAction ∧
      OwnAccepted plainHost searchOnly (announcedCall question (announcedAfter history))
        searchFrame := by
  have ha : CodexPermission.decide plainHost searchOnly
      (announcedAfter [.notification "item/started" searchFrame]) question
      (fun _ _ => .raised) = .ok acceptAction := by decide +kernel
  refine ⟨startedIn_question (.head _),ha,(elicitation_accepted_iff
    (startedIn_question (.head _)) rfl plainHost runScope).2 ?_ searchOnly _ rfl ha⟩
  intro call hc
  cases hc
  refine .inr ⟨rfl,?_⟩
  rintro ⟨depth,hf⟩
  cases hf with
  | here hm hfo =>
    cases mem_singleton.1 hm
    rcases hfo with ⟨_,_,_,path,heq,_,ho⟩ | ⟨_,heq,_⟩
    · cases heq
      exact absurd ho (by decide +kernel)
    · cases heq
  | inEntry hm hi =>
    cases mem_singleton.1 hm
    cases hi

/-- A call is accepted, and would not be by itself, when a search of the run's own project is
announced next to it. -/
def AcceptedBeside (tool arguments : Value) : Prop :=
  let started := startedFrame tool arguments
  let history := [.notification "item/started" started,.notification "item/started" searchFrame]
  StartedIn history question started ∧
    CodexPermission.decide plainHost searchOnly (announcedAfter history) question
      (fun _ _ => .raised) = .ok acceptAction ∧
    ¬ OwnAccepted plainHost searchOnly (announcedCall question (announcedAfter history)) started

/-- Three calls that may not be accepted: not covered, of another project, and without a
usable name. -/
theorem parallel_call_accepted : AcceptedBeside (.str "reindex_vault") ownArguments ∧
    AcceptedBeside (.str "search_vault") otherRoot ∧ AcceptedBeside .null otherRoot := by
  have hf : NamesForeignProject plainHost runScope otherRoot :=
    ⟨0,.here (.head _) (.inl ⟨"project_root",by decide,rfl,"/work/other",rfl,by decide,
      by decide +kernel⟩)⟩
  refine ⟨⟨startedIn_question (.head _),by decide +kernel,?_⟩,
    ⟨startedIn_question (.head _),by decide +kernel,?_⟩,
    startedIn_question (.head _),by decide +kernel,?_⟩
  all_goals
    rintro ⟨own,ho,ha⟩
    cases ho
  · exact absurd ha.1 (by decide)
  · exact ha.2 hf

end VaultspecA2A.CodexPermission
