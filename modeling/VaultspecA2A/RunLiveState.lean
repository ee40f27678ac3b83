import VaultspecA2A.Fanout

/-!
# The live state of a run's tool calls

The worker records the tool calls of a run as it emits their events, and the gateway rebuilds the
same record from the payloads the worker relays. Both sides apply the functions below; the
gateway's copy reads their arguments out of a payload, where an empty id, title or status counts
as none.

A run keeps the calls that go on and, of the settled ones, the fifty that were registered last.
The calls of a run are kept as the list of their entries in the order in which they were
registered; agents and graph nodes are left out.
-/
namespace VaultspecA2A.RunLiveState
open PyValue List

inductive ToolCallStatus
  | pending
  | inProgress
  | completed
  | failed
deriving DecidableEq, Repr

namespace ToolCallStatus

def value : ToolCallStatus → String
  | pending => "pending"
  | inProgress => "in_progress"
  | completed => "completed"
  | failed => "failed"

def all : List ToolCallStatus := [pending,inProgress,completed,failed]

def ofValue (raw : String) : Option ToolCallStatus := all.find? fun status => status.value == raw

def settled : ToolCallStatus → Bool
  | completed => true
  | failed => true
  | _ => false

end ToolCallStatus

inductive ToolKind
  | read
  | edit
  | delete
  | move
  | search
  | execute
  | think
  | fetch
  | switchMode
  | other
deriving DecidableEq, Repr

namespace ToolKind

def value : ToolKind → String
  | read => "read"
  | edit => "edit"
  | delete => "delete"
  | move => "move"
  | search => "search"
  | execute => "execute"
  | think => "think"
  | fetch => "fetch"
  | switchMode => "switch_mode"
  | other => "other"

def all : List ToolKind := [read,edit,delete,move,search,execute,think,fetch,switchMode,other]

def ofValue (raw : String) : Option ToolKind := all.find? fun kind => kind.value == raw

lemma ofValue_value (ki : ToolKind) : ofValue ki.value = some ki := by
  cases ki <;> decide

end ToolKind

structure ToolCallState where
  title : String
  kind : ToolKind
  status : ToolCallStatus
  agentId : String
deriving DecidableEq, Repr

abbrev Calls := List (String × ToolCallState)

def settledToolCallCap : ℕ := 50

namespace Calls

def set (calls : Calls) (key : String) (state : ToolCallState) : Calls :=
  if calls.any fun entry => entry.1 = key then
    calls.map fun entry => if entry.1 = key then (entry.1,state) else entry
  else calls ++ [(key,state)]

def settled (calls : Calls) : Calls := calls.filter fun entry => entry.2.status.settled

def pruneSettled (calls : Calls) : Calls :=
  let gone := (settled calls).take ((settled calls).length - settledToolCallCap)
  calls.filter fun entry => entry.1 ∉ gone.map Prod.fst

end Calls

def startToolCall (calls : Calls) (key title : String) (kind : ToolKind) (agentId : String) : Calls :=
  calls.set key ⟨title,kind,.pending,agentId⟩

/-- The parts of an update that a record keeps. -/
structure Changes where
  status : Option ToolCallStatus := none
  title : Option String := none
deriving DecidableEq, Repr

def Changes.isEmpty (changes : Changes) : Bool := changes.status.isNone && changes.title.isNone

def Changes.apply (changes : Changes) (state : ToolCallState) : ToolCallState :=
  { state with
    status := changes.status.getD state.status
    title := changes.title.getD state.title }

def Changes.register (changes : Changes) (agentId : String) : ToolCallState where
  title := (changes.title.filter fun title => title ≠ "").getD "unknown_tool"
  kind := .other
  status := changes.status.getD .pending
  agentId := agentId

/-- Merge one update into the record, before settled calls are given up. -/
def mergeToolCall (calls : Calls) (key agentId : String) (changes : Changes) : Calls :=
  match calls.lookup key with
  | some state => calls.set key (changes.apply state)
  | none => if changes.isEmpty then calls else calls.set key (changes.register agentId)

def updateToolCall (calls : Calls) (key agentId : String) (changes : Changes) : Calls :=
  let merged := mergeToolCall calls key agentId changes
  if changes.status.any ToolCallStatus.settled then merged.pruneSettled else merged

section
variable {cs : Calls} {key : String}

lemma lookup_cons_ite (e : String × ToolCallState) (cs : Calls) (key : String) :
    (e :: cs).lookup key = if key = e.1 then some e.2 else cs.lookup key := by
  obtain ⟨first,st⟩ := e
  split_ifs with h
  · subst h
    exact lookup_cons_self
  · rw [lookup_cons,beq_eq_false_iff_ne.2 h]

lemma lookup_replace (cs : Calls) (key o : String) (st : ToolCallState) :
    (cs.map fun e => if e.1 = key then (e.1,st) else e).lookup o =
      if o = key then (cs.lookup key).map fun _ => st else cs.lookup o := by
  induction cs with
  | nil => simp
  | cons e cs ih =>
    rw [map_cons,lookup_cons_ite,ih,lookup_cons_ite,lookup_cons_ite]
    by_cases hen : e.1 = key
    · rw [if_pos hen]
      dsimp only
      by_cases ho : o = key
      · rw [if_pos (ho.trans hen.symm),if_pos ho,if_pos hen.symm,Option.map_some]
      · have hne : o ≠ e.1 := fun heq => ho (heq.trans hen)
        rw [if_neg hne,if_neg ho,if_neg ho,if_neg hne]
    · rw [if_neg hen,if_neg (Ne.symm hen)]
      by_cases ho : o = key
      · have hne : o ≠ e.1 := fun heq => hen (heq.symm.trans ho)
        rw [if_neg hne,if_pos ho,if_pos ho]
      · rw [if_neg ho,if_neg ho]

lemma lookup_eq_none (h : cs.any (fun e => e.1 = key) = false) :
    cs.lookup key = none := by
  rw [lookup_eq_none_iff]
  intro e hen
  rw [any_eq_false] at h
  have hne : e.1 ≠ key := by simpa using h e hen
  simpa using Ne.symm hne

lemma lookup_set (cs : Calls) (key o : String) (st : ToolCallState) :
    (cs.set key st).lookup o = if o = key then some st else cs.lookup o := by
  unfold Calls.set
  by_cases ha : (cs.any fun e => e.1 = key) = true
  · rw [if_pos ha,lookup_replace]
    split_ifs with ho
    · obtain ⟨e,hen,hk⟩ := any_eq_true.1 ha
      cases hf : cs.lookup key with
      | none =>
        have hne := lookup_eq_none_iff.1 hf e hen
        simp [of_decide_eq_true hk] at hne
      | some fo => rfl
    · rfl
  · rw [if_neg ha,lookup_append,lookup_cons_ite]
    split_ifs with ho
    · rw [ho,lookup_eq_none (Bool.eq_false_iff.2 ha),Option.none_or]
    · rw [lookup_nil,Option.or_none]

lemma lookup_filter (cs : Calls) (go : List String) (key : String) :
    (cs.filter fun e => e.1 ∉ go).lookup key =
      if key ∈ go then none else cs.lookup key := by
  induction cs with
  | nil => simp
  | cons e cs ih =>
    by_cases hgo : e.1 ∈ go
    · rw [filter_cons_of_neg (by simpa using hgo),ih,lookup_cons_ite]
      by_cases hk : key = e.1
      · rw [hk,if_pos hgo,if_pos hgo]
      · rw [if_neg hk]
    · rw [filter_cons_of_pos (by simpa using hgo),lookup_cons_ite,lookup_cons_ite,ih]
      by_cases hk : key = e.1
      · rw [if_pos hk,if_pos hk,hk,if_neg hgo]
      · rw [if_neg hk,if_neg hk]

end

def relayedToolKind (raw : Option Value) : ToolKind :=
  ((raw.bind Value.text?).bind ToolKind.ofValue).getD .other

def relayedToolStatus (raw : Option Value) : Option ToolCallStatus :=
  (raw.bind Value.nonemptyStr).bind ToolCallStatus.ofValue

def syncToolCallStart (calls : Calls) (payload : Value) : Calls :=
  match payload.getStr "tool_call_id" with
  | some toolCallId =>
    startToolCall calls toolCallId (((payload.get "title").bind Value.text?).getD "unknown_tool")
      (relayedToolKind (payload.get "kind")) (((payload.get "agent_id").bind Value.text?).getD "")
  | none => calls

def syncToolCallUpdate (calls : Calls) (payload : Value) : Calls :=
  match payload.getStr "tool_call_id" with
  | some toolCallId =>
    updateToolCall calls toolCallId (((payload.get "agent_id").bind Value.text?).getD "")
      ⟨relayedToolStatus (payload.get "status"),payload.getStr "title"⟩
  | none => calls

def syncWorkerEvent (calls : Calls) (payload : Value) : Calls :=
  match (payload.get "type").bind Value.text? with
  | some "tool_call_start" => syncToolCallStart calls payload
  | some "tool_call_update" => syncToolCallUpdate calls payload
  | _ => calls

end VaultspecA2A.RunLiveState
