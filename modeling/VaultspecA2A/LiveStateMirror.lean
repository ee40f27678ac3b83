import VaultspecA2A.EventEmitters

/-!
# The gateway's copy of the tool calls

The gateway applies the broadcast events of a run, in the order in which they were broadcast, to a
copy of the worker's record. A debounced update moves the worker's record at once and the copy
when it is broadcast, if it is: an update that is held in the place of another one takes the
other's part in the record with it.

Between the two records stand the updates that are pending. As long as what is broadcast or held
does not cross with a pending update of the same call, the worker's record is the copy with the
pending updates merged in, and when none is pending the two show the same.
-/
namespace VaultspecA2A.LiveStateMirror
open Runs PyValue Debounce RunLiveState EventEmitters List Option Function

def optional {α : Type*} (value : α → Value) (entry : Option α) : Value :=
  (entry.map value).getD .null

/-- An event as the bridge relays it: the fields of the event, its type under both keys and its
number. -/
def startPayload (event : ToolCallStart) (sequence : ℕ) : Value := .dict
    [(.str "thread_id",.str event.threadId),(.str "agent_id",.str event.agentId),
      (.str "tool_call_id",.str event.toolCallId),(.str "title",.str event.title),
      (.str "kind",.str event.kind.value),(.str "status",.str ToolCallStatus.pending.value),
      (.str "locations",.list []),(.str "content",.list event.content),
      (.str "type",.str "tool_call_start"),(.str "event_type",.str "tool_call_start"),
      (.str "sequence",.int sequence)]

def updatePayload (event : ToolCallUpdate) (sequence : ℕ) : Value := .dict
    [(.str "thread_id",.str event.threadId),(.str "agent_id",.str event.agentId),
      (.str "tool_call_id",.str event.toolCallId),
      (.str "title",optional .str event.changes.title),(.str "kind",.null),
      (.str "status",optional (fun status => .str status.value) event.changes.status),
      (.str "locations",optional .list event.locations),
      (.str "content",optional .list event.content),
      (.str "type",.str "tool_call_update"),(.str "event_type",.str "tool_call_update"),
      (.str "sequence",.int sequence)]

/-- What is relayed of a run that the record of its tool calls depends on. -/
def toolPayload (threadId : String) (sent : SequencedEvent) : Option Value :=
  match sent.event with
  | .toolCallStart event =>
    if event.threadId = threadId then some (startPayload event sent.sequence) else none
  | .toolCallUpdate event =>
    if event.threadId = threadId then some (updatePayload event sent.sequence) else none
  | _ => none

/-- The gateway's copy when all that was broadcast has been relayed. -/
def mirror (threadId : String) (broadcasts : List SequencedEvent) : Calls :=
  (broadcasts.filterMap (toolPayload threadId)).foldl syncWorkerEvent []

lemma mirror_append (tid : String) (br mo : List SequencedEvent) : mirror tid (br ++ mo) =
    (mo.filterMap (toolPayload tid)).foldl syncWorkerEvent (mirror tid br) := by
  rw [mirror,filterMap_append,foldl_append]
  rfl

lemma nonemptyStr_str (h : x ≠ "") : (Value.str x).nonemptyStr = some x := by
  simpa [Value.nonemptyStr] using h

lemma sync_startPayload (cs : Calls) (hid : e.toolCallId ≠ "")
    (n : ℕ) : syncWorkerEvent cs (startPayload e n) =
      startToolCall cs e.toolCallId e.title e.kind e.agentId := by
  have hk : (startPayload e n).getStr "tool_call_id" = some e.toolCallId := nonemptyStr_str hid
  have hki : relayedToolKind ((startPayload e n).get "kind") = e.kind := by
    change (ToolKind.ofValue e.kind.value).getD .other = e.kind
    rw [ToolKind.ofValue_value,getD_some]
  change syncToolCallStart cs (startPayload e n) = _
  unfold syncToolCallStart
  rw [hk,hki]
  rfl

lemma sync_updatePayload (cs : Calls) (hid : e.toolCallId ≠ "")
    (ht : e.changes.title ≠ some "") (n : ℕ) :
    syncWorkerEvent cs (updatePayload e n) =
      updateToolCall cs e.toolCallId e.agentId e.changes := by
  have hk : (updatePayload e n).getStr "tool_call_id" = some e.toolCallId := nonemptyStr_str hid
  have ht' : (updatePayload e n).getStr "title" = e.changes.title := by
    change (optional Value.str e.changes.title).nonemptyStr = e.changes.title
    cases hc : e.changes.title with
    | none => rfl
    | some ti =>
      rw [hc,Ne,Option.some.injEq] at ht
      exact nonemptyStr_str ht
  have hs : relayedToolStatus ((updatePayload e n).get "status") =
      e.changes.status := by
    change ((optional (fun su : ToolCallStatus => Value.str su.value)
      e.changes.status).nonemptyStr).bind ToolCallStatus.ofValue = e.changes.status
    cases e.changes.status with
    | none => rfl
    | some su => cases su <;> rfl
  change syncToolCallUpdate cs (updatePayload e n) = _
  unfold syncToolCallUpdate
  rw [hk,ht',hs]
  rfl

abbrev Shown := String × ToolCallStatus

def view (calls : Calls) (key : String) : Option Shown :=
  (calls.lookup key).map fun state => (state.title,state.status)

def onto (changes : Changes) : Option Shown → Option Shown
  | some (title,status) => some (changes.title.getD title,changes.status.getD status)
  | none =>
    if changes.isEmpty then none
    else some ((changes.register "").title,(changes.register "").status)

section
variable {changes ch pe : Changes}

lemma view_start (cs : Calls) (key o ti : String) (ki : ToolKind) (gid : String) :
    view (startToolCall cs key ti ki gid) o =
      if o = key then some (ti,.pending) else view cs o := by
  unfold view startToolCall
  rw [lookup_set]
  split_ifs <;> rfl

lemma view_merge (cs : Calls) (key o gid : String) (ch : Changes) :
    view (mergeToolCall cs key gid ch) o =
      if o = key then onto ch (view cs key) else view cs o := by
  unfold mergeToolCall view
  cases hf : cs.lookup key with
  | some st =>
    dsimp only
    rw [lookup_set]
    split_ifs <;> rfl
  | none =>
    dsimp only [map_none,onto]
    by_cases hem : ch.isEmpty = true
    · rw [if_pos hem,if_pos hem]
      split_ifs with hk
      · rw [hk,hf,map_none]
      · rfl
    · rw [if_neg hem,if_neg hem,lookup_set]
      split_ifs <;> rfl

def givenUp (changes : Changes) (merged : Calls) : List String :=
  if changes.status.any ToolCallStatus.settled then
    (merged.settled.take (merged.settled.length - settledToolCallCap)).map Prod.fst
  else []

lemma update_eq (cs : Calls) (key gid : String) (ch : Changes) : updateToolCall cs key gid ch =
    (mergeToolCall cs key gid ch).filter fun e =>
      e.1 ∉ givenUp ch (mergeToolCall cs key gid ch) := by
  unfold updateToolCall givenUp
  dsimp only
  split_ifs
  · rfl
  · simp

lemma view_update (cs : Calls) (key o gid : String) (ch : Changes) :
    view (updateToolCall cs key gid ch) o =
      if o ∈ givenUp ch (mergeToolCall cs key gid ch) then none
      else if o = key then onto ch (view cs key) else view cs o := by
  rw [← view_merge cs key o gid ch,update_eq]
  unfold view
  rw [lookup_filter]
  split_ifs <;> rfl

/-! Two updates of one call. -/

def Apart (first second : Changes) : Bool :=
  (first.status.isNone || second.status.isNone) && (first.title.isNone || second.title.isNone)

/-- The first names every part of the record that the second names. -/
def Covers (first second : Changes) : Bool :=
  (second.status.isNone || first.status.isSome) && (second.title.isNone || first.title.isSome)

lemma onto_empty (h : ch.isEmpty = true) (be : Option Shown) : onto ch be = be := by
  obtain ⟨su,ti⟩ := ch
  simp only [Changes.isEmpty,Bool.and_eq_true,isNone_iff_eq_none] at h
  obtain ⟨rfl,rfl⟩ := h
  cases be <;> rfl

lemma onto_eq (h : ch.title ≠ some "") (be : Option Shown) : onto ch be =
    if ch.isEmpty then be
    else some (ch.title.getD (be.getD ("unknown_tool",.pending)).1,
      ch.status.getD (be.getD ("unknown_tool",.pending)).2) := by
  split_ifs with hem
  · exact onto_empty hem be
  · cases be with
    | some sh => rfl
    | none =>
      have ht : (ch.register "").title = ch.title.getD "unknown_tool" := by
        cases hc : ch.title with
        | none => simp [Changes.register,hc]
        | some ti =>
          have hne : ti ≠ "" := by simpa [hc] using h
          rw [Changes.register,hc,filter_some,if_pos (decide_eq_true hne)]
      rw [onto,if_neg hem,ht]
      rfl

lemma onto_comm (h : Apart ch pe = true) (hc : ch.title ≠ some "")
    (hp : pe.title ≠ some "") (be : Option Shown) :
    onto ch (onto pe be) = onto pe (onto ch be) := by
  rw [onto_eq hc,onto_eq hp,onto_eq hc,onto_eq hp]
  obtain ⟨su,ti⟩ := ch
  obtain ⟨st,tt⟩ := pe
  cases su <;> cases st <;> cases ti <;> cases tt <;> simp_all [Apart,Changes.isEmpty]

lemma onto_covers (h : Covers ch pe = true) (hc : ch.title ≠ some "")
    (hp : pe.title ≠ some "") (be : Option Shown) :
    onto ch (onto pe be) = onto ch be := by
  rw [onto_eq hc,onto_eq hp,onto_eq hc]
  obtain ⟨su,ti⟩ := ch
  obtain ⟨st,tt⟩ := pe
  cases su <;> cases st <;> cases ti <;> cases tt <;> simp_all [Covers,Changes.isEmpty]

end

def changesOf (sent : SequencedEvent) : Changes :=
  match sent.event with
  | .toolCallUpdate event => event.changes
  | _ => {}

section
variable {T : Type*}

def pendingChanges (p : Producer T) (threadId key : String) : Option Changes :=
  (p.tools.pending (threadId,key)).map changesOf

/-- What is shown of a call once its pending update is merged in. -/
def caughtUp (pending : Option Changes) (before : Option Shown) : Option Shown :=
  match pending with
  | some changes => onto changes before
  | none => before

/-- The worker's record is the gateway's copy with the pending updates merged in. -/
structure Mirrors (threadId : String) (p : Producer T) : Prop where
  shown : ∀ key, view (p.calls threadId) key =
    caughtUp (pendingChanges p threadId key) (view (mirror threadId p.broadcasts) key)
  named : ∀ key sent, p.tools.pending (threadId,key) = some sent →
    key ≠ "" ∧ (changesOf sent).title ≠ some ""

variable [AddGroup T] [LinearOrder T] (settings : Settings T)

structure StartFits (p : Producer T) (event : ToolCallStart) : Prop where
  named : event.toolCallId ≠ ""
  pending : ∀ changes, pendingChanges p event.threadId event.toolCallId = some changes →
    changes.isEmpty = true

/-- An update that is broadcast at once names no part of the record that the pending one names,
and the two records give up the same settled calls for it, none of which has an update pending.
An update that is held names every part that the pending one names, and the worker's record
gives up nothing for it. -/
structure UpdateFits (p : Producer T) (event : ToolCallUpdate) (now : T) : Prop where
  named : event.toolCallId ≠ ""
  titled : event.changes.title ≠ some ""
  direct : Direct settings.toolPolicy p.tools (event.threadId,event.toolCallId) now →
    (∀ changes, pendingChanges p event.threadId event.toolCallId = some changes →
      Apart event.changes changes = true) ∧
    givenUp event.changes
        (mergeToolCall (p.calls event.threadId) event.toolCallId event.agentId event.changes) =
      givenUp event.changes (mergeToolCall (mirror event.threadId p.broadcasts) event.toolCallId
        event.agentId event.changes) ∧
    ∀ key ∈ givenUp event.changes
        (mergeToolCall (p.calls event.threadId) event.toolCallId event.agentId event.changes),
      pendingChanges p event.threadId key = none
  held : ¬ Direct settings.toolPolicy p.tools (event.threadId,event.toolCallId) now →
    (∀ changes, pendingChanges p event.threadId event.toolCallId = some changes →
      Covers event.changes changes = true) ∧
    givenUp event.changes
      (mergeToolCall (p.calls event.threadId) event.toolCallId event.agentId event.changes) = []

/-- The gateway's copy gives up nothing for an update that a timer broadcasts. -/
def TimerFits (p : Producer T) (threadId key : String) : Prop :=
  ∀ event sequence, p.tools.pending (threadId,key) = some ⟨.toolCallUpdate event,sequence⟩ →
    givenUp event.changes
      (mergeToolCall (mirror threadId p.broadcasts) key event.agentId event.changes) = []

/-- The steps of a run that do not cross with its pending updates. -/
def Fits (threadId : String) (p : Producer T) : Action T → Prop
  | .toolCallStart event => event.threadId = threadId → StartFits p event
  | .toolCallUpdate event now => event.threadId = threadId → UpdateFits settings p event now
  | .toolTimer key started now => key.1 = threadId →
      Due settings.toolPolicy p.tools key started now → TimerFits p threadId key.2
  | _ => True

def FittingSteps (threadId : String) (p : Producer T) (action : Action T) (p' : Producer T) : Prop :=
  Fits settings threadId p action ∧ p' = step settings p action

end

lemma mirror_irrelevant (h : ∀ se, out = some se → toolPayload tid se = none) :
    mirror tid (br ++ out.toList) = mirror tid br := by
  rw [mirror_append]
  cases out with
  | none => rfl
  | some se =>
    rw [toList_some,filterMap_cons_none (h se rfl)]
    rfl

lemma mirror_start (hid : e.toolCallId ≠ "") (n : ℕ) :
    mirror e.threadId (br ++ (some ⟨.toolCallStart e,n⟩ : Option SequencedEvent).toList) =
      startToolCall (mirror e.threadId br) e.toolCallId e.title e.kind
        e.agentId := by
  have hp : toolPayload e.threadId ⟨.toolCallStart e,n⟩ = some (startPayload e n) := if_pos rfl
  rw [mirror_append,toList_some,filterMap_cons_some hp,foldl_cons,sync_startPayload _ hid]
  rfl

lemma mirror_update (hid : e.toolCallId ≠ "") (ht : e.changes.title ≠ some "") (n : ℕ) :
    mirror e.threadId (br ++ (some ⟨.toolCallUpdate e,n⟩ : Option SequencedEvent).toList) =
      updateToolCall (mirror e.threadId br) e.toolCallId e.agentId
        e.changes := by
  have hp : toolPayload e.threadId ⟨.toolCallUpdate e,n⟩ = some (updatePayload e n) := if_pos rfl
  rw [mirror_append,toList_some,filterMap_cons_some hp,foldl_cons,sync_updatePayload _ hid ht]
  rfl

lemma toolPayload_of_planKey (h : se.event.planKey = some o) : toolPayload tid se = none := by
  obtain ⟨e,n⟩ := se
  cases e with
  | planUpdate e => rfl
  | _ => cases h

lemma toolPayload_of_updateKey (h : se.event.updateKey = some key) (hne : key.1 ≠ tid) :
    toolPayload tid se = none := by
  obtain ⟨e,n⟩ := se
  cases e with
  | toolCallUpdate e =>
    cases h
    exact if_neg hne
  | _ => cases h

section
variable {T : Type*} [AddGroup T] [LinearOrder T] {settings cf : Settings T} {threadId tid : String}
 {p p' : Producer T} {action ac : Action T}

omit [AddGroup T] [LinearOrder T] in
lemma Mirrors.kept (h : Mirrors tid p) (hc : p'.calls tid = p.calls tid)
    (hp : ∀ key, p'.tools.pending (tid,key) = p.tools.pending (tid,key))
    (hm : mirror tid p'.broadcasts = mirror tid p.broadcasts) :
    Mirrors tid p' := by
  constructor
  · intro key
    rw [hc,hm,pendingChanges,hp]
    exact h.shown key
  · intro key se hs
    rw [hp] at hs
    exact h.named key se hs

omit [AddGroup T] [LinearOrder T] in
lemma Mirrors.start (h : Mirrors e.threadId p)
    (hf : StartFits p e) : Mirrors e.threadId (emitToolCallStart p e) := by
  refine ⟨fun key => ?_,h.named⟩
  change view (Function.update p.calls e.threadId _ e.threadId) key =
    caughtUp (pendingChanges p e.threadId key) (view (mirror e.threadId (p.broadcasts ++ _)) key)
  rw [update_self,mirror_start hf.named,view_start,view_start]
  split_ifs with hk
  · rw [hk]
    cases hp : pendingChanges p e.threadId e.toolCallId with
    | none => rfl
    | some ch => exact (onto_empty (hf.pending ch hp) _).symm
  · exact h.shown key

lemma Mirrors.direct (h : Mirrors e.threadId p) (hf : UpdateFits cf p e now)
    (hd : Direct cf.toolPolicy p.tools (e.threadId,e.toolCallId) now) (key : String) :
    view (updateToolCall (p.calls e.threadId) e.toolCallId e.agentId e.changes) key =
      caughtUp (pendingChanges p e.threadId key)
        (view (updateToolCall (mirror e.threadId p.broadcasts) e.toolCallId e.agentId
          e.changes) key) := by
  obtain ⟨ha,hs,hgo⟩ := hf.direct hd
  rw [view_update,view_update,← hs]
  split_ifs with hm hk
  · rw [hgo key hm]
    rfl
  · rw [hk,h.shown]
    cases hp : pendingChanges p e.threadId e.toolCallId with
    | none => rfl
    | some ch =>
      obtain ⟨se,hse,rfl⟩ := map_eq_some_iff.1 hp
      exact onto_comm (ha _ hp) hf.titled (h.named _ se hse).2 _
  · exact h.shown key

lemma Mirrors.held (h : Mirrors e.threadId p) (hf : UpdateFits cf p e now)
    (hh : ¬ Direct cf.toolPolicy p.tools (e.threadId,e.toolCallId) now)
    (key : String) :
    view (updateToolCall (p.calls e.threadId) e.toolCallId e.agentId e.changes) key =
      caughtUp (if key = e.toolCallId then some e.changes
        else pendingChanges p e.threadId key) (view (mirror e.threadId p.broadcasts) key) := by
  obtain ⟨hc,hn⟩ := hf.held hh
  rw [view_update,hn,if_neg not_mem_nil]
  split_ifs with hk
  · rw [hk,h.shown]
    cases hp : pendingChanges p e.threadId e.toolCallId with
    | none => rfl
    | some ch =>
      obtain ⟨se,hs,rfl⟩ := map_eq_some_iff.1 hp
      exact onto_covers (hc _ hp) hf.titled (h.named _ se hs).2 _
  · exact h.shown key

lemma Mirrors.update (h : Mirrors e.threadId p) (hf : UpdateFits cf p e now) :
    Mirrors e.threadId (emitToolCallUpdate cf p e now) := by
  have hc : (emitToolCallUpdate cf p e now).calls e.threadId =
      updateToolCall (p.calls e.threadId) e.toolCallId e.agentId e.changes :=
    update_self _ _ _
  have ht : (emitToolCallUpdate cf p e now).tools =
      (emits cf.toolPolicy p.tools (e.threadId,e.toolCallId)
        ⟨.toolCallUpdate e,p.next e.threadId⟩ now).1 := rfl
  rcases emits_cases cf.toolPolicy p.tools (e.threadId,e.toolCallId)
      ⟨.toolCallUpdate e,p.next e.threadId⟩ now with
    ⟨hd,hs,hp,-⟩ | ⟨hh,hs,hp,-⟩
  · have hm : mirror e.threadId (emitToolCallUpdate cf p e now).broadcasts =
        updateToolCall (mirror e.threadId p.broadcasts) e.toolCallId e.agentId
          e.changes := by
      rw [← mirror_update hf.named hf.titled (p.next e.threadId),← hs]
      rfl
    constructor
    · intro key
      rw [hc,hm,pendingChanges,ht,hp]
      exact h.direct hf hd key
    · intro key se hk
      rw [ht,hp] at hk
      exact h.named key se hk
  · have hm : mirror e.threadId (emitToolCallUpdate cf p e now).broadcasts =
        mirror e.threadId p.broadcasts := by
      refine mirror_irrelevant fun se ho => ?_
      rw [hs] at ho
      cases ho
    constructor
    · intro key
      rw [hc,hm,pendingChanges,ht,hp,h.held hf hh key]
      split_ifs with hk
      · rw [hk,update_self]
        rfl
      · rw [update_of_ne fun heq => hk (Prod.mk.inj heq).2]
        rfl
    · intro key se hk
      rw [ht,hp] at hk
      by_cases hid : key = e.toolCallId
      · rw [hid,update_self,Option.some.injEq] at hk
        rw [hid,← hk]
        exact ⟨hf.named,hf.titled⟩
      · rw [update_of_ne fun heq => hid (Prod.mk.inj heq).2] at hk
        exact h.named key se hk

omit [AddGroup T] [LinearOrder T] in
lemma Mirrors.view_sent (h : Mirrors tid p) (hs : Sound p) (hf : TimerFits p tid key) (o : String) :
    view (p.calls tid) o = caughtUp (if o = key then none else pendingChanges p tid o)
        (view (mirror tid (p.broadcasts ++ (p.tools.pending (tid,key)).toList)) o) := by
  cases hh : p.tools.pending (tid,key) with
  | none =>
    rw [toList_none,append_nil,h.shown o]
    split_ifs with hk
    · rw [hk,pendingChanges,hh]
      rfl
    · rfl
  | some se =>
    obtain ⟨e,n⟩ := se
    have ho := hs.tools.holds _ _ hh
    -- what is held under the key of a call is an update of that call
    cases e with
    | toolCallUpdate e =>
      obtain ⟨rfl,rfl⟩ := Prod.mk.inj (Option.some.inj ho)
      obtain ⟨hid,ht⟩ := h.named _ _ hh
      rw [mirror_update hid ht,view_update,hf e n hh,if_neg not_mem_nil,h.shown o]
      split_ifs with hk
      · rw [hk,pendingChanges,hh]
        rfl
      · rfl
    | _ => cases ho

lemma Mirrors.timer (h : Mirrors tid p) (hso : Sound p)
    (hf : Due cf.toolPolicy p.tools (tid,key) st now → TimerFits p tid key) :
    Mirrors tid (broadcastDebouncedToolUpdate cf p (tid,key) st now) := by
  have ht : (broadcastDebouncedToolUpdate cf p (tid,key) st now).tools =
      (fires cf.toolPolicy p.tools (tid,key) st now).1 := rfl
  rcases fires_cases cf.toolPolicy p.tools (tid,key) st now with
    ⟨-,hs⟩ | ⟨hd,hse,hp,-⟩
  · refine h.kept rfl (fun _ => by rw [ht,hs]) (mirror_irrelevant fun se hou => ?_)
    rw [hs] at hou
    cases hou
  · have hm : mirror tid (broadcastDebouncedToolUpdate cf p (tid,key) st now).broadcasts =
        mirror tid (p.broadcasts ++ (p.tools.pending (tid,key)).toList) := by
      rw [← hse]
      rfl
    constructor
    · intro o
      rw [hm,pendingChanges,ht,hp]
      refine (h.view_sent hso (hf hd) o).trans ?_
      split_ifs with hk
      · rw [hk,update_self]
        rfl
      · rw [update_of_ne fun heq => hk (Prod.mk.inj heq).2]
        rfl
    · intro o se ho
      rw [ht,hp] at ho
      by_cases hk : o = key
      · rw [hk,update_self] at ho
        cases ho
      · rw [update_of_ne fun heq => hk (Prod.mk.inj heq).2] at ho
        exact h.named o se ho

lemma Mirrors.step (h : Mirrors tid p) (hso : Sound p)
    (hm : FittingSteps cf tid p ac p') : Mirrors tid p' := by
  obtain ⟨hf,rfl⟩ := hm
  cases ac with
  | other other =>
    refine h.kept rfl (fun _ => rfl) (mirror_irrelevant ?_)
    rintro _ ⟨⟩
    rfl
  | toolCallStart e =>
    by_cases hru : e.threadId = tid
    · subst hru
      exact h.start (hf rfl)
    · refine h.kept (update_of_ne (Ne.symm hru) _ _) (fun _ => rfl)
        (mirror_irrelevant ?_)
      rintro _ ⟨⟩
      exact if_neg hru
  | toolCallUpdate e now =>
    by_cases hru : e.threadId = tid
    · subst hru
      exact h.update (hf rfl)
    · refine h.kept (update_of_ne (Ne.symm hru) _ _) (fun key => ?_)
        (mirror_irrelevant fun se hs => ?_)
      · have hne : (tid,key) ≠ (e.threadId,e.toolCallId) := fun heq => hru (Prod.mk.inj heq).1.symm
        rcases emits_cases cf.toolPolicy p.tools (e.threadId,e.toolCallId)
            ⟨.toolCallUpdate e,p.next e.threadId⟩ now with
          ⟨-,-,hp,-⟩ | ⟨-,-,hp,-⟩
        · exact congrFun hp _
        · exact (congrFun hp _).trans (update_of_ne hne _ _)
      · exact toolPayload_of_updateKey (emits_sent DomainEvent.updateKey rfl se hs) hru
  | planUpdate e now =>
    refine h.kept rfl (fun _ => rfl) (mirror_irrelevant fun se hs => ?_)
    exact toolPayload_of_planKey (emits_sent DomainEvent.planKey rfl se hs)
  | toolTimer key st now =>
    obtain ⟨run,key⟩ := key
    by_cases hru : run = tid
    · subst hru
      exact h.timer hso (hf rfl)
    · refine h.kept rfl (fun other => ?_) (mirror_irrelevant fun se hs => ?_)
      · have hne : (tid,other) ≠ (run,key) := fun heq => hru (Prod.mk.inj heq).1.symm
        rcases fires_cases cf.toolPolicy p.tools (run,key) st now with
          ⟨-,hsa⟩ | ⟨-,-,hp,-⟩
        · exact congrFun (congrArg (fun fi => fi.1.pending) hsa) _
        · exact (congrFun hp _).trans (update_of_ne hne _ _)
      · exact toolPayload_of_updateKey (hso.tools.fires_sent se hs) hru
  | planTimer other st now =>
    refine h.kept rfl (fun _ => rfl) (mirror_irrelevant fun se hs => ?_)
    exact toolPayload_of_planKey (hso.plans.fires_sent se hs)
  | prune other => exact h.kept rfl (fun _ => rfl) rfl

/-- In a run none of whose steps crosses with a pending update, the gateway shows each tool call as
the worker does whenever no update of the run is pending. -/
theorem mirror_shows_worker {actions : List (Action T)}
    (hrun : Run (FittingSteps settings threadId) {} actions p)
    (hfired : ∀ key, p.tools.pending (threadId,key) = none) (key : String) :
    view (mirror threadId p.broadcasts) key = view (p.calls threadId) key := by
  have hk : Sound p ∧ Mirrors threadId p := by
    refine hrun.invariant (fun p => Sound p ∧ Mirrors threadId p) ?_ ⟨sound_init,?_⟩
    · rintro p action p' ⟨hs,hmi⟩ hm
      refine ⟨?_,hmi.step hs hm⟩
      rw [hm.2]
      exact hs.step action
    · refine ⟨fun _ => rfl,fun _ _ hn => ?_⟩
      cases hn
  rw [hk.2.shown key,pendingChanges,hfired key]
  rfl

end

def callUpdate (changes : Changes) : ToolCallUpdate :=
  { threadId := "t", agentId := "a", toolCallId := "c", changes }

def callStart : ToolCallStart :=
  { threadId := "t", agentId := "a", toolCallId := "c", title := "Read" }

/-- A call that starts and goes on, and whose completion is held and broadcast by its timer. -/
def completing : List (Action ℤ) :=
  [.toolCallStart callStart,.toolCallUpdate (callUpdate { status := some .inProgress }) 1000,
    .toolCallUpdate (callUpdate { status := some .completed }) 1050,.toolTimer ("t","c") 1050 1150]

lemma completing_run :
    Run (FittingSteps milliseconds "t") {} completing (completing.foldl (step milliseconds) {}) := by
  refine .step ⟨fun _ => ⟨by decide,fun _ hn => ?_⟩,rfl⟩ ?_
  · cases hn
  refine .step ⟨fun _ => ⟨by decide,by decide,fun _ => ⟨?_,by decide,by decide⟩,?_⟩,rfl⟩ ?_
  · intro _ hn
    cases hn
  · exact fun hh => (hh (by decide)).elim
  refine .step ⟨fun _ => ⟨by decide,by decide,?_,fun _ => ⟨?_,by decide⟩⟩,rfl⟩ ?_
  · exact fun hd => absurd hd (by decide)
  · intro _ hn
    cases hn
  refine .step ⟨fun _ _ e n hh => ?_,rfl⟩ (.done _)
  cases hh
  decide

lemma pending_eq_none {held be : String × String → Option SequencedEvent}
    (h : held = Function.update be ("t","c") none)
    (hb : ∀ key, key ≠ ("t","c") → be key = none) (key : String) :
    held ("t",key) = none := by
  rw [h]
  by_cases hk : ("t",key) = ("t","c")
  · rw [hk,update_self]
  · rw [update_of_ne hk,hb _ hk]

theorem mirror_shows_worker_completed :
    view (mirror "t" (completing.foldl (step milliseconds) {}).broadcasts) "c" =
      some ("Read",.completed) :=
  (mirror_shows_worker completing_run
    (pending_eq_none rfl fun _ hne => update_of_ne hne _ _) "c").trans (by decide)

def retitling : List (Action ℤ) :=
  [.toolCallStart callStart,.toolCallUpdate (callUpdate { status := some .inProgress }) 1000,
    .toolCallUpdate (callUpdate { status := some .completed }) 1050,
    .toolCallUpdate (callUpdate { title := some "Read file" }) 1060,.toolTimer ("t","c") 1050 1150]

theorem completion_never_mirrored :
    let p := retitling.foldl (step milliseconds) {}
    (∀ key, p.tools.pending ("t",key) = none) ∧
      view (p.calls "t") "c" = some ("Read file",.completed) ∧
      view (mirror "t" p.broadcasts) "c" = some ("Read file",.inProgress) := by
  intro p
  refine ⟨pending_eq_none rfl fun key hne => ?_,by decide,by decide⟩
  exact (update_of_ne hne _ _).trans (update_of_ne hne _ _)

end VaultspecA2A.LiveStateMirror
