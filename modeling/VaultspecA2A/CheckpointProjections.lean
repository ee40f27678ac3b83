import VaultspecA2A.Selections
import VaultspecA2A.CheckpointEvidence

/-!
# The questions a checkpoint holds

A parked run's questions are read twice. The worker reads them off the live state of the
graph, task by task; the gateway reads them off the writes the store holds against the
checkpoint. Both leave out the tasks that have produced output since, and both disclose a
question only when it names its request and its type.

What storage holds is not trusted: a held write is an object of any shape, and the interrupts in
it are objects of the graph library, or plain values.
-/
namespace VaultspecA2A.CheckpointProjections
open Selections PyValue CheckpointEvidence List

/-- An object of durable storage: a plain value, a sequence that may hold interrupts of the
graph library, or such an interrupt, with its value and its id. -/
inductive Stored
  | plain (value : Value)
  | tuple (items : List Stored)
  | list (items : List Stored)
  | interrupt (value : Value) (id : String)

namespace Stored

def items? : Stored → Option (List Stored)
  | plain (.list values) => some (values.map plain)
  | tuple items => some items
  | list items => some items
  | _ => none

def text? : Stored → Option String
  | plain value => value.text?
  | _ => none

mutual
/-- Whether a set can be asked for the object. An interrupt compares by value, and a class
that does and is not frozen has no hash. -/
def hashable : Stored → Bool
  | plain value => isHashable value
  | tuple items => hashables items
  | list _ => false
  | interrupt _ _ => false

def hashables : List Stored → Bool
  | [] => true
  | item :: items => hashable item && hashables items
end

/-- What iterating over the object yields: the items of a sequence, the characters of a
text, the keys of a mapping. -/
def iterated? : Stored → Option (List Stored)
  | plain (.str s) => some (s.toList.map fun c => plain (.str c.toString))
  | plain (.dict entries) => some (entries.map fun e => plain e.1)
  | object => object.items?

end Stored

inductive Fault
  | typeError
  | valueError
deriving DecidableEq, Repr

def unpack (object : Stored) : Except Fault (Stored × Stored × Stored) :=
  match object.iterated? with
  | none => .error .typeError
  | some [first,second,third] => .ok (first,second,third)
  | some _ => .error .valueError

/-- A held write shaped as `(task_id, channel, value)`, with parts of any kind. -/
structure Entry where
  task : Stored
  channel : Stored
  value : Stored

def entryOf? (write : Stored) : Option Entry :=
  match write.items? with
  | some [task,channel,value] => some ⟨task,channel,value⟩
  | _ => none

/-- The held writes of three parts; a write of any other shape is skipped. -/
def heldWriteEntries (pendingWrites : List Stored) : List Entry := pendingWrites.filterMap entryOf?

def finishedTask? (entry : Entry) : Option String :=
  match entry.task.text?, entry.channel.text? with
  | some task, some channel => if channel ∉ taskBookkeepingChannels then some task else none
  | _, _ => none

def tasksPastTheirInterrupt (pendingWrites : List Stored) : List String :=
  (heldWriteEntries pendingWrites).filterMap finishedTask?

def Entry.interrupts (entry : Entry) : Bool :=
  decide (entry.channel.text? = some interruptChannel)

/-- Whether the task of an entry is not among the given ones, which are texts. -/
def Entry.taskNotIn (entry : Entry) (answered : List String) : Bool :=
  match entry.task.text? with
  | none => true
  | some task => decide (task ∉ answered)

/-- The held interrupt writes of the tasks still asking their question. The task of each
interrupt write is looked up in a set. -/
def unansweredInterruptValues (pendingWrites : List Stored) : Except Fault (List Stored) :=
  let entries := heldWriteEntries pendingWrites
  let answered := tasksPastTheirInterrupt pendingWrites
  if entries.any fun e => e.interrupts && !e.task.hashable then .error .typeError
  else .ok ((entries.filter fun e => e.interrupts && e.taskNotIn answered).map Entry.value)

/-- The non-empty `request_id` the value names. -/
def namedRequestId (value : Value) : Option String := value.getStr "request_id"

def interruptPayload (raw : Stored) : Option Value :=
  match raw with
  | .interrupt value _ => if value.isDict then some value else none
  | .plain value => if value.isDict then some value else none
  | _ => none

structure ProjectedInterrupt where
  interruptId : String
  interruptType : String
  payload : Value

inductive DegradedReason
  | interruptPayloadUnreadable
  | interruptPayloadUntyped
  | checkpointHistoryUnknown
deriving DecidableEq, Repr

structure CheckpointProjection where
  pendingWriteCount : ℕ
  pendingWriteChannels : List String
  pendingInterrupts : List ProjectedInterrupt
  unnamedInterruptTypes : List String
  degradedReasons : List DegradedReason
  pauseCause : Option String
  historyDepth : Option ℕ

def baseProjection (historyDepth : Option ℕ) : CheckpointProjection :=
  ⟨0,[],[],[],[],none,historyDepth⟩

def CheckpointProjection.degrade (projection : CheckpointProjection) (reason : DegradedReason) :
    CheckpointProjection :=
  { projection with degradedReasons := projection.degradedReasons ++ [reason] }

def projectPendingInterrupt (projection : CheckpointProjection) (raw : Stored) :
    CheckpointProjection :=
  match interruptPayload raw with
  | none => projection.degrade .interruptPayloadUnreadable
  | some payload =>
    match (payload.get "type").bind Value.text? with
    | none => projection.degrade .interruptPayloadUntyped
    | some interruptType =>
      match namedRequestId payload with
      | none =>
        { projection.degrade .interruptPayloadUnreadable with
          unnamedInterruptTypes := projection.unnamedInterruptTypes ++ [interruptType] }
      | some requestId =>
        { projection with
          pendingInterrupts := projection.pendingInterrupts ++ [⟨requestId,interruptType,payload⟩] }

def recordPendingChannel (projection : CheckpointProjection) (channel : Stored) :
    CheckpointProjection :=
  match channel.text? with
  | none => projection
  | some name =>
    if name ∉ projection.pendingWriteChannels then
      { projection with pendingWriteChannels := projection.pendingWriteChannels ++ [name] }
    else projection

def rawInterrupts (value : Stored) : List Stored := value.items?.getD [value]

def projectWriteInterrupts (projection : CheckpointProjection) (value : Stored) :
    CheckpointProjection :=
  (rawInterrupts value).foldl projectPendingInterrupt projection

def countWrite (projection : CheckpointProjection) (write : Stored) :
    Except Fault CheckpointProjection :=
  match unpack write with
  | .error fault => .error fault
  | .ok parts =>
    .ok (recordPendingChannel
      { projection with pendingWriteCount := projection.pendingWriteCount + 1 } parts.2.1)

def recordPauseCause (projection : CheckpointProjection) : CheckpointProjection :=
  match projection.pendingInterrupts with
  | [] => projection
  | first :: _ => { projection with pauseCause := some first.interruptType }

def recordHistory (projection : CheckpointProjection) : CheckpointProjection :=
  match projection.historyDepth with
  | none => projection.degrade .checkpointHistoryUnknown
  | some _ => projection

def foldPendingWrites (projection : CheckpointProjection) (pendingWrites : List Stored) :
    Except Fault CheckpointProjection := do
  let counted ← pendingWrites.foldlM countWrite projection
  let values ← unansweredInterruptValues pendingWrites
  return recordHistory (recordPauseCause (values.foldl projectWriteInterrupts counted))

def projectCheckpointTuple (pendingWrites : List Stored) (historyDepth : Option ℕ) :
    Except Fault CheckpointProjection :=
  foldPendingWrites (baseProjection historyDepth) pendingWrites

/-- What is left of a read of the checkpoint: whatever the projection raises is caught. -/
def projectCheckpointRead (pendingWrites : List Stored) (historyDepth : Option ℕ) :
    Option CheckpointProjection :=
  (projectCheckpointTuple pendingWrites historyDepth).toOption

structure LiveInterrupt where
  taskId : String
  taskName : String
  interruptId : Option String
  interruptType : Option String
  requestId : Option String
  payload : Option Value

structure GraphTask where
  id : String
  name : String
  interrupts : List Stored

def interruptId? : Stored → Option String
  | .interrupt _ id => if id.isEmpty then none else some id
  | _ => none

def liveInterrupt (task : GraphTask) (raw : Stored) : LiveInterrupt :=
  { taskId := task.id
    taskName := task.name
    interruptId := interruptId? raw
    interruptType := (interruptPayload raw).bind fun p => (p.get "type").bind Value.text?
    requestId := (interruptPayload raw).bind namedRequestId
    payload := interruptPayload raw }

/-- The questions the live state is still stopped on, task by task. -/
def liveInterrupts (tasks : List GraphTask) (heldWrites : List Stored) : List LiveInterrupt :=
  (tasks.filter fun task => decide (task.id ∉ tasksPastTheirInterrupt heldWrites)).flatMap
    fun task => task.interrupts.map (liveInterrupt task)

def LiveInterrupt.question? (live : LiveInterrupt) : Option ProjectedInterrupt :=
  live.requestId.bind fun requestId => live.interruptType.bind fun interruptType =>
    live.payload.map fun payload => ⟨requestId,interruptType,payload⟩

def question? (raw : Stored) : Option ProjectedInterrupt :=
  (interruptPayload raw).bind fun payload =>
    ((payload.get "type").bind Value.text?).bind fun interruptType =>
      (namedRequestId payload).map fun requestId => ⟨requestId,interruptType,payload⟩

def questionsOf (value : Stored) : List ProjectedInterrupt :=
  (rawInterrupts value).filterMap question?

structure TaskWrite where
  task : String
  channel : String
  value : Stored

def Entry.taskWrite? (entry : Entry) : Option TaskWrite :=
  match entry.task.text?, entry.channel.text? with
  | some task, some channel => some ⟨task,channel,entry.value⟩
  | _, _ => none

def taskWrites (pendingWrites : List Stored) : List TaskWrite :=
  (heldWriteEntries pendingWrites).filterMap Entry.taskWrite?

/-- Whether the write is an interrupt of a task without output. -/
def asks (writes : List TaskWrite) (write : TaskWrite) : Bool :=
  decide (write.channel = interruptChannel ∧
    ∀ other ∈ writes, other.task = write.task → other.channel ∈ taskBookkeepingChannels)

/-- The questions of the tasks that have not got past them. -/
def openQuestions (writes : List TaskWrite) : List ProjectedInterrupt :=
  (writes.filter (asks writes)).flatMap fun write => questionsOf write.value

section
variable {pendingWrites pw : List Stored}

lemma projectPendingInterrupt_asked (pr : CheckpointProjection) (raw : Stored) :
    (projectPendingInterrupt pr raw).pendingInterrupts =
      pr.pendingInterrupts ++ (question? raw).toList := by
  unfold projectPendingInterrupt
  split
  · rename_i hp
    simp [question?,hp,CheckpointProjection.degrade]
  · rename_i pl hp
    split
    · rename_i ht
      simp [question?,hp,ht,CheckpointProjection.degrade]
    · rename_i it ht
      split <;> rename_i hn <;> simp [question?,hp,ht,hn,CheckpointProjection.degrade]

lemma projectWriteInterrupts_asked (pr : CheckpointProjection) (value : Stored) :
    (projectWriteInterrupts pr value).pendingInterrupts =
      pr.pendingInterrupts ++ questionsOf value := by
  rw [questionsOf,filterMap_eq_flatMap_toList]
  exact foldl_view projectPendingInterrupt_asked (rawInterrupts value) pr

lemma countWrite_asked (h : countWrite pr write = .ok co) :
    co.pendingInterrupts = pr.pendingInterrupts := by
  unfold countWrite at h
  split at h
  · cases h
  · cases h
    unfold recordPendingChannel
    split
    · rfl
    · split_ifs <;> rfl

lemma foldlM_countWrite (pw : List Stored) (pr : CheckpointProjection) :
    (∃ co, pw.foldlM countWrite pr = .ok co ∧ co.pendingInterrupts = pr.pendingInterrupts) ∧
        (∀ write ∈ pw, ∃ pa, unpack write = .ok pa) ∨
    (∃ fa, pw.foldlM countWrite pr = .error fa) ∧ ¬ ∀ write ∈ pw, ∃ pa, unpack write = .ok pa := by
  induction pw generalizing pr with
  | nil => exact .inl ⟨⟨pr,rfl,rfl⟩,nofun⟩
  | cons write r ih =>
    rw [foldlM_cons]
    cases hu : unpack write with
    | error fa =>
      refine .inr ⟨⟨fa,by rw [countWrite,hu]; rfl⟩,fun ha => ?_⟩
      obtain ⟨pa,hp⟩ := ha write mem_cons_self
      cases hu.symm.trans hp
    | ok pa =>
      obtain ⟨first,hf⟩ : ∃ first, countWrite pr write = .ok first := ⟨_,by rw [countWrite,hu]⟩
      rw [hf]
      rcases ih first with ⟨⟨co,hc,hask⟩,ha⟩ | ⟨hfa,hn⟩
      · refine .inl ⟨⟨co,hc,hask.trans (countWrite_asked hf)⟩,?_⟩
        exact forall_mem_cons.2 ⟨⟨pa,hu⟩,ha⟩
      · exact .inr ⟨hfa,fun ha => hn (forall_mem_cons.1 ha).2⟩

def askingEntries (pendingWrites : List Stored) : List Entry :=
  (heldWriteEntries pendingWrites).filter fun e =>
    e.interrupts && e.taskNotIn (tasksPastTheirInterrupt pendingWrites)

lemma record_asked (pr : CheckpointProjection) :
    (recordHistory (recordPauseCause pr)).pendingInterrupts =
      pr.pendingInterrupts := by
  unfold recordHistory recordPauseCause
  split <;> split <;> rfl

lemma projectCheckpointTuple_iff :
    (∃ p, projectCheckpointTuple pw historyDepth = .ok p ∧ p.pendingInterrupts = ak) ↔
      (∀ write ∈ pw, ∃ pa, unpack write = .ok pa) ∧
      (∀ e ∈ heldWriteEntries pw, e.interrupts = true → e.task.hashable = true) ∧
      (askingEntries pw).flatMap (fun e => questionsOf e.value) = ak := by
  unfold projectCheckpointTuple foldPendingWrites
  rcases foldlM_countWrite pw (baseProjection historyDepth) with
    ⟨⟨co,hc,hn⟩,hpa⟩ | ⟨⟨fa,hfa⟩,hpa⟩
  · rw [hc]
    have hlo : ((heldWriteEntries pw).any fun e =>
        e.interrupts && !e.task.hashable) = false ↔
        ∀ e ∈ heldWriteEntries pw, e.interrupts = true → e.task.hashable = true := by
      simp
    by_cases hl : ((heldWriteEntries pw).any fun e =>
        e.interrupts && !e.task.hashable) = true
    · have hv : unansweredInterruptValues pw = .error .typeError := if_pos hl
      rw [hv,← hlo,hl]
      simp [bind,Except.bind]
    · rw [Bool.not_eq_true] at hl
      have hv : unansweredInterruptValues pw =
          .ok ((askingEntries pw).map Entry.value) := if_neg (by simp [hl])
      have hf := foldl_view projectWriteInterrupts_asked ((askingEntries pw).map Entry.value) co
      rw [hn,flatMap_map] at hf
      rw [hv,← hlo]
      simp only [bind,Except.bind,pure,Except.pure,Except.ok.injEq,exists_eq_left',hl,
        record_asked,hf,true_and]
      exact ⟨fun h => ⟨hpa,h⟩,And.right⟩
  · rw [hfa]
    constructor
    · rintro ⟨p,hp,-⟩
      cases hp
    · rintro ⟨ha,-,-⟩
      exact (hpa ha).elim

lemma taskWrite?_iff {e : Entry} : e.taskWrite? = some write ↔
    e.task.text? = some write.task ∧ e.channel.text? = some write.channel ∧
      e.value = write.value := by
  obtain ⟨ta,ch,value⟩ := write
  unfold Entry.taskWrite?
  cases e.task.text? <;> cases e.channel.text? <;> simp

lemma mem_tasksPastTheirInterrupt {ta : String} :
    ta ∈ tasksPastTheirInterrupt pw ↔ ∃ write ∈ taskWrites pw,
      write.task = ta ∧ write.channel ∉ taskBookkeepingChannels := by
  simp only [tasksPastTheirInterrupt,taskWrites,mem_filterMap]
  constructor
  · rintro ⟨e,he,ht⟩
    unfold finishedTask? at ht
    split at ht
    · rename_i na ch hn hc
      split_ifs at ht with ho
      exact ⟨⟨na,ch,e.value⟩,⟨e,he,taskWrite?_iff.2 ⟨hn,hc,rfl⟩⟩, Option.some.inj ht,ho⟩
    · cases ht
  · rintro ⟨write,⟨e,he,hw⟩,rfl,ho⟩
    obtain ⟨hn,hc,-⟩ := taskWrite?_iff.1 hw
    exact ⟨e,he,by rw [finishedTask?,hn,hc]; exact if_pos ho⟩

lemma asks_iff : asks (taskWrites pw) write = true ↔
    write.channel = interruptChannel ∧ write.task ∉ tasksPastTheirInterrupt pw := by
  rw [asks,decide_eq_true_eq,mem_tasksPastTheirInterrupt]
  simp only [not_exists,not_and,not_not]

lemma openQuestions_eq : openQuestions (taskWrites pw) =
    ((askingEntries pw).filter fun e => e.task.text?.isSome).flatMap
      fun e => questionsOf e.value := by
  have ha : ∀ (e : Entry) write, e.taskWrite? = some write →
      (e.task.text?.isSome && (e.interrupts && e.taskNotIn (tasksPastTheirInterrupt pw))) =
          asks (taskWrites pw) write := by
    intro e write hw
    obtain ⟨ht,hc,-⟩ := taskWrite?_iff.1 hw
    rw [Bool.eq_iff_iff,asks_iff]
    simp [Entry.interrupts,Entry.taskNotIn,ht,hc]
  rw [openQuestions,askingEntries,filter_filter]
  revert ha
  rw [taskWrites]
  generalize asks ((heldWriteEntries pw).filterMap Entry.taskWrite?) = ak
  intro ha
  induction heldWriteEntries pw with
  | nil => rfl
  | cons e es ih =>
    cases hw : e.taskWrite? with
    | none =>
      rw [filterMap_cons_none hw,filter_cons_of_neg,ih]
      intro h
      obtain ⟨ht,hre⟩ := Bool.and_eq_true_iff.1 h
      obtain ⟨ta,ht⟩ := Option.isSome_iff_exists.1 ht
      have hc := of_decide_eq_true (Bool.and_eq_true_iff.1 hre).1
      have hs : e.taskWrite? = some ⟨ta,interruptChannel,e.value⟩ := taskWrite?_iff.2 ⟨ht,hc,rfl⟩
      rw [hw] at hs
      cases hs
    | some write =>
      rw [filterMap_cons_some hw,filter_cons,filter_cons,ha e write hw]
      have hv := (taskWrite?_iff.1 hw).2.2
      split_ifs
      · rw [flatMap_cons,flatMap_cons,ih,hv]
      · exact ih

end

/-- Every write has three parts, and an interrupt whose task has no textual name can be
looked up and asks nothing. -/
structure Tolerable (pendingWrites : List Stored) : Prop where
  parts : ∀ write ∈ pendingWrites, ∃ parts, unpack write = .ok parts
  unnamed : ∀ e ∈ heldWriteEntries pendingWrites, e.interrupts = true → e.task.text? = none →
    e.task.hashable = true ∧ questionsOf e.value = []

lemma hashable_of_text {ob : Stored} (h : ob.text? = some x) : ob.hashable = true := by
  cases ob with
  | plain value =>
    cases value with
    | str s => rfl
    | _ => cases h
  | _ => cases h

lemma projects_tuple_iff (pw : List Stored) (historyDepth : Option ℕ) :
    (∃ p, projectCheckpointTuple pw historyDepth = .ok p ∧
      p.pendingInterrupts = openQuestions (taskWrites pw)) ↔
      Tolerable pw := by
  rw [projectCheckpointTuple_iff,openQuestions_eq,flatMap_filter_eq_iff]
  constructor
  · rintro ⟨hp,hl,hn⟩
    refine ⟨hp,fun e he hi ht => ⟨hl e he hi,?_⟩⟩
    refine hn e (mem_filter.2 ⟨he,?_⟩) (by rw [ht]; rfl)
    rw [hi,Entry.taskNotIn,ht]
    rfl
  · rintro ⟨hp,hu⟩
    refine ⟨hp,fun e he hi => ?_,fun e he ht => ?_⟩
    · cases ht : e.task.text? with
      | none => exact (hu e he hi ht).1
      | some ta => exact hashable_of_text ht
    · obtain ⟨he,ha⟩ := mem_filter.1 he
      exact (hu e he (Bool.and_eq_true_iff.1 ha).1
        (Option.not_isSome_iff_eq_none.1 (Bool.eq_false_iff.1 ht))).2

/-- The held writes project to the questions of the well-formed ones exactly where the
others are tolerable. -/
theorem projects_well_formed_iff (pendingWrites : List Stored) (historyDepth : Option ℕ) :
    (∃ p, projectCheckpointRead pendingWrites historyDepth = some p ∧
      p.pendingInterrupts = openQuestions (taskWrites pendingWrites)) ↔
      Tolerable pendingWrites := by
  rw [← projects_tuple_iff pendingWrites historyDepth,projectCheckpointRead]
  cases projectCheckpointTuple pendingWrites historyDepth <;> simp [Except.toOption]

def planQuestion (requestId : String) : Stored :=
  .interrupt (.dict [(.str "type",.str "plan_approval"),(.str "request_id",.str requestId)]) "i"

def heldTuple (task channel : String) (value : Stored) : Stored :=
  .tuple [.plain (.str task),.plain (.str channel),value]

/-- A write of two parts beside a question hides it. -/
theorem malformed_write_hides_question :
    (openQuestions (taskWrites [heldTuple "task-1" interruptChannel (planQuestion "request-1"),
      .tuple [.plain (.str "task-2"),.plain (.str "messages")]])).map
        ProjectedInterrupt.interruptId = ["request-1"] ∧
    projectCheckpointRead [heldTuple "task-1" interruptChannel (planQuestion "request-1"),
      .tuple [.plain (.str "task-2"),.plain (.str "messages")]] none = none :=
  ⟨rfl,rfl⟩

def heldAgainst (writes : List TaskWrite) (task : String) : List Stored :=
  (writes.filter fun w => decide (w.channel = interruptChannel ∧ w.task = task)).flatMap
    fun w => rawInterrupts w.value

/-- The snapshot lists for each task exactly the interrupts held against it. -/
structure Lists (tasks : List GraphTask) (writes : List TaskWrite) : Prop where
  distinct : (tasks.map GraphTask.id).Nodup
  interrupts : ∀ task ∈ tasks, task.interrupts.Perm (heldAgainst writes task.id)
  listed : ∀ w ∈ writes, w.channel = interruptChannel → w.task ∈ tasks.map GraphTask.id

lemma live_question (ta : GraphTask) (raw : Stored) :
    (liveInterrupt ta raw).question? = question? raw := by
  unfold liveInterrupt LiveInterrupt.question? question?
  cases interruptPayload raw with
  | none => rfl
  | some pl =>
    simp only [Option.bind_some]
    cases namedRequestId pl <;> cases (pl.get "type").bind Value.text? <;> rfl

lemma liveInterrupts_questions : (liveInterrupts ts pw).filterMap LiveInterrupt.question? =
    (ts.filter fun t => decide (t.id ∉ tasksPastTheirInterrupt pw)).flatMap
      fun t => t.interrupts.filterMap question? := by
  rw [liveInterrupts,filterMap_flatMap]
  refine flatMap_congr fun ta _ => ?_
  rw [filterMap_map]
  exact congrArg (List.filterMap · ta.interrupts) (funext (live_question ta))

lemma liveInterrupts_open (h : Lists ts (taskWrites pw)) :
    ((liveInterrupts ts pw).filterMap LiveInterrupt.question?).Perm
      (openQuestions (taskWrites pw)) := by
  rw [liveInterrupts_questions]
  -- an unfinished task lists what is asked under its name
  have hgr : ∀ t ∈ ts.filter fun t => decide (t.id ∉ tasksPastTheirInterrupt pw),
      (t.interrupts.filterMap question?).Perm
        ((((taskWrites pw).filter (asks (taskWrites pw))).filter
          fun w => decide (w.task = t.id)).flatMap fun w => questionsOf w.value) := by
    intro t ht
    obtain ⟨hm,ho⟩ := mem_filter.1 ht
    refine ((h.interrupts t hm).filterMap question?).trans (.of_eq ?_)
    rw [heldAgainst,filterMap_flatMap,filter_filter]
    refine congrArg (List.flatMap fun w : TaskWrite => questionsOf w.value) ?_
    refine filter_congr fun w _ => ?_
    rw [Bool.eq_iff_iff,Bool.and_eq_true,asks_iff,decide_eq_true_eq,decide_eq_true_eq]
    constructor
    · rintro ⟨hc,hta⟩
      exact ⟨hta,hc,hta ▸ of_decide_eq_true ho⟩
    · rintro ⟨hta,hc,-⟩
      exact ⟨hc,hta⟩
  refine (List.Perm.flatMap_left _ hgr).trans ?_
  have hd := (filter_sublist (p := fun t : GraphTask =>
    decide (t.id ∉ tasksPastTheirInterrupt pw))).map GraphTask.id |>.nodup h.distinct
  have hp := flatMap_groups_perm TaskWrite.task (fun w => questionsOf w.value) hd
    (l := (taskWrites pw).filter (asks (taskWrites pw))) (fun w hw => ?_)
  · rwa [flatMap_map] at hp
  · obtain ⟨hm,ha⟩ := mem_filter.1 hw
    obtain ⟨hc,ho⟩ := asks_iff.1 ha
    obtain ⟨ta,hta,hid⟩ := mem_map.1 (h.listed w hm hc)
    exact mem_map.2 ⟨ta,mem_filter.2 ⟨hta,decide_eq_true (hid ▸ ho)⟩,hid⟩

lemma taskWrites_perm (h : od.Perm pw) : (taskWrites od).Perm (taskWrites pw) :=
  (h.filterMap entryOf?).filterMap Entry.taskWrite?

lemma openQuestions_perm (h : la.Perm wr) : (openQuestions la).Perm (openQuestions wr) := by
  have ha : asks la = asks wr := by
    funext w
    simp only [asks,h.mem_iff]
  rw [openQuestions,ha]
  exact (h.filter _).flatMap_right _

lemma Lists.perm (hp : la.Perm wr) (h : Lists ts wr) : Lists ts la := by
  refine ⟨h.distinct,fun t ht => (h.interrupts t ht).trans ?_,fun w hw => ?_⟩
  · exact (hp.symm.filter _).flatMap_right _
  · exact h.listed w (hp.mem_iff.1 hw)

lemma tolerable_of_shape (h : ∀ write ∈ pw, ∃ w, (entryOf? write).bind Entry.taskWrite? = some w) :
    Tolerable pw := by
  refine ⟨fun write hwr => ?_,fun e he _ ht => ?_⟩
  · obtain ⟨w,hw⟩ := h write hwr
    obtain ⟨e,he,-⟩ := Option.bind_eq_some_iff.1 hw
    unfold entryOf? at he
    split at he
    · rename_i ta ch value hi
      have hit : write.iterated? = some [ta,ch,value] := by
        unfold Stored.iterated?
        split
        · cases hi
        · cases hi
        · exact hi
      exact ⟨(ta,ch,value),by rw [unpack,hit]⟩
    · cases he
  · obtain ⟨write,hwr,hen⟩ := mem_filterMap.1 he
    obtain ⟨w,hw⟩ := h write hwr
    rw [hen,Option.bind_some] at hw
    rw [(taskWrite?_iff.1 hw).1] at ht
    cases ht

/-- The live state and the held writes disclose the same questions, those of the tasks
without output, in whatever order the writes are held. -/
theorem readings_agree {tasks : List GraphTask} {pendingWrites order : List Stored}
    (hshape : ∀ write ∈ pendingWrites, ∃ w, (entryOf? write).bind Entry.taskWrite? = some w)
    (hlists : Lists tasks (taskWrites pendingWrites)) (horder : order.Perm pendingWrites)
    (historyDepth : Option ℕ) :
    ∃ p, projectCheckpointTuple order historyDepth = .ok p ∧
      p.pendingInterrupts.Perm (openQuestions (taskWrites pendingWrites)) ∧
      ((liveInterrupts tasks order).filterMap LiveInterrupt.question?).Perm
        (openQuestions (taskWrites pendingWrites)) := by
  have hw := taskWrites_perm horder
  have ht : Tolerable order :=
    tolerable_of_shape fun write hwr => hshape write (horder.mem_iff.1 hwr)
  obtain ⟨p,hp,ha⟩ := (projects_tuple_iff order historyDepth).2 ht
  refine ⟨p,hp,?_,?_⟩
  · rw [ha]
    exact openQuestions_perm hw
  · exact (liveInterrupts_open (hlists.perm hw)).trans (openQuestions_perm hw)

def branchWrites : List Stored := [heldTuple "task-1" interruptChannel (planQuestion "request-1"),
    heldTuple "task-2" interruptChannel (.list [planQuestion "request-2"]),
    heldTuple "task-2" "messages" (.plain .null)]

theorem readings_agree_branches : ∃ p, projectCheckpointTuple branchWrites.reverse none = .ok p ∧
    p.pendingInterrupts.Perm (openQuestions (taskWrites branchWrites)) ∧
    ((liveInterrupts [⟨"task-2","b",[planQuestion "request-2"]⟩,
      ⟨"task-1","a",[planQuestion "request-1"]⟩] branchWrites.reverse).filterMap
        LiveInterrupt.question?).Perm (openQuestions (taskWrites branchWrites)) := by
  refine readings_agree ?_ ⟨by decide,?_,?_⟩ (reverse_perm _) none
  · intro write hwr
    simp only [branchWrites,mem_cons,not_mem_nil,or_false] at hwr
    rcases hwr with rfl | rfl | rfl <;> exact ⟨_,rfl⟩
  · intro task ht
    simp only [mem_cons,not_mem_nil,or_false] at ht
    rcases ht with rfl | rfl <;> exact .refl _
  · intro w hw _
    change w ∈ [_,_,_] at hw
    simp only [mem_cons,not_mem_nil,or_false] at hw
    rcases hw with rfl | rfl | rfl <;> decide

end VaultspecA2A.CheckpointProjections
