import VaultspecA2A.Folds
import VaultspecA2A.KeyedUnions
import VaultspecA2A.ActionClaims

/-!
# What a checkpoint proves about an action

A recovery pass reads the latest checkpoint of a run and says what it proves about
the action that owns the run. The receipts of the action arrive on two channels. A
resume that suspends again leaves its receipt a write held against the checkpoint it
answered, so held writes are folded onto the committed channels, each with the reducer
of its own channel; the input of a first turn is staged in a channel of its own and is
folded before them. Completion is read off the committed channels alone.

Durable storage is not trusted. Every stored value is an untyped one, read as its schema reads it;
a write of another shape makes the checkpoint incompatible.
-/
namespace VaultspecA2A.CheckpointEvidence
open Folds KeyedUnions PyText PyValue ThreadLifecycle Database ActionClaims List

def activeReceiptChannel : String := "active_graph_action_receipt"
def incorporatedReceiptsChannel : String := "graph_action_receipts"
def completionReceiptsChannel : String := "graph_completion_receipts"

/-- A whole number under the strict reading, which takes no truth value for one. -/
def natural? : Value → Option ℕ
  | .int n => if 0 ≤ n then some n.toNat else none
  | _ => none

def isHexDigit (c : Char) : Bool := c.isDigit || (decide ('a' ≤ c) && decide (c ≤ 'f'))

/-- `^sha256:[0-9a-f]{64}$`. -/
def isFingerprint (text : String) : Bool := startsWith text "sha256:" &&
    (decide ((text.toList.drop 7).length = 64) && (text.toList.drop 7).all isHexDigit)

def controlActionTypes : List ControlActionType :=
  [.ingest,.resume,.cancel,.permissionRequestCreated,.permissionResponseSubmitted,
    .permissionResponseApplied,.messageFollowupRequested,.messageFollowupApplied]

def controlActionType? (text : String) : Option ControlActionType :=
  controlActionTypes.find? fun t => decide (t.value = text)

def graphActionFields : List String :=
  ["schema_version","thread_id","action_id","action_type","payload_fingerprint",
    "dispatch_id","run_revision","writer_generation"]

def admissible (receipt : GraphActionReceipt) : Bool :=
  validReceipt receipt && isFingerprint receipt.payloadFingerprint

def modelValidate (raw : Value) : Option GraphActionReceipt :=
  if raw.hasOnlyFields graphActionFields ∧
      (raw.get "schema_version").bind Value.text? = some "graph-action-v1" then do
    let threadId ← (raw.get "thread_id").bind Value.text?
    let actionId ← (raw.get "action_id").bind Value.text?
    let actionType ← ((raw.get "action_type").bind Value.text?).bind controlActionType?
    let payloadFingerprint ← (raw.get "payload_fingerprint").bind Value.text?
    let dispatchId ← (raw.get "dispatch_id").bind Value.text?
    let runRevision ← (raw.get "run_revision").bind natural?
    let writerGeneration ← (raw.get "writer_generation").bind natural?
    let receipt : GraphActionReceipt :=
      ⟨threadId,actionId,actionType,payloadFingerprint,dispatchId,runRevision,writerGeneration⟩
    if admissible receipt then some receipt else none
  else none

def dumpEntries (receipt : GraphActionReceipt) : List (String × Value) :=
  [("schema_version",.str "graph-action-v1"),("thread_id",.str receipt.threadId),
    ("action_id",.str receipt.actionId),("action_type",.str receipt.actionType.value),
    ("payload_fingerprint",.str receipt.payloadFingerprint),
    ("dispatch_id",.str receipt.dispatchId),("run_revision",.int receipt.runRevision),
    ("writer_generation",.int receipt.writerGeneration)]

def modelDump (receipt : GraphActionReceipt) : Value :=
  .dict ((dumpEntries receipt).map fun e => (.str e.1,e.2))

def equalsScalar : Value → Value → Bool
  | .str s, .str t => s == t
  | .int m, .int n => m == n
  | .bool b, .int n => (if b then 1 else 0) == n
  | .float literal, .int n => literal == toString n ++ ".0"
  | _, _ => false

def equalsDump (stored : Value) (receipt : GraphActionReceipt) : Bool :=
  match stored with
  | .dict entries =>
    decide (entries.length = (dumpEntries receipt).length) &&
      (dumpEntries receipt).all fun e => (stored.get e.1).any fun v => equalsScalar v e.2
  | _ => false

structure GraphCompletionReceipt where
  action : GraphActionReceipt
deriving DecidableEq, Repr

def GraphCompletionReceipt.modelValidate (raw : Value) : Option GraphCompletionReceipt :=
  if raw.hasOnlyFields ["schema_version","action","outcome"] ∧
      (raw.get "schema_version").bind Value.text? = some "graph-completion-v1" ∧
      (raw.get "outcome").bind Value.text? = some "completed" then
    ((raw.get "action").bind CheckpointEvidence.modelValidate).map fun action => ⟨action⟩
  else none

def mergeEntry (merged : List (Value × Value)) (entry : Value × Value) :
    Option (List (Value × Value)) :=
  match modelValidate entry.2 with
  | none => none
  | some receipt =>
    if entry.1.text? ≠ some receipt.dispatchId then none
    else
      match (Value.dict merged).get receipt.dispatchId with
      | none => some (merged ++ [(.str receipt.dispatchId,modelDump receipt)])
      | some previous => if equalsDump previous receipt then some merged else none

/-- Union exact receipts; a conflicting identity is refused. -/
def mergeGraphActionReceipts (existing incoming : List (Value × Value)) :
    Option (List (Value × Value)) :=
  (existing ++ incoming).foldlM mergeEntry []

/-- Keep the receipt of the most recently accepted action. A stored value that no longer
parses counts as absent. -/
def mergeActiveGraphActionReceipt (existing incoming : List (Value × Value)) : Option Value :=
  match modelValidate (.dict incoming) with
  | none => none
  | some arriving =>
    match modelValidate (.dict existing) with
    | none => some (modelDump arriving)
    | some current =>
      if arriving.writerGeneration < current.writerGeneration then some (modelDump current)
      else some (modelDump arriving)

def receiptReducer (channel : String) :
    Option (List (Value × Value) → List (Value × Value) → Option Value) :=
  if channel = activeReceiptChannel then some mergeActiveGraphActionReceipt
  else if channel = incorporatedReceiptsChannel then
    some fun existing incoming => (mergeGraphActionReceipts existing incoming).map .dict
  else none

inductive CheckpointEvidenceKind
  | absent
  | priorAction
  | pending
  | completed
  | interrupted
  | failed
  | incompatible
  | unavailable
deriving DecidableEq, Repr

structure Evidence where
  kind : CheckpointEvidenceKind
  checkpointId : Option String
  incorporated : Bool
deriving DecidableEq, Repr

inductive Fault
  | attributeError
  | typeError
deriving DecidableEq, Repr

structure CheckpointTuple where
  checkpoint : Value
  metadata : Value
  pendingWrites : List Value

structure CheckpointRead where
  unreadable : Bool
  checkpointTuple : Option CheckpointTuple

abbrev Channels := String → Option Value

def CheckpointTuple.strictChannelValues (t : CheckpointTuple) : Option Channels :=
  if t.checkpoint.isStringKeyed then
    match t.checkpoint.get "channel_values" with
    | none => some fun _ => none
    | some values => if values.isStringKeyed then some fun channel => values.get channel else none
  else none

def incompatible (checkpointId : Option String) : Evidence := ⟨.incompatible,checkpointId,false⟩

def checkpointValues (t : CheckpointTuple) (requestedCheckpointId : Option String) :
    Except Evidence (String × Channels) :=
  match t.checkpoint.getStr "id" with
  | none => .error (incompatible none)
  | some id =>
    if requestedCheckpointId.any (· ≠ id) then .error (incompatible (some id))
    else
      match t.strictChannelValues with
      | none => .error (incompatible (some id))
      | some values =>
        if t.metadata.isDict then .ok (id,values) else .error (incompatible (some id))

def actionEvidence (values : Channels) (receipt : GraphActionReceipt) (checkpointId : String) :
    Option Evidence :=
  match (values activeReceiptChannel).bind modelValidate with
  | none => some (incompatible (some checkpointId))
  | some active =>
    if active.threadId ≠ receipt.threadId then some (incompatible (some checkpointId))
    else
      match values incorporatedReceiptsChannel with
      | some (.dict entries) =>
        if ¬ ((Value.dict entries).get active.dispatchId).any (equalsDump · active) then
          some (incompatible (some checkpointId))
        else if active ≠ receipt then
          some ⟨if active.writerGeneration < receipt.writerGeneration then .priorAction
            else .incompatible,some checkpointId,false⟩
        else none
      | _ => some (incompatible (some checkpointId))

def completionEvidence (values : Channels) (receipt : GraphActionReceipt)
    (checkpointId : String) : Option Evidence :=
  match values completionReceiptsChannel with
  | none => none
  | some .null => none
  | some (.dict entries) =>
    match (Value.dict entries).get receipt.dispatchId with
    | none => none
    | some raw =>
      match GraphCompletionReceipt.modelValidate raw with
      | none => some (incompatible (some checkpointId))
      | some completion =>
        if completion.action ≠ receipt then some (incompatible (some checkpointId))
        else some ⟨.completed,some checkpointId,true⟩
  | some _ => some (incompatible (some checkpointId))

structure HeldWrite where
  task : Value
  channel : String
  value : Value

def heldWrite? : Value → Option HeldWrite
  | .list [task,.str channel,value] => some ⟨task,channel,value⟩
  | _ => none

def pendingWritesOf (writes : List Value) : Option (List HeldWrite) :=
  if writes.all fun w => (heldWrite? w).isSome then some (writes.filterMap heldWrite?) else none

/-- The entries of a mapping; a channel that was never written is an empty one. -/
def entriesOf : Option Value → Option (List (Value × Value))
  | none => some []
  | some (.dict entries) => some entries
  | some _ => none

def setChannel (values : Channels) (channel : String) (value : Value) : Channels :=
  fun other => if other = channel then some value else values other

def foldReceipt (folded : Channels) (write : String × Value) : Option Channels :=
  match receiptReducer write.1 with
  | none => some folded
  | some reducer =>
    match entriesOf (folded write.1), entriesOf (some write.2) with
    | some existing, some incoming =>
      (reducer existing incoming).map fun value => setChannel folded write.1 value
    | _, _ => none

def foldPendingReceipts (values : Channels) (writes : List (String × Value)) : Option Channels :=
  writes.foldlM foldReceipt values

def inputStagingChannel : String := "__start__"

def stagedInputReceipts (values : Channels) : List (String × Value) :=
  match values inputStagingChannel with
  | some (.dict entries) =>
    [activeReceiptChannel,incorporatedReceiptsChannel].filterMap fun channel =>
      ((Value.dict entries).get channel).map fun value => (channel,value)
  | _ => []

def errorChannel : String := "__error__"
def interruptChannel : String := "__interrupt__"

def taskBookkeepingChannels : List String :=
  [errorChannel,"__scheduled__",interruptChannel,"__resume__"]

def producedBy (task : String) (write : HeldWrite) : Bool :=
  decide (write.task.text? = some task) && decide (write.channel ∉ taskBookkeepingChannels)

def asksStill (writes : List HeldWrite) (write : HeldWrite) : Bool :=
  decide (write.channel = interruptChannel) &&
    match write.task.text? with
    | none => true
    | some task => !writes.any (producedBy task)

def isHashable : Value → Bool
  | .list _ => false
  | .dict _ => false
  | _ => true

def unansweredInterrupts (writes : List HeldWrite) : Except Fault Bool :=
  if writes.any fun w => decide (w.channel = interruptChannel) && !isHashable w.task then
    .error .typeError
  else .ok (writes.any (asksStill writes))

def pendingEvidence (writes : List HeldWrite) (checkpointId : String) (incorporated parked : Bool) :
    Evidence :=
  if writes.any fun w => decide (w.channel = errorChannel) then
    ⟨.failed,some checkpointId,incorporated⟩
  else if parked then ⟨.interrupted,some checkpointId,incorporated⟩
  else ⟨.pending,some checkpointId,incorporated⟩

def CheckpointTuple.hasSource (t : CheckpointTuple) (source : String) : Bool :=
  ((t.metadata.get "source").bind Value.text?).any (· = source)

def classifyWrites (t : CheckpointTuple) (receipt : GraphActionReceipt) (id : String)
    (values : Channels) (writes : List HeldWrite) : Except Fault Evidence :=
  let staged := if t.hasSource "input" then stagedInputReceipts values else []
  match foldPendingReceipts values (staged ++ writes.map fun w => (w.channel,w.value)) with
  | none => .ok (incompatible (some id))
  | some folded =>
    match actionEvidence folded receipt id with
    | some evidence => .ok evidence
    | none =>
      match completionEvidence values receipt id with
      | some evidence => .ok evidence
      | none => do
          let parked ← unansweredInterrupts writes
          .ok (pendingEvidence writes id (t.hasSource "loop") parked)

def classifyHeld (t : CheckpointTuple) (receipt : GraphActionReceipt) (id : String)
    (values : Channels) : Except Fault Evidence :=
  match pendingWritesOf t.pendingWrites with
  | none => .ok (incompatible (some id))
  | some writes => classifyWrites t receipt id values writes

def classifyCheckpoint (t : CheckpointTuple) (receipt : GraphActionReceipt)
    (requestedCheckpointId : Option String) : Except Fault Evidence :=
  if ¬ t.checkpoint.isDict then .error .attributeError
  else
    match checkpointValues t requestedCheckpointId with
    | .error evidence => .ok evidence
    | .ok (id,values) => classifyHeld t receipt id values

def classifyCheckpointEvidence (read : CheckpointRead) (receipt : GraphActionReceipt)
    (checkpointId : Option String := none) : Except Fault Evidence :=
  if read.unreadable then .ok ⟨.unavailable,none,false⟩
  else
    match read.checkpointTuple with
    | none => .ok ⟨.absent,none,false⟩
    | some t => classifyCheckpoint t receipt checkpointId

variable {r r' : GraphActionReceipt} {raw : Value}

lemma controlActionType?_value (t : ControlActionType) : controlActionType? t.value = some t := by
  cases t <;> rfl

lemma value_inj {t u : ControlActionType} (h : t.value = u.value) : t = u := by
  have hre := controlActionType?_value t
  rw [h,controlActionType?_value u] at hre
  exact (Option.some.inj hre).symm

lemma modelValidate_admissible (h : modelValidate raw = some r) : admissible r = true := by
  unfold modelValidate at h
  split_ifs at h
  simp only [Option.bind_eq_bind,Option.bind_eq_some_iff] at h
  obtain ⟨_,_,_,_,_,_,_,_,_,_,_,_,_,_,h⟩ := h
  split_ifs at h with ha
  cases h
  exact ha

lemma get_modelDump (r : GraphActionReceipt) :
    (modelDump r).get "schema_version" = some (.str "graph-action-v1") ∧
    (modelDump r).get "thread_id" = some (.str r.threadId) ∧
    (modelDump r).get "action_id" = some (.str r.actionId) ∧
    (modelDump r).get "action_type" = some (.str r.actionType.value) ∧
    (modelDump r).get "payload_fingerprint" = some (.str r.payloadFingerprint) ∧
    (modelDump r).get "dispatch_id" = some (.str r.dispatchId) ∧
    (modelDump r).get "run_revision" = some (.int r.runRevision) ∧
    (modelDump r).get "writer_generation" = some (.int r.writerGeneration) :=
  ⟨rfl,rfl,rfl,rfl,rfl,rfl,rfl,rfl⟩

lemma modelValidate_modelDump (h : admissible r = true) : modelValidate (modelDump r) = some r := by
  obtain ⟨hs,ht,ha,hty,hfi,hd,hre,hge⟩ := get_modelDump r
  have hf : (modelDump r).hasOnlyFields graphActionFields = true := rfl
  unfold modelValidate
  rw [hs,ht,ha,hty,hfi,hd,hre,hge]
  simp [hf,Value.text?,natural?,controlActionType?_value,h]

lemma equalsDump_modelDump : equalsDump (modelDump r') r = true ↔ r' = r := by
  obtain ⟨hs,hth,ha,ht,hf,hd,hre,hge⟩ := get_modelDump r'
  have heq : equalsDump (modelDump r') r =
      (dumpEntries r).all fun e => ((modelDump r').get e.1).any fun v => equalsScalar v e.2 := by
    simp [equalsDump,modelDump,dumpEntries]
  rw [heq]
  simp only [dumpEntries,all_cons,all_nil,hs,hth,ha,ht, hf,hd,hre,hge,Option.any_some,equalsScalar]
  constructor
  · intro h
    simp only [Bool.and_eq_true,beq_iff_eq,Int.natCast_inj] at h
    obtain ⟨-,hth,ha,ht,hf,hd,hre,hge,-⟩ := h
    have ht := value_inj ht
    cases r
    cases r'
    simp_all
  · rintro rfl
    simp

def entryOf (receipt : GraphActionReceipt) : Value × Value :=
  (.str receipt.dispatchId,modelDump receipt)

def incorporatedKind : Kind GraphActionReceipt where
  read := modelValidate
  key := GraphActionReceipt.dispatchId
  dump := modelDump
  same := equalsDump
  same_iff _ _ := equalsDump_modelDump
  read_dump _ _ h := modelValidate_modelDump (modelValidate_admissible h)

lemma mergeGraphActionReceipts_eq : mergeGraphActionReceipts = incorporatedKind.merge := by
  have he : CheckpointEvidence.mergeEntry = incorporatedKind.mergeEntry := by
    funext m e
    unfold CheckpointEvidence.mergeEntry Kind.mergeEntry
    dsimp only [incorporatedKind]
    cases modelValidate e.2 with
    | none => rfl
    | some r => cases (Value.dict m).get r.dispatchId <;> rfl
  funext m n
  rw [mergeGraphActionReceipts,he]
  rfl

def newValue (old : Option Value) (write : String × Value) : Option (Option Value) :=
  match receiptReducer write.1 with
  | none => some old
  | some reducer =>
    match entriesOf old, entriesOf (some write.2) with
    | some existing, some incoming => (reducer existing incoming).map some
    | _, _ => none

def putValue (values : Channels) (channel : String) (value : Option Value) : Channels :=
  fun other => if other = channel then value else values other

def SameReceipts (v w : Option Value) : Prop :=
  v = w ∨ ∃ m n, v = some (.dict m) ∧ w = some (.dict n) ∧ SameUnion incorporatedKind m n

/-- Channels that differ at most in the order of a union. -/
structure SameChannels (s t : Channels) : Prop where
  others : ∀ channel, channel ≠ incorporatedReceiptsChannel → s channel = t channel
  receipts : SameReceipts (s incorporatedReceiptsChannel) (t incorporatedReceiptsChannel)

def SameGeneration (a b : String × Value) : Prop :=
  a.1 = activeReceiptChannel → b.1 = activeReceiptChannel → ∀ r r',
    modelValidate a.2 = some r → modelValidate b.2 = some r' →
    r.writerGeneration = r'.writerGeneration → r = r'

lemma SameReceipts.trans (h : SameReceipts v w) (g : SameReceipts w x) : SameReceipts v x := by
  rcases h with rfl | ⟨m,n,hv,hw,hmn⟩
  · exact g
  rcases g with rfl | ⟨n',o,hw',hx,hno⟩
  · exact .inr ⟨m,n,hv,hw,hmn⟩
  · cases hw.symm.trans hw'
    exact .inr ⟨m,o,hv,hx,hmn.trans hno⟩

lemma SameChannels.refl (s : Channels) : SameChannels s s := ⟨fun _ _ => rfl,.inl rfl⟩

lemma SameChannels.trans (h : SameChannels s t) (g : SameChannels t u) : SameChannels s u :=
  ⟨fun c hc => (h.others c hc).trans (g.others c hc),h.receipts.trans g.receipts⟩

lemma foldReceipt_eq (s : Channels) (a : String × Value) :
    foldReceipt s a = (newValue (s a.1) a).map (putValue s a.1) := by
  unfold foldReceipt newValue
  cases receiptReducer a.1 with
  | none =>
    simp only [Option.map_some,Option.some.injEq]
    funext c
    unfold putValue
    split_ifs with hc
    · rw [hc]
    · rfl
  | some re =>
    dsimp only
    split
    · rw [Option.map_map]
      rfl
    · rfl

lemma receiptReducer_incorporated : receiptReducer incorporatedReceiptsChannel =
    some fun ex ic => (mergeGraphActionReceipts ex ic).map .dict := by
  rfl

lemma receiptReducer_active :
    receiptReducer activeReceiptChannel = some mergeActiveGraphActionReceipt := by
  rfl

lemma newValue_incorporated (old : Option Value) (value : Value) :
    newValue old (incorporatedReceiptsChannel,value) =
      (entriesOf old).bind fun ex => (entriesOf (some value)).bind fun ic =>
        (incorporatedKind.merge ex ic).map fun m => some (.dict m) := by
  unfold newValue
  rw [receiptReducer_incorporated,mergeGraphActionReceipts_eq]
  cases entriesOf old with
  | none => rfl
  | some ex =>
    cases entriesOf (some value) with
    | none => rfl
    | some ic => exact Option.map_map _ _ _

lemma newValue_congr (h : SameReceipts v w) (value : Value) :
    Option.Rel SameReceipts (newValue v (incorporatedReceiptsChannel,value))
      (newValue w (incorporatedReceiptsChannel,value)) := by
  rcases h with rfl | ⟨m,n,rfl,rfl,hmn⟩
  · exact rel_refl (fun _ => .inl rfl) _
  rw [newValue_incorporated,newValue_incorporated]
  cases entriesOf (some value) with
  | none => exact .none
  | some ic => exact rel_map (hmn.merge ic) fun _ _ hs => .inr ⟨_,_,rfl,rfl,hs⟩

lemma foldReceipt_congr (a : String × Value) (h : SameChannels s t) :
    Option.Rel SameChannels (foldReceipt s a) (foldReceipt t a) := by
  rw [foldReceipt_eq,foldReceipt_eq]
  by_cases ha : a.1 = incorporatedReceiptsChannel
  · obtain ⟨cn,value⟩ := a
    dsimp only at ha
    subst ha
    refine rel_map (newValue_congr h.receipts value) fun _ _ hs => ⟨fun c hc => ?_,?_⟩
    · rw [putValue,putValue,if_neg hc,if_neg hc]
      exact h.others c hc
    · rw [putValue,putValue,if_pos rfl,if_pos rfl]
      exact hs
  · rw [h.others _ ha]
    cases newValue (t a.1) a with
    | none => exact .none
    | some value =>
      refine .some ⟨fun c hc => ?_,?_⟩
      · unfold putValue
        split_ifs
        · rfl
        · exact h.others c hc
      · unfold putValue
        rw [if_neg (Ne.symm ha),if_neg (Ne.symm ha)]
        exact h.receipts

lemma foldReceipt_swap_ne (s : Channels) (h : a.1 ≠ b.1) :
    (foldReceipt s a).bind (fun t => foldReceipt t b) =
      (foldReceipt s b).bind fun t => foldReceipt t a := by
  have hk : ∀ value, putValue s a.1 value b.1 = s b.1 := fun value => by
    rw [putValue,if_neg (Ne.symm h)]
  have hk' : ∀ value, putValue s b.1 value a.1 = s a.1 := fun value => by
    rw [putValue,if_neg h]
  have hc : ∀ x y, putValue (putValue s a.1 x) b.1 y = putValue (putValue s b.1 y) a.1 x := by
    intro x y
    funext c
    unfold putValue
    split_ifs with hb ha <;> first | rfl | exact (h (ha.symm.trans hb)).elim
  simp only [foldReceipt_eq]
  cases hx : newValue (s a.1) a with
  | none =>
    cases newValue (s b.1) b with
    | none => rfl
    | some y => simp [hk',hx]
  | some x =>
    cases hy : newValue (s b.1) b with
    | none => simp [hk,hy]
    | some y => simp [hk,hk',hx,hy,hc]

lemma foldReceipt_twice (s : Channels) (h : b.1 = a.1) :
    (foldReceipt s a).bind (fun t => foldReceipt t b) =
      ((newValue (s a.1) a).bind fun v => newValue v b).map (putValue s a.1) := by
  simp only [foldReceipt_eq]
  cases newValue (s a.1) a with
  | none => rfl
  | some v =>
    have hre : putValue s a.1 v b.1 = v := by rw [putValue,if_pos h]
    have hp : putValue (putValue s a.1 v) b.1 = putValue s a.1 := by
      funext value c
      unfold putValue
      rw [h]
      split_ifs <;> rfl
    simp [hre,hp]

def newer (current : Option GraphActionReceipt) (arriving : GraphActionReceipt) :
    GraphActionReceipt :=
  match current with
  | none => arriving
  | some held => if arriving.writerGeneration < held.writerGeneration then held else arriving

lemma newer_swap (cu : Option GraphActionReceipt)
    (h : r.writerGeneration = r'.writerGeneration → r = r') :
    newer (some (newer cu r)) r' = newer (some (newer cu r')) r := by
  have hl : ∀ held : GraphActionReceipt, newer (some held) r =
      if r.writerGeneration < held.writerGeneration then held else r := fun _ => rfl
  have hl' : ∀ held : GraphActionReceipt, newer (some held) r' =
      if r'.writerGeneration < held.writerGeneration then held else r' := fun _ => rfl
  cases cu with
  | none =>
    rw [newer,newer,hl,hl']
    split_ifs
    · omega
    · rfl
    · rfl
    · exact (h (by omega)).symm
  | some held =>
    rw [hl held,hl' held,hl,hl']
    split_ifs <;> first | rfl | omega | exact (h (by omega)).symm

lemma modelValidate_dict (h : modelValidate raw = some r) : ∃ es, raw = .dict es := by
  cases raw with
  | dict es => exact ⟨es,rfl⟩
  | _ => simp [modelValidate,Value.hasOnlyFields] at h

lemma newValue_active (old : Option Value) (value : Value) :
    newValue old (activeReceiptChannel,value) =
      (entriesOf old).bind fun ex => (modelValidate value).map fun ar =>
        some (modelDump (newer (modelValidate (.dict ex)) ar)) := by
  unfold newValue
  rw [receiptReducer_active]
  cases entriesOf old with
  | none => rfl
  | some ex =>
    cases hv : modelValidate value with
    | none =>
      cases value with
      | dict ic => simp [entriesOf,mergeActiveGraphActionReceipt,hv]
      | _ => rfl
    | some ar =>
      obtain ⟨ic,rfl⟩ := modelValidate_dict hv
      simp only [entriesOf,mergeActiveGraphActionReceipt,hv,Option.bind_some]
      cases modelValidate (.dict ex) with
      | none => rfl
      | some cu =>
        dsimp only [newer,Option.map_some]
        split_ifs <;> rfl

lemma newer_admissible (hc : ∀ r ∈ cu, admissible r = true) (ha : admissible ar = true) :
    admissible (newer cu ar) = true := by
  cases cu with
  | none => exact ha
  | some held =>
    dsimp only [newer]
    split_ifs
    · exact hc held rfl
    · exact ha

lemma newValue_active_twice (old : Option Value) (first second : Value) :
    ((newValue old (activeReceiptChannel,first)).bind
        fun v => newValue v (activeReceiptChannel,second)) =
      (entriesOf old).bind fun ex => (modelValidate first).bind fun r =>
        (modelValidate second).map fun r' =>
          some (modelDump (newer (some (newer (modelValidate (.dict ex)) r)) r')) := by
  simp only [newValue_active]
  cases entriesOf old with
  | none => rfl
  | some ex =>
    cases hf : modelValidate first with
    | none => rfl
    | some r =>
      have ha : admissible (newer (modelValidate (.dict ex)) r) = true :=
        newer_admissible (fun _ h => modelValidate_admissible h)
          (modelValidate_admissible hf)
      have hre := modelValidate_modelDump ha
      simp only [Option.bind_some,Option.map_some,modelDump,entriesOf] at hre ⊢
      rw [hre]

lemma newValue_active_swap (old : Option Value) {x y : Value}
    (h : SameGeneration (activeReceiptChannel,x) (activeReceiptChannel,y)) :
    ((newValue old (activeReceiptChannel,x)).bind fun v => newValue v (activeReceiptChannel,y)) =
      (newValue old (activeReceiptChannel,y)).bind
        fun v => newValue v (activeReceiptChannel,x) := by
  rw [newValue_active_twice,newValue_active_twice]
  cases entriesOf old with
  | none => rfl
  | some ex =>
    cases hx : modelValidate x with
    | none => cases modelValidate y <;> rfl
    | some r =>
      cases hy : modelValidate y with
      | none => rfl
      | some r' =>
        have hs := newer_swap (modelValidate (.dict ex)) (h rfl rfl r r' hx hy)
        simp [hs]

lemma newValue_incorporated_twice (old : Option Value) (first second : Value) :
    ((newValue old (incorporatedReceiptsChannel,first)).bind
        fun v => newValue v (incorporatedReceiptsChannel,second)) =
      (entriesOf old).bind fun ex => (entriesOf (some first)).bind fun x =>
        (entriesOf (some second)).bind fun y =>
          ((incorporatedKind.merge ex x).bind fun m => incorporatedKind.merge m y).map
            fun m => some (.dict m) := by
  simp only [newValue_incorporated]
  cases entriesOf old with
  | none => rfl
  | some ex =>
    cases entriesOf (some first) with
    | none => rfl
    | some x =>
      cases entriesOf (some second) with
      | none => cases hm : incorporatedKind.merge ex x <;> simp [hm,entriesOf]
      | some y => cases hm : incorporatedKind.merge ex x <;> simp [hm,entriesOf]

lemma newValue_incorporated_swap (old : Option Value) (x y : Value) : Option.Rel SameReceipts
    ((newValue old (incorporatedReceiptsChannel,x)).bind
      fun v => newValue v (incorporatedReceiptsChannel,y))
    ((newValue old (incorporatedReceiptsChannel,y)).bind
      fun v => newValue v (incorporatedReceiptsChannel,x)) := by
  rw [newValue_incorporated_twice,newValue_incorporated_twice]
  cases entriesOf old with
  | none => exact .none
  | some ex =>
    cases entriesOf (some x) with
    | none => cases entriesOf (some y) <;> exact .none
    | some first =>
      cases entriesOf (some y) with
      | none => exact .none
      | some second =>
        exact rel_map (merge_swap ex first second) fun _ _ hs => .inr ⟨_,_,rfl,rfl,hs⟩

lemma foldReceipt_swap (s : Channels) (h : SameGeneration a b) :
    Option.Rel SameChannels ((foldReceipt s a).bind fun t => foldReceipt t b)
      ((foldReceipt s b).bind fun t => foldReceipt t a) := by
  by_cases hs : b.1 = a.1
  · rw [foldReceipt_twice s hs,foldReceipt_twice s hs.symm]
    obtain ⟨cn,x⟩ := a
    obtain ⟨ch,y⟩ := b
    dsimp only at hs ⊢
    subst hs
    by_cases ha : ch = activeReceiptChannel
    · subst ha
      rw [newValue_active_swap _ h]
      exact rel_refl SameChannels.refl _
    by_cases hre : ch = incorporatedReceiptsChannel
    · subst hre
      refine rel_map (newValue_incorporated_swap _ x y) fun _ _ hv => ⟨fun c hc => ?_,?_⟩
      · rw [putValue,putValue,if_neg hc,if_neg hc]
      · rw [putValue,putValue,if_pos rfl,if_pos rfl]
        exact hv
    · have hn : receiptReducer ch = none := by
        rw [receiptReducer,if_neg ha,if_neg hre]
      simp only [newValue,hn]
      exact rel_refl SameChannels.refl _
  · rw [foldReceipt_swap_ne s (Ne.symm hs)]
    exact rel_refl SameChannels.refl _

lemma foldPendingReceipts_perm (hp : wr.Perm wt) (h : ∀ a ∈ wr, ∀ b ∈ wr, SameGeneration a b)
    (st : List (String × Value)) (vs : Channels) :
    Option.Rel SameChannels (foldPendingReceipts vs (st ++ wr))
      (foldPendingReceipts vs (st ++ wt)) := by
  unfold foldPendingReceipts
  rw [foldlM_append,foldlM_append]
  cases st.foldlM foldReceipt vs with
  | none => exact .none
  | some t =>
    exact foldlM_perm foldReceipt_congr SameChannels.refl SameChannels.trans foldReceipt_swap hp h t

lemma actionEvidence_congr (h : SameChannels s t) (rc : GraphActionReceipt) (id : String) :
    actionEvidence s rc id = actionEvidence t rc id := by
  have ha : s activeReceiptChannel = t activeReceiptChannel := h.others _ (by decide)
  unfold actionEvidence
  rw [ha]
  rcases h.receipts with hsa | ⟨m,n,hs,ht,hl⟩
  · rw [hsa]
  · rw [hs,ht]
    cases (t activeReceiptChannel).bind modelValidate with
    | none => rfl
    | some ac => simp only [hl.lookups ac.dispatchId]

def CommittedCompletion (values : Channels) (receipt : GraphActionReceipt) : Prop :=
  ∃ entries raw completion, values completionReceiptsChannel = some (.dict entries) ∧
    (Value.dict entries).get receipt.dispatchId = some raw ∧
    GraphCompletionReceipt.modelValidate raw = some completion ∧ completion.action = receipt

section
variable {values vs : Channels} {receipt rc : GraphActionReceipt} {id : String}

lemma actionEvidence_some (h : actionEvidence vs rc id = some ev) :
    ev.kind ≠ .completed ∧ ev.incorporated = false := by
  unfold actionEvidence at h
  split at h
  · cases h
    exact ⟨nofun,rfl⟩
  split at h
  · cases h
    exact ⟨nofun,rfl⟩
  split at h
  · split at h
    · cases h
      exact ⟨nofun,rfl⟩
    split at h
    · cases h
      refine ⟨?_,rfl⟩
      dsimp only
      split <;> nofun
    · cases h
  · cases h
    exact ⟨nofun,rfl⟩

lemma completionEvidence_some (h : completionEvidence vs rc id = some ev) :
    ev = incompatible (some id) ∨ (ev = ⟨.completed,some id,true⟩ ∧ CommittedCompletion vs rc) := by
  unfold completionEvidence at h
  split at h
  · cases h
  · cases h
  · rename_i es hen
    split at h
    · cases h
    rename_i raw hra
    split at h
    · cases h
      exact .inl rfl
    rename_i co hc
    split_ifs at h with ho
    · cases h
      exact .inl rfl
    · cases h
      exact .inr ⟨rfl,es,raw,co,hen,hra,hc,not_not.1 ho⟩
  · cases h
    exact .inl rfl

lemma pendingEvidence_kind (wr : List HeldWrite) (id : String) (ic parked : Bool) :
    (pendingEvidence wr id ic parked).kind ≠ .completed ∧
      (pendingEvidence wr id ic parked).incorporated = ic := by
  unfold pendingEvidence
  split_ifs <;> exact ⟨nofun,rfl⟩

lemma checkpointValues_error (h : checkpointValues t re = .error ev) :
    ∃ fn, ev = incompatible fn := by
  unfold checkpointValues at h
  split at h
  · cases h
    exact ⟨_,rfl⟩
  split at h
  · cases h
    exact ⟨_,rfl⟩
  split at h
  · cases h
    exact ⟨_,rfl⟩
  split at h
  · cases h
  · cases h
    exact ⟨_,rfl⟩

section
variable {t : CheckpointTuple} {requested re : Option String}

structure Classified (t : CheckpointTuple) (receipt : GraphActionReceipt)
    (requested : Option String) (id : String) (values : Channels) (writes : List HeldWrite)
    (folded : Channels) : Prop where
  isDict : t.checkpoint.isDict = true
  reads : checkpointValues t requested = .ok (id,values)
  holds : pendingWritesOf t.pendingWrites = some writes
  folds : foldPendingReceipts values ((if t.hasSource "input" then stagedInputReceipts values
    else []) ++ writes.map fun w => (w.channel,w.value)) = some folded
  action : actionEvidence folded receipt id = none

/-- What is reported about an action is a foreign shape, another action, a completion, or
work that is part-way. -/
lemma classifyCheckpoint_ok (h : classifyCheckpoint t rc re = .ok ev) :
    (ev.kind ≠ .completed ∧ ev.incorporated = false) ∨
    ∃ id vs wr fo, Classified t rc re id vs wr fo ∧ (completionEvidence vs rc id = some ev ∨
        completionEvidence vs rc id = none ∧ ∃ parked,
          ev = pendingEvidence wr id (t.hasSource "loop") parked) := by
  unfold classifyCheckpoint at h
  split at h
  · cases h
  rename_i hd
  split at h
  · rename_i fn hfo
    cases h
    obtain ⟨_,rfl⟩ := checkpointValues_error hfo
    exact .inl ⟨nofun,rfl⟩
  rename_i id vs hv
  unfold classifyHeld at h
  split at h
  · cases h
    exact .inl ⟨nofun,rfl⟩
  rename_i wr hw
  unfold classifyWrites at h
  dsimp only at h
  split at h
  · cases h
    exact .inl ⟨nofun,rfl⟩
  rename_i fo hf
  split at h
  · rename_i o ho
    cases h
    exact .inl (actionEvidence_some ho)
  rename_i ha
  refine .inr ⟨id,vs,wr,fo,⟨not_not.1 hd,hv,hw,hf,ha⟩,?_⟩
  split at h
  · rename_i co hc
    cases h
    exact .inl hc
  · rename_i hc
    obtain ⟨parked,-,hre⟩ := bind_ok.1 h
    cases hre
    exact .inr ⟨hc,parked,rfl⟩

lemma Classified.completes (h : Classified t rc re id vs wr fo)
    (hc : completionEvidence vs rc id = some ev) :
    classifyCheckpoint t rc re = .ok ev := by
  unfold classifyCheckpoint classifyHeld classifyWrites
  simp only [h.isDict,h.reads,h.holds,h.folds,h.action,hc]
  rfl

end

end

def CheckpointTuple.holding (t : CheckpointTuple) (writes : List Value) : CheckpointTuple :=
  { t with pendingWrites := writes }

def CheckpointTuple.heldReceipts (t : CheckpointTuple) : List (String × Value) :=
  (t.pendingWrites.filterMap heldWrite?).map fun w => (w.channel,w.value)

lemma pendingWritesOf_cons (h : heldWrite? write = some held) (wr : List Value) :
    pendingWritesOf (write :: wr) = (pendingWritesOf wr).map fun l => held :: l := by
  unfold pendingWritesOf
  simp only [all_cons,h,filterMap_cons]
  split_ifs <;> simp_all

lemma foldPendingReceipts_skip (vs : Channels) (st wr : List (String × Value))
    (h : receiptReducer write.1 = none) :
    foldPendingReceipts vs (st ++ write :: wr) = foldPendingReceipts vs (st ++ wr) := by
  have hs : ∀ s, foldReceipt s write = some s := fun s => by simp [foldReceipt,h]
  simp [foldPendingReceipts,foldlM_append,hs]

/-- A completion is reported exactly if the committed channels complete the action that
the committed and held receipts name. -/
lemma classifyCheckpoint_completed_iff : (∃ ev, classifyCheckpoint t rc re = .ok ev ∧
      ev.kind = .completed) ↔
    ∃ id vs wr fo, Classified t rc re id vs wr fo ∧
      completionEvidence vs rc id = some ⟨.completed,some id,true⟩ := by
  constructor
  · rintro ⟨ev,h,hk⟩
    rcases classifyCheckpoint_ok h with ⟨hn,-⟩ | ⟨id,vs,wr,fo,hc,ho⟩
    · exact (hn hk).elim
    rcases ho with hco | ⟨-,parked,rfl⟩
    · rcases completionEvidence_some hco with rfl | ⟨rfl,-⟩
      · cases hk
      · exact ⟨id,vs,wr,fo,hc,hco⟩
    · exact ((pendingEvidence_kind _ _ _ _).1 hk).elim
  · rintro ⟨id,vs,wr,fo,hc,hco⟩
    exact ⟨_,hc.completes hco,rfl⟩

lemma classifyCheckpoint_held (ta value : Value) : (∃ ev, classifyCheckpoint (t.holding
      (.list [ta,.str completionReceiptsChannel,value] :: t.pendingWrites)) rc re =
        .ok ev ∧ ev.kind = .completed) ↔
    ∃ ev, classifyCheckpoint t rc re = .ok ev ∧ ev.kind = .completed := by
  rw [classifyCheckpoint_completed_iff,classifyCheckpoint_completed_iff]
  have hh : pendingWritesOf (.list [ta,.str completionReceiptsChannel,value] ::
      t.pendingWrites) = (pendingWritesOf t.pendingWrites).map
        fun l => ⟨ta,completionReceiptsChannel,value⟩ :: l := pendingWritesOf_cons rfl _
  have hs : ∀ vs st wr, foldPendingReceipts vs (st ++ (completionReceiptsChannel,value) :: wr) =
        foldPendingReceipts vs (st ++ wr) :=
    fun vs st wr => foldPendingReceipts_skip vs st wr rfl
  constructor
  · rintro ⟨id,vs,wr,fo,hc,hco⟩
    obtain ⟨rs,hre,rfl⟩ := Option.map_eq_some_iff.1 (hh.symm.trans hc.holds)
    have hf := hc.folds
    rw [map_cons,hs] at hf
    exact ⟨id,vs,rs,fo,⟨hc.isDict,hc.reads,hre,hf,hc.action⟩,hco⟩
  · rintro ⟨id,vs,wr,fo,hc,hco⟩
    have hf := hc.folds
    rw [← hs] at hf
    rw [hc.holds] at hh
    exact ⟨id,vs,_,fo,⟨hc.isDict,hc.reads,hh,hf,hc.action⟩,hco⟩

lemma any_perm {A : Type} {l m : List A} (h : l.Perm m) (p : A → Bool) : l.any p = m.any p := by
  rw [Bool.eq_iff_iff,any_eq_true,any_eq_true]
  exact ⟨fun ⟨a,ha,hp⟩ => ⟨a,h.mem_iff.1 ha,hp⟩,fun ⟨a,ha,hp⟩ => ⟨a,h.mem_iff.2 ha,hp⟩⟩

lemma unansweredInterrupts_perm (h : l.Perm m) :
    unansweredInterrupts l = unansweredInterrupts m := by
  have ha : asksStill l = asksStill m := by
    funext w
    unfold asksStill
    cases w.task.text? with
    | none => rfl
    | some ta => simp only [any_perm h]
  unfold unansweredInterrupts
  rw [any_perm h,ha,any_perm h]

lemma pendingEvidence_perm (h : l.Perm m) (id : String) (ic parked : Bool) :
    pendingEvidence l id ic parked = pendingEvidence m id ic parked := by
  unfold pendingEvidence
  rw [any_perm h]

lemma pendingWritesOf_perm (h : wr.Perm wt) :
    Option.Rel List.Perm (pendingWritesOf wr) (pendingWritesOf wt) := by
  have ha : (wr.all fun w => (heldWrite? w).isSome) = wt.all fun w => (heldWrite? w).isSome := by
    rw [Bool.eq_iff_iff,all_eq_true,all_eq_true]
    exact ⟨fun hw w hm => hw w (h.mem_iff.2 hm),fun hw w hm => hw w (h.mem_iff.1 hm)⟩
  unfold pendingWritesOf
  rw [ha]
  split_ifs
  · exact .some (h.filterMap _)
  · exact .none

lemma classifyWrites_perm {id : String} (hp : l.Perm m)
    (hs : ∀ a ∈ l.map (fun w => (w.channel,w.value)), ∀ b ∈ l.map (fun w => (w.channel,w.value)),
      SameGeneration a b) :
    classifyWrites t rc id vs l = classifyWrites t rc id vs m := by
  have hf := foldPendingReceipts_perm (hp.map fun w => (w.channel,w.value)) hs
    (if t.hasSource "input" then stagedInputReceipts vs else []) vs
  unfold classifyWrites
  dsimp only
  generalize foldPendingReceipts vs (_ ++ l.map _) = x at hf ⊢
  generalize foldPendingReceipts vs (_ ++ m.map _) = y at hf ⊢
  cases hf with
  | none => rfl
  | some hc =>
    simp only [actionEvidence_congr hc,unansweredInterrupts_perm hp,pendingEvidence_perm hp]

lemma classifyHeld_perm (hp : t.pendingWrites.Perm wr)
    (hs : ∀ a ∈ t.heldReceipts, ∀ b ∈ t.heldReceipts, SameGeneration a b) (id : String)
    (vs : Channels) :
    classifyHeld (t.holding wr) rc id vs = classifyHeld t rc id vs := by
  have hre : ∀ l, pendingWritesOf t.pendingWrites = some l →
      l.map (fun w => (w.channel,w.value)) = t.heldReceipts := by
    intro l hl
    unfold pendingWritesOf at hl
    split_ifs at hl
    cases hl
    rfl
  have hw := pendingWritesOf_perm hp
  unfold classifyHeld CheckpointTuple.holding
  generalize hx : pendingWritesOf t.pendingWrites = x at hw ⊢
  generalize pendingWritesOf wr = y at hw ⊢
  cases hw with
  | none => rfl
  | @some l m hlm =>
    have hc : classifyWrites t rc id vs l = classifyWrites t rc id vs m :=
      classifyWrites_perm hlm (by rw [hre l hx]; exact hs)
    exact hc.symm

lemma classifyCheckpoint_perm (hp : t.pendingWrites.Perm wr)
    (hs : ∀ a ∈ t.heldReceipts, ∀ b ∈ t.heldReceipts, SameGeneration a b) :
    classifyCheckpoint (t.holding wr) rc re = classifyCheckpoint t rc re := by
  unfold classifyCheckpoint
  simp only [classifyHeld_perm hp hs]
  rfl

/-- What a classification reports, and what it does not depend on. -/
structure SoundEvidence (read : CheckpointRead) (receipt : GraphActionReceipt)
    (checkpointId : Option String) : Prop where
  /-- Completion is a committed completion receipt of exactly this action. -/
  completed : ∀ evidence, classifyCheckpointEvidence read receipt checkpointId = .ok evidence →
    evidence.kind = .completed → ∃ t values, read.checkpointTuple = some t ∧
      t.strictChannelValues = some values ∧ CommittedCompletion values receipt
  /-- Incorporation is reported with completion or from a committed loop checkpoint. -/
  incorporated : ∀ evidence, classifyCheckpointEvidence read receipt checkpointId = .ok evidence →
    evidence.incorporated = true → evidence.kind = .completed ∨
      ∃ t, read.checkpointTuple = some t ∧ t.hasSource "loop" = true
  /-- A held completion write does not change whether completion is reported. -/
  held : ∀ t task value, read.checkpointTuple = some t →
    ((∃ evidence, classifyCheckpointEvidence { read with checkpointTuple := some (t.holding
        (.list [task,.str completionReceiptsChannel,value] :: t.pendingWrites)) } receipt
        checkpointId = .ok evidence ∧ evidence.kind = .completed) ↔
      ∃ evidence, classifyCheckpointEvidence read receipt checkpointId = .ok evidence ∧
        evidence.kind = .completed)
  /-- Reordered writes give the same answer, if held receipts of one generation are one. -/
  reordered : ∀ t writes, read.checkpointTuple = some t → t.pendingWrites.Perm writes →
    (∀ a ∈ t.heldReceipts, ∀ b ∈ t.heldReceipts, SameGeneration a b) →
    classifyCheckpointEvidence { read with checkpointTuple := some (t.holding writes) } receipt
        checkpointId = classifyCheckpointEvidence read receipt checkpointId

lemma checkpointValues_ok {id : String} (h : checkpointValues t re = .ok (id,vs)) :
    t.strictChannelValues = some vs := by
  unfold checkpointValues at h
  split at h
  · cases h
  split at h
  · cases h
  split at h
  · cases h
  rename_i fn hf
  split at h
  · cases h
    exact hf
  · cases h

lemma classifyCheckpointEvidence_ok (h : classifyCheckpointEvidence re rc ci = .ok ev) :
    (ev.kind ≠ .completed ∧ ev.incorporated = false) ∨ ∃ t, re.checkpointTuple = some t ∧
        classifyCheckpoint t rc ci = .ok ev := by
  unfold classifyCheckpointEvidence at h
  split at h
  · cases h
    exact .inl ⟨nofun,rfl⟩
  split at h
  · cases h
    exact .inl ⟨nofun,rfl⟩
  · rename_i t ht
    exact .inr ⟨t,ht,h⟩

/-- Every read of a checkpoint is classified soundly. -/
theorem checkpoint_evidence_sound (read : CheckpointRead) (receipt : GraphActionReceipt)
    (checkpointId : Option String) : SoundEvidence read receipt checkpointId := by
  refine ⟨?_,?_,?_,?_⟩
  · intro evidence h hk
    rcases classifyCheckpointEvidence_ok h with ⟨hn,-⟩ | ⟨t,ht,hcl⟩
    · exact (hn hk).elim
    obtain ⟨id,values,writes,folded,hc,hco⟩ := classifyCheckpoint_completed_iff.1 ⟨evidence,hcl,hk⟩
    refine ⟨t,values,ht,checkpointValues_ok hc.reads,?_⟩
    rcases completionEvidence_some hco with ho | ⟨-,hcom⟩
    · cases ho
    · exact hcom
  · intro evidence h hi
    rcases classifyCheckpointEvidence_ok h with ⟨-,hn⟩ | ⟨t,ht,hcl⟩
    · rw [hn] at hi
      cases hi
    rcases classifyCheckpoint_ok hcl with ⟨-,hn⟩ | ⟨id,values,writes,folded,hc,hou⟩
    · rw [hn] at hi
      cases hi
    rcases hou with hco | ⟨-,parked,rfl⟩
    · rcases completionEvidence_some hco with rfl | ⟨rfl,-⟩
      · cases hi
      · exact .inl rfl
    · rw [(pendingEvidence_kind _ _ _ _).2] at hi
      exact .inr ⟨t,ht,hi⟩
  · intro t task value ht
    unfold classifyCheckpointEvidence
    rw [ht]
    cases read.unreadable with
    | true => exact Iff.rfl
    | false => exact classifyCheckpoint_held task value
  · intro t writes ht hp hs
    unfold classifyCheckpointEvidence
    rw [ht]
    cases read.unreadable with
    | true => rfl
    | false => exact classifyCheckpoint_perm hp hs

def firstReceipt : GraphActionReceipt :=
  { threadId := "run-1", actionId := "action-1", actionType := .ingest
    payloadFingerprint := "sha256:" ++ String.ofList (List.replicate 64 '0')
    dispatchId := "receipt-1", runRevision := 1, writerGeneration := 1 }

def firstCompletion : Value :=
  .dict [(.str "receipt-1",.dict [(.str "schema_version",.str "graph-completion-v1"),
    (.str "action",modelDump firstReceipt),(.str "outcome",.str "completed")])]

def firstCheckpoint (committed : List (Value × Value)) (writes : List Value) : CheckpointRead where
  unreadable := false
  checkpointTuple := some
    { checkpoint := .dict [(.str "id",.str "checkpoint-1"),
        (.str "channel_values",.dict ([(.str activeReceiptChannel,modelDump firstReceipt),
          (.str incorporatedReceiptsChannel,.dict [entryOf firstReceipt])] ++ committed))]
      metadata := .dict [(.str "source",.str "loop")]
      pendingWrites := writes }

example : classifyCheckpointEvidence
    (firstCheckpoint [(.str completionReceiptsChannel,firstCompletion)] []) firstReceipt =
      .ok ⟨.completed,some "checkpoint-1",true⟩ := rfl

example : classifyCheckpointEvidence (firstCheckpoint []
    [.list [.str "task-1",.str completionReceiptsChannel,firstCompletion],
      .list [.str "task-2",.str interruptChannel,.null]]) firstReceipt =
      .ok ⟨.interrupted,some "checkpoint-1",true⟩ := rfl

end VaultspecA2A.CheckpointEvidence
