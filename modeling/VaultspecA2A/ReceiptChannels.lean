import VaultspecA2A.CheckpointEvidence

/-!
# Receipts in any order

A receipt is written to three channels of the graph: under its dispatch id among the
incorporated ones, as the active one, and in the end under its dispatch id among the completed
ones. Each channel is reduced with what arrives, one write after the other or with writes that
were reduced before, and a write may arrive again.
-/
namespace VaultspecA2A.ReceiptChannels
open PyValue Database CheckpointEvidence KeyedUnions List

def completionDump (receipt : GraphCompletionReceipt) : Value :=
  .dict [(.str "schema_version",.str "graph-completion-v1"),
    (.str "action",modelDump receipt.action),(.str "outcome",.str "completed")]

def equalsCompletionDump (stored : Value) (receipt : GraphCompletionReceipt) : Bool :=
  match stored with
  | .dict entries =>
    decide (entries.length = 3) &&
      (stored.get "schema_version").any (equalsScalar · (.str "graph-completion-v1")) &&
      (stored.get "action").any (equalsDump · receipt.action) &&
      (stored.get "outcome").any (equalsScalar · (.str "completed"))
  | _ => false

lemma completion_reads (h : modelValidate (modelDump r) = some r) :
    GraphCompletionReceipt.modelValidate (completionDump ⟨r⟩) = some ⟨r⟩ := by
  have ha : (completionDump ⟨r⟩).get "action" = some (modelDump r) := rfl
  have hif : (completionDump ⟨r⟩).hasOnlyFields ["schema_version","action","outcome"] ∧
      ((completionDump ⟨r⟩).get "schema_version").bind Value.text? = some "graph-completion-v1" ∧
      ((completionDump ⟨r⟩).get "outcome").bind Value.text? = some "completed" := ⟨rfl,rfl,rfl⟩
  unfold GraphCompletionReceipt.modelValidate
  rw [if_pos hif,ha,Option.bind_some,h]
  rfl

def completionKind : Kind GraphCompletionReceipt where
  read := GraphCompletionReceipt.modelValidate
  key receipt := receipt.action.dispatchId
  dump := completionDump
  same := equalsCompletionDump
  same_iff r r' := by
    have ha : (completionDump r').get "action" = some (modelDump r'.action) := rfl
    have hs : equalsCompletionDump (completionDump r') r =
        equalsDump (modelDump r'.action) r.action := by
      unfold equalsCompletionDump
      simp only [completionDump] at ha ⊢
      rw [ha]
      exact Bool.and_true _
    rw [hs,equalsDump_modelDump]
    cases r
    cases r'
    simp
  read_dump v r h := by
    unfold GraphCompletionReceipt.modelValidate at h
    split_ifs at h
    obtain ⟨action,ha,rfl⟩ := Option.map_eq_some_iff.1 h
    obtain ⟨raw,-,ha⟩ := Option.bind_eq_some_iff.1 ha
    exact completion_reads (modelValidate_modelDump (modelValidate_admissible ha))

def mergeGraphCompletionReceipts (existing incoming : Entries) : Option Entries :=
  completionKind.merge existing incoming

/-- A valid receipt as each channel receives it. -/
structure Write where
  receipt : GraphActionReceipt
  incorporated : Value × Value
  active : Entries
  completion : Value × Value
  incorporated_valid : modelValidate incorporated.2 = some receipt ∧
    incorporated.1.text? = some receipt.dispatchId
  active_valid : modelValidate (.dict active) = some receipt
  completion_valid : GraphCompletionReceipt.modelValidate completion.2 = some ⟨receipt⟩ ∧
    completion.1.text? = some receipt.dispatchId

def dumped (r : GraphActionReceipt) : Entries := (dumpEntries r).map fun e => (.str e.1,e.2)

/-- The writes by which a receipt is delivered and its completion recorded. -/
def receiptChannels (r : GraphActionReceipt) (h : admissible r = true) : Write where
  receipt := r
  incorporated := incorporatedKind.entry r
  active := dumped r
  completion := completionKind.entry ⟨r⟩
  incorporated_valid := ⟨modelValidate_modelDump h,rfl⟩
  active_valid := modelValidate_modelDump h
  completion_valid := ⟨completion_reads (modelValidate_modelDump h),rfl⟩

/-- The receipts of the writes, in the order of the groups and with their repetitions. -/
def receipts (groups : List (Grouping Write)) : List GraphActionReceipt :=
  (groups.flatMap Grouping.writes).map Write.receipt

def incorporated (groups : List (Grouping Write)) : Option Entries :=
  channel (fun w => [w.incorporated]) mergeGraphActionReceipts [] groups

def completed (groups : List (Grouping Write)) : Option Entries :=
  channel (fun w => [w.completion]) mergeGraphCompletionReceipts [] groups

def reduceActive (existing incoming : Entries) : Option Entries :=
  (mergeActiveGraphActionReceipt existing incoming).bind fun value => entriesOf (some value)

def active (groups : List (Grouping Write)) : Option Entries :=
  channel Write.active reduceActive [] groups

/-- The receipt is among these, and none of them has a higher generation. -/
def Newest (rs : List GraphActionReceipt) (r : GraphActionReceipt) : Prop :=
  r ∈ rs ∧ ∀ r' ∈ rs, r'.writerGeneration ≤ r.writerGeneration

variable {r r' : GraphActionReceipt}

lemma reduceActive_some (h : modelValidate (.dict new) = some r) : reduceActive old new =
    some (dumped (newer (modelValidate (.dict old)) r)) := by
  unfold reduceActive mergeActiveGraphActionReceipt
  rw [h]
  cases modelValidate (.dict old) with
  | none => rfl
  | some held =>
    dsimp only [newer]
    split_ifs <;> rfl

lemma Newest.newer (h : Newest rs r) (h' : Newest ts r') :
    Newest (rs ++ ts) (newer (some r) r') := by
  unfold CheckpointEvidence.newer
  dsimp only
  split_ifs with hlt
  · refine ⟨mem_append_left _ h.1,fun o ho => ?_⟩
    rcases mem_append.1 ho with ho | ho
    · exact h.2 o ho
    · exact (h'.2 o ho).trans hlt.le
  · refine ⟨mem_append_right _ h'.1,fun o ho => ?_⟩
    rcases mem_append.1 ho with ho | ho
    · exact (h.2 o ho).trans (Nat.not_lt.1 hlt)
    · exact h'.2 o ho

lemma modelValidate_dumped_newer (h : modelValidate (.dict old) = some r)
    (h' : modelValidate (.dict new) = some r') :
    modelValidate (.dict (dumped (newer (some r) r'))) = some (newer (some r) r') :=
  modelValidate_modelDump (newer_admissible (fun _ hr => Option.mem_some.1 hr ▸
    modelValidate_admissible h) (modelValidate_admissible h'))

lemma value_newest (g : Grouping Write) : ∃ m r,
    g.value Write.active reduceActive = some m ∧ modelValidate (.dict m) = some r ∧
      Newest (g.writes.map Write.receipt) r := by
  induction g with
  | write w => exact ⟨_,_,rfl,w.active_valid,by simp [Grouping.writes,Newest]⟩
  | join first second hf hs =>
    obtain ⟨m,r,hm,hr,hn⟩ := hf
    obtain ⟨m',r',hm',hr',hn'⟩ := hs
    refine ⟨dumped (newer (some r) r'),newer (some r) r',?_,modelValidate_dumped_newer hr hr',?_⟩
    · rw [Grouping.value,hm,hm']
      exact (reduceActive_some hr').trans (by rw [hr])
    · rw [Grouping.writes,map_append]
      exact hn.newer hn'

lemma active_newest (groups : List (Grouping Write)) (hne : groups ≠ []) : ∃ r,
    active groups = some (dumped r) ∧ modelValidate (modelDump r) = some r ∧
      Newest (receipts groups) r := by
  induction groups using List.reverseRecOn with
  | nil => exact (hne rfl).elim
  | append_singleton groups g ih =>
    obtain ⟨m,r,hm,hr,hn⟩ := value_newest g
    unfold active receipts
    rw [channel_concat,hm,flatMap_append,map_append,flatMap_singleton]
    by_cases hg : groups = []
    · subst hg
      refine ⟨r,?_,modelValidate_modelDump (modelValidate_admissible hr),hn⟩
      exact reduceActive_some hr
    · obtain ⟨o,ho,hv,hno⟩ := ih hg
      unfold active at ho
      rw [ho]
      refine ⟨newer (some o) r,?_,modelValidate_dumped_newer hv hr,hno.newer hn⟩
      exact (reduceActive_some hr).trans (by rw [show Value.dict (dumped o) = modelDump o from rfl,hv])

/-- In any order and grouping and with any repetitions, receipts that their dispatch ids
identify are united in the incorporated and the completion channel, and the active channel has
the one of the highest generation. Receipts that differ under one dispatch id fail the
incorporated channel. -/
theorem receipt_channels_unite (groups : List (Grouping Write)) :
    (Identified GraphActionReceipt.dispatchId (receipts groups) →
      (∃ m, incorporated groups = some m ∧ ∀ key value, (Value.dict m).get key = some value ↔
        ∃ r ∈ receipts groups, r.dispatchId = key ∧ value = modelDump r) ∧
      ∃ m, completed groups = some m ∧ ∀ key value, (Value.dict m).get key = some value ↔
        ∃ r ∈ receipts groups, r.dispatchId = key ∧ value = completionDump ⟨r⟩) ∧
    (Identified GraphActionReceipt.writerGeneration (receipts groups) → groups ≠ [] →
      (∃ r, Newest (receipts groups) r) ∧
      ∀ r, Newest (receipts groups) r → active groups = some (dumped r)) ∧
    (¬ Identified GraphActionReceipt.dispatchId (receipts groups) →
      incorporated groups = none) := by
  have hin : Unites incorporatedKind incorporatedKind.Canonical (incorporated groups)
      (receipts groups) := by
    unfold incorporated
    rw [mergeGraphActionReceipts_eq]
    exact @channel_unites _ incorporatedKind _ _ _ Write.incorporated_valid groups
  have hco : Unites completionKind completionKind.Canonical (completed groups)
      ((receipts groups).map .mk) := by
    unfold receipts
    rw [map_map]
    exact @channel_unites _ completionKind _ _ (fun w => ⟨w.receipt⟩) Write.completion_valid groups
  refine ⟨fun hid => ⟨?_,?_⟩,fun hgen hne => ?_,hin.2⟩
  · obtain ⟨m,us,hm,hc,hu⟩ := hin.1 hid
    refine ⟨m,hm,fun key value => hc.get_eq_some.trans ?_⟩
    simp only [hu]
    rfl
  · have hid' : Identified completionKind.key ((receipts groups).map .mk) := by
      rintro _ hr _ hr' he
      obtain ⟨r,hm,rfl⟩ := mem_map.1 hr
      obtain ⟨r',hm',rfl⟩ := mem_map.1 hr'
      rw [hid r hm r' hm' he]
    obtain ⟨m,us,hm,hc,hu⟩ := hco.1 hid'
    refine ⟨m,hm,fun key value => hc.get_eq_some.trans ?_⟩
    simp only [hu,mem_map,exists_exists_and_eq_and]
    rfl
  · obtain ⟨r,hr,-,hn⟩ := active_newest groups hne
    refine ⟨⟨r,hn⟩,fun o ho => ?_⟩
    have he := hgen o ho.1 r hn.1 (le_antisymm (hn.2 o ho.1) (ho.2 r hn.1))
    rw [hr,he]

end VaultspecA2A.ReceiptChannels
