import Mathlib.Data.Option.Defs
import VaultspecA2A.Fanout
import VaultspecA2A.PyJson

/-!
# What a progress frame may carry

A frame leaves the service with its identity keys as they are and with the fields that the catalog
lists for its type. A field is rebuilt by its specification: texts are cut, lists are bounded, and
an object inside a list is rebuilt from the fields listed for it. A value of another shape is left
out. A type that the catalog does not list keeps only its identity keys.

Before that the frame is stamped with the version of the frame format and, when its node is one of
the research graph, with the phase of that node.
-/
namespace VaultspecA2A.SseFrames
open PyValue OrderedDict PyJson Option

abbrev Payload := Dict String Value

inductive FieldSpec
  | text (maxChars : ℕ)
  | flag
  | number
  | integer
  | textList (maxItems maxChars : ℕ)
  | objectList (maxItems : ℕ) (fields : List (String × FieldSpec))

def truncate (maxChars : ℕ) (text : String) : String := String.ofList (text.toList.take maxChars)

def stringKeyed : Value → Option Payload
  | .dict entries =>
    some (.ofPairs (entries.filterMap fun entry => entry.1.text?.map fun key => (key,entry.2)))
  | _ => none

def nullable (project : Value → Option Value) : Value → Option Value
  | .null => some .null
  | value => project value

def projectText (maxChars : ℕ) (value : Value) : Option Value :=
  value.text?.map fun text => .str (truncate maxChars text)

def projectFlag : Value → Option Value
  | .bool b => some (.bool b)
  | _ => none

def projectNumber : Value → Option Value
  | .int n => some (.int n)
  | .float literal => some (.float literal)
  | _ => none

def projectInteger : Value → Option Value
  | .int n => some (.int n)
  | _ => none

def projectItems (maxItems : ℕ) (project : Value → Option Value) (value : Value) : Option Value :=
  value.items?.map fun items => .list ((items.take maxItems).filterMap project)

mutual

/-- The value that is sent for a field, or `none` when the field is left out. -/
def FieldSpec.project : FieldSpec → Value → Option Value
  | .text maxChars => nullable (projectText maxChars)
  | .flag => nullable projectFlag
  | .number => nullable projectNumber
  | .integer => nullable projectInteger
  | .textList maxItems maxChars => nullable (projectItems maxItems (projectText maxChars))
  | .objectList maxItems fields =>
    nullable (projectItems maxItems fun item =>
      (stringKeyed item).map fun entry => ofDict (projectFields fields entry ∅))

def projectFields : List (String × FieldSpec) → Payload → Payload → Payload
  | [], _, projected => projected
  | (key,spec) :: fields, source, projected =>
    projectFields fields source (match (source.get key).bind spec.project with
      | some value => projected.set key value
      | none => projected)

end

def enumText : FieldSpec := .text 64

def nodeName : FieldSpec := .text 128

def toolCallFields : List (String × FieldSpec) :=
  [("tool_call_id",.text 128),("title",.text 256),("kind",enumText),("status",enumText),
    ("locations",.objectList 32 [("path",.text 512),("line",.integer)])]

inductive FrameKind
  | messageChunk
  | thoughtChunk
  | toolCallStart
  | toolCallUpdate
  | artifactUpdate
  | agentStatus
  | teamStatus
  | error
  | streamSnapshot
  | threadTerminal
  | heartbeat
  | streamRejected
  | progressDropped
  | permissionRequest
  | clarificationPending
  | planUpdate
deriving DecidableEq, Repr

namespace FrameKind

def all : List FrameKind :=
  [messageChunk,thoughtChunk,toolCallStart,toolCallUpdate,artifactUpdate,agentStatus,
    teamStatus,error,streamSnapshot,threadTerminal,heartbeat,streamRejected,progressDropped,
    permissionRequest,clarificationPending,planUpdate]

def wire : FrameKind → String
  | messageChunk => "message_chunk"
  | thoughtChunk => "thought_chunk"
  | toolCallStart => "tool_call_start"
  | toolCallUpdate => "tool_call_update"
  | artifactUpdate => "artifact_update"
  | agentStatus => "agent_status"
  | teamStatus => "team_status"
  | error => "error"
  | streamSnapshot => "stream_snapshot"
  | threadTerminal => "thread_terminal"
  | heartbeat => "heartbeat"
  | streamRejected => "stream_rejected"
  | progressDropped => "progress_dropped"
  | permissionRequest => "permission_request"
  | clarificationPending => "clarification_pending"
  | planUpdate => "plan_update"

def fields : FrameKind → List (String × FieldSpec)
  | messageChunk => [("content",.text 16384),("finish_reason",enumText)]
  | thoughtChunk => [("content",.text 16384)]
  | toolCallStart => toolCallFields
  | toolCallUpdate => toolCallFields
  | artifactUpdate =>
    [("artifact_id",.text 256),("filename",.text 256),("append",.flag),("last_chunk",.flag)]
  | agentStatus => [("state",enumText),("node_name",nodeName),("detail",.text 256)]
  | teamStatus =>
    [("active_thread_ids",.textList 64 128), ("agents",.objectList 64
        [("thread_id",.text 128),("agent_id",.text 63),("state",enumText),
          ("node_name",nodeName),("provider",enumText),("model_name",.text 128),
          ("role",enumText),("display_name",.text 128),("description",.text 256)])]
  | error => [("code",enumText),("message",.text 512),("recoverable",.flag)]
  | streamSnapshot => [("status",enumText)]
  | threadTerminal => [("status",enumText),("replay",.flag),("error_detail",.text 512)]
  | heartbeat => [("server_uptime_seconds",.number)]
  | streamRejected => [("reason",enumText)]
  | progressDropped =>
    [("reason",enumText),("dropped_type",enumText),("dropped_count",.integer),
      ("first_sequence",.integer)]
  | permissionRequest =>
    [("request_id",.text 128),("tool_call",.text 128),("tool_kind",enumText),
      ("description",.text 4096),
      ("options",.objectList 16 [("option_id",.text 64),("name",.text 128),("kind",enumText)])]
  | clarificationPending => [("request_id",.text 128)]
  | planUpdate => [("entries",.objectList 64 [("status",enumText),("priority",enumText)])]

end FrameKind

def progressCatalog (frameType : String) : Option (List (String × FieldSpec)) :=
  (FrameKind.all.find? fun kind => kind.wire = frameType).map FrameKind.fields

def alwaysSafeKeys : List String :=
  ["api_version","type","event_type","thread_id","agent_id","sequence","timestamp",
    "message_id","semantic_phase"]

def isSafe (key : String) : Bool := decide (key ∈ alwaysSafeKeys)

def frameType (payload : Payload) : String := Fanout.wireEventType (ofDict payload)

def enforceProgressAllowlist (payload : Payload) : Payload :=
  let projected := payload.restrict isSafe
  match progressCatalog (frameType payload) with
  | some fields => projected.update (projectFields fields payload ∅).entries
  | none => projected

def sseFrameVersion : String := "v1"

def versioned (payload : Payload) : Payload :=
  if (payload.get "api_version").any (Value.isKey sseFrameVersion) then payload
  else (Dict.ofPairs [("api_version",.str sseFrameVersion)]).update payload.entries

inductive SemanticPhase
  | researching
  | synthesizingResearch
  | reviewingResearch
  | awaitingResearchDecision
  | writingAdr
  | reviewingAdr
  | awaitingAdrDecision
  | writingPlan
  | reviewingPlan
  | awaitingPlanDecision
deriving DecidableEq, Repr

def SemanticPhase.wire : SemanticPhase → String
  | researching => "researching"
  | synthesizingResearch => "synthesizing_research"
  | reviewingResearch => "reviewing_research"
  | awaitingResearchDecision => "awaiting_research_decision"
  | writingAdr => "writing_adr"
  | reviewingAdr => "reviewing_adr"
  | awaitingAdrDecision => "awaiting_adr_decision"
  | writingPlan => "writing_plan"
  | reviewingPlan => "reviewing_plan"
  | awaitingPlanDecision => "awaiting_plan_decision"

def researchAdrNodePhase : List (String × SemanticPhase) :=
  [("synthesis",.synthesizingResearch),("research_review",.reviewingResearch),
    ("research_gate",.awaitingResearchDecision),("adr_author",.writingAdr),
    ("adr_review",.reviewingAdr),("adr_gate",.awaitingAdrDecision),("plan_author",.writingPlan),
    ("plan_review",.reviewingPlan),("plan_gate",.awaitingPlanDecision)]

def researchAdrSemanticPhase (name : String) : Option SemanticPhase :=
  let node := if PyText.startsWith name "mount_" then String.ofList (name.toList.drop 6) else name
  if node.isEmpty ∨ node = "__end__" then none
  else if PyText.startsWith node "research_dispatch" then some .researching
  else researchAdrNodePhase.lookup node

def stampedPhase (payload : Payload) : Option SemanticPhase :=
  if (payload.get "semantic_phase").any Value.truthy then none
  else
    ((((payload.get "node_name").filter Value.truthy).or (payload.get "agent_id")).bind
      Value.nonemptyStr).bind researchAdrSemanticPhase

def stampSemanticPhase (payload : Payload) : Payload :=
  match stampedPhase payload with
  | some phase => payload.set "semantic_phase" (.str phase.wire)
  | none => payload

def outgoing (payload : Payload) : Payload :=
  enforceProgressAllowlist (stampSemanticPhase (versioned payload))

variable {source sr : Payload} {key : String} {spec sp : FieldSpec}

section
variable {fields : List (String × FieldSpec)}

@[simp] lemma get_ofDict : (ofDict pl).get key = pl.get key := by
  have ht : (fun e : Value × Value => e.1.isKey key) ∘
      (fun e : String × Value => (Value.str e.1,e.2)) = fun e => decide (e.1 = key) := by
    funext e
    simp [Value.isKey,beq_eq_decide]
  rw [ofDict,Value.get,List.find?_map,map_map,Dict.get,ht]
  rfl

lemma stringKeyed_ofDict : stringKeyed (ofDict pl) = some pl := by
  rw [ofDict,stringKeyed,List.filterMap_map]
  change some (Dict.ofPairs (pl.entries.filterMap some)) = some pl
  rw [List.filterMap_some,Dict.ofPairs_entries]

/-- The entries that a projection sets, in the order of the catalog. -/
def sentFields (fields : List (String × FieldSpec)) (source : Payload) : List (String × Value) :=
  fields.filterMap fun field => ((source.get field.1).bind field.2.project).map (Prod.mk field.1)

lemma sentFields_cons (f : String × FieldSpec) : sentFields (f :: fields) sr =
    match (sr.get f.1).bind f.2.project with
    | some value => (f.1,value) :: sentFields fields sr
    | none => sentFields fields sr := by
  rw [sentFields,List.filterMap_cons]
  cases (sr.get f.1).bind f.2.project <;> rfl

lemma projectFields_eq (pr : Payload) :
    projectFields fields sr pr = pr.update (sentFields fields sr) := by
  induction fields generalizing pr with
  | nil => rfl
  | cons f fields ih =>
    rw [projectFields,ih,sentFields_cons]
    cases (sr.get f.1).bind f.2.project <;> rfl

lemma sentFields_keys : ((sentFields fields sr).map Prod.fst).Sublist (fields.map Prod.fst) := by
  induction fields with
  | nil => exact List.Sublist.refl _
  | cons f fields ih =>
    rw [sentFields_cons,List.map_cons]
    cases (sr.get f.1).bind f.2.project with
    | none => exact ih.cons _
    | some value => exact ih.cons_cons _

lemma projectFields_entries (h : (fields.map Prod.fst).Nodup) :
    (projectFields fields sr ∅).entries = sentFields fields sr := by
  rw [projectFields_eq]
  exact Dict.ofPairs_of_nodup (h.sublist sentFields_keys)

lemma mem_sentFields : (key,value) ∈ sentFields fields sr ↔
    ∃ sp, (key,sp) ∈ fields ∧ (sr.get key).bind sp.project = some value := by
  rw [sentFields,List.mem_filterMap]
  constructor
  · rintro ⟨⟨na,sp⟩,hm,hv⟩
    obtain ⟨se,hs,heq⟩ := map_eq_some_iff.1 hv
    cases heq
    exact ⟨sp,hm,hs⟩
  · rintro ⟨sp,hm,hv⟩
    exact ⟨(key,sp),hm,map_eq_some_iff.2 ⟨value,hv,rfl⟩⟩

lemma get_projectFields (h : (fields.map Prod.fst).Nodup) (hs : (key,sp) ∈ fields) :
    (projectFields fields sr ∅).get key = (sr.get key).bind sp.project := by
  refine Option.ext fun value => ?_
  rw [← Dict.mem_entries_iff,projectFields_entries h,mem_sentFields]
  constructor
  · rintro ⟨sa,hsa,hv⟩
    have heq := List.inj_on_of_nodup_map h hsa hs rfl
    cases heq
    exact hv
  · intro hv
    exact ⟨sp,hs,hv⟩

lemma get_projectFields_none (h : (fields.map Prod.fst).Nodup) (hk : key ∉ fields.map Prod.fst) :
    (projectFields fields sr ∅).get key = none := by
  refine eq_none_iff_forall_ne_some.2 fun value hv => hk ?_
  rw [← Dict.mem_entries_iff,projectFields_entries h,mem_sentFields] at hv
  obtain ⟨sp,hs,-⟩ := hv
  exact List.mem_map_of_mem hs

lemma projectFields_congr (pr : Payload) (h : ∀ f ∈ fields, (sr.get f.1).bind f.2.project =
      (o.get f.1).bind f.2.project) :
    projectFields fields sr pr = projectFields fields o pr := by
  rw [projectFields_eq,projectFields_eq,sentFields,sentFields]
  congr 1
  refine List.filterMap_congr fun f hf => ?_
  rw [h f hf]

end

def Settles (project : Value → Option Value) : Prop :=
  ∀ value sent, project value = some sent → project sent = some sent

section
variable {project : Value → Option Value} {fields : List (String × FieldSpec)}

lemma Settles.nullable (h : Settles project) : Settles (nullable project) := by
  intro value se hs
  cases value with
  | null => cases hs; rfl
  | _ =>
    have ha := h _ _ hs
    cases se with
    | null => rfl
    | _ => exact ha

lemma projectText_settles (mc : ℕ) : Settles (projectText mc) := by
  intro value se hs
  obtain ⟨x,-,rfl⟩ := map_eq_some_iff.1 hs
  simp [projectText,Value.text?,truncate,List.take_take]

lemma projectFlag_settles : Settles projectFlag := by
  intro value se hs
  cases value with
  | bool b => cases hs; rfl
  | _ => cases hs

lemma projectNumber_settles : Settles projectNumber := by
  intro value se hs
  cases value with
  | int n => cases hs; rfl
  | float li => cases hs; rfl
  | _ => cases hs

lemma projectInteger_settles : Settles projectInteger := by
  intro value se hs
  cases value with
  | int n => cases hs; rfl
  | _ => cases hs

lemma Settles.items (h : Settles project) (mi : ℕ) : Settles (projectItems mi project) := by
  intro value se hs
  obtain ⟨it,-,rfl⟩ := map_eq_some_iff.1 hs
  have hl : ((it.take mi).filterMap project).length ≤ mi :=
    (List.length_filterMap_le _ _).trans (List.length_take_le _ _)
  have hk : ∀ se ∈ (it.take mi).filterMap project, project se = some se := by
    intro se hm
    obtain ⟨x,-,hi⟩ := List.mem_filterMap.1 hm
    exact h _ _ hi
  rw [projectItems,Value.items?,map_some,List.take_of_length_le hl,
    List.filterMap_congr hk,List.filterMap_some]

lemma bind_settled (h : Settles project) (value : Option Value) :
    (value.bind project).bind project = value.bind project := by
  cases hs : value.bind project with
  | none => rfl
  | some se =>
    obtain ⟨sr,-,hso⟩ := bind_eq_some_iff.1 hs
    exact h sr se hso

lemma projectFields_settle (hn : (fields.map Prod.fst).Nodup)
    (h : ∀ f ∈ fields, Settles f.2.project) (sr : Payload) :
    projectFields fields (projectFields fields sr ∅) ∅ = projectFields fields sr ∅ := by
  refine projectFields_congr ∅ fun f hf => ?_
  rw [get_projectFields hn hf]
  exact bind_settled (h f hf) _

lemma objectList_settles (hn : (fields.map Prod.fst).Nodup)
    (h : ∀ f ∈ fields, Settles f.2.project) :
    Settles fun x => (stringKeyed x).map fun e => ofDict (projectFields fields e ∅) := by
  intro value se hs
  obtain ⟨e,-,rfl⟩ := map_eq_some_iff.1 hs
  dsimp only
  rw [stringKeyed_ofDict,map_some,projectFields_settle hn h]

mutual

def FieldSpec.distinct : FieldSpec → Bool
  | .objectList _ fields => decide (fields.map Prod.fst).Nodup && distinctFields fields
  | _ => true

def distinctFields : List (String × FieldSpec) → Bool
  | [] => true
  | (_,spec) :: fields => spec.distinct && distinctFields fields

end

mutual

theorem FieldSpec.settles : ∀ sp : FieldSpec, sp.distinct = true → Settles sp.project
  | .text mc, _ => (projectText_settles mc).nullable
  | .flag, _ => projectFlag_settles.nullable
  | .number, _ => projectNumber_settles.nullable
  | .integer, _ => projectInteger_settles.nullable
  | .textList mi mc, _ => ((projectText_settles mc).items mi).nullable
  | .objectList mi fields, h => by
      rw [FieldSpec.distinct,Bool.and_eq_true,decide_eq_true_eq] at h
      exact ((objectList_settles h.1 (settles_of_distinct fields h.2)).items mi).nullable

theorem settles_of_distinct : ∀ fields : List (String × FieldSpec), distinctFields fields = true →
    ∀ f ∈ fields, Settles f.2.project
  | [], _ => List.forall_mem_nil _
  | (_,sp) :: fields, h => by
      rw [distinctFields,Bool.and_eq_true] at h
      exact List.forall_mem_cons.2 ⟨sp.settles h.1,settles_of_distinct fields h.2⟩

end

end

def catalogFields (frameType : String) : List (String × FieldSpec) :=
  (progressCatalog frameType).getD []

/-- The lists of the catalog name every field once and no identity key. -/
structure Listed (fields : List (String × FieldSpec)) : Prop where
  nodup : (fields.map Prod.fst).Nodup
  distinct : distinctFields fields = true
  apart : ∀ field ∈ fields, isSafe field.1 = false

lemma FrameKind.listed (ki : FrameKind) : Listed ki.fields := by
  cases ki <;> exact ⟨by decide,by decide,by decide⟩

lemma catalogFields_listed (frameType : String) : Listed (catalogFields frameType) := by
  rw [catalogFields,progressCatalog]
  cases FrameKind.all.find? fun ki => ki.wire = frameType with
  | none => exact ⟨List.nodup_nil,rfl,List.forall_mem_nil _⟩
  | some ki => exact ki.listed

section
variable {payload pl o : Payload}

lemma frameType_congr (ht : pl.get "type" = o.get "type")
    (hev : pl.get "event_type" = o.get "event_type") :
    frameType pl = frameType o := by
  simp only [frameType,Fanout.wireEventType,Value.getStr,get_ofDict,ht,hev]

lemma enforce_eq (pl : Payload) : enforceProgressAllowlist pl =
    (pl.restrict isSafe).update (projectFields (catalogFields (frameType pl)) pl ∅).entries := by
  rw [enforceProgressAllowlist,catalogFields]
  cases progressCatalog (frameType pl) <;> rfl

lemma get_enforce (pl : Payload) (key : String) : (enforceProgressAllowlist pl).get key =
    ((projectFields (catalogFields (frameType pl)) pl ∅).get key).or
      (if isSafe key then pl.get key else none) := by
  rw [enforce_eq,Dict.get_update_dict,Dict.get_restrict]

lemma get_enforce_safe (h : isSafe key = true) :
    (enforceProgressAllowlist pl).get key = pl.get key := by
  have hl := catalogFields_listed (frameType pl)
  rw [get_enforce,get_projectFields_none hl.nodup,none_or,if_pos h]
  intro hm
  obtain ⟨f,hf,rfl⟩ := List.mem_map.1 hm
  rw [hl.apart f hf] at h
  cases h

lemma get_enforce_listed (h : (key,sp) ∈ catalogFields (frameType pl)) :
    (enforceProgressAllowlist pl).get key = (pl.get key).bind sp.project := by
  have hl := catalogFields_listed (frameType pl)
  rw [get_enforce,hl.apart _ h,get_projectFields hl.nodup h,if_neg Bool.false_ne_true,or_none]

lemma restrict_enforce : (enforceProgressAllowlist pl).restrict isSafe = pl.restrict isSafe := by
  have hl := catalogFields_listed (frameType pl)
  have hn : (projectFields (catalogFields (frameType pl)) pl ∅).entries.filter
      (fun e => isSafe e.1) = [] := by
    rw [List.filter_eq_nil_iff]
    rintro ⟨key,value⟩ hen
    rw [projectFields_entries hl.nodup,mem_sentFields] at hen
    obtain ⟨sp,hs,-⟩ := hen
    rw [hl.apart _ hs]
    exact Bool.false_ne_true
  rw [enforce_eq,Dict.restrict_update,Dict.restrict_restrict,hn,Dict.update_nil]

lemma enforce_enforce :
    enforceProgressAllowlist (enforceProgressAllowlist pl) = enforceProgressAllowlist pl := by
  have hl := catalogFields_listed (frameType pl)
  have ht : frameType (enforceProgressAllowlist pl) = frameType pl :=
    frameType_congr (get_enforce_safe (by decide)) (get_enforce_safe (by decide))
  have hfi : projectFields (catalogFields (frameType pl)) (enforceProgressAllowlist pl) ∅ =
        projectFields (catalogFields (frameType pl)) pl ∅ := by
    refine projectFields_congr ∅ fun f hf => ?_
    rw [get_enforce_listed hf]
    exact bind_settled (settles_of_distinct _ hl.distinct f hf) _
  rw [enforce_eq (enforceProgressAllowlist pl),ht,restrict_enforce,hfi,← enforce_eq]

lemma get_versioned (key : String) : (versioned pl).get key =
    (pl.get key).or (if key = "api_version" then some (.str sseFrameVersion) else none) := by
  rw [versioned]
  split_ifs with hv hk hk
  · subst hk
    cases hge : pl.get "api_version" with
    | none =>
      rw [hge] at hv
      cases hv
    | some value => rfl
  · rw [or_none]
  · rw [Dict.get_update_dict,hk]
    rfl
  · rw [Dict.get_update_dict,Dict.ofPairs,Dict.update_cons,Dict.update_nil,Dict.get_set,
      if_neg hk,Dict.get_empty]

lemma get_stampSemanticPhase (key : String) : (stampSemanticPhase pl).get key =
    (if key = "semantic_phase" then (stampedPhase pl).map fun ph => .str ph.wire
      else none).or (pl.get key) := by
  rw [stampSemanticPhase]
  cases stampedPhase pl with
  | none => simp
  | some ph =>
    dsimp only
    rw [Dict.get_set]
    split_ifs <;> rfl

lemma stampedPhase_congr (hp : pl.get "semantic_phase" = o.get "semantic_phase")
    (hn : pl.get "node_name" = o.get "node_name")
    (ha : pl.get "agent_id" = o.get "agent_id") :
    stampedPhase pl = stampedPhase o := by
  rw [stampedPhase,stampedPhase,hp,hn,ha]

lemma get_versioned_of_ne (h : key ≠ "api_version") : (versioned pl).get key = pl.get key := by
  rw [get_versioned,if_neg h,or_none]

lemma stampedPhase_versioned : stampedPhase (versioned pl) = stampedPhase pl :=
  stampedPhase_congr (get_versioned_of_ne (by decide)) (get_versioned_of_ne (by decide))
    (get_versioned_of_ne (by decide))

lemma get_stamped_of_ne (hv : key ≠ "api_version") (hp : key ≠ "semantic_phase") :
    (stampSemanticPhase (versioned pl)).get key = pl.get key := by
  rw [get_stampSemanticPhase,if_neg hp,none_or,get_versioned_of_ne hv]

lemma frameType_stamped : frameType (stampSemanticPhase (versioned pl)) = frameType pl :=
  frameType_congr (get_stamped_of_ne (by decide) (by decide))
    (get_stamped_of_ne (by decide) (by decide))

lemma get_stamped_of_not_safe (h : isSafe key = false) :
    (stampSemanticPhase (versioned pl)).get key = pl.get key := by
  refine get_stamped_of_ne ?_ ?_
  · rintro rfl
    exact absurd h (by decide)
  · rintro rfl
    exact absurd h (by decide)

def sentIdentity (payload : Payload) (key : String) : Option Value :=
  if key = "api_version" then (payload.get key).or (some (.str sseFrameVersion))
  else if key = "semantic_phase" then
    ((stampedPhase payload).map fun phase => .str phase.wire).or (payload.get key)
  else payload.get key

lemma get_outgoing_safe (h : isSafe key = true) : (outgoing pl).get key = sentIdentity pl key := by
  rw [outgoing,get_enforce_safe h,get_stampSemanticPhase,get_versioned,stampedPhase_versioned,
    sentIdentity]
  split_ifs with hp hv
  · subst hp
    exact absurd hv (by decide)
  all_goals simp

lemma get_outgoing_listed (h : (key,sp) ∈ catalogFields (frameType pl)) :
    (outgoing pl).get key = (pl.get key).bind sp.project := by
  have hs := (catalogFields_listed (frameType pl)).apart _ h
  rw [outgoing,get_enforce_listed (frameType_stamped.symm ▸ h),get_stamped_of_not_safe hs]

lemma get_outgoing_other (hs : isSafe key = false)
    (hk : key ∉ (catalogFields (frameType pl)).map Prod.fst) :
    (outgoing pl).get key = none := by
  rw [outgoing,get_enforce,frameType_stamped,hs,if_neg Bool.false_ne_true,or_none]
  exact get_projectFields_none (catalogFields_listed _).nodup hk

lemma restrict_versioned : (versioned pl).restrict isSafe = versioned (pl.restrict isSafe) := by
  have hge : (pl.restrict isSafe).get "api_version" = pl.get "api_version" :=
    Dict.get_restrict.trans (if_pos (by decide))
  rw [versioned,versioned,hge]
  split_ifs
  · rfl
  · rw [Dict.restrict_update]
    rfl

lemma restrict_stampSemanticPhase : (stampSemanticPhase pl).restrict isSafe =
    match stampedPhase pl with
    | some ph => (pl.restrict isSafe).set "semantic_phase" (.str ph.wire)
    | none => pl.restrict isSafe := by
  rw [stampSemanticPhase]
  cases stampedPhase pl with
  | none => rfl
  | some ph => exact Dict.restrict_set.trans (if_pos (by decide))

end

mutual

def FieldSpec.Agrees : FieldSpec → Value → Value → Prop
  | .objectList _ fields, value, other =>
    match value.items?, other.items? with
    | some items, some others =>
      items.Forall₂ (fun item other =>
        Option.Rel (fieldsAgree fields) (stringKeyed item) (stringKeyed other)) others
    | _, _ => value = other
  | _, value, other => value = other

def fieldsAgree : List (String × FieldSpec) → Payload → Payload → Prop
  | [], _, _ => True
  | (key,spec) :: fields, payload, other =>
    Option.Rel spec.Agrees (payload.get key) (other.get key) ∧ fieldsAgree fields payload other

end

/-- Two payloads agree on all that a frame may carry, their identity keys standing in one order. -/
structure Agree (payload other : Payload) : Prop where
  identity : payload.restrict isSafe = other.restrict isSafe
  node : payload.get "node_name" = other.get "node_name"
  fields : fieldsAgree (catalogFields (frameType payload)) payload other

lemma filterMap_congr_of_forall₂ {α β : Type*} {R : α → α → Prop} {f : α → Option β}
    (hf : ∀ x y, R x y → f x = f y) {xs ys : List α} (h : List.Forall₂ R xs ys) :
    xs.filterMap f = ys.filterMap f := by
  induction h with
  | nil => rfl
  | cons hxy _ ih => rw [List.filterMap_cons,List.filterMap_cons,hf _ _ hxy,ih]

lemma items_eq_some {value : Value} (h : value.items? = some it) : value = .list it := by
  cases value with
  | list fo => cases h; rfl
  | _ => cases h

mutual

theorem FieldSpec.project_congr : ∀ (sp : FieldSpec) {value o : Value},
    sp.Agrees value o → sp.project value = sp.project o
  | .text _, _, _, h => congrArg _ h
  | .flag, _, _, h => congrArg _ h
  | .number, _, _, h => congrArg _ h
  | .integer, _, _, h => congrArg _ h
  | .textList _ _, _, _, h => congrArg _ h
  | .objectList mi fields, value, o, h => by
      rw [FieldSpec.Agrees] at h
      split at h
      · rename_i it ot hit ho
        rw [items_eq_some hit,items_eq_some ho]
        refine congrArg (fun se => some (Value.list se)) (filterMap_congr_of_forall₂ ?_
          (List.forall₂_take mi h))
        intro x tw hi
        generalize stringKeyed x = entry, stringKeyed tw = te at hi
        cases hi with
        | none => rfl
        | some hen =>
          exact congrArg (fun se => some (ofDict se)) (projectFields_agree fields hen ∅)
      · rw [h]

theorem projectFields_agree : ∀ (fields : List (String × FieldSpec)) {pl o : Payload},
    fieldsAgree fields pl o → ∀ pr, projectFields fields pl pr = projectFields fields o pr
  | [], _, _, _, _ => rfl
  | (key,sp) :: fields, pl, o, h, pr => by
      obtain ⟨hs,hf⟩ := h
      have hse : (pl.get key).bind sp.project = (o.get key).bind sp.project := by
        generalize pl.get key = value, o.get key = tw at hs
        cases hs with
        | none => rfl
        | some hv => exact sp.project_congr hv
      rw [projectFields,projectFields,hse]
      exact projectFields_agree fields hf _

end

lemma Agree.get_safe (h : Agree pl o) (hk : isSafe key = true) : pl.get key = o.get key := by
  have hs := congrArg (fun ma : Payload => ma.get key) h.identity
  simpa only [Dict.get_restrict,if_pos hk] using hs

lemma Agree.frameType_eq (h : Agree pl o) : frameType pl = frameType o :=
  frameType_congr (h.get_safe (by decide)) (h.get_safe (by decide))

lemma Agree.stampedPhase_eq (h : Agree pl o) : stampedPhase pl = stampedPhase o :=
  stampedPhase_congr (h.get_safe (by decide)) h.node (h.get_safe (by decide))

lemma Agree.outgoing_eq (h : Agree pl o) : outgoing pl = outgoing o := by
  have hi : (stampSemanticPhase (versioned pl)).restrict isSafe =
      (stampSemanticPhase (versioned o)).restrict isSafe := by
    rw [restrict_stampSemanticPhase,restrict_stampSemanticPhase,restrict_versioned,
      restrict_versioned,h.identity,stampedPhase_versioned,stampedPhase_versioned,h.stampedPhase_eq]
  have hs : ∀ sr : Payload,
      projectFields (catalogFields (frameType sr)) (stampSemanticPhase (versioned sr)) ∅ =
        projectFields (catalogFields (frameType sr)) sr ∅ := by
    intro sr
    refine projectFields_congr ∅ fun f hf => ?_
    rw [get_stamped_of_not_safe ((catalogFields_listed _).apart f hf)]
  have hfi := projectFields_agree _ h.fields ∅
  rw [outgoing,outgoing,enforce_eq,enforce_eq,hi,frameType_stamped,frameType_stamped,
    hs,hs,hfi,h.frameType_eq]

/-! ## Kinds of values

A property of values carries over to what is sent when scalars have it, floats as far as they come
from a value of another kind, and when lists and mappings have it with their members. -/

structure Carries (Source Sent : Value → Prop) : Prop where
  null : Sent .null
  bool : ∀ b, Sent (.bool b)
  int : ∀ n, Sent (.int n)
  str : ∀ text, Sent (.str text)
  float : ∀ literal, Source (.float literal) → Sent (.float literal)
  item : ∀ items, Source (.list items) → ∀ item ∈ items, Source item
  entry : ∀ entries, Source (.dict entries) → ∀ entry ∈ entries, Source entry.2
  list : ∀ items, (∀ item ∈ items, Sent item) → Sent (.list items)
  dict : ∀ mapping : Payload, (∀ entry ∈ mapping.entries, Sent entry.2) → Sent (ofDict mapping)

/-- A projection sends values of one kind for values of another. -/
def Sends (Source Sent : Value → Prop) (project : Value → Option Value) : Prop :=
  ∀ value sent, Source value → project value = some sent → Sent sent

section
variable {Source Sent : Value → Prop} {project : Value → Option Value}

lemma Sends.nullable (hc : Carries Source Sent) (h : Sends Source Sent project) :
    Sends Source Sent (nullable project) := by
  intro value se hv hs
  cases value with
  | null => cases hs; exact hc.null
  | _ => exact h _ _ hv hs

lemma projectText_sends (hc : Carries Source Sent) (mc : ℕ) :
    Sends Source Sent (projectText mc) := by
  intro value se _ hs
  obtain ⟨x,-,rfl⟩ := map_eq_some_iff.1 hs
  exact hc.str _

lemma projectFlag_sends (hc : Carries Source Sent) : Sends Source Sent projectFlag := by
  intro value se _ hs
  cases value with
  | bool b => cases hs; exact hc.bool b
  | _ => cases hs

lemma projectNumber_sends (hc : Carries Source Sent) : Sends Source Sent projectNumber := by
  intro value se hv hs
  cases value with
  | int n => cases hs; exact hc.int n
  | float li => cases hs; exact hc.float li hv
  | _ => cases hs

lemma projectInteger_sends (hc : Carries Source Sent) : Sends Source Sent projectInteger := by
  intro value se _ hs
  cases value with
  | int n => cases hs; exact hc.int n
  | _ => cases hs

lemma Sends.items (hc : Carries Source Sent) (h : Sends Source Sent project) (mi : ℕ) :
    Sends Source Sent (projectItems mi project) := by
  intro value se hv hs
  obtain ⟨it,hit,rfl⟩ := map_eq_some_iff.1 hs
  rw [items_eq_some hit] at hv
  refine hc.list _ fun kept hk => ?_
  obtain ⟨x,hi,hp⟩ := List.mem_filterMap.1 hk
  exact h x kept (hc.item it hv x (List.mem_of_mem_take hi)) hp

lemma stringKeyed_values (hc : Carries Source Sent)
    (hv : Source value) (h : stringKeyed value = some ma) :
    ∀ key fo, ma.get key = some fo → Source fo := by
  intro key fo hge
  cases value with
  | dict es =>
    cases h
    have hm := Dict.mem_of_mem_ofPairs (Dict.mem_entries_iff.2 hge)
    obtain ⟨e,hen,ht⟩ := List.mem_filterMap.1 hm
    obtain ⟨x,-,heq⟩ := map_eq_some_iff.1 ht
    cases heq
    exact hc.entry es hv e hen
  | _ => cases h

lemma projectFields_sends (hf : ∀ f ∈ fields, Sends Source Sent f.2.project)
    (h : ∀ key value, sr.get key = some value → Source value) :
    ∀ e ∈ (projectFields fields sr ∅).entries, Sent e.2 := by
  rintro ⟨key,se⟩ hen
  rw [projectFields_eq] at hen
  obtain ⟨sp,hsp,hs⟩ := mem_sentFields.1 (Dict.mem_of_mem_ofPairs hen)
  obtain ⟨value,hv,hp⟩ := bind_eq_some_iff.1 hs
  exact hf _ hsp value se (h key value hv) hp

lemma objectList_sends (hc : Carries Source Sent)
    (hf : ∀ f ∈ fields, Sends Source Sent f.2.project) :
    Sends Source Sent fun x =>
      (stringKeyed x).map fun e => ofDict (projectFields fields e ∅) := by
  intro value se hv hs
  obtain ⟨e,hen,rfl⟩ := map_eq_some_iff.1 hs
  exact hc.dict _ (projectFields_sends hf (stringKeyed_values hc hv hen))

mutual

theorem FieldSpec.sends (hc : Carries Source Sent) : ∀ sp : FieldSpec, Sends Source Sent sp.project
  | .text mc => (projectText_sends hc mc).nullable hc
  | .flag => (projectFlag_sends hc).nullable hc
  | .number => (projectNumber_sends hc).nullable hc
  | .integer => (projectInteger_sends hc).nullable hc
  | .textList mi mc => ((projectText_sends hc mc).items hc mi).nullable hc
  | .objectList mi fields =>
    ((objectList_sends hc (fields_send hc fields)).items hc mi).nullable hc

theorem fields_send (hc : Carries Source Sent) : ∀ fields : List (String × FieldSpec),
    ∀ f ∈ fields, Sends Source Sent f.2.project
  | [] => List.forall_mem_nil _
  | (_,sp) :: fields => List.forall_mem_cons.2 ⟨sp.sends hc,fields_send hc fields⟩

end

lemma outgoing_values (hc : Carries Source Sent)
    (hi : ∀ key value, isSafe key = true → pl.get key = some value → Sent value)
    (hf : ∀ key value, isSafe key = false → pl.get key = some value → Source value) :
    ∀ e ∈ (outgoing pl).entries, Sent e.2 := by
  rintro ⟨key,se⟩ hen
  rw [Dict.mem_entries_iff] at hen
  cases hs : isSafe key with
  | true =>
    rw [get_outgoing_safe hs,sentIdentity] at hen
    split_ifs at hen with hve hph
    · rcases or_eq_some_iff.1 hen with hge | ⟨-,hst⟩
      · exact hi key se hs hge
      · cases hst
        exact hc.str _
    · rcases or_eq_some_iff.1 hen with hst | ⟨-,hge⟩
      · obtain ⟨ph,-,rfl⟩ := map_eq_some_iff.1 hst
        exact hc.str _
      · exact hi key se hs hge
    · exact hi key se hs hen
  | false =>
    by_cases hk : key ∈ (catalogFields (frameType pl)).map Prod.fst
    · obtain ⟨⟨na,sp⟩,hsp,rfl⟩ := List.mem_map.1 hk
      rw [get_outgoing_listed hsp] at hen
      obtain ⟨value,hv,hp⟩ := bind_eq_some_iff.1 hen
      exact sp.sends hc value se (hf _ value hs hv) hp
    · rw [get_outgoing_other hs hk] at hen
      cases hen

end

end VaultspecA2A.SseFrames
