import VaultspecA2A.SseFrames

/-!
# Encoding of progress frames

A frame is written as lines: its id, its event name and its payload in JSON, each behind the name of
its field, and a blank line at the end. A frame above the cap is replaced by a notice that names the
type of the frame it stands for and keeps its id.

The notice carries that type as the payload had it. It is small when the type is.
-/
namespace VaultspecA2A.SseEncoding
open PyValue OrderedDict PyJson SseFrames List

/-- A line of a frame, when there is something to write. -/
def fieldLine (name : String) (value : Option String) : List String :=
  match value.filter (· ≠ "") with
  | some text => [name ++ ": " ++ text]
  | none => []

def frameText (payload : Payload) (event eventId : Option String) : Option String :=
  (dumps (ofDict payload)).map fun data =>
    let lines :=
      match PyText.splitlines data with
      | [] => [data]
      | lines => lines
    String.intercalate "\n"
      (fieldLine "id" eventId ++ fieldLine "event" event ++ lines.map ("data: " ++ ·)) ++ "\n\n"

def encode (payload : Payload) (event eventId : Option String) : Option ByteArray :=
  (frameText payload event eventId).map String.toUTF8

def resumeEventId (threadId : String) (sequence : ℤ) : String :=
  threadId ++ ":" ++ String.ofList (writeInt sequence)

def frameId : Option String → Option ℤ → Option String
  | some threadId, some sequence => some (resumeEventId threadId sequence)
  | _, _ => none

def normalizeWireEventType (payload : Payload) : Payload :=
  if (frameType payload).isEmpty then payload
  else
    (payload.set "type" (.str (frameType payload))).set "event_type" (.str (frameType payload))

def transportPayload (kind : FrameKind) (threadId : Option String)
    (fields : List (String × Value)) : Payload :=
  let identity : Payload := .ofPairs [("type",.str kind.wire)]
  let identity :=
    match threadId with
    | some threadId => identity.set "thread_id" (.str threadId)
    | none => identity
  normalizeWireEventType (identity.update fields)

/-- The notice that stands for a frame above the cap. -/
def sentinel (threadId : Option String) (droppedType : Option Value) : Payload :=
  (Dict.ofPairs [("api_version",.str sseFrameVersion)]).update
    (transportPayload .progressDropped threadId
      [("reason",.str "frame_exceeds_cap"),("dropped_type",droppedType.getD .null)]).entries

def maxSseFrameBytes : ℕ := 1024 * 1024

def encodeSseFrame (payload : Payload) (event threadId : Option String) (sequence : Option ℤ) :
    Option ByteArray :=
  let sent := outgoing payload
  let eventId := frameId threadId sequence
  (encode sent event eventId).bind fun encoded =>
    if encoded.size ≤ maxSseFrameBytes then some encoded
    else
      encode (sentinel threadId (sent.get "type")) (some FrameKind.progressDropped.wire) eventId

/-! ## Payloads that agree

The bytes of a frame depend on nothing but the entries under identity keys, in their order, the name
of the node and the listed fields. -/

theorem kept_content_decides_frame {payload other : Payload} (h : Agree payload other)
    (event threadId : Option String) (sequence : Option ℤ) (source : Payload) :
    encodeSseFrame payload event threadId sequence = encodeSseFrame other event threadId sequence ∧
      enforceProgressAllowlist (enforceProgressAllowlist source) = enforceProgressAllowlist source := by
  refine ⟨?_,enforce_enforce⟩
  rw [encodeSseFrame,encodeSseFrame,h.outgoing_eq]

/-- A plan whose entries and whose own metadata hold a text that no frame carries. -/
def planOf (text : String) : Payload :=
  .ofPairs [("type",.str "plan_update"),("metadata",.str text),
    ("entries",.list [.dict [(.str "content",.str text),(.str "status",.str "pending")]])]

lemma planOf_agree (x o : String) : Agree (planOf x) (planOf o) where
  identity := rfl
  node := rfl
  fields := by
    have hf : catalogFields (frameType (planOf x)) = FrameKind.planUpdate.fields := rfl
    rw [hf]
    exact ⟨.some (.cons (.some ⟨.some rfl,.none,trivial⟩) .nil),trivial⟩

theorem kept_content_decides_frame_plan :
    (planOf "draft").get "metadata" ≠ (planOf "final").get "metadata" ∧
      (encodeSseFrame (planOf "draft") (some "plan_update") (some "run-1") (some 7) =
        encodeSseFrame (planOf "final") (some "plan_update") (some "run-1") (some 7)) ∧
      enforceProgressAllowlist (enforceProgressAllowlist (planOf "draft")) =
        enforceProgressAllowlist (planOf "draft") := by
  refine ⟨?_,kept_content_decides_frame (planOf_agree _ _) _ _ _ _⟩
  intro heq
  have ht := Value.str.inj (Option.some.inj heq)
  exact absurd ht (by decide)

/-- The order of the identity keys is the order they are written in. -/
theorem reordered_keys_change_frame :
    let typeFirst : Payload := .ofPairs [("type",.str "heartbeat"),("message_id",.str "m")]
    let typeLast : Payload := .ofPairs [("message_id",.str "m"),("type",.str "heartbeat")]
    (∀ key, typeFirst.get key = typeLast.get key) ∧
      encodeSseFrame typeFirst none none none ≠ encodeSseFrame typeLast none none none := by
  refine ⟨fun key => ?_,by decide +kernel⟩
  simp only [Dict.ofPairs,Dict.update_cons,Dict.update_nil,Dict.get_set,Dict.get_empty]
  by_cases ht : key = "type"
  · subst ht
    rfl
  · rw [if_neg ht,if_neg ht]

variable {text x : String}

section
variable {payload pl : Payload} {event e eventId eid threadId tid : Option String} {data da : String}

def frameLines (event eventId : Option String) (data : String) : List String :=
  fieldLine "id" eventId ++ fieldLine "event" event ++ ["data: " ++ data]

lemma fieldLine_some (h : x ≠ "") (na : String) : fieldLine na (some x) = [na ++ ": " ++ x] := by
  rw [fieldLine,Option.filter_some,if_pos (decide_eq_true h)]

lemma isLineBreak_of_isPrintable (h : isPrintable c = true) : PyText.isLineBreak c = false := by
  simp only [isPrintable,Bool.and_eq_true,decide_eq_true_eq] at h
  simp only [PyText.isLineBreak,Bool.or_eq_false_iff,Bool.and_eq_false_iff,beq_eq_false_iff_ne,
    decide_eq_false_iff_not]
  omega

lemma splitlines_printable (h : Printable da.toList) : PyText.splitlines da = [da] := by
  rw [PyText.splitlines,splitOnP_eq_singleton fun c hc => isLineBreak_of_isPrintable (h c hc),
    map_singleton,String.ofList_toList]

lemma intercalate_newline (li : String) (ln : List String) :
    (String.intercalate "\n" (li :: ln) ++ "\n").toList =
      (li :: ln).flatMap fun li => li.toList ++ ['\n'] := by
  induction ln generalizing li with
  | nil => simp
  | cons next ln ih =>
    have hn := ih next
    rw [String.toList_append,String.toList_intercalate] at hn ⊢
    rw [flatMap_cons,← hn]
    simp [List.intercalate]

lemma dumps_printable (h : dumps value = some da) : Printable da.toList := by
  rw [dumps] at h
  split_ifs at h with hw
  cases h
  rw [String.toList_ofList]
  exact write_printable value hw

lemma frameText_eq (h : dumps (ofDict pl) = some da) : ∃ x, frameText pl e eid = some x ∧
    x.toList = (frameLines e eid da).flatMap (fun li => li.toList ++ ['\n']) ++
      ['\n'] := by
  rw [frameText,h,Option.map_some,splitlines_printable (dumps_printable h)]
  refine ⟨_,rfl,?_⟩
  change (String.intercalate "\n" (frameLines e eid da) ++ "\n\n").toList = _
  cases hl : frameLines e eid da with
  | nil => simp [frameLines] at hl
  | cons li ln =>
    rw [← intercalate_newline]
    simp

lemma utf8ByteSize_eq (x : String) : x.utf8ByteSize = PyText.utf8Bytes x.toList := by
  have hl : ∀ cs : List Char, (String.ofList cs).utf8ByteSize = PyText.utf8Bytes cs := by
    intro cs
    induction cs with
    | nil => rfl
    | cons c cs ih =>
      rw [String.ofList_cons,String.utf8ByteSize_append,String.utf8ByteSize_singleton,ih]
      rfl
  rw [← hl,String.ofList_toList]

lemma utf8Bytes_append (cs ds : List Char) :
    PyText.utf8Bytes (cs ++ ds) = PyText.utf8Bytes cs + PyText.utf8Bytes ds := by
  simp [PyText.utf8Bytes]

lemma utf8Bytes_printable (h : Printable cs) : PyText.utf8Bytes cs = cs.length := by
  induction cs with
  | nil => rfl
  | cons c cs ih =>
    obtain ⟨hc,hcs⟩ := printable_cons.1 h
    have hs : c.utf8Size = 1 := by
      simp only [isPrintable,Bool.and_eq_true,decide_eq_true_eq] at hc
      rw [Char.utf8Size_eq_one_iff]
      exact UInt32.le_iff_toNat_le.2 (hc.2.trans (by decide))
    have ih := ih hcs
    simp only [PyText.utf8Bytes,map_cons,sum_cons,length_cons] at ih ⊢
    omega

lemma utf8Bytes_lines (ln : List String) :
    PyText.utf8Bytes (ln.flatMap fun li => li.toList ++ ['\n']) =
      (ln.map fun li => li.utf8ByteSize + 1).sum := by
  induction ln with
  | nil => rfl
  | cons li ln ih =>
    rw [flatMap_cons,utf8Bytes_append,ih,utf8Bytes_append,← utf8ByteSize_eq]
    rfl

def jsonSize (value : Value) : ℕ := (write value).length

/-- The size of an entry with its colon and the comma or brace behind it. -/
def entrySize (key : String) : Option Value → ℕ
  | some value => jsonSize (.str key) + jsonSize value + 2
  | none => 0

def lineSize (name : String) (value : Option String) : ℕ :=
  match value.filter (· ≠ "") with
  | some text => name.utf8ByteSize + text.utf8ByteSize + 3
  | none => 0

lemma fieldLine_size (na : String) (value : Option String) :
    ((fieldLine na value).map fun li => li.utf8ByteSize + 1).sum = lineSize na value := by
  rw [fieldLine,lineSize]
  cases value.filter (· ≠ "") with
  | none => rfl
  | some x =>
    have hc : ": ".utf8ByteSize = 2 := rfl
    rw [map_singleton,sum_singleton,String.utf8ByteSize_append,String.utf8ByteSize_append,hc]
    dsimp only
    omega

lemma frameText_size (h : frameText pl e eid = some x) : x.utf8ByteSize =
    lineSize "id" eid + lineSize "event" e + jsonSize (ofDict pl) + 8 := by
  cases hd : dumps (ofDict pl) with
  | none =>
    rw [frameText,hd] at h
    cases h
  | some da =>
    obtain ⟨_,hs,hl⟩ := @frameText_eq pl e eid da hd
    cases hs.symm.trans h
    rw [dumps] at hd
    split_ifs at hd with hw
    cases hd
    have hj : (String.ofList (write (ofDict pl))).utf8ByteSize = jsonSize (ofDict pl) := by
      rw [utf8ByteSize_eq,String.toList_ofList,utf8Bytes_printable (write_printable _ hw), jsonSize]
    have hn : "data: ".utf8ByteSize = 6 := rfl
    have hb : PyText.utf8Bytes ['\n'] = 1 := rfl
    rw [utf8ByteSize_eq,hl,utf8Bytes_append,utf8Bytes_lines,frameLines,map_append,map_append,
      sum_append,sum_append,fieldLine_size,fieldLine_size,map_singleton,sum_singleton,
      String.utf8ByteSize_append,hj,hn,hb]
    omega

lemma writeEntries_length (pa : List (String × Value)) :
    (writeEntries (pa.map fun e => (.str e.1,e.2))).length =
      (pa.map fun e => entrySize e.1 (some e.2)).sum := by
  induction pa with
  | nil => rfl
  | cons e pa ih =>
    rw [map_cons,writeEntries_cons,map_cons,sum_cons,← ih]
    simp only [length_cons,length_append,entrySize,jsonSize,write_str,keyText]
    omega

lemma jsonSize_ofDict (h : pl.entries ≠ []) : jsonSize (ofDict pl) =
    (pl.entries.map fun e => entrySize e.1 (some e.2)).sum + 1 := by
  rw [ofDict,jsonSize]
  cases hen : pl.entries with
  | nil => exact (h hen).elim
  | cons e pa =>
    rw [map_cons,write_dict,map_cons,sum_cons,← writeEntries_length]
    simp only [length_cons,length_append,entrySize,jsonSize,write_str,keyText,length_nil]
    omega

lemma carries_writable : Carries (writable · = true) (writable · = true) where
  null := rfl
  bool _ := rfl
  int _ := rfl
  str _ := rfl
  float _ h := h
  item _ h := writableItems_iff.1 h
  entry _ h entry hen := (writableEntries_iff.1 h entry hen).2
  list _ h := writableItems_iff.2 h
  dict _ h := writable_ofDict.2 h

lemma outgoing_writable (h : writable (ofDict pl) = true) :
    writable (ofDict (outgoing pl)) = true := by
  have hv : ∀ key value, pl.get key = some value → writable value = true :=
    fun key value hge => writable_ofDict.1 h _ (Dict.mem_entries_iff.2 hge)
  exact writable_ofDict.2 (outgoing_values carries_writable
    (fun key value _ => hv key value) fun key value _ => hv key value)

def frameKeys (payload : Payload) : List String :=
  alwaysSafeKeys ++ (catalogFields (frameType payload)).map Prod.fst

lemma frameKeys_nodup (pl : Payload) : (frameKeys pl).Nodup := by
  have hl := catalogFields_listed (frameType pl)
  refine List.Nodup.append (by decide) hl.nodup fun key hs hk => ?_
  obtain ⟨f,hf,rfl⟩ := mem_map.1 hk
  have ha := hl.apart f hf
  rw [isSafe,decide_eq_false_iff_not] at ha
  exact ha hs

lemma mem_frameKeys (h : (outgoing pl).get key = some value) : key ∈ frameKeys pl := by
  rw [frameKeys,mem_append]
  by_contra hn
  rw [not_or] at hn
  rw [get_outgoing_other (decide_eq_false hn.1) hn.2] at h
  cases h

lemma sum_entrySize (keys : List String) (fo : String → Option Value) :
    ((keys.filterMap fun key => (fo key).map (Prod.mk key)).map fun e =>
        entrySize e.1 (some e.2)).sum =
      (keys.map fun key => entrySize key (fo key)).sum := by
  induction keys with
  | nil => rfl
  | cons key keys ih =>
    rw [filterMap_cons,map_cons,sum_cons,← ih]
    cases fo key with
    | none => exact (Nat.zero_add _).symm
    | some value => rfl

lemma outgoing_size (pl : Payload) :
    ((outgoing pl).entries.map fun e => entrySize e.1 (some e.2)).sum =
      (alwaysSafeKeys.map fun key => entrySize key (sentIdentity pl key)).sum +
        ((catalogFields (frameType pl)).map fun f =>
          entrySize f.1 ((pl.get f.1).bind f.2.project)).sum := by
  have hp := Dict.entries_perm (d := outgoing pl) (frameKeys_nodup pl) fun _ _ => mem_frameKeys
  have hs : alwaysSafeKeys.map (fun key => entrySize key ((outgoing pl).get key)) =
      alwaysSafeKeys.map fun key => entrySize key (sentIdentity pl key) := by
    refine map_congr_left fun key hk => ?_
    rw [get_outgoing_safe (decide_eq_true hk)]
  rw [← (hp.map _).sum_eq,sum_entrySize,frameKeys,map_append,sum_append,hs,map_map]
  congr 2
  refine map_congr_left fun f hf => ?_
  exact congrArg (entrySize f.1) (get_outgoing_listed hf)

lemma sentinel_entries (tid : Option String) (dt : Option Value) : (sentinel tid dt).entries =
    [("api_version",.str sseFrameVersion),("type",.str FrameKind.progressDropped.wire)] ++
      (tid.map fun tid => ("thread_id",Value.str tid)).toList ++
      [("reason",.str "frame_exceeds_cap"),("dropped_type",dt.getD .null),
        ("event_type",.str FrameKind.progressDropped.wire)] := by
  cases tid <;> rfl

lemma encode_of_writable (h : writable (ofDict pl) = true) (e eid : Option String) :
    ∃ x, frameText pl e eid = some x ∧ encode pl e eid = some x.toUTF8 ∧ x.toUTF8.size =
        lineSize "id" eid + lineSize "event" e + jsonSize (ofDict pl) + 8 := by
  have hd : dumps (ofDict pl) = some (String.ofList (write (ofDict pl))) := if_pos h
  obtain ⟨x,ht,-⟩ := @frameText_eq pl e eid _ hd
  refine ⟨x,ht,by rw [encode,ht,Option.map_some],?_⟩
  exact String.size_toByteArray.trans (frameText_size ht)

/-- The size of the frame that a payload asks for: what is sent under each identity key and under
each listed field, with the id and the event name. -/
def requestedSize (payload : Payload) (event threadId : Option String) (sequence : Option ℤ) : ℕ :=
  9 + lineSize "id" (frameId threadId sequence) + lineSize "event" event +
    ((alwaysSafeKeys.map fun key => entrySize key (sentIdentity payload key)).sum +
      ((catalogFields (frameType payload)).map fun field =>
        entrySize field.1 ((payload.get field.1).bind field.2.project)).sum)

/-- The size of the notice: that of the type of the payload and of the run id, in the body and in
the id, over a fixed text. -/
def noticeSize (payload : Payload) (threadId : Option String) (sequence : Option ℤ) : ℕ :=
  155 + lineSize "id" (frameId threadId sequence) +
    entrySize "thread_id" (threadId.map Value.str) + jsonSize ((payload.get "type").getD .null)

lemma outgoing_jsonSize (pl : Payload) : jsonSize (ofDict (outgoing pl)) =
    (alwaysSafeKeys.map fun key => entrySize key (sentIdentity pl key)).sum +
      ((catalogFields (frameType pl)).map fun f =>
        entrySize f.1 ((pl.get f.1).bind f.2.project)).sum + 1 := by
  rw [jsonSize_ofDict,outgoing_size]
  intro hn
  have hge : (outgoing pl).get "api_version" = none := by
    rw [Dict.get,hn]
    rfl
  rw [get_outgoing_safe (by decide),sentIdentity,if_pos rfl,Option.or_eq_none_iff] at hge
  cases hge.2

lemma sentinel_jsonSize (tid : Option String) (dt : Option Value) :
    jsonSize (ofDict (sentinel tid dt)) =
      123 + entrySize "thread_id" (tid.map Value.str) + jsonSize (dt.getD .null) := by
  rw [jsonSize_ofDict (by rw [sentinel_entries]; simp),sentinel_entries]
  have hv : entrySize "api_version" (some (.str sseFrameVersion)) = 19 := by decide
  have ht : entrySize "type" (some (.str FrameKind.progressDropped.wire)) = 26 := by decide
  have hre : entrySize "reason" (some (.str "frame_exceeds_cap")) = 29 := by decide
  have hev : entrySize "event_type" (some (.str FrameKind.progressDropped.wire)) = 32 := by decide
  have hd : entrySize "dropped_type" (some (dt.getD .null)) = 16 + jsonSize (dt.getD .null) := by
    have hk : jsonSize (.str "dropped_type") = 14 := by decide
    rw [entrySize,hk]
    omega
  cases tid with
  | none =>
    have hru : entrySize "thread_id" none = 0 := rfl
    simp only [Option.map_none,Option.toList_none,append_nil,cons_append,nil_append,map_cons,
      map_nil,sum_cons,sum_nil,hv,ht,hre,hev,hd,hru]
    omega
  | some tid =>
    simp only [Option.map_some,Option.toList_some,cons_append,nil_append,map_cons,map_nil,sum_cons,
      sum_nil,hv,ht,hre,hev,hd]
    omega

lemma get_outgoing_type : (outgoing pl).get "type" = pl.get "type" := get_outgoing_safe (by decide)

lemma sentinel_writable (h : ∀ value, dt = some value → writable value = true) :
    writable (ofDict (sentinel tid dt)) = true := by
  have hd : writable (dt.getD .null) = true := by
    cases dt with
    | none => rfl
    | some value => exact h value rfl
  rw [writable_ofDict,sentinel_entries]
  cases tid <;> simp [writable,hd]

lemma encodeSseFrame_eq (h : writable (ofDict (outgoing pl)) = true)
    (e tid : Option String) (n : Option ℤ) :
    ∃ x nt, frameText (outgoing pl) e (frameId tid n) = some x ∧
      frameText (sentinel tid (pl.get "type")) (some FrameKind.progressDropped.wire)
        (frameId tid n) = some nt ∧
      x.toUTF8.size = requestedSize pl e tid n ∧
      nt.toUTF8.size = noticeSize pl tid n ∧
      encodeSseFrame pl e tid n =
        some (if x.toUTF8.size ≤ maxSseFrameBytes then x.toUTF8 else nt.toUTF8) := by
  have hn : writable (ofDict (sentinel tid (pl.get "type"))) = true := by
    refine sentinel_writable fun value hge => ?_
    rw [← get_outgoing_type] at hge
    exact writable_ofDict.1 h _ (Dict.mem_entries_iff.2 hge)
  obtain ⟨x,ht,hen,hs⟩ := encode_of_writable h e (frameId tid n)
  obtain ⟨nt,hnoti,hno,hnot⟩ :=
    encode_of_writable hn (some FrameKind.progressDropped.wire) (frameId tid n)
  refine ⟨x,nt,ht,hnoti,?_,?_,?_⟩
  · rw [hs,outgoing_jsonSize,requestedSize]
    omega
  · have hev : lineSize "event" (some FrameKind.progressDropped.wire) = 24 := by decide
    rw [hnot,sentinel_jsonSize,hev,noticeSize]
    omega
  · rw [encodeSseFrame,hen,Option.bind_some,get_outgoing_type,hno]
    split_ifs <;> rfl

lemma outgoing_writable_of_encoded (h : encodeSseFrame pl e tid n = some bt) :
    writable (ofDict (outgoing pl)) = true := by
  obtain ⟨en,hen,-⟩ := Option.bind_eq_some_iff.1 h
  obtain ⟨x,ht,-⟩ := Option.map_eq_some_iff.1 hen
  obtain ⟨da,hd,-⟩ := Option.map_eq_some_iff.1 ht
  rw [dumps] at hd
  split_ifs at hd with hw
  exact hw

/-- A frame keeps to the cap when it is asked for within the cap, and otherwise exactly when the
type, the run id and the number leave the notice within the cap. -/
theorem encoded_within_cap_iff (h : writable (ofDict payload) = true)
    (event threadId : Option String) (sequence : Option ℤ) :
    (∃ bytes, encodeSseFrame payload event threadId sequence = some bytes ∧
        bytes.size ≤ maxSseFrameBytes) ↔
      requestedSize payload event threadId sequence ≤ maxSseFrameBytes ∨
        noticeSize payload threadId sequence ≤ maxSseFrameBytes := by
  obtain ⟨text,notice,-,-,hs,hn,hen⟩ :=
    encodeSseFrame_eq (outgoing_writable h) event threadId sequence
  rw [hen,← hs,← hn]
  constructor
  · rintro ⟨bytes,heq,hb⟩
    cases heq
    split_ifs at hb with hf
    · exact .inl hf
    · exact .inr hb
  · intro hor
    refine ⟨_,rfl,?_⟩
    split_ifs with hf
    · exact hf
    · exact hor.resolve_left hf

def typed (text : String) : Payload := .ofPairs [("type",.str text)]

lemma typed_writable (x : String) : writable (ofDict (typed x)) = true := rfl

lemma get_typed (x : String) : (typed x).get "type" = some (.str x) := rfl

/-- Numbered, the heartbeat is sent as it is. -/
theorem encoded_within_cap_heartbeat : writable (ofDict (typed "heartbeat")) = true ∧
    requestedSize (typed "heartbeat") (some "heartbeat") (some "run-1") (some 7) = 76 ∧
    ∃ bytes, encodeSseFrame (typed "heartbeat") (some "heartbeat") (some "run-1") (some 7) =
      some bytes ∧ bytes.size ≤ maxSseFrameBytes := by
  refine ⟨typed_writable _,by decide +kernel,?_⟩
  exact (encoded_within_cap_iff (typed_writable _) _ _ _).2 (.inl (by decide +kernel))

lemma typed_above_cap (h : maxSseFrameBytes ≤ x.toList.length) :
    (encodeSseFrame (typed x) none none none).any
      (fun bt => decide (maxSseFrameBytes < bt.size)) = true := by
  have hj : x.toList.length + 2 ≤ jsonSize (.str x) := by
    have hes := length_le_escaped x.toList
    rw [jsonSize,write_str,writeString_length]
    omega
  have hn : maxSseFrameBytes < noticeSize (typed x) none none := by
    rw [noticeSize,get_typed,Option.getD_some]
    omega
  have hre : maxSseFrameBytes < requestedSize (typed x) none none none := by
    have ht : entrySize "type" (sentIdentity (typed x) "type") ≤
        (alwaysSafeKeys.map fun key => entrySize key (sentIdentity (typed x) key)).sum := by
      simp only [alwaysSafeKeys,map_cons,sum_cons]
      omega
    have hsi : jsonSize (.str x) ≤ entrySize "type" (sentIdentity (typed x) "type") := by
      have hs : sentIdentity (typed x) "type" = some (.str x) := get_typed x
      rw [hs,entrySize]
      omega
    rw [requestedSize]
    omega
  obtain ⟨se,nt,-,-,hsi,hno,hen⟩ :=
    encodeSseFrame_eq (outgoing_writable (typed_writable x)) none none none
  rw [hen,if_neg (by omega),Option.any_some,decide_eq_true_eq]
  omega

/-- The notice for a type as long as the cap is longer than the cap. -/
theorem notice_of_large_type_above_cap :
    let text := String.ofList (List.replicate maxSseFrameBytes 'x')
    writable (ofDict (typed text)) = true ∧ (encodeSseFrame (typed text) none none none).any
        (fun bytes => decide (maxSseFrameBytes < bytes.size)) = true := by
  refine ⟨typed_writable _,typed_above_cap ?_⟩
  rw [String.toList_ofList,length_replicate]

end

end VaultspecA2A.SseEncoding
