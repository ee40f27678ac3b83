import VaultspecA2A.SseEncoding
import VaultspecA2A.StreamReplay

/-!
# Reading a stream of frames

A stream is read line by line. A line names a field and its value; a blank line ends an event, and
an event without data is dropped. The id of an event is what a viewer offers when it comes back: it
names the run and the number of the frame, and the part behind its last colon is the number.

What was encoded as one frame is read as one event, with the payload that was sent, and its id leads
back to the number of the frame on its own run and to nothing on any other.
-/
namespace VaultspecA2A.SseWire
open PyJson SseFrames SseEncoding StreamReplay List

/-- The texts between the breaks `\r\n`, `\r` and `\n`. -/
def breakLines : List Char → List (List Char)
  | [] => [[]]
  | '\r' :: '\n' :: rest => [] :: breakLines rest
  | '\r' :: rest => [] :: breakLines rest
  | '\n' :: rest => [] :: breakLines rest
  | c :: rest =>
    match breakLines rest with
    | [] => [[c]]
    | line :: lines => (c :: line) :: lines

structure SseEvent where
  data : String
  event : String
  eventId : Option String
deriving DecidableEq, Repr

structure Decoder where
  data : List String := []
  event : String := ""
  eventId : Option String := none

namespace Decoder

/-- The event that was read, if it has data, and an empty decoder. -/
def dispatch (decoder : Decoder) : Option SseEvent × Decoder := (if decoder.data.isEmpty then none
    else some ⟨String.intercalate "\n" decoder.data,
      if decoder.event.isEmpty then "message" else decoder.event,decoder.eventId⟩,{})

def feed (decoder : Decoder) (line : String) : Option SseEvent × Decoder :=
  let line := if PyText.endsWith line "\r" then PyText.dropEnd 1 line else line
  if line.isEmpty then decoder.dispatch
  else if PyText.startsWith line ":" then (none,decoder)
  else
    let (name,rest) := PyText.partition ':' line
    let value := rest.getD ""
    let value := if PyText.startsWith value " " then String.ofList (value.toList.drop 1) else value
    if name = "data" then (none,{ decoder with data := decoder.data ++ [value] })
    else if name = "event" then (none,{ decoder with event := value })
    else if name = "id" ∧ '\x00' ∉ value.toList then (none,{ decoder with eventId := some value })
    else (none,decoder)

/-- The events of the lines that follow, with what is left at their end. -/
def events (decoder : Decoder) : List String → List SseEvent
  | [] => decoder.dispatch.1.toList
  | line :: lines => (decoder.feed line).1.toList ++ (decoder.feed line).2.events lines

end Decoder

def decodeSseLines (lines : List String) : List SseEvent := ({} : Decoder).events lines

def decodeSseText (text : String) : List SseEvent :=
  decodeSseLines ((breakLines text.toList).map String.ofList)

/-- `text.rpartition(sep)`; without a separator there is nothing. -/
def rpartition (sep : Char) (text : String) : Option (String × String) :=
  match PyText.splitFirst sep text.toList.reverse with
  | (back,some front) => some (String.ofList front.reverse,String.ofList back.reverse)
  | (_,none) => none

def maxCursorDigits : ℕ := 19

def resumePosition (cursor threadId : String) : Option ResumePosition :=
  if cursor = "-" then some ⟨0,true⟩
  else
    match rpartition ':' cursor with
    | none => none
    | some (runId,digits) =>
      if runId ≠ threadId then none
      else if digits.isEmpty ∨ ¬ digits.toList.all Char.isDigit then none
      else if maxCursorDigits < digits.length then none
      else some ⟨Nat.ofDigitChars 10 digits.toList 0,false⟩

lemma rpartition_last (h : sep ∉ ba.toList) :
    rpartition sep (fr ++ sep.toString ++ ba) = some (fr,ba) := by
  have hre : (fr ++ sep.toString ++ ba).toList.reverse =
      ba.toList.reverse ++ sep :: fr.toList.reverse := by
    simp
  rw [rpartition,hre,PyText.splitFirst_append (by simpa using h)]
  simp

lemma mem_writeInt (h : c ∈ writeInt se) : c = '-' ∨ c.isDigit = true := by
  cases se with
  | ofNat n => exact .inr (decimal_isDigit c h)
  | negSucc n => exact (mem_cons.1 h).imp_right (decimal_isDigit c)

lemma rpartition_resumeEventId : rpartition ':' (resumeEventId tid se) =
    some (tid,String.ofList (writeInt se)) := by
  refine rpartition_last ?_
  rw [String.toList_ofList]
  intro hm
  exact absurd (mem_writeInt hm) (by decide)

lemma resumeEventId_ne_dash : resumeEventId tid se ≠ "-" := by
  intro heq
  have hm : ':' ∈ (resumeEventId tid se).toList := by simp [resumeEventId]
  rw [heq] at hm
  exact absurd hm (by decide)

lemma resumePosition_of_ne (h : o ≠ tid) : resumePosition (resumeEventId tid se) o = none := by
  rw [resumePosition,if_neg resumeEventId_ne_dash,rpartition_resumeEventId]
  exact if_pos (Ne.symm h)

lemma resumePosition_frameId (hn : 0 ≤ se) (h : se < 10 ^ 19) :
    resumePosition (resumeEventId tid se) tid = some ⟨se.toNat,false⟩ := by
  obtain ⟨n,rfl⟩ := Int.eq_ofNat_of_zero_le hn
  have hb : n < 10 ^ 19 := by omega
  have hd : ¬ ((String.ofList (decimal n)).isEmpty = true ∨
      ¬ (String.ofList (decimal n)).toList.all Char.isDigit = true) := by
    rw [not_or,not_not,String.isEmpty_iff,String.toList_ofList,all_eq_true]
    refine ⟨fun hem => ?_,decimal_isDigit⟩
    exact Nat.toDigits_ne_nil (String.ofList_eq_empty_iff.1 hem)
  have hl : ¬ maxCursorDigits < (String.ofList (decimal n)).length := by
    rw [String.length_ofList,Nat.not_lt]
    exact (Nat.length_toDigits_le_iff (by decide) (by decide)).2 hb
  have hv : Nat.ofDigitChars 10 (String.ofList (decimal n)).toList 0 = n := by
    rw [String.toList_ofList]
    exact Nat.ofDigitChars_toDigits (by decide) (by decide)
  have hw : writeInt (n : ℤ) = decimal n := rfl
  rw [resumePosition,if_neg resumeEventId_ne_dash,rpartition_resumeEventId,hw]
  dsimp only
  rw [if_neg (not_not.2 rfl),if_neg hd,if_neg hl,hv,Int.toNat_natCast]

def OneLine (cs : List Char) : Prop := ∀ c ∈ cs, c ≠ '\r' ∧ c ≠ '\n'

instance (cs : List Char) : Decidable (OneLine cs) :=
  List.decidableBAll (fun c => c ≠ '\r' ∧ c ≠ '\n') cs

/-- A text that a line can hold as the value of an id. -/
def Clean (cs : List Char) : Prop := ∀ c ∈ cs, c ≠ '\r' ∧ c ≠ '\n' ∧ c ≠ '\x00'

instance (cs : List Char) : Decidable (Clean cs) :=
  List.decidableBAll (fun c => c ≠ '\r' ∧ c ≠ '\n' ∧ c ≠ '\x00') cs

lemma breakLines_line (h : OneLine ln) : breakLines (ln ++ '\n' :: r) = ln :: breakLines r := by
  induction ln with
  | nil => simp [breakLines]
  | cons c ln ih =>
    obtain ⟨hc,hl⟩ := forall_mem_cons.1 h
    rw [cons_append,breakLines,ih hl]
    · exact fun _ heq _ => hc.1 heq
    · exact hc.1
    · exact hc.2

lemma breakLines_lines {li : List String} (h : ∀ ln ∈ li, OneLine ln.toList) :
    breakLines (li.flatMap (fun ln => ln.toList ++ ['\n']) ++ r) =
      li.map String.toList ++ breakLines r := by
  induction li with
  | nil => rfl
  | cons ln li ih =>
    obtain ⟨hl,hli⟩ := forall_mem_cons.1 h
    rw [flatMap_cons,append_assoc,append_assoc,singleton_append,
      breakLines_line hl,ih hli,map_cons,cons_append]

lemma OneLine.append (hcs : OneLine cs) (hds : OneLine ds) : OneLine (cs ++ ds) :=
  forall_mem_append.2 ⟨hcs,hds⟩

lemma Clean.oneLine (h : Clean cs) : OneLine cs := fun c hc => ⟨(h c hc).1,(h c hc).2.1⟩

lemma oneLine_of_printable (h : Printable cs) : OneLine cs := by
  intro c hc
  have hp := h c hc
  constructor
  · rintro rfl
    exact absurd hp (by decide)
  · rintro rfl
    exact absurd hp (by decide)

section
variable {de : Decoder} {value : String}

lemma feed_blank : de.feed "" = de.dispatch := rfl

lemma feed_field (hn : ':' ∉ na.toList) (hne : na ≠ "")
    (hli : OneLine (na ++ ": " ++ value).toList) :
    de.feed (na ++ ": " ++ value) =
      if na = "data" then (none,{ de with data := de.data ++ [value] })
      else if na = "event" then (none,{ de with event := value })
      else if na = "id" ∧ '\x00' ∉ value.toList then (none,{ de with eventId := some value })
      else (none,de) := by
  have hre : PyText.endsWith (na ++ ": " ++ value) "\r" = false := by
    rw [Bool.eq_false_iff]
    intro hen
    obtain ⟨fr,heq⟩ := PyText.endsWith_iff.1 hen
    rw [heq] at hli
    exact (hli '\r' (by simp)).1 rfl
  have hem : (na ++ ": " ++ value).isEmpty = false := by
    rw [Bool.eq_false_iff,Ne,String.isEmpty_iff]
    intro heq
    simp at heq
  have hc : PyText.startsWith (na ++ ": " ++ value) ":" = false := by
    cases hl : na.toList with
    | nil => exact (hne (String.toList_eq_nil_iff.1 hl)).elim
    | cons c cs =>
      rw [hl,mem_cons,not_or] at hn
      simp [PyText.startsWith,hl,List.isPrefixOf,hn.1]
  have hp : PyText.partition ':' (na ++ ": " ++ value) = (na,some (" " ++ value)) := by
    rw [PyText.partition_eq hn,String.append_assoc,String.append_assoc]
    rfl
  have hv : (if PyText.startsWith (" " ++ value) " " then
      String.ofList ((" " ++ value).toList.drop 1) else " " ++ value) = value := by
    simp [PyText.startsWith]
  rw [Decoder.feed,hre]
  simp only [Bool.false_eq_true,if_false,hem,hc,hp,Option.getD_some,hv]

lemma feed_data (h : OneLine value.toList) : de.feed ("data: " ++ value) =
    (none,{ de with data := de.data ++ [value] }) := by
  have hl : OneLine ("data" ++ ": " ++ value).toList := by
    rw [String.toList_append]
    exact .append (by decide) h
  exact (feed_field (by decide) (by decide) hl).trans (if_pos rfl)

lemma feed_event (h : OneLine value.toList) :
    de.feed ("event" ++ ": " ++ value) = (none,{ de with event := value }) := by
  have hl : OneLine ("event" ++ ": " ++ value).toList := by
    rw [String.toList_append]
    exact .append (by decide) h
  rw [feed_field (by decide) (by decide) hl,if_neg (by decide),if_pos rfl]

lemma feed_id (h : OneLine value.toList) (hn : '\x00' ∉ value.toList) :
    de.feed ("id" ++ ": " ++ value) = (none,{ de with eventId := some value }) := by
  have hl : OneLine ("id" ++ ": " ++ value).toList := by
    rw [String.toList_append]
    exact .append (by decide) h
  rw [feed_field (by decide) (by decide) hl,if_neg (by decide),if_neg (by decide), if_pos ⟨rfl,hn⟩]

lemma decode_frameLines (hev : e ≠ "") (hid : eid ≠ "")
    (heve : OneLine e.toList) (hi : OneLine eid.toList)
    (hnu : '\x00' ∉ eid.toList) (hd : OneLine da.toList) :
    decodeSseLines (frameLines (some e) (some eid) da ++ ["",""]) = [⟨da,e,some eid⟩] := by
  have hl : frameLines (some e) (some eid) da ++ ["",""] =
      ["id" ++ ": " ++ eid,"event" ++ ": " ++ e,"data: " ++ da,"",""] := by
    rw [frameLines,fieldLine_some hid,fieldLine_some hev]
    rfl
  have hn : e.isEmpty = false := by
    rw [Bool.eq_false_iff,Ne,String.isEmpty_iff]
    exact hev
  rw [hl,decodeSseLines]
  simp only [Decoder.events,feed_id hi hnu,feed_event heve,feed_data hd,
    feed_blank,Decoder.dispatch,hn]
  simp

lemma decode_frameText {pl : Payload}
    (ht : frameText pl (some e) (some eid) = some x) (hev : e ≠ "")
    (hid : eid ≠ "") (heve : OneLine e.toList) (hi : OneLine eid.toList)
    (hn : '\x00' ∉ eid.toList) :
    ∃ da, dumps (ofDict pl) = some da ∧ decodeSseText x = [⟨da,e,some eid⟩] := by
  cases hd : dumps (ofDict pl) with
  | none =>
    rw [frameText,hd] at ht
    cases ht
  | some da =>
    obtain ⟨sa,hs,hli⟩ := @frameText_eq pl (some e) (some eid) da hd
    cases hs.symm.trans ht
    have hda : OneLine da.toList := oneLine_of_printable (dumps_printable hd)
    have hl : ∀ ln ∈ frameLines (some e) (some eid) da, OneLine ln.toList := by
      rw [frameLines,fieldLine_some hid,fieldLine_some hev]
      simp only [cons_append,nil_append,forall_mem_cons,String.toList_append]
      exact ⟨.append (by decide) hi,.append (by decide) heve,
        .append (by decide) hda,forall_mem_nil _⟩
    have hb : ∀ li : List String, li.map (String.ofList ∘ String.toList) = li :=
      fun li => (map_congr_left fun ln _ => String.ofList_toList).trans li.map_id
    refine ⟨da,rfl,?_⟩
    rw [decodeSseText,hli,breakLines_lines hl,map_append,map_map,hb]
    exact decode_frameLines hev hid heve hi hn hda

end

lemma carries_isJson : Carries (fun _ => True) (isJson · = true) where
  null := rfl
  bool _ := rfl
  int _ := rfl
  str _ := rfl
  float _ _ := rfl
  item _ _ _ _ := trivial
  entry _ _ _ _ := trivial
  list _ h := isJsonItems_iff.2 h
  dict _ h := isJson_ofDict.2 h

/-- The values under identity keys are values of JSON. -/
def IdentityJson (payload : Payload) : Prop :=
  ∀ key value, isSafe key = true → payload.get key = some value → isJson value = true

/-- The name and the body that a payload is sent with. -/
inductive SentAs (payload : Payload) (event runId : String) (sequence : ℤ) :
    String → Payload → Prop
  | frame : requestedSize payload (some event) (some runId) (some sequence) ≤ maxSseFrameBytes →
      SentAs payload event runId sequence event (outgoing payload)
  | notice : maxSseFrameBytes < requestedSize payload (some event) (some runId) (some sequence) →
      SentAs payload event runId sequence FrameKind.progressDropped.wire
        (sentinel (some runId) (payload.get "type"))

section
variable {payload pl body bo : Payload} {event e runId ri name na : String} {sequence se : ℤ} {bytes bt : ByteArray}

lemma SentAs.asJson_eq (h : SentAs pl e ri se na bo)
    (hi : IdentityJson pl) : asJson (ofDict bo) = ofDict bo := by
  refine asJson_eq_self _ (isJson_ofDict.2 ?_)
  cases h with
  | frame _ => exact outgoing_values carries_isJson hi fun _ _ _ _ => trivial
  | notice _ =>
    have hd : isJson ((pl.get "type").getD .null) = true := by
      cases hge : pl.get "type" with
      | none => rfl
      | some value => exact hi "type" value (by decide) hge
    rw [sentinel_entries]
    simp [isJson,hd]

lemma resumeEventId_line (h : OneLine ri.toList) : OneLine (resumeEventId ri se).toList := by
  simp only [resumeEventId,String.toList_append,String.toList_ofList]
  exact .append (.append h (by decide)) (oneLine_of_printable (writeInt_printable se))

lemma resumeEventId_nul (h : '\x00' ∉ ri.toList) : '\x00' ∉ (resumeEventId ri se).toList := by
  simp only [resumeEventId,String.toList_append,String.toList_ofList,mem_append,not_or]
  refine ⟨⟨h,by decide⟩,fun hm => ?_⟩
  exact absurd (mem_writeInt hm) (by decide)

lemma resumeEventId_ne_empty : resumeEventId ri se ≠ "" := by
  simp [resumeEventId]

lemma decode_encoded (h : encodeSseFrame pl (some e) (some ri) (some se) = some bt)
    (hev : e ≠ "") (heve : OneLine e.toList) (hru : OneLine ri.toList)
    (hn : '\x00' ∉ ri.toList) :
    ∃ x da na bo, bt = x.toUTF8 ∧ decodeSseText x = [⟨da,na,some (resumeEventId ri se)⟩] ∧
      SentAs pl e ri se na bo ∧ loads da = some (asJson (ofDict bo)) := by
  obtain ⟨x,nt,ht,hno,hs,-,hen⟩ :=
    encodeSseFrame_eq (outgoing_writable_of_encoded h) (some e) (some ri) (some se)
  have hb := Option.some.inj (h.symm.trans hen)
  by_cases hf : x.toUTF8.size ≤ maxSseFrameBytes
  · rw [if_pos hf] at hb
    obtain ⟨da,hd,hde⟩ := decode_frameText ht hev resumeEventId_ne_empty heve
      (resumeEventId_line hru) (resumeEventId_nul hn)
    exact ⟨x,da,e,outgoing pl,hb,hde,.frame (hs ▸ hf),loads_dumps hd⟩
  · rw [if_neg hf] at hb
    obtain ⟨da,hd,hde⟩ := decode_frameText hno (by decide) resumeEventId_ne_empty
      (by decide) (resumeEventId_line hru) (resumeEventId_nul hn)
    exact ⟨nt,da,_,_,hb,hde,.notice (hs ▸ Nat.not_le.1 hf),loads_dumps hd⟩

/-- The event that a frame is read as holds what was sent, its keys read as texts, and its id leads
back to the frame on its own run only. -/
theorem frame_read_back
    (h : encodeSseFrame payload (some event) (some runId) (some sequence) = some bytes)
    (hevent : event ≠ "") (heventClean : Clean event.toList) (hrunClean : Clean runId.toList)
    (hsequence : sequence < 10 ^ 19) :
    ∃ text data name body, bytes = text.toUTF8 ∧
      decodeSseText text = [⟨data,name,some (resumeEventId runId sequence)⟩] ∧
      SentAs payload event runId sequence name body ∧
      loads data = some (asJson (ofDict body)) ∧
      (IdentityJson payload → loads data = some (ofDict body)) ∧
      (0 ≤ sequence →
        resumePosition (resumeEventId runId sequence) runId = some ⟨sequence.toNat,false⟩) ∧
      ∀ other, other ≠ runId → resumePosition (resumeEventId runId sequence) other = none := by
  have hnu : '\x00' ∉ runId.toList := fun hm => (hrunClean _ hm).2.2 rfl
  obtain ⟨text,data,name,body,hb,hd,hs,hl⟩ :=
    decode_encoded h hevent heventClean.oneLine hrunClean.oneLine hnu
  refine ⟨text,data,name,body,hb,hd,hs,hl,?_,?_,?_⟩
  · intro hi
    rw [hl,hs.asJson_eq hi]
  · intro hn
    exact resumePosition_frameId hn hsequence
  · intro other ho
    exact resumePosition_of_ne ho

/-- A run id with a colon: neither part of it is the run that the id leads to. -/
theorem frame_read_back_colon :
    ∃ bytes, encodeSseFrame (typed "heartbeat") (some "heartbeat") (some "run:1") (some 7) =
        some bytes ∧
      ∃ text data name body, bytes = text.toUTF8 ∧
        decodeSseText text = [⟨data,name,some (resumeEventId "run:1" 7)⟩] ∧
        SentAs (typed "heartbeat") "heartbeat" "run:1" 7 name body ∧
        loads data = some (asJson (ofDict body)) ∧
        (IdentityJson (typed "heartbeat") → loads data = some (ofDict body)) ∧
        ((0 : ℤ) ≤ 7 → resumePosition (resumeEventId "run:1" 7) "run:1" = some ⟨7,false⟩) ∧
        ∀ other, other ≠ "run:1" → resumePosition (resumeEventId "run:1" 7) other = none := by
  obtain ⟨_,_,_,_,_,_,hen⟩ := encodeSseFrame_eq (outgoing_writable (typed_writable "heartbeat"))
    (some "heartbeat") (some "run:1") (some 7)
  exact ⟨_,hen,frame_read_back hen (by decide) (by decide) (by decide) (by decide)⟩

/-- A frame whose time stamp is a mapping under a number. -/
def keyedByNumber : Payload :=
  .ofPairs [("type",.str "heartbeat"),("timestamp",.dict [(.int 1,.str "a")])]

/-- The number comes back as a text, and the id of a negative sequence leads nowhere. -/
theorem number_key_read_back_as_text : (∃ text data,
      encodeSseFrame keyedByNumber (some "heartbeat") (some "run-1") (some 7) = some text.toUTF8 ∧
      decodeSseText text = [⟨data,"heartbeat",some (resumeEventId "run-1" 7)⟩] ∧
      loads data ≠ some (ofDict (outgoing keyedByNumber)) ∧
      loads data ≠ some (ofDict (sentinel (some "run-1") (keyedByNumber.get "type")))) ∧
    resumePosition (resumeEventId "run-1" (-1)) "run-1" = none := by
  refine ⟨?_,by decide⟩
  have hw : writable (ofDict keyedByNumber) = true := rfl
  obtain ⟨_,_,_,_,_,_,hen⟩ := encodeSseFrame_eq (outgoing_writable hw)
    (some "heartbeat") (some "run-1") (some 7)
  obtain ⟨text,data,name,body,hb,hd,hs,hl⟩ :=
    decode_encoded hen (by decide) (by decide) (by decide) (by decide)
  rw [hb] at hen
  cases hs with
  | frame _ =>
    have hre : (asJson (ofDict (outgoing keyedByNumber))).get "timestamp" =
        some (.dict [(.str "1",.str "a")]) := rfl
    have hs : (ofDict (outgoing keyedByNumber)).get "timestamp" =
        some (.dict [(.int 1,.str "a")]) := rfl
    have hn : (ofDict (sentinel (some "run-1") (keyedByNumber.get "type"))).get "timestamp" =
        none := rfl
    refine ⟨text,data,hen,hd,fun heq => ?_,fun heq => ?_⟩
    · rw [Option.some.inj (hl.symm.trans heq),hs] at hre
      cases hre
    · rw [Option.some.inj (hl.symm.trans heq),hn] at hre
      cases hre
  | notice hla => exact absurd hla (by decide +kernel)

end

lemma breakLines_append (cs : List Char) : ∃ l ls, ∀ r,
    breakLines (cs ++ '\n' :: r) = l :: ls ++ breakLines r := by
  fun_induction breakLines cs with
  | case1 => exact ⟨[],[],fun r => rfl⟩
  | case2 cs ih | case4 cs ih =>
    obtain ⟨l,ls,h⟩ := ih
    exact ⟨[],l :: ls,fun r => congrArg (cons []) (h r)⟩
  | case3 cs hc ih =>
    obtain ⟨l,ls,h⟩ := ih
    cases cs with
    | nil => exact ⟨[],[],fun r => rfl⟩
    | cons d cs =>
      refine ⟨[],l :: ls,fun r => ?_⟩
      rw [cons_append,breakLines,h]
      · rfl
      · rintro _ ⟨⟩
        exact hc _ rfl
  | case5 c cs _ hr hn _ ih | case6 c cs _ hr hn _ _ _ ih =>
    obtain ⟨l,ls,h⟩ := ih
    refine ⟨c :: l,ls,fun r => ?_⟩
    rw [cons_append,breakLines,h]
    · rfl
    · exact fun _ e _ => hr e
    · exact hr
    · exact hn

lemma events_blank (de : Decoder) (ls : List String) : ∃ es, ∀ ms,
    de.events (ls ++ "" :: ms) = es ++ ({} : Decoder).events ms := by
  induction ls generalizing de with
  | nil => exact ⟨de.dispatch.1.toList,fun ms => rfl⟩
  | cons l ls ih =>
    obtain ⟨es,h⟩ := ih (de.feed l).2
    exact ⟨(de.feed l).1.toList ++ es,fun ms => by rw [cons_append,Decoder.events,h,append_assoc]⟩

lemma decodeSseText_append (w : String) : ∃ es, ∀ x,
    decodeSseText (w ++ "\n\n" ++ x) = es ++ decodeSseText x := by
  obtain ⟨l,ls,h⟩ := breakLines_append w.toList
  obtain ⟨es,he⟩ := events_blank {} ((l :: ls).map String.ofList)
  refine ⟨es,fun x => ?_⟩
  rw [decodeSseText,decodeSseText,decodeSseLines,decodeSseLines,← he]
  simp [h,breakLines]

/-- A stream is read part by part: what stands before a blank line is read as it is read alone,
whatever follows. -/
theorem stream_read_by_parts (parts : List String) (rest : String) :
    decodeSseText (String.join (parts.map (· ++ "\n\n")) ++ rest) =
      parts.flatMap (fun part => decodeSseText (part ++ "\n\n")) ++ decodeSseText rest := by
  induction parts with
  | nil => simp
  | cons w parts ih =>
    obtain ⟨es,h⟩ := decodeSseText_append w
    have hw : decodeSseText (w ++ "\n\n") = es := by
      simpa [show decodeSseText "" = [] from rfl] using h ""
    rw [map_cons,String.join_cons,String.append_assoc,h,ih,flatMap_cons,hw,append_assoc]

end VaultspecA2A.SseWire
