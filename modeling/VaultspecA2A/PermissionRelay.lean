import VaultspecA2A.PermissionReceipts

/-!
# The relay of a pause and of its answer

A run parks on a request, and the frame that announces the pause is relayed to the
gateway. The request may be answered as soon as the checkpoint holds it. The resume
of the accepted answer reaches the worker, the graph incorporates it, and a receipt
of that is relayed in turn. Meanwhile the run may park on another request. Nothing
orders the relay of these messages among themselves or against the answer, beyond
each message following its cause.

The handler of a frame reads the checkpoint and then writes in a transaction of its
own, so the two are separate steps. The handlers of the answer and of the receipt are
one step each: what they read is fixed by then. A step elsewhere may change anything
but the rows of the two requests, the journal of the run and its writer.
-/
namespace VaultspecA2A.PermissionRelay
open Runs Tables ThreadLifecycle Database ControlActions ActionLeases ActionClaims List
open PermissionOptions IdempotencyKeys ThreadElections PermissionJournal PermissionResponses
open PermissionAsks PermissionReceipts

inductive Event
  | park
  | read
  | frame
  | accept
  | incorporate
  | receipt
  | nextPark
  | nextRead
  | nextFrame
  | elsewhere
deriving DecidableEq, Repr

def Event.cause : Event → Option Event
  | .park => none
  | .read => some .park
  | .frame => some .read
  | .accept => some .park
  | .incorporate => some .accept
  | .receipt => some .incorporate
  | .nextPark => some .park
  | .nextRead => some .nextPark
  | .nextFrame => some .nextRead
  | .elsewhere => none

/-- An event follows its cause and happens once. -/
def Enabled (history : List Event) (event : Event) : Prop :=
  (event = .elsewhere ∨ event ∉ history) ∧ ∀ cause ∈ event.cause, cause ∈ history

/-- The answer a response was accepted as, and the receipt its resume is proven by. -/
structure Accepted where
  response : PermissionInput
  actionId : String
  application : DispatchApplicationReceipt

/-- The store, the interrupts the checkpoint holds, what the handlers of the two frames
have read of it, the accepted answer and the events so far. -/
structure System where
  store : Store
  checkpoint : List ProjectedInterrupt
  pause : Option HeldPause
  nextPause : Option HeldPause
  answer : Option Accepted
  history : List Event

/-- Work that leaves alone what the relay of the two requests is about. -/
structure Elsewhere (threadId requestId nextId : String) (s t : Store) : Prop where
  own : requestView t requestId = requestView s requestId
  next : requestView t nextId = requestView s nextId
  kept : ∀ a ∈ s.controlActions.rows, a.threadId = threadId → a ∈ t.controlActions.rows
  fresh : ∀ a ∈ t.controlActions.rows, a.threadId = threadId → a ∈ s.controlActions.rows ∨
    Unannounced threadId requestId a ∧ Unannounced threadId nextId a
  writer : ∀ thread, getThread s threadId = some thread → ∃ later,
    getThread t threadId = some later ∧
      later.authority.actionType = thread.authority.actionType ∧
      later.authority.actionReceiptId = thread.authority.actionReceiptId ∧
      later.authority.writerGeneration = thread.authority.writerGeneration ∧
      thread.authority.runRevision ≤ later.authority.runRevision

def Asks (interrupt : ProjectedInterrupt) (requestId : String) : Prop :=
  interrupt.interruptId = requestId ∧ interrupt.interruptType ∈ permissionRequestEventTypes

def Holds (checkpoint : List ProjectedInterrupt) (requestId : String) : Prop :=
  ∃ interrupt ∈ checkpoint, Asks interrupt requestId

def writeFrame (s : Store) (threadId : String) (frame : PermissionFrame)
    (pause : Option HeldPause) (drawn : Drawn) (now : Instant) : Except Raised Store :=
  match pause with
  | none => .ok s
  | some pause => persistPermissionRequest s threadId frame pause drawn now

section
variable (outside : Outside) (threadId requestId nextId : String)

/-- The effect of an event on everything but the history. The route of a response
refuses an empty option, and the worker refuses a resume without its receipt. -/
inductive Effect : System → Event → System → Prop
  | park {sys : System} (interrupt : ProjectedInterrupt) : Asks interrupt requestId →
      Effect sys .park { sys with checkpoint := sys.checkpoint ++ [interrupt] }
  | read {sys : System} (frame : PermissionFrame) : frame.requestId = some requestId →
      Effect sys .read { sys with pause := heldRequestInterrupt frame (some sys.checkpoint) }
  | frame {sys : System} (frame : PermissionFrame) (drawn : Drawn) (now : Instant) {t : Store} :
      writeFrame sys.store threadId frame sys.pause drawn now = .ok t →
      Effect sys .frame { sys with store := t }
  | accept {sys : System} (response : PermissionInput) (drawing : Drawing) {t : Store}
      {transition : PermissionTransition} {receipt : GraphActionReceipt} :
      response.requestId = requestId → response.optionId.isEmpty = false →
      respondToPermission outside sys.store threadId response
        (heldInterrupt (some sys.checkpoint) requestId) false drawing =
          .ok (t,.dispatching transition) →
      bindGraphActionReceipt outside.fingerprint t transition.dispatch
        transition.claim.dispatchId = some receipt →
      Effect sys .accept
        { sys with
          store := t
          answer := some ⟨response,transition.claim.actionId,
            ⟨transition.claim.dispatchId,"resume",receipt⟩⟩ }
  | incorporate {sys : System} :
      Effect sys .incorporate
        { sys with checkpoint := sys.checkpoint.filter fun i => i.interruptId ≠ requestId }
  | receipt {sys : System} {answer : Accepted} (drawn : Drawn) (now : Instant)
      {settled t : Store} :
      sys.answer = some answer →
      handleProgressEvent outside.fingerprint unownedResume sys.store threadId answer.application
        true drawn now = .ok settled →
      handleReaskedPermissionEvent settled threadId answer.application (some sys.checkpoint) =
        .ok t →
      Effect sys .receipt { sys with store := t }
  | nextPark {sys : System} (interrupt : ProjectedInterrupt) : Asks interrupt nextId →
      Effect sys .nextPark { sys with checkpoint := sys.checkpoint ++ [interrupt] }
  | nextRead {sys : System} (frame : PermissionFrame) : frame.requestId = some nextId →
      Effect sys .nextRead
        { sys with nextPause := heldRequestInterrupt frame (some sys.checkpoint) }
  | nextFrame {sys : System} (frame : PermissionFrame) (drawn : Drawn) (now : Instant)
      {t : Store} :
      writeFrame sys.store threadId frame sys.nextPause drawn now = .ok t →
      Effect sys .nextFrame { sys with store := t }
  | elsewhere {sys : System} {t : Store} {checkpoint : List ProjectedInterrupt} :
      Elsewhere threadId requestId nextId sys.store t →
      (Holds checkpoint requestId ↔ Holds sys.checkpoint requestId) →
      (Holds checkpoint nextId ↔ Holds sys.checkpoint nextId) →
      Effect sys .elsewhere { sys with store := t, checkpoint := checkpoint }

/-- An enabled event takes effect and enters the history. -/
def Move (sys : System) (event : Event) (sys' : System) : Prop :=
  Enabled sys.history event ∧ ∃ after, Effect outside threadId requestId nextId sys event after ∧
    sys' = { after with history := sys.history ++ [event] }

end

/-- Neither request has been asked. -/
structure Fresh (threadId requestId nextId : String) (sys : System) : Prop where
  run : (getThread sys.store threadId).isSome = true
  unannounced : ∀ a ∈ sys.store.controlActions.rows, Unannounced threadId requestId a
  nextUnannounced : ∀ a ∈ sys.store.controlActions.rows, Unannounced threadId nextId a
  absent : requestView sys.store requestId = none
  nextAbsent : requestView sys.store nextId = none
  unheld : ¬ Holds sys.checkpoint requestId
  nextUnheld : ¬ Holds sys.checkpoint nextId
  unanswered : sys.answer = none
  history : sys.history = []

/-- The answer is applied, its request is neither pending nor awaiting application, and
the next request is pending. -/
structure Reconciled (threadId requestId nextId : String) (sys : System) : Prop where
  applied : ∃ answer row, sys.answer = some answer ∧
    getControlAction sys.store answer.actionId = some row ∧ row.appliedAt.isSome = true
  settled : ∀ view, requestView sys.store requestId = some view →
    view.2 ∉ outstandingPermissionStatuses
  next : requestView sys.store nextId = some (threadId,.pending)

/-- The request is journaled before its answer is accepted; the frame of the next one is
handled after the receipt of that answer, or from a checkpoint read before the answer
was incorporated; and the frame of the request is handled before that of the next one,
or from a checkpoint that holds it. -/
def InOrder (events : List Event) : Prop := Before .frame .accept events ∧
    (Before .receipt .nextFrame events ∨ Before .nextRead .incorporate events) ∧
    (Before .frame .nextFrame events ∨ Before .nextPark .read events)

instance (events : List Event) : Decidable (InOrder events) :=
  inferInstanceAs (Decidable (_ ∧ _ ∧ _))

/-! ## The relay in outline

The events alone say what the checkpoint and the journal show of the two requests. An
event happens once and after its cause, so there are finitely many orders, and what each
comes to is found by following all of them. -/

inductive Stage
  | absent
  | pending
  | awaiting
  | closed
deriving DecidableEq

/-- Which of the two requests the checkpoint holds, and which the handlers of the two
frames saw held, each its own request first. -/
structure Seen where
  held : Bool
  nextHeld : Bool
  read : Bool × Bool
  nextRead : Bool × Bool

structure Filed where
  own : Stage
  next : Stage
  applied : Bool

def Stage.retired (kept : Bool) : Stage → Stage
  | .absent => .absent
  | .closed => .closed
  | stage => if kept then stage else .closed

def Seen.after (seen : Seen) : Event → Seen
  | .park => { seen with held := true }
  | .incorporate => { seen with held := false }
  | .nextPark => { seen with nextHeld := true }
  | .read => { seen with read := (seen.held,seen.nextHeld) }
  | .nextRead => { seen with nextRead := (seen.nextHeld,seen.held) }
  | _ => seen

def Filed.after (seen : Seen) (filed : Filed) : Event → Filed
  | .frame =>
    if seen.read.1 then { filed with own := .pending, next := filed.next.retired seen.read.2 }
    else filed
  | .accept => { filed with own := if filed.own = .absent then .absent else .awaiting }
  | .receipt => if filed.own = .awaiting then ⟨.closed,filed.next,true⟩ else filed
  | .nextFrame =>
    if seen.nextRead.1 then ⟨filed.own.retired seen.nextRead.2,.pending,filed.applied⟩ else filed
  | _ => filed

def outline (history : List Event) : Seen × Filed :=
  history.foldl (fun o event => (o.1.after event,o.2.after o.1 event))
    (⟨false,false,(false,false),(false,false)⟩,⟨.absent,.absent,false⟩)

def Filed.reconciled (filed : Filed) : Bool :=
  filed.applied && decide (filed.own ∈ [Stage.absent,.closed]) && decide (filed.next = .pending)

instance (history : List Event) (event : Event) : Decidable (Enabled history event) :=
  inferInstanceAs (Decidable (_ ∧ _))

def Lawful (history : List Event) : Prop := (.receipt ∈ history → .incorporate ∈ history) ∧
    (.incorporate ∈ history → .accept ∈ history ∧ (outline history).1.held = false) ∧
    (.receipt ∉ history → (outline history).2.applied = false) ∧
    (.frame ∈ history → .receipt ∈ history → .nextFrame ∈ history →
      ((outline history).2.reconciled = true ↔ InOrder history))

instance (history : List Event) : Decidable (Lawful history) :=
  inferInstanceAs (Decidable (_ ∧ _ ∧ _ ∧ _))

/-- The order and all that continue it, by up to so many events, are lawful. -/
def explored : ℕ → List Event → Bool
  | 0, _ => false
  | n + 1, history => decide (Lawful history) &&
    ([.park,.read,.frame,.accept,.incorporate,.receipt,.nextPark,.nextRead,.nextFrame].filter
      fun event => decide (Enabled history event)).all fun event => explored n (history ++ [event])

lemma explored_all : explored 10 [] = true := by decide +kernel

def core (history : List Event) : List Event := history.filter fun event => decide (event ≠ .elsewhere)

lemma outline_append (lg : List Event) (e : Event) : outline (lg ++ [e]) =
    ((outline lg).1.after e,(outline lg).2.after (outline lg).1 e) := by
  rw [outline,foldl_append]
  rfl

lemma outline_core (lg : List Event) : outline (core lg) = outline lg := by
  unfold outline core
  rw [foldl_filter]
  congr 1
  funext o e
  by_cases he : e = .elsewhere
  · rw [he]
    rfl
  · simp [he]

lemma mem_core (he : e ≠ .elsewhere) : e ∈ core lg ↔ e ∈ lg := by simp [core,he]

lemma core_explored (h : ∃ n, explored n (core lg) = true) (hen : Enabled lg e) :
    ∃ n, explored n (core (lg ++ [e])) = true := by
  by_cases he : e = .elsewhere
  · simpa [core,he] using h
  have hc : core (lg ++ [e]) = core lg ++ [e] := by simp [core,he]
  have hen' : Enabled (core lg) e := by
    refine ⟨.inr fun hm => hen.1.elim he fun hn => hn ((mem_core he).1 hm),fun ca hca => ?_⟩
    refine (mem_core ?_).2 (hen.2 ca hca)
    rintro rfl
    cases e <;> cases hca
  obtain ⟨n,hn⟩ := h
  cases n with
  | zero => cases hn
  | succ n =>
    rw [explored,Bool.and_eq_true,all_eq_true] at hn
    refine ⟨n,hc ▸ hn.2 e (mem_filter.2 ⟨?_,decide_eq_true hen'⟩)⟩
    cases e <;> first | exact (he rfl).elim | decide

lemma inOrder_core (lg : List Event) : InOrder (core lg) ↔ InOrder lg := by
  have hb : ∀ {a b : Event}, a ≠ .elsewhere → b ≠ .elsewhere →
      (Before a b (core lg) ↔ Before a b lg) :=
    fun ha hb => before_filter (decide_eq_true ha) (decide_eq_true hb)
  simp [InOrder,hb]

lemma lawful_of_explored (h : ∃ n, explored n (core lg) = true) : Lawful lg := by
  have hl : Lawful (core lg) := by
    obtain ⟨n,hn⟩ := h
    cases n with
    | zero => cases hn
    | succ n =>
      rw [explored,Bool.and_eq_true] at hn
      exact of_decide_eq_true hn.1
  unfold Lawful at hl ⊢
  simpa only [outline_core,inOrder_core,mem_core,ne_eq,reduceCtorEq,not_false_eq_true] using hl

structure Reads (pause : Option HeldPause) (requestId other : String) (seen : Bool × Bool) :
    Prop where
  held : pause.isSome = seen.1
  announced : ∀ p, pause = some p → p.announced.interruptId = requestId
  others : ∀ p, pause = some p → (other ∈ p.heldRequestIds ↔ seen.2 = true)

structure Observed (requestId nextId : String) (sys : System) : Prop where
  held : Holds sys.checkpoint requestId ↔ (outline sys.history).1.held = true
  nextHeld : Holds sys.checkpoint nextId ↔ (outline sys.history).1.nextHeld = true
  pause : .read ∈ sys.history → Reads sys.pause requestId nextId (outline sys.history).1.read
  nextPause : .nextRead ∈ sys.history →
    Reads sys.nextPause nextId requestId (outline sys.history).1.nextRead

lemma holds_append : Holds (cp ++ [it]) rid ↔ Holds cp rid ∨ Asks it rid := by
  simp [Holds,or_and_right,exists_or]

lemma holds_filter : Holds (cp.filter fun i => i.interruptId ≠ rid) o ↔ Holds cp o ∧ o ≠ rid := by
  constructor
  · rintro ⟨it,hm,ha⟩
    obtain ⟨hm,hne⟩ := mem_filter.1 hm
    exact ⟨⟨it,hm,ha⟩,ha.1 ▸ of_decide_eq_true hne⟩
  · rintro ⟨⟨it,hm,ha⟩,hne⟩
    exact ⟨it,mem_filter.2 ⟨hm,decide_eq_true (ha.1 ▸ hne)⟩,ha⟩

lemma heldInterrupt_isSome : (heldInterrupt (some cp) rid).isSome = true ↔ Holds cp rid := by
  simp only [heldInterrupt,heldPermissionInterrupts,Option.getD_some,find?_isSome,
    mem_filter,decide_eq_true_eq,Holds,Asks,and_assoc,and_comm]

lemma mem_heldPermissionRequestIds : rid ∈ heldPermissionRequestIds (some cp) ↔ Holds cp rid := by
  simp only [heldPermissionRequestIds,heldPermissionInterrupts,Option.getD_some,mem_map,
    mem_filter,decide_eq_true_eq,Holds,Asks,and_assoc,and_comm]

lemma heldRequestInterrupt_reads (hf : fr.requestId = some rid) (hh : Holds cp rid ↔ seen.1 = true)
    (ho : Holds cp o ↔ seen.2 = true) :
    Reads (heldRequestInterrupt fr (some cp)) rid o seen := by
  rw [heldRequestInterrupt,hf,Option.bind_some]
  refine ⟨?_,?_,?_⟩
  · rw [Option.isSome_map,Bool.eq_iff_iff,heldInterrupt_isSome,hh]
  · intro p hp
    obtain ⟨held,hh,rfl⟩ := Option.map_eq_some_iff.1 hp
    have hid := find?_some hh
    exact of_decide_eq_true hid
  · intro p hp
    obtain ⟨held,-,rfl⟩ := Option.map_eq_some_iff.1 hp
    exact mem_heldPermissionRequestIds.trans ho

lemma Observed.moved (h : Observed rid ni sys) (st : Store) (an : Option Accepted)
    (hr : e ≠ .read ∧ e ≠ .nextRead)
    (hh : Holds cp rid ↔ ((outline sys.history).1.after e).held = true)
    (hn : Holds cp ni ↔ ((outline sys.history).1.after e).nextHeld = true) :
    Observed rid ni
      { sys with store := st, checkpoint := cp, answer := an, history := sys.history ++ [e] } := by
  have hs : ∀ seen : Seen, (seen.after e).read = seen.read ∧ (seen.after e).nextRead = seen.nextRead :=
    fun seen => by cases e <;> simp_all [Seen.after]
  refine ⟨?_,?_,fun hm => ?_,fun hm => ?_⟩ <;> dsimp only at * <;> rw [outline_append]
  · exact hh
  · exact hn
  · rw [(hs _).1]
    exact h.pause (by simpa [hr.1.symm] using hm)
  · rw [(hs _).2]
    exact h.nextPause (by simpa [hr.2.symm] using hm)

lemma Move.observed (hne : rid ≠ ni) (h : Move ou tid rid ni sys e sy)
    (ho : Observed rid ni sys) : Observed rid ni sy := by
  obtain ⟨-,q,hef,rfl⟩ := h
  cases hef with
  | frame | accept | receipt | nextFrame => exact ho.moved _ _ (by simp) ho.held ho.nextHeld
  | elsewhere _ hh hnex => exact ho.moved _ _ (by simp) (hh.trans ho.held) (hnex.trans ho.nextHeld)
  | park it ha =>
    have hot : ¬ Asks it ni := fun h => hne (ha.1.symm.trans h.1)
    refine ho.moved _ _ (by simp) ?_ ?_ <;> rw [holds_append]
    · simp [ha,Seen.after]
    · simp [hot,ho.nextHeld,Seen.after]
  | incorporate =>
    refine ho.moved _ _ (by simp) ?_ ?_ <;> rw [holds_filter]
    · simp [Seen.after]
    · simp [hne.symm,ho.nextHeld,Seen.after]
  | nextPark it ha =>
    have hot : ¬ Asks it rid := fun h => hne (h.1.symm.trans ha.1)
    refine ho.moved _ _ (by simp) ?_ ?_ <;> rw [holds_append]
    · simp [hot,ho.held,Seen.after]
    · simp [ha,Seen.after]
  | read _ hf =>
    refine ⟨?_,?_,fun _ => ?_,fun hm => ?_⟩ <;> dsimp only at * <;> rw [outline_append]
    · exact ho.held
    · exact ho.nextHeld
    · exact heldRequestInterrupt_reads hf ho.held ho.nextHeld
    · exact ho.nextPause (by simpa using hm)
  | nextRead _ hf =>
    refine ⟨?_,?_,fun hm => ?_,fun _ => ?_⟩ <;> dsimp only at * <;> rw [outline_append]
    · exact ho.held
    · exact ho.nextHeld
    · exact ho.pause (by simpa using hm)
    · exact heldRequestInterrupt_reads hf ho.nextHeld ho.held

def Stage.Shows (threadId : String) : Stage → Option (String × PermissionRequestStatus) → Prop
  | .absent, view => view = none
  | .pending, view => view = some (threadId,.pending)
  | .awaiting, view => view = some (threadId,.answeredPendingApply)
  | .closed, view => ∃ status ∉ outstandingPermissionStatuses, view = some (threadId,status)

section
variable (fingerprint : ActionPayload → String) (threadId requestId nextId : String)

/-- The answer stands in the journal, applied or on its way to the worker. -/
structure Answered (s : Store) (answer : Accepted) (applied : Bool) : Prop where
  request : answer.response.requestId = requestId
  option : answer.response.optionId.isEmpty = false
  awaits : applied = false → ∃ row thread, AwaitsProof fingerprint threadId answer.response
    answer.actionId answer.application s row thread
  settled : applied = true → ∃ row ∈ s.controlActions.rows, row.threadId = threadId ∧
    row.id = answer.actionId ∧ row.appliedAt.isSome = true

structure Recorded (s : Store) (answer : Option Accepted) (history : List Event) : Prop where
  run : (getThread s threadId).isSome = true
  unframed : .frame ∉ history → ∀ a ∈ s.controlActions.rows, Unannounced threadId requestId a
  nextUnframed : .nextFrame ∉ history →
    ∀ a ∈ s.controlActions.rows, Unannounced threadId nextId a
  own : (outline history).2.own.Shows threadId (requestView s requestId)
  next : (outline history).2.next.Shows threadId (requestView s nextId)
  answer : .accept ∈ history → ∃ accepted, answer = some accepted ∧
    Answered fingerprint threadId requestId s accepted (outline history).2.applied

end

section
variable {fp : ActionPayload → String} {tid rid ni : String}
variable {s t : Store}

lemma Stage.Shows.retired {stage : Stage}
    (h : stage.Shows tid view) (hk : rid ∈ ids ↔ kept = true) :
    (stage.retired kept).Shows tid (view.map (retire tid ids rid)) := by
  cases stage with
  | absent => rw [h]; rfl
  | closed =>
    obtain ⟨st,hs,rfl⟩ := h
    exact ⟨st,hs,by simp [retire,hs]⟩
  | pending =>
    rw [h]
    cases kept <;> simp [Stage.retired,Stage.Shows,retire,hk,outstandingPermissionStatuses]
  | awaiting =>
    rw [h]
    cases kept <;> simp [Stage.retired,Stage.Shows,retire,hk,outstandingPermissionStatuses]

lemma Stage.Shows.fst {stage : Stage}
    (h : stage.Shows tid view) : (view.map Prod.fst).getD tid = tid := by
  cases stage with
  | absent | pending | awaiting => rw [h]; rfl
  | closed =>
    obtain ⟨st,-,rfl⟩ := h
    rfl

lemma Answered.kept (h : Answered fp tid rid s ac ap)
    (hk : ∀ a ∈ s.controlActions.rows, a.threadId = tid → a ∈ t.controlActions.rows)
    (hw : ∀ th, getThread s tid = some th → ∃ la, getThread t tid = some la ∧
      la.authority.actionType = th.authority.actionType ∧
      la.authority.actionReceiptId = th.authority.actionReceiptId ∧
      la.authority.writerGeneration = th.authority.writerGeneration ∧
      th.authority.runRevision ≤ la.authority.runRevision) : Answered fp tid rid t ac ap := by
  refine ⟨h.request,h.option,fun ha => ?_,fun ha => ?_⟩
  · obtain ⟨row,th,haw⟩ := h.awaits ha
    obtain ⟨la,hl,hty,hrec,hge,hrev⟩ := hw th haw.run
    exact ⟨row,la,haw.kept (hk row haw.mem haw.answer.threadId) hl hty hrec hge hrev⟩
  · obtain ⟨row,hm,hrow⟩ := h.settled ha
    exact ⟨row,hk row hm hrow.1,hrow⟩

lemma Recorded.append (h : Recorded fp tid rid ni s an lg)
    (hq : ∀ seen filed, Filed.after seen filed e = filed) (ha : e ≠ .accept) :
    Recorded fp tid rid ni s an (lg ++ [e]) := by
  refine ⟨h.run,fun hn => h.unframed fun hm => hn (mem_append_left _ hm),
    fun hn => h.nextUnframed fun hm => hn (mem_append_left _ hm),?_,?_,fun hm => ?_⟩ <;>
    rw [outline_append,hq]
  · exact h.own
  · exact h.next
  · exact h.answer (by simpa [ha.symm] using hm)

lemma Recorded.elsewhere (h : Recorded fp tid rid ni s an lg) (hs : Elsewhere tid rid ni s t) :
    Recorded fp tid rid ni t an lg := by
  refine ⟨?_,fun hf a ha ht => ?_,fun hf a ha ht => ?_,hs.own ▸ h.own,hs.next ▸ h.next,fun hm => ?_⟩
  · obtain ⟨th,ht⟩ := Option.isSome_iff_exists.1 h.run
    obtain ⟨la,hl,-⟩ := hs.writer th ht
    rw [hl]
    rfl
  · exact (hs.fresh a ha ht).elim (fun hold => h.unframed hf a hold ht) fun hn => hn.1 ht
  · exact (hs.fresh a ha ht).elim (fun hold => h.nextUnframed hf a hold ht) fun hn => hn.2 ht
  · obtain ⟨ac,hac,hans⟩ := h.answer hm
    exact ⟨ac,hac,hans.kept hs.kept hs.writer⟩

/-! The frames. -/

lemma writeFrame_announced (hre : Reads pa rid o seen) (hru : (getThread s tid).isSome = true)
    (hn : ∀ a ∈ s.controlActions.rows, Unannounced tid rid a)
    (h : writeFrame s tid fr pa dr now = .ok t) :
    (seen.1 = false ∧ t = s) ∨ (seen.1 = true ∧ ∃ ids, (o ∈ ids ↔ seen.2 = true) ∧
        Announced s t tid rid ids (optionMappings fr.options)) := by
  cases pa with
  | none =>
    cases h
    exact .inl ⟨hre.held.symm,rfl⟩
  | some p =>
    have hid : p.announced.interruptId = rid := hre.announced p rfl
    refine .inr ⟨hre.held.symm,p.heldRequestIds,hre.others p rfl,?_⟩
    have ha := persistPermissionRequest_announced hru (hid ▸ hn) h
    rwa [hid] at ha

section
variable (h : Announced s t tid rid ids os)
include h

lemma run_of_announced (hru : (getThread s tid).isSome = true) :
    (getThread t tid).isSome = true := by
  rwa [getThread,h.threads]

lemma unannounced_of_announced (hne : rid ≠ o)
    (hn : ∀ a ∈ s.controlActions.rows, Unannounced tid o a) :
    ∀ a ∈ t.controlActions.rows, Unannounced tid o a := by
  intro a ha ht
  rcases h.fresh a ha with hold | hk
  · exact hn a hold ht
  · rw [hk]
    exact request_key_unannounced hne

lemma shows_of_announced {stage : Stage} (hs : stage.Shows tid (requestView s rid)) :
    Stage.pending.Shows tid (requestView t rid) := by
  rw [h.own,hs.fst]
  rfl

lemma answered_of_announced (ha : Answered fp tid o s ac ap) : Answered fp tid o t ac ap := by
  refine ha.kept (fun a hm _ => h.kept a hm) fun th ht => ⟨th,?_,rfl,rfl,rfl,Nat.le_refl _⟩
  rwa [getThread,h.threads]

end

lemma Recorded.frame
    (hne : rid ≠ ni) (hnew : .frame ∉ lg) (hre : Reads pa rid ni (outline lg).1.read)
    (h : Recorded fp tid rid ni s an lg) (hw : writeFrame s tid fr pa dr now = .ok t) :
    Recorded fp tid rid ni t an (lg ++ [.frame]) := by
  have hn : .nextFrame ∉ lg ++ [.frame] → .nextFrame ∉ lg := by simp
  have ha : .accept ∈ lg ++ [.frame] → .accept ∈ lg := by simp
  rcases writeFrame_announced hre h.run (h.unframed hnew) hw with ⟨hh,rfl⟩ | ⟨hh,ids,hi,han⟩
  · have hf : (outline (lg ++ [.frame])).2 = (outline lg).2 := by
      simp [outline_append,Filed.after,hh]
    exact ⟨h.run,fun hm => (hm (by simp)).elim,h.nextUnframed ∘ hn,hf ▸ h.own,hf ▸ h.next,
      fun hm => hf ▸ h.answer (ha hm)⟩
  · have hf : (outline (lg ++ [.frame])).2 = { (outline lg).2 with
        own := .pending, next := (outline lg).2.next.retired (outline lg).1.read.2 } := by
      simp [outline_append,Filed.after,hh]
    refine ⟨run_of_announced han h.run,fun hm => (hm (by simp)).elim,
      fun hm => unannounced_of_announced han hne (h.nextUnframed (hn hm)),?_,?_,fun hm => ?_⟩ <;>
      rw [hf]
    · exact shows_of_announced han h.own
    · rw [han.others ni hne.symm]
      exact h.next.retired hi
    · obtain ⟨ac,hac,hans⟩ := h.answer (ha hm)
      exact ⟨ac,hac,answered_of_announced han hans⟩

lemma Recorded.nextFrame (hne : rid ≠ ni) (hnew : .nextFrame ∉ lg)
    (hre : Reads pa ni rid (outline lg).1.nextRead) (h : Recorded fp tid rid ni s an lg)
    (hw : writeFrame s tid fr pa dr now = .ok t) :
    Recorded fp tid rid ni t an (lg ++ [.nextFrame]) := by
  have hn : .frame ∉ lg ++ [.nextFrame] → .frame ∉ lg := by simp
  have ha : .accept ∈ lg ++ [.nextFrame] → .accept ∈ lg := by simp
  rcases writeFrame_announced hre h.run (h.nextUnframed hnew) hw with ⟨hh,rfl⟩ | ⟨hh,ids,hi,han⟩
  · have hf : (outline (lg ++ [.nextFrame])).2 = (outline lg).2 := by
      simp [outline_append,Filed.after,hh]
    exact ⟨h.run,h.unframed ∘ hn,fun hm => (hm (by simp)).elim,hf ▸ h.own,hf ▸ h.next,
      fun hm => hf ▸ h.answer (ha hm)⟩
  · have hf : (outline (lg ++ [.nextFrame])).2 = ⟨(outline lg).2.own.retired
        (outline lg).1.nextRead.2,.pending,(outline lg).2.applied⟩ := by
      simp [outline_append,Filed.after,hh]
    refine ⟨run_of_announced han h.run,
      fun hm => unannounced_of_announced han hne.symm (h.unframed (hn hm)),
      fun hm => (hm (by simp)).elim,?_,?_,fun hm => ?_⟩ <;> rw [hf]
    · rw [han.others rid hne]
      exact h.own.retired hi
    · exact shows_of_announced han h.next
    · obtain ⟨ac,hac,hans⟩ := h.answer (ha hm)
      exact ⟨ac,hac,answered_of_announced han hans⟩

/-! The answer and its receipt. -/

lemma Recorded.accept (hne : rs.requestId ≠ ni)
    (hap : (outline lg).2.applied = false) (ho : rs.optionId.isEmpty = false)
    (h : Recorded ou.fingerprint tid rs.requestId ni s an lg)
    (hre : respondToPermission ou s tid rs held false dw = .ok (t,.dispatching tr))
    (hb : bindGraphActionReceipt ou.fingerprint t tr.dispatch tr.claim.dispatchId = some rc) :
    Recorded ou.fingerprint tid rs.requestId ni t
      (some ⟨rs,tr.claim.actionId,⟨tr.claim.dispatchId,"resume",rc⟩⟩) (lg ++ [.accept]) := by
  have hs := respondToPermission_submitted hre
  obtain ⟨row,hm,hrow⟩ := hs.row
  obtain ⟨-,-,-,-,-,-,-,ht⟩ := respondToPermission_dispatching hre
  obtain ⟨th,ha⟩ := bindGraphActionReceipt_awaits hb ht hm hrow
  refine ⟨by rw [ha.run]; rfl,fun hn => hs.unannounced _ (h.unframed (by simpa using hn)),
    fun hn => hs.unannounced _ (h.nextUnframed (by simpa using hn)),?_,?_,fun _ => ?_⟩ <;>
    rw [outline_append]
  · have hv := h.own
    rw [hs.own]
    dsimp only [Filed.after]
    generalize (outline lg).2.own = stage at hv
    cases stage with
    | absent | pending | awaiting => rw [hv]; rfl
    | closed =>
      obtain ⟨st,-,hv⟩ := hv
      rw [hv]
      rfl
  · rw [hs.others ni hne.symm]
    exact h.next
  · refine ⟨_,rfl,rfl,ho,fun _ => ⟨row,th,ha⟩,fun hn => ?_⟩
    cases hap.symm.trans hn

lemma Recorded.receipt (hne : rid ≠ ni) (hac : .accept ∈ lg) (hap : (outline lg).2.applied = false)
    (hhe : ¬ Holds cp rid) (h : Recorded fp tid rid ni s (some ac) lg)
    (hp : handleProgressEvent fp settleResume s tid ac.application true dr now = .ok settled)
    (hrea : handleReaskedPermissionEvent settled tid ac.application (some cp) = .ok t) :
    Recorded fp tid rid ni t (some ac) (lg ++ [.receipt]) := by
  have hgo : heldInterrupt (some cp) rid = none := by
    rw [← Option.not_isSome_iff_eq_none,heldInterrupt_isSome]
    exact hhe
  have hf : .frame ∉ lg ++ [.receipt] → .frame ∉ lg := by simp
  have hn : .nextFrame ∉ lg ++ [.receipt] → .nextFrame ∉ lg := by simp
  obtain ⟨_,ho,hans⟩ := h.answer hac
  cases ho
  obtain ⟨row,th,ha⟩ := hans.awaits hap
  obtain ⟨hre,hop,-,-⟩ := hans
  by_cases how : (outline lg).2.own = .awaiting
  · have hv : requestView s rid = some (tid,.answeredPendingApply) := by
      have hv := h.own
      rwa [how] at hv
    have hs := ha.settles hop (hre ▸ hv) hp
    obtain ⟨su,hst,hown⟩ := hs.own
    obtain ⟨row,hrow,hsa,happ⟩ := hs.applied
    have hth : row.threadId = tid := hsa.threadId.trans ha.answer.threadId
    obtain rfl : t = settled := by
      refine handleReaskedPermissionEvent_unheld (fun fo hl => ?_) hgo hrea
      cases (getControlActionByDispatchId_of_mem hrow hth
        (hsa.dispatchId.trans ha.answer.dispatchId)).symm.trans hl
      exact hsa.requestId.trans (hre ▸ ha.answer.requestId)
    have hfi : (outline (lg ++ [.receipt])).2 = ⟨.closed,(outline lg).2.next,true⟩ := by
      simp [outline_append,Filed.after,how]
    refine ⟨(hs.run tid).trans h.run,fun hm => unannounced_of_settledBy hs (h.unframed (hf hm)),
      fun hm => unannounced_of_settledBy hs (h.nextUnframed (hn hm)),?_,?_,fun _ => ?_⟩ <;> rw [hfi]
    · rw [hre,hv] at hown
      exact ⟨su,hst,hown⟩
    · rw [hs.others ni (hre ▸ hne.symm)]
      exact h.next
    · exact ⟨ac,rfl,hre,hop,nofun,fun _ => ⟨row,hrow,hth,hsa.id.trans ha.answer.id,happ⟩⟩
  · have hv : ∀ view, requestView s rid = some view → view.2 ≠ .answeredPendingApply := by
      intro view hv heq
      have hsh := h.own
      rw [hv] at hsh
      generalize (outline lg).2.own = stage at how hsh
      cases stage with
      | absent => cases hsh
      | pending => cases hsh; cases heq
      | awaiting => exact how rfl
      | closed =>
        obtain ⟨st,hst,hsh⟩ := hsh
        cases hsh
        exact hst (by rw [show st = _ from heq]; decide)
    obtain rfl : settled = s := ha.misses (hre ▸ hv) hp
    obtain rfl : t = settled := by
      refine handleReaskedPermissionEvent_unheld (fun fo hl => ?_) hgo hrea
      cases ha.found.symm.trans hl
      exact hre ▸ ha.answer.requestId
    have hfi : (outline (lg ++ [.receipt])).2 = (outline lg).2 := by
      simp [outline_append,Filed.after,how]
    exact ⟨h.run,h.unframed ∘ hf,h.nextUnframed ∘ hn,hfi ▸ h.own,hfi ▸ h.next,
      fun _ => hfi ▸ h.answer hac⟩

end

/-- What holds in every state of a run. -/
structure Tracked (fingerprint : ActionPayload → String) (threadId requestId nextId : String)
    (sys : System) : Prop where
  explored : ∃ n, explored n (core sys.history) = true
  observed : Observed requestId nextId sys
  recorded : Recorded fingerprint threadId requestId nextId sys.store sys.answer sys.history

section
variable {outside ou : Outside} {threadId tid requestId rid nextId ni : String} {start sys sy : System}
variable {events : List Event}

lemma Fresh.tracked (h : Fresh tid rid ni sys) : Tracked fp tid rid ni sys := by
  have hn : ∀ e : Event, e ∉ sys.history := by simp [h.history]
  refine ⟨⟨10,by rw [h.history]; exact explored_all⟩,⟨?_,?_,fun hm => (hn _ hm).elim,
    fun hm => (hn _ hm).elim⟩,⟨h.run,fun _ => h.unannounced,fun _ => h.nextUnannounced,?_,?_,
    fun hm => (hn _ hm).elim⟩⟩ <;> rw [h.history]
  · exact iff_of_false h.unheld Bool.false_ne_true
  · exact iff_of_false h.nextUnheld Bool.false_ne_true
  · exact h.absent
  · exact h.nextAbsent

lemma Move.recorded (hne : rid ≠ ni) (h : Move ou tid rid ni sys e sy)
    (ht : Tracked ou.fingerprint tid rid ni sys) :
    Recorded ou.fingerprint tid rid ni sy.store sy.answer sy.history := by
  obtain ⟨hen,q,hef,rfl⟩ := h
  obtain ⟨hex,hob,hre⟩ := ht
  obtain ⟨hrc,hin,hap,-⟩ := lawful_of_explored hex
  have hn : e ≠ .elsewhere → e ∉ sys.history := hen.1.resolve_left
  cases hef with
  | park | read | incorporate | nextPark | nextRead =>
    exact hre.append (fun _ _ => rfl) (by simp)
  | elsewhere hs => exact (hre.elsewhere hs).append (fun _ _ => rfl) (by simp)
  | frame _ _ _ hw => exact hre.frame hne (hn (by simp)) (hob.pause (hen.2 _ rfl)) hw
  | nextFrame _ _ _ hw => exact hre.nextFrame hne (hn (by simp)) (hob.nextPause (hen.2 _ rfl)) hw
  | accept _ _ hreq ho hres hb =>
    subst hreq
    exact hre.accept hne (hap fun hm => hn (by simp) (hin (hrc hm)).1) ho hres hb
  | receipt _ _ ha hp hreas =>
    obtain ⟨hac,hh⟩ := hin (hen.2 _ rfl)
    dsimp only
    rw [ha] at hre ⊢
    refine hre.receipt hne hac (hap (hn (by simp))) (fun hho => ?_) hp hreas
    cases hh.symm.trans (hob.held.1 hho)

lemma Move.tracked (hne : rid ≠ ni) (h : Move ou tid rid ni sys e sy)
    (ht : Tracked ou.fingerprint tid rid ni sys) : Tracked ou.fingerprint tid rid ni sy := by
  refine ⟨?_,h.observed hne ht.observed,h.recorded hne ht⟩
  obtain ⟨hen,q,-,rfl⟩ := h
  exact core_explored ht.explored hen

lemma history_of_run (h : Run (Move ou tid rid ni) start events sys) :
    sys.history = start.history ++ events := by
  induction h with
  | done _ => simp
  | step hm _ ih =>
    obtain ⟨-,q,-,rfl⟩ := hm
    rw [ih]
    simp

lemma Stage.Shows.settled_iff (h : stage.Shows tid view) :
    (∀ v, view = some v → v.2 ∉ outstandingPermissionStatuses) ↔
      stage ∈ [Stage.absent,.closed] := by
  cases stage with
  | absent => simp [show view = none from h]
  | pending => simp [show view = some (tid,.pending) from h,outstandingPermissionStatuses]
  | awaiting =>
    simp [show view = some (tid,.answeredPendingApply) from h,outstandingPermissionStatuses]
  | closed =>
    obtain ⟨st,hs,rfl⟩ := h
    simpa using hs

lemma Stage.Shows.pending_iff {stage : Stage}
    (h : stage.Shows tid view) : view = some (tid,.pending) ↔ stage = .pending := by
  cases stage with
  | absent => simp [show view = none from h]
  | pending => simp [show view = some (tid,.pending) from h]
  | awaiting => simp [show view = some (tid,.answeredPendingApply) from h]
  | closed =>
    obtain ⟨st,hs,rfl⟩ := h
    refine iff_of_false (fun heq => ?_) nofun
    cases heq
    exact hs (by decide)

lemma Answered.applied_iff (h : Answered fp tid rid s ac ap) :
    (∃ row, getControlAction s ac.actionId = some row ∧ row.appliedAt.isSome = true) ↔
      ap = true := by
  cases ap with
  | true =>
    obtain ⟨row,hm,-,hid,ha⟩ := h.settled rfl
    refine iff_of_true ⟨row,?_,ha⟩ rfl
    exact hid ▸ Table.lookup_of_mem ControlActionModel.id action_id_unique hm
  | false =>
    obtain ⟨row,th,haw⟩ := h.awaits rfl
    refine iff_of_false ?_ nofun
    rintro ⟨o,hf,ha⟩
    have ho := Table.lookup_of_mem ControlActionModel.id action_id_unique haw.mem
    rw [haw.answer.id] at ho
    cases ho.symm.trans hf
    rw [haw.answer.unapplied] at ha
    cases ha

lemma Recorded.reconciled_iff
    (h : Recorded fp tid rid ni sys.store sys.answer sys.history) (ha : .accept ∈ sys.history) :
    Reconciled tid rid ni sys ↔ (outline sys.history).2.reconciled = true := by
  obtain ⟨ac,hac,hans⟩ := h.answer ha
  have hap : (∃ an row, sys.answer = some an ∧ getControlAction sys.store an.actionId = some row ∧
      row.appliedAt.isSome = true) ↔ (outline sys.history).2.applied = true := by
    rw [← hans.applied_iff,hac]
    simp
  simp only [Filed.reconciled,Bool.and_eq_true,decide_eq_true_eq]
  rw [← hap,← h.own.settled_iff,← h.next.pending_iff,and_assoc]
  exact ⟨fun hr => ⟨hr.applied,hr.settled,hr.next⟩,fun hr => ⟨hr.1,hr.2.1,hr.2.2⟩⟩

/-- Of all orders in which the two frames, the answer and its receipt are handled, exactly
those in order leave the answer applied, its request settled and the next one pending. -/
theorem relay_reconciles_iff (hne : requestId ≠ nextId)
    (hfresh : Fresh threadId requestId nextId start)
    (hrun : Run (Move outside threadId requestId nextId) start events sys)
    (hframe : .frame ∈ events) (hreceipt : .receipt ∈ events) (hnext : .nextFrame ∈ events) :
    Reconciled threadId requestId nextId sys ↔ InOrder events := by
  have ht := hrun.invariant (Tracked outside.fingerprint threadId requestId nextId)
    (fun ht hm => hm.tracked hne ht) hfresh.tracked
  have hh : sys.history = events := by
    rw [history_of_run hrun,hfresh.history,nil_append]
  obtain ⟨hrc,hin,-,hl⟩ := lawful_of_explored ht.explored
  rw [← hh] at hframe hreceipt hnext ⊢
  rw [ht.recorded.reconciled_iff (hin (hrc hreceipt)).1,hl hframe hreceipt hnext]

end

def secondRequest : ProjectedInterrupt := { goOrStop with interruptId := "request-2" }

def frameOf (interrupt : ProjectedInterrupt) : PermissionFrame :=
  ⟨some interrupt.interruptId,some "shell",some "run it?",some (frameOptions interrupt)⟩

def startOf (s : Store) : System := ⟨s,[],none,none,none,[]⟩

lemma Move.of_effect (hen : Enabled sys.history e) (h : Effect ou tid rid ni sys e q) :
    Move ou tid rid ni sys e
      { q with history := sys.history ++ [e] } := ⟨hen,q,h,rfl⟩

theorem relay_reconciles_sequential : ∃ s sys, admittedRun = .ok s ∧
    Run (Move plainOutside "run-1" "request-1" "request-2") (startOf s)
      [.park,.read,.frame,.accept,.incorporate,.receipt,.nextPark,.nextRead,.nextFrame] sys ∧
    Reconciled "run-1" "request-1" "request-2" sys := by
  have hru : ∃ s sys, admittedRun = .ok s ∧ Fresh "run-1" "request-1" "request-2" (startOf s) ∧
      Run (Move plainOutside "run-1" "request-1" "request-2") (startOf s)
        [.park,.read,.frame,.accept,.incorporate,.receipt,.nextPark,.nextRead,.nextFrame] sys :=
    ⟨_,_,rfl,⟨rfl,forall_mem_singleton.2 fun _ => append_ne (by decide) _ _,
        forall_mem_singleton.2 fun _ => append_ne (by decide) _ _,rfl,rfl,
        by simp [Holds,startOf],by simp [Holds,startOf],rfl,rfl⟩,
      .step (.of_effect (by decide) (.park goOrStop ⟨rfl,by decide⟩)) <|
      .step (.of_effect (by decide) (.read (frameOf goOrStop) rfl)) <|
      .step (.of_effect (by decide) (.frame (frameOf goOrStop) ⟨"created-1","created-1"⟩ 0 rfl)) <|
      .step (.of_effect (by decide) (.accept goAhead (drawingAt 0 "action-2" "dispatch-2") rfl rfl
        rfl rfl)) <|
      .step (.of_effect (by decide) .incorporate) <|
      .step (.of_effect (by decide) (.receipt ⟨"applied-1","applied-1"⟩ 1 rfl rfl rfl)) <|
      .step (.of_effect (by decide) (.nextPark secondRequest ⟨rfl,by decide⟩)) <|
      .step (.of_effect (by decide) (.nextRead (frameOf secondRequest) rfl)) <|
      .single (.of_effect (by decide) (.nextFrame (frameOf secondRequest) ⟨"created-2","created-2"⟩ 2
        rfl))⟩
  obtain ⟨s,sys,hs,hf,hru⟩ := hru
  have ho := relay_reconciles_iff (by decide) hf hru (by decide) (by decide) (by decide)
  exact ⟨s,sys,hs,hru,ho.2 (by decide)⟩

/-- If the next request is journaled between the incorporation of the answer and its
receipt, or if the answer is accepted before the request is journaled, the proven answer
is never applied. -/
theorem proven_answer_left_unapplied : (∃ s sys, admittedRun = .ok s ∧
      Run (Move plainOutside "run-1" "request-1" "request-2") (startOf s)
        [.park,.read,.frame,.accept,.incorporate,.nextPark,.nextRead,.nextFrame,.receipt] sys ∧
      (sys.answer.bind fun answer => getControlAction sys.store answer.actionId).map
        ControlActionModel.appliedAt = some none ∧
      requestView sys.store "request-1" = some ("run-1",.superseded)) ∧
    ∃ s sys, admittedRun = .ok s ∧
      Run (Move plainOutside "run-1" "request-1" "request-2") (startOf s)
        [.park,.accept,.read,.frame,.incorporate,.receipt,.nextPark,.nextRead,.nextFrame] sys ∧
      (sys.answer.bind fun answer => getControlAction sys.store answer.actionId).map
        ControlActionModel.appliedAt = some none ∧
      requestView sys.store "request-1" = some ("run-1",.superseded) := by
  constructor
  · exact ⟨_,_,rfl,.step (.of_effect (by decide) (.park goOrStop ⟨rfl,by decide⟩)) <|
      .step (.of_effect (by decide) (.read (frameOf goOrStop) rfl)) <|
      .step (.of_effect (by decide) (.frame (frameOf goOrStop) ⟨"created-1","created-1"⟩ 0 rfl)) <|
      .step (.of_effect (by decide) (.accept goAhead (drawingAt 0 "action-2" "dispatch-2") rfl rfl
        rfl rfl)) <|
      .step (.of_effect (by decide) .incorporate) <|
      .step (.of_effect (by decide) (.nextPark secondRequest ⟨rfl,by decide⟩)) <|
      .step (.of_effect (by decide) (.nextRead (frameOf secondRequest) rfl)) <|
      .step (.of_effect (by decide) (.nextFrame (frameOf secondRequest) ⟨"created-2","created-2"⟩ 1
        rfl)) <|
      .single (.of_effect (by decide) (.receipt ⟨"applied-1","applied-1"⟩ 2 rfl rfl rfl)),rfl,rfl⟩
  · exact ⟨_,_,rfl,.step (.of_effect (by decide) (.park goOrStop ⟨rfl,by decide⟩)) <|
      .step (.of_effect (by decide) (.accept goAhead (drawingAt 0 "action-2" "dispatch-2") rfl rfl
        rfl rfl)) <|
      .step (.of_effect (by decide) (.read (frameOf goOrStop) rfl)) <|
      .step (.of_effect (by decide) (.frame (frameOf goOrStop) ⟨"created-1","created-1"⟩ 0 rfl)) <|
      .step (.of_effect (by decide) .incorporate) <|
      .step (.of_effect (by decide) (.receipt ⟨"applied-1","applied-1"⟩ 1 rfl rfl rfl)) <|
      .step (.of_effect (by decide) (.nextPark secondRequest ⟨rfl,by decide⟩)) <|
      .step (.of_effect (by decide) (.nextRead (frameOf secondRequest) rfl)) <|
      .single (.of_effect (by decide) (.nextFrame (frameOf secondRequest) ⟨"created-2","created-2"⟩ 2
        rfl)),rfl,rfl⟩

end VaultspecA2A.PermissionRelay
