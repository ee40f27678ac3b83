import VaultspecA2A.BodyLimit
import VaultspecA2A.Fanout
import Mathlib.Data.List.Perm.Subperm

/-!
# The worker's event bridge

A worker buffers the events of its runs and posts them to the gateway in batches. A flush
takes the whole buffer, cuts it into batches below the size the gateway accepts, and posts
them one after the other, each with a number of attempts and a growing wait between them.
Events that are sent meanwhile are buffered again. A batch that cannot be delivered goes back
in front of the buffer with all batches behind it.

A flush waits at two places, for the answer to a post and between two attempts, and may be
cancelled at either. What happens while it waits is its input: the answer, the readings of the
clock, and the events that are sent. The size of an event's JSON text is a parameter. An envelope
is known by a number, since two objects with the same text are two events; the clock stamp the
gateway sorts by is left out.
-/
namespace VaultspecA2A.WorkerBridge
open Runs PyValue Fanout BodyLimit List

structure WorkerEventEnvelope where
  id : ℕ
  threadId : String
  payload : Value

def isProtectedEntry (entry : WorkerEventEnvelope) : Bool := isProtectedPayload entry.payload

structure IpcSettings where
  internalMaxEventBatchBytes : ℕ
  ipcMaxEventBuffer : ℕ := 10000
  ipcMaxFlushRetries : ℕ := 3
  ipcFlushInterval : ℕ := 50
  ipcRetryBackoffBase : ℕ := 100
deriving DecidableEq, Repr

inductive FlushTask
  | running
  | waiting (delay : ℕ)
deriving DecidableEq, Repr

structure BatchState where
  events : List WorkerEventEnvelope := []
  flushTask : Option FlushTask := none
  closing : Bool := false
  /-- How many envelopes were made. -/
  made : ℕ := 0

/-- Have one flush pending; the task that asks for one is finishing, not pending. -/
def scheduleFlush (b : BatchState) (delay : ℕ) (byTask : Bool := false) : BatchState :=
  if b.closing then b
  else
    match b.flushTask with
    | some (.waiting _) => b
    | some .running => if byTask then { b with flushTask := some (.waiting delay) } else b
    | none => { b with flushTask := some (.waiting delay) }

structure Sent where
  threadId : String
  payload : Value

def sendEvent (settings : IpcSettings) (b : BatchState) (sent : Sent) : BatchState :=
  let kept :=
    if settings.ipcMaxEventBuffer ≤ b.events.length then
      ((popOldestDroppable isProtectedEntry b.events).map Prod.snd).getD b.events
    else b.events
  scheduleFlush
    { b with events := kept ++ [⟨b.made,sent.threadId,sent.payload⟩], made := b.made + 1 }
    settings.ipcFlushInterval

/-- `len(b'{"events":[]}')`. -/
def batchEnvelopeBytes : ℕ := 13

variable {limit li : ℕ}

section
variable (bytes : WorkerEventEnvelope → ℕ)

/-- The length of the body of a batch, with a comma between its events. -/
def encodedBatchLength (batch : List WorkerEventEnvelope) : ℕ :=
  batchEnvelopeBytes + ((batch.map bytes).sum + (batch.length - 1))

def splitLoop (limit : ℕ) : List WorkerEventEnvelope → List (List WorkerEventEnvelope) →
    List WorkerEventEnvelope → List WorkerEventEnvelope → ℕ →
    List (List WorkerEventEnvelope) × List WorkerEventEnvelope
  | [], batches, oversized, current, _ =>
    (if current.isEmpty then batches else batches ++ [current],oversized)
  | event :: events, batches, oversized, current, size =>
    let encoded := encodedBatchLength bytes [event] - batchEnvelopeBytes + 1
    if limit < encoded + batchEnvelopeBytes then
      splitLoop limit events batches (oversized ++ [event]) current size
    else if ¬ current.isEmpty ∧ limit < size + encoded then
      splitLoop limit events (batches ++ [current]) oversized [event] (batchEnvelopeBytes + encoded)
    else splitLoop limit events batches oversized (current ++ [event]) (size + encoded)

/-- The batches below the limit, in order, and the events that exceed it alone. -/
def splitIntoDeliverableBatches (limit : ℕ) (events : List WorkerEventEnvelope) :
    List (List WorkerEventEnvelope) × List WorkerEventEnvelope :=
  splitLoop bytes limit events [] [] [] batchEnvelopeBytes

def fits (limit : ℕ) (event : WorkerEventEnvelope) : Bool :=
  decide (encodedBatchLength bytes [event] - batchEnvelopeBytes + 1 + batchEnvelopeBytes ≤ limit)

variable {bytes}

lemma splitLoop_parts (li : ℕ) (events : List WorkerEventEnvelope)
    (bs : List (List WorkerEventEnvelope)) (ov cu : List WorkerEventEnvelope)
    (si : ℕ) :
    (splitLoop bytes li events bs ov cu si).1.flatten =
        bs.flatten ++ (cu ++ events.filter (fits bytes li)) ∧
      (splitLoop bytes li events bs ov cu si).2 =
        ov ++ events.filter fun e => !fits bytes li e := by
  induction events generalizing bs ov cu si with
  | nil =>
    unfold splitLoop
    cases cu with
    | nil => simp
    | cons e r => simp
  | cons e events ih =>
    unfold splitLoop
    dsimp only
    split_ifs with hl hfu
    · have hf : fits bytes li e = false := decide_eq_false (Nat.not_le.2 hl)
      simp only [ih,filter_cons,hf,Bool.not_false,if_true,Bool.false_eq_true,
        if_false,append_assoc,singleton_append,and_self]
    all_goals
      have hf : fits bytes li e = true := decide_eq_true (Nat.not_lt.1 hl)
      simp [ih,hf]

/-- What the loop has gathered and the size it has counted for it. -/
def Sized (bytes : WorkerEventEnvelope → ℕ) (limit : ℕ) (current : List WorkerEventEnvelope)
    (size : ℕ) : Prop :=
  size = batchEnvelopeBytes + ((current.map bytes).sum + current.length) ∧
    (current ≠ [] → size ≤ limit)

def Deliverable (bytes : WorkerEventEnvelope → ℕ) (limit : ℕ) (batch : List WorkerEventEnvelope) :
    Prop :=
  batch ≠ [] ∧ encodedBatchLength bytes batch ≤ limit

lemma splitLoop_deliverable (li : ℕ) (events : List WorkerEventEnvelope)
    (bs : List (List WorkerEventEnvelope)) (ov cu : List WorkerEventEnvelope)
    (si : ℕ) (hs : Sized bytes li cu si) (h : ∀ batch ∈ bs, Deliverable bytes li batch) :
    ∀ batch ∈ (splitLoop bytes li events bs ov cu si).1, Deliverable bytes li batch := by
  have hc : ∀ {bs : List (List WorkerEventEnvelope)} {cu si},
      (∀ batch ∈ bs, Deliverable bytes li batch) → Sized bytes li cu si → ¬ cu.isEmpty = true →
      ∀ batch ∈ bs ++ [cu], Deliverable bytes li batch := by
    intro bs cu si h hs hso batch hb
    rcases mem_append.1 hb with hold | hn
    · exact h batch hold
    · have hne : cu ≠ [] := by simpa using hso
      have hle := hs.2 hne
      have hsu := hs.1
      rw [mem_singleton.1 hn]
      refine ⟨hne,?_⟩
      unfold encodedBatchLength
      omega
  have ho : ∀ e, encodedBatchLength bytes [e] - batchEnvelopeBytes + 1 = bytes e + 1 := by
    intro e
    simp [encodedBatchLength]
  induction events generalizing bs ov cu si with
  | nil =>
    unfold splitLoop
    split_ifs with hem
    · exact h
    · exact hc h hs hem
  | cons e events ih =>
    unfold splitLoop
    dsimp only
    rw [ho e]
    split_ifs with hl hf
    · exact ih _ _ _ _ hs h
    · refine ih _ _ _ _ ⟨?_,fun _ => ?_⟩ (hc h hs hf.1)
      · simp
      · omega
    · refine ih _ _ _ _ ⟨?_,fun _ => ?_⟩ h
      · rw [hs.1]
        simp only [map_append,sum_append,map_cons,map_nil,
          sum_singleton,length_append,length_singleton]
        omega
      · by_cases hem : cu.isEmpty = true
        · rw [isEmpty_iff.1 hem] at hs
          have hst : si = batchEnvelopeBytes := by simpa using hs.1
          omega
        · have := not_and.1 hf hem
          omega

lemma split_deliverable (li : ℕ) (events : List WorkerEventEnvelope) :
    ∀ batch ∈ (splitIntoDeliverableBatches bytes li events).1, Deliverable bytes li batch :=
  splitLoop_deliverable li events [] [] [] _ ⟨rfl,fun h => (h rfl).elim⟩ (by simp)

lemma split_flatten (li : ℕ) (events : List WorkerEventEnvelope) :
    (splitIntoDeliverableBatches bytes li events).1.flatten = events.filter (fits bytes li) :=
  (splitLoop_parts li events [] [] [] _).1

lemma split_oversized (li : ℕ) (events : List WorkerEventEnvelope) :
    (splitIntoDeliverableBatches bytes li events).2 = events.filter fun e => !fits bytes li e :=
  (splitLoop_parts li events [] [] [] _).2

lemma fits_iff : fits bytes li e = true ↔ encodedBatchLength bytes [e] < li := by
  rw [fits,decide_eq_true_iff]
  simp only [encodedBatchLength,map_cons,map_nil,sum_singleton,length_singleton]
  omega

variable (bytes)

open scoped Classical in
/-- The buffer is cut for the gateway: the batches hold, in order, the events that are not set
aside, each batch is within the limit, and an event is set aside exactly when the gateway would
refuse a batch of it alone, that is when this batch exceeds the limit. -/
structure CutForGateway (settings : BodyLimitSettings) (events : List WorkerEventEnvelope) :
    Prop where
  kept : (splitIntoDeliverableBatches bytes settings.internalMaxEventBatchBytes events).1.flatten =
    events.filter fun event =>
      event ∉ (splitIntoDeliverableBatches bytes settings.internalMaxEventBatchBytes events).2
  bounded : ∀ batch ∈
    (splitIntoDeliverableBatches bytes settings.internalMaxEventBatchBytes events).1,
    encodedBatchLength bytes batch ≤ settings.internalMaxEventBatchBytes
  refused : ∀ event ∈ events,
    (event ∈ (splitIntoDeliverableBatches bytes settings.internalMaxEventBatchBytes events).2 ↔
      RefusesBatch settings (encodedBatchLength bytes [event]))
  exceeds : ∀ event ∈ events, (RefusesBatch settings (encodedBatchLength bytes [event]) ↔
    settings.internalMaxEventBatchBytes < encodedBatchLength bytes [event])

lemma mem_split_oversized (h : e ∈ events) :
    e ∈ (splitIntoDeliverableBatches bytes li events).2 ↔ li ≤ encodedBatchLength bytes [e] := by
  rw [split_oversized,mem_filter,Bool.not_eq_true',← Bool.not_eq_true,fits_iff,not_lt]
  exact and_iff_right h

/-- Whatever the events and the limit, the buffer is cut for the gateway if and only if no event
fills a batch of its own to the last byte: such an event is set aside though the gateway takes it. -/
theorem cutForGateway_iff (settings : BodyLimitSettings) (events : List WorkerEventEnvelope) :
    CutForGateway bytes settings events ↔
      ∀ event ∈ events, encodedBatchLength bytes [event] ≠ settings.internalMaxEventBatchBytes := by
  constructor
  · intro h event hev hf
    have hre := (h.refused event hev).1 ((mem_split_oversized bytes hev).2 hf.ge)
    have hex := (h.exceeds event hev).1 hre
    omega
  · intro h
    refine ⟨?_,fun batch hb => (split_deliverable _ _ batch hb).2,?_,fun _ _ => refusesBatch_iff⟩
    · rw [split_flatten]
      apply filter_congr
      intro event hev
      have ha : event ∈ _ ↔ settings.internalMaxEventBatchBytes ≤ _ := mem_split_oversized bytes hev
      rw [Bool.eq_iff_iff]
      simp [fits_iff,ha]
    · intro event hev
      have hne := h event hev
      rw [mem_split_oversized bytes hev,refusesBatch_iff]
      omega

/-- An event of seven bytes, and twenty bytes for a batch. -/
theorem cutForGateway_fails_full : ¬ CutForGateway (fun _ => 7) ⟨20,20⟩ [⟨0,"thread",.null⟩] := by
  intro h
  have ha := (h.refused ⟨0,"thread",.null⟩ (by simp)).1
    ((mem_split_oversized _ (by simp)).2 (by decide))
  have hex := refusesBatch_iff.1 ha
  exact absurd hex (by decide)

end

inductive PostAnswer
  | accepted
  | refused
  | cancelled
deriving DecidableEq, Repr

structure Attempt where
  now : ℕ := 0
  post : PostAnswer
  whilePosting : List Sent := []
  backoffAt : ℕ := 0
  slept : Bool := true
  whileSleeping : List Sent := []

def remaining (deadline : Option ℕ) (now : ℕ) : Option ℕ := deadline.map (· - now)

section
variable (settings : IpcSettings) (deadline : Option ℕ)

def sendBatchOnce (batch : List WorkerEventEnvelope) (attempt : Attempt) (b : BatchState) :
    BatchState × PostAnswer :=
  let b := attempt.whilePosting.foldl (sendEvent settings) b
  match attempt.post with
  | .cancelled => ({ b with events := batch ++ b.events },.cancelled)
  | answer => (b,answer)

inductive Backoff
  | slept
  | noTime
  | cancelled
deriving DecidableEq, Repr

def waitForFlushRetry (batch : List WorkerEventEnvelope) (index : ℕ) (attempt : Attempt)
    (b : BatchState) : BatchState × Backoff :=
  let delay := settings.ipcRetryBackoffBase * 2 ^ index
  let delay := (remaining deadline attempt.backoffAt).elim delay (min delay)
  if delay = 0 then (b,.noTime)
  else
    let b := attempt.whileSleeping.foldl (sendEvent settings) b
    if attempt.slept then (b,.slept) else ({ b with events := batch ++ b.events },.cancelled)

inductive Delivery
  | delivered
  | failed
  | cancelled
deriving DecidableEq, Repr

def deliverBatch (batch : List WorkerEventEnvelope) (attempts : ℕ → Attempt) :
    ℕ → ℕ → BatchState → BatchState × Delivery
  | 0, _, b => (b,.failed)
  | left + 1, index, b =>
    let attempt := attempts index
    if remaining deadline attempt.now = some 0 then (b,.failed)
    else
      match sendBatchOnce settings batch attempt b with
      | (b,.accepted) => (b,.delivered)
      | (b,.cancelled) => (b,.cancelled)
      | (b,.refused) =>
        if left = 0 then (b,.failed)
        else
          match waitForFlushRetry settings deadline batch index attempt b with
          | (b,.cancelled) => (b,.cancelled)
          | (b,.noTime) => (b,.failed)
          | (b,.slept) => deliverBatch batch attempts left (index + 1) b

/-- Give up events until `n` are gone; what is left, and what was given up. -/
def dropOldest : ℕ → List WorkerEventEnvelope → List WorkerEventEnvelope × List WorkerEventEnvelope
  | 0, events => (events,[])
  | n + 1, events =>
    match popOldestDroppable isProtectedEntry events with
    | none => (events,[])
    | some (event,rest) => ((dropOldest n rest).1,event :: (dropOldest n rest).2)

/-- Put undelivered events back in front, within the cap, and schedule another flush. -/
def requeueFailedBatch (byTask : Bool) (batch : List WorkerEventEnvelope) (b : BatchState) :
    BatchState × List WorkerEventEnvelope :=
  let events := batch ++ b.events
  let (kept,dropped) := dropOldest (events.length - settings.ipcMaxEventBuffer) events
  let b := { b with events := kept }
  (if kept.isEmpty then b
   else scheduleFlush b (settings.ipcRetryBackoffBase * 2 ^ settings.ipcMaxFlushRetries) byTask,
    dropped)

inductive FlushEnding
  | finished (delivered : Bool)
  | cancelled
deriving DecidableEq, Repr

/-- What a flush did with the events it took: those the gateway acknowledged, those it
reported as too large, those it gave up to the cap. -/
structure FlushOutcome where
  posted : List WorkerEventEnvelope := []
  undeliverable : List WorkerEventEnvelope := []
  dropped : List WorkerEventEnvelope := []
  ending : FlushEnding

/-- The batches of a flush, in order; `script k` is what the flush meets in batch `k`. -/
def flushBatches (byTask : Bool) : (ℕ → ℕ → Attempt) → List (List WorkerEventEnvelope) →
    BatchState → BatchState × FlushOutcome
  | _, [], b => (b,{ ending := .finished true })
  | script, batch :: rest, b =>
    match deliverBatch settings deadline batch (script 0) settings.ipcMaxFlushRetries 0 b with
    | (b,.delivered) =>
      let (t,outcome) := flushBatches byTask (fun k => script (k + 1)) rest b
      (t,{ outcome with posted := batch ++ outcome.posted })
    | (b,.failed) =>
      let (t,dropped) := requeueFailedBatch settings byTask (batch :: rest).flatten b
      (t,{ dropped := dropped, ending := .finished false })
    | (b,.cancelled) => (b,{ ending := .cancelled })

def flushLocked (bytes : WorkerEventEnvelope → ℕ) (byTask : Bool) (script : ℕ → ℕ → Attempt)
    (b : BatchState) : BatchState × FlushOutcome :=
  if b.events.isEmpty then (b,{ ending := .finished true })
  else
    let (batches,oversized) :=
      splitIntoDeliverableBatches bytes settings.internalMaxEventBatchBytes b.events
    let (t,outcome) :=
      flushBatches settings deadline byTask script batches { b with events := [] }
    (t,{ outcome with
      undeliverable := oversized
      ending :=
        match outcome.ending with
        | .finished delivered => .finished (delivered && oversized.isEmpty)
        | .cancelled => .cancelled })

/-- The task of a deferred flush, past its wait: one flush, and the next one armed when
events were sent meanwhile. The task is over afterwards, or replaced by the one it armed. -/
def deferredFlush (bytes : WorkerEventEnvelope → ℕ) (script : ℕ → ℕ → Attempt) (b : BatchState) :
    BatchState × FlushOutcome :=
  let (t,outcome) := flushLocked settings none bytes true script b
  let t :=
    if outcome.ending ≠ .cancelled ∧ ¬ t.events.isEmpty then
      scheduleFlush t settings.ipcFlushInterval true
    else t
  ({ t with flushTask := if t.flushTask = some .running then none else t.flushTask },outcome)

def clientCloseAllowance : ℕ := 100

/-- The end of a bridge whose pending flush, if it had one, was cancelled: when that flush has
ended in time, one more flush, and whether every event was relayed. -/
def close (bytes : WorkerEventEnvelope → ℕ) (pendingJoined clientClosed : Bool) (now : ℕ)
    (script : ℕ → ℕ → Attempt) (b : BatchState) : BatchState × FlushOutcome × Bool :=
  let b := { b with closing := true, flushTask := none }
  let flushDeadline := deadline.map fun due => max now (due - clientCloseAllowance)
  let (t,outcome) :=
    if pendingJoined then flushLocked settings flushDeadline bytes false script b
    else (b,{ ending := .finished false })
  (t,outcome,decide (outcome.ending = .finished true) && clientClosed)

end

/-- The numbers of the buffered envelopes, and that of the next one. -/
def ids (b : BatchState) : List ℕ := b.events.map WorkerEventEnvelope.id ++ [b.made]

/-- A buffer of envelopes made one after another, all of them since `n` were. -/
structure Since (n : ℕ) (b : BatchState) : Prop where
  sorted : (ids b).Pairwise (· < ·)
  fresh : ∀ i ∈ ids b, n ≤ i

variable {u : BatchState}

section
variable {settings : IpcSettings} {deadline : Option ℕ} {b t : BatchState} {n : ℕ}
variable {batch : List WorkerEventEnvelope}

lemma mem_ids (h : e ∈ b.events) : e.id ∈ ids b := mem_append_left _ (mem_map_of_mem h)

lemma Since.below (h : Since n b) (he : e ∈ b.events) : e.id < b.made :=
  (pairwise_append.1 h.sorted).2.2 _ (mem_map_of_mem he) _ (mem_singleton_self _)

lemma Since.of_sublist (h : Since n u) (hs : t.events.Sublist u.events) (hm : t.made = u.made) :
    Since n t := by
  have hi : (ids t).Sublist (ids u) := by
    rw [ids,hm]
    exact (hs.map _).append_right _
  exact ⟨h.sorted.sublist hi,fun i hm => h.fresh i (hi.mem hm)⟩

lemma Since.of_buffer (h : Since n b) (hev : t.events = b.events) (hm : t.made = b.made) :
    Since n t :=
  h.of_sublist (hev ▸ .refl _) hm

lemma scheduleFlush_buffer (b : BatchState) (de : ℕ) (bt : Bool) :
    (scheduleFlush b de bt).events = b.events ∧ (scheduleFlush b de bt).made = b.made := by
  unfold scheduleFlush
  split
  · exact ⟨rfl,rfl⟩
  split
  · exact ⟨rfl,rfl⟩
  · split <;> exact ⟨rfl,rfl⟩
  · exact ⟨rfl,rfl⟩

lemma Since.push (h : Since n b) (hev : t.events = b.events ++ [e]) (he : e.id = b.made)
    (hm : t.made = b.made + 1) : Since n t := by
  have hi : ids t = ids b ++ [b.made + 1] := by simp [ids,hev,he,hm]
  have hle : ∀ i ∈ ids b, i ≤ b.made := by
    simp only [ids,forall_mem_append,forall_mem_map,forall_mem_singleton]
    exact ⟨fun e he => (h.below he).le,le_refl _⟩
  constructor
  · rw [hi,pairwise_append]
    refine ⟨h.sorted,pairwise_singleton _ _,fun i hm j hj => ?_⟩
    rw [mem_singleton.1 hj]
    exact Nat.lt_succ_of_le (hle i hm)
  · rw [hi,forall_mem_append,forall_mem_singleton]
    exact ⟨h.fresh,(h.fresh b.made (by simp [ids])).trans (Nat.le_succ _)⟩

lemma Since.send (h : Since n b) (se : Sent) : Since n (sendEvent settings b se) := by
  have hp : Since n { b with
      events := b.events ++ [⟨b.made,se.threadId,se.payload⟩], made := b.made + 1 } :=
    h.push rfl rfl rfl
  unfold sendEvent
  refine hp.of_sublist ?_ (scheduleFlush_buffer _ _ _).2
  rw [(scheduleFlush_buffer _ _ _).1]
  refine List.Sublist.append_right ?_ _
  split_ifs
  · cases hp : popOldestDroppable isProtectedEntry b.events with
    | none => exact .refl _
    | some po => exact (popOldestDroppable_perm hp).1
  · exact .refl _

lemma Since.sends (h : Since n b) (settings : IpcSettings) (se : List Sent) :
    Since n (se.foldl (sendEvent settings) b) := by
  induction se generalizing b with
  | nil => exact h
  | cons e r ih => exact ih (h.send e)

lemma Since.cleared (b : BatchState) : Since b.made { b with events := [] } :=
  ⟨pairwise_singleton _ _,by simp [ids]⟩

lemma Since.put_back (h : Since 0 b) (hu : Since b.made u)
    (ht : ta.Sublist b.events) : Since 0 { u with events := ta ++ u.events } := by
  have hi : ids { u with events := ta ++ u.events } = ta.map WorkerEventEnvelope.id ++ ids u := by
    simp [ids]
  refine ⟨?_,fun _ _ => Nat.zero_le _⟩
  rw [hi,pairwise_append]
  refine ⟨h.sorted.sublist ((ht.map _).trans (sublist_append_left _ _)),hu.sorted,?_⟩
  intro a ha c hc
  obtain ⟨e,he,rfl⟩ := mem_map.1 ha
  exact (h.below (ht.mem he)).trans_le (hu.fresh c hc)

/-- What the delivery of a batch comes to; neither the batch nor the buffer has a part in it. -/
def deliveryOf (settings : IpcSettings) (deadline : Option ℕ) (attempts : ℕ → Attempt) :
    Delivery :=
  (deliverBatch settings deadline [] attempts settings.ipcMaxFlushRetries 0 {}).2

lemma deliverBatch_snd (att : ℕ → Attempt) (l i : ℕ)
    (batch ba : List WorkerEventEnvelope) (b b' : BatchState) :
    (deliverBatch settings deadline batch att l i b).2 =
      (deliverBatch settings deadline ba att l i b').2 := by
  induction l generalizing i b b' with
  | zero => rfl
  | succ l ih =>
    unfold deliverBatch sendBatchOnce
    dsimp only
    split
    · rfl
    cases (att i).post with
    | accepted => rfl
    | cancelled => rfl
    | refused =>
      unfold waitForFlushRetry
      dsimp only
      split_ifs
      · rfl
      · rfl
      · exact ih _ _ _
      · rfl

/-- A delivery leaves in the buffer what was sent since it began, behind its batch when it
was cancelled. -/
def Leaves (n : ℕ) (batch : List WorkerEventEnvelope) (result : BatchState × Delivery) : Prop :=
  ∃ u, Since n u ∧
    result.1 = if result.2 = .cancelled then { u with events := batch ++ u.events } else u

variable (settings deadline batch) in
lemma deliverBatch_leaves (att : ℕ → Attempt) (l i : ℕ) (h : Since n b) :
    Leaves n batch (deliverBatch settings deadline batch att l i b) := by
  induction l generalizing i b with
  | zero => exact ⟨b,h,rfl⟩
  | succ l ih =>
    have hp := h.sends settings (att i).whilePosting
    have hs := hp.sends settings (att i).whileSleeping
    unfold deliverBatch sendBatchOnce
    dsimp only
    split
    · exact ⟨b,h,rfl⟩
    cases (att i).post with
    | accepted => exact ⟨_,hp,rfl⟩
    | cancelled => exact ⟨_,hp,rfl⟩
    | refused =>
      unfold waitForFlushRetry
      dsimp only
      split_ifs
      · exact ⟨_,hp,rfl⟩
      · exact ⟨_,hp,rfl⟩
      · exact ih _ hs
      · exact ⟨_,hs,rfl⟩

variable (settings deadline) in
lemma deliverBatch_spec (batch : List WorkerEventEnvelope) (att : ℕ → Attempt) (h : Since n b) :
    ∃ u, Since n u ∧ deliverBatch settings deadline batch att settings.ipcMaxFlushRetries 0 b =
        (if deliveryOf settings deadline att = .cancelled then
            { u with events := batch ++ u.events }
          else u,
          deliveryOf settings deadline att) := by
  have hre : (deliverBatch settings deadline batch att settings.ipcMaxFlushRetries 0 b).2 =
      deliveryOf settings deadline att := deliverBatch_snd att _ 0 batch [] b {}
  obtain ⟨u,hu,hb⟩ := deliverBatch_leaves settings deadline batch att settings.ipcMaxFlushRetries 0 h
  rw [hre] at hb
  exact ⟨u,hu,Prod.ext hb hre⟩

lemma dropOldest_sublist (k : ℕ) (events : List WorkerEventEnvelope) :
    (dropOldest k events).1.Sublist events := by
  induction k generalizing events with
  | zero => exact .refl _
  | succ k ih =>
    unfold dropOldest
    cases hpo : popOldestDroppable isProtectedEntry events with
    | none => exact .refl _
    | some po => exact (ih po.2).trans (popOldestDroppable_perm hpo).1

variable (settings) in
lemma requeueFailedBatch_kept (bt : Bool) (batch : List WorkerEventEnvelope) (b : BatchState) :
    (requeueFailedBatch settings bt batch b).1.made = b.made ∧
      (requeueFailedBatch settings bt batch b).1.events.Sublist (batch ++ b.events) := by
  unfold requeueFailedBatch
  dsimp only
  split_ifs with hem
  · exact ⟨rfl,dropOldest_sublist _ _⟩
  · rw [(scheduleFlush_buffer _ _ _).1,(scheduleFlush_buffer _ _ _).2]
    exact ⟨rfl,dropOldest_sublist _ _⟩

/-- The flush of `size` batches is cancelled in batch `k`, during a post or a back-off. -/
structure CancelledIn (settings : IpcSettings) (deadline : Option ℕ) (script : ℕ → ℕ → Attempt)
    (size k : ℕ) : Prop where
  inside : k < size
  before : ∀ j < k, deliveryOf settings deadline (script j) = .delivered
  here : deliveryOf settings deadline (script k) = .cancelled

/-- How the batches of a flush end. What is left in the buffer was taken by the flush or sent
since, in that order; a flush that is cancelled has put back the batch in hand. -/
inductive Flushed (settings : IpcSettings) (deadline : Option ℕ) (script : ℕ → ℕ → Attempt)
    (batches : List (List WorkerEventEnvelope)) (n : ℕ) : BatchState × FlushOutcome → Prop
  | finished {t u : BatchState} {outcome : FlushOutcome} {delivered : Bool} (since : Since n u)
      (made : t.made = u.made) (kept : t.events.Sublist (batches.flatten ++ u.events))
      (ending : outcome.ending = .finished delivered) :
      Flushed settings deadline script batches n (t,outcome)
  | cancelled {u : BatchState} {k : ℕ} (since : Since n u)
      (here : CancelledIn settings deadline script batches.length k) :
      Flushed settings deadline script batches n
        ({ u with events := batches.get ⟨k,here.inside⟩ ++ u.events },
          { posted := (batches.take k).flatten, ending := .cancelled })

variable {sc : ℕ → ℕ → Attempt} {k : ℕ}

lemma CancelledIn.behind (hd : deliveryOf settings deadline (sc 0) = .delivered)
    (h : CancelledIn settings deadline (fun j => sc (j + 1)) bs.length k) :
    CancelledIn settings deadline sc (batch :: bs).length (k + 1) := by
  refine ⟨Nat.succ_lt_succ h.inside,fun j hj => ?_,h.here⟩
  cases j with
  | zero => exact hd
  | succ j => exact h.before j (Nat.lt_of_succ_lt_succ hj)

variable (settings deadline) in
lemma flushBatches_flushed (bt : Bool) (sc : ℕ → ℕ → Attempt)
    (bs : List (List WorkerEventEnvelope)) (h : Since n b) :
    Flushed settings deadline sc bs n (flushBatches settings deadline bt sc bs b) := by
  induction bs generalizing sc b with
  | nil => exact .finished h rfl (.refl _) rfl
  | cons batch r ih =>
    obtain ⟨u,hu,hd⟩ := deliverBatch_spec settings deadline batch (sc 0) h
    unfold flushBatches
    rw [hd]
    cases hof : deliveryOf settings deadline (sc 0) with
    | failed =>
      obtain ⟨hm,hs⟩ := requeueFailedBatch_kept settings bt (batch :: r).flatten u
      exact .finished hu hm hs rfl
    | cancelled => exact .cancelled hu ⟨Nat.succ_pos _,fun _ hj => absurd hj (Nat.not_lt_zero _),hof⟩
    | delivered =>
      have hr := ih (fun k => sc (k + 1)) hu
      simp only [reduceCtorEq,if_false]
      generalize flushBatches settings deadline bt _ r u = result at hr ⊢
      cases hr with
      | finished hv hm hs he =>
        refine .finished hv hm (hs.trans ?_) he
        rw [flatten_cons,append_assoc]
        exact sublist_append_right _ _
      | cancelled hv hc => exact .cancelled hv (hc.behind hof)

lemma Flushed.kept
    (h : Flushed settings deadline sc bs n result) : ∃ u, Since n u ∧ result.1.made = u.made ∧
      result.1.events.Sublist (bs.flatten ++ u.events) := by
  cases h with
  | finished hu hm hs _ => exact ⟨_,hu,hm,hs⟩
  | cancelled hu hc =>
    exact ⟨_,hu,rfl,(sublist_flatten_of_mem (get_mem _ _)).append_right _⟩

variable {bytes : WorkerEventEnvelope → ℕ}

lemma split_sublist (li : ℕ) (events : List WorkerEventEnvelope) :
    (splitIntoDeliverableBatches bytes li events).1.flatten.Sublist events := by
  rw [split_flatten]
  exact filter_sublist

variable (settings deadline bytes) in
lemma flushLocked_since (bt : Bool) (sc : ℕ → ℕ → Attempt) (h : Since 0 b) :
    Since 0 (flushLocked settings deadline bytes bt sc b).1 := by
  unfold flushLocked
  split_ifs
  · exact h
  · obtain ⟨u,hu,hm,hs⟩ := (flushBatches_flushed settings deadline bt sc
      (splitIntoDeliverableBatches bytes settings.internalMaxEventBatchBytes b.events).1
      (Since.cleared b)).kept
    exact (h.put_back hu (.refl _)).of_sublist (hs.trans ((split_sublist _ _).append_right _)) hm

/-- Every event buffered before is delivered, buffered in the old order, or reported. -/
structure Accounted (b t : BatchState) (outcome : FlushOutcome) : Prop where
  none_lost : ∀ event ∈ b.events,
    event ∈ outcome.posted ∨ event ∈ t.events ∨ event ∈ outcome.undeliverable
  in_order : (t.events.filter fun event => event.id < b.made).Sublist b.events

abbrev batchesOf (settings : IpcSettings) (bytes : WorkerEventEnvelope → ℕ) (b : BatchState) :
    List (List WorkerEventEnvelope) :=
  (splitIntoDeliverableBatches bytes settings.internalMaxEventBatchBytes b.events).1

/-- A flush cut short in a batch: the batches before are posted, and the batch in hand stands
before what was sent since. -/
structure CutShort (settings : IpcSettings) (bytes : WorkerEventEnvelope → ℕ) (b t : BatchState)
    (outcome : FlushOutcome) (k : ℕ) : Prop where
  inside : k < (batchesOf settings bytes b).length
  buffer : ∃ u, Since b.made u ∧
    t.events = (batchesOf settings bytes b).get ⟨k,inside⟩ ++ u.events
  posted : outcome.posted = ((batchesOf settings bytes b).take k).flatten
  undeliverable : outcome.undeliverable =
    b.events.filter fun event => !fits bytes settings.internalMaxEventBatchBytes event

lemma flushLocked_cutShort
    (h : (flushLocked settings deadline bytes bt sc b).2.ending = .cancelled) :
    ∃ k, CancelledIn settings deadline sc (batchesOf settings bytes b).length k ∧
      CutShort settings bytes b (flushLocked settings deadline bytes bt sc b).1
        (flushLocked settings deadline bytes bt sc b).2 k := by
  unfold flushLocked at h ⊢
  split_ifs at h ⊢
  dsimp only at h ⊢
  have hf := flushBatches_flushed settings deadline bt sc (batchesOf settings bytes b)
    (Since.cleared b)
  generalize flushBatches settings deadline bt sc _ _ = result at hf h ⊢
  cases hf with
  | finished _ _ _ he =>
    rw [he] at h
    cases h
  | cancelled hu hc => exact ⟨_,hc,hc.inside,⟨_,hu,rfl⟩,rfl,split_oversized _ _⟩

lemma flatten_cut {α : Type*} (bs : List (List α)) (hk : k < bs.length) :
    bs.flatten = ((bs.take k).flatten ++ bs.get ⟨k,hk⟩) ++ (bs.drop (k + 1)).flatten := by
  calc bs.flatten = (bs.take k ++ bs.drop k).flatten := by
        rw [take_append_drop]
    _ = (bs.take k).flatten ++ (bs.drop k).flatten := flatten_append
    _ = _ := by
        rw [drop_eq_getElem_cons hk,flatten_cons,append_assoc]
        rfl

lemma CutShort.loses (h : CutShort settings bytes b t oc k) (hb : Since 0 b) (hev : e ∈ b.events) :
    ¬ (e ∈ oc.posted ∨ e ∈ t.events ∨ e ∈ oc.undeliverable) ↔
      e ∈ ((batchesOf settings bytes b).drop (k + 1)).flatten := by
  obtain ⟨u,hu,hbu⟩ := h.buffer
  have hnew : e ∉ u.events := fun hin =>
    absurd (hu.fresh _ (mem_ids hin)) (Nat.not_le.2 (hb.below hev))
  have hf : (batchesOf settings bytes b).flatten = b.events.filter _ := split_flatten _ _
  have hcu := flatten_cut (batchesOf settings bytes b) h.inside
  have hin : fits bytes settings.internalMaxEventBatchBytes e = true ↔
      (e ∈ ((batchesOf settings bytes b).take k).flatten ∨
        e ∈ (batchesOf settings bytes b).get ⟨k,h.inside⟩) ∨
          e ∈ ((batchesOf settings bytes b).drop (k + 1)).flatten := by
    rw [← mem_append,← mem_append,← hcu,hf,mem_filter]
    exact (and_iff_right hev).symm
  -- an event of the batches behind stands in no batch before
  have hn : e ∈ ((batchesOf settings bytes b).drop (k + 1)).flatten →
      ¬ (e ∈ ((batchesOf settings bytes b).take k).flatten ∨
        e ∈ (batchesOf settings bytes b).get ⟨k,h.inside⟩) := by
    intro hbe hk
    have hs : ((batchesOf settings bytes b).flatten.map WorkerEventEnvelope.id).Pairwise (· < ·) :=
      hb.sorted.sublist (((split_sublist _ _).map _).trans (sublist_append_left _ _))
    rw [hcu,map_append,pairwise_append] at hs
    exact lt_irrefl _ (hs.2.2 _ (mem_map_of_mem (mem_append.2 hk)) _ (mem_map_of_mem hbe))
  rw [h.posted,hbu,h.undeliverable,mem_append,mem_filter,Bool.not_eq_true', ← Bool.not_eq_true,hin]
  tauto

lemma CutShort.accounted_iff (h : CutShort settings bytes b t oc k) (hb : Since 0 b) :
    Accounted b t oc ↔ k + 1 = (batchesOf settings bytes b).length := by
  have hi := h.inside
  have hs : (batchesOf settings bytes b).flatten.Sublist b.events := split_sublist _ _
  constructor
  · intro hk
    by_contra hl
    have hn : k + 1 < (batchesOf settings bytes b).length := by omega
    have hba := (split_deliverable _ _ _ (getElem_mem hn)).1
    obtain ⟨e,hev⟩ := exists_mem_of_ne_nil _ hba
    have hbu : e ∈ b.events := hs.mem (mem_flatten_of_mem (getElem_mem hn) hev)
    refine (h.loses hb hbu).2 ?_ (hk.none_lost e hbu)
    rw [drop_eq_getElem_cons hn]
    exact mem_append_left _ hev
  · intro hl
    constructor
    · intro e hev
      by_contra hlo
      have hbe := (h.loses hb hev).1 hlo
      rw [hl,drop_length] at hbe
      cases hbe
    · obtain ⟨u,hu,hbu⟩ := h.buffer
      have hn : u.events.filter (fun e => decide (e.id < b.made)) = [] := by
        refine filter_eq_nil_iff.2 fun e hev => ?_
        simpa using hu.fresh _ (mem_ids hev)
      rw [hbu,filter_append,hn,append_nil]
      exact filter_sublist.trans ((sublist_flatten_of_mem (get_mem _ _)).trans hs)

inductive Call
  | sendEvent (sent : Sent)
  | wake
  | deferredFlush (script : ℕ → ℕ → Attempt)
  | flushEvents (deadline : Option ℕ) (script : ℕ → ℕ → Attempt)
  | close (deadline : Option ℕ) (pendingJoined clientClosed : Bool) (now : ℕ)
      (script : ℕ → ℕ → Attempt)

inductive Moves (settings : IpcSettings) (bytes : WorkerEventEnvelope → ℕ) :
    BatchState → Call → BatchState → Prop
  | sendEvent (b : BatchState) (sent : Sent) :
      Moves settings bytes b (.sendEvent sent) (sendEvent settings b sent)
  | wake {b : BatchState} {delay : ℕ} (h : b.flushTask = some (.waiting delay)) :
      Moves settings bytes b .wake { b with flushTask := some .running }
  | deferredFlush {b : BatchState} (h : b.flushTask = some .running)
      (script : ℕ → ℕ → Attempt) :
      Moves settings bytes b (.deferredFlush script) (deferredFlush settings bytes script b).1
  | flushEvents (b : BatchState) (deadline : Option ℕ) (script : ℕ → ℕ → Attempt) :
      Moves settings bytes b (.flushEvents deadline script)
        (flushLocked settings deadline bytes false script b).1
  | close (b : BatchState) (deadline : Option ℕ) (pendingJoined clientClosed : Bool) (now : ℕ)
      (script : ℕ → ℕ → Attempt) :
      Moves settings bytes b (.close deadline pendingJoined clientClosed now script)
        (close settings deadline bytes pendingJoined clientClosed now script b).1

lemma deferredFlush_since (sc : ℕ → ℕ → Attempt) (h : Since 0 b) :
    Since 0 (deferredFlush settings bytes sc b).1 := by
  have hf := flushLocked_since settings none bytes true sc h
  unfold deferredFlush
  dsimp only
  split
  · have hb := scheduleFlush_buffer (flushLocked settings none bytes true sc b).1
      settings.ipcFlushInterval true
    exact hf.of_buffer hb.1 hb.2
  · exact hf.of_buffer rfl rfl

lemma move_since {call : Call} (h : Since 0 b) (hm : Moves settings bytes b call t) :
    Since 0 t := by
  cases hm with
  | sendEvent se => exact h.send se
  | wake _ => exact h.of_buffer rfl rfl
  | deferredFlush _ sc => exact deferredFlush_since sc h
  | flushEvents deadline sc => exact flushLocked_since settings deadline bytes false sc h
  | close deadline pj cc now sc =>
    unfold close
    dsimp only
    split
    · exact flushLocked_since settings _ bytes false sc (h.of_buffer rfl rfl)
    · exact h.of_buffer rfl rfl

/-- A flush that ends cancelled was cancelled in one of its batches. The events it took are
all accounted for exactly when that was the last batch. -/
theorem cancelled_flush_keeps_iff {calls : List Call}
    (hrun : Run (Moves settings bytes) {} calls b) (deadline : Option ℕ) (byTask : Bool)
    (script : ℕ → ℕ → Attempt)
    (hcancelled : (flushLocked settings deadline bytes byTask script b).2.ending = .cancelled) :
    ∃ k, CancelledIn settings deadline script (batchesOf settings bytes b).length k ∧
      (Accounted b (flushLocked settings deadline bytes byTask script b).1
          (flushLocked settings deadline bytes byTask script b).2 ↔
        k + 1 = (batchesOf settings bytes b).length) := by
  have hs : Since 0 b := hrun.invariant (Since 0) move_since (Since.cleared {})
  obtain ⟨k,hc,hcut⟩ := flushLocked_cutShort hcancelled
  exact ⟨k,hc,hcut.accounted_iff hs⟩

end

/-! Two events of ten bytes under a limit of thirty: each is a batch of its own. -/

def smallBatches : IpcSettings := { internalMaxEventBatchBytes := 30 }

def tenBytes : WorkerEventEnvelope → ℕ := fun _ => 10

def progress : Sent := ⟨"run",.dict []⟩

def twoBuffered : BatchState := sendEvent smallBatches (sendEvent smallBatches {} progress) progress

def cancelSecond : ℕ → ℕ → Attempt :=
  fun k _ => if k = 0 then { post := .accepted } else { post := .cancelled }

def cancelFirst : ℕ → ℕ → Attempt := fun _ _ => { post := .cancelled }

def acceptAll : ℕ → ℕ → Attempt := fun _ _ => { post := .accepted }

lemma twoBuffered_run :
    Run (Moves smallBatches tenBytes) {} [.sendEvent progress,.sendEvent progress] twoBuffered :=
  .step (.sendEvent _ _) (.single (.sendEvent _ _))

/-- Cancelled in the second batch of two, a flush loses nothing. -/
theorem cancelled_in_last_batch :
    Accounted twoBuffered (flushLocked smallBatches none tenBytes false cancelSecond twoBuffered).1
      (flushLocked smallBatches none tenBytes false cancelSecond twoBuffered).2 := by
  obtain ⟨k,hc,hi⟩ := cancelled_flush_keeps_iff twoBuffered_run none false cancelSecond
    (by decide +kernel)
  refine hi.2 ?_
  have hs : (batchesOf smallBatches tenBytes twoBuffered).length = 2 := by decide +kernel
  have hin := hc.inside
  cases k with
  | zero => exact absurd hc.here (by decide +kernel)
  | succ k => omega

/-- Cancelled in the first batch by a bridge that closes, a flush loses the second event: the
last flush relays the first one and the bridge reports that every event was relayed. -/
theorem cancelled_flush_loses_second :
    let b := twoBuffered
    let (t,outcome) := flushLocked smallBatches none tenBytes true cancelFirst b
    let (u,final,relayed) := close smallBatches none tenBytes true true 0 acceptAll t
    b.events.map WorkerEventEnvelope.id = [0,1] ∧ outcome.ending = .cancelled ∧
      t.events.map WorkerEventEnvelope.id = [0] ∧ outcome.posted.isEmpty ∧
      outcome.undeliverable.isEmpty ∧ final.posted.map WorkerEventEnvelope.id = [0] ∧
      u.events.isEmpty ∧ relayed = true ∧ ¬ Accounted b t outcome := by
  refine ⟨rfl,rfl,rfl,rfl,rfl,rfl,rfl,rfl,fun h => ?_⟩
  have hi : ∀ event ∈ twoBuffered.events, event.id ∈
      (flushLocked smallBatches none tenBytes true cancelFirst twoBuffered).1.events.map
        WorkerEventEnvelope.id := by
    intro event hev
    rcases h.none_lost event hev with hp | hk | hl
    · cases hp
    · exact mem_map_of_mem hk
    · cases hl
  have hs := hi ⟨1,"run",.dict []⟩ (.tail _ (.head _))
  exact absurd hs (by decide +kernel)

end VaultspecA2A.WorkerBridge
