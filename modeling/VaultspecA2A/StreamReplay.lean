import VaultspecA2A.ThreadStream
import Mathlib.Data.List.Sort

/-!
# Resuming a run's stream

The numbered frames of a run are kept for viewers that come back: first in a ring in memory,
then, in batches behind the fan-out, in rows of which the newest are kept. A frame can be lost
on the way: the recorder fails, the ring overflows or is given up for other runs, a flush
fails, rows are trimmed or damaged.

A viewer that comes back names the number after which it wants to go on. It is put on the list
of subscribers, then the rows and the ring are read, and what was found is served from the
newest gap on, behind a notice when it does not continue from the viewer's number. When nothing
was found the highest retained number is read and the viewer's number is held against that.
After the replay the live loop goes on with the frames that were queued in the meantime.

The log below is that of one run with one such viewer. Frames are numbered and fanned out in
one step, and the viewer's queue has room. Reads of the database and of the ring are steps of
their own, so that relays and flushes come between them.
-/
namespace VaultspecA2A.StreamReplay
open Runs PyValue RelayHub ThreadStream List

structure RunEventRecord where
  sequence : ℕ
  eventType : String
  /-- What the stored text decodes to. -/
  payload : Option Value

structure Settings where
  streamReplayEnabled : Bool := true
  streamReplayWindowEvents : ℕ := 2000
  ringCapacity : ℕ := 512

structure RunLog where
  /-- The number of the newest frame. -/
  issued : ℕ := 0
  ring : List RunEventRecord := []
  flushedThrough : ℕ := 0
  /-- The batch that is being written. -/
  flushing : Option (List RunEventRecord) := none
  /-- The rows of the run in the order of their numbers. -/
  rows : List RunEventRecord := []

def setDefault (merged : List RunEventRecord) (record : RunEventRecord) : List RunEventRecord :=
  if merged.any fun other => other.sequence == record.sequence then merged else merged ++ [record]

def sortRecords (records : List RunEventRecord) : List RunEventRecord :=
  records.insertionSort fun first second => first.sequence ≤ second.sequence

def recordedEventType (body : Value) : String :=
  let named (key : String) := (body.getStr key).filter fun text => text ≠ ""
  ((named "type").or (named "event_type")).getD ""

section
variable (settings : Settings)

def record (log : RunLog) (held : RunEventRecord) : RunLog :=
  let ring := log.ring ++ [held]
  { log with ring := ring.drop (ring.length - settings.ringCapacity) }

/-- Insert what the table does not have and keep the newest rows. -/
def append (rows batch : List RunEventRecord) : List RunEventRecord :=
  let rows := sortRecords (batch.foldl setDefault rows)
  rows.drop (rows.length - settings.streamReplayWindowEvents)

def flushBegins (log : RunLog) : RunLog :=
  let batch := log.ring.filter fun held => log.flushedThrough < held.sequence
  if log.flushing.isSome || batch.isEmpty then log else { log with flushing := some batch }

def flushEnds (log : RunLog) (written : Bool) : RunLog :=
  match log.flushing with
  | none => log
  | some batch =>
    if written then
      { log with
        flushing := none
        rows := append settings log.rows batch
        flushedThrough := (batch.map RunEventRecord.sequence).foldl max 0 }
    else { log with flushing := none }

def evict (log : RunLog) : RunLog := { log with ring := [], flushedThrough := 0 }

def expire (log : RunLog) (count : ℕ) : RunLog := { log with rows := log.rows.drop count }

def damage (log : RunLog) (sequence : ℕ) : RunLog :=
  { log with
    rows := log.rows.map fun row =>
      if row.sequence = sequence then { row with payload := none } else row }

def relay (log : RunLog) (body : Value) (recorded : Bool) : RunLog × Value :=
  let sequence := log.issued + 1
  let frame := stampSequence body sequence
  let log := { log with issued := sequence }
  (if recorded then record settings log ⟨sequence,recordedEventType frame,some frame⟩ else log,
    frame)

inductive GapReason
  | replayWindowExceeded
  | replayUnavailable
deriving DecidableEq, Repr

structure ResumePosition where
  afterSequence : ℕ
  fromWindowStart : Bool := false
deriving DecidableEq, Repr

structure ReplayFrame where
  sequence : ℕ
  eventType : String
  body : Value

def decoded (held : RunEventRecord) : Option ReplayFrame :=
  match held.payload with
  | some body => if body.isDict then some ⟨held.sequence,held.eventType,body⟩ else none
  | none => none

def readAfter (rows : List RunEventRecord) (afterSequence limit : ℕ) : List RunEventRecord :=
  (rows.filter fun row => afterSequence < row.sequence).take limit

def retainedAfter (rows ring : List RunEventRecord) (afterSequence : ℕ) : List ReplayFrame :=
  (sortRecords ((ring.filter fun held => afterSequence < held.sequence).foldl setDefault
    rows)).filterMap decoded

structure ReplayWindow where
  frames : List ReplayFrame
  gapReason : Option GapReason := none
  firstSequence : Option ℕ := none
  dedupFloor : ℕ := 0

def tailFrom (frames : List ReplayFrame) : ℕ → List ReplayFrame
  | 0 => frames
  | index + 1 =>
    if frames[index + 1]?.map ReplayFrame.sequence ≠
        frames[index]?.map fun frame => frame.sequence + 1 then
      frames.drop (index + 1)
    else tailFrom frames index

def contiguousTail (frames : List ReplayFrame) : List ReplayFrame :=
  tailFrom frames (frames.length - 1)

def replayWindow (frames : List ReplayFrame) (resume : ResumePosition) : ReplayWindow :=
  let served := contiguousTail frames
  let first := served.head?.map ReplayFrame.sequence
  let complete :=
    if resume.fromWindowStart then served.length == frames.length
    else first == some (resume.afterSequence + 1)
  if complete then { frames := served, dedupFloor := resume.afterSequence }
  else ⟨served,some .replayWindowExceeded,first,resume.afterSequence⟩

def unavailableWindow : ReplayWindow := { frames := [], gapReason := some .replayUnavailable }

def highWaterMark (rows : List RunEventRecord) : Option ℕ := (rows.map RunEventRecord.sequence).max?

def emptyReplayWindow (retained : Option ℕ) (ring : List RunEventRecord)
    (resume : ResumePosition) : ReplayWindow :=
  match (ring.map RunEventRecord.sequence ++ retained.toList).max? with
  | none => unavailableWindow
  | some mark =>
    if mark < resume.afterSequence then
      { frames := [], gapReason := some .replayUnavailable, dedupFloor := mark }
    else { frames := [], dedupFloor := min resume.afterSequence mark }

inductive Emitted
  | progressDropped (reason : GapReason) (firstSequence : Option ℕ)
  | replayed (frame : ReplayFrame)
  | live (payload : Value) (sequence : Option ℕ)
  /-- The terminal frame of a run that had ended when the viewer came. -/
  | settled

inductive Stage
  | reading
  | merging (rows : List RunEventRecord)
  | marking
  | marked (retained : Option ℕ)
  | live
  | ended

structure Connection where
  resume : ResumePosition
  /-- Whether the run had ended when the viewer came. -/
  terminal : Bool
  /-- The number of the newest frame when the viewer came. -/
  subscribedAt : ℕ
  stage : Stage := .reading
  viewer : Viewer := {}
  queue : List Value := []
  emitted : List Emitted := []

def servedFrames (window : ReplayWindow) : List ReplayFrame :=
  through (fun frame => frame.eventType == Fanout.threadTerminal) window.frames

def replayed (connection : Connection) (window : ReplayWindow) : Connection :=
  let served := servedFrames window
  let closed := served.any fun frame => frame.eventType == Fanout.threadTerminal
  let notice := window.gapReason.map fun reason =>
    Emitted.progressDropped reason window.firstSequence
  { connection with
    stage := if closed || connection.terminal then .ended else .live
    viewer :=
      { highestEmitted := ((served.map ReplayFrame.sequence).getLast?).getD window.dedupFloor
        closed }
    emitted := notice.toList ++ served.map .replayed ++
      if !closed && connection.terminal then [.settled] else [] }

def takes (connection : Connection) : Connection :=
  match connection.stage, connection.queue with
  | .live, item :: queue =>
    if connection.viewer.closed then connection
    else
      let (viewer,emitted) := liveFrame settings.streamReplayEnabled connection.viewer item
      let sequence := if settings.streamReplayEnabled then retainedSequence item else none
      { connection with
        viewer
        queue
        emitted := connection.emitted ++ (emitted.map fun frame => .live frame sequence).toList }
  | _, _ => connection

def readsRows (log : RunLog) (connection : Connection) (answered : Bool) : Connection :=
  match connection.stage with
  | .reading =>
    if settings.streamReplayEnabled && answered then
      { connection with
        stage := .merging (readAfter log.rows connection.resume.afterSequence
          settings.streamReplayWindowEvents) }
    else replayed connection unavailableWindow
  | _ => connection

/-- The ring is read and the window served, unless it is empty. -/
def merges (log : RunLog) (connection : Connection) : Connection :=
  match connection.stage with
  | .merging rows =>
    match retainedAfter rows log.ring connection.resume.afterSequence with
    | [] => { connection with stage := .marking }
    | frame :: frames =>
      replayed connection (replayWindow (frame :: frames) connection.resume)
  | _ => connection

def readsMark (log : RunLog) (connection : Connection) (answered : Bool) : Connection :=
  match connection.stage with
  | .marking =>
    if answered then { connection with stage := .marked (highWaterMark log.rows) }
    else replayed connection unavailableWindow
  | _ => connection

def classifies (log : RunLog) (connection : Connection) : Connection :=
  match connection.stage with
  | .marked retained => replayed connection (emptyReplayWindow retained log.ring connection.resume)
  | _ => connection

structure Replay where
  log : RunLog := {}
  connection : Option Connection := none

inductive Event
  | relay (body : Value) (recorded : Bool)
  | flushBegins
  | flushEnds (written : Bool)
  | evict
  | expire (count : ℕ)
  | damage (sequence : ℕ)
  | connects (resume : ResumePosition) (terminal : Bool)
  | readsRows (answered : Bool)
  | merges
  | readsMark (answered : Bool)
  | classifies
  | takes

def enqueue (connection : Connection) (frame : Value) : Connection :=
  { connection with queue := connection.queue ++ [frame] }

def step (s : Replay) : Event → Replay
  | .relay body recorded =>
    let (log,frame) := relay settings s.log body recorded
    ⟨log,s.connection.map fun connection => enqueue connection frame⟩
  | .flushBegins => { s with log := flushBegins s.log }
  | .flushEnds written => { s with log := flushEnds settings s.log written }
  | .evict => { s with log := evict s.log }
  | .expire count => { s with log := expire s.log count }
  | .damage sequence => { s with log := damage s.log sequence }
  | .connects resume terminal =>
    { s with connection := some { resume, terminal, subscribedAt := s.log.issued } }
  | .readsRows answered =>
    { s with connection := s.connection.map fun connection =>
        readsRows settings s.log connection answered }
  | .merges => { s with connection := s.connection.map (merges s.log) }
  | .readsMark answered =>
    { s with connection := s.connection.map fun connection =>
        readsMark s.log connection answered }
  | .classifies => { s with connection := s.connection.map (classifies s.log) }
  | .takes => { s with connection := s.connection.map (takes settings) }

/-- Relayed payloads are mappings, and there is one viewer. -/
def Moves (s : Replay) (event : Event) (s' : Replay) : Prop := (match event with
    | .relay body _ => body.isDict = true
    | .connects _ _ => s.connection = none
    | _ => True) ∧ s' = step settings s event

end

/-- Records in the order of their numbers, with no number twice. -/
def Ordered (rows : List RunEventRecord) : Prop :=
  rows.Pairwise fun first second => first.sequence < second.sequence

instance (rows : List RunEventRecord) : Decidable (Ordered rows) :=
  inferInstanceAs (Decidable (List.Pairwise _ rows))

lemma sortRecords_perm (re : List RunEventRecord) : (sortRecords re).Perm re :=
  perm_insertionSort _ _

lemma sortRecords_ordered (hn : (ro.map RunEventRecord.sequence).Nodup) :
    Ordered (sortRecords ro) := by
  have hle : (sortRecords ro).Pairwise fun first second => first.sequence ≤ second.sequence :=
    pairwise_insertionSort (fun first second : RunEventRecord =>
      first.sequence ≤ second.sequence) ro
  have hne : (sortRecords ro).Pairwise fun first second => first.sequence ≠ second.sequence := by
    have hm := ((sortRecords_perm ro).map RunEventRecord.sequence).nodup_iff.2 hn
    exact pairwise_map.1 hm
  exact (hle.and hne).imp fun h => lt_of_le_of_ne h.1 h.2

lemma Ordered.nodup (h : Ordered ro) : (ro.map RunEventRecord.sequence).Nodup :=
  pairwise_map.2 (h.imp Nat.ne_of_lt)

def Emitted.number : Emitted → Option ℕ
  | .replayed frame => some frame.sequence
  | .live _ sequence => sequence
  | _ => none

def Emitted.liveNumber : Emitted → Option ℕ
  | .live _ sequence => sequence
  | _ => none

def Emitted.replayedNumber : Emitted → Option ℕ
  | .replayed frame => some frame.sequence
  | _ => none

namespace Connection
variable (connection : Connection)

def numbers : List ℕ := connection.emitted.filterMap Emitted.number

def liveNumbers : List ℕ := connection.emitted.filterMap Emitted.liveNumber

def replayedNumbers : List ℕ := connection.emitted.filterMap Emitted.replayedNumber

/-- The connection begins with a notice of a gap. -/
def Noticed : Prop := ∃ reason first rest,
  connection.emitted = .progressDropped reason first :: rest

/-- The last number served by the replay, or else the one the viewer came with. -/
def reached : ℕ := connection.replayedNumbers.getLast?.getD connection.resume.afterSequence

/-- A notice of a gap comes first, or the numbers go on from the viewer's without a gap. -/
def Honest : Prop := connection.Noticed ∨ connection.numbers =
    List.range' (connection.resume.afterSequence + 1) connection.numbers.length

end Connection

/-- The numbers of the frames count up from `start`. -/
def CountsFrom (start : ℕ) (frames : List ReplayFrame) : Prop :=
  frames.map ReplayFrame.sequence = List.range' start frames.length

lemma countsFrom_cons :
    CountsFrom start (fm :: fr) ↔ fm.sequence = start ∧ CountsFrom (start + 1) fr := by
  unfold CountsFrom
  rw [map_cons,length_cons,List.range'_succ,List.cons.injEq]

lemma CountsFrom.through (p : ReplayFrame → Bool) (h : CountsFrom start fr) :
    CountsFrom start (through p fr) := by
  induction fr generalizing start with
  | nil => exact h
  | cons fm fr ih =>
    obtain ⟨hf,hre⟩ := countsFrom_cons.1 h
    rw [ThreadStream.through]
    split_ifs
    · exact countsFrom_cons.2 ⟨hf,rfl⟩
    · exact countsFrom_cons.2 ⟨hf,ih hre⟩

lemma tailFrom_counts (hlt : i < fr.length) (h : ∃ start, CountsFrom start (fr.drop i)) :
    tailFrom fr i ≠ [] ∧ ∃ start, CountsFrom start (tailFrom fr i) := by
  induction i with
  | zero => exact ⟨ne_nil_of_length_pos hlt,h⟩
  | succ i ih =>
    rw [tailFrom]
    split_ifs with hga
    · refine ⟨?_,h⟩
      rw [Ne,drop_eq_nil_iff]
      exact Nat.not_le.2 hlt
    · have hb : i < fr.length := Nat.lt_of_succ_lt hlt
      rw [getElem?_eq_getElem hlt,getElem?_eq_getElem hb,not_not,
        Option.map_some,Option.map_some,Option.some.injEq] at hga
      obtain ⟨start,hs⟩ := h
      rw [drop_eq_getElem_cons hlt,countsFrom_cons] at hs
      refine ih hb ⟨fr[i].sequence,?_⟩
      rw [drop_eq_getElem_cons hb,countsFrom_cons]
      refine ⟨rfl,?_⟩
      rw [drop_eq_getElem_cons hlt,countsFrom_cons,← hga]
      exact ⟨rfl,hs.1 ▸ hs.2⟩

lemma contiguousTail_counts (h : fr ≠ []) :
    contiguousTail fr ≠ [] ∧ ∃ start, CountsFrom start (contiguousTail fr) := by
  have hp := length_pos_iff.2 h
  have hlt : fr.length - 1 < fr.length := Nat.sub_lt hp Nat.one_pos
  refine tailFrom_counts hlt ⟨(fr.get ⟨_,hlt⟩).sequence,?_⟩
  rw [drop_eq_getElem_cons hlt,countsFrom_cons,Nat.sub_add_cancel hp,drop_length]
  exact ⟨rfl,rfl⟩

/-- A window without a notice goes on from the viewer's number. -/
def Complete (window : ReplayWindow) (afterSequence : ℕ) : Prop := window.gapReason = none →
    CountsFrom (afterSequence + 1) window.frames ∧ window.dedupFloor = afterSequence

lemma replayWindow_complete (hfr : fr ≠ []) (hn : re.fromWindowStart = false) :
    Complete (replayWindow fr re) re.afterSequence := by
  obtain ⟨hs,start,hc⟩ := contiguousTail_counts hfr
  unfold replayWindow
  simp only [hn,Bool.false_eq_true,if_false]
  split_ifs with hf
  · intro _
    refine ⟨?_,rfl⟩
    dsimp only
    cases ht : contiguousTail fr with
    | nil => exact (hs ht).elim
    | cons fm r =>
      rw [ht] at hc hf
      rw [head?_cons,Option.map_some,beq_iff_eq,Option.some.injEq] at hf
      rw [← hf,(countsFrom_cons.1 hc).1]
      exact hc
  · intro h
    cases h

lemma unavailableWindow_complete (afs : ℕ) : Complete unavailableWindow afs := fun h => by cases h

/-- A viewer whose number is not above the highest retained one is taken at its word. -/
lemma emptyReplayWindow_complete (rt : Option ℕ) (ri : List RunEventRecord) :
    Complete (emptyReplayWindow rt ri re) re.afterSequence := by
  unfold emptyReplayWindow
  split
  · exact unavailableWindow_complete _
  · split_ifs with ha
    · intro h
      cases h
    · exact fun _ => ⟨rfl,Nat.min_eq_left (Nat.not_lt.1 ha)⟩

/-- The frames on the queue are those relayed after the first `position` ones. -/
structure Waits (issued position : ℕ) (queue : List Value) : Prop where
  le : position ≤ issued
  numbers : queue.map retainedSequence =
    (List.range' (position + 1) (issued - position)).map some
  isDict : ∀ item ∈ queue, item.isDict = true

/-- What was served and taken, in numbers: the replay goes on from the viewer's number, and
the live loop from where the replay ended or, when that lies behind it, from where the viewer
subscribed. -/
structure Going (issued served position : ℕ) (c : Connection) : Prop where
  replayed : c.replayedNumbers = List.range' (c.resume.afterSequence + 1) served
  live : c.liveNumbers = List.range' (max (c.resume.afterSequence + served) c.subscribedAt + 1)
    (position - max (c.resume.afterSequence + served) c.subscribedAt)
  numbers : c.numbers = c.replayedNumbers ++ c.liveNumbers
  since : c.subscribedAt ≤ position
  highest : c.viewer.highestEmitted =
    if position ≤ max (c.resume.afterSequence + served) c.subscribedAt then
      c.resume.afterSequence + served
    else position
  waits : Waits issued position c.queue

section
variable {issued iss served se position pos : ℕ} {c : Connection}

lemma Waits.enqueue (h : Waits iss pos qu) (hd : bo.isDict = true) :
    Waits (iss + 1) pos (qu ++ [stampSequence bo (iss + 1)]) := by
  have hle := h.le
  refine ⟨Nat.le_succ_of_le h.le,?_,?_⟩
  · rw [map_append,h.numbers,map_singleton,Nat.succ_sub h.le,List.range'_1_concat,map_append,
      map_singleton,retainedSequence_of_get (stampSequence_get bo hd _) (Nat.succ_pos iss)]
    congr 3
    omega
  · refine forall_mem_append.2 ⟨h.isDict,forall_mem_singleton.2 ?_⟩
    exact stampSequence_isDict hd _

lemma Waits.take (h : Waits iss pos (x :: qu)) :
    retainedSequence x = some (pos + 1) ∧ x.isDict = true ∧ Waits iss (pos + 1) qu := by
  obtain ⟨hle,hn,hd⟩ := h
  obtain ⟨hi,hq⟩ := forall_mem_cons.1 hd
  cases hc : iss - pos with
  | zero =>
    rw [hc] at hn
    cases hn
  | succ co =>
    rw [hc,List.range'_succ,map_cons,map_cons,List.cons.injEq] at hn
    refine ⟨hn.1,hi,by omega,?_,hq⟩
    rw [hn.2]
    congr 2
    omega

lemma Going.enqueue (h : Going iss se pos c) (hd : bo.isDict = true) :
    Going (iss + 1) se pos (enqueue c (stampSequence bo (iss + 1))) :=
  ⟨h.replayed,h.live,h.numbers,h.since,h.highest,h.waits.enqueue hd⟩

lemma Going.take (h : Going iss se pos c) (hq : c.queue = x :: qu) (closed : Bool) :
    (pos + 1 ≤ c.viewer.highestEmitted → Going iss se (pos + 1) { c with queue := qu }) ∧
    (c.viewer.highestEmitted < pos + 1 → Going iss se (pos + 1) { c with
        viewer := ⟨pos + 1,closed⟩
        queue := qu
        emitted := c.emitted ++ [.live x (some (pos + 1))] }) := by
  obtain ⟨hre,hl,hn,hs,hh,hw⟩ := h
  rw [hq] at hw
  obtain ⟨-,-,hres⟩ := hw.take
  constructor
  · intro hle
    have hb : pos + 1 ≤ max (c.resume.afterSequence + se) c.subscribedAt := by
      rw [hh] at hle
      split_ifs at hle
      · exact Nat.le_trans hle (Nat.le_max_left _ _)
      · exact absurd hle (Nat.not_succ_le_self pos)
    refine ⟨hre,?_,hn,Nat.le_succ_of_le hs,?_,hres⟩
    · refine hl.trans ?_
      rw [Nat.sub_eq_zero_of_le (Nat.le_of_succ_le hb),Nat.sub_eq_zero_of_le hb]
    · refine hh.trans ?_
      rw [if_pos (Nat.le_of_succ_le hb),if_pos hb]
  · intro hlt
    have hb : max (c.resume.afterSequence + se) c.subscribedAt ≤ pos := by
      rw [hh] at hlt
      split_ifs at hlt with hle
      · exact Nat.max_le.2 ⟨Nat.le_of_lt_succ hlt,hs⟩
      · exact Nat.le_of_not_le hle
    refine ⟨?_,?_,?_,Nat.le_succ_of_le hs,?_,hres⟩
    · rw [← hre]
      simp [Connection.replayedNumbers,Emitted.replayedNumber]
    · have hla : Connection.liveNumbers { c with
          viewer := ⟨pos + 1,closed⟩
          queue := qu
          emitted := c.emitted ++ [.live x (some (pos + 1))] } =
          c.liveNumbers ++ [pos + 1] := by
        simp [Connection.liveNumbers,Emitted.liveNumber]
      have hnex : max (c.resume.afterSequence + se) c.subscribedAt + 1 +
          (pos - max (c.resume.afterSequence + se) c.subscribedAt) = pos + 1 := by
        omega
      rw [hla,hl,Nat.succ_sub hb,List.range'_1_concat,hnex]
    · simp only [Connection.numbers,Connection.replayedNumbers,Connection.liveNumbers] at hn ⊢
      rw [filterMap_append,hn,filterMap_append,filterMap_append]
      simp [Emitted.number,Emitted.replayedNumber,Emitted.liveNumber]
    · rw [if_neg (Nat.not_le.2 (Nat.lt_succ_of_le hb))]

/-- A viewer that was served nothing yet. -/
structure Attached (issued : ℕ) (c : Connection) : Prop where
  emitted : c.emitted = []
  waits : Waits issued c.subscribedAt c.queue

variable {settings cf : Settings}

lemma Connection.Noticed.append {c' : Connection} (h : c.Noticed)
    (hem : c'.emitted = c.emitted ++ mo) : c'.Noticed := by
  obtain ⟨re,first,r,heq⟩ := h
  refine ⟨re,first,r ++ mo,?_⟩
  rw [hem,heq,cons_append]

lemma Connection.Noticed.head (h : c.Noticed) : c.emitted.head?.bind Emitted.number = none := by
  obtain ⟨re,first,r,heq⟩ := h
  rw [heq]
  rfl

def Stage.attached : Stage → Bool
  | .live | .ended => false
  | _ => true

/-- The rows were read and the replay is still to come. -/
def Stage.looking : Stage → Bool
  | .merging _ | .marking | .marked _ => true
  | _ => false

structure Follows (settings : Settings) (issued : ℕ) (c : Connection) : Prop where
  attached : c.stage.attached = true → Attached issued c
  looking : c.stage.looking = true → settings.streamReplayEnabled = true
  served : c.stage.attached = false → c.resume.fromWindowStart = false →
    c.Noticed ∨ settings.streamReplayEnabled = true ∧ ∃ served position,
      Going issued served position c

lemma Follows.enqueue (h : Follows cf iss c) (hd : bo.isDict = true) :
    Follows cf (iss + 1) (enqueue c (stampSequence bo (iss + 1))) := by
  refine ⟨?_,h.looking,?_⟩
  · intro hs
    obtain ⟨hem,hw⟩ := h.attached hs
    exact ⟨hem,hw.enqueue hd⟩
  · intro hs hn
    refine (h.served hs hn).imp_right ?_
    rintro ⟨hen,se,pos,hgo⟩
    exact ⟨hen,se,pos,hgo.enqueue hd⟩

lemma replayed_numbers (c : Connection) (wi : ReplayWindow) :
    (replayed c wi).numbers = (servedFrames wi).map ReplayFrame.sequence ∧
      (replayed c wi).replayedNumbers = (servedFrames wi).map ReplayFrame.sequence ∧
      (replayed c wi).liveNumbers = [] := by
  -- Neither a notice nor the frame of a run that had ended carries a number.
  have hn : ∀ nu : Emitted → Option ℕ, nu .settled = none → ∀ en : Bool,
      (if en then [Emitted.settled] else []).filterMap nu = [] := by
    intro nu hnu en
    cases en with
    | true => exact filterMap_cons_none hnu
    | false => rfl
  have hno : ∀ nu : Emitted → Option ℕ, (∀ re, nu (.progressDropped re wi.firstSequence) = none) →
      (wi.gapReason.map fun re =>
        Emitted.progressDropped re wi.firstSequence).toList.filterMap nu = [] := by
    intro nu hnu
    cases wi.gapReason with
    | none => rfl
    | some re => exact filterMap_cons_none (hnu re)
  simp only [Connection.numbers,Connection.replayedNumbers,Connection.liveNumbers,replayed,
    filterMap_append,filterMap_map]
  refine ⟨?_,?_,?_⟩
  · rw [hno _ fun _ => rfl,hn _ rfl,nil_append,append_nil]
    exact congrFun filterMap_eq_map _
  · rw [hno _ fun _ => rfl,hn _ rfl,nil_append,append_nil]
    exact congrFun filterMap_eq_map _
  · rw [hno _ fun _ => rfl,hn _ rfl,nil_append,append_nil]
    exact filterMap_eq_nil_iff.2 fun _ _ => rfl

lemma getLast?_range'_getD (first co : ℕ) :
    (List.range' (first + 1) co).getLast?.getD first = first + co := by
  cases co with
  | zero => rfl
  | succ co =>
    rw [List.range'_1_concat,getLast?_concat,Option.getD_some]
    omega

lemma replayed_going (h : Attached iss c) (hc : CountsFrom (c.resume.afterSequence + 1) wi.frames)
    (hf : wi.dedupFloor = c.resume.afterSequence) :
    Going iss (servedFrames wi).length c.subscribedAt (replayed c wi) := by
  have hs : CountsFrom (c.resume.afterSequence + 1) (servedFrames wi) := hc.through _
  obtain ⟨hn,hre,hl⟩ := replayed_numbers c wi
  refine ⟨hre.trans hs,?_,?_,Nat.le_refl _,?_,h.waits⟩
  · change _ = List.range' _ (c.subscribedAt - max (c.resume.afterSequence + _) c.subscribedAt)
    rw [hl,Nat.sub_eq_zero_of_le (Nat.le_max_right _ _)]
    rfl
  · rw [hn,hre,hl,append_nil]
  · change _ = if c.subscribedAt ≤ max (c.resume.afterSequence + _) c.subscribedAt then
      c.resume.afterSequence + _ else _
    rw [if_pos (Nat.le_max_right _ _)]
    unfold replayed
    dsimp only
    rw [hs,hf]
    exact getLast?_range'_getD _ _

lemma replayed_stage (c : Connection) (wi : ReplayWindow) :
    (replayed c wi).stage = .ended ∨ (replayed c wi).stage = .live := by
  unfold replayed
  dsimp only
  split_ifs
  · exact .inl rfl
  · exact .inr rfl

lemma replayed_follows (h : Attached iss c)
    (hw : c.resume.fromWindowStart = false → Complete wi c.resume.afterSequence)
    (hen : wi.gapReason = none → cf.streamReplayEnabled = true) :
    Follows cf iss (replayed c wi) := by
  have hs := replayed_stage c wi
  refine ⟨?_,?_,?_⟩
  · intro ha
    rcases hs with hs | hs <;> rw [hs] at ha <;> cases ha
  · intro hl
    rcases hs with hs | hs <;> rw [hs] at hl <;> cases hl
  · intro _ hn
    cases hga : wi.gapReason with
    | some re =>
      left
      unfold replayed
      rw [hga]
      exact ⟨_,_,_,rfl⟩
    | none =>
      obtain ⟨hc,hf⟩ := hw hn hga
      exact .inr ⟨hen hga,_,_,replayed_going h hc hf⟩

variable {log : RunLog}

lemma Follows.readsRows (h : Follows cf iss c) (answered : Bool) :
    Follows cf iss (readsRows cf log c answered) := by
  unfold StreamReplay.readsRows
  split
  · rename_i hs
    have ha := h.attached (by rw [hs]; rfl)
    split_ifs with han
    · rw [Bool.and_eq_true] at han
      exact ⟨fun _ => ⟨ha.emitted,ha.waits⟩,fun _ => han.1,fun h => by cases h⟩
    · exact replayed_follows ha (fun _ => unavailableWindow_complete _) (fun h => by cases h)
  · exact h

lemma Follows.merges (h : Follows cf iss c) : Follows cf iss (merges log c) := by
  unfold StreamReplay.merges
  split
  · rename_i ro hs
    have ha := h.attached (by rw [hs]; rfl)
    have hen := h.looking (by rw [hs]; rfl)
    split
    · exact ⟨fun _ => ⟨ha.emitted,ha.waits⟩,fun _ => hen,fun h => by cases h⟩
    · exact replayed_follows ha (replayWindow_complete (cons_ne_nil _ _)) (fun _ => hen)
  · exact h

lemma Follows.readsMark (h : Follows cf iss c) (answered : Bool) :
    Follows cf iss (readsMark log c answered) := by
  unfold StreamReplay.readsMark
  split
  · rename_i hs
    have ha := h.attached (by rw [hs]; rfl)
    have hen := h.looking (by rw [hs]; rfl)
    split_ifs
    · exact ⟨fun _ => ⟨ha.emitted,ha.waits⟩,fun _ => hen,fun h => by cases h⟩
    · exact replayed_follows ha (fun _ => unavailableWindow_complete _) (fun h => by cases h)
  · exact h

lemma Follows.classifies (h : Follows cf iss c) : Follows cf iss (classifies log c) := by
  unfold StreamReplay.classifies
  split
  · rename_i rt hs
    have ha := h.attached (by rw [hs]; rfl)
    have hen := h.looking (by rw [hs]; rfl)
    exact replayed_follows ha (fun _ => emptyReplayWindow_complete _ _) (fun _ => hen)
  · exact h

lemma Follows.takes (h : Follows cf iss c) : Follows cf iss (takes cf c) := by
  unfold StreamReplay.takes
  split
  · rename_i x qu hs hq
    by_cases hc : c.viewer.closed = true
    · rw [if_pos hc]
      exact h
    rw [if_neg hc]
    refine ⟨?_,?_,?_⟩
    · intro ha
      dsimp only at ha
      rw [hs] at ha
      cases ha
    · intro hl
      dsimp only at hl
      rw [hs] at hl
      cases hl
    · intro _ hnu
      rcases h.served (by rw [hs]; rfl) hnu with
        hno | ⟨hen,se,pos,hgo⟩
      · exact .inl (hno.append rfl)
      · have hw := hgo.waits
        rw [hq] at hw
        obtain ⟨hn,hd,-⟩ := hw.take
        obtain ⟨hdr,hem⟩ := hgo.take hq (c.viewer.closed || isTerminalFrame x)
        refine .inr ⟨hen,se,pos + 1,?_⟩
        rw [hen,liveFrame_numbered hd hn,if_pos rfl,hn]
        split_ifs with hle
        · have hsa := hdr hle
          simp only [Option.map_none,Option.toList_none,append_nil]
          exact hsa
        · exact hem (Nat.not_le.1 hle)
  · exact h

variable {s s' : Replay}

def Replay.Follows (settings : Settings) (s : Replay) : Prop :=
  ∀ c, s.connection = some c → StreamReplay.Follows settings s.log.issued c

lemma Replay.Follows.relog (h : s.Follows cf) (hi : log.issued = s.log.issued) :
    Replay.Follows cf { s with log := log } := by
  intro c hc
  rw [hi]
  exact h c hc

lemma Replay.Follows.map (h : s.Follows cf) (f : Connection → Connection)
    (hf : ∀ c, StreamReplay.Follows cf s.log.issued c →
      StreamReplay.Follows cf s.log.issued (f c)) :
    Replay.Follows cf { s with connection := s.connection.map f } := by
  intro c hc
  obtain ⟨c',hc',rfl⟩ := Option.map_eq_some_iff.1 hc
  exact hf c' (h c' hc')

lemma relay_issued (log : RunLog) (bo : Value) (recorded : Bool) :
    (relay cf log bo recorded).1.issued = log.issued + 1 := by
  unfold relay
  cases recorded <;> rfl

lemma flushEnds_issued (log : RunLog) (wr : Bool) : (flushEnds cf log wr).issued = log.issued := by
  unfold flushEnds
  split
  · rfl
  · split_ifs <;> rfl

lemma flushBegins_issued (log : RunLog) : (flushBegins log).issued = log.issued := by
  unfold flushBegins
  dsimp only
  split_ifs <;> rfl

lemma step_follows (h : s.Follows cf) (hmo : Moves cf s e s') : s'.Follows cf := by
  obtain ⟨hm,rfl⟩ := hmo
  cases e with
  | relay bo recorded =>
    have hi := @relay_issued cf s.log bo recorded
    intro c hc
    obtain ⟨c',hc',rfl⟩ := Option.map_eq_some_iff.1 hc
    rw [step,hi]
    exact (h c' hc').enqueue hm
  | flushBegins => exact h.relog (flushBegins_issued s.log)
  | flushEnds wr => exact h.relog (flushEnds_issued s.log wr)
  | evict => exact h.relog rfl
  | expire co => exact h.relog rfl
  | damage n => exact h.relog rfl
  | connects re te =>
    intro c hc
    cases hc
    refine ⟨fun _ => ⟨rfl,Nat.le_refl _,?_,by simp⟩,fun h => (by cases h),fun h => by cases h⟩
    change [] = List.map some (List.range' _ (s.log.issued - s.log.issued))
    rw [Nat.sub_self]
    rfl
  | readsRows answered => exact h.map _ fun _ hc => hc.readsRows answered
  | merges => exact h.map _ fun _ hc => hc.merges
  | readsMark answered => exact h.map _ fun _ hc => hc.readsMark answered
  | classifies => exact h.map _ fun _ hc => hc.classifies
  | takes => exact h.map _ fun _ hc => hc.takes

/-- Two stretches of numbers are one exactly when the second is empty or goes on from the
first. -/
lemma range'_append_iff (first co second mo : ℕ) :
    List.range' first co ++ List.range' second mo = List.range' first (co + mo) ↔
      mo = 0 ∨ second = first + co := by
  rw [← List.range'_append_1,append_cancel_left_eq]
  cases mo with
  | zero => exact iff_of_true rfl (.inl rfl)
  | succ mo =>
    rw [List.range'_succ,List.range'_succ]
    constructor
    · intro heq
      exact .inr (List.cons.inj heq).1
    · rintro (hz | rfl)
      · cases hz
      · rfl

lemma Going.reached (h : Going iss se pos c) : c.reached = c.resume.afterSequence + se := by
  unfold Connection.reached
  rw [h.replayed]
  exact getLast?_range'_getD _ _

lemma Going.honest_iff (h : Going iss se pos c) :
    c.numbers = List.range' (c.resume.afterSequence + 1) c.numbers.length ↔
      c.liveNumbers = [] ∨ c.subscribedAt ≤ c.reached := by
  have hre := h.reached
  rw [h.numbers,h.replayed,h.live,length_append,length_range',length_range',
    range'_append_iff,List.range'_eq_nil_iff,hre]
  refine or_congr_right ?_
  omega

end

/-! A run whose first three frames are retained; the viewer comes back with one of them. -/

def retainedThree : List Event :=
  [.relay progressPayload true,.relay progressPayload true,.relay progressPayload true,
    .flushBegins,.flushEnds true]

lemma retainedThree_run : Run (Moves {}) {} retainedThree (retainedThree.foldl (step {}) {}) :=
  .step ⟨rfl,rfl⟩ (.step ⟨rfl,rfl⟩ (.step ⟨rfl,rfl⟩ (.step ⟨trivial,rfl⟩ (.single ⟨trivial,rfl⟩))))

def resumedBehind : List Event :=
  [.connects ⟨1,false⟩ false,.readsRows true,.merges,.relay progressPayload true,.takes]

def lostAtTheEnd : List Event :=
  [.relay progressPayload false,.relay progressPayload false,.connects ⟨3,false⟩ false,
    .readsRows true,.merges,.readsMark true,.classifies,.relay progressPayload true,.takes]

end VaultspecA2A.StreamReplay
