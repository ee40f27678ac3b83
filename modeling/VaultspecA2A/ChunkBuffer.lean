import VaultspecA2A.Runs
import Mathlib.Algebra.GroupWithZero.Nat
import Mathlib.Data.List.Forall2

/-!
# Buffered message chunks

The worker does not broadcast each piece of text a model streams. The pieces of a run are buffered
and leave together as one chunk: when a timer that was started with the first of them fires, when
the buffer has grown to its limit, when a piece of another message comes, or when the run is
flushed. A flush takes the whole buffer and the place of the timer and hands the chunk, under the
next number of the run, to the broadcast. All of this happens without a pause; what can come
between is what runs while a call waits for a broadcast to end, or between two calls.

The timers are tasks that sleep. A timer may fire at any time, also one that lost its place to a
flush and was not cancelled. A cancelled one never fires, since a task that has the place has not
begun to flush. A call that flushed the message before its own waits, and adds its piece when it
resumes; no other call is made meanwhile.

The model is of one run. Ends of runs, which drop what is buffered, are left out.
-/
namespace VaultspecA2A.ChunkBuffer
open Runs List

structure Piece where
  agentId : String
  content : String
  messageId : String
deriving DecidableEq, Repr

structure ChunkMeta where
  agentId : String
  messageId : String
deriving DecidableEq, Repr

structure MessageChunk where
  sequence : ℕ
  agentId : String
  content : String
  messageId : String
deriving DecidableEq, Repr

structure Buffering where
  chunks : List String := []
  chunkMeta : Option ChunkMeta := none
  /-- The task that has the place of the timer. -/
  flushTask : Option ℕ := none
  /-- The tasks that sleep, and how many were made. -/
  sleeping : List ℕ := []
  made : ℕ := 0
  /-- The last number taken by an event of the run. -/
  sequence : ℕ := 0
  broadcast : List MessageChunk := []
  /-- The call that waits for the chunk of the message before its own. -/
  waiting : Option Piece := none
deriving DecidableEq, Repr

def flushChunkBuffer (b : Buffering) : Buffering :=
  let popped := { b with chunks := [], chunkMeta := none, flushTask := none }
  match b.chunkMeta with
  | none => popped
  | some chunkMeta =>
    if b.chunks.isEmpty then popped
    else
      { popped with
        sequence := b.sequence + 1
        broadcast := b.broadcast ++
          [⟨b.sequence + 1,chunkMeta.agentId,String.join b.chunks,chunkMeta.messageId⟩] }

def cancelFlushTask (b : Buffering) : Buffering :=
  match b.flushTask with
  | none => b
  | some task => { b with flushTask := none, sleeping := b.sleeping.erase task }

def scheduleFlush (b : Buffering) : Buffering :=
  if b.flushTask.isSome then b
  else { b with flushTask := some b.made, sleeping := b.sleeping ++ [b.made], made := b.made + 1 }

/-- The second part of a call, where `maxBytes` is `chunk_buffer_max_bytes`. -/
def appendChunk (maxBytes : ℕ) (b : Buffering) (piece : Piece) : Buffering :=
  let b' :=
    { b with
      chunks := b.chunks ++ [piece.content]
      chunkMeta := some ⟨piece.agentId,piece.messageId⟩ }
  if maxBytes ≤ (b'.chunks.map String.length).sum then flushChunkBuffer (cancelFlushTask b')
  else scheduleFlush b'

/-- The first part of a call; where nothing is to be flushed the second part follows at once. -/
def bufferMessageChunk (maxBytes : ℕ) (b : Buffering) (piece : Piece) : Buffering :=
  if b.chunkMeta.any fun chunkMeta => decide (chunkMeta.messageId ≠ piece.messageId) then
    { flushChunkBuffer (cancelFlushTask b) with waiting := some piece }
  else appendChunk maxBytes b piece

inductive Label
  | call (piece : Piece)
  | resume
  | timer (task : ℕ)
  | flush
  | other
deriving DecidableEq, Repr

inductive Move (maxBytes : ℕ) : Buffering → Label → Buffering → Prop
  | call {b : Buffering} (piece : Piece) (free : b.waiting = none) :
      Move maxBytes b (.call piece) (bufferMessageChunk maxBytes b piece)
  | resume {b : Buffering} {piece : Piece} (waits : b.waiting = some piece) :
      Move maxBytes b .resume (appendChunk maxBytes { b with waiting := none } piece)
  | timer {b : Buffering} {task : ℕ} (sleeps : task ∈ b.sleeping) :
      Move maxBytes b (.timer task)
        (flushChunkBuffer { b with sleeping := b.sleeping.erase task })
  | flush (b : Buffering) : Move maxBytes b .flush (flushChunkBuffer b)
  | other (b : Buffering) : Move maxBytes b .other { b with sequence := b.sequence + 1 }

def pieces (history : List Label) : List Piece := history.filterMap fun label =>
    match label with
    | .call piece => some piece
    | _ => none

structure MadeOf (segment : List Piece) (chunk : MessageChunk) : Prop where
  content : chunk.content = String.join (segment.map Piece.content)
  own : ∀ piece ∈ segment, piece.messageId = chunk.messageId

/-- The chunks are made of the pieces, in order, each piece being in one chunk. -/
def Delivers (delivered : List Piece) (chunks : List MessageChunk) : Prop :=
  ∃ segments : List (List Piece), segments.flatten = delivered ∧ List.Forall₂ MadeOf segments chunks

lemma Delivers.nil : Delivers [] [] := ⟨[],rfl,.nil⟩

lemma Delivers.append (h : Delivers de cn) (hs : MadeOf se ch) :
    Delivers (de ++ se) (cn ++ [ch]) := by
  obtain ⟨sg,rfl,hm⟩ := h
  refine ⟨sg ++ [se],by simp,?_⟩
  exact rel_append hm (.cons hs .nil)

lemma Delivers.content (h : Delivers de cn) :
    String.join (cn.map MessageChunk.content) = String.join (de.map Piece.content) := by
  obtain ⟨sg,rfl,hm⟩ := h
  induction hm with
  | nil => rfl
  | cons hc _ ih =>
    rw [map_cons,flatten_cons,map_append,String.join_append,← ih,← hc.content]
    simp

/-- The pieces that were called for are delivered, buffered under the message of the buffer, or
wait; and the numbers broadcast ascend. -/
structure Keeps (b : Buffering) (called : List Piece) : Prop where
  split : ∃ delivered buffered, delivered ++ buffered ++ b.waiting.toList = called ∧
    Delivers delivered b.broadcast ∧ buffered.map Piece.content = b.chunks ∧
    ∀ piece ∈ buffered, ∃ chunkMeta, b.chunkMeta = some chunkMeta ∧
      piece.messageId = chunkMeta.messageId
  ascending : (b.broadcast.map MessageChunk.sequence).Pairwise (· < ·)
  numbered : ∀ chunk ∈ b.broadcast, chunk.sequence ≤ b.sequence
  /-- While a call waits, nothing is buffered. -/
  cleared : b.waiting ≠ none → b.chunkMeta = none

section
variable {b : Buffering}

lemma Keeps.flush (h : Keeps b ca) : Keeps (flushChunkBuffer b) ca := by
  obtain ⟨de,bu,hc,hd,hco,ho⟩ := h.split
  unfold flushChunkBuffer
  dsimp only
  split
  · rename_i hno
    have hem : bu = [] := by
      apply eq_nil_iff_forall_not_mem.2
      intro pc hp
      obtain ⟨cm,hs,-⟩ := ho pc hp
      rw [hno] at hs
      cases hs
    subst hem
    exact ⟨⟨de,[],hc,hd,rfl,by simp⟩,h.ascending,h.numbered,fun _ => rfl⟩
  · rename_i cm hs
    split_ifs with hchu
    · have hem : bu = [] := by
        rw [isEmpty_iff.1 hchu] at hco
        simpa using hco
      subst hem
      exact ⟨⟨de,[],hc,hd,rfl,by simp⟩,h.ascending,h.numbered,fun _ => rfl⟩
    · have hm : MadeOf bu ⟨b.sequence + 1,cm.agentId,String.join b.chunks,cm.messageId⟩ := by
        refine ⟨by rw [hco],?_⟩
        intro pc hp
        obtain ⟨fo,hf,hme⟩ := ho pc hp
        rw [hs] at hf
        cases hf
        exact hme
      refine ⟨⟨de ++ bu,[],by simpa using hc,hd.append hm,rfl,by simp⟩, ?_,?_,fun _ => rfl⟩
      · rw [map_append,pairwise_append]
        refine ⟨h.ascending,by simp,?_⟩
        intro nu hnu next hn
        obtain ⟨ch,hch,rfl⟩ := mem_map.1 hnu
        rw [map_singleton,mem_singleton] at hn
        have := h.numbered ch hch
        rw [hn]
        dsimp only
        omega
      · intro ch hch
        rcases mem_append.1 hch with hold | hnew
        · have := h.numbered ch hold
          dsimp only
          omega
        · obtain rfl := mem_singleton.1 hnew
          exact Nat.le_refl _

lemma Keeps.cancel (h : Keeps b ca) : Keeps (cancelFlushTask b) ca := by
  unfold cancelFlushTask
  split
  · exact h
  · exact ⟨h.split,h.ascending,h.numbered,h.cleared⟩

lemma Keeps.schedule (h : Keeps b ca) : Keeps (scheduleFlush b) ca := by
  unfold scheduleFlush
  split_ifs
  · exact h
  · exact ⟨h.split,h.ascending,h.numbered,h.cleared⟩

lemma Keeps.append (h : Keeps b ca) (hf : b.waiting = none)
    (hown : ∀ cm, b.chunkMeta = some cm → cm.messageId = pc.messageId) :
    Keeps (appendChunk mb b pc) (ca ++ [pc]) := by
  have hj : Keeps { b with
      chunks := b.chunks ++ [pc.content]
      chunkMeta := some ⟨pc.agentId,pc.messageId⟩ } (ca ++ [pc]) := by
    obtain ⟨de,bu,hc,hd,hco,hb⟩ := h.split
    refine ⟨⟨de,bu ++ [pc],?_,hd,?_,?_⟩,h.ascending,h.numbered,?_⟩
    · rw [← hc,hf]
      simp
    · rw [map_append,hco,map_singleton]
    · intro o ho
      refine ⟨_,rfl,?_⟩
      rcases mem_append.1 ho with hold | hn
      · obtain ⟨cm,hs,hm⟩ := hb o hold
        exact hm.trans (hown cm hs)
      · rw [mem_singleton.1 hn]
    · intro hw
      exact (hw hf).elim
  unfold appendChunk
  dsimp only
  split_ifs
  · exact hj.cancel.flush
  · exact hj.schedule

lemma flushChunkBuffer_chunkMeta : (flushChunkBuffer b).chunkMeta = none := by
  unfold flushChunkBuffer
  dsimp only
  split
  · rfl
  · split_ifs <;> rfl

lemma flushChunkBuffer_waiting : (flushChunkBuffer b).waiting = b.waiting := by
  unfold flushChunkBuffer
  dsimp only
  split
  · rfl
  · split_ifs <;> rfl

lemma cancelFlushTask_waiting : (cancelFlushTask b).waiting = b.waiting := by
  unfold cancelFlushTask
  split <;> rfl

lemma Keeps.call (h : Keeps b ca) (hfr : b.waiting = none) :
    Keeps (bufferMessageChunk mb b pc) (ca ++ [pc]) := by
  unfold bufferMessageChunk
  split_ifs with ho
  · have hf := h.cancel.flush
    obtain ⟨de,bu,hc,hd,hco,hown⟩ := hf.split
    refine ⟨⟨de,bu,?_,hd,hco,hown⟩,hf.ascending,hf.numbered, fun _ => flushChunkBuffer_chunkMeta⟩
    rw [flushChunkBuffer_waiting,cancelFlushTask_waiting,hfr] at hc
    rw [← hc]
    simp
  · apply h.append hfr
    intro cm hs
    simpa [hs] using ho

lemma Keeps.resume (h : Keeps b ca) (hw : b.waiting = some pc) :
    Keeps (appendChunk mb { b with waiting := none } pc) ca := by
  obtain ⟨de,bu,hc,hd,hco,ho⟩ := h.split
  have hn : b.chunkMeta = none := h.cleared (by simp [hw])
  have hb : Keeps { b with waiting := none } (de ++ bu) :=
    ⟨⟨de,bu,by simp,hd,hco,ho⟩,h.ascending,h.numbered, fun hw => (hw rfl).elim⟩
  rw [hw] at hc
  rw [← hc]
  apply hb.append rfl
  intro cm hs
  rw [hn] at hs
  cases hs

lemma keeps_move (h : Keeps b (pieces lg)) (hm : Move mb b l b') :
    Keeps b' (pieces (lg ++ [l])) := by
  have hq : (∀ pc, l ≠ .call pc) → pieces (lg ++ [l]) = pieces lg := by
    intro hl
    cases l <;> simp_all [pieces]
  cases hm with
  | call pc hf =>
    have hc : pieces (lg ++ [.call pc]) = pieces lg ++ [pc] := by
      simp [pieces]
    rw [hc]
    exact h.call hf
  | resume hw =>
    rw [hq (by simp)]
    exact h.resume hw
  | timer hs =>
    rw [hq (by simp)]
    apply Keeps.flush
    exact ⟨h.split,h.ascending,h.numbered,h.cleared⟩
  | flush =>
    rw [hq (by simp)]
    exact h.flush
  | other =>
    rw [hq (by simp)]
    refine ⟨h.split,h.ascending,?_,h.cleared⟩
    intro ch hch
    have := h.numbered ch hch
    dsimp only
    omega

lemma keeps_run (hru : Run (Move mb) { sequence := n } lg b) : Keeps b (pieces lg) := by
  have hk : Keeps b (pieces ([] ++ lg)) :=
    hru.remembers (fun b lg => Keeps b (pieces lg)) keeps_move
      ⟨⟨[],[],rfl,.nil,rfl,by simp⟩,.nil,by simp,fun _ => rfl⟩
  simpa using hk

lemma flushed_delivers (h : Keeps b ca) (hf : b.waiting = none) :
    Delivers ca (flushChunkBuffer b).broadcast := by
  obtain ⟨de,bu,hc,hd,-,ho⟩ := h.flush.split
  have hem : bu = [] := by
    apply eq_nil_iff_forall_not_mem.2
    intro pc hp
    obtain ⟨cm,hs,-⟩ := ho pc hp
    rw [flushChunkBuffer_chunkMeta] at hs
    cases hs
  rw [flushChunkBuffer_waiting,hf,hem] at hc
  simp only [append_nil,Option.toList_none] at hc
  rw [← hc]
  exact hd

end

/-- However the calls of a run, its timers, explicit flushes and the numbers of other events
interleave: once no call waits and the buffer is flushed, the numbers of the chunks broadcast
ascend, their contents are together the contents of all pieces, and each chunk is made of
consecutive pieces of its own message, each piece being in one chunk. -/
theorem chunks_delivered {maxBytes sequence : ℕ} {history : List Label} {b : Buffering}
    (hrun : Run (Move maxBytes) { sequence := sequence } history b) (hfree : b.waiting = none) :
    ((flushChunkBuffer b).broadcast.map MessageChunk.sequence).Pairwise (· < ·) ∧
      String.join ((flushChunkBuffer b).broadcast.map MessageChunk.content) =
        String.join ((pieces history).map Piece.content) ∧
      Delivers (pieces history) (flushChunkBuffer b).broadcast := by
  have hk := keeps_run hrun
  have hd := flushed_delivers hk hfree
  exact ⟨hk.flush.ascending,hd.content,hd⟩

/-- A timer that lost its place to a flush sends the second piece early, and a flush comes while
the piece of the second message waits. -/
def interleaving : List Label :=
  [.call ⟨"coder","Let","first"⟩,.flush,.call ⟨"coder"," me","first"⟩,.timer 0,
    .call ⟨"coder"," see","first"⟩,.other,.call ⟨"coder","Done","second"⟩,.flush,.resume]

theorem chunks_delivered_interleaved : ∃ b, Run (Move 4096) { sequence := 7 } interleaving b ∧
    b.waiting = none ∧
    (flushChunkBuffer b).broadcast.map (fun chunk => (chunk.sequence,chunk.content)) =
      [(8,"Let"),(9," me"),(11," see"),(12,"Done")] ∧
    Delivers (pieces interleaving) (flushChunkBuffer b).broadcast := by
  have hru : ∃ b, Run (Move 4096) { sequence := 7 } interleaving b ∧ b.waiting = none ∧
      (flushChunkBuffer b).broadcast.map (fun chunk => (chunk.sequence,chunk.content)) =
        [(8,"Let"),(9," me"),(11," see"),(12,"Done")] :=
    ⟨_,.step (.call _ rfl) <| .step (.flush _) <| .step (.call _ rfl) <|
      .step (.timer (by decide)) <| .step (.call _ rfl) <| .step (.other _) <|
      .step (.call _ rfl) <| .step (.flush _) <| .single (.resume rfl),by decide,by decide⟩
  obtain ⟨b,hru,hf,hs⟩ := hru
  exact ⟨b,hru,hf,hs,(chunks_delivered hru hf).2.2⟩

end VaultspecA2A.ChunkBuffer
