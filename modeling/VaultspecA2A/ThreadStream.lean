import VaultspecA2A.Fanout
import VaultspecA2A.RelayHub

/-!
# A viewer's live stream

A viewer of a run reads the frames the hub fans out from a queue of its own and emits them
one by one, until it has emitted the run's terminal frame. A frame whose number is not above
the highest number emitted so far is taken for a repeat and left out.

The hub numbers a terminal frame when it holds it and fans it out when the settlement of the
run has gone its way. Frames of the same run that are relayed in between carry higher numbers
and are fanned out first.

The encoding of a frame is left out: a frame is emitted as it stands in the queue.
-/
namespace VaultspecA2A.ThreadStream
open Runs PyValue Fanout RelayHub List

def retainedSequence (payload : Value) : Option ℕ :=
  match payload.get "sequence" with
  | some (.int n) => if 0 < n then some n.toNat else none
  | _ => none

lemma retainedSequence_of_get (h : payload.get "sequence" = some (.int n)) (hp : 0 < n) :
    retainedSequence payload = some n := by
  rw [retainedSequence,h]
  dsimp only
  rw [if_pos (Int.natCast_pos.2 hp),Int.toNat_natCast]

def replayIsServed (streamReplayEnabled : Bool) (a : RunSequenceAllocator) (run : String) : Bool :=
  streamReplayEnabled && a.isNumbered run

def isTerminalFrame (payload : Value) : Bool :=
  (payload.get "type").bind Value.text? == some threadTerminal

structure Viewer where
  highestEmitted : ℕ := 0
  closed : Bool := false
deriving DecidableEq, Repr

/-- Emit one queued frame, unless it is no mapping or taken for a repeat. -/
def liveFrame (served : Bool) (viewer : Viewer) (item : Value) : Viewer × Option Value :=
  if !item.isDict then (viewer,none)
  else
    match if served then retainedSequence item else none with
    | some sequence =>
      if sequence ≤ viewer.highestEmitted then (viewer,none)
      else (⟨sequence,viewer.closed || isTerminalFrame item⟩,some item)
    | none => ({ viewer with closed := viewer.closed || isTerminalFrame item },some item)

/-- The live loop over the frames of the queue, with what it emits. -/
def live (served : Bool) : Viewer → List Value → Viewer × List Value
  | viewer, [] => (viewer,[])
  | viewer, item :: queue =>
    if viewer.closed then (viewer,[])
    else
      let (next,emitted) := liveFrame served viewer item
      ((live served next queue).1,emitted.toList ++ (live served next queue).2)

/-- The entries up to and including the first one with a property. -/
def through {α : Type*} (p : α → Bool) : List α → List α
  | [] => []
  | x :: xs => if p x then [x] else x :: through p xs

variable {α : Type*}

lemma through_map {β : Type*} (p : β → Bool) (f : α → β) (xs : List α) :
    through p (xs.map f) = (through (fun x => p (f x)) xs).map f := by
  induction xs with
  | nil => rfl
  | cons x xs ih =>
    rw [map_cons,through,through]
    split_ifs
    · rfl
    · rw [ih,map_cons]

lemma through_sublist (p : α → Bool) (xs : List α) : (through p xs).Sublist xs := by
  induction xs with
  | nil => exact .slnil
  | cons x xs ih =>
    rw [through]
    split_ifs
    · exact (nil_sublist _).cons_cons x
    · exact ih.cons_cons x

/-- Each number is above the mark and above those before it. -/
def Ascending (mark : ℕ) (frames : List Value) : Prop :=
  (∀ frame ∈ frames, ∀ n, retainedSequence frame = some n → mark < n) ∧
    frames.Pairwise fun first second => ∀ m n, retainedSequence first = some m →
      retainedSequence second = some n → m < n

section
variable {x : Value}

lemma ascending_cons_some (h : retainedSequence x = some n) :
    Ascending ma (x :: qu) ↔ ma < n ∧ Ascending n qu := by
  unfold Ascending
  rw [forall_mem_cons,pairwise_cons]
  constructor
  · rintro ⟨⟨hma,-⟩,hh,hp⟩
    exact ⟨hma n h,fun fr hf m hm => hh fr hf n m h hm,hp⟩
  · rintro ⟨hma,ha,hp⟩
    refine ⟨⟨?_,?_⟩,?_,hp⟩
    · intro m hm
      rw [h] at hm
      cases hm
      exact hma
    · exact fun fr hf m hm => Nat.lt_trans hma (ha fr hf m hm)
    · intro fr hf m k hm hk
      rw [h] at hm
      cases hm
      exact ha fr hf k hk

lemma ascending_cons_none (h : retainedSequence x = none) :
    Ascending ma (x :: qu) ↔ Ascending ma qu := by
  unfold Ascending
  rw [forall_mem_cons,pairwise_cons]
  constructor
  · rintro ⟨⟨-,ha⟩,-,hp⟩
    exact ⟨ha,hp⟩
  · rintro ⟨ha,hp⟩
    refine ⟨⟨?_,ha⟩,?_,hp⟩
    · intro n hn
      rw [h] at hn
      cases hn
    · intro fr _ m n hm _
      rw [h] at hm
      cases hm

lemma live_closed (se : Bool) (h : vi.closed = true) : live se vi qu = (vi,[]) := by
  cases qu with
  | nil => rfl
  | cons x qu => rw [live,if_pos h]

lemma live_append (se : Bool) (mo : List Value) : live se vi (qu ++ mo) =
    ((live se (live se vi qu).1 mo).1, (live se vi qu).2 ++ (live se (live se vi qu).1 mo).2) := by
  induction qu generalizing vi with
  | nil => rfl
  | cons x qu ih =>
    rw [cons_append,live,live]
    split_ifs with hc
    · rw [live_closed se hc,nil_append]
    · rcases liveFrame se vi x with ⟨next,em⟩
      dsimp only
      rw [ih,append_assoc]

/-! What the loop does with one mapping. -/

lemma liveFrame_numbered (hd : x.isDict = true) (h : retainedSequence x = some n) :
    liveFrame true vi x =
      if n ≤ vi.highestEmitted then (vi,none)
      else (⟨n,vi.closed || isTerminalFrame x⟩,some x) := by
  simp only [liveFrame,hd,h,Bool.not_true,Bool.false_eq_true,if_false,if_true]

lemma live_unnumbered (ho : vi.closed = false) (hd : x.isDict = true)
    (h : retainedSequence x = none) :
    (live true vi (x :: qu)).2 = x :: (live true ⟨vi.highestEmitted,isTerminalFrame x⟩ qu).2 := by
  simp only [live,liveFrame,ho,hd,h,Bool.not_true,Bool.false_eq_true,if_false,
    if_true,Bool.false_or,Option.toList_some,singleton_append]

lemma live_repeat (ho : vi.closed = false) (hd : x.isDict = true)
    (h : retainedSequence x = some n) (hle : n ≤ vi.highestEmitted) :
    (live true vi (x :: qu)).2 = (live true vi qu).2 := by
  simp only [live,liveFrame_numbered hd h,ho,hle,Bool.false_eq_true,if_false,if_true,
    Option.toList_none,nil_append]

lemma live_new (ho : vi.closed = false) (hd : x.isDict = true)
    (h : retainedSequence x = some n) (hlt : vi.highestEmitted < n) :
    (live true vi (x :: qu)).2 = x :: (live true ⟨n,isTerminalFrame x⟩ qu).2 := by
  simp only [live,liveFrame_numbered hd h,ho,Nat.not_le.2 hlt,Bool.false_eq_true,
    if_false,Bool.false_or,Option.toList_some,singleton_append]

lemma live_above (hd : ∀ x ∈ qu, x.isDict = true) :
    ∀ fr ∈ (live true vi qu).2, ∀ n, retainedSequence fr = some n → vi.highestEmitted < n := by
  induction qu generalizing vi with
  | nil => exact fun _ h => (not_mem_nil h).elim
  | cons x qu ih =>
    obtain ⟨hi,hq⟩ := forall_mem_cons.1 hd
    cases hc : vi.closed with
    | true =>
      rw [live_closed true hc]
      exact fun _ h => (not_mem_nil h).elim
    | false =>
      cases hnu : retainedSequence x with
      | none =>
        rw [live_unnumbered hc hi hnu]
        refine forall_mem_cons.2 ⟨?_,ih hq⟩
        intro n hn
        rw [hnu] at hn
        cases hn
      | some se =>
        by_cases hle : se ≤ vi.highestEmitted
        · rw [live_repeat hc hi hnu hle]
          exact ih hq
        · have hlt := Nat.not_le.1 hle
          rw [live_new hc hi hnu hlt]
          refine forall_mem_cons.2 ⟨?_,?_⟩
          · intro n hn
            rw [hnu] at hn
            cases hn
            exact hlt
          · exact fun fr hf n hn => Nat.lt_trans hlt (ih hq fr hf n hn)

lemma ascending_nil : Ascending ma [] := ⟨by simp,List.Pairwise.nil⟩

lemma live_emits_iff (ho : vi.closed = false) (hd : ∀ x ∈ qu, x.isDict = true) :
    (live true vi qu).2 = through isTerminalFrame qu ↔
      Ascending vi.highestEmitted (through isTerminalFrame qu) := by
  induction qu generalizing vi with
  | nil => exact iff_of_true rfl ascending_nil
  | cons x qu ih =>
    obtain ⟨hi,hq⟩ := forall_mem_cons.1 hd
    -- The frame is emitted and the loop goes on with the number it leaves as mark.
    have hon : ∀ next : Viewer, next.closed = isTerminalFrame x →
        (x :: (live true next qu).2 = through isTerminalFrame (x :: qu) ↔
          Ascending next.highestEmitted
            (if isTerminalFrame x then [] else through isTerminalFrame qu)) := by
      intro next hnex
      rw [through]
      split_ifs with ht
      · rw [ht] at hnex
        rw [live_closed true hnex]
        exact iff_of_true rfl ascending_nil
      · rw [cons_inj_right]
        exact ih (hnex.trans (Bool.eq_false_iff.2 ht)) hq
    have hc : through isTerminalFrame (x :: qu) =
        x :: if isTerminalFrame x then [] else through isTerminalFrame qu := by
      rw [through]
      split_ifs <;> rfl
    cases hn : retainedSequence x with
    | none =>
      rw [live_unnumbered ho hi hn,hon _ rfl,hc,ascending_cons_none hn]
    | some se =>
      by_cases hle : se ≤ vi.highestEmitted
      · rw [live_repeat ho hi hn hle,hc,ascending_cons_some hn]
        refine iff_of_false ?_ (fun h => absurd h.1 (Nat.not_lt.2 hle))
        intro heq
        have hm : x ∈ (live true vi qu).2 := by
          rw [heq]
          exact mem_cons_self
        exact absurd (live_above hq x hm se hn) (Nat.not_lt.2 hle)
      · have hlt := Nat.not_le.1 hle
        rw [live_new ho hi hn hlt,hon _ rfl,hc,ascending_cons_some hn]
        exact (and_iff_right hlt).symm

end

structure Watched where
  hub : Hub
  viewer : Viewer := {}
  queue : List Value := []
  emitted : List Value := []
  /-- The frames of the run that were published since the viewer subscribed. -/
  fanned : List Published := []

def fannedOut (run : String) (hub next : Hub) : List Published :=
  (next.published.drop hub.published.length).filter fun frame => frame.threadId = run

inductive Turn
  | call (call : Call)
  | take

section
variable (project : Value → Value) (run : String) (maxsize : ℕ)

/-- A call of the hub fans out to the queue, and the live loop takes from it. -/
def turn (s : Watched) : Turn → Watched
  | .call call =>
    let next := step project s.hub call
    let frames := fannedOut run s.hub next
    { s with
      hub := next
      queue := frames.foldl (fun queue frame => (deliverBounded maxsize queue frame.frame).1) s.queue
      fanned := s.fanned ++ frames }
  | .take =>
    match s.queue with
    | [] => s
    | item :: queue =>
      if s.viewer.closed then s
      else
        let (viewer,emitted) :=
          liveFrame (replayIsServed true s.hub.allocator run) s.viewer item
        { s with viewer, queue, emitted := s.emitted ++ emitted.toList }

/-- The calls that relay, hold, publish and release. The payloads of the run are mappings,
which the recorder keeps. -/
def OnRun : Call → Prop
  | .relayPayload threadId payload retained =>
    threadId = run → payload.isDict = true ∧ retained = true
  | .holdPayload threadId payload retained =>
    threadId = run → payload.isDict = true ∧ retained = true
  | .publishHeld _ => True
  | .releaseHeld _ => True
  | _ => False

/-- A turn on the run that finds room on the queue. -/
def Watches (s : Watched) (t : Turn) (s' : Watched) : Prop := (match t with
    | .call call => OnRun run call ∧ (maxsize = 0 ∨ s.queue.length < maxsize)
    | .take => True) ∧ s' = turn project run maxsize s t

structure NumberedRun (hub : Hub) : Prop where
  counter : (hub.allocator.counters run).isSome = true
  served : hub.allocator.unnumbered run = false
  held : ∀ frame ∈ hub.held, frame.threadId = run →
    frame.allocation.isSome = true ∧ frame.frame.isDict = true

def Reached (hub : Hub) (mark : ℕ) : Prop :=
  (∀ current, hub.allocator.counters run = some current → mark ≤ current) ∧
    (run,mark) ∉ heldNumbers hub.held

structure Subscribes (s : Watched) : Prop where
  numbered : NumberedRun run s.hub
  reached : Reached run s.hub s.viewer.highestEmitted
  isOpen : s.viewer.closed = false
  queue : s.queue = []
  emitted : s.emitted = []
  fanned : s.fanned = []

end

/-- No held frame was published behind a later number: neither behind the mark the viewer
started with, nor behind a frame published since. -/
structure HeldInTurn (mark : ℕ) (frames : List Published) : Prop where
  above : ∀ frame ∈ frames, frame.held = true → ∀ n, frame.allocation = some n → mark < n
  turns : frames.Pairwise fun first second => second.held = true →
    ∀ m n, first.allocation = some m → second.allocation = some n → m < n

variable {a : RunSequenceAllocator} {calls cs : List Call}

section
variable {project : Value → Value} {run : String} {maxsize ma : ℕ} {hub : Hub}

lemma replayIsServed_numbered (h : NumberedRun run hub) :
    replayIsServed true hub.allocator run = true := by
  obtain ⟨cu,hc⟩ := Option.isSome_iff_exists.1 h.counter
  simp [replayIsServed,RunSequenceAllocator.isNumbered,RunSequenceAllocator.issuedHighWater,
    h.served,hc]

lemma stampSequence_isDict (h : bo.isDict = true) (se : ℕ) :
    (stampSequence bo se).isDict = true := by
  cases bo with
  | dict es =>
    rw [stampSequence]
    split_ifs <;> rfl
  | _ => cases h

lemma numbered_some (hc : a.counters run = some cu) (hd : (project payload).isDict = true) :
    numbered project a run payload true = (stampSequence (project payload) (cu + 1),some (cu + 1),
        { a with counters := Function.update a.counters run (some (cu + 1)) }) := by
  unfold numbered
  simp only [hd,Bool.and_self,Bool.not_true,Bool.false_eq_true,if_false,allocate_some hc]

lemma numbered_counter (hc : a.counters run = some cu) (tid : String)
    (payload : Value) (re : Bool) :
    (numbered project a tid payload re).2.2.unnumbered = a.unnumbered ∧
      ((numbered project a tid payload re).2.2.counters run = some cu ∨
        (numbered project a tid payload re).2.2.counters run = some (cu + 1)) := by
  rcases numbered_cases project a tid payload re with
    ⟨-,hs⟩ | ⟨value,hv,-,-,ha⟩
  · rw [hs]
    exact ⟨rfl,.inl hc⟩
  · rw [ha]
    refine ⟨rfl,?_⟩
    by_cases hru : run = tid
    · rw [← hru,hc] at hv
      cases hv
      rw [hru]
      exact .inr (Function.update_self _ _ _)
    · exact .inl ((Function.update_of_ne hru _ _).trans hc)

structure CallEffect (run : String) (current : ℕ) (hub next : Hub) : Prop where
  unnumbered : next.allocator.unnumbered = hub.allocator.unnumbered
  counter : next.allocator.counters run = some current ∨
    next.allocator.counters run = some (current + 1) ∨
    ((run,current) ∈ heldNumbers hub.held ∧
      next.allocator.counters run = some (current - 1))
  held : ∀ frame ∈ next.held, frame ∈ hub.held ∨ (frame.threadId = run →
    frame.allocation = some (current + 1) ∧ frame.frame.isDict = true)

lemma mem_heldNumbers (h : fr ∈ held)
    (hn : fr.allocation = some n) : (fr.threadId,n) ∈ heldNumbers held := by
  refine mem_filterMap.2 ⟨fr,h,?_⟩
  rw [hn,Option.map_some]

lemma releaseHeld_effect (hc : hub.allocator.counters run = some cu)
    (i : ℕ) : CallEffect run cu hub (releaseHeld hub i) := by
  unfold RelayHub.releaseHeld
  cases hh : hub.held[i]? with
  | none => exact ⟨rfl,.inl hc,fun _ h => .inl h⟩
  | some fr =>
    have hk : ∀ fr ∈ hub.held.eraseIdx i, fr ∈ hub.held ∨ (fr.threadId = run →
        fr.allocation = some (cu + 1) ∧ fr.frame.isDict = true) :=
      fun _ h => .inl (mem_of_mem_eraseIdx h)
    dsimp only
    unfold releaseHeldFrame
    split
    · rename_i n _ ha
      unfold RunSequenceAllocator.release
      split_ifs with ht
      · refine ⟨rfl,?_,hk⟩
        by_cases hru : run = fr.threadId
        · rw [← hru,hc] at ht
          cases ht
          refine .inr (.inr ⟨?_,?_⟩)
          · rw [hru]
            exact mem_heldNumbers (mem_of_getElem? hh) ha
          · rw [hru]
            exact Function.update_self _ _ _
        · exact .inl ((Function.update_of_ne hru _ _).trans hc)
      · exact ⟨rfl,.inl hc,hk⟩
    · exact ⟨rfl,.inl hc,hk⟩

section
variable (hproject : ∀ payload : Value, payload.isDict = true → (project payload).isDict = true)
include hproject

lemma call_effect (hc : hub.allocator.counters run = some cu)
    (hon : OnRun run call) : CallEffect run cu hub (step project hub call) := by
  cases call with
  | relayPayload tid payload re =>
    obtain ⟨hu,hn⟩ := numbered_counter hc tid payload re
    exact ⟨hu,hn.imp_right .inl,fun _ h => .inl h⟩
  | holdPayload tid payload re =>
    obtain ⟨hu,hn⟩ := numbered_counter hc tid payload re
    refine ⟨hu,hn.imp_right .inl,?_⟩
    intro fr hf
    rw [step_holdPayload_held] at hf
    rcases mem_append.1 hf with hold | hnew
    · exact .inl hold
    · rw [mem_singleton.1 hnew]
      refine .inr fun hru => ?_
      obtain ⟨hd,hre⟩ := hon hru
      dsimp only at hru
      rw [hru,hre,numbered_some hc (hproject payload hd)]
      exact ⟨rfl,stampSequence_isDict (hproject payload hd) _⟩
  | publishHeld i =>
    unfold step RelayHub.publishHeld
    dsimp only
    cases hh : hub.held[i]? with
    | none => exact ⟨rfl,.inl hc,fun _ h => .inl h⟩
    | some fr => exact ⟨rfl,.inl hc,fun _ h => .inl (mem_of_mem_eraseIdx h)⟩
  | releaseHeld i => exact releaseHeld_effect hc i
  | _ => exact hon.elim

end

lemma CallEffect.numbered (h : CallEffect run cu hub ne)
    (hnu : NumberedRun run hub) : NumberedRun run ne := by
  refine ⟨?_,?_,?_⟩
  · rcases h.counter with hc | hc | ⟨-,hc⟩ <;> rw [hc] <;> rfl
  · rw [h.unnumbered]
    exact hnu.served
  · intro fr hf hru
    rcases h.held fr hf with hold | hn
    · exact hnu.held fr hold hru
    · rw [(hn hru).1]
      exact ⟨rfl,(hn hru).2⟩

/-- A number that the run has reached and does not hold stays so: a new number is above it,
and one given back is another. -/
lemma CallEffect.reached (h : CallEffect run cu hub ne)
    (hc : hub.allocator.counters run = some cu) (hre : Reached run hub ma) :
    Reached run ne ma := by
  obtain ⟨hle,hu⟩ := hre
  have hm := hle cu hc
  constructor
  · intro value hv
    rcases h.counter with hnex | hnex | ⟨hh,hnex⟩
    · rw [hnex] at hv
      cases hv
      exact hm
    · rw [hnex] at hv
      cases hv
      exact Nat.le_succ_of_le hm
    · rw [hnex] at hv
      cases hv
      have hne : ma ≠ cu := by
        rintro rfl
        exact hu hh
      omega
  · intro hme
    obtain ⟨fr,hf,heq⟩ := mem_filterMap.1 hme
    obtain ⟨n,hn,hp⟩ := Option.map_eq_some_iff.1 heq
    cases hp
    rcases h.held fr hf with hold | hnew
    · exact hu (mem_heldNumbers hold hn)
    · rw [(hnew rfl).1] at hn
      cases hn
      exact absurd hm (Nat.not_succ_le_self cu)

structure FannedFrame (run : String) (hub next : Hub) (frame : Published) : Prop where
  published : frame ∈ next.published
  thread : frame.threadId = run
  numbered : frame.allocation.isSome = true
  isDict : frame.frame.isDict = true
  relayed : frame.held = false → ∃ current, hub.allocator.counters run = some current ∧
    frame.allocation = some (current + 1)

lemma fannedOut_append (h : ne.published = hub.published ++ [fr]) :
    fannedOut run hub ne = if fr.threadId = run then [fr] else [] := by
  rw [fannedOut,h,drop_left,filter_singleton,Bool.cond_decide]

lemma fannedOut_same (h : ne.published = hub.published) : fannedOut run hub ne = [] := by
  rw [fannedOut,h,drop_length,filter_nil]

lemma call_fans (hproject : ∀ payload : Value, payload.isDict = true →
    (project payload).isDict = true) (hn : NumberedRun run hub)
    (hon : OnRun run call) :
    fannedOut run hub (step project hub call) = [] ∨
      ∃ fr, fannedOut run hub (step project hub call) = [fr] ∧
        FannedFrame run hub (step project hub call) fr := by
  obtain ⟨cu,hc⟩ := Option.isSome_iff_exists.1 hn.counter
  cases call with
  | relayPayload tid payload re =>
    rw [fannedOut_append step_relayPayload_published]
    split_ifs with hru
    · dsimp only at hru
      obtain ⟨hd,hre⟩ := hon hru
      have hs := numbered_some hc (hproject payload hd)
      refine .inr ⟨_,rfl,?_,hru,?_,?_,fun _ => ⟨cu,hc,?_⟩⟩
      · rw [step_relayPayload_published]
        exact mem_append_right _ mem_cons_self
      all_goals
        dsimp only
        rw [hru,hre,hs]
      · rfl
      · exact stampSequence_isDict (hproject payload hd) _
    · exact .inl rfl
  | holdPayload tid payload re => exact .inl (fannedOut_same rfl)
  | publishHeld i =>
    cases hh : hub.held[i]? with
    | none =>
      refine .inl (fannedOut_same ?_)
      rw [step,RelayHub.publishHeld,hh]
    | some held =>
      have ha : (step project hub (.publishHeld i)).published =
          hub.published ++ [⟨held.threadId,held.frame,held.allocation,true⟩] := by
        rw [step,RelayHub.publishHeld,hh]
      rw [fannedOut_append ha]
      split_ifs with hru
      · have hf := hn.held held (mem_of_getElem? hh) hru
        refine .inr ⟨_,rfl,?_,hru,hf.1,hf.2,fun h => by cases h⟩
        rw [ha]
        exact mem_append_right _ mem_cons_self
      · exact .inl rfl
  | releaseHeld i =>
    refine .inl (fannedOut_same ?_)
    rw [step,RelayHub.releaseHeld]
    cases hub.held[i]? <;> rfl
  | _ => exact hon.elim

/-- What holds between the state in which the viewer subscribed and a later one. -/
structure Follows (run : String) (start s : Watched) : Prop where
  sound : Sound s.hub
  carried : Carried s.hub
  numbered : NumberedRun run s.hub
  reached : Reached run s.hub start.viewer.highestEmitted
  fanned : ∀ frame ∈ s.fanned, frame ∈ s.hub.published ∧ frame.threadId = run ∧
    frame.allocation.isSome = true ∧ frame.frame.isDict = true
  above : ∀ frame ∈ s.fanned, frame.held = false → ∀ n, frame.allocation = some n →
    start.viewer.highestEmitted < n
  turns : s.fanned.Pairwise fun first second => second.held = false →
    ∀ m n, first.allocation = some m → second.allocation = some n → m < n
  stream : live true start.viewer (s.fanned.map Published.frame) =
    ((live true s.viewer s.queue).1,s.emitted ++ (live true s.viewer s.queue).2)

section
variable {start s s' : Watched}

lemma Subscribes.follows (h : Subscribes run start) (hre : Run (Moves project) {} cs start.hub) :
    Follows run start start := by
  obtain ⟨hs,hc⟩ := run_sound hre
  refine ⟨hs,hc,h.numbered,h.reached,?_,?_,?_,?_⟩
  · simp [h.fanned]
  · simp [h.fanned]
  · rw [h.fanned]
    exact List.Pairwise.nil
  · rw [h.fanned,h.queue,h.emitted]
    rfl

lemma Follows.le_counter (h : Follows run start s) (hc : s.hub.allocator.counters run = some cu)
    (hf : fr ∈ s.fanned) (hn : fr.allocation = some n) : n ≤ cu := by
  obtain ⟨hp,ht,-,-⟩ := h.fanned fr hf
  refine h.sound.le_counter hc (mem_append_left _ ?_)
  refine mem_filterMap.2 ⟨fr,hp,?_⟩
  rw [hn,ht,Option.map_some]

lemma Follows.stream_call (h : Follows run start s) (fm : List Published)
    (qu : List Value) (hq : qu = s.queue ++ fm.map Published.frame) :
    live true start.viewer ((s.fanned ++ fm).map Published.frame) =
      ((live true s.viewer qu).1,s.emitted ++ (live true s.viewer qu).2) := by
  rw [map_append,live_append,h.stream,hq,live_append,append_assoc]

lemma step_published_mono (call : Call) (h : fr ∈ hub.published) :
    fr ∈ (step project hub call).published := by
  cases call with
  | relayPayload tid payload re => exact mem_append_left _ h
  | publishHeld i =>
    rw [step,RelayHub.publishHeld]
    cases hub.held[i]? with
    | none => exact h
    | some held => exact mem_append_left _ h
  | releaseHeld i =>
    rw [step,RelayHub.releaseHeld]
    cases hub.held[i]? <;> exact h
  | _ => exact h

lemma Follows.call (h : Follows run start s) (hproject : ∀ payload : Value,
    payload.isDict = true → (project payload).isDict = true) {call : Call} (hon : OnRun run call)
    (hro : ma = 0 ∨ s.queue.length < ma) :
    Follows run start (turn project run ma s (.call call)) := by
  obtain ⟨cu,hc⟩ := Option.isSome_iff_exists.1 h.numbered.counter
  have hef := call_effect hproject hc hon
  have hp : Proper s.hub call := by
    cases call with
    | seedEnds | release => exact hon.elim
    | _ => trivial
  have hs : Sound (step project s.hub call) := step_sound h.sound h.carried hp
  have hca : Carried (step project s.hub call) := step_carried h.carried call
  have hfa : ∀ fr ∈ s.fanned, fr ∈ (step project s.hub call).published ∧
      fr.threadId = run ∧ fr.allocation.isSome = true ∧ fr.frame.isDict = true :=
    fun fr hf => (h.fanned fr hf).imp_left (step_published_mono call)
  rcases call_fans hproject h.numbered hon with hno | ⟨fr,ho,hf⟩
  · rw [turn,hno,append_nil]
    exact ⟨hs,hca,hef.numbered h.numbered,hef.reached hc h.reached,hfa,h.above,h.turns,h.stream⟩
  · rw [turn,ho]
    refine ⟨hs,hca,hef.numbered h.numbered,hef.reached hc h.reached,?_,?_,?_,?_⟩
    · refine forall_mem_append.2 ⟨hfa,forall_mem_singleton.2 ?_⟩
      exact ⟨hf.published,hf.thread,hf.numbered,hf.isDict⟩
    · refine forall_mem_append.2 ⟨h.above,forall_mem_singleton.2 ?_⟩
      intro hre n hn
      obtain ⟨value,hv,hnu⟩ := hf.relayed hre
      rw [hn] at hnu
      cases hnu
      exact Nat.lt_succ_of_le (h.reached.1 value hv)
    · refine pairwise_append.2 ⟨h.turns,pairwise_singleton _ _,?_⟩
      intro first hfi second hse hre m n hm hn
      rw [mem_singleton.1 hse] at hre hn
      obtain ⟨value,hv,hnu⟩ := hf.relayed hre
      rw [hn] at hnu
      cases hnu
      exact Nat.lt_succ_of_le (h.le_counter hv hfi hm)
    · refine h.stream_call [fr] _ ?_
      rw [foldl_cons,foldl_nil,deliverBounded_room _ hro,map_singleton]

lemma Follows.take (h : Follows run start s) : Follows run start (turn project run ma s .take) := by
  rw [turn]
  split
  · exact h
  · rename_i x qu hq
    split_ifs with hc
    · exact h
    · refine ⟨h.sound,h.carried,h.numbered,h.reached,h.fanned,h.above,h.turns,?_⟩
      dsimp only
      rw [h.stream,hq,live,if_neg hc,replayIsServed_numbered h.numbered,append_assoc]

lemma run_follows (hproject : ∀ payload : Value, payload.isDict = true →
    (project payload).isDict = true) (hre : Run (Moves project) {} cs start.hub)
    (hs : Subscribes run start)
    (hru : Run (Watches project run ma) start tu s) :
    Follows run start s := by
  refine hru.invariant (Follows run start) ?_ (hs.follows hre)
  rintro s t s' h ⟨hm,rfl⟩
  cases t with
  | call call => exact h.call hproject hm.1 hm.2
  | take => exact h.take

lemma Follows.retained (h : Follows run start s) (hf : fr ∈ s.fanned) :
    retainedSequence fr.frame = fr.allocation := by
  obtain ⟨hpu,-,hs,-⟩ := h.fanned fr hf
  obtain ⟨n,hn⟩ := Option.isSome_iff_exists.1 hs
  obtain ⟨hp,hge⟩ := h.carried.published fr hpu n hn
  rw [retainedSequence_of_get hge hp,hn]

lemma Follows.ascending_iff (h : Follows run start s) (hfr : fm.Sublist s.fanned) :
    Ascending start.viewer.highestEmitted (fm.map Published.frame) ↔
      HeldInTurn start.viewer.highestEmitted fm := by
  have ha : ∀ fr ∈ fm, fr.held = false → ∀ n, fr.allocation = some n →
      start.viewer.highestEmitted < n := fun fr hf => h.above fr (hfr.subset hf)
  have ht := h.turns.sublist hfr
  have hre : ∀ fr ∈ fm, retainedSequence fr.frame = fr.allocation :=
    fun fr hf => h.retained (hfr.subset hf)
  unfold Ascending
  rw [forall_mem_map,pairwise_map]
  constructor
  · rintro ⟨hma,hp⟩
    constructor
    · intro fr hf _ n hn
      exact hma fr hf n ((hre fr hf).trans hn)
    · refine hp.imp_of_mem ?_
      intro first second hfi hs hlt _ m n hm hn
      exact hlt m n ((hre first hfi).trans hm) ((hre second hs).trans hn)
  · rintro ⟨hma,hp⟩
    constructor
    · intro fr hf n hn
      rw [hre fr hf] at hn
      cases hh : fr.held with
      | true => exact hma fr hf hh n hn
      | false => exact ha fr hf hh n hn
    · refine (hp.and ht).imp_of_mem ?_
      rintro first second hfi hs ⟨hhe,hrel⟩ m n hm hn
      rw [hre first hfi] at hm
      rw [hre second hs] at hn
      cases hh : second.held with
      | true => exact hhe hh m n hm hn
      | false => exact hrel hh m n hm hn

/-- A viewer that has read its queue has emitted every frame of the run, up to the first
terminal one, exactly when no held frame was published behind a later number. -/
theorem viewer_emits_iff (hproject : ∀ payload : Value, payload.isDict = true →
    (project payload).isDict = true) {calls : List Call}
    (hreach : Run (Moves project) {} calls start.hub) (hstart : Subscribes run start)
    {turns : List Turn} (hrun : Run (Watches project run maxsize) start turns s)
    (hread : s.queue = [] ∨ s.viewer.closed = true) :
    s.emitted = (through (fun frame => isTerminalFrame frame.frame) s.fanned).map Published.frame ↔
      HeldInTurn start.viewer.highestEmitted
        (through (fun frame => isTerminalFrame frame.frame) s.fanned) := by
  have h := run_follows hproject hreach hstart hrun
  have hre : live true s.viewer s.queue = (s.viewer,[]) := by
    rcases hread with hemp | hc
    · rw [hemp]
      rfl
    · exact live_closed true hc
  have hem : (live true start.viewer (s.fanned.map Published.frame)).2 = s.emitted := by
    rw [h.stream,hre]
    exact append_nil _
  have hd : ∀ item ∈ s.fanned.map Published.frame, item.isDict = true :=
    forall_mem_map.2 fun frame hf => (h.fanned frame hf).2.2.2
  rw [← hem,← h.ascending_iff (through_sublist _ s.fanned),← through_map]
  exact live_emits_iff hstart.isOpen hd

end

end

/-! A terminal frame that is numbered, overtaken and then published. -/

def progressPayload : Value := .dict [(.str "type",.str "message_chunk")]

def terminalPayload : Value := .dict [(.str "type",.str threadTerminal)]

def establishing : List Call := [.seedBegins "run",.seedEnds (.marks none none)]

def establishedHub : Hub := establishing.foldl (step id) {}

lemma establishing_run : Run (Moves id) {} establishing establishedHub := by
  refine .step ⟨trivial,rfl⟩ (.single ⟨?_,rfl⟩)
  rintro run ⟨⟩
  decide +kernel

lemma establishedHub_subscribes : Subscribes "run" { hub := establishedHub } := by
  refine ⟨⟨by decide +kernel,by decide +kernel,?_⟩,⟨fun _ _ => Nat.zero_le _,?_⟩,rfl,rfl,rfl,rfl⟩
  · exact fun _ h => (not_mem_nil h).elim
  · exact not_mem_nil

def settledAtOnce : List Turn := [.call (.relayPayload "run" progressPayload true),.take,
    .call (.holdPayload "run" terminalPayload true),.call (.publishHeld 0),.take]

def overtaken : List Turn := [.call (.relayPayload "run" progressPayload true),.take,
    .call (.holdPayload "run" terminalPayload true),
    .call (.relayPayload "run" progressPayload true),.take,.call (.publishHeld 0),.take]

lemma settledAtOnce_run : Run (Watches id "run" 0) { hub := establishedHub } settledAtOnce
    (settledAtOnce.foldl (turn id "run" 0) { hub := establishedHub }) :=
  .step ⟨⟨fun _ => ⟨rfl,rfl⟩,.inl rfl⟩,rfl⟩ (.step ⟨trivial,rfl⟩
    (.step ⟨⟨fun _ => ⟨rfl,rfl⟩,.inl rfl⟩,rfl⟩ (.step ⟨⟨trivial,.inl rfl⟩,rfl⟩
      (.single ⟨trivial,rfl⟩))))

theorem viewer_emits_settled_at_once :
    let s := settledAtOnce.foldl (turn id "run" 0) { hub := establishedHub }
    (s.viewer.closed = true ∧ s.fanned.map Published.allocation = [some 1,some 2] ∧
        s.emitted.map retainedSequence = [some 1,some 2]) ∧
      (s.emitted =
        (through (fun frame => isTerminalFrame frame.frame) s.fanned).map Published.frame ↔
        HeldInTurn 0 (through (fun frame => isTerminalFrame frame.frame) s.fanned)) := by
  have hc : (settledAtOnce.foldl (turn id "run" 0)
    { hub := establishedHub }).viewer.closed = true := by decide +kernel
  have hid : ∀ payload : Value, payload.isDict = true → (id payload).isDict = true := fun _ h => h
  exact ⟨⟨hc,by decide +kernel,by decide +kernel⟩,viewer_emits_iff hid establishing_run
    establishedHub_subscribes settledAtOnce_run (.inr hc)⟩

/-- The viewer takes the terminal frame for a repeat and goes on waiting. -/
theorem overtaken_terminal_dropped :
    ∃ s, Run (Watches id "run" 0) { hub := establishedHub } overtaken s ∧
      s.fanned.map Published.allocation = [some 1,some 3,some 2] ∧
      s.fanned.map (fun frame => isTerminalFrame frame.frame) = [false,false,true] ∧
      s.emitted.map retainedSequence = [some 1,some 3] ∧ s.queue = [] ∧
      s.viewer.closed = false :=
  ⟨overtaken.foldl (turn id "run" 0) { hub := establishedHub },
    .step ⟨⟨fun _ => ⟨rfl,rfl⟩,.inl rfl⟩,rfl⟩ (.step ⟨trivial,rfl⟩
      (.step ⟨⟨fun _ => ⟨rfl,rfl⟩,.inl rfl⟩,rfl⟩ (.step ⟨⟨fun _ => ⟨rfl,rfl⟩,.inl rfl⟩,rfl⟩
        (.step ⟨trivial,rfl⟩ (.step ⟨⟨trivial,.inl rfl⟩,rfl⟩ (.single ⟨trivial,rfl⟩)))))),
    by decide +kernel,by decide +kernel,by decide +kernel,rfl,by decide +kernel⟩

end VaultspecA2A.ThreadStream
