import VaultspecA2A.PyValue
import Mathlib.Algebra.GroupWithZero.Nat
import Mathlib.Data.List.Perm.Basic

/-!
# Bounded buffers of events

Two buffers of events are bounded: the queue of each viewer of a run, and the worker's
buffer of events on their way out. A full one gives up an entry by one rule, the oldest that
is not an outcome of the run; when every entry is one, the oldest.

The hub counts what a viewer's queue gave up, and the viewer's loop takes the count and tells
the viewer. The last section follows one queue through deliveries, reads and such notices.
-/
namespace VaultspecA2A.Fanout
open PyValue List Option

/-- The type a relayed payload names, under either key. -/
def wireEventType (payload : Value) : String :=
  ((payload.getStr "type").or (payload.getStr "event_type")).getD ""

def threadTerminal : String := "thread_terminal"

def protectedWireTypes : List String := ["error",threadTerminal]

def isProtectedPayload (payload : Value) : Bool :=
  payload.isDict && decide (wireEventType payload ∈ protectedWireTypes)

section
variable {α : Type*} (isProtected : α → Bool)

def popOldestDroppable (entries : List α) : Option (α × List α) :=
  let index := (entries.findIdx? fun entry => !isProtected entry).getD 0
  entries[index]?.map fun entry => (entry,entries.eraseIdx index)

variable {isProtected}

lemma popOldestDroppable_perm (h : popOldestDroppable isProtected es = some (e,r)) :
    r.Sublist es ∧ es.Perm (e :: r) := by
  unfold popOldestDroppable at h
  obtain ⟨fo,hf,heq⟩ := map_eq_some_iff.1 h
  cases heq
  obtain ⟨hlt,rfl⟩ := List.getElem?_eq_some_iff.1 hf
  exact ⟨eraseIdx_sublist _ _,(getElem_cons_eraseIdx_perm hlt).symm⟩

end

def evictOne (queue : List Value) : Option (List Value) :=
  (popOldestDroppable isProtectedPayload queue).map Prod.snd

structure DeliveryOutcome where
  delivered : Bool
  dropped : ℕ := 0
deriving DecidableEq, Repr

def deliverBounded (maxsize : ℕ) (queue : List Value) (payload : Value) :
    List Value × DeliveryOutcome :=
  let isFull (held : List Value) : Bool := decide (0 < maxsize) && decide (maxsize ≤ held.length)
  let (held,dropped) :=
    if isFull queue then
      match evictOne queue with
      | some rest => (rest,1)
      | none => (queue,0)
    else (queue,0)
  if isFull held then (held,{ delivered := false, dropped := dropped + 1 })
  else (held ++ [payload],{ delivered := true, dropped := dropped })

lemma deliverBounded_room (pl : Value) (h : ma = 0 ∨ qu.length < ma) :
    deliverBounded ma qu pl = (qu ++ [pl],{ delivered := true }) := by
  have hro : (decide (0 < ma) && decide (ma ≤ qu.length)) = false := by
    rw [Bool.and_eq_false_iff,decide_eq_false_iff_not,decide_eq_false_iff_not]
    omega
  unfold deliverBounded
  simp only [hro,Bool.false_eq_true,if_false]

section
variable {α : Type*} {isProtected : α → Bool}

lemma popOldestDroppable_spec (h : es ≠ []) :
    ∃ e r, popOldestDroppable isProtected es = some (e,r) ∧
      (isProtected e = true → ∀ o ∈ es, isProtected o = true) := by
  unfold popOldestDroppable
  cases hi : es.findIdx? fun e => !isProtected e with
  | none =>
    obtain ⟨head,ta,rfl⟩ := exists_cons_of_ne_nil h
    refine ⟨head,ta,by simp,fun _ o ho => ?_⟩
    have ha := findIdx?_eq_none_iff.1 hi o ho
    simpa using ha
  | some i =>
    obtain ⟨hlt,hf,-⟩ := findIdx?_eq_some_iff_getElem.1 hi
    refine ⟨es[i],es.eraseIdx i,by simp [hlt],fun hp => ?_⟩
    simp [hp] at hf

end

lemma deliverBounded_full (pl : Value) (hs : 1 ≤ ma) (hf : qu.length = ma) :
    ∃ e r, popOldestDroppable isProtectedPayload qu = some (e,r) ∧ deliverBounded ma qu pl =
        (r ++ [pl],{ delivered := true, dropped := 1 }) := by
  have hne : qu ≠ [] := ne_nil_of_length_pos (by omega)
  obtain ⟨e,r,hp,-⟩ := @popOldestDroppable_spec _ isProtectedPayload _ hne
  have hl := (popOldestDroppable_perm hp).2.length_eq
  rw [length_cons] at hl
  have hpo : 0 < ma := hs
  have hro : ¬ ma ≤ r.length := by omega
  refine ⟨e,r,hp,?_⟩
  simp [deliverBounded,evictOne,hp,hf,hpo,hro]

/-- The queue of a viewer and the events it lost that were not told yet. The rest is kept for
the statements: the frames handed to the queue with their outcomes, the frames read, the counts
told, and what was given up with the queue it was taken from. -/
structure Subscriber where
  queue : List Value := []
  dropped : ℕ := 0
  delivered : List Value := []
  outcomes : List DeliveryOutcome := []
  read : List Value := []
  told : List ℕ := []
  evicted : List (Value × List Value) := []

inductive QueueEvent
  | deliver (payload : Value)
  | read
  | takeDroppedCount

section
variable (maxsize : ℕ)

def givenUp (queue : List Value) : Option (Value × List Value) :=
  if maxsize ≤ queue.length then
    (popOldestDroppable isProtectedPayload queue).map fun popped => (popped.1,queue)
  else none

def queueStep (s : Subscriber) : QueueEvent → Subscriber
  | .deliver payload =>
    let (queue,outcome) := deliverBounded maxsize s.queue payload
    { s with
      queue
      dropped := s.dropped + outcome.dropped
      delivered := s.delivered ++ [payload]
      outcomes := s.outcomes ++ [outcome]
      evicted := s.evicted ++ (givenUp maxsize s.queue).toList }
  | .read =>
    match s.queue with
    | [] => s
    | frame :: queue => { s with queue, read := s.read ++ [frame] }
  | .takeDroppedCount => { s with dropped := 0, told := s.told ++ [s.dropped] }

end

def droppedCounts (s : Subscriber) : ℕ := (s.outcomes.map DeliveryOutcome.dropped).sum

/-- The queue is bounded and in the order of arrival, outcomes go last, and every frame that
was handed to the queue is accounted for. -/
structure Accounted (maxsize : ℕ) (s : Subscriber) : Prop where
  bounded : s.queue.length ≤ maxsize
  inOrder : s.queue.Sublist s.delivered
  outcomesLast : ∀ entry ∈ s.evicted, isProtectedPayload entry.1 = true →
    ∀ frame ∈ entry.2, isProtectedPayload frame = true
  parts : s.delivered.Perm (s.read ++ (s.queue ++ s.evicted.map Prod.fst))
  counted : droppedCounts s = s.evicted.length
  notices : s.told.sum + s.dropped = droppedCounts s

lemma perm_insert_last {α : Type*} (p q : List α) (la : α) :
    (p ++ q ++ [la]).Perm (p ++ [la] ++ q) := by
  simpa using (perm_append_singleton la (p ++ q)).trans perm_middle.symm

lemma Accounted.deliver (h : Accounted ma s) (hs : 1 ≤ ma) (pl : Value) :
    Accounted ma (queueStep ma s (.deliver pl)) := by
  obtain ⟨hb,ho,hl,hp,hc,hn⟩ := h
  by_cases hro : s.queue.length < ma
  · have hno : givenUp ma s.queue = none := by
      rw [givenUp,if_neg (by omega)]
    simp only [queueStep,deliverBounded_room pl (.inr hro),hno]
    constructor
    · simpa using Nat.succ_le_of_lt hro
    · exact ho.append (.refl [pl])
    · simpa using hl
    · rw [toList_none,append_nil,← append_assoc,← append_assoc]
      rw [← append_assoc] at hp
      exact (hp.append_right [pl]).trans (perm_insert_last _ _ pl)
    · simpa [droppedCounts] using hc
    · simpa [droppedCounts] using hn
  · have hf : s.queue.length = ma := by omega
    obtain ⟨e,r,hpo,hd⟩ := deliverBounded_full pl hs hf
    obtain ⟨hre,hpe⟩ := popOldestDroppable_perm hpo
    have hgi : givenUp ma s.queue = some (e,s.queue) := by
      rw [givenUp,if_pos (by omega),hpo]
      rfl
    have hne : s.queue ≠ [] := ne_nil_of_length_pos (by omega)
    obtain ⟨en,re,hp',hpr⟩ := @popOldestDroppable_spec _ isProtectedPayload _ hne
    rw [hpo,Option.some.injEq,Prod.mk.injEq] at hp'
    rw [← hp'.1] at hpr
    simp only [queueStep,hd,hgi]
    constructor
    · have hle := hpe.length_eq
      rw [length_cons] at hle
      rw [length_append,length_singleton]
      omega
    · exact (hre.trans ho).append (.refl [pl])
    · intro gi hm
      rw [toList_some,mem_append,mem_singleton] at hm
      rcases hm with hold | rfl
      · exact hl gi hold
      · exact hpr
    · have hmo := hp.trans ((hpe.append_right _).append_left s.read)
      refine (hmo.append_right [pl]).trans ?_
      rw [toList_some,map_append,map_singleton,append_assoc]
      refine List.Perm.append_left s.read ?_
      rw [cons_append,cons_append,← append_assoc]
      apply List.Perm.trans _ (perm_append_singleton e _).symm
      exact (perm_insert_last r _ pl).cons e
    · simp only [droppedCounts,map_append,sum_append,toList_some,length_append] at hc ⊢
      simpa using hc
    · simp only [droppedCounts,map_append,sum_append] at hn ⊢
      simp only [map_singleton,sum_singleton]
      omega

lemma Accounted.read (h : Accounted ma s) : Accounted ma (queueStep ma s .read) := by
  obtain ⟨hb,ho,hl,hp,hc,hn⟩ := h
  cases hq : s.queue with
  | nil =>
    simp only [queueStep,hq]
    exact ⟨hb,ho,hl,hp,hc,hn⟩
  | cons fr qu =>
    rw [hq] at hb ho hp
    simp only [queueStep,hq]
    constructor
    · exact Nat.le_of_succ_le hb
    · exact (sublist_cons_self fr qu).trans ho
    · exact hl
    · simpa using hp
    · exact hc
    · exact hn

lemma Accounted.takeDroppedCount (h : Accounted ma s) :
    Accounted ma (queueStep ma s .takeDroppedCount) := by
  refine ⟨h.bounded,h.inOrder,h.outcomesLast,h.parts,h.counted,?_⟩
  have hn := h.notices
  simpa [queueStep,droppedCounts] using hn

lemma queueStep_accounted (h : Accounted ma s) (hs : 1 ≤ ma) (e : QueueEvent) :
    Accounted ma (queueStep ma s e) := by
  cases e with
  | deliver pl => exact h.deliver hs pl
  | read => exact h.read
  | takeDroppedCount => exact h.takeDroppedCount

lemma foldl_accounted (h : Accounted ma s) (hs : 1 ≤ ma) (events : List QueueEvent) :
    Accounted ma (events.foldl (queueStep ma) s) := by
  induction events generalizing s with
  | nil => exact h
  | cons e events ih => exact ih (queueStep_accounted h hs e)

lemma Accounted.count_exact (h : Accounted ma s) :
    droppedCounts s = s.delivered.length - (s.read.length + s.queue.length) := by
  have hl := h.parts.length_eq
  have hc := h.counted
  simp only [length_append,length_map] at hl
  omega

/-- Whatever is delivered and read in whatever order. -/
theorem bounded_deliveries_accounted {maxsize : ℕ} (hsize : 1 ≤ maxsize)
    (events : List QueueEvent) :
    let s := events.foldl (queueStep maxsize) {}
    Accounted maxsize s ∧
      droppedCounts s = s.delivered.length - (s.read.length + s.queue.length) := by
  have hs : Accounted maxsize {} := by
    constructor <;> simp [droppedCounts]
  have hen := foldl_accounted hs hsize events
  exact ⟨hen,hen.count_exact⟩

def frameOf (kind : String) : Value := .dict [(.str "type",.str kind)]

/-- A queue of two: the ordinary frame goes first, and an error when nothing else is left. -/
theorem bounded_deliveries_accounted_two :
    let s := [.deliver (frameOf "error"),.deliver (frameOf "agent_status"),
      .deliver (frameOf "thread_terminal"),.takeDroppedCount,.deliver (frameOf "error"),
      .read].foldl (queueStep 2) {}
    (s.evicted.map fun entry => wireEventType entry.1) = ["agent_status","error"] ∧ (Accounted 2 s ∧
        droppedCounts s = s.delivered.length - (s.read.length + s.queue.length)) :=
  ⟨by decide +kernel,bounded_deliveries_accounted (by decide) _⟩

end VaultspecA2A.Fanout
