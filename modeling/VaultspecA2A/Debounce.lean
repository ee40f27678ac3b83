import Mathlib.Algebra.Group.Basic
import Mathlib.Data.List.Sort

/-!
# Debounced sending

Events are sent under keys. An event that comes when enough time has passed since the last one
of its key was sent directly is sent at once; otherwise it is held, in the place of one that was
held before, and a timer sends what is held when it fires. Whether something is held plays no
part in the first decision.

The section at the end is about order. The events carry numbers that grow with each event of a
key, and the numbers sent under a key stay in order exactly as long as no timer sends an event
that was overtaken: one after which an event of the same key was sent directly.

Times are of any ordered type with differences.
-/
namespace VaultspecA2A.Debounce
open List Option Function

structure Policy (T : Type*) where
  interval : T
  /-- Whether every held event gets a timer, or only one that is held where none was. -/
  timerEach : Bool
  /-- How many keys have their last time remembered. -/
  maxEntries : Option ℕ := none

structure Debouncer (K E T : Type*) where
  /-- When the last event of a key was sent directly. -/
  lastEmit : List (K × T) := []
  pending : K → Option E := fun _ => none
  /-- The timers that wait, with the time at which each was started. -/
  timers : List (K × T) := []
  /-- Whether an event of the key was sent since the pending one was held. -/
  overtaken : K → Bool := fun _ => false

section
variable {K E T : Type*} [DecidableEq K] [AddGroup T] [LinearOrder T]
variable (policy : Policy T) (d : Debouncer K E T) (k : K)

/-- Remove the entries with the oldest times until `maxEntries` are left. -/
def evictOldest (entries : List (K × T)) (maxEntries : ℕ) : List (K × T) :=
  let oldest := (entries.insertionSort fun first second => first.2 ≤ second.2).take
    (entries.length - maxEntries)
  entries.filter fun entry => entry.1 ∉ oldest.map Prod.fst

def setLastEmit (now : T) : List (K × T) :=
  let entries :=
    if d.lastEmit.any fun entry => entry.1 = k then
      d.lastEmit.map fun entry => if entry.1 = k then (k,now) else entry
    else d.lastEmit ++ [(k,now)]
  match policy.maxEntries with
  | some maxEntries => evictOldest entries maxEntries
  | none => entries

/-- The interval has passed since the last event of the key was sent directly. -/
def Direct (now : T) : Prop := policy.interval ≤ now - (d.lastEmit.lookup k).getD 0

instance (now : T) : Decidable (Direct policy d k now) := inferInstanceAs (Decidable (_ ≤ _))

/-- Send an event or hold it; the second part is what is sent. -/
def emits (event : E) (now : T) : Debouncer K E T × Option E :=
  if Direct policy d k now then
    ({ d with
        lastEmit := setLastEmit policy d k now
        overtaken := Function.update d.overtaken k (d.pending k).isSome },
      some event)
  else
    ({ d with
        pending := Function.update d.pending k (some event)
        timers :=
          if policy.timerEach || (d.pending k).isNone then d.timers ++ [(k,now)] else d.timers
        overtaken := Function.update d.overtaken k false },
      none)

def Due (started now : T) : Prop := (k,started) ∈ d.timers ∧ policy.interval ≤ now - started

instance (started now : T) : Decidable (Due policy d k started now) :=
  inferInstanceAs (Decidable (_ ∧ _))

def fires (started now : T) : Debouncer K E T × Option E :=
  if Due policy d k started now then
    ({ d with
        pending := Function.update d.pending k none
        timers := d.timers.erase (k,started)
        overtaken := Function.update d.overtaken k false },
      d.pending k)
  else (d,none)

def forgets (gone : K → Bool) : Debouncer K E T :=
  { d with lastEmit := d.lastEmit.filter fun entry => !gone entry.1 }

end

section
variable {K E T : Type*} [DecidableEq K] [AddGroup T] [LinearOrder T]
 {d : Debouncer K E T} {k o : K} {event e : E}

lemma emits_cases (po : Policy T) (d : Debouncer K E T) (k : K) (e : E) (now : T) :
    (Direct po d k now ∧ (emits po d k e now).2 = some e ∧
      (emits po d k e now).1.pending = d.pending ∧
      (emits po d k e now).1.overtaken = Function.update d.overtaken k (d.pending k).isSome) ∨
    (¬ Direct po d k now ∧ (emits po d k e now).2 = none ∧
      (emits po d k e now).1.pending = Function.update d.pending k (some e) ∧
      (emits po d k e now).1.overtaken = Function.update d.overtaken k false) := by
  unfold emits
  by_cases hd : Direct po d k now
  · rw [if_pos hd]
    exact .inl ⟨hd,rfl,rfl,rfl⟩
  · rw [if_neg hd]
    exact .inr ⟨hd,rfl,rfl,rfl⟩

lemma fires_cases (po : Policy T) (d : Debouncer K E T) (k : K) (st now : T) :
    (¬ Due po d k st now ∧ fires po d k st now = (d,none)) ∨
    (Due po d k st now ∧ (fires po d k st now).2 = d.pending k ∧
      (fires po d k st now).1.pending = Function.update d.pending k none ∧
      (fires po d k st now).1.overtaken = Function.update d.overtaken k false) := by
  unfold fires
  split_ifs with hd
  · exact .inr ⟨hd,rfl,rfl,rfl⟩
  · exact .inl ⟨hd,rfl⟩

/-- Every held event is one that may be sent under its key. -/
def Holds (P : K → E → Prop) (d : Debouncer K E T) : Prop :=
  ∀ k event, d.pending k = some event → P k event

omit [AddGroup T] [LinearOrder T] in
lemma Holds.update {P : K → E → Prop} (h : Holds P d) {d' : Debouncer K E T} {value : Option E}
    (hp : d'.pending = Function.update d.pending k value)
    (hv : ∀ e, value = some e → P k e) : Holds P d' := by
  intro o e hev
  rw [hp] at hev
  by_cases hk : o = k
  · subst hk
    rw [update_self] at hev
    exact hv e hev
  · rw [update_of_ne hk] at hev
    exact h o e hev

lemma Holds.emits {P : K → E → Prop} (h : Holds P d) (hev : P k e) :
    Holds P (emits po d k e now).1 := by
  rcases emits_cases po d k e now with ⟨-,-,hp,-⟩ | ⟨-,-,hp,-⟩
  · intro o held hh
    rw [hp] at hh
    exact h o held hh
  · refine h.update hp ?_
    rintro _ ⟨⟩
    exact hev

lemma Holds.fires {P : K → E → Prop} (h : Holds P d) : Holds P (fires po d k st now).1 := by
  rcases fires_cases po d k st now with ⟨-,hs⟩ | ⟨-,-,hp,-⟩
  · rw [hs]
    exact h
  · refine h.update hp ?_
    rintro _ ⟨⟩

end

/-- The numbers sent under a key are at most `top`. So is the number of the held event, which is
above all of them unless it was overtaken. -/
structure Tracks {K E T : Type*} (number : E → ℕ) (d : Debouncer K E T) (k : K) (numbers : List ℕ)
    (top : ℕ) : Prop where
  sent : ∀ n ∈ numbers, n ≤ top
  held : ∀ event, d.pending k = some event → number event ≤ top ∧
    if d.overtaken k then ∃ n ∈ numbers, number event < n else ∀ n ∈ numbers, n < number event

section
variable {K E T : Type*} [DecidableEq K] [AddGroup T] [LinearOrder T]
 {d d' : Debouncer K E T} {k o : K}
 {nu : E → ℕ} {numbers : List ℕ} {top : ℕ}

omit [DecidableEq K] [AddGroup T] [LinearOrder T] in
lemma Tracks.kept (h : Tracks nu d k numbers top) (hp : d'.pending k = d.pending k)
    (ho : d'.overtaken k = d.overtaken k) (ht : top ≤ tp) :
    Tracks nu d' k numbers tp := by
  constructor
  · exact fun n hn => le_trans (h.sent n hn) ht
  · intro e hev
    rw [hp] at hev
    rw [ho]
    exact ⟨le_trans (h.held e hev).1 ht,(h.held e hev).2⟩

lemma Tracks.emits_other (h : Tracks nu d k numbers top) (hne : k ≠ o)
    (ht : top ≤ tp) : Tracks nu (emits po d o e now).1 k numbers tp := by
  rcases emits_cases po d o e now with
    ⟨-,-,hp,ho⟩ | ⟨-,-,hp,ho⟩
  · refine h.kept (by rw [hp]) ?_ ht
    rw [ho,update_of_ne hne]
  · refine h.kept ?_ ?_ ht
    · rw [hp,update_of_ne hne]
    · rw [ho,update_of_ne hne]

lemma Tracks.fires_other (h : Tracks nu d k numbers top) (hne : k ≠ o) :
    Tracks nu (fires po d o st now).1 k numbers top := by
  rcases fires_cases po d o st now with ⟨-,hs⟩ | ⟨-,-,hp,ho⟩
  · rw [hs]
    exact h
  · refine h.kept ?_ ?_ (Nat.le_refl top)
    · rw [hp,update_of_ne hne]
    · rw [ho,update_of_ne hne]

lemma Tracks.emits (h : Tracks nu d k numbers top) (hnew : top < nu e) :
    Tracks nu (emits po d k e now).1 k
      (numbers ++ ((emits po d k e now).2.map nu).toList) (nu e) := by
  have hb : ∀ n ∈ numbers, n < nu e := fun n hn => Nat.lt_of_le_of_lt (h.sent n hn) hnew
  rcases emits_cases po d k e now with
    ⟨-,hs,hp,ho⟩ | ⟨-,hs,hp,ho⟩
  · rw [hs,map_some,toList_some]
    constructor
    · refine forall_mem_append.2 ⟨fun n hn => Nat.le_of_lt (hb n hn),?_⟩
      exact forall_mem_singleton.2 (Nat.le_refl _)
    · intro held hh
      rw [hp] at hh
      have hle := Nat.lt_of_le_of_lt (h.held held hh).1 hnew
      rw [ho,update_self,hh,isSome_some,if_pos rfl]
      exact ⟨Nat.le_of_lt hle,nu e,mem_append_right _ (mem_singleton_self _),hle⟩
  · rw [hs,map_none,toList_none,append_nil]
    constructor
    · exact fun n hn => Nat.le_of_lt (hb n hn)
    · intro held hh
      rw [hp,update_self,Option.some.injEq] at hh
      rw [ho,update_self,← hh]
      exact ⟨Nat.le_refl _,hb⟩

lemma Tracks.fires (h : Tracks nu d k numbers top) : Tracks nu (fires po d k st now).1 k
    (numbers ++ ((fires po d k st now).2.map nu).toList) top := by
  rcases fires_cases po d k st now with ⟨-,hs⟩ | ⟨-,hse,hp,-⟩
  · rw [hs,map_none,toList_none,append_nil]
    exact h
  · constructor
    · refine forall_mem_append.2 ⟨h.sent,fun n hn => ?_⟩
      rw [hse,mem_toList,map_eq_some_iff] at hn
      obtain ⟨held,hh,rfl⟩ := hn
      exact (h.held held hh).1
    · intro held hh
      rw [hp,update_self] at hh
      cases hh

/-- An event that comes in is numbered above what was sent, whether it is sent or held. -/
lemma Tracks.emits_ordered (h : Tracks nu d k numbers top) (hnew : top < nu e)
    (ho : numbers.Pairwise (· < ·)) :
    (numbers ++ ((Debounce.emits po d k e now).2.map nu).toList).Pairwise (· < ·) := by
  rcases emits_cases po d k e now with ⟨-,hs,-⟩ | ⟨-,hs,-⟩
  · rw [hs,map_some,toList_some,pairwise_append]
    refine ⟨ho,pairwise_singleton _ _,fun n hn m hm => ?_⟩
    rw [mem_singleton.1 hm]
    exact Nat.lt_of_le_of_lt (h.sent n hn) hnew
  · rw [hs,map_none,toList_none,append_nil]
    exact ho

lemma Tracks.fires_ordered_iff (h : Tracks nu d k numbers top) (hor : numbers.Pairwise (· < ·)) :
    (numbers ++ ((Debounce.fires po d k st now).2.map nu).toList).Pairwise (· < ·) ↔
      (Due po d k st now → d.pending k ≠ none → d.overtaken k = false) := by
  rcases fires_cases po d k st now with ⟨hi,hs⟩ | ⟨hd,hse,-,-⟩
  · rw [hs,map_none,toList_none,append_nil]
    exact iff_of_true hor fun hd => (hi hd).elim
  · rw [hse]
    cases hh : d.pending k with
    | none =>
      rw [map_none,toList_none,append_nil]
      exact iff_of_true hor fun _ hne => (hne rfl).elim
    | some e =>
      obtain ⟨-,ho⟩ := h.held e hh
      rw [map_some,toList_some,pairwise_append]
      cases hov : d.overtaken k with
      | false =>
        rw [hov] at ho
        refine iff_of_true ⟨hor,pairwise_singleton _ _,fun n hn m hm => ?_⟩
          fun _ _ => rfl
        rw [mem_singleton.1 hm]
        exact ho n hn
      | true =>
        rw [hov] at ho
        obtain ⟨n,hn,hlt⟩ := ho
        refine iff_of_false ?_ fun hnev => ?_
        · rintro ⟨-,-,hb⟩
          exact Nat.lt_asymm hlt (hb n hn _ (mem_singleton_self _))
        · cases hnev hd (some_ne_none e)

end

end VaultspecA2A.Debounce
