import VaultspecA2A.PyValue
import VaultspecA2A.Runs
import Mathlib.Data.List.Perm.Subperm
import Mathlib.Data.List.Nodup

/-!
# The numbers of a run's frames

The gateway relays the frames of its runs and numbers them. The counter of a run lives in
memory. It is established from durable marks, by reads under a lock that other work
interleaves with, and it is forgotten when the run's relay state is purged; the floor it
reached is remembered for the 1024 runs that were forgotten last. A frame is numbered and
published in one step, or it is held with its number until a decision publishes it or gives
the number back.

The state below is that of one process. The projection of a payload is a parameter, and
whether the recorder would keep a frame is an input of the call. Two parts of the state are
kept for the statements only: the numbers taken from the allocator directly and not given
back, and for each run the runs that were forgotten since it was.
-/
namespace VaultspecA2A.RelayHub
open Runs PyValue List

def rememberedFloors : ℕ := 1024

structure RunSequenceAllocator where
  counters : String → Option ℕ := fun _ => none
  unnumbered : String → Bool := fun _ => false
  /-- The floors of forgotten runs, the oldest first. -/
  issued : List (String × ℕ) := []
  /-- The run whose marks are being read, under the lock. -/
  seeding : Option String := none

inductive SeedReads
  | marks (highWaterMark settledSequence : Option ℕ)
  | failed
  | cancelled
deriving DecidableEq, Repr

namespace RunSequenceAllocator
variable (a : RunSequenceAllocator) (run : String)

def established : Bool := (a.counters run).isSome || a.unnumbered run

def seedBegins : RunSequenceAllocator :=
  if a.established run || a.seeding.isSome then a else { a with seeding := some run }

def floor : ℕ := (a.issued.lookup run).getD 0

def seedEnds (reads : SeedReads) : RunSequenceAllocator :=
  match a.seeding, reads with
  | none, _ => a
  | some _, .cancelled => { a with seeding := none }
  | some run, .failed =>
    { a with seeding := none, unnumbered := Function.update a.unnumbered run true }
  | some run, .marks retained settled =>
    let durable := retained.getD (settled.getD 0)
    { a with
      seeding := none
      counters := Function.update a.counters run (some (max durable (a.floor run)))
      issued := a.issued.filter fun entry => entry.1 ≠ run }

def allocate : Option ℕ × RunSequenceAllocator :=
  match a.counters run with
  | none => (none,a)
  | some current =>
    (some (current + 1),
      { a with counters := Function.update a.counters run (some (current + 1)) })

def release (sequence : ℕ) : RunSequenceAllocator :=
  if a.counters run = some sequence then
    { a with counters := Function.update a.counters run (some (sequence - 1)) }
  else a

def issuedHighWater : Option ℕ :=
  if a.unnumbered run then none else (a.counters run).or (a.issued.lookup run)

def isNumbered : Bool := (a.issuedHighWater run).isSome

def forget : RunSequenceAllocator :=
  match a.counters run with
  | none => { a with unnumbered := Function.update a.unnumbered run false }
  | some issued =>
    let entries :=
      (a.issued.filter fun entry => entry.1 ≠ run) ++ [(run,max issued (a.floor run))]
    { a with
      counters := Function.update a.counters run none
      unnumbered := Function.update a.unnumbered run false
      issued := entries.drop (entries.length - rememberedFloors) }

end RunSequenceAllocator

/-- `{**body, "sequence": n}`. -/
def stampSequence (body : Value) (sequence : ℕ) : Value :=
  match body with
  | .dict entries =>
    if entries.any fun entry => entry.1.isKey "sequence" then
      .dict (entries.map fun entry =>
        if entry.1.isKey "sequence" then (entry.1,.int sequence) else entry)
    else .dict (entries ++ [(.str "sequence",.int sequence)])
  | other => other

structure HeldFrame where
  threadId : String
  frame : Value
  allocation : Option ℕ
  published : Bool := false

/-- A frame that was fanned out to the viewers of its run, and whether it had been held. -/
structure Published where
  threadId : String
  frame : Value
  allocation : Option ℕ
  held : Bool

structure Hub where
  allocator : RunSequenceAllocator := {}
  /-- The frames that are held and neither published nor released. -/
  held : List HeldFrame := []
  published : List Published := []
  tickets : List (String × ℕ) := []
  since : String → List String := fun _ => []

section
variable (project : Value → Value)

def numbered (a : RunSequenceAllocator) (threadId : String) (payload : Value) (retained : Bool) :
    Value × Option ℕ × RunSequenceAllocator :=
  let projected := project payload
  if !(retained && projected.isDict) then (projected,none,a)
  else
    match a.allocate threadId with
    | (none,a) => (projected,none,a)
    | (some sequence,a) => (stampSequence projected sequence,some sequence,a)

def relayPayload (hub : Hub) (threadId : String) (payload : Value) (retained : Bool) : Hub :=
  let (frame,allocation,allocator) := numbered project hub.allocator threadId payload retained
  { hub with allocator, published := hub.published ++ [⟨threadId,frame,allocation,false⟩] }

def holdPayload (hub : Hub) (threadId : String) (payload : Value) (retained : Bool) : Hub :=
  let (frame,allocation,allocator) := numbered project hub.allocator threadId payload retained
  { hub with allocator, held := hub.held ++ [⟨threadId,frame,allocation,false⟩] }

def publishHeld (hub : Hub) (index : ℕ) : Hub :=
  match hub.held[index]? with
  | none => hub
  | some held =>
    { hub with
      held := hub.held.eraseIdx index
      published := hub.published ++ [⟨held.threadId,held.frame,held.allocation,true⟩] }

def releaseHeldFrame (a : RunSequenceAllocator) (held : HeldFrame) : RunSequenceAllocator :=
  match held.published, held.allocation with
  | false, some sequence => a.release held.threadId sequence
  | _, _ => a

def releaseHeld (hub : Hub) (index : ℕ) : Hub :=
  match hub.held[index]? with
  | none => hub
  | some held =>
    { hub with
      allocator := releaseHeldFrame hub.allocator held
      held := hub.held.eraseIdx index }

/-- A forgotten run has its list of forgotten runs begun anew and joins those of the others;
a run without a counter has nothing to forget. -/
def forgetRun (hub : Hub) (run : String) : Hub :=
  { hub with
    allocator := hub.allocator.forget run
    since :=
      if (hub.allocator.counters run).isSome then
        fun other => if other = run then [] else (hub.since other).insert run
      else hub.since }

inductive Call
  | seedBegins (run : String)
  | seedEnds (reads : SeedReads)
  | allocate (run : String)
  | release (run : String) (sequence : ℕ)
  | forget (run : String)
  | relayPayload (run : String) (payload : Value) (retained : Bool)
  | holdPayload (run : String) (payload : Value) (retained : Bool)
  | publishHeld (index : ℕ)
  | releaseHeld (index : ℕ)

def step (hub : Hub) : Call → Hub
  | .seedBegins run => { hub with allocator := hub.allocator.seedBegins run }
  | .seedEnds reads => { hub with allocator := hub.allocator.seedEnds reads }
  | .allocate run =>
    { hub with
      allocator := (hub.allocator.allocate run).2
      tickets := hub.tickets ++ ((hub.allocator.allocate run).1.map fun n => (run,n)).toList }
  | .release run sequence =>
    { hub with
      allocator := hub.allocator.release run sequence
      tickets := hub.tickets.erase (run,sequence) }
  | .forget run => forgetRun hub run
  | .relayPayload run payload retained => relayPayload project hub run payload retained
  | .holdPayload run payload retained => holdPayload project hub run payload retained
  | .publishHeld index => publishHeld hub index
  | .releaseHeld index => releaseHeld hub index

/-- What is assumed of a call: a number is given back by the one who took it, and a run is
established again before 1024 others are forgotten. A held frame is published once or released
once, since either takes it off the held ones. -/
def Proper (hub : Hub) : Call → Prop
  | .release run sequence => (run,sequence) ∈ hub.tickets
  | .seedEnds _ => ∀ run, hub.allocator.seeding = some run →
      (hub.since run).length < rememberedFloors
  | _ => True

def Moves (hub : Hub) (call : Call) (next : Hub) : Prop :=
  Proper hub call ∧ next = step project hub call

end

def publishedNumbers (hub : Hub) : List (String × ℕ) :=
  hub.published.filterMap fun frame => frame.allocation.map fun n => (frame.threadId,n)

def heldNumbers (held : List HeldFrame) : List (String × ℕ) :=
  held.filterMap fun frame => frame.allocation.map fun n => (frame.threadId,n)

/-- The numbers on published frames, and those that may still be published or given back. -/
def numbers (hub : Hub) : List (String × ℕ) :=
  publishedNumbers hub ++ (heldNumbers hub.held ++ hub.tickets)

/-- A number of a run is not above its counter, or else not above the floor remembered of
it, unless that floor was lost to 1024 others. -/
def Bounded (a : RunSequenceAllocator) (since : String → List String) (entry : String × ℕ) : Prop :=
  match a.counters entry.1 with
  | some current => entry.2 ≤ current
  | none => (∃ floor, (entry.1,floor) ∈ a.issued ∧ entry.2 ≤ floor) ∨
      rememberedFloors ≤ (since entry.1).length

/-- The numbers in use are different, and the allocator does not come back to one. -/
structure Numbering (a : RunSequenceAllocator) (since : String → List String)
    (used : List (String × ℕ)) : Prop where
  nodup : used.Nodup
  bounded : ∀ entry ∈ used, Bounded a since entry
  unseeded : ∀ run, a.seeding = some run → a.counters run = none
  keys : (a.issued.map Prod.fst).Nodup
  newer : a.issued.Pairwise fun older newer => newer.1 ∈ since older.1

abbrev Sound (hub : Hub) : Prop := Numbering hub.allocator hub.since (numbers hub)

variable {es ns ms : List (String × ℕ)} {current cu : ℕ} {a : RunSequenceAllocator}

section
variable {hub ne : Hub} {run : String} {n : ℕ} {si : String → List String}

lemma lookup_of_mem (hk : (es.map Prod.fst).Nodup) (h : (run,n) ∈ es) : es.lookup run = some n := by
  induction es with
  | nil => cases h
  | cons e es ih =>
    rw [map_cons,nodup_cons] at hk
    rcases mem_cons.1 h with rfl | hm
    · exact lookup_cons_self
    · have hne : run ≠ e.1 := by
        rintro rfl
        exact hk.1 (mem_map.2 ⟨_,hm,rfl⟩)
      rw [lookup_cons,beq_eq_false_iff_ne.2 hne]
      exact ih hk.2 hm

lemma Numbering.subset (h : Numbering a si ns) (hn : ms.Nodup) (hs : ms ⊆ ns) : Numbering a si ms :=
  ⟨hn,fun e hen => h.bounded e (hs hen),h.unseeded,h.keys,h.newer⟩

lemma Numbering.perm (h : Numbering a si ns) (hp : ms.Perm ns) : Numbering a si ms :=
  h.subset (hp.nodup_iff.2 h.nodup) hp.subset

lemma Numbering.le_counter (h : Numbering a si ns) (hc : a.counters run = some cu)
    (hm : (run,m) ∈ ns) : m ≤ cu := by
  have hb := h.bounded _ hm
  unfold Bounded at hb
  rw [hc] at hb
  exact hb

lemma Numbering.recount (h : Numbering a si ns) {value : ℕ} (hc : a.counters run = some cu)
    (hno : ms.Nodup) (hru : ∀ m, (run,m) ∈ ms → m ≤ value)
    (hot : ∀ e ∈ ms, e.1 ≠ run → e ∈ ns) :
    Numbering { a with counters := Function.update a.counters run (some value) } si ms := by
  refine ⟨hno,fun e hen => ?_,fun o ho => ?_,h.keys,h.newer⟩
  · unfold Bounded
    dsimp only
    by_cases hs : e.1 = run
    · rw [hs,Function.update_self]
      exact hru e.2 (hs ▸ hen)
    · rw [Function.update_of_ne hs]
      exact h.bounded e (hot e hen hs)
  · have hn := h.unseeded o ho
    refine (Function.update_of_ne ?_ _ _).trans hn
    rintro rfl
    cases hn.symm.trans hc

lemma Numbering.take (h : Numbering a si ns) (hc : a.counters run = some cu) :
    Numbering { a with counters := Function.update a.counters run (some (cu + 1)) } si
      ((run,cu + 1) :: ns) := by
  have hf : (run,cu + 1) ∉ ns := fun hold =>
    absurd (h.le_counter hc hold) (Nat.not_succ_le_self cu)
  refine h.recount hc (nodup_cons.2 ⟨hf,h.nodup⟩) ?_ ?_
  · intro m hm
    rcases mem_cons.1 hm with heq | hold
    · cases heq
      exact Nat.le_refl _
    · exact Nat.le_succ_of_le (h.le_counter hc hold)
  · intro e hen hne
    refine (mem_cons.1 hen).resolve_left ?_
    rintro rfl
    exact hne rfl

lemma Numbering.giveBack (h : Numbering a si ((run,n) :: ns)) :
    Numbering (a.release run n) si ns := by
  have hn := nodup_cons.1 h.nodup
  unfold RunSequenceAllocator.release
  split_ifs with ht
  · refine h.recount ht hn.2 (fun m hm => ?_) fun e hen _ => .tail _ hen
    have hle := h.le_counter ht (.tail _ hm)
    have hne : m ≠ n := by
      rintro rfl
      exact hn.1 hm
    omega
  · exact h.subset hn.2 (subset_cons_self _ _)

lemma Numbering.seedBegins (h : Numbering a si ns) (run : String) :
    Numbering (a.seedBegins run) si ns := by
  unfold RunSequenceAllocator.seedBegins
  split_ifs with hs
  · exact h
  · refine ⟨h.nodup,h.bounded,?_,h.keys,h.newer⟩
    intro o ho
    cases ho
    simp only [RunSequenceAllocator.established,Bool.or_eq_true,not_or] at hs
    exact Option.not_isSome_iff_eq_none.1 hs.1.1

lemma Numbering.seedEnds (h : Numbering a si ns)
    (hp : ∀ run, a.seeding = some run → (si run).length < rememberedFloors) :
    Numbering (a.seedEnds rd) si ns := by
  unfold RunSequenceAllocator.seedEnds
  split
  · exact h
  · exact ⟨h.nodup,h.bounded,fun _ h => (by cases h),h.keys,h.newer⟩
  · exact ⟨h.nodup,h.bounded,fun _ h => (by cases h),h.keys,h.newer⟩
  · rename_i run re settled hse
    refine ⟨h.nodup,fun e hen => ?_,fun _ h => (by cases h),
      (filter_sublist.map _).nodup h.keys,h.newer.sublist filter_sublist⟩
    have hold := h.bounded e hen
    unfold Bounded at hold ⊢
    dsimp only
    by_cases hs : e.1 = run
    · rw [hs,h.unseeded run hse] at hold
      rw [hs,Function.update_self]
      rcases hold with ⟨floor,hf,hle⟩ | hl
      · dsimp only
        rw [RunSequenceAllocator.floor,lookup_of_mem h.keys hf,Option.getD_some]
        exact Nat.le_trans hle (Nat.le_max_right _ _)
      · exact absurd (hp run hse) (Nat.not_lt.2 hl)
    · rw [Function.update_of_ne hs]
      cases hc : a.counters e.1 with
      | some cu =>
        rw [hc] at hold
        exact hold
      | none =>
        rw [hc] at hold
        refine hold.imp_left ?_
        rintro ⟨floor,hf,hle⟩
        exact ⟨floor,mem_filter.2 ⟨hf,by simpa using hs⟩,hle⟩

/-- The forgotten runs of each run once another one is forgotten. -/
def sinceForgotten (since : String → List String) (run other : String) : List String :=
  if other = run then [] else (since other).insert run

lemma newer_forgotten (run : String) (floor : ℕ)
    (hn : es.Pairwise fun ol newer => newer.1 ∈ si ol.1) :
    ((es.filter fun e => e.1 ≠ run) ++ [(run,floor)]).Pairwise
      fun ol newer => newer.1 ∈ sinceForgotten si run ol.1 := by
  have hne : ∀ e ∈ es.filter (fun e => e.1 ≠ run),
      sinceForgotten si run e.1 = (si e.1).insert run := fun e hen =>
    if_neg (by simpa using (mem_filter.1 hen).2)
  rw [pairwise_append]
  refine ⟨?_,pairwise_singleton _ _,?_⟩
  · refine (List.Pairwise.sublist filter_sublist hn).imp_of_mem ?_
    intro ol newer holder _ hin
    rw [hne ol holder]
    exact mem_insert_of_mem hin
  · intro ol holder newer hin
    rw [hne ol holder,mem_singleton.1 hin]
    exact mem_insert_self

lemma keys_forgotten (run : String) (floor : ℕ) (hk : (es.map Prod.fst).Nodup) :
    (((es.filter fun e => e.1 ≠ run) ++ [(run,floor)]).map Prod.fst).Nodup := by
  rw [map_append,map_singleton,nodup_append]
  refine ⟨(filter_sublist.map _).nodup hk,pairwise_singleton _ _,?_⟩
  intro a ha b hb
  obtain ⟨e,hen,rfl⟩ := mem_map.1 ha
  rw [mem_singleton.1 hb]
  simpa using (mem_filter.1 hen).2

lemma kept_or_outnumbered (hk : (es.map Prod.fst).Nodup)
    (hn : es.Pairwise fun ol newer => newer.1 ∈ si ol.1)
    (hen : e ∈ es) :
    e ∈ es.drop (es.length - rememberedFloors) ∨ rememberedFloors ≤ (si e.1).length := by
  by_cases hd : e ∈ es.drop (es.length - rememberedFloors)
  · exact .inl hd
  right
  have hc := take_append_drop (es.length - rememberedFloors) es
  have ht : e ∈ es.take (es.length - rememberedFloors) := by
    rw [← hc] at hen
    exact (mem_append.1 hen).resolve_right hd
  have hs : (es.drop (es.length - rememberedFloors)).length = rememberedFloors := by
    have hp := length_pos_of_mem ht
    rw [length_take] at hp
    rw [length_drop]
    omega
  rw [← hc,pairwise_append] at hn
  have hin : (es.drop (es.length - rememberedFloors)).map Prod.fst ⊆ si e.1 := by
    intro na hna
    obtain ⟨la,hl,rfl⟩ := mem_map.1 hna
    exact hn.2.2 e ht la hl
  have hno := ((drop_sublist (es.length - rememberedFloors) es).map Prod.fst).nodup hk
  have hle := (hno.subperm hin).length_le
  rw [length_map,hs] at hle
  exact hle

lemma Numbering.forget (h : Numbering a si ns) (hc : a.counters run = some iss) :
    Numbering (a.forget run) (sinceForgotten si run) ns := by
  unfold RunSequenceAllocator.forget
  rw [hc]
  have hk := keys_forgotten run (max iss (a.floor run)) h.keys
  have hn := newer_forgotten run (max iss (a.floor run)) h.newer
  refine ⟨h.nodup,fun e hent => ?_,fun o ho => ?_,?_,?_⟩
  · have hold := h.bounded e hent
    unfold Bounded at hold ⊢
    dsimp only
    by_cases hs : e.1 = run
    · rw [hs,hc] at hold
      rw [hs,Function.update_self]
      refine .inl ⟨max iss (a.floor run),?_,Nat.le_trans hold (Nat.le_max_left _ _)⟩
      rw [drop_append_of_le_length]
      · exact mem_append_right _ (mem_singleton.2 rfl)
      · rw [length_append,length_singleton]
        exact Nat.sub_le_of_le_add (Nat.add_le_add_left (by decide) _)
    rw [Function.update_of_ne hs]
    cases ho : a.counters e.1 with
    | some cu =>
      rw [ho] at hold
      exact hold
    | none =>
      rw [ho] at hold
      rcases hold with ⟨floor,hf,hle⟩ | hl
      · have hen : (e.1,floor) ∈ (a.issued.filter fun e => e.1 ≠ run) ++
            [(run,max iss (a.floor run))] :=
          mem_append_left _ (mem_filter.2 ⟨hf,by simpa using hs⟩)
        exact (kept_or_outnumbered hk hn hen).imp_left fun hke => ⟨floor,hke,hle⟩
      · right
        rw [sinceForgotten,if_neg hs]
        exact Nat.le_trans hl length_le_length_insert
  · by_cases hs : o = run
    · rw [hs]
      exact Function.update_self _ _ _
    · exact (Function.update_of_ne hs _ _).trans (h.unseeded o ho)
  · dsimp only
    exact ((drop_sublist _ _).map _).nodup hk
  · dsimp only
    exact hn.sublist (drop_sublist _ _)

lemma Sound.forgetRun (h : Sound hub) (run : String) : Sound (forgetRun hub run) := by
  unfold RelayHub.forgetRun
  cases hc : hub.allocator.counters run with
  | none =>
    unfold RunSequenceAllocator.forget
    rw [hc]
    exact ⟨h.nodup,h.bounded,h.unseeded,h.keys,h.newer⟩
  | some iss => exact h.forget hc

variable {project : Value → Value}

lemma find?_stamped (key : String) (value : Value) (es : List (Value × Value)) :
    ((es.map fun e => if e.1.isKey key then (e.1,value) else e).find?
        fun e => e.1.isKey key).map Prod.snd =
      (es.find? fun e => e.1.isKey key).map fun _ => value := by
  induction es with
  | nil => rfl
  | cons e es ih =>
    cases hk : e.1.isKey key with
    | true => simp [hk]
    | false => simpa [hk] using ih

lemma stampSequence_get (bo : Value) (hd : bo.isDict = true) (se : ℕ) :
    (stampSequence bo se).get "sequence" = some (.int se) := by
  cases bo with
  | dict es =>
    rw [stampSequence]
    split_ifs with ha
    · obtain ⟨fo,hf⟩ := Option.isSome_iff_exists.1 (find?_isSome.2 (any_eq_true.1 ha))
      rw [Value.get,find?_stamped,hf,Option.map_some]
    · have hn : (es.find? fun e => e.1.isKey "sequence") = none := by
        rw [find?_eq_none]
        exact fun e hen hk => ha (any_eq_true.2 ⟨e,hen,hk⟩)
      rw [Value.get,find?_append,hn,Option.none_or]
      rfl
  | _ => cases hd

lemma allocate_none (h : a.counters run = none) : a.allocate run = (none,a) := by
  unfold RunSequenceAllocator.allocate
  rw [h]

lemma allocate_some (h : a.counters run = some cu) : a.allocate run = (some (cu + 1),
      { a with counters := Function.update a.counters run (some (cu + 1)) }) := by
  unfold RunSequenceAllocator.allocate
  rw [h]

lemma numbered_cases (project : Value → Value) (a : RunSequenceAllocator) (run : String) (pl : Value)
    (re : Bool) :
    ((numbered project a run pl re).2.1 = none ∧ (numbered project a run pl re).2.2 = a) ∨
      ∃ cu, a.counters run = some cu ∧ (numbered project a run pl re).1.get "sequence" =
          some (.int ((cu + 1 : ℕ) : ℤ)) ∧
        (numbered project a run pl re).2.1 = some (cu + 1) ∧
        (numbered project a run pl re).2.2 =
          { a with counters := Function.update a.counters run (some (cu + 1)) } := by
  unfold numbered
  dsimp only
  split
  · exact .inl ⟨rfl,rfl⟩
  · rename_i hk
    have hd : (project pl).isDict = true := by
      simp only [Bool.not_eq_true,Bool.not_eq_false',Bool.and_eq_true] at hk
      exact hk.2
    cases hc : a.counters run with
    | none =>
      rw [allocate_none hc]
      exact .inl ⟨rfl,rfl⟩
    | some cu =>
      rw [allocate_some hc]
      exact .inr ⟨cu,rfl,stampSequence_get _ hd _,rfl,rfl⟩

lemma step_relayPayload_published :
    (step project hub (.relayPayload run pl re)).published = hub.published ++
      [⟨run,(numbered project hub.allocator run pl re).1,
        (numbered project hub.allocator run pl re).2.1,false⟩] := rfl

lemma step_holdPayload_held : (step project hub (.holdPayload run pl re)).held = hub.held ++
      [{ threadId := run
         frame := (numbered project hub.allocator run pl re).1
         allocation := (numbered project hub.allocator run pl re).2.1 }] := rfl

def taken (run : String) (allocation : Option ℕ) : List (String × ℕ) :=
  (allocation.map fun n => (run,n)).toList

lemma Numbering.allocate (h : Numbering a si ns) (run : String) :
    Numbering (a.allocate run).2 si (taken run (a.allocate run).1 ++ ns) := by
  cases hc : a.counters run with
  | none =>
    rw [allocate_none hc]
    exact h
  | some cu =>
    rw [allocate_some hc]
    exact h.take hc

lemma Numbering.numbered (h : Numbering a si ns) : Numbering (numbered project a run pl re).2.2 si
      (taken run (numbered project a run pl re).2.1 ++ ns) := by
  rcases numbered_cases project a run pl re with ⟨hn,hs⟩ | ⟨cu,hc,-,hso,ha⟩
  · rw [hn,hs]
    exact h
  · rw [hso,ha]
    exact h.take hc

lemma filterMap_concat {α β : Type*} (f : α → Option β) (l : List α) (x : α) :
    (l ++ [x]).filterMap f = l.filterMap f ++ (f x).toList := by
  rw [filterMap_append,filterMap_cons]
  cases f x <;> rfl

/-! The numbers in use are the same up to their order, so it is enough to count them. -/

lemma Sound.relayPayload (h : Sound hub) : Sound (relayPayload project hub run pl re) := by
  have hs : Numbering (numbered project hub.allocator run pl re).2.2 _ _ := h.numbered
  unfold RelayHub.relayPayload
  generalize numbered project hub.allocator run pl re = result at hs ⊢
  obtain ⟨fr,al,na⟩ := result
  refine hs.perm (perm_iff_count.2 fun x => ?_)
  simp only [numbers,publishedNumbers,filterMap_concat,taken,count_append]
  omega

lemma Sound.holdPayload (h : Sound hub) : Sound (holdPayload project hub run pl re) := by
  have hs : Numbering (numbered project hub.allocator run pl re).2.2 _ _ := h.numbered
  unfold RelayHub.holdPayload
  generalize numbered project hub.allocator run pl re = result at hs ⊢
  obtain ⟨fr,al,na⟩ := result
  refine hs.perm (perm_iff_count.2 fun x => ?_)
  simp only [numbers,publishedNumbers,heldNumbers,filterMap_concat,taken,count_append]
  omega

lemma Sound.allocate (h : Sound hub) (run : String) : Sound (step project hub (.allocate run)) := by
  refine Numbering.perm (Numbering.allocate h run) (perm_iff_count.2 fun x => ?_)
  simp only [numbers,publishedNumbers,step,taken,count_append]
  omega

lemma Sound.release (h : Sound hub) (hpr : Proper hub (.release run n)) :
    Sound (step project hub (.release run n)) := by
  refine Numbering.giveBack (Numbering.perm h (perm_iff_count.2 fun x => ?_))
  have hp := (perm_cons_erase hpr).count_eq x
  simp only [numbers,publishedNumbers,step,count_append,count_cons] at hp ⊢
  omega

lemma heldNumbers_eraseIdx (h : held[i]? = some fr) :
    (heldNumbers held).Perm (taken fr.threadId fr.allocation ++ heldNumbers (held.eraseIdx i)) := by
  obtain ⟨hlt,rfl⟩ := List.getElem?_eq_some_iff.1 h
  have hp := ((getElem_cons_eraseIdx_perm hlt).symm).filterMap
    fun fr => fr.allocation.map fun n => (fr.threadId,n)
  unfold heldNumbers taken
  refine hp.trans ?_
  rw [filterMap_cons]
  cases held[i].allocation <;> exact .refl _

lemma Sound.publishHeld (h : Sound hub) (i : ℕ) : Sound (publishHeld hub i) := by
  unfold RelayHub.publishHeld
  cases hh : hub.held[i]? with
  | none => exact h
  | some fr =>
    refine Numbering.perm h (perm_iff_count.2 fun x => ?_)
    have hp := (heldNumbers_eraseIdx hh).count_eq x
    simp only [numbers,publishedNumbers,filterMap_concat,taken,count_append] at hp ⊢
    omega

lemma releaseHeldFrame_some (hp : held.published = false) (h : held.allocation = some n) :
    releaseHeldFrame a held = a.release held.threadId n := by
  unfold releaseHeldFrame
  rw [hp,h]

lemma Sound.releaseHeld (h : Sound hub) (i : ℕ)
    (ho : ∀ fr ∈ hub.held, fr.published = false) : Sound (releaseHeld hub i) := by
  unfold RelayHub.releaseHeld
  cases hh : hub.held[i]? with
  | none => exact h
  | some fr =>
    have hs : Numbering hub.allocator hub.since (taken fr.threadId fr.allocation ++
        (publishedNumbers hub ++ (heldNumbers (hub.held.eraseIdx i) ++ hub.tickets))) := by
      refine h.perm (perm_iff_count.2 fun x => ?_)
      have hp := (heldNumbers_eraseIdx hh).count_eq x
      simp only [numbers,count_append] at hp ⊢
      omega
    cases ha : fr.allocation with
    | none =>
      have hr : releaseHeldFrame hub.allocator fr = hub.allocator := by
        unfold releaseHeldFrame
        rw [ha]
        cases fr.published <;> rfl
      rw [ha] at hs
      dsimp only
      rw [hr]
      exact hs
    | some n =>
      rw [ha] at hs
      dsimp only
      rw [releaseHeldFrame_some (ho fr (mem_of_getElem? hh)) ha]
      exact hs.giveBack

/-- The number a frame took is the one it carries. -/
def Carries (frame : Value) (allocation : Option ℕ) : Prop :=
  ∀ n, allocation = some n → 0 < n ∧ frame.get "sequence" = some (.int n)

/-- The frames carry their numbers, and the held ones are not published. -/
structure Carried (hub : Hub) : Prop where
  published : ∀ frame ∈ hub.published, Carries frame.frame frame.allocation
  held : ∀ frame ∈ hub.held, Carries frame.frame frame.allocation
  unpublished : ∀ frame ∈ hub.held, frame.published = false

lemma numbered_carries (a : RunSequenceAllocator) (run : String) (pl : Value) (re : Bool) :
    Carries (numbered project a run pl re).1 (numbered project a run pl re).2.1 := by
  intro n h
  rcases numbered_cases project a run pl re with
    ⟨hn,-⟩ | ⟨cu,-,hge,hs,-⟩
  · cases hn.symm.trans h
  · cases hs.symm.trans h
    exact ⟨Nat.succ_pos cu,hge⟩

lemma step_carried (h : Carried hub) (call : Call) : Carried (step project hub call) := by
  have hk : ∀ i, (∀ frame ∈ hub.held.eraseIdx i, Carries frame.frame frame.allocation) ∧
      ∀ frame ∈ hub.held.eraseIdx i, frame.published = false := fun i =>
    ⟨fun fr hf => h.held fr (mem_of_mem_eraseIdx hf),
      fun fr hf => h.unpublished fr (mem_of_mem_eraseIdx hf)⟩
  cases call with
  | relayPayload run pl re =>
    refine ⟨forall_mem_append.2 ⟨h.published,forall_mem_singleton.2 ?_⟩,h.held, h.unpublished⟩
    exact numbered_carries _ _ _ _
  | holdPayload run pl re =>
    refine ⟨h.published,forall_mem_append.2 ⟨h.held,forall_mem_singleton.2 ?_⟩,
      forall_mem_append.2 ⟨h.unpublished,forall_mem_singleton.2 rfl⟩⟩
    exact numbered_carries _ _ _ _
  | publishHeld i =>
    unfold step RelayHub.publishHeld
    dsimp only
    cases hh : hub.held[i]? with
    | none => exact h
    | some held =>
      refine ⟨forall_mem_append.2 ⟨h.published,forall_mem_singleton.2 ?_⟩,(hk i).1, (hk i).2⟩
      exact h.held held (mem_of_getElem? hh)
  | releaseHeld i =>
    unfold step RelayHub.releaseHeld
    dsimp only
    cases hh : hub.held[i]? with
    | none => exact h
    | some held => exact ⟨h.published,(hk i).1,(hk i).2⟩
  | seedBegins | seedEnds | allocate | release | forget =>
    exact ⟨h.published,h.held,h.unpublished⟩

lemma step_sound (h : Sound hub) (hc : Carried hub)
    (hp : Proper hub call) : Sound (step project hub call) := by
  cases call with
  | seedBegins run => exact Numbering.seedBegins h run
  | seedEnds rd => exact Numbering.seedEnds h hp
  | allocate run => exact h.allocate run
  | release run se => exact h.release hp
  | forget run => exact h.forgetRun run
  | relayPayload run pl re => exact h.relayPayload
  | holdPayload run pl re => exact h.holdPayload
  | publishHeld i => exact h.publishHeld i
  | releaseHeld i => exact h.releaseHeld i hc.unpublished

lemma run_sound (hru : Run (Moves project) {} cs hub) : Sound hub ∧ Carried hub := by
  refine hru.invariant (fun hub => Sound hub ∧ Carried hub) ?_ ⟨?_,?_⟩
  · rintro hub call ne ⟨hs,hc⟩ ⟨hp,rfl⟩
    exact ⟨step_sound hs hc hp,step_carried hc call⟩
  · exact ⟨nodup_nil,by simp [numbers,publishedNumbers,heldNumbers],by simp,
      nodup_nil,List.Pairwise.nil⟩
  · exact ⟨by simp,by simp,by simp⟩

/-- No two published frames of a run carry one number, and the next number of a run is above
all that were published. -/
theorem published_numbers_unique {calls : List Call} (hrun : Run (Moves project) {} calls hub) :
    (hub.published.Pairwise fun first second => first.threadId = second.threadId →
        ∀ n, first.allocation = some n → second.allocation ≠ some n) ∧
      (∀ frame ∈ hub.published, ∀ n, frame.allocation = some n →
        frame.frame.get "sequence" = some (.int n)) ∧
      ∀ run n, (hub.allocator.allocate run).1 = some n →
        ∀ frame ∈ hub.published, frame.threadId = run → ∀ m, frame.allocation = some m → m < n := by
  obtain ⟨hs,hca⟩ := run_sound hrun
  refine ⟨?_,fun frame hf n hn => (hca.published frame hf n hn).2,?_⟩
  · have hno := (nodup_append.1 hs.nodup).1
    refine (pairwise_filterMap.1 hno).imp ?_
    intro first second hne hrun n hfi hse
    refine hne (first.threadId,n) (by rw [hfi]; rfl) (first.threadId,n) ?_ rfl
    rw [hse,hrun]
    rfl
  · intro run n hnex frame hf ht m hm
    cases hc : hub.allocator.counters run with
    | none =>
      rw [allocate_none hc] at hnex
      cases hnex
    | some current =>
      rw [allocate_some hc] at hnex
      cases hnex
      refine Nat.lt_succ_of_le (hs.le_counter hc (mem_append_left _ ?_))
      refine mem_filterMap.2 ⟨frame,hf,?_⟩
      rw [hm,ht]
      rfl

end

/-! A number given back late, and a counter forgotten and established again from a durable mark
that is behind. -/

def heldAndForgotten : List Call :=
  [.seedBegins "run",.seedEnds (.marks none none),.relayPayload "run" (.dict []) true,
    .holdPayload "run" (.dict []) true,.relayPayload "run" (.dict []) true,.releaseHeld 0,
    .forget "run",.seedBegins "run",.seedEnds (.marks (some 1) none),
    .relayPayload "run" (.dict []) true]

theorem published_numbers_held_and_forgotten :
    let hub := heldAndForgotten.foldl (step id) {}
    hub.published.map Published.allocation = [some 1,some 3,some 4] ∧
      (hub.published.Pairwise fun first second => first.threadId = second.threadId →
        ∀ n, first.allocation = some n → second.allocation ≠ some n) := by
  have hru : Run (Moves id) {} heldAndForgotten (heldAndForgotten.foldl (step id) {}) := by
    refine .step ⟨trivial,rfl⟩ (.step ⟨?_,rfl⟩ (.step ⟨trivial,rfl⟩ (.step ⟨trivial,rfl⟩
      (.step ⟨trivial,rfl⟩ (.step ⟨trivial,rfl⟩ (.step ⟨trivial,rfl⟩ (.step ⟨trivial,rfl⟩
        (.step ⟨?_,rfl⟩ (.single ⟨trivial,rfl⟩)))))))))
    · rintro run ⟨⟩
      decide +kernel
    · rintro run ⟨⟩
      decide +kernel
  exact ⟨by decide +kernel,(published_numbers_unique hru).1⟩

end VaultspecA2A.RelayHub
