import VaultspecA2A.StreamReplay

/-!
# Where a run's numbers start, and how they are given back

After a restart nothing is in memory, and the numbers of a run go on from what is durable. Two
marks are: the highest number among its rows, and the cursor that was stored on the run when it
settled. They are written by different transactions, the cursor with the settlement and the rows
by a later flush, so that a crash can leave either one behind the other. The first section finds
the first number that is taken after a restart, whatever else the process does before.

The second section follows one held frame in the hands of a caller. The caller may publish it
and give its number back, as often as it likes and between any other calls of the hub. The
source calls the second operation idempotent. What it tests is only whether the number is still
the highest one, and meanwhile it can have become that of another frame.
-/
namespace VaultspecA2A.RunNumbering
open Runs PyValue RelayHub StreamReplay List

section
variable (project : Value → Value)

def issuedNumber (hub : Hub) : Call → Option (String × ℕ)
  | .allocate run => (hub.allocator.allocate run).1.map fun n => (run,n)
  | .relayPayload run payload retained | .holdPayload run payload retained =>
    (numbered project hub.allocator run payload retained).2.1.map fun n => (run,n)
  | _ => none

/-- A call before the first number of a run. A seed of the run that reads its marks reads
those that are stored, and a number is given back by the one who took it. -/
def Waiting (run : String) (rows : List RunEventRecord) (settled : Option ℕ) (hub : Hub)
    (call : Call) (next : Hub) : Prop :=
  (match call with
    | .release other sequence => (other,sequence) ∈ hub.tickets
    | .seedEnds (.marks retained cursor) => hub.allocator.seeding = some run →
        retained = highWaterMark rows ∧ cursor = settled
    | _ => True) ∧
  (∀ n, issuedNumber project hub call ≠ some (run,n)) ∧ next = step project hub call

end

def durableMark (rows : List RunEventRecord) (settled : Option ℕ) : ℕ :=
  (highWaterMark rows).getD (settled.getD 0)

/-- No number of the run is in the memory of the process but the mark. -/
structure Untaken (run : String) (mark : ℕ) (hub : Hub) : Prop where
  counter : ∀ current, hub.allocator.counters run = some current → current = mark
  floor : ∀ floor, (run,floor) ∈ hub.allocator.issued → floor = mark
  held : ∀ frame ∈ hub.held, frame.threadId = run → frame.allocation = none
  tickets : ∀ entry ∈ hub.tickets, entry.1 ≠ run

section
variable {project : Value → Value} {run o : String} {ma n : ℕ} {hub ne : Hub}
variable {rows ro : List RunEventRecord} {settled : Option ℕ} {a : RunSequenceAllocator}
lemma release_counters (h : o ≠ run) (se : ℕ) : (a.release o se).counters run = a.counters run := by
  unfold RunSequenceAllocator.release
  split_ifs
  · exact Function.update_of_ne h.symm _ _
  · rfl

lemma release_issued (o : String) (se : ℕ) : (a.release o se).issued = a.issued := by
  unfold RunSequenceAllocator.release
  split_ifs <;> rfl

lemma numbered_counters (hne : ∀ n, (numbered project a o pl re).2.1.map
      (fun n => (o,n)) ≠ some (run,n)) :
    (numbered project a o pl re).2.2.counters run = a.counters run ∧
      (numbered project a o pl re).2.2.issued = a.issued := by
  rcases numbered_cases project a o pl re with
    ⟨-,hs⟩ | ⟨cu,-,-,hso,ha⟩
  · rw [hs]
    exact ⟨rfl,rfl⟩
  · have ho : run ≠ o := by
      rintro rfl
      exact hne (cu + 1) (by rw [hso]; rfl)
    rw [ha]
    exact ⟨Function.update_of_ne ho _ _,rfl⟩

lemma Untaken.floor_le (h : Untaken run ma hub) : hub.allocator.floor run ≤ ma := by
  unfold RunSequenceAllocator.floor
  cases hl : hub.allocator.issued.lookup run with
  | none => exact Nat.zero_le ma
  | some floor =>
    have hm : (run,floor) ∈ hub.allocator.issued := by
      obtain ⟨p,q,heq,-⟩ := lookup_eq_some_iff.1 hl
      simp [heq]
    exact Nat.le_of_eq (h.floor floor hm)

lemma Untaken.kept (h : Untaken run ma hub)
    (hc : ne.allocator.counters run = hub.allocator.counters run)
    (hi : ∀ floor, (run,floor) ∈ ne.allocator.issued → (run,floor) ∈ hub.allocator.issued)
    (hh : ∀ fr ∈ ne.held, fr.threadId = run → fr ∈ hub.held ∨ fr.allocation = none)
    (ht : ∀ e ∈ ne.tickets, e ∈ hub.tickets ∨ e.1 ≠ run) :
    Untaken run ma ne := by
  constructor
  · rw [hc]
    exact h.counter
  · intro floor hf
    exact h.floor floor (hi floor hf)
  · intro fr hfr hru
    rcases hh fr hfr hru with hold | hn
    · exact h.held fr hold hru
    · exact hn
  · intro e hen
    rcases ht e hen with hold | hne
    · exact h.tickets e hold
    · exact hne

lemma Untaken.seedEnds (h : Untaken run (durableMark ro settled) hub)
    (hre : ∀ re cr, rd = .marks re cr →
      hub.allocator.seeding = some run → re = highWaterMark ro ∧ cr = settled) :
    Untaken run (durableMark ro settled)
      { hub with allocator := hub.allocator.seedEnds rd } := by
  cases hse : hub.allocator.seeding with
  | none =>
    have hs : hub.allocator.seedEnds rd = hub.allocator := by
      unfold RunSequenceAllocator.seedEnds
      rw [hse]
    rw [hs]
    exact h
  | some seeded =>
    unfold RunSequenceAllocator.seedEnds
    rw [hse]
    cases rd with
    | cancelled => exact ⟨h.counter,h.floor,h.held,h.tickets⟩
    | failed => exact ⟨h.counter,h.floor,h.held,h.tickets⟩
    | marks re cr =>
      refine ⟨?_,?_,h.held,h.tickets⟩
      · intro cu hc
        by_cases hs : seeded = run
        · subst hs
          obtain ⟨rfl,rfl⟩ := hre re cr rfl hse
          dsimp only at hc
          rw [Function.update_self,Option.some.injEq] at hc
          rw [← hc]
          exact Nat.max_eq_left h.floor_le
        · dsimp only at hc
          rw [Function.update_of_ne (Ne.symm hs)] at hc
          exact h.counter cu hc
      · intro floor hf
        exact h.floor floor (mem_filter.1 hf).1

lemma Untaken.forget (h : Untaken run ma hub) (o : String) : Untaken run ma (forgetRun hub o) := by
  unfold RelayHub.forgetRun RunSequenceAllocator.forget
  cases hco : hub.allocator.counters o with
  | none => exact ⟨h.counter,h.floor,h.held,h.tickets⟩
  | some iss =>
    refine ⟨?_,?_,h.held,h.tickets⟩
    · intro cu hc
      dsimp only at hc
      by_cases hs : run = o
      · rw [hs,Function.update_self] at hc
        cases hc
      · rw [Function.update_of_ne hs] at hc
        exact h.counter cu hc
    · intro floor hf
      dsimp only at hf
      have hm := mem_of_mem_drop hf
      rw [mem_append,mem_singleton] at hm
      rcases hm with hold | hn
      · exact h.floor floor (mem_filter.1 hold).1
      · obtain ⟨rfl,rfl⟩ := Prod.mk.inj hn
        rw [h.counter iss hco]
        exact Nat.max_eq_left h.floor_le

lemma Untaken.allocate (h : Untaken run ma hub)
    (hne : ∀ n, issuedNumber project hub (.allocate o) ≠ some (run,n)) :
    Untaken run ma (RelayHub.step project hub (.allocate o)) := by
  have hk : (hub.allocator.allocate o).2.counters run = hub.allocator.counters run ∧
      (hub.allocator.allocate o).2.issued = hub.allocator.issued ∧
      ∀ e ∈ ((hub.allocator.allocate o).1.map fun n => (o,n)).toList, e.1 ≠ run := by
    cases hc : hub.allocator.counters o with
    | none =>
      rw [allocate_none hc]
      simp
    | some cu =>
      have ho : run ≠ o := by
        rintro rfl
        exact hne (cu + 1) (by rw [issuedNumber,allocate_some hc]; rfl)
      rw [allocate_some hc]
      simpa [Function.update_of_ne ho] using ho.symm
  refine h.kept hk.1 ?_ (fun _ hfr _ => .inl hfr) ?_
  · intro floor hf
    exact hk.2.1 ▸ hf
  · intro e hen
    exact (mem_append.1 hen).imp id (hk.2.2 e)

lemma Untaken.publishHeld (h : Untaken run ma hub) (i : ℕ) :
    Untaken run ma (RelayHub.step project hub (.publishHeld i)) := by
  unfold RelayHub.step RelayHub.publishHeld
  dsimp only
  cases hh : hub.held[i]? with
  | none => exact h
  | some held =>
    exact h.kept rfl (fun _ hf => hf)
      (fun _ hfr _ => .inl (mem_of_mem_eraseIdx hfr)) (fun _ hen => .inl hen)

lemma Untaken.releaseHeld (h : Untaken run ma hub) (i : ℕ) :
    Untaken run ma (RelayHub.step project hub (.releaseHeld i)) := by
  unfold RelayHub.step RelayHub.releaseHeld
  dsimp only
  cases hh : hub.held[i]? with
  | none => exact h
  | some held =>
    have hk : (releaseHeldFrame hub.allocator held).counters run = hub.allocator.counters run ∧
        (releaseHeldFrame hub.allocator held).issued = hub.allocator.issued := by
      unfold releaseHeldFrame
      split
      · rename_i se _ ha
        have ho : held.threadId ≠ run := by
          intro hru
          rw [h.held held (mem_of_getElem? hh) hru] at ha
          cases ha
        exact ⟨release_counters ho se,release_issued _ _⟩
      · exact ⟨rfl,rfl⟩
    exact h.kept hk.1 (fun _ hf => hk.2 ▸ hf)
      (fun _ hfr _ => .inl (mem_of_mem_eraseIdx hfr)) (fun _ hen => .inl hen)

lemma Untaken.step (h : Untaken run (durableMark ro settled) hub)
    (hm : Waiting project run ro settled hub call ne) :
    Untaken run (durableMark ro settled) ne := by
  obtain ⟨hp,hne,rfl⟩ := hm
  cases call with
  | seedBegins o =>
    refine h.kept ?_ ?_ (fun _ hfr _ => .inl hfr) (fun _ hen => .inl hen)
    all_goals
      unfold RelayHub.step RunSequenceAllocator.seedBegins
      dsimp only
      split_ifs
    · rfl
    · rfl
    · exact fun _ hf => hf
    · exact fun _ hf => hf
  | seedEnds rd =>
    refine h.seedEnds fun re cr hre hs => ?_
    subst hre
    exact hp hs
  | allocate o => exact h.allocate hne
  | release o se =>
    have ho := h.tickets _ hp
    refine h.kept (release_counters ho se) ?_ (fun _ hfr _ => .inl hfr) ?_
    · intro floor hf
      exact release_issued o se ▸ hf
    · exact fun _ hen => .inl (mem_of_mem_erase hen)
  | forget o => exact h.forget o
  | relayPayload o pl re =>
    obtain ⟨hc,hi⟩ := numbered_counters hne
    exact h.kept hc (fun _ hf => hi ▸ hf) (fun _ hfr _ => .inl hfr)
      (fun _ hen => .inl hen)
  | holdPayload o pl re =>
    obtain ⟨hc,hi⟩ := numbered_counters hne
    refine h.kept hc (fun _ hf => hi ▸ hf) ?_ (fun _ hen => .inl hen)
    intro fr hfr hru
    rw [step_holdPayload_held,mem_append,mem_singleton] at hfr
    refine hfr.imp id ?_
    rintro rfl
    rw [Option.eq_none_iff_forall_ne_some]
    intro n hn
    refine hne n ?_
    dsimp only at hru hn
    rw [issuedNumber,hn,hru]
    rfl
  | publishHeld i => exact h.publishHeld i
  | releaseHeld i => exact h.releaseHeld i

lemma issuedNumber_eq (h : issuedNumber project hub call = some (run,n)) :
    ∃ cu, hub.allocator.counters run = some cu ∧ n = cu + 1 := by
  have hn : ∀ o pl re, (numbered project hub.allocator o pl re).2.1.map (fun n => (o,n)) =
        some (run,n) → ∃ cu, hub.allocator.counters run = some cu ∧ n = cu + 1 := by
    intro o pl re hs
    obtain ⟨m,hm,heq⟩ := Option.map_eq_some_iff.1 hs
    obtain ⟨rfl,rfl⟩ := Prod.mk.inj heq
    rcases numbered_cases project hub.allocator o pl re with
      ⟨hno,-⟩ | ⟨cu,hc,-,hcu,-⟩
    · rw [hno] at hm
      cases hm
    · rw [hcu,Option.some.injEq] at hm
      exact ⟨cu,hc,hm.symm⟩
  cases call with
  | allocate o =>
    rw [issuedNumber] at h
    obtain ⟨m,hm,heq⟩ := Option.map_eq_some_iff.1 h
    obtain ⟨rfl,rfl⟩ := Prod.mk.inj heq
    cases hc : hub.allocator.counters o with
    | none =>
      rw [allocate_none hc] at hm
      cases hm
    | some cu =>
      rw [allocate_some hc,Option.some.injEq] at hm
      exact ⟨cu,rfl,hm.symm⟩
  | relayPayload o pl re => exact hn o pl re h
  | holdPayload o pl re => exact hn o pl re h
  | _ => cases h

lemma above_durableMark_iff (ro : List RunEventRecord) (settled : Option ℕ) :
    ((∀ row ∈ ro, row.sequence < durableMark ro settled + 1) ∧
        ∀ cr, settled = some cr → cr < durableMark ro settled + 1) ↔
      (ro = [] ∨ ∀ cr, settled = some cr → ∃ row ∈ ro, cr ≤ row.sequence) := by
  unfold durableMark
  cases hm : highWaterMark ro with
  | none =>
    have hro : ro = [] := by simpa [highWaterMark] using hm
    subst hro
    simp only [Option.getD_none,true_or,iff_true]
    refine ⟨by simp,?_⟩
    rintro cr rfl
    exact Nat.lt_succ_self cr
  | some ma =>
    obtain ⟨hme,hle⟩ := max?_eq_some_iff.1 hm
    obtain ⟨top,ht,rfl⟩ := mem_map.1 hme
    have hro : ∀ row ∈ ro, row.sequence < top.sequence + 1 := fun row hrow =>
      Nat.lt_succ_of_le (hle _ (mem_map.2 ⟨row,hrow,rfl⟩))
    rw [Option.getD_some]
    constructor
    · rintro ⟨-,hc⟩
      exact .inr fun cr hs => ⟨top,ht,Nat.le_of_lt_succ (hc cr hs)⟩
    · rintro (rfl | hb)
      · cases ht
      · refine ⟨hro,fun cr hs => ?_⟩
        obtain ⟨row,hrow,hc⟩ := hb cr hs
        exact Nat.lt_of_le_of_lt hc (hro row hrow)

/-- The first number of a run after a restart is above its rows and its settled cursor exactly
when no row is retained or the rows reach the cursor. -/
theorem first_number_above_iff {calls : List Call} {call : Call}
    (hrun : Run (Waiting project run rows settled) {} calls hub)
    (hfirst : issuedNumber project hub call = some (run,n)) :
    ((∀ row ∈ rows, row.sequence < n) ∧ ∀ cursor, settled = some cursor → cursor < n) ↔
      (rows = [] ∨ ∀ cursor, settled = some cursor → ∃ row ∈ rows, cursor ≤ row.sequence) := by
  have hs : Untaken run (durableMark rows settled) {} := by
    constructor <;> simp
  have hu := hrun.invariant (Untaken run (durableMark rows settled)) (fun h hm => h.step hm) hs
  obtain ⟨current,hc,rfl⟩ := issuedNumber_eq hfirst
  rw [hu.counter current hc]
  exact above_durableMark_iff rows settled

end

def retainedRows (numbers : List ℕ) : List RunEventRecord :=
  numbers.map fun n => ⟨n,"agent_status",none⟩

def seeded (retained settled : Option ℕ) : List Call :=
  [.seedBegins "run",.seedEnds (.marks retained settled)]

def statusFrame : Value := .dict [(.str "type",.str "agent_status")]

lemma seeded_run (ro : List RunEventRecord) (settled : Option ℕ) :
    Run (Waiting id "run" ro settled) {} (seeded (highWaterMark ro) settled)
      ((seeded (highWaterMark ro) settled).foldl (step id) {}) :=
  .step ⟨trivial,fun _ => nofun,rfl⟩
    (.step ⟨fun _ => ⟨rfl,rfl⟩,fun _ => nofun,rfl⟩ (.done _))

/-- The flush came through: the rows go up to the cursor. -/
theorem first_number_above_flushed :
    let rows := retainedRows [1,2]
    let hub := (seeded (some 2) (some 2)).foldl (step id) {}
    issuedNumber id hub (.relayPayload "run" statusFrame true) = some ("run",3) ∧
      (((∀ row ∈ rows, row.sequence < 3) ∧ ∀ cursor, some 2 = some cursor → cursor < 3) ↔
        (rows = [] ∨ ∀ cursor, some 2 = some cursor → ∃ row ∈ rows, cursor ≤ row.sequence)) :=
  ⟨rfl,first_number_above_iff (seeded_run (retainedRows [1,2]) (some 2))
    (show issuedNumber id _ (.relayPayload "run" statusFrame true) = some ("run",3) from rfl)⟩

/-- The run settled at its second frame and the process died before that was flushed: the
number is taken a second time. -/
theorem settled_number_again :
    let hub := (seeded (some 1) (some 2)).foldl (step id) {}
    Run (Waiting id "run" (retainedRows [1]) (some 2)) {} (seeded (some 1) (some 2)) hub ∧
      issuedNumber id hub (.relayPayload "run" statusFrame true) = some ("run",2) ∧
      ¬ ∀ cursor, some 2 = some cursor → cursor < 2 :=
  ⟨seeded_run (retainedRows [1]) (some 2),rfl,fun h => absurd (h 2 rfl) (by decide)⟩

structure Holding where
  hub : Hub
  frame : HeldFrame

inductive Op
  | call (call : Call)
  | publish
  | release

def Op.isRelease : Op → Bool
  | .release => true
  | _ => false

section
variable (project : Value → Value)

def holds (hub : Hub) (run : String) (payload : Value) (retained : Bool) : Holding :=
  let (frame,allocation,allocator) := numbered project hub.allocator run payload retained
  ⟨{ hub with allocator },{ threadId := run, frame, allocation }⟩

def opStep (s : Holding) : Op → Holding
  | .call call => { s with hub := step project s.hub call }
  | .publish =>
    { hub := { s.hub with
        published := s.hub.published ++ [⟨s.frame.threadId,s.frame.frame,s.frame.allocation,true⟩] }
      frame := { s.frame with published := true } }
  | .release =>
    { s with hub := { s.hub with allocator := releaseHeldFrame s.hub.allocator s.frame } }

end

/-- The same operations with the first release only. -/
def releasedOnce : List Op → List Op
  | [] => []
  | op :: ops =>
    if op.isRelease then op :: ops.filter fun op => !op.isRelease else op :: releasedOnce ops

/-- The number is not the highest one of the run, or the frame was published. -/
def Overtaken (s : Holding) : Prop := s.frame.published = true ∨
    ∀ n, s.frame.allocation = some n → s.hub.allocator.counters s.frame.threadId ≠ some n

section
variable {project : Value → Value}
lemma releasedOnce_concat (ops : List Op) (op : Op) : releasedOnce (ops ++ [op]) =
    if ops.any Op.isRelease && op.isRelease then releasedOnce ops
    else releasedOnce ops ++ [op] := by
  induction ops with
  | nil => cases op <;> rfl
  | cons first ops ih =>
    cases hf : first.isRelease with
    | true =>
      cases hop : op.isRelease <;> simp [releasedOnce,hf,hop,filter_append]
    | false =>
      simp only [cons_append,releasedOnce,hf,Bool.false_eq_true,if_false,ih, any_cons,Bool.false_or]
      split_ifs <;> rfl

lemma releaseHeldFrame_overtaken (h : Overtaken s) :
    releaseHeldFrame s.hub.allocator s.frame = s.hub.allocator := by
  unfold releaseHeldFrame
  split
  · rename_i se hp ha
    rcases h with ht | hne
    · rw [ht] at hp
      cases hp
    · rw [RunSequenceAllocator.release,if_neg (hne se ha)]
  · rfl

lemma overtaken_of_kept (hpo : ∀ n, s.frame.allocation = some n → 0 < n)
    (h : releaseHeldFrame s.hub.allocator s.frame = s.hub.allocator) : Overtaken s := by
  cases hp : s.frame.published with
  | true => exact .inl hp
  | false =>
    refine .inr fun n ha ht => ?_
    rw [releaseHeldFrame_some hp ha,RunSequenceAllocator.release,if_pos ht] at h
    have hc := congrFun (congrArg RunSequenceAllocator.counters h) s.frame.threadId
    dsimp only at hc
    rw [Function.update_self,ht,Option.some.injEq] at hc
    have := hpo n ha
    omega

lemma opStep_allocation (s : Holding) (op : Op) :
    (opStep project s op).frame.allocation = s.frame.allocation := by
  cases op <;> rfl

lemma foldl_allocation (s : Holding) (ops : List Op) :
    (ops.foldl (opStep project) s).frame.allocation = s.frame.allocation := by
  induction ops generalizing s with
  | nil => rfl
  | cons op ops ih => rw [foldl_cons,ih,opStep_allocation]

lemma holds_pos (n : ℕ) (h : (holds project hub run pl re).frame.allocation = some n) : 0 < n :=
  (numbered_carries hub.allocator run pl re n h).1

/-- Where every further release finds the number overtaken, it makes no difference. -/
lemma foldl_releasedOnce (s : Holding) (ops : List Op)
    (h : ∀ p q, ops = p ++ .release :: q → p.any Op.isRelease = true →
      Overtaken (p.foldl (opStep project) s)) :
    ops.foldl (opStep project) s = (releasedOnce ops).foldl (opStep project) s := by
  induction ops using List.reverseRecOn with
  | nil => rfl
  | append_singleton ops op ih =>
    have hb := ih fun p q ho han =>
      h p (q ++ [op]) (by rw [ho]; simp) han
    rw [releasedOnce_concat]
    split_ifs with ha
    · rw [foldl_append,← hb]
      rw [Bool.and_eq_true] at ha
      cases op with
      | release =>
        have hk := releaseHeldFrame_overtaken (h ops [] rfl ha.1)
        simp only [foldl_cons,foldl_nil,opStep,hk]
      | call call => cases ha.2
      | publish => cases ha.2
    · rw [foldl_append,foldl_append,hb]

end

/-- Calls of `release_held` after the first one change nothing, and leave the counter where the
published numbers are. -/
structure Idempotent (project : Value → Value) (s : Holding) (ops : List Op) : Prop where
  same : ∀ before after, ops = before ++ after →
    (before.foldl (opStep project) s).hub.allocator =
      ((releasedOnce before).foldl (opStep project) s).hub.allocator
  above : ∀ before after, ops = before ++ .release :: after → before.any Op.isRelease = true →
    ∀ n current current', (s.frame.threadId,n) ∈
        publishedNumbers (before.foldl (opStep project) s).hub →
      (before.foldl (opStep project) s).hub.allocator.counters s.frame.threadId = some current →
      n ≤ current →
      ((before ++ [.release]).foldl (opStep project) s).hub.allocator.counters s.frame.threadId =
        some current' → n ≤ current'

/-- For every held frame and whatever happens to the hub afterwards. -/
theorem release_idempotent_iff (project : Value → Value) (hub : Hub) (run : String)
    (payload : Value) (retained : Bool) (ops : List Op) :
    Idempotent project (holds project hub run payload retained) ops ↔
      ∀ before after, ops = before ++ .release :: after → before.any Op.isRelease = true →
        Overtaken (before.foldl (opStep project) (holds project hub run payload retained)) := by
  constructor
  · intro h before after ho ha
    refine overtaken_of_kept (fun n hn => holds_pos n (by rwa [foldl_allocation] at hn)) ?_
    have hs := h.same before (.release :: after) ho
    have hnex := h.same (before ++ [.release]) after (by rw [ho]; simp)
    rw [releasedOnce_concat,ha] at hnex
    simp only [Op.isRelease,Bool.and_true,if_true,foldl_append,foldl_cons, foldl_nil] at hnex
    exact hnex.trans hs.symm
  · intro h
    constructor
    · intro before after ho
      rw [foldl_releasedOnce _ before]
      intro early rest hb ha
      exact h early (rest ++ after) (by rw [ho,hb]; simp) ha
    · intro before after ho ha n current current' hn hc hle haf
      have hk := releaseHeldFrame_overtaken (h before after ho ha)
      rw [foldl_append] at haf
      simp only [foldl_cons,foldl_nil,opStep,hk] at haf
      rw [hc,Option.some.injEq] at haf
      exact haf ▸ hle

def terminalFrame : Value := .dict [(.str "type",.str "thread_terminal")]

/-- A held terminal frame is given back, another frame is published under its number, and the
terminal frame is given back again: the next frame gets the number a second time. -/
theorem number_published_twice :
    let s := holds id ((seeded none none).foldl (step id) {}) "run" terminalFrame true
    let ops : List Op := [.release,.call (.relayPayload "run" statusFrame true),.release,
      .call (.relayPayload "run" statusFrame true)]
    publishedNumbers (ops.foldl (opStep id) s).hub = [("run",1),("run",1)] ∧
      ¬ Idempotent id s ops := by
  refine ⟨by decide +kernel,fun h => ?_⟩
  have hs := h.same _ [] (append_nil _).symm
  exact absurd (congrFun (congrArg RunSequenceAllocator.counters hs) "run") (by decide +kernel)

end VaultspecA2A.RunNumbering
