import VaultspecA2A.Tables
import Mathlib.Data.List.MinMax
import Mathlib.Data.String.Basic

/-!
# Pruning the checkpoints of a settled run

Two deletes keep the latest checkpoint of each namespace of a thread and the writes that
belong to it. Both compare with the greatest id among the checkpoints, and no comparison with
a missing greatest id deletes a row. They run in one transaction on the saver's connection,
whose statements are carried out by a thread of the driver. A statement can fail, and the wait
for it can be cancelled, before or after the thread has carried it out.
-/
namespace VaultspecA2A.CheckpointPruning
open Tables List

/-- A row of either table: its key and its other columns. -/
structure Row (P : Type) where
  threadId : String
  checkpointNs : String
  checkpointId : String
  rest : P

def Row.Apart {P : Type} (first second : Row P) : Prop :=
  ¬ (first.threadId = second.threadId ∧ first.checkpointNs = second.checkpointNs ∧
    first.checkpointId = second.checkpointId)

@[ext] structure Store (C W : Type) where
  checkpoints : Table (Row C) (fun _ => True) Row.Apart
  writes : List (Row W)

variable {C W P : Type}

/-- `SELECT MAX(checkpoint_id)` of one namespace. -/
def Store.latest (s : Store C W) (threadId checkpointNs : String) : Option String :=
  ((s.checkpoints.rows.filter fun row => row.threadId = threadId &&
    row.checkpointNs = checkpointNs).map Row.checkpointId).maximum

def Store.superseded (s : Store C W) (threadId : String) (row : Row P) : Bool :=
  row.threadId = threadId && (s.latest row.threadId row.checkpointNs).any (· ≠ row.checkpointId)

def pruneWrites (threadId : String) (s : Store C W) : Store C W :=
  { s with writes := s.writes.filter fun row => !s.superseded threadId row }

def pruneCheckpoints (threadId : String) (s : Store C W) : Store C W :=
  { s with checkpoints := s.checkpoints.deleteWhere (s.superseded threadId) }

/-- The store, and the store as the connection sees it in its transaction. -/
structure Connection (C W : Type) where
  stored : Store C W
  working : Store C W

/-- How a statement ends. The wait for it may be cancelled when it has been carried out. -/
inductive Ending
  | done
  | failed
  | cancelled (carriedOut : Bool)
deriving DecidableEq

def Ending.carriesOut : Ending → Bool
  | done => true
  | failed => false
  | cancelled carriedOut => carriedOut

def Ending.effect (e : Ending) (statement : Connection C W → Connection C W) (c : Connection C W) :
    Connection C W :=
  if e.carriesOut then statement c else c

def execute (delete : Store C W → Store C W) (c : Connection C W) : Connection C W :=
  { c with working := delete c.working }

def commit (c : Connection C W) : Connection C W := { c with stored := c.working }

def rollback (c : Connection C W) : Connection C W := { c with working := c.stored }

/-- The connection after the prune, and whether the prune raised. -/
def pruneSqlite (threadId : String) (writes checkpoints committing : Ending) (c : Connection C W) :
    Connection C W × Bool :=
  let c := writes.effect (execute (pruneWrites threadId)) c
  if writes ≠ .done then (rollback c,true)
  else
    let c := checkpoints.effect (execute (pruneCheckpoints threadId)) c
    if checkpoints ≠ .done then (rollback c,true)
    else
      let c := committing.effect commit c
      if committing ≠ .done then (rollback c,true) else (c,false)

/-- No checkpoint of its namespace has a greater id. -/
def Latest (s : Store C W) (row : Row C) : Prop :=
  ∀ other ∈ s.checkpoints.rows, other.threadId = row.threadId →
    other.checkpointNs = row.checkpointNs → other.checkpointId ≤ row.checkpointId

/-- What is left when a thread is pruned. A namespace without a checkpoint keeps its writes. -/
structure Pruned (threadId : String) (s u : Store C W) : Prop where
  checkpoints : ∀ row, row ∈ u.checkpoints.rows ↔
    row ∈ s.checkpoints.rows ∧ (row.threadId = threadId → Latest s row)
  single : ∀ row ∈ s.checkpoints.rows, row.threadId = threadId →
    ∃! kept, kept ∈ u.checkpoints.rows ∧ kept.threadId = threadId ∧
      kept.checkpointNs = row.checkpointNs
  writes : ∀ row, row ∈ u.writes ↔ row ∈ s.writes ∧ (row.threadId = threadId →
    ∀ kept ∈ s.checkpoints.rows, kept.threadId = threadId →
      kept.checkpointNs = row.checkpointNs → Latest s kept → row.checkpointId = kept.checkpointId)
  otherCheckpoints : u.checkpoints.rows.filter (fun row => row.threadId ≠ threadId) =
    s.checkpoints.rows.filter fun row => row.threadId ≠ threadId
  otherWrites : u.writes.filter (fun row => row.threadId ≠ threadId) =
    s.writes.filter fun row => row.threadId ≠ threadId

variable {s : Store C W} {t ns : String}

lemma latest_eq_some {id : String} : s.latest t ns = some id ↔
    ∃ row ∈ s.checkpoints.rows, row.threadId = t ∧ row.checkpointNs = ns ∧
      row.checkpointId = id ∧ Latest s row := by
  have hmem : ∀ i, i ∈ (s.checkpoints.rows.filter fun row => row.threadId = t &&
      row.checkpointNs = ns).map Row.checkpointId ↔ ∃ row ∈ s.checkpoints.rows,
        row.threadId = t ∧ row.checkpointNs = ns ∧ row.checkpointId = i := by
    simp [and_assoc]
  refine (maximum_eq_coe_iff).trans ?_
  rw [hmem]
  constructor
  · rintro ⟨⟨row,hr,ht,hn,rfl⟩,hmax⟩
    refine ⟨row,hr,ht,hn,rfl,fun other ho hot hon => hmax _ ((hmem _).2 ?_)⟩
    exact ⟨other,ho,hot.trans ht,hon.trans hn,rfl⟩
  · rintro ⟨row,hr,ht,hn,rfl,hl⟩
    refine ⟨⟨row,hr,ht,hn,rfl⟩,fun i hi => ?_⟩
    obtain ⟨other,ho,hot,hon,rfl⟩ := (hmem i).1 hi
    exact hl other ho (hot.trans ht.symm) (hon.trans hn.symm)

/-- A row stays exactly if its id is that of the latest checkpoint of its namespace. -/
lemma superseded_eq_false {row : Row P} : s.superseded t row = false ↔
    (row.threadId = t → ∀ kept ∈ s.checkpoints.rows, kept.threadId = t →
      kept.checkpointNs = row.checkpointNs → Latest s kept →
      row.checkpointId = kept.checkpointId) := by
  unfold Store.superseded
  rw [Bool.and_eq_false_iff,decide_eq_false_iff_not,← imp_iff_not_or]
  refine imp_congr_right fun ht => ?_
  rw [ht]
  constructor
  · intro h kept hk hkt hkn hl
    have hs : s.latest t row.checkpointNs = some kept.checkpointId :=
      latest_eq_some.2 ⟨kept,hk,hkt,hkn,rfl,hl⟩
    rw [hs] at h
    exact (not_not.1 (of_decide_eq_false h)).symm
  · intro h
    cases hs : s.latest t row.checkpointNs with
    | none => rfl
    | some id =>
      obtain ⟨kept,hk,hkt,hkn,rfl,hl⟩ := latest_eq_some.1 hs
      exact decide_eq_false (not_not.2 (h kept hk hkt hkn hl).symm)

lemma superseded_checkpoint (hr : row ∈ s.checkpoints.rows) :
    s.superseded t row = false ↔ (row.threadId = t → Latest s row) := by
  rw [superseded_eq_false]
  refine imp_congr_right fun ht => ⟨fun h => ?_,fun hl kept hk hkt hkn hlk => ?_⟩
  · cases hs : s.latest t row.checkpointNs with
    | none =>
      have hn : (s.checkpoints.rows.filter fun r => r.threadId = t &&
        r.checkpointNs = row.checkpointNs).map Row.checkpointId = [] := maximum_eq_bot.1 hs
      have hm : row ∈ s.checkpoints.rows.filter fun r => r.threadId = t &&
        r.checkpointNs = row.checkpointNs := by simp [hr,ht]
      rw [map_eq_nil_iff.1 hn] at hm
      cases hm
    | some id =>
      obtain ⟨kept,hk,hkt,hkn,rfl,hl⟩ := latest_eq_some.1 hs
      have he := h kept hk hkt hkn hl
      intro other ho hot hon
      rw [he]
      exact hl other ho (hot.trans (ht.trans hkt.symm)) (hon.trans hkn.symm)
  · exact le_antisymm (hlk row hr (ht.trans hkt.symm) hkn.symm) (hl kept hk (hkt.trans ht.symm) hkn)

lemma filter_others (s : Store C W) (rows : List (Row P)) :
    (rows.filter fun row => !s.superseded t row).filter (fun row => row.threadId ≠ t) =
      rows.filter fun row => row.threadId ≠ t := by
  rw [filter_filter]
  refine filter_congr fun row _ => ?_
  by_cases ht : row.threadId = t <;> simp [Store.superseded,ht]

/-- Both deletes; the first leaves the second the checkpoints it read. -/
def prunedStore (t : String) (s : Store C W) : Store C W := pruneCheckpoints t (pruneWrites t s)

lemma mem_prunedStore : row ∈ (prunedStore t s).checkpoints.rows ↔
    row ∈ s.checkpoints.rows ∧ (row.threadId = t → Latest s row) := by
  refine mem_filter.trans (and_congr_right fun hr => ?_)
  rw [Bool.not_eq_true']
  exact superseded_checkpoint hr

lemma exists_latest (hr : row ∈ s.checkpoints.rows) : ∃ kept ∈ s.checkpoints.rows,
    kept.threadId = row.threadId ∧ kept.checkpointNs = row.checkpointNs ∧ Latest s kept := by
  cases hs : s.latest row.threadId row.checkpointNs with
  | none =>
    have hl : row.threadId = row.threadId → Latest s row := by
      rw [← superseded_checkpoint hr,Store.superseded,hs]
      exact Bool.and_false _
    exact ⟨row,hr,rfl,rfl,hl rfl⟩
  | some id =>
    obtain ⟨kept,hk,hkt,hkn,-,hl⟩ := latest_eq_some.1 hs
    exact ⟨kept,hk,hkt,hkn,hl⟩

lemma pruned_prunedStore (t : String) (s : Store C W) : Pruned t s (prunedStore t s) where
  checkpoints _ := mem_prunedStore
  single row hr ht := by
    obtain ⟨kept,hk,hkt,hkn,hl⟩ := exists_latest hr
    refine ⟨kept,⟨mem_prunedStore.2 ⟨hk,fun _ => hl⟩,hkt.trans ht,hkn⟩,fun o ho => ?_⟩
    obtain ⟨hom,hot,hon⟩ := ho
    obtain ⟨hos,hol⟩ := mem_prunedStore.1 hom
    have hth : o.threadId = kept.threadId := hot.trans (hkt.trans ht).symm
    have hns : o.checkpointNs = kept.checkpointNs := hon.trans hkn.symm
    have hid := le_antisymm (hl o hos hth hns) (hol hot kept hk hth.symm hns.symm)
    exact s.checkpoints.eq_of_not_fits hos hk (fun hf => hf ⟨hth,hns,hid⟩)
      fun hf => hf ⟨hth.symm,hns.symm,hid.symm⟩
  writes row := by
    refine mem_filter.trans (and_congr_right fun _ => ?_)
    rw [Bool.not_eq_true']
    exact superseded_eq_false
  otherCheckpoints := filter_others s _
  otherWrites := filter_others s _

lemma prunedStore_prunedStore (t : String) (s : Store C W) :
    prunedStore t (prunedStore t s) = prunedStore t s := by
  have hl : ∀ row ∈ (prunedStore t s).checkpoints.rows, row.threadId = t → Latest s row :=
    fun row hr => (mem_prunedStore.1 hr).2
  have hc : (prunedStore t (prunedStore t s)).checkpoints = (prunedStore t s).checkpoints := by
    refine Table.ext_rows (filter_eq_self.2 fun row hr => ?_)
    rw [Bool.not_eq_true']
    refine (superseded_checkpoint (s := prunedStore t s) hr).2 fun ht other ho => ?_
    exact hl row hr ht other (mem_prunedStore.1 ho).1
  have hw : (prunedStore t (prunedStore t s)).writes = (prunedStore t s).writes := by
    refine filter_eq_self.2 fun row hr => ?_
    rw [Bool.not_eq_true',superseded_eq_false]
    intro ht kept hk hkt hkn _
    exact ((pruned_prunedStore t s).writes row).1 hr |>.2 ht kept (mem_prunedStore.1 hk).1 hkt hkn
      (hl kept hk hkt)
  exact Store.ext hc hw

/-- A prune leaves the latest checkpoint of each namespace and its writes, does so once, and
leaves no transaction open. If it raises the store is unchanged, unless the wait for a commit
was cancelled that had been carried out: then the store is pruned. -/
theorem prune_keeps_latest (t : String) (s : Store C W) : ∃ u, Pruned t s u ∧
    pruneSqlite t .done .done .done ⟨s,s⟩ = (⟨u,u⟩,false) ∧
    pruneSqlite t .done .done .done ⟨u,u⟩ = (⟨u,u⟩,false) ∧
    ∀ writes checkpoints committing,
      ¬ (writes = .done ∧ checkpoints = .done ∧ committing = .done) →
      pruneSqlite t writes checkpoints committing ⟨s,s⟩ =
        (if writes = .done ∧ checkpoints = .done ∧ committing = .cancelled true then ⟨u,u⟩
          else ⟨s,s⟩,true) := by
  refine ⟨prunedStore t s,pruned_prunedStore t s,rfl,?_,fun w c k hnot => ?_⟩
  · exact congrArg (fun u => ((⟨u,u⟩ : Connection C W),false)) (prunedStore_prunedStore t s)
  · cases w with
    | failed => rfl
    | cancelled b => cases b <;> rfl
    | done =>
      cases c with
      | failed => rfl
      | cancelled b => cases b <;> rfl
      | done =>
        cases k with
        | failed => rfl
        | cancelled b => cases b <;> rfl
        | done => exact (hnot ⟨rfl,rfl,rfl⟩).elim

/-- Two checkpoints of a run, the second of which has a write. -/
def twoSteps : Store Unit Unit where
  checkpoints := ⟨[⟨"run-1","","1",()⟩,⟨"run-1","","2",()⟩],by simp,by simp [Row.Apart]⟩
  writes := [⟨"run-1","","2",()⟩]

/-- The prune raises, and one of the two checkpoints is gone. -/
theorem cancelled_commit_prunes : ¬ ∀ writes checkpoints committing,
    (pruneSqlite "run-1" writes checkpoints committing ⟨twoSteps,twoSteps⟩).2 = true →
    (pruneSqlite "run-1" writes checkpoints committing ⟨twoSteps,twoSteps⟩).1.stored =
      twoSteps := by
  intro h
  have hs := congrArg (fun s => s.checkpoints.rows.length) (h .done .done (.cancelled true) rfl)
  exact absurd hs (by decide)

end VaultspecA2A.CheckpointPruning
