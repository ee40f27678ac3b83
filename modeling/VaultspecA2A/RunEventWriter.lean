import VaultspecA2A.StreamReplay
import Mathlib.Data.Finset.Card

/-!
# Writing the rings behind the fan-out

The writer holds the numbered frames of many runs, each run's in a ring of its own, and gives up
the ring of the coldest run when there are too many. A flush takes the runs one after the other.
For each it offers the store what the ring holds above one number, the mark of the run, and when
the store has taken the batch the mark moves to the highest number of the batch. One flush runs
at a time. A frame can be recorded at any point of it, also while a batch is with the store.

Numbers are given out in order, but a frame can be recorded later than it was numbered: a held
frame is recorded when it is published. What the mark has passed by then is never offered.
-/
namespace VaultspecA2A.RunEventWriter
open Runs StreamReplay List

structure WriterSettings extends Settings where
  trackedRuns : ℕ := 64

structure Writer where
  /-- The ring, the mark and the rows of each run. -/
  logs : String → RunLog := fun _ => {}
  /-- The runs that have a ring, the coldest first. -/
  rings : List String := []
  /-- The runs that the flush holding the lock has still to write. -/
  remaining : Option (List String) := none
  /-- Every frame that was recorded. -/
  recorded : List (String × RunEventRecord) := []

def opened (rows : String → List RunEventRecord) : Writer :=
  { logs := fun run => { rows := rows run } }

section
variable (settings : WriterSettings)

def ringFor (w : Writer) (run : String) : Writer :=
  if run ∈ w.rings then { w with rings := w.rings.erase run ++ [run] }
  else
    let rings := w.rings ++ [run]
    let surplus := rings.length - settings.trackedRuns
    { w with
      rings := rings.drop surplus
      logs := fun other =>
        if other ∈ rings.take surplus then evict (w.logs other) else w.logs other }

def record (w : Writer) (run : String) (held : RunEventRecord) : Writer :=
  let tracking := ringFor settings w run
  { tracking with
    recorded := w.recorded ++ [(run,held)]
    -- with no room for a single run the ring is given up before the frame is put in
    logs :=
      if run ∈ tracking.rings then
        Function.update tracking.logs run
          (StreamReplay.record settings.toSettings (tracking.logs run) held)
      else tracking.logs }

def flushBegins (w : Writer) : Writer :=
  match w.remaining with
  | none => { w with remaining := some w.rings }
  | some _ => w

/-- Offer the next run's batch to the store; a run without one is passed over. -/
def runBegins (w : Writer) : Writer :=
  match w.remaining with
  | some (run :: rest) =>
    if (w.logs run).flushing.isSome then w
    else
      let log := StreamReplay.flushBegins (w.logs run)
      { w with
        logs := Function.update w.logs run log
        remaining := some (if log.flushing.isSome then run :: rest else rest) }
  | _ => w

def runEnds (w : Writer) : Writer :=
  match w.remaining with
  | some (run :: rest) =>
    if (w.logs run).flushing.isSome then
      { w with
        logs := Function.update w.logs run
          (StreamReplay.flushEnds settings.toSettings (w.logs run) true)
        remaining := some rest }
    else w
  | _ => w

def flushEnds (w : Writer) : Writer :=
  match w.remaining with
  | some [] => { w with remaining := none }
  | _ => w

inductive Event
  | record (run : String) (held : RunEventRecord)
  | flushBegins
  | runBegins
  | runEnds
  | flushEnds

def step (w : Writer) : Event → Writer
  | .record run held => record settings w run held
  | .flushBegins => flushBegins w
  | .runBegins => runBegins w
  | .runEnds => runEnds settings w
  | .flushEnds => flushEnds w

def Roomy (w : Writer) : Event → Prop
  | .record run _ =>
    (w.logs run).ring.length < settings.ringCapacity ∧
      (run ∈ w.rings ∨ w.rings.length < settings.trackedRuns)
  | _ => True

def Calls (w : Writer) (event : Event) (w' : Writer) : Prop :=
  Roomy settings w event ∧ w' = step settings w event

def highest (batch : List RunEventRecord) : ℕ := (batch.map RunEventRecord.sequence).foldl max 0

def reach (log : RunLog) : ℕ :=
  match log.flushing with
  | none => log.flushedThrough
  | some batch => highest batch

/-- The numbers above `n` among the rows and the held frames. -/
def newer (rows held : List RunEventRecord) (n : ℕ) : Finset ℕ :=
  ((rows ++ held).map RunEventRecord.sequence).toFinset.filter fun m => n < m

/-- The number of a frame is above all that was offered and belongs to no other frame, and with
it the frames in the ring are still among the newest that the store keeps. -/
structure InTime (log : RunLog) (held : RunEventRecord) : Prop where
  above : reach log < held.sequence
  free : ∀ other ∈ log.rows ++ log.ring, other.sequence ≠ held.sequence
  newest : ∀ other ∈ log.ring ++ [held],
    (newer log.rows (log.ring ++ [held]) other.sequence).card < settings.streamReplayWindowEvents

def Event.quiet : Event → Bool
  | .record _ _ => false
  | _ => true

def QuietCalls (w : Writer) (event : Event) (w' : Writer) : Prop :=
  Calls settings w event w' ∧ event.quiet = true

/-- Calls in which every frame is recorded in time. -/
def TimelyCalls (w : Writer) (event : Event) (w' : Writer) : Prop := Calls settings w event w' ∧
    match event with
    | .record run held => InTime settings (w.logs run) held
    | _ => True

end

section
variable {rows batch : List RunEventRecord}

lemma le_foldl_max (l : List ℕ) (start : ℕ) :
    start ≤ l.foldl max start ∧ ∀ n ∈ l, n ≤ l.foldl max start := by
  induction l generalizing start with
  | nil => simp
  | cons m l ih =>
    obtain ⟨hs,hre⟩ := ih (max start m)
    rw [foldl_cons]
    refine ⟨le_trans (le_max_left start m) hs,forall_mem_cons.2 ⟨?_,hre⟩⟩
    exact le_trans (le_max_right start m) hs

lemma le_highest (h : held ∈ batch) : held.sequence ≤ highest batch :=
  (le_foldl_max _ 0).2 _ (mem_map_of_mem h)

lemma foldl_setDefault (hnodup : (batch.map RunEventRecord.sequence).Nodup)
    (hfree : ∀ held ∈ batch, ∀ row ∈ rows, row.sequence ≠ held.sequence) :
    batch.foldl setDefault rows = rows ++ batch := by
  induction batch generalizing rows with
  | nil => rw [foldl_nil,append_nil]
  | cons held batch ih =>
    rw [map_cons,nodup_cons] at hnodup
    obtain ⟨hh,hb⟩ := forall_mem_cons.1 hfree
    have ha : setDefault rows held = rows ++ [held] := by
      unfold setDefault
      rw [if_neg]
      simpa using hh
    rw [foldl_cons,ha,ih hnodup.2,append_assoc]
    · rfl
    · intro o ho
      refine forall_mem_append.2 ⟨hb o ho,forall_mem_singleton.2 ?_⟩
      intro hs
      exact hnodup.1 (hs ▸ mem_map_of_mem ho)

lemma mem_drop_of_newest (h : Ordered rows) (hm : held ∈ rows)
    (hf : (newer rows [] held.sequence).card < wi) :
    held ∈ rows.drop (rows.length - wi) := by
  by_contra ho
  have ht : held ∈ rows.take (rows.length - wi) := by
    rw [← take_append_drop (rows.length - wi) rows,mem_append] at hm
    exact hm.resolve_right ho
  have hw : wi < rows.length := by
    by_contra hle
    rw [Nat.sub_eq_zero_of_le (Nat.not_lt.1 hle),take_zero] at ht
    cases ht
  -- all that is kept lies above the row
  have hs := h
  rw [Ordered,← take_append_drop (rows.length - wi) rows] at hs
  obtain ⟨-,hk,ha⟩ := pairwise_append.1 hs
  have hsu : ((rows.drop (rows.length - wi)).map RunEventRecord.sequence).toFinset ⊆
      newer rows [] held.sequence := by
    intro n hn
    rw [mem_toFinset,mem_map] at hn
    obtain ⟨row,hrow,rfl⟩ := hn
    rw [newer,Finset.mem_filter,mem_toFinset,append_nil]
    exact ⟨mem_map_of_mem (mem_of_mem_drop hrow),ha held ht row hrow⟩
  have hc := Finset.card_le_card hsu
  rw [toFinset_card_of_nodup (Ordered.nodup hk),length_map,length_drop] at hc
  omega

lemma mem_of_mem_append (hnodup : (batch.map RunEventRecord.sequence).Nodup)
    (hfree : ∀ held ∈ batch, ∀ row ∈ rows, row.sequence ≠ held.sequence)
    (h : held ∈ append cf rows batch) : held ∈ rows ∨ held ∈ batch := by
  unfold append at h
  rw [foldl_setDefault hnodup hfree] at h
  exact mem_append.1 ((sortRecords_perm _).mem_iff.1 (mem_of_mem_drop h))

variable (hrows : Ordered rows) (hnodup : (batch.map RunEventRecord.sequence).Nodup)
 (hfree : ∀ held ∈ batch, ∀ row ∈ rows, row.sequence ≠ held.sequence)
include hrows hnodup hfree

lemma sortRecords_append_ordered : Ordered (sortRecords (rows ++ batch)) := by
  apply sortRecords_ordered
  rw [map_append,nodup_append]
  refine ⟨hrows.nodup,hnodup,?_⟩
  simp only [mem_map]
  rintro _ ⟨row,hrow,rfl⟩ _ ⟨held,hh,rfl⟩
  exact hfree held hh row hrow

lemma append_ordered (cf : Settings) : Ordered (append cf rows batch) := by
  unfold append
  rw [foldl_setDefault hnodup hfree]
  exact (sortRecords_append_ordered hrows hnodup hfree).drop

lemma mem_append_of_newest (hm : held ∈ rows ∨ held ∈ batch)
    (hf : (newer rows batch held.sequence).card < cf.streamReplayWindowEvents) :
    held ∈ append cf rows batch := by
  unfold append
  rw [foldl_setDefault hnodup hfree]
  have hp := sortRecords_perm (rows ++ batch)
  refine mem_drop_of_newest (sortRecords_append_ordered hrows hnodup hfree)
    (hp.mem_iff.2 (mem_append.2 hm)) ?_
  have hs : newer (sortRecords (rows ++ batch)) [] held.sequence =
      newer rows batch held.sequence := by
    unfold newer
    rw [append_nil,toFinset_eq_of_perm _ _ (hp.map RunEventRecord.sequence)]
  rw [hs]
  exact hf

end

/-- What is at or below the mark has a row. What is above it has none and is, while a batch is
with the store, in the batch or above all of it. -/
structure Kept (settings : WriterSettings) (log : RunLog) : Prop where
  ordered : Ordered log.rows
  distinct : (log.ring.map RunEventRecord.sequence).Nodup
  newest : ∀ held ∈ log.ring,
    (newer log.rows log.ring held.sequence).card < settings.streamReplayWindowEvents
  written : ∀ held ∈ log.ring, held.sequence ≤ log.flushedThrough → held ∈ log.rows
  unwritten : ∀ held ∈ log.ring, log.flushedThrough < held.sequence →
    ∀ row ∈ log.rows, row.sequence ≠ held.sequence
  sub : ∀ batch, log.flushing = some batch → batch.Sublist log.ring
  offered : ∀ batch, log.flushing = some batch →
    batch ≠ [] ∧ ∀ held ∈ batch, log.flushedThrough < held.sequence
  later : ∀ batch, log.flushing = some batch → ∀ held ∈ log.ring,
    log.flushedThrough < held.sequence → held ∈ batch ∨ highest batch < held.sequence

section
variable {cf : WriterSettings} {log : RunLog}

lemma newer_mono (h : ∀ held ∈ rows ++ rn, held ∈ ro ++ ri) :
    (newer rows rn n).card ≤ (newer ro ri n).card := by
  apply Finset.card_le_card
  intro m hm
  rw [newer,Finset.mem_filter,mem_toFinset,mem_map] at hm ⊢
  obtain ⟨⟨held,hh,hn⟩,hlt⟩ := hm
  exact ⟨⟨held,h held hh,hn⟩,hlt⟩

lemma Kept.opened (h : Ordered rows) : Kept cf { rows } where
  ordered := h
  distinct := nodup_nil
  newest := by simp
  written := by simp
  unwritten := by simp
  sub := by simp
  offered := by simp
  later := by simp

lemma Kept.flushedThrough_le (h : Kept cf log) : log.flushedThrough ≤ reach log := by
  unfold reach
  split
  · exact le_rfl
  · rename_i batch hb
    obtain ⟨hne,ha⟩ := h.offered batch hb
    obtain ⟨first,hf⟩ := exists_mem_of_ne_nil batch hne
    exact le_trans (Nat.le_of_lt (ha first hf)) (le_highest hf)

lemma record_ring (hro : log.ring.length < cf.ringCapacity) :
    StreamReplay.record cf.toSettings log held = { log with ring := log.ring ++ [held] } := by
  have hz : (log.ring ++ [held]).length - cf.ringCapacity = 0 := by
    rw [length_append,length_singleton]
    omega
  unfold StreamReplay.record
  dsimp only
  rw [hz,drop_zero]

lemma Kept.record (h : Kept cf log) (hro : log.ring.length < cf.ringCapacity)
    (hh : InTime cf log held) :
    Kept cf (StreamReplay.record cf.toSettings log held) := by
  have hm := lt_of_le_of_lt h.flushedThrough_le hh.above
  obtain ⟨hrows,hri⟩ := forall_mem_append.1 hh.free
  rw [record_ring hro]
  constructor
  · exact h.ordered
  · dsimp only
    rw [map_append,nodup_append]
    refine ⟨h.distinct,nodup_singleton _,?_⟩
    simp only [mem_map,map_singleton,mem_singleton]
    rintro _ ⟨o,ho,rfl⟩ _ rfl
    exact hri o ho
  · exact hh.newest
  · refine forall_mem_append.2 ⟨h.written,forall_mem_singleton.2 fun hle => ?_⟩
    exact (Nat.not_le.2 hm hle).elim
  · exact forall_mem_append.2 ⟨h.unwritten,forall_mem_singleton.2 fun _ => hrows⟩
  · exact fun batch hb => (h.sub batch hb).trans (sublist_append_left _ _)
  · exact h.offered
  · intro batch hb
    refine forall_mem_append.2 ⟨h.later batch hb,forall_mem_singleton.2 fun _ => ?_⟩
    have ha := hh.above
    rw [reach,hb] at ha
    exact .inr ha

lemma Kept.flushBegins (h : Kept cf log) (hne : batch ≠ [])
    (hb : batch = log.ring.filter fun held => log.flushedThrough < held.sequence) :
    Kept cf { log with flushing := some batch } := by
  refine ⟨h.ordered,h.distinct,h.newest,h.written,h.unwritten,?_,?_,?_⟩
  all_goals
    rintro _ ⟨⟩
    rw [hb]
  · exact filter_sublist
  · refine ⟨hb ▸ hne,fun held hh => ?_⟩
    exact of_decide_eq_true (mem_filter.1 hh).2
  · intro held hh hlt
    exact .inl (mem_filter.2 ⟨hh,decide_eq_true hlt⟩)

lemma Kept.flushEnds (h : Kept cf log) (hb : log.flushing = some batch) :
    Kept cf (StreamReplay.flushEnds cf.toSettings log true) := by
  have hs := h.sub batch hb
  obtain ⟨-,ho⟩ := h.offered batch hb
  have hnodup := (hs.map RunEventRecord.sequence).nodup h.distinct
  have hfree : ∀ held ∈ batch, ∀ row ∈ log.rows, row.sequence ≠ held.sequence :=
    fun held hh => h.unwritten held (hs.subset hh) (ho held hh)
  have hm : log.flushedThrough ≤ highest batch := by
    have hre := h.flushedThrough_le
    rwa [reach,hb] at hre
  have hrows : ∀ row ∈ append cf.toSettings log.rows batch, row ∈ log.rows ∨ row ∈ batch :=
    fun row hrow => mem_of_mem_append hnodup hfree hrow
  unfold StreamReplay.flushEnds
  rw [hb]
  dsimp only
  rw [if_pos rfl]
  constructor
  · exact append_ordered h.ordered hnodup hfree _
  · exact h.distinct
  · intro held hh
    refine lt_of_le_of_lt (newer_mono ?_) (h.newest held hh)
    refine forall_mem_append.2 ⟨fun row hrow => ?_,fun _ => mem_append_right _⟩
    exact mem_append.2 ((hrows row hrow).imp id fun hrow => hs.subset hrow)
  · intro held hh hle
    refine mem_append_of_newest h.ordered hnodup hfree ?_ ?_
    · rcases Nat.lt_or_ge log.flushedThrough held.sequence with hlt | hge
      · exact .inr ((h.later batch hb held hh hlt).resolve_right (Nat.not_lt.2 hle))
      · exact .inl (h.written held hh hge)
    · refine lt_of_le_of_lt (newer_mono ?_) (h.newest held hh)
      refine forall_mem_append.2 ⟨fun _ => mem_append_left _,fun row hrow => ?_⟩
      exact mem_append_right _ (hs.subset hrow)
  · intro held hh hlt row hrow
    rcases hrows row hrow with hold | hn
    · exact h.unwritten held hh (lt_of_le_of_lt hm hlt) row hold
    · exact Nat.ne_of_lt (lt_of_le_of_lt (le_highest hn) hlt)
  all_goals
    intro _ hno
    cases hno

lemma flushEnds_ring (cf : Settings) (log : RunLog) :
    (StreamReplay.flushEnds cf log true).ring = log.ring := by
  unfold StreamReplay.flushEnds
  split <;> rfl

lemma flushEnds_flushing (cf : Settings) (log : RunLog) :
    (StreamReplay.flushEnds cf log true).flushing = none := by
  unfold StreamReplay.flushEnds
  split
  · assumption
  · rfl

end

structure Sound (settings : WriterSettings) (w : Writer) : Prop where
  kept : ∀ run, Kept settings (w.logs run)
  held : ∀ entry ∈ w.recorded, entry.2 ∈ (w.logs entry.1).ring
  cold : ∀ run, run ∉ w.rings → (w.logs run).ring = []
  head : ∀ run, (w.logs run).flushing ≠ none → ∃ rest, w.remaining = some (run :: rest)

section
variable {cf : WriterSettings} {w w' : Writer} {run : String}

lemma forall_logs {P : String → RunLog → Prop} (hr : P run log)
    (ho : ∀ o, o ≠ run → P o (w.logs o)) : ∀ o, P o (Function.update w.logs run log o) :=
  (Function.forall_update_iff _ P).2 ⟨hr,ho⟩

lemma ringFor_roomy (h : run ∈ w.rings ∨ w.rings.length < cf.trackedRuns) :
    ∃ ri, (∀ o, o ∈ ri ↔ o ∈ w.rings ∨ o = run) ∧ ringFor cf w run = { w with rings := ri } := by
  unfold ringFor
  by_cases hru : run ∈ w.rings
  · rw [if_pos hru]
    refine ⟨w.rings.erase run ++ [run],fun o => ?_,rfl⟩
    rw [mem_append,mem_singleton]
    by_cases hs : o = run
    · exact iff_of_true (.inr hs) (.inr hs)
    · rw [mem_erase_of_ne hs]
  · have hl := h.resolve_left hru
    have hz : (w.rings ++ [run]).length - cf.trackedRuns = 0 := by
      rw [length_append,length_singleton]
      omega
    rw [if_neg hru]
    refine ⟨w.rings ++ [run],fun o => ?_,?_⟩
    · rw [mem_append,mem_singleton]
    · dsimp only
      rw [hz,drop_zero,take_zero]
      simp

lemma Sound.record (h : Sound cf w) {held : RunEventRecord}
    (hroo : Roomy cf w (.record run held)) (hh : InTime cf (w.logs run) held) :
    Sound cf (record cf w run held) := by
  obtain ⟨hro,ht⟩ := hroo
  obtain ⟨ri,hrin,hringF⟩ := ringFor_roomy ht
  have hm : run ∈ ri := (hrin run).2 (.inr rfl)
  unfold RunEventWriter.record
  rw [hringF]
  dsimp only
  rw [if_pos hm]
  have hsame : _ = { w.logs run with ring := (w.logs run).ring ++ [held] } := record_ring hro
  constructor
  · exact forall_logs (P := fun _ => Kept cf) ((h.kept run).record hro hh) fun o _ => h.kept o
  · have hri : ∀ o fr, fr ∈ (w.logs o).ring ∨ (o,fr) = (run,held) → fr ∈
        (Function.update w.logs run (StreamReplay.record cf.toSettings (w.logs run) held)
          o).ring := by
      intro o fr
      by_cases hs : o = run
      · subst hs
        simp [hsame]
      · simp [hs]
    refine forall_mem_append.2 ⟨fun e hen => ?_,forall_mem_singleton.2 ?_⟩
    · exact hri e.1 e.2 (.inl (h.held e hen))
    · exact hri _ _ (.inr rfl)
  · intro o ho
    dsimp only at ho ⊢
    rw [hrin,not_or] at ho
    rw [Function.update_of_ne ho.2]
    exact h.cold o ho.1
  · refine forall_logs (P := fun o log => log.flushing ≠ none → ∃ r, w.remaining = some (o :: r))
      (fun hf => h.head run ?_) fun o _ => h.head o
    rwa [hsame] at hf

/-- The log of the run at the head of the flush is replaced, with its ring as it was. -/
lemma Sound.replaced (h : Sound cf w) (hre : w.remaining = some (run :: r)) (hk : Kept cf log)
    (hri : log.ring = (w.logs run).ring) (hh : log.flushing ≠ none → remaining = w.remaining) :
    Sound cf { w with logs := Function.update w.logs run log, remaining } := by
  have hs : ∀ o, (Function.update w.logs run log o).ring = (w.logs o).ring :=
    forall_logs (P := fun o log => log.ring = (w.logs o).ring) hri fun _ _ => rfl
  refine ⟨forall_logs (P := fun _ => Kept cf) hk fun o _ => h.kept o,
    fun e hen => (hs e.1).symm ▸ h.held e hen,fun o ho => (hs o).trans (h.cold o ho),?_⟩
  refine forall_logs (P := fun o log => log.flushing ≠ none → ∃ r, remaining = some (o :: r))
    (fun hf => ⟨r,(hh hf).trans hre⟩) fun o hne hf => ?_
  obtain ⟨_,ho⟩ := h.head o hf
  rw [hre,Option.some.injEq,List.cons.injEq] at ho
  exact (hne ho.1.symm).elim

def Written (log : RunLog) : Prop := ∀ held ∈ log.ring, held.sequence ≤ log.flushedThrough

/-- What a call that records nothing does: it takes or gives back the lock while nothing is
left to write, offers the batch of the next run, passes over a run without one, or writes the
batch. -/
inductive Advances (settings : WriterSettings) (w : Writer) : Writer → Prop
  | stays : Advances settings w w
  | locks (hidle : w.remaining = none ∨ w.remaining = some []) (remaining : Option (List String)) :
      Advances settings w { w with remaining }
  | offers {run : String} {rest : List String} {batch : List RunEventRecord}
      (hremaining : w.remaining = some (run :: rest)) (hnone : (w.logs run).flushing = none)
      (hne : batch ≠ [])
      (hbatch : batch = (w.logs run).ring.filter fun held =>
        (w.logs run).flushedThrough < held.sequence) :
      Advances settings w { w with
        logs := Function.update w.logs run { w.logs run with flushing := some batch }
        remaining := w.remaining }
  | passes {run : String} {rest : List String} (hremaining : w.remaining = some (run :: rest))
      (hnone : (w.logs run).flushing = none) (hwritten : Written (w.logs run)) :
      Advances settings w { w with
        logs := Function.update w.logs run (w.logs run), remaining := some rest }
  | writes {run : String} {rest : List String} {batch : List RunEventRecord}
      (hremaining : w.remaining = some (run :: rest))
      (hbatch : (w.logs run).flushing = some batch) :
      Advances settings w { w with
        logs := Function.update w.logs run
          (StreamReplay.flushEnds settings.toSettings (w.logs run) true)
        remaining := some rest }

lemma runBegins_advances (cf : WriterSettings) (w : Writer) : Advances cf w (runBegins w) := by
  unfold runBegins
  split
  · rename_i run r hre
    by_cases hf : (w.logs run).flushing.isSome
    · rw [if_pos hf]
      exact .stays
    have hn : (w.logs run).flushing = none := by simpa using hf
    rw [if_neg hf]
    unfold StreamReplay.flushBegins
    simp only [hn,Option.isSome_none,Bool.false_or,List.isEmpty_iff]
    by_cases hem : (w.logs run).ring.filter
        (fun held => decide ((w.logs run).flushedThrough < held.sequence)) = []
    · simp only [hem,hn,if_true,Option.isSome_none,Bool.false_eq_true,if_false]
      refine .passes hre hn fun held hh => ?_
      simpa using filter_eq_nil_iff.1 hem held hh
    · simp only [hem,if_false,Option.isSome_some,if_true,← hre]
      exact .offers hre hn hem rfl
  · exact .stays

lemma step_advances (cf : WriterSettings) (w : Writer) (hq : e.quiet = true) :
    Advances cf w (step cf w e) := by
  unfold step
  cases e with
  | record run held => cases hq
  | flushBegins =>
    dsimp only [flushBegins]
    split
    · exact .locks (.inl ‹_›) _
    · exact .stays
  | runBegins => exact runBegins_advances cf w
  | runEnds =>
    dsimp only [runEnds]
    split
    · split_ifs with hf
      · obtain ⟨batch,hb⟩ := Option.isSome_iff_exists.1 hf
        exact .writes ‹_› hb
      · exact .stays
    · exact .stays
  | flushEnds =>
    dsimp only [flushEnds]
    split
    · exact .locks (.inr ‹_›) _
    · exact .stays

lemma Sound.advances (h : Sound cf w) (ha : Advances cf w w') : Sound cf w' := by
  cases ha with
  | stays => exact h
  | locks hi =>
    refine ⟨h.kept,h.held,h.cold,fun run hf => ?_⟩
    obtain ⟨r,hre⟩ := h.head run hf
    rcases hi with hi | hi <;> cases hi.symm.trans hre
  | offers hre _ hne hb => exact h.replaced hre ((h.kept _).flushBegins hne hb) rfl fun _ => rfl
  | passes hre hn _ => exact h.replaced hre (h.kept _) rfl fun hf => (hf hn).elim
  | writes hre hb =>
    exact h.replaced hre ((h.kept _).flushEnds hb) (flushEnds_ring _ _)
      fun hf => (hf (flushEnds_flushing _ _)).elim

lemma Advances.recorded (h : Advances cf w w') : w'.recorded = w.recorded := by
  cases h <;> rfl

lemma Sound.step (h : Sound cf w) (hm : TimelyCalls cf w e w') : Sound cf w' := by
  obtain ⟨⟨hro,rfl⟩,ht⟩ := hm
  cases e with
  | record run held => exact h.record hro ht
  | flushBegins | runBegins | runEnds | flushEnds => exact h.advances (step_advances cf w rfl)

lemma Sound.opened (h : ∀ run, Ordered (rows run)) : Sound cf (opened rows) where
  kept run := Kept.opened (h run)
  held := by simp [RunEventWriter.opened]
  cold _ _ := rfl
  head run hf := (hf rfl).elim

/-- What is with the store is all that was not written. -/
def Whole (log : RunLog) : Prop := ∀ batch, log.flushing = some batch →
    ∀ held ∈ log.ring, log.flushedThrough < held.sequence → held ∈ batch

structure Sweeping (w : Writer) : Prop where
  passed : ∀ run, Written (w.logs run) ∨ ∃ runs, w.remaining = some runs ∧ run ∈ runs
  whole : ∀ run, Whole (w.logs run)

lemma Sweeping.all_written (h : Sweeping w) (hi : w.remaining = none ∨ w.remaining = some []) :
    ∀ run, Written (w.logs run) := by
  intro run
  refine (h.passed run).resolve_right ?_
  rintro ⟨runs,hre,hru⟩
  rcases hi with hi | hi <;> cases hi.symm.trans hre
  cases hru

lemma Sweeping.next (h : Sweeping w) (hre : w.remaining = some (run :: r))
    (hw : Written log) (hn : log.flushing = none) :
    Sweeping { w with logs := Function.update w.logs run log, remaining := some r } := by
  constructor
  · refine forall_logs (P := fun o log => Written log ∨ ∃ runs, some r = some runs ∧ o ∈ runs)
      (.inl hw) fun o hne => (h.passed o).imp_right ?_
    rintro ⟨runs,hruns,ho⟩
    cases hre.symm.trans hruns
    exact ⟨r,rfl,mem_of_ne_of_mem hne ho⟩
  · exact forall_logs (P := fun _ => Whole) (fun _ hb => nomatch hn.symm.trans hb)
      fun o _ => h.whole o

lemma Sweeping.advances (h : Sweeping w) (hso : Sound cf w) (ha : Advances cf w w') :
    Sweeping w' := by
  cases ha with
  | stays => exact h
  | locks hi => exact ⟨fun run => .inl (h.all_written hi run),h.whole⟩
  | offers hre _ _ hb =>
    refine ⟨forall_logs (P := fun o log => Written log ∨ ∃ runs, w.remaining = some runs ∧ o ∈ runs)
      (.inr ⟨_,hre,mem_cons_self⟩) fun o _ => h.passed o,
      forall_logs (P := fun _ => Whole) ?_ fun o _ => h.whole o⟩
    rintro _ ⟨⟩ held hh hlt
    rw [hb]
    exact mem_filter.2 ⟨hh,decide_eq_true hlt⟩
  | passes hre hn hw => exact h.next hre hw hn
  | @writes run _ batch hrem hb =>
    refine h.next hrem (fun held hh => ?_) (flushEnds_flushing _ _)
    rw [flushEnds_ring] at hh
    have hm : (StreamReplay.flushEnds cf.toSettings (w.logs run) true).flushedThrough =
        highest batch := by
      unfold StreamReplay.flushEnds
      rw [hb]
      rfl
    have hre := (hso.kept run).flushedThrough_le
    rw [reach,hb] at hre
    rw [hm]
    rcases Nat.lt_or_ge (w.logs run).flushedThrough held.sequence with hlt | hge
    · exact le_highest (h.whole run batch hb held hh hlt)
    · exact le_trans hge hre

/-- When the flush takes the lock nothing is with the store, and every ring is on its list. -/
lemma Sound.sweeping (h : Sound cf w) (hn : w.remaining = none) :
    Sweeping (RunEventWriter.flushBegins w) := by
  have hbe : RunEventWriter.flushBegins w = { w with remaining := some w.rings } := by
    unfold RunEventWriter.flushBegins
    rw [hn]
  rw [hbe]
  constructor
  · intro run
    by_cases hru : run ∈ w.rings
    · exact .inr ⟨w.rings,rfl,hru⟩
    · left
      intro held hh
      rw [h.cold run hru] at hh
      cases hh
  · intro run batch hb
    obtain ⟨r,hre⟩ := h.head run (by rw [hb]; exact Option.some_ne_none batch)
    rw [hn] at hre
    cases hre

end

section
variable {settings : WriterSettings} {rows : String → List RunEventRecord} {w w' : Writer}
 {events later : List Event}

/-- When every frame is recorded in time, a flush that takes the lock after the last of them
leaves all of them in the store. -/
theorem flush_leaves_recorded (hrows : ∀ run, Ordered (rows run))
    (hrun : Run (TimelyCalls settings) (opened rows) events w) (hunlocked : w.remaining = none)
    (hlater : Run (QuietCalls settings) (flushBegins w) later w') (hdone : w'.remaining = none) :
    ∀ entry ∈ w.recorded, entry.2 ∈ (w'.logs entry.1).rows := by
  have hs : Sound settings w :=
    hrun.invariant (Sound settings) (fun h hm => h.step hm) (Sound.opened hrows)
  -- from the lock on the flush goes from run to run, and nothing is recorded
  have hswe : Sound settings w' ∧ Sweeping w' ∧ w'.recorded = w.recorded := by
    refine hlater.invariant (fun v => Sound settings v ∧ Sweeping v ∧ v.recorded = w.recorded) ?_ ?_
    · rintro v event v' ⟨hv,hsw,hre⟩ ⟨⟨-,rfl⟩,hq⟩
      have ha := step_advances settings v hq
      exact ⟨hv.advances ha,hsw.advances hv ha,ha.recorded.trans hre⟩
    · have ha : Advances settings w (flushBegins w) := @step_advances .flushBegins settings w rfl
      exact ⟨hs.advances ha,hs.sweeping hunlocked,ha.recorded⟩
  obtain ⟨hs',hsw',hr'⟩ := hswe
  intro entry hen
  rw [← hr'] at hen
  have hh := hs'.held entry hen
  have hma := hsw'.all_written (.inl hdone) entry.1 entry.2 hh
  exact (hs'.kept entry.1).written entry.2 hh hma

def frameRecord (sequence : ℕ) : RunEventRecord := ⟨sequence,"agent_status",some (.dict [])⟩

/-- Two frames, the second recorded while the first is with the store. -/
def overlapping : List Event :=
  [.record "r" (frameRecord 1),.flushBegins,.runBegins,.record "r" (frameRecord 2),.runEnds,
    .flushEnds]

lemma overlapping_run : Run (TimelyCalls {}) (opened fun _ => []) overlapping
    (overlapping.foldl (step {}) (opened fun _ => [])) := by
  refine .step ⟨⟨⟨by decide,by decide⟩,rfl⟩,⟨by decide,by decide,by decide⟩⟩ ?_
  refine .step ⟨⟨trivial,rfl⟩,trivial⟩ (.step ⟨⟨trivial,rfl⟩,trivial⟩ ?_)
  refine .step ⟨⟨⟨by decide,by decide⟩,rfl⟩,⟨by decide,by decide,by decide⟩⟩ ?_
  exact .step ⟨⟨trivial,rfl⟩,trivial⟩ (.step ⟨⟨trivial,rfl⟩,trivial⟩ (.done _))

lemma sweep_run (cf : WriterSettings) (w : Writer) :
    Run (QuietCalls cf) (flushBegins w) [.runBegins,.runEnds,.flushEnds]
      ([Event.runBegins,.runEnds,.flushEnds].foldl (step cf) (flushBegins w)) :=
  .step ⟨⟨trivial,rfl⟩,rfl⟩ (.step ⟨⟨trivial,rfl⟩,rfl⟩ (.step ⟨⟨trivial,rfl⟩,rfl⟩ (.done _)))

theorem flush_leaves_recorded_two :
    let w := overlapping.foldl (step {}) (opened fun _ => [])
    let w' := [Event.runBegins,.runEnds,.flushEnds].foldl (step {}) (flushBegins w)
    w.recorded.length = 2 ∧ ∀ entry ∈ w.recorded, entry.2 ∈ (w'.logs entry.1).rows :=
  ⟨rfl,flush_leaves_recorded (fun _ => List.Pairwise.nil) overlapping_run rfl
    (sweep_run {} _) (by decide)⟩

/-- A frame numbered one is held back, the frame after it is recorded and written, and the first
is recorded when it is published. -/
def heldBack : List Event :=
  [.record "r" (frameRecord 2),.flushBegins,.runBegins,.runEnds,.flushEnds,
    .record "r" (frameRecord 1)]

/-- The flush that follows leaves the frame out. -/
theorem held_frame_never_written :
    let w := heldBack.foldl (step {}) (opened fun _ => [])
    let w' := [Event.runBegins,.runEnds,.flushEnds].foldl (step {}) (flushBegins w)
    Run (Calls {}) (opened fun _ => []) heldBack w ∧ w.remaining = none ∧
      Run (QuietCalls {}) (flushBegins w) [.runBegins,.runEnds,.flushEnds] w' ∧
      w'.remaining = none ∧ ("r",frameRecord 1) ∈ w.recorded ∧
      frameRecord 1 ∉ (w'.logs "r").rows := by
  intro w w'
  refine ⟨?_,rfl,sweep_run {} w,by decide,mem_cons_of_mem _ mem_cons_self,?_⟩
  · refine .step ⟨⟨by decide,by decide⟩,rfl⟩ (.step ⟨trivial,rfl⟩ (.step ⟨trivial,rfl⟩ ?_))
    refine .step ⟨trivial,rfl⟩ (.step ⟨trivial,rfl⟩ (.step ⟨⟨by decide,by decide⟩,rfl⟩ (.done _)))
  · intro hm
    have hn : (w'.logs "r").rows.map RunEventRecord.sequence = [2] := by decide
    have ho : 1 ∈ (w'.logs "r").rows.map RunEventRecord.sequence := mem_map_of_mem hm
    rw [hn] at ho
    exact absurd ho (by decide)

end

end VaultspecA2A.RunEventWriter
