import VaultspecA2A.StreamReplay

/-!
# What a resume is served

The window of a resume over rows and a ring that stay as they are while it is read. For each
number the row is taken, or else the frame that came into the ring first under it, and what is
taken may be no frame any more. The window is what can be decoded above the viewer's number,
from the last gap on.

The last section puts the window before the live loop of the connection. Whether the numbers of
the run are served is asked for each live frame anew.
-/
namespace VaultspecA2A.ResumeWindow
open PyValue ThreadStream StreamReplay List

def kept (rows ring : List RunEventRecord) (n : ℕ) : Option RunEventRecord :=
  (rows.find? fun row => row.sequence == n).or (ring.find? fun held => held.sequence == n)

def keptFrame (rows ring : List RunEventRecord) (n : ℕ) : Option ReplayFrame :=
  (kept rows ring n).bind decoded

def highestHeld (rows ring : List RunEventRecord) : Option ℕ :=
  ((rows ++ ring).map RunEventRecord.sequence).max?

def windowOf (settings : Settings) (rows ring : List RunEventRecord) (resume : ResumePosition) :
    ReplayWindow :=
  if settings.streamReplayEnabled then
    match retainedAfter (readAfter rows resume.afterSequence settings.streamReplayWindowEvents) ring
        resume.afterSequence with
    | [] => emptyReplayWindow (highWaterMark rows) ring resume
    | frame :: frames => replayWindow (frame :: frames) resume
  else unavailableWindow

lemma reads_windowOf (cf : Settings) (log : RunLog) {co : Connection} (hst : co.stage = .reading) :
    classifies log (readsMark log (merges log (readsRows cf log co true)) true) =
      replayed co (windowOf cf log.rows log.ring co.resume) := by
  -- once the window is served the further reads are none of the connection's steps
  have hs : ∀ wi, classifies log (readsMark log (replayed co wi) true) =
      replayed co wi ∧ merges log (replayed co wi) = replayed co wi := by
    intro wi
    unfold classifies readsMark merges
    rcases replayed_stage co wi with h | h
    · simp only [h,and_self]
    · simp only [h,and_self]
  unfold windowOf readsRows
  rw [hst]
  cases cf.streamReplayEnabled with
  | false =>
    simp only [Bool.false_and,Bool.false_eq_true,if_false]
    rw [(hs _).2,(hs _).1]
  | true =>
    simp only [Bool.and_self,if_true]
    unfold merges
    dsimp only
    cases retainedAfter (readAfter log.rows co.resume.afterSequence
        cf.streamReplayWindowEvents) log.ring co.resume.afterSequence with
    | nil => rfl
    | cons fr fm =>
      exact (hs (replayWindow (fr :: fm) co.resume)).1

section
variable {ro ri me re : List RunEventRecord}

lemma find_foldl_setDefault (me re : List RunEventRecord) (n : ℕ) :
    (re.foldl setDefault me).find? (fun r => r.sequence == n) =
      (me.find? fun r => r.sequence == n).or (re.find? fun r => r.sequence == n) := by
  induction re generalizing me with
  | nil => rw [foldl_nil,find?_nil,Option.or_none]
  | cons record re ih =>
    have ha : (setDefault me record).find? (fun r => r.sequence == n) =
        (me.find? fun r => r.sequence == n).or
          ([record].find? fun r => r.sequence == n) := by
      unfold setDefault
      split_ifs with ht
      · rw [any_eq_true] at ht
        obtain ⟨o,ho,hnu⟩ := ht
        by_cases hn : record.sequence = n
        · have hs : (me.find? fun r => r.sequence == n).isSome = true :=
            find?_isSome.2 ⟨o,ho,hn ▸ hnu⟩
          rw [Option.or_of_isSome hs]
        · rw [find?_singleton,if_neg (by simpa using hn),Option.or_none]
      · rw [find?_append]
    rw [foldl_cons,ih,ha,Option.or_assoc,← find?_append,singleton_append]

lemma setDefault_nodup (h : (me.map RunEventRecord.sequence).Nodup) (held : RunEventRecord) :
    ((setDefault me held).map RunEventRecord.sequence).Nodup := by
  unfold setDefault
  split_ifs with ht
  · exact h
  · rw [map_append,nodup_append]
    refine ⟨h,nodup_singleton _,?_⟩
    simp only [mem_map,map_singleton,mem_singleton]
    rintro _ ⟨o,ho,rfl⟩ _ rfl hs
    exact ht (any_eq_true.2 ⟨o,ho,beq_iff_eq.2 hs⟩)

lemma foldl_setDefault_nodup (h : (me.map RunEventRecord.sequence).Nodup)
    (re : List RunEventRecord) :
    ((re.foldl setDefault me).map RunEventRecord.sequence).Nodup := by
  induction re generalizing me with
  | nil => exact h
  | cons record re ih => exact ih (setDefault_nodup h record)

lemma mem_iff_find (h : (me.map RunEventRecord.sequence).Nodup) :
    held ∈ me ↔ me.find? (fun r => r.sequence == held.sequence) = some held := by
  constructor
  · intro hm
    have hs : (me.find? fun r => r.sequence == held.sequence).isSome = true :=
      find?_isSome.2 ⟨held,hm,beq_self_eq_true _⟩
    obtain ⟨o,ho⟩ := Option.isSome_iff_exists.1 hs
    have hn : o.sequence = held.sequence := by simpa using find?_some ho
    rw [ho,inj_on_of_nodup_map h (mem_of_find?_eq_some ho) hm hn]
  · exact mem_of_find?_eq_some

lemma find_filter_above (re : List RunEventRecord) (h : c < n) :
    (re.filter fun r => c < r.sequence).find? (fun r => r.sequence == n) =
      re.find? fun r => r.sequence == n := by
  rw [find?_filter]
  congr 1
  funext r
  by_cases hr : r.sequence = n
  · simp [hr,h]
  · simp [hr]

lemma readAfter_eq (c : ℕ) {k : ℕ} (hf : ro.length ≤ k) :
    readAfter ro c k = ro.filter fun row => c < row.sequence :=
  take_of_length_le (le_trans (length_filter_le _ _) hf)

lemma decoded_sequence {fr : ReplayFrame} (h : decoded held = some fr) :
    held.sequence = fr.sequence := by
  unfold decoded at h
  split at h
  · split_ifs at h
    rw [← Option.some.inj h]
  · cases h

/-- The frames that are found are those that can be decoded above the viewer's number. -/
lemma mem_retainedAfter (hro : Ordered ro) {k : ℕ} (hf : ro.length ≤ k)
    {fr : ReplayFrame} :
    fr ∈ retainedAfter (readAfter ro c k) ri c ↔
      c < fr.sequence ∧ keptFrame ro ri fr.sequence = some fr := by
  have hno : ((ro.filter fun row => c < row.sequence).map RunEventRecord.sequence).Nodup :=
    (filter_sublist.map _).nodup hro.nodup
  have hal := foldl_setDefault_nodup hno (ri.filter fun held => c < held.sequence)
  unfold retainedAfter keptFrame kept
  rw [readAfter_eq c hf,mem_filterMap]
  simp only [(sortRecords_perm _).mem_iff]
  constructor
  · rintro ⟨record,hre,hd⟩
    have hn := decoded_sequence hd
    rw [mem_iff_find hal,find_foldl_setDefault,hn] at hre
    have ha : c < fr.sequence := by
      rw [← hn]
      rcases Option.or_eq_some_iff.1 hre with hrow | ⟨-,hri⟩
      · exact of_decide_eq_true (mem_filter.1 (mem_of_find?_eq_some hrow)).2
      · exact of_decide_eq_true (mem_filter.1 (mem_of_find?_eq_some hri)).2
    rw [find_filter_above _ ha,find_filter_above _ ha] at hre
    exact ⟨ha,by rw [hre,Option.bind_some,hd]⟩
  · rintro ⟨ha,hk⟩
    obtain ⟨record,hre,hd⟩ := Option.bind_eq_some_iff.1 hk
    refine ⟨record,?_,hd⟩
    rw [mem_iff_find hal,decoded_sequence hd,find_foldl_setDefault,
      find_filter_above _ ha,find_filter_above _ ha]
    exact hre

lemma retainedAfter_ordered (hro : Ordered ro) {k : ℕ} :
    (retainedAfter (readAfter ro c k) ri c).Pairwise
      fun first second => first.sequence < second.sequence := by
  have hre : ((readAfter ro c k).map RunEventRecord.sequence).Nodup := by
    unfold readAfter
    exact (((take_sublist _ _).trans filter_sublist).map _).nodup hro.nodup
  refine (sortRecords_ordered (foldl_setDefault_nodup hre _)).filterMap decoded ?_
  intro first second hlt fr hf o ho
  rw [← decoded_sequence hf,← decoded_sequence ho]
  exact hlt

lemma mem_of_keptFrame {fr : ReplayFrame} (h : keptFrame ro ri n = some fr) :
    fr.sequence = n ∧ ∃ record ∈ ro ++ ri, record.sequence = n := by
  obtain ⟨record,hre,hd⟩ := Option.bind_eq_some_iff.1 h
  have hf : record ∈ ro ++ ri ∧ record.sequence = n := by
    rcases Option.or_eq_some_iff.1 hre with hrow | ⟨-,hri⟩
    · exact ⟨mem_append_left _ (mem_of_find?_eq_some hrow),by simpa using find?_some hrow⟩
    · exact ⟨mem_append_right _ (mem_of_find?_eq_some hri),by simpa using find?_some hri⟩
  exact ⟨(decoded_sequence hd).symm.trans hf.2,record,hf⟩

lemma mark_eq (ro ri : List RunEventRecord) :
    (ri.map RunEventRecord.sequence ++ (highWaterMark ro).toList).max? = highestHeld ro ri := by
  unfold highWaterMark highestHeld
  cases hro : (ro.map RunEventRecord.sequence).max? with
  | none =>
    rw [max?_eq_none_iff,map_eq_nil_iff] at hro
    rw [hro,Option.toList_none,append_nil,nil_append]
  | some top =>
    obtain ⟨ht,hle⟩ := max?_eq_some_iff.1 hro
    rw [Option.toList_some,map_append]
    cases ha : (ro.map RunEventRecord.sequence ++ ri.map RunEventRecord.sequence).max? with
    | none =>
      rw [max?_eq_none_iff,append_eq_nil_iff] at ha
      rw [ha.1] at ht
      cases ht
    | some ma =>
      obtain ⟨hm,hab⟩ := max?_eq_some_iff.1 ha
      rw [max?_eq_some_iff]
      obtain ⟨hrowsL,hrin⟩ := forall_mem_append.1 hab
      refine ⟨?_,?_⟩
      · rcases mem_append.1 hm with hrow | hri
        · have hs : ma = top := le_antisymm (hle ma hrow) (hrowsL top ht)
          rw [hs]
          exact mem_append_right _ (mem_singleton_self top)
        · exact mem_append_left _ hri
      · refine forall_mem_append.2 ⟨hrin,forall_mem_singleton.2 ?_⟩
        exact hrowsL top ht

lemma le_highestHeld {record : RunEventRecord} (h : record ∈ ro ++ ri) :
    ∃ ma, highestHeld ro ri = some ma ∧ record.sequence ≤ ma := by
  have hme : record.sequence ∈ (ro ++ ri).map RunEventRecord.sequence := mem_map_of_mem h
  unfold highestHeld
  cases hm : ((ro ++ ri).map RunEventRecord.sequence).max? with
  | none =>
    rw [max?_eq_none_iff] at hm
    rw [hm] at hme
    cases hme
  | some ma => exact ⟨ma,rfl,(max?_eq_some_iff.1 hm).2 _ hme⟩

end

/-- The parts of an answered resume. -/
structure Serves (rows ring : List RunEventRecord) (resume : ResumePosition)
    (window : ReplayWindow) : Prop where
  consecutive : ∃ start, CountsFrom start window.frames
  /-- Each frame is what its number is kept as, above the viewer's number. -/
  genuine : ∀ frame ∈ window.frames, resume.afterSequence < frame.sequence ∧
    keptFrame rows ring frame.sequence = some frame
  /-- The last frame is the newest that can be decoded. -/
  newest : ∀ n, resume.afterSequence < n → (keptFrame rows ring n).isSome = true →
    ∃ last, window.frames.getLast? = some last ∧ n ≤ last.sequence
  complete : resume.fromWindowStart = false →
    (window.gapReason = none ↔
      window.frames.head?.map ReplayFrame.sequence = some (resume.afterSequence + 1) ∨
        (∀ n, resume.afterSequence < n → keptFrame rows ring n = none) ∧
          ∃ mark, highestHeld rows ring = some mark ∧ resume.afterSequence ≤ mark)
  floor : window.dedupFloor ≤ (highestHeld rows ring).getD 0

section
variable {re : ResumePosition} {fm : List ReplayFrame}

lemma tailFrom_suffix (fm : List ReplayFrame) (i : ℕ) : tailFrom fm i <:+ fm := by
  induction i with
  | zero => exact suffix_rfl
  | succ i ih =>
    rw [tailFrom]
    split_ifs
    · exact drop_suffix _ _
    · exact ih

lemma replayWindow_frames (fm : List ReplayFrame) (re : ResumePosition) :
    (replayWindow fm re).frames = contiguousTail fm ∧
      (replayWindow fm re).dedupFloor = re.afterSequence := by
  unfold replayWindow
  dsimp only
  split_ifs <;> exact ⟨rfl,rfl⟩

lemma replayWindow_gap (fm : List ReplayFrame) (h : re.fromWindowStart = false) :
    (replayWindow fm re).gapReason = none ↔
      (contiguousTail fm).head?.map ReplayFrame.sequence = some (re.afterSequence + 1) := by
  unfold replayWindow
  simp only [h,Bool.false_eq_true,if_false,beq_iff_eq]
  split_ifs with hf
  · exact iff_of_true rfl hf
  · exact iff_of_false (by simp) hf

lemma le_getLast (h : fm.Pairwise fun first second => first.sequence < second.sequence)
    {fr la : ReplayFrame} (hf : fr ∈ fm) (hl : fm.getLast? = some la) :
    fr.sequence ≤ la.sequence := by
  obtain ⟨p,rfl⟩ := getLast?_eq_some_iff.1 hl
  rcases mem_append.1 hf with hb | hs
  · exact Nat.le_of_lt ((pairwise_append.1 h).2.2 fr hb la (mem_singleton_self _))
  · rw [mem_singleton.1 hs]

lemma replayWindow_serves (hne : fm ≠ [])
    (ho : fm.Pairwise fun first second => first.sequence < second.sequence)
    (hfr : ∀ fr, fr ∈ fm ↔ re.afterSequence < fr.sequence ∧ keptFrame ro ri fr.sequence = some fr) :
    Serves ro ri re (replayWindow fm re) := by
  obtain ⟨ht,hc⟩ := contiguousTail_counts hne
  obtain ⟨hs,hfl⟩ := replayWindow_frames fm re
  have hsu : contiguousTail fm <:+ fm := tailFrom_suffix _ _
  have hl : (contiguousTail fm).getLast? = fm.getLast? := by
    obtain ⟨p,heq⟩ := hsu
    conv_rhs => rw [← heq]
    rw [getLast?_append_of_ne_nil _ ht]
  obtain ⟨fo,hfo⟩ := exists_mem_of_ne_nil fm hne
  obtain ⟨ha,hk⟩ := (hfr fo).1 hfo
  constructor
  · rw [hs]
    exact hc
  · rw [hs]
    exact fun fr hf => (hfr fr).1 (hsu.subset hf)
  · intro n hn hso
    obtain ⟨fr,hf⟩ := Option.isSome_iff_exists.1 hso
    obtain ⟨rfl,-⟩ := mem_of_keptFrame hf
    rw [hs,hl]
    have hme := (hfr fr).2 ⟨hn,hf⟩
    cases hen : fm.getLast? with
    | none => exact (hne (getLast?_eq_none_iff.1 hen)).elim
    | some la => exact ⟨la,rfl,le_getLast ho hme hen⟩
  · intro hnu
    rw [replayWindow_gap fm hnu,hs]
    refine (or_iff_left ?_).symm
    rintro ⟨hno,-⟩
    rw [hno fo.sequence ha] at hk
    cases hk
  · obtain ⟨-,record,hre,hnum⟩ := mem_of_keptFrame hk
    obtain ⟨ma,hm,hle⟩ := le_highestHeld hre
    rw [hfl,hm,Option.getD_some]
    omega

lemma emptyReplayWindow_serves (hnot : ∀ n, re.afterSequence < n → keptFrame ro ri n = none) :
    Serves ro ri re (emptyReplayWindow (highWaterMark ro) ri re) := by
  have hno : ∀ n, re.afterSequence < n → (keptFrame ro ri n).isSome = true → False := by
    intro n hn hs
    rw [hnot n hn] at hs
    cases hs
  unfold emptyReplayWindow
  rw [mark_eq]
  cases hm : highestHeld ro ri with
  | none =>
    refine ⟨⟨0,rfl⟩,by simp [unavailableWindow],fun n hn h => (hno n hn h).elim,?_,?_⟩
    · intro _
      simp [unavailableWindow,hm]
    · exact Nat.zero_le _
  | some ma =>
    dsimp only
    split_ifs with ha
    · refine ⟨⟨0,rfl⟩,by simp,fun n hn h => (hno n hn h).elim,?_,?_⟩
      · intro _
        simp [hm,ha]
      · rw [hm,Option.getD_some]
    · refine ⟨⟨0,rfl⟩,by simp,fun n hn h => (hno n hn h).elim,?_,?_⟩
      · intro _
        exact iff_of_true rfl (.inr ⟨hnot,ma,hm,Nat.not_lt.1 ha⟩)
      · rw [hm,Option.getD_some]
        exact Nat.min_le_right _ _

lemma windowOf_serves {cf : Settings} (hen : cf.streamReplayEnabled = true)
    (hro : Ordered ro) (hfi : ro.length ≤ cf.streamReplayWindowEvents)
    (re : ResumePosition) :
    Serves ro ri re (windowOf cf ro ri re) := by
  have hm : ∀ fr, _ ↔ _ := fun fr =>
    @mem_retainedAfter ro ri re.afterSequence hro _ hfi fr
  unfold windowOf
  rw [if_pos hen]
  split
  · rename_i hf
    refine emptyReplayWindow_serves fun n hn => ?_
    rw [Option.eq_none_iff_forall_ne_some]
    intro fr hfr
    obtain ⟨rfl,-⟩ := mem_of_keptFrame hfr
    have hin := (hm fr).2 ⟨hn,hfr⟩
    rw [hf] at hin
    cases hin
  · rename_i fr fm hf
    rw [hf] at hm
    refine replayWindow_serves (cons_ne_nil _ _) ?_ hm
    rw [← hf]
    exact retainedAfter_ordered hro

end

/-- The numbers that the live loop emits. With each item comes whether the numbers of the run
are served when its turn comes. -/
def liveNumbers : Viewer → List (Bool × Value) → List ℕ
  | _, [] => []
  | viewer, (served,item) :: queue =>
    if viewer.closed then []
    else
      let (next,emitted) := liveFrame served viewer item
      (emitted.bind fun frame => if served then retainedSequence frame else none).toList ++
        liveNumbers next queue

/-- All numbers of a connection: those of its replay, and those of its live loop if it comes to
that. -/
def allNumbers (connection : Connection) (queue : List (Bool × Value)) : List ℕ :=
  connection.numbers ++
    match connection.stage with
    | .live => liveNumbers connection.viewer queue
    | _ => []

/-- One turn emits no number and leaves the mark, or emits one above the mark and moves it
there. -/
lemma liveFrame_number (se : Bool) (vi : Viewer) (x : Value) :
    let turn := liveFrame se vi x
    let nu := turn.2.bind fun fr => if se then retainedSequence fr else none
    (nu = none ∧ turn.1.highestEmitted = vi.highestEmitted) ∨
      ∃ n, nu = some n ∧ vi.highestEmitted < n ∧ turn.1.highestEmitted = n := by
  intro turn nu
  unfold nu turn
  cases se with
  | false =>
    left
    cases hd : x.isDict with
    | false => simp [liveFrame,hd]
    | true => simp [liveFrame,hd]
  | true =>
    simp only [if_true]
    cases hd : x.isDict with
    | false => exact .inl (by simp [liveFrame,hd])
    | true =>
      cases hn : retainedSequence x with
      | none => exact .inl (by simp [liveFrame,hd,hn])
      | some n =>
        rw [liveFrame_numbered hd hn]
        split_ifs with hre
        · exact .inl ⟨rfl,rfl⟩
        · exact .inr ⟨n,hn,Nat.not_le.1 hre,rfl⟩

lemma liveNumbers_ascend (vi : Viewer) (qu : List (Bool × Value)) :
    (∀ n ∈ liveNumbers vi qu, vi.highestEmitted < n) ∧ (liveNumbers vi qu).Pairwise (· < ·) := by
  induction qu generalizing vi with
  | nil => exact ⟨by simp [liveNumbers],List.Pairwise.nil⟩
  | cons e qu ih =>
    obtain ⟨se,x⟩ := e
    have ht := liveFrame_number se vi x
    rw [liveNumbers]
    by_cases hc : vi.closed = true
    · rw [if_pos hc]
      exact ⟨by simp,List.Pairwise.nil⟩
    · rw [if_neg hc]
      obtain ⟨ha,hp⟩ := ih (liveFrame se vi x).1
      dsimp only at ht ⊢
      rcases ht with ⟨hn,hma⟩ | ⟨n,hs,hlt,hma⟩
      · rw [hn,Option.toList_none,nil_append]
        rw [hma] at ha
        exact ⟨ha,hp⟩
      · rw [hs,Option.toList_some,singleton_append,forall_mem_cons,pairwise_cons]
        rw [hma] at ha
        exact ⟨⟨hlt,fun m hm => Nat.lt_trans hlt (ha m hm)⟩,ha,hp⟩

section
variable {connection co : Connection} {window wi : ReplayWindow}

lemma allNumbers_ascend (hc : ∃ start, CountsFrom start wi.frames) (qu : List (Bool × Value)) :
    (allNumbers (replayed co wi) qu).Pairwise (· < ·) := by
  obtain ⟨start,hc⟩ := hc
  have hse : CountsFrom start (servedFrames wi) := hc.through _
  have ha : ((servedFrames wi).map ReplayFrame.sequence).Pairwise (· < ·) := by
    rw [hse]
    exact pairwise_lt_range'
  unfold allNumbers
  rw [(replayed_numbers co wi).1]
  split
  · obtain ⟨hab,hli⟩ := liveNumbers_ascend (replayed co wi).viewer qu
    refine pairwise_append.2 ⟨ha,hli,fun m hm n hn => ?_⟩
    -- the mark of the viewer is the last number served
    have hma : m ≤ (replayed co wi).viewer.highestEmitted := by
      unfold replayed
      dsimp only
      cases hl : ((servedFrames wi).map ReplayFrame.sequence).getLast? with
      | none =>
        rw [getLast?_eq_none_iff.1 hl] at hm
        cases hm
      | some la =>
        obtain ⟨p,heq⟩ := getLast?_eq_some_iff.1 hl
        rw [heq] at hm ha
        rw [Option.getD_some]
        rcases mem_append.1 hm with hb | hs
        · exact Nat.le_of_lt ((pairwise_append.1 ha).2.2 m hb la (mem_singleton_self _))
        · exact Nat.le_of_eq (mem_singleton.1 hs)
    exact Nat.lt_of_le_of_lt hma (hab n hn)
  · rw [append_nil]
    exact ha

/-- A resume reads a log and serves what can be decoded above the viewer's number from the last
gap on, with a notice exactly when that does not go on from the number, and the connection emits
no number twice. -/
theorem resume_served {settings : Settings} {log : RunLog} {connection : Connection}
    (henabled : settings.streamReplayEnabled = true) (hrows : Ordered log.rows)
    (hfit : log.rows.length ≤ settings.streamReplayWindowEvents)
    (hstage : connection.stage = .reading) (queue : List (Bool × Value)) :
    let window := windowOf settings log.rows log.ring connection.resume
    let served :=
      classifies log (readsMark log (merges log (readsRows settings log connection true)) true)
    Serves log.rows log.ring connection.resume window ∧ served = replayed connection window ∧
      (allNumbers served queue).Pairwise (· < ·) := by
  intro window served
  have hse : Serves log.rows log.ring connection.resume window :=
    windowOf_serves henabled hrows hfit connection.resume
  have hs : served = replayed connection window := reads_windowOf settings log hstage
  refine ⟨hse,hs,?_⟩
  rw [hs]
  exact allNumbers_ascend hse.consecutive queue

/-- The rows end at the third frame, of the second only a damaged row is left, and the ring has
the third and the fourth. -/
def flushedLog : RunLog :=
  let frame (n : ℕ) : RunEventRecord := ⟨n,"agent_status",some (.dict [])⟩
  { issued := 4
    ring := [frame 3,frame 4]
    flushedThrough := 3
    rows := [frame 1,{ frame 2 with payload := none },frame 3] }

def returning : Connection :=
  { resume := ⟨1,false⟩, terminal := false, subscribedAt := 4 }

theorem resume_served_returning :
    let window := windowOf {} flushedLog.rows flushedLog.ring returning.resume
    window.frames.map ReplayFrame.sequence = [3,4] ∧ window.gapReason = some .replayWindowExceeded ∧
      Serves flushedLog.rows flushedLog.ring returning.resume window :=
  ⟨rfl,rfl,(resume_served rfl (by decide) (by decide) rfl []).1⟩

end

end VaultspecA2A.ResumeWindow
