import VaultspecA2A.VerdictSubscriber

/-!
# Recovery from a gap

When the engine's replay window is exceeded the events of the skipped range are gone.
The subscriber fetches a snapshot of the engine's proposals, reads one page of the runs
that wait for input and one of those that run, newest first, and resumes each of them
whose own pending proposal the snapshot shows decided. Then its cursor jumps past the
range.

The checkpoints are read while the gap is handled and stand for that time.
-/
namespace VaultspecA2A.GapRecovery
open Tables PyText PyValue ThreadLifecycle Database ActionClaims Clarification List
open PermissionResponses VerdictSubscriber

/-- `^[A-Za-z0-9_][A-Za-z0-9_-]{0,127}$`. -/
def isPathSafeRunId (id : String) : Bool :=
  decide (id.length ≤ maxRunIdChars) &&
    match id.toList with
    | [] => false
    | c :: cs => isHandleStart c && cs.all fun d => isHandleStart d || decide (d = '-')

structure VerdictSubscriberConfig where
  parkedThreadLimit : ℕ := 200
deriving DecidableEq, Repr

section
variable (created : String → Instant)

def listing (s : Store) (status : Option ThreadStatus) (includeDeleting : Bool := false) :
    List ThreadModel :=
  (s.threads.rows.filter fun t =>
    isPathSafeRunId t.id && status.all (fun wanted => decide (t.status = wanted)) &&
      (includeDeleting || decide (t.status ≠ .deleting))).insertionSort
    fun a b => created b.id ≤ created a.id

def listThreads (s : Store) (limit : ℕ) (status : Option ThreadStatus := none) (offset : ℕ := 0)
    (includeDeleting : Bool := false) : List ThreadModel × ℕ :=
  let runs := listing created s status includeDeleting
  ((runs.drop offset).take limit,runs.length)

variable (config : VerdictSubscriberConfig)

def parkedCandidateIds (s : Store) : List String :=
  let parked := (listThreads created s config.parkedThreadLimit (some .inputRequired)).1
  let running := (listThreads created s config.parkedThreadLimit (some .running)).1
  (running.map ThreadModel.id).foldl
    (fun candidates id => if id ∈ candidates then candidates else candidates ++ [id])
    (parked.map ThreadModel.id)

end

def decidedAttempt (verdicts : List (String × Verdict)) (channels : Value) (threadId : String) :
    Option Attempt :=
  (threadPendingGateProposal channels).bind fun gate =>
    (verdicts.lookup gate).map fun verdict => ⟨threadId,verdict,none,[gate]⟩

section
variable (fingerprint : ActionPayload → String) (verdicts : List (String × Verdict))
variable (channels : String → Value) (drawings : String → Drawing)

def resumeDecidedGates (s : Store) : List String → Except Raised (Store × List Prepared)
  | [] => .ok (s,[])
  | threadId :: candidates =>
    match decidedAttempt verdicts (channels threadId) threadId with
    | none => resumeDecidedGates s candidates
    | some attempt =>
      match prepareVerdictResume s threadId (channels threadId) attempt.verdict attempt.notes
          attempt.correlatedIds with
      | none => resumeDecidedGates s candidates
      | some setup => do
          let (claimed,_) ←
            claimVerdictResume fingerprint s threadId setup (drawings threadId)
          let (resumed,prepared) ← resumeDecidedGates claimed candidates
          .ok (resumed,⟨attempt,channels threadId,setup⟩ :: prepared)

end

structure GapSignal where
  reason : String
  latestOutboxSeq : Option ℤ
deriving DecidableEq, Repr

def recoveryHighWater (data : Value) : Option ℤ :=
  match (objectMapping data).bind (Value.get "latest_outbox_seq") with
  | some (.int n) => some n
  | _ => none

def advanceCursor (cursor lastSeq : ℤ) : ℤ := max cursor (max lastSeq 0)

/-- What the handling of a gap leaves, and the resumes it prepared on the way. -/
structure GapHandled where
  store : Store
  cursor : ℤ
  prepared : List Prepared

/-- Handle a gap. Without a snapshot nothing moves, the cursor included. -/
def handleGap (fingerprint : ActionPayload → String) (created : String → Instant)
    (config : VerdictSubscriberConfig) (s : Store) (cursor : ℤ) (gap : GapSignal)
    (snapshot : Option Value) (channels : String → Value) (drawings : String → Drawing) :
    Except Raised GapHandled :=
  match snapshot with
  | none => .ok ⟨s,cursor,[]⟩
  | some data => do
      let (resumed,prepared) ← resumeDecidedGates fingerprint (decidedVerdicts data) channels
        drawings s (parkedCandidateIds created config s)
      .ok ⟨resumed,(gap.latestOutboxSeq.or (recoveryHighWater data)).elim cursor
        (advanceCursor cursor),prepared⟩

/-- An active run whose checkpoint is pending on the proposal of a gate. -/
structure Parked (s : Store) (channels : String → Value) (thread : ThreadModel) (gate : String) :
    Prop where
  stored : getThread s thread.id = some thread
  active : thread.status ∉ nonActiveStatuses
  pending : threadPendingGateProposal (channels thread.id) = some gate

/-- Fewer runs than a page holds come before the run in the listing of its status, which
is one of the two that are read. -/
structure OnPage (created : String → Instant) (config : VerdictSubscriberConfig) (s : Store)
    (thread : ThreadModel) : Prop where
  safe : isPathSafeRunId thread.id = true
  status : thread.status = .inputRequired ∨ thread.status = .running
  rank : (listing created s (some thread.status)).idxOf thread < config.parkedThreadLimit

section
variable {cr : String → Instant}
lemma mem_listing : th ∈ listing cr s (some su) ↔ th ∈ s.threads.rows ∧
    isPathSafeRunId th.id = true ∧ th.status = su ∧ th.status ≠ .deleting := by
  simp [listing,and_assoc]

lemma mem_merged {ca ids : List String} : tid ∈ ids.foldl
    (fun ca id => if id ∈ ca then ca else ca ++ [id])
    ca ↔ tid ∈ ca ∨ tid ∈ ids := by
  induction ids generalizing ca with
  | nil => simp
  | cons id ids ih =>
    rw [foldl_cons,ih,mem_cons]
    split_ifs with hid
    · refine or_congr_right' fun hn => ⟨.inr,fun h => h.resolve_left ?_⟩
      rintro rfl
      exact hn hid
    · rw [mem_append,mem_singleton,or_assoc]

lemma mem_page (hre : su ∈ [ThreadStatus.inputRequired,.running]) :
    th ∈ (listThreads cr s cf.parkedThreadLimit (some su)).1 ↔
      th ∈ s.threads.rows ∧ th.status = su ∧ OnPage cr cf s th := by
  rw [listThreads,drop_zero]
  constructor
  · intro hm
    have hl := mem_of_mem_take hm
    obtain ⟨hrow,hs,hst,-⟩ := mem_listing.1 hl
    subst hst
    exact ⟨hrow,rfl,hs,by simpa using hre,(mem_take_iff_idxOf_lt hl).1 hm⟩
  · rintro ⟨hrow,rfl,hp⟩
    have hne : th.status ≠ .deleting := by
      rcases hp.status with h | h <;> simp [h]
    have hl : th ∈ listing cr s (some th.status) := mem_listing.2 ⟨hrow,hp.safe,rfl,hne⟩
    exact (mem_take_iff_idxOf_lt hl).2 hp.rank

lemma mem_parkedCandidateIds (hst : getThread s th.id = some th) :
    th.id ∈ parkedCandidateIds cr cf s ↔ OnPage cr cf s th := by
  have hrow : th ∈ s.threads.rows := Table.lookup_mem ThreadModel.id hst
  have hsa : ∀ o ∈ s.threads.rows, o.id = th.id → o = th := by
    intro o ho hid
    exact Table.eq_of_not_fits ho hrow (fun hf => thread_id_unique hf hid)
      fun hf => thread_id_unique hf hid.symm
  rw [parkedCandidateIds,mem_merged,mem_map,mem_map]
  constructor
  · rintro (⟨o,hm,hid⟩ | ⟨o,hm,hid⟩)
    · obtain ⟨ho,-,hp⟩ := (mem_page (by simp)).1 hm
      exact hsa o ho hid ▸ hp
    · obtain ⟨ho,-,hp⟩ := (mem_page (by simp)).1 hm
      exact hsa o ho hid ▸ hp
  · intro hp
    rcases hp.status with hs | hs
    · exact .inl ⟨th,(mem_page (by simp)).2 ⟨hrow,hs,hp⟩,rfl⟩
    · exact .inr ⟨th,(mem_page (by simp)).2 ⟨hrow,hs,hp⟩,rfl⟩

end

section
variable {fingerprint fp : ActionPayload → String} {verdicts ve : List (String × Verdict)}
variable {channels chs : String → Value} {drawings dr : String → Drawing} {s t : Store}
variable {threadId tid : String}

lemma prepareVerdictResume_decided (hs : (getThread s tid).isSome = true)
    (ha : decidedAttempt ve value tid = some att) :
    (prepareVerdictResume s tid value att.verdict att.notes att.correlatedIds).isSome = true := by
  obtain ⟨ga,hga,hf⟩ := Option.bind_eq_some_iff.1 ha
  obtain ⟨vr,-,rfl⟩ := Option.map_eq_some_iff.1 hf
  obtain ⟨th,ht⟩ := Option.isSome_iff_exists.1 hs
  simp [prepareVerdictResume,ht,hga]

/-- A resume is prepared for every stored candidate with a decided gate, and for no run
that is not a candidate. -/
structure Covers (verdicts : List (String × Verdict)) (channels : String → Value) (s : Store)
    (candidates : List String) (prepared : List Prepared) : Prop where
  only : ∀ p ∈ prepared, p.attempt.threadId ∈ candidates
  all : ∀ threadId ∈ candidates, (getThread s threadId).isSome = true → ∀ attempt,
    decidedAttempt verdicts (channels threadId) threadId = some attempt →
    ∃ p ∈ prepared, p.attempt = attempt ∧ p.channels = channels threadId ∧ p.Precise

lemma Covers.skip (h : Covers ve chs s ca pr) (hn : (getThread s tid).isSome = true →
      decidedAttempt ve (chs tid) tid = none) :
    Covers ve chs s (tid :: ca) pr := by
  refine ⟨fun p hp => mem_cons_of_mem _ (h.only p hp),?_⟩
  intro o hm hs att ha
  rcases mem_cons.1 hm with rfl | hm
  · cases (hn hs).symm.trans ha
  · exact h.all o hm hs att ha

lemma Covers.prepare (h : Covers ve chs t ca pr) (hk : RunsKept s t)
    (ha : decidedAttempt ve (chs tid) tid = some att)
    (hse : prepareVerdictResume s tid (chs tid) att.verdict att.notes att.correlatedIds = some se) :
    Covers ve chs s (tid :: ca) (⟨att,chs tid,se⟩ :: pr) := by
  have hid : att.threadId = tid := by
    obtain ⟨ga,-,hf⟩ := Option.bind_eq_some_iff.1 ha
    obtain ⟨vr,-,rfl⟩ := Option.map_eq_some_iff.1 hf
    rfl
  subst hid
  refine ⟨forall_mem_cons.2 ⟨mem_cons_self,fun p hp => mem_cons_of_mem _ (h.only p hp)⟩,?_⟩
  intro o hm hs attempt' ha'
  rcases mem_cons.1 hm with rfl | hm
  · cases ha.symm.trans ha'
    exact ⟨_,mem_cons_self,rfl,rfl,prepareVerdictResume_precise hse⟩
  · rw [← hk o] at hs
    obtain ⟨p,hp,hre⟩ := h.all o hm hs attempt' ha'
    exact ⟨p,mem_cons_of_mem _ hp,hre⟩

lemma resumeDecidedGates_covers (h : resumeDecidedGates fp ve chs dr s ca =
    .ok (t,pr)) : Covers ve chs s ca pr := by
  induction ca generalizing s pr with
  | nil =>
    cases h
    exact ⟨by simp,by simp⟩
  | cons tid ca ih =>
    rw [resumeDecidedGates] at h
    split at h
    · rename_i hu
      exact (ih h).skip fun _ => hu
    rename_i att ha
    split at h
    · rename_i hun
      refine (ih h).skip fun hst => ?_
      have hs := prepareVerdictResume_decided hst ha
      rw [hun] at hs
      cases hs
    rename_i se hse
    obtain ⟨⟨cl,oc⟩,hc,h⟩ := bind_ok.1 h
    obtain ⟨⟨re,la⟩,hl,h⟩ := bind_ok.1 h
    cases h
    exact (ih hl).prepare (claimVerdictResume_ok hc).1.runs ha hse

/-- Once a gap is handled, every run parked at a gate that the snapshot shows decided has
had a resume prepared with that verdict exactly when each of them was on its page. -/
theorem gap_recovers_iff {created : String → Instant} {config : VerdictSubscriberConfig}
    {cursor : ℤ} {gap : GapSignal} {data : Value} {handled : GapHandled}
    (h : handleGap fingerprint created config s cursor gap (some data) channels drawings =
      .ok handled) :
    (∀ thread gate verdict, Parked s channels thread gate →
      (decidedVerdicts data).lookup gate = some verdict →
      ∃ p ∈ handled.prepared, p.attempt.threadId = thread.id ∧
        p.setup.resumeValue = .approvalVerdict (some verdict.value) none gate) ↔
    ∀ thread gate verdict, Parked s channels thread gate →
      (decidedVerdicts data).lookup gate = some verdict → OnPage created config s thread := by
  unfold handleGap at h
  obtain ⟨⟨resumed,prepared⟩,hl,h⟩ := bind_ok.1 h
  cases h
  have hc := resumeDecidedGates_covers hl
  constructor
  · intro hpre thread gate verdict hpar hv
    obtain ⟨p,hp,hid,-⟩ := hpre thread gate verdict hpar hv
    exact (mem_parkedCandidateIds hpar.stored).1 (hid ▸ hc.only p hp)
  · intro hpag thread gate verdict hpar hv
    have hca := (mem_parkedCandidateIds hpar.stored).2 (hpag thread gate verdict hpar hv)
    have ha : decidedAttempt (decidedVerdicts data) (channels thread.id) thread.id =
        some ⟨thread.id,verdict,none,[gate]⟩ := by
      simp [decidedAttempt,hpar.pending,hv]
    obtain ⟨p,hp,hpa,hpc,hpr⟩ := hc.all thread.id hca (by rw [hpar.stored]; rfl) _ ha
    have hga : p.setup.currentGate = gate := by
      have hpe := hpr.pending
      rw [hpc,hpar.pending] at hpe
      exact (Option.some.inj hpe).symm
    refine ⟨p,hp,by rw [hpa],?_⟩
    rw [hpr.value,hpa,hga]

end

def approvedSnapshot : Value := .dict [(.str "snapshot",.dict [(.str "proposals",.list [.dict
    [(.str "status",.str "approved"),(.str "changeset_id",.str "request-1")]])])]

def missedEvents : GapSignal := ⟨"replay_window_exceeded",some 40⟩

def loneGap : Except Raised (Store × GapHandled) := do
  let parked ← parkedAtGate
  let handled ← handleGap (fun _ => "digest") (fun _ => 0) {} parked 0 missedEvents
    (some approvedSnapshot) (fun _ => gateChannels)
    (fun _ => PermissionAsks.drawingAt 1 "action-2" "dispatch-2")
  .ok (parked,handled)

theorem gap_recovers_lone : ∃ s handled, loneGap = .ok (s,handled) ∧ handled.cursor = 40 ∧
    handled.prepared.map (fun p => p.setup.resumeValue) = [gateApproval] ∧
    ((∀ thread gate verdict, Parked s (fun _ => gateChannels) thread gate →
      (decidedVerdicts approvedSnapshot).lookup gate = some verdict →
      ∃ p ∈ handled.prepared, p.attempt.threadId = thread.id ∧
        p.setup.resumeValue = .approvalVerdict (some verdict.value) none gate) ↔
    ∀ thread gate verdict, Parked s (fun _ => gateChannels) thread gate →
      (decidedVerdicts approvedSnapshot).lookup gate = some verdict →
      OnPage (fun _ => 0) {} s thread) := by
  have hre : loneGap.toOption.map (fun r =>
      (r.2.cursor,r.2.prepared.map fun p => p.setup.resumeValue)) =
        some (40,[gateApproval]) := by decide +kernel
  cases hru : loneGap with
  | error raised =>
    rw [hru] at hre
    cases hre
  | ok ended =>
    obtain ⟨s,handled⟩ := ended
    rw [hru] at hre
    obtain ⟨hc,hp⟩ := Prod.mk.inj (Option.some.inj hre)
    obtain ⟨parked,-,hru⟩ := bind_ok.1 hru
    obtain ⟨handled',hh,hru⟩ := bind_ok.1 hru
    cases hru
    exact ⟨s,handled,rfl,hc,hp,gap_recovers_iff hh⟩

section
variable {α : Type*} {r : α → α → Prop} {x : α} {l : List α} {n : ℕ}

/-- What nothing follows in an ordered list is not on a page shorter than the list. -/
lemma last_notMem_take (hs : l.Pairwise r) (hn : l.Nodup)
    (hl : ∀ y ∈ l, y ≠ x → ¬ r x y) (hlo : n < l.length) : x ∉ l.take n := by
  intro hm
  rw [← take_append_drop n l] at hs hn
  have hre : l.drop n ≠ [] := by simpa using hlo
  obtain ⟨y,hy⟩ := exists_mem_of_ne_nil _ hre
  have hne : y ≠ x := fun hyx =>
    (nodup_append.1 hn).2.2 x hm y hy hyx.symm
  exact hl y (mem_of_mem_drop hy) hne ((pairwise_append.1 hs).2.2 x hm y hy)

end

abbrev Crowd := Fin 201

def crowdCode (n : Crowd) : List Char :=
  ['r',Char.ofNat (97 + n.val / 16),Char.ofNat (97 + n.val % 16)]

def crowdId (n : Crowd) : String := String.ofList (crowdCode n)

lemma crowdId_inj (h : crowdId m = crowdId n) : m = n := by
  have hl : ∀ n : Crowd, (crowdCode n).map Char.toNat =
      [114,97 + n.val / 16,97 + n.val % 16] := by decide +kernel
  have hc := congrArg (List.map Char.toNat) (String.ofList_injective h)
  rw [hl,hl] at hc
  simp only [List.cons.injEq,and_true,true_and] at hc
  apply Fin.ext
  omega

lemma crowdId_valid (n : Crowd) : ReceiptIdValid (crowdId n) ∧
    isPathSafeRunId (crowdId n) = true ∧ 1 ≤ sqlLength (sqlTrim (crowdId n)) ∧
    sqlLength (crowdId n) ≤ receiptIdMaxLength := by
  simp only [ReceiptIdValid,isBlank,isPathSafeRunId,sqlLength,sqlTrim,crowdId,
    String.toList_ofList,String.length_ofList]
  revert n
  decide +kernel

def crowdRun (n : Crowd) : ThreadModel where
  id := crowdId n
  authority := ⟨0,1,.ingest,crowdId n,Nat.one_pos,(crowdId_valid n).1⟩
  status := .inputRequired
  isActive := true
  failureReason := none
  providerCondition := none
  repairStatus := .healthy
  repairReason := none
  approvalStatus := none
  approvalRequestId := none
  approvalResponseActionId := none
  lastRequestedAction := none
  lastAppliedAction := none

def crowd : Store where
  threads :=
    { rows := (List.finRange 201).map crowdRun
      checks := by
        intro row hrow
        obtain ⟨n,-,rfl⟩ := List.mem_map.1 hrow
        exact (crowdId_valid n).2.2
      fits := by
        refine List.pairwise_map.2 ((List.nodup_finRange 201).imp fun {m n} hne => ?_)
        exact ⟨fun h => hne (crowdId_inj h),fun h => hne (crowdId_inj h)⟩ }
  controlActions := ∅
  permissionRequests := ∅
  permissionLogs := []

/-- The first run is the oldest, and the only one parked at a gate. -/
def crowdCreated (id : String) : Instant := if id = crowdId 0 then 0 else 1

def crowdChannels (id : String) : Value := if id = crowdId 0 then gateChannels else .null

lemma mem_crowd : row ∈ crowd.threads.rows ↔ ∃ n, row = crowdRun n := by
  simp [crowd,eq_comm]

lemma first_stored : getThread crowd (crowdRun 0).id = some (crowdRun 0) :=
  Table.lookup_of_mem ThreadModel.id thread_id_unique (mem_crowd.2 ⟨0,rfl⟩)

lemma listing_crowd : (listing crowdCreated crowd (some .inputRequired)).length = 201 ∧
    (listing crowdCreated crowd (some .inputRequired)).Nodup := by
  have ha : crowd.threads.rows.filter (fun t => isPathSafeRunId t.id &&
      (some ThreadStatus.inputRequired).all (fun wa => decide (t.status = wa)) &&
      (false || decide (t.status ≠ .deleting))) = crowd.threads.rows := by
    rw [filter_eq_self]
    intro row hrow
    obtain ⟨n,rfl⟩ := mem_crowd.1 hrow
    simp [crowdRun,(crowdId_valid n).2.1]
  have hn : crowd.threads.rows.Nodup :=
    crowd.threads.fits.imp fun hf heq => thread_id_unique hf (congrArg _ heq)
  rw [listing,ha]
  exact ⟨by simp [crowd],(perm_insertionSort _ _).nodup_iff.2 hn⟩

lemma first_off_page : (crowdRun 0).id ∉ parkedCandidateIds crowdCreated {} crowd := by
  intro hm
  have hra := ((mem_parkedCandidateIds first_stored).1 hm).rank
  have hl : crowdRun 0 ∈ listing crowdCreated crowd (some .inputRequired) :=
    mem_listing.2 ⟨mem_crowd.2 ⟨0,rfl⟩,(crowdId_valid 0).2.1,rfl,by decide⟩
  have hp := (mem_take_iff_idxOf_lt hl).2 hra
  obtain ⟨hlo,hn⟩ := listing_crowd
  have : IsTrans ThreadModel fun a b => crowdCreated b.id ≤ crowdCreated a.id :=
    ⟨fun _ _ _ hab hbc => le_trans hbc hab⟩
  have : Std.Total fun a b : ThreadModel => crowdCreated b.id ≤ crowdCreated a.id :=
    ⟨fun a b => le_total (crowdCreated b.id) (crowdCreated a.id)⟩
  have hs : (listing crowdCreated crowd (some .inputRequired)).Pairwise
      fun a b => crowdCreated b.id ≤ crowdCreated a.id := pairwise_insertionSort _ _
  refine last_notMem_take hs hn ?_ (by rw [hlo]; decide) hp
  intro row hrow hne
  obtain ⟨n,rfl⟩ := mem_crowd.1 (mem_listing.1 hrow).1
  have hno : crowdId n ≠ crowdId 0 := fun h => hne (by rw [crowdId_inj h])
  simp [crowdCreated,crowdRun,hno]

lemma resumeDecidedGates_undecided (h : ∀ id ∈ ca, decidedAttempt ve (chs id) id = none) :
    resumeDecidedGates fp ve chs dr s ca = .ok (s,[]) := by
  induction ca with
  | nil => rfl
  | cons id ca ih =>
    obtain ⟨hid,hre⟩ := forall_mem_cons.1 h
    rw [resumeDecidedGates,hid]
    exact ih hre

/-- The oldest of two hundred and one parked runs is passed over, and the cursor moves
past the events that approved its document. -/
theorem parked_run_passed_over :
    ∃ handled, handleGap (fun _ => "digest") crowdCreated {} crowd 0 missedEvents
        (some approvedSnapshot) crowdChannels
        (fun id => PermissionAsks.drawingAt 1 id id) = .ok handled ∧
      handled.cursor = 40 ∧ handled.prepared.length = 0 ∧
      Parked crowd crowdChannels (crowdRun 0) "request-1" ∧
      (decidedVerdicts approvedSnapshot).lookup "request-1" = some .approved := by
  have hn : ∀ id ∈ parkedCandidateIds crowdCreated {} crowd,
      decidedAttempt (decidedVerdicts approvedSnapshot) (crowdChannels id) id = none := by
    intro id hid
    have hne : id ≠ crowdId 0 := by
      rintro rfl
      exact first_off_page hid
    rw [crowdChannels,if_neg hne]
    rfl
  refine ⟨⟨crowd,40,[]⟩,?_,rfl,rfl,⟨first_stored,by decide,by decide⟩,by decide⟩
  rw [handleGap,resumeDecidedGates_undecided hn]
  rfl

end VaultspecA2A.GapRecovery
