import VaultspecA2A.ActionClaims

/-!
# Claims of unclaimed keys

A claim can be lost in many ways: another intention holds the key, another dispatcher
the lease, the run has moved on, a drawn identity is taken. Where none of these is the
case the claim is acquired and its acceptance can be committed. Each stage of the claim
is followed through: the row is inserted, leased to the caller, installed as the writer
of the run and given its receipt.
-/
namespace VaultspecA2A.FreshClaims
open Tables PyText ThreadLifecycle Database ControlActions ThreadElections ActionLeases List
open ActionClaims

/-- A bounded text without spaces and NUL, as every drawn identity is one. -/
def isPlainId (text : String) : Bool :=
  decide (1 ≤ text.length) && decide (text.length ≤ receiptIdMaxLength) &&
    text.toList.all fun c => !isSpace c && decide (c ≠ '\x00')

lemma isPlainId_iff : isPlainId x = true ↔ 1 ≤ x.length ∧ x.length ≤ receiptIdMaxLength ∧
    ∀ c ∈ x.toList, isSpace c = false ∧ c ≠ '\x00' := by
  simp [isPlainId,and_assoc]

lemma isPlainId_toList (h : isPlainId x = true) : x.toList ≠ [] := by
  intro hn
  have hl := (isPlainId_iff.1 h).1
  rw [← String.length_toList,hn] at hl
  cases hl

lemma isPlainId_nonempty (h : isPlainId x = true) : x.isEmpty = false := by
  rw [Bool.eq_false_iff]
  intro hem
  rw [String.isEmpty_iff.1 hem] at h
  exact isPlainId_toList h rfl

lemma isPlainId_token (h : isPlainId x = true) : isToken receiptIdMaxLength x = true := by
  obtain ⟨hmi,hm,ha⟩ := isPlainId_iff.1 h
  simp only [isToken,Bool.and_eq_true,decide_eq_true_eq,all_eq_true]
  refine ⟨⟨hmi,hm⟩,fun c hc => ?_⟩
  simp [isWhiteSpace,(ha c hc).1]

lemma isPlainId_receipt (h : isPlainId x = true) : ReceiptIdValid x := by
  obtain ⟨-,hm,ha⟩ := isPlainId_iff.1 h
  refine ⟨fun hb => ?_,hm⟩
  cases hl : x.toList with
  | nil => exact isPlainId_toList h hl
  | cons c cs =>
    have hs := all_eq_true.1 hb c (by simp [hl])
    rw [(ha c (by simp [hl])).1] at hs
    cases hs

lemma dropWhile_of_head {cs : List Char} (h : ∀ c ∈ cs, p c = false) : cs.dropWhile p = cs := by
  cases cs with
  | nil => rfl
  | cons c cs => rw [dropWhile_cons_of_neg (by simp [h c mem_cons_self])]

lemma isPlainId_sql (h : isPlainId x = true) : sqlTrim x = x ∧ sqlLength x = x.length := by
  obtain ⟨-,-,ha⟩ := isPlainId_iff.1 h
  have hs : ∀ c ∈ x.toList, decide (c = ' ') = false := by
    intro c hc
    rw [decide_eq_false_iff_not]
    rintro rfl
    exact Bool.noConfusion ((ha _ hc).1.symm.trans (by decide : isSpace ' ' = true))
  constructor
  · unfold sqlTrim
    rw [dropWhile_of_head hs,dropWhile_of_head fun c hc => hs c (mem_reverse.1 hc),
      reverse_reverse,String.ofList_toList]
  · unfold sqlLength
    rw [takeWhile_eq_self_iff.2 fun c hc => by simp [(ha c hc).2],String.length_toList]

/-- Identities no row of the store has. -/
structure Fresh (s : Store) (actionId dispatchId : String) : Prop where
  action_plain : isPlainId actionId = true
  dispatch_plain : isPlainId dispatchId = true
  action_new : ∀ a ∈ s.controlActions.rows, a.id ≠ actionId
  dispatch_new : ∀ a ∈ s.controlActions.rows, a.dispatchId ≠ some dispatchId
  receipt_new : ∀ t ∈ s.threads.rows, t.authority.actionReceiptId ≠ dispatchId

structure Claimable (s : Store) (request : ControlActionClaimRequest) (thread : ThreadModel)
    (input : AcceptedActionInput) : Prop where
  run : getThread s request.threadId = some thread
  run_id : isToken maxRunIdChars request.threadId = true
  active : thread.status ∉ nonActiveStatuses
  expectation : request.writeExpectation = some (threadWriteExpectation thread)
  key_free : getControlActionByIdempotencyKey s request.threadId request.idempotencyKey = none
  payload : request.payload = some (.accepted input)
  program : input.dispatch.graphDefinition.teamId = input.dispatch.teamPreset
  addressed : input.dispatch.threadId = request.threadId
  verb : graphActionVerb request.actionType = some input.dispatch.verb
  timeout : ∃ seconds, 1 ≤ seconds ∧ request.recoveryTimeoutSeconds = some seconds
  no_deadline : request.recoveryDeadlineAt = none

variable {actionType ty : ControlActionType}

lemma recoverable_of_verb (h : graphActionVerb ty = some ve) :
    ty ∈ recoveryActionTypes ∧ ty ≠ .cancel := by
  cases ty <;> first | exact ⟨by decide,by decide⟩ | cases h

variable {tid dispatchId did : String}

section
variable {s : Store} {request rq : ControlActionClaimRequest} {thread th : ThreadModel}
variable {drawn dr : Drawn} {freshToken tk : String}

def claimedRow (request : ControlActionClaimRequest) (drawn : Drawn) (deadline : Instant) :
    ControlActionModel :=
  newRow (request.args (some deadline)) drawn

lemma claimedRow_dispatchId (h : isPlainId rq.dispatchId = true) :
    (claimedRow rq dr dl).dispatchId = some rq.dispatchId := by
  simp [claimedRow,newRow,ControlActionClaimRequest.args,isPlainId_nonempty h]

lemma resolvedRecoveryDeadline_fresh (it : Instant) (hre : Claimable s rq th ip) : ∃ dl, it < dl ∧
    resolvedRecoveryDeadline rq.actionType it rq.recoveryTimeoutSeconds
      rq.recoveryDeadlineAt = .ok (some dl) := by
  obtain ⟨se,hp,hs⟩ := hre.timeout
  refine ⟨it + se * second,?_,?_⟩
  · have hl : (0 : ℤ) < se * 1000000 := by omega
    exact Int.lt_add_of_pos_right it hl
  · unfold resolvedRecoveryDeadline
    rw [if_neg (not_not.2 (recoverable_of_verb hre.verb).1),hs,hre.no_deadline]
    exact if_neg (by omega)

lemma createControlAction_inserted (hd : requiresDeadline ar.actionType ar.resultStatus =
      ar.recoveryDeadlineAt.isSome)
    (hi : s.controlActions.insert (newRow ar dr) = some ac) :
    createControlAction s ar dr = .ok ({ s with controlActions := ac },newRow ar dr) := by
  unfold createControlAction
  dsimp only
  rw [if_neg (not_not.2 hd),hi]

lemma reserveControlAction_fresh (dl : Instant) (hre : Claimable s rq th ip)
    (hf : Fresh s dr.actionId rq.dispatchId) :
    ∃ ac, ac.rows = s.controlActions.rows ++ [claimedRow rq dr dl] ∧
      reserveControlAction s (rq.args (some dl)) dr = .ok ({ s with controlActions := ac },
          ⟨claimedRow rq dr dl,true,true⟩) := by
  have hrec := (recoverable_of_verb hre.verb).1
  have hc : (claimedRow rq dr dl).Check := by
    refine ⟨?_,fun n hn => ?_,fun hq => ?_⟩
    · unfold ControlActionModel.DeadlineCheck
      split_ifs with hm
      · intro _
        exact Option.some_ne_none dl
      · exact (hm hrec).elim
    · cases hn
    · cases hq
  have hfi : ∀ a ∈ s.controlActions.rows, ControlActionModel.Fits a (claimedRow rq dr dl) := by
    intro a ha
    refine ⟨hf.action_new a ha,fun hk => ?_,fun hd => ?_,fun hq => ?_⟩
    · have hno := find?_eq_none.1 hre.key_free a ha
      exact hno (decide_eq_true (Prod.ext hk.1 hk.2))
    · rw [claimedRow_dispatchId hf.dispatch_plain] at hd
      exact hf.dispatch_new a ha hd.2
    · cases hq.2.1
  obtain ⟨ac,hi⟩ := Table.insert_of_fits hc hfi
  refine ⟨ac,Table.rows_of_insert hi,?_⟩
  have hreq : requiresDeadline rq.actionType .acceptedNotApplied = true :=
    decide_eq_true ⟨hrec,by decide⟩
  have hcr : createControlAction s (rq.args (some dl)) dr =
      .ok ({ s with controlActions := ac },claimedRow rq dr dl) :=
    createControlAction_inserted hreq hi
  unfold reserveControlAction getOrCreateControlAction
  have hfr : getControlActionByIdempotencyKey s (rq.args (some dl)).threadId
      (rq.args (some dl)).idempotencyKey = none := hre.key_free
  rw [hfr,hcr]
  simp [claimedRow,newRow,ControlActionClaimRequest.args]

def identity (a : ControlActionModel) : String × String × String × Option String :=
  (a.id,a.threadId,a.idempotencyKey,a.dispatchId)

/-- A statement that renames no row, puts none in the queue and passes the checks is
made. -/
lemma updateWhere_total {t : ControlActionTable} (hs : ∀ a, identity (f a) = identity a)
    (hqu : ∀ a, (f a).resultStatus = .queued →
      a.resultStatus = .queued ∧ (f a).queuePosition = a.queuePosition)
    (hc : ∀ a ∈ t.rows, p a = true → (f a).Check) : ∃ u, t.updateWhere p f = some u := by
  refine Table.updateWhere_of_fits hc fun a _ b _ hf => ?_
  have hn : ∀ r, identity (Table.changed p f r) = identity r := by
    intro r
    unfold Table.changed
    split_ifs
    · exact hs r
    · rfl
  have hq : ∀ r, (Table.changed p f r).resultStatus = .queued →
      r.resultStatus = .queued ∧ (Table.changed p f r).queuePosition = r.queuePosition := by
    intro r
    unfold Table.changed
    split_ifs
    · exact hqu r
    · exact fun h => ⟨h,rfl⟩
  have ha := hn a
  have hb := hn b
  simp only [identity,Prod.mk.injEq] at ha hb
  obtain ⟨hid,hk,hd,hpl⟩ := hf
  unfold ControlActionModel.Fits
  rw [ha.1,ha.2.1,ha.2.2.1,ha.2.2.2,hb.1,hb.2.1,hb.2.2.1,hb.2.2.2]
  refine ⟨hid,hk,hd,fun hbo => hpl ?_⟩
  obtain ⟨hqa,hqb,ht,hp⟩ := hbo
  rw [(hq a hqa).2,(hq b hqb).2] at hp
  exact ⟨(hq a hqa).1,(hq b hqb).1,ht,hp⟩

lemma takeActionLease_fresh (it : Instant) (hro : s.controlActions.rows = ro ++ [row])
    (ho : row.appliedAt = none) (hfr : row.claimToken = none) (ht : tk.isEmpty = false) :
    ∃ ac, ac.rows = ro ++ [granted tk (it + controlActionLeaseTtl) row] ∧
      takeActionLease s row.id tk it = .ok ({ s with controlActions := ac },some tk) := by
  have hm : row ∈ s.controlActions.rows := by simp [hro]
  have hot : ∀ a, ControlActionModel.Fits a row →
      (decide (a.id = row.id) && (a.appliedAt.isNone && acquirableBy a tk it)) =
        false := by
    intro a hf
    simp [hf.1]
  have hrow : (decide (row.id = row.id) &&
      (row.appliedAt.isNone && acquirableBy row tk it)) = true := by
    simp [ho,acquirableBy,unheld,hfr]
  obtain ⟨ac,hup⟩ := updateWhere_total
    (p := fun a => decide (a.id = row.id) && (a.appliedAt.isNone && acquirableBy a tk it))
    (f := granted tk (it + controlActionLeaseTtl)) (fun _ => rfl)
    (fun _ hq => ⟨hq,rfl⟩) fun a ha _ => s.controlActions.checks a ha
  refine ⟨ac,?_,?_⟩
  · rw [Table.rows_of_updateWhere_newest hro hot hup,Table.changed,if_pos hrow]
  · have hac : acquireControlActionLease s row.id tk (it + controlActionLeaseTtl)
        it = .ok ({ s with controlActions := ac },true) := by
      have hex : ¬ it + controlActionLeaseTtl ≤ it :=
        Int.not_le.2 (Int.lt_add_of_pos_right it (by decide : (0 : ℤ) < controlActionLeaseTtl))
      unfold acquireControlActionLease
      simp only [ht,Bool.false_eq_true,if_false,hex]
      have hd : updateAction s row.id (fun a => a.appliedAt.isNone &&
          acquirableBy a tk it) (granted tk (it + controlActionLeaseTtl)) =
          .ok ({ s with controlActions := ac },decide (s.controlActions.affected
            (fun a => decide (a.id = row.id) &&
              (a.appliedAt.isNone && acquirableBy a tk it)) = 1)) := by
        unfold updateAction
        dsimp only
        rw [hup]
      rw [hd,← updateAction_matched (Table.lookup_of_mem ControlActionModel.id
        action_id_unique hm) (by simpa using hrow) hd]
    unfold takeActionLease
    rw [hac]
    rfl

lemma compareAndSetThread_fresh (ex : ThreadWriteExpectation) (vs : ThreadModel → ThreadModel)
    (hid : ∀ t, (vs t).id = t.id) (ht : getThread s tid = some th)
    (hs : th.status = ex.status) (hau : th.authority = ex.authority)
    (hj : s.controlActions.holds (journalRowFor tid successor) = true)
    (hp : isPlainId successor.actionReceiptId = true)
    (hn : ∀ t ∈ s.threads.rows, t.authority.actionReceiptId ≠ successor.actionReceiptId) :
    ∃ tr, compareAndSetThread s tid ex successor vs = .ok ({ s with threads := tr },.won) := by
  have hm : witnessed ex true th = true := witnessed_iff.2 ⟨hs,hau,rfl⟩
  obtain ⟨tr,hup⟩ := Table.updateWhere_of_fits (t := s.threads)
    (p := fun t => decide (t.id = tid) && witnessed ex true t)
    (f := fun t => { vs t with authority := successor })
    (fun t _ _ => by
      change 1 ≤ sqlLength (sqlTrim successor.actionReceiptId) ∧
        sqlLength successor.actionReceiptId ≤ receiptIdMaxLength
      obtain ⟨htr,hl⟩ := isPlainId_sql hp
      obtain ⟨hmi,hma,-⟩ := isPlainId_iff.1 hp
      rw [htr,hl]
      exact ⟨hmi,hma⟩)
    (fun a ha b hb hf => by
      unfold Table.changed
      split_ifs with hpa hpb hpb
      · -- two rows of one id do not stand in the table
        rw [Bool.and_eq_true,decide_eq_true_eq] at hpa hpb
        exact (hf.1 (hpa.1.trans hpb.1.symm)).elim
      · exact ⟨fun heq => hf.1 ((hid a).symm.trans heq),(hn b hb).symm⟩
      · exact ⟨fun heq => hf.1 (heq.trans (hid b)),hn a ha⟩
      · exact hf)
  have ho := Table.affected_keyed ThreadModel.id thread_id_unique (t := s.threads)
    (k := tid) (q := witnessed ex true)
  unfold getThread at ht
  simp only [ht,hm,if_true] at ho
  refine ⟨tr,?_⟩
  unfold compareAndSetThread
  dsimp only
  rw [hj,hup]
  simp only [ho,if_true]

def takenOver (thread : ThreadModel) (actionType : ControlActionType) (dispatchId : String)
    (h : ReceiptIdValid dispatchId) : RunWriteAuthority :=
  ⟨thread.authority.runRevision + 1,thread.authority.writerGeneration + 1,actionType,dispatchId,
    Nat.le_add_left 1 _,h⟩

def takenOverRow (thread : ThreadModel) (actionType : ControlActionType) (dispatchId : String)
    (h : ReceiptIdValid dispatchId) : ThreadModel :=
  { thread with
    authority := takenOver thread actionType dispatchId h
    isActive := decide (thread.status ∈ activeStatuses) }

lemma successor_fresh (hp : isPlainId did = true)
    (ho : th.authority.ownedBy ty (some did) = false) :
    th.authority.successor ty did = .ok (takenOver th ty did (isPlainId_receipt hp)) := by
  unfold RunWriteAuthority.successor RunWriteAuthority.make
  rw [ho,if_neg Bool.false_ne_true,dif_pos (Nat.le_add_left 1 _),dif_pos (isPlainId_receipt hp)]
  rfl

lemma electThreadStatus_fresh (ht : getThread s th.id = some th) (hp : isPlainId did = true)
    (hn : ∀ t ∈ s.threads.rows, t.authority.actionReceiptId ≠ did)
    (ho : th.authority.ownedBy ty (some did) = false)
    (hj : ∃ a ∈ s.controlActions.rows, a.threadId = th.id ∧ a.actionType = ty ∧
      a.dispatchId = some did) :
    ∃ tr, electThreadStatus s th.id ⟨th.status,th.authority⟩ th.status
        ty did = .ok ({ s with threads := tr },.won) ∧
      tr.lookup ThreadModel.id th.id = some (takenOverRow th ty did (isPlainId_receipt hp)) := by
  have hh : s.controlActions.holds (journalRowFor th.id
      (takenOver th ty did (isPlainId_receipt hp))) = true := by
    obtain ⟨a,ha,hru,hty,hd⟩ := hj
    refine any_eq_true.2 ⟨a,ha,?_⟩
    simp [journalRowFor,hru,hty,hd,takenOver]
  obtain ⟨tr,hw⟩ := compareAndSetThread_fresh (threadWriteExpectation th) (fun t => { t with
      status := th.status, isActive := decide (th.status ∈ activeStatuses)
      failureReason := keptUnless none cappedSingleLine t.failureReason
      providerCondition := keptUnless none id t.providerCondition })
    (fun _ => rfl) ht rfl rfl hh hp hn
  obtain ⟨row,hrow,-,-,-,haf,-⟩ := compareAndSetThread_won (by exact fun _ => rfl) hw
  cases ht.symm.trans hrow
  have hown : th.authority.ownedBy (takenOver th ty did
      (isPlainId_receipt hp)).actionType (some (takenOver th ty did
      (isPlainId_receipt hp)).actionReceiptId) = false := ho
  refine ⟨tr,?_,haf⟩
  unfold electThreadStatus
  simp only [successor_fresh hp ho,validateTransition_ok.2 (.inl rfl : th.status = th.status ∨ _),
    hown,Bool.false_eq_true,and_false,if_false]
  exact hw

/-- A journaled action whose receipt is new takes the run over from the witness of its
row. -/
lemma installWriter_fresh (ht : getThread s th.id = some th) (hp : isPlainId did = true)
    (hn : ∀ t ∈ s.threads.rows, t.authority.actionReceiptId ≠ did)
    (hj : ∃ a ∈ s.controlActions.rows, a.threadId = th.id ∧ a.actionType = ty ∧
      a.dispatchId = some did) :
    ∃ tr, installWriter s th ty did (some (threadWriteExpectation th)) =
        .ok ({ s with threads := tr },some (threadWriteExpectation
          (takenOverRow th ty did (isPlainId_receipt hp)))) ∧
      tr.lookup ThreadModel.id th.id = some (takenOverRow th ty did (isPlainId_receipt hp)) := by
  have ho : th.authority.ownedBy ty (some did) = false := by
    rw [Bool.eq_false_iff]
    intro hown
    exact hn th (Table.lookup_mem ThreadModel.id ht) (RunWriteAuthority.ownedBy_identity.1 hown).2
  obtain ⟨tr,hel,ha⟩ := electThreadStatus_fresh ht hp hn ho hj
  refine ⟨tr,?_,ha⟩
  unfold installWriter
  rw [ho,if_neg Bool.false_ne_true]
  simp only [threadWriteExpectation,hel,bind,Except.bind,if_true,getThread,ha]
  rfl

lemma attachReceipt_newest (rc : GraphActionReceipt)
    (hro : s.controlActions.rows = ro ++ [row]) (hna : receiptNames rc row = true)
    (hno : row.graphReceipt = none) (hs : row.resultStatus ≠ .queued) :
    ∃ ac, s.controlActions.updateWhere
        (fun a => receiptNames rc a && (a.graphReceipt.isNone && true))
        (attachReceipt rc) = some ac ∧
      ac.rows = ro ++ [attachReceipt rc row] ∧
      ac.first (receiptNames rc) = some (attachReceipt rc row) := by
  have hn : ∀ a, receiptNames rc a = true → a.id = row.id := by
    intro a ha
    simp only [receiptNames,Bool.and_eq_true,decide_eq_true_eq] at ha hna
    exact ha.1.trans hna.1.symm
  have hw : (receiptNames rc row && (row.graphReceipt.isNone && true)) = true := by
    simp [hna,hno]
  have hm : row ∈ s.controlActions.rows := by simp [hro]
  obtain ⟨ac,hup⟩ := updateWhere_total (t := s.controlActions)
    (p := fun a => receiptNames rc a && (a.graphReceipt.isNone && true))
    (f := attachReceipt rc) (fun _ => rfl) (fun _ hq => ⟨hq,rfl⟩) (by
      intro a ha hp
      rw [Bool.and_eq_true] at hp
      have hrow : a = row := Table.eq_of_not_fits ha hm
        (fun hf => hf.1 (hn a hp.1)) fun hf => hf.1 (hn a hp.1).symm
      rw [hrow]
      obtain ⟨hd,hpo,-⟩ := s.controlActions.checks row hm
      exact ⟨hd,hpo,fun hq => (hs hq).elim⟩)
  have haf : ac.rows = ro ++ [attachReceipt rc row] := by
    rw [Table.rows_of_updateWhere_newest hro ?_ hup,Table.changed,if_pos hw]
    intro a hf
    rw [Bool.and_eq_false_iff]
    exact .inl (Bool.eq_false_iff.2 fun ha => hf.1 (hn a ha))
  have hrow : attachReceipt rc row ∈ ac.rows := by simp [haf]
  refine ⟨ac,hup,haf,Table.first_of_mem hrow hna fun b hb hnam => ?_⟩
  exact Table.eq_of_not_fits hb hrow (fun hf => hf.1 (hn b hnam))
    fun hf => hf.1 (hn b hnam).symm

lemma persistGraphActionReceipt_fresh (rc : GraphActionReceipt)
    (hro : s.controlActions.rows = ro ++ [row]) (hn : receiptNames rc row = true)
    (hno : row.graphReceipt = none) (hs : row.resultStatus ≠ .queued)
    (hv : validReceipt rc = true) (ht : getThread s rc.threadId = some th)
    (hau : th.authority.actionType = rc.actionType ∧ th.authority.actionReceiptId = rc.dispatchId ∧
      th.authority.writerGeneration = rc.writerGeneration ∧
      th.authority.runRevision = rc.runRevision) :
    ∃ ac, ac.rows = ro ++ [attachReceipt rc row] ∧
      persistGraphActionReceipt s rc (threadWriteExpectation th) =
        .ok ({ s with controlActions := ac },some rc) := by
  obtain ⟨hty,hre,hge,hrev⟩ := hau
  have hex : (threadWriteExpectation th).authority.ownedBy rc.actionType
      (some rc.dispatchId) (some rc.writerGeneration) (some rc.runRevision) =
        true := by
    rw [← hty,← hre,← hge,← hrev]
    exact RunWriteAuthority.ownedBy_exact.2 rfl
  have ho : s.threads.holds (fun t => decide (t.id = rc.threadId) &&
      witnessed (threadWriteExpectation th) true t) = true := by
    refine any_eq_true.2 ⟨th,Table.lookup_mem ThreadModel.id ht,?_⟩
    rw [Bool.and_eq_true,decide_eq_true_eq]
    exact ⟨Table.lookup_key ThreadModel.id ht,witnessed_iff.2 ⟨rfl,rfl,rfl⟩⟩
  have hm : receiptMatches rc rc.threadId rc.actionId rc.actionType
      (some rc.dispatchId) rc.payloadFingerprint
      (some (threadWriteExpectation th).authority) = true := by
    simp [receiptMatches,threadWriteExpectation,RunWriteAuthority.ownedBy,hty,hre,hge,hrev]
  obtain ⟨ac,hup,ha,hf⟩ := attachReceipt_newest rc hro hn hno hs
  refine ⟨ac,ha,?_⟩
  unfold persistGraphActionReceipt
  simp only [hex,not_true_eq_false,if_false,ho,if_true,hup,hf,Option.bind_some]
  simp [readReceipt,attachReceipt,hv,hm]

lemma prepareGraphActionReceipt_fresh (fp : ActionPayload → String)
    (hro : s.controlActions.rows = ro ++ [row])
    (ht : getThread s tid = some th) (hacti : th.status ∉ nonActiveStatuses)
    (hru : row.threadId = tid) (hd : row.dispatchId = some did)
    (ha : acceptedGraphAction row tid = some pl)
    (hve : (graphActionVerb row.actionType).isSome = true) (hno : row.graphReceipt = none)
    (hs : row.resultStatus ≠ .queued) (hrunI : isToken maxRunIdChars tid = true)
    (hac : isPlainId row.id = true) (hp : isPlainId did = true)
    (hn : ∀ t ∈ s.threads.rows, t.authority.actionReceiptId ≠ did) :
    ∃ t rc, prepareGraphActionReceipt fp s tid did
        (some (threadWriteExpectation th)) = .ok (t,some rc) ∧
      t.controlActions.rows = ro ++ [attachReceipt rc row] := by
  have hm : row ∈ s.controlActions.rows := by simp [hro]
  have hid : th.id = tid := Table.lookup_key ThreadModel.id ht
  subst hid
  obtain ⟨tr,hi,haf⟩ := installWriter_fresh ht hp hn ⟨row,hm,hru,rfl,hd⟩
  let rc : GraphActionReceipt :=
    { threadId := th.id, actionId := row.id, actionType := row.actionType
      payloadFingerprint := fp pl, dispatchId := did
      runRevision := th.authority.runRevision + 1
      writerGeneration := th.authority.writerGeneration + 1 }
  have hv : validReceipt rc = true := by
    simp [validReceipt,rc,hrunI,isPlainId_token hac,isPlainId_token hp,hve]
  obtain ⟨ac,hact,hpe⟩ := persistGraphActionReceipt_fresh (s := { s with threads := tr }) rc hro
    (by simp [receiptNames,rc,hru,hd]) hno hs hv haf
    ⟨rfl,rfl,rfl,rfl⟩
  refine ⟨{ s with threads := tr, controlActions := ac },rc,?_,hact⟩
  unfold prepareGraphActionReceipt
  rw [ht,getControlActionByDispatchId_of_mem hm hru hd]
  simp only [hacti,if_false,ha,hi,bind,Except.bind]
  change (if validReceipt rc then _ else _) = _
  rw [if_pos hv]
  exact hpe

lemma acceptedGraphAction_fresh (hre : Claimable s rq th ip)
    (ht : row.actionType = rq.actionType) (hp : row.payload = rq.payload) :
    acceptedGraphAction row rq.threadId = some (.accepted ip) := by
  have hrea : readAcceptedInput row = some ip := by
    simp [readAcceptedInput,acceptedInput,hp,hre.payload,hre.program]
  unfold acceptedGraphAction
  rw [hrea]
  simp only [hre.addressed,ht,hre.verb,and_self,if_true,hp,hre.payload]

/-- What the caller of a claim that nothing stands against is told. -/
def freshClaim (request : ControlActionClaimRequest) (drawn : Drawn) (freshToken : String) :
    ControlActionClaim where
  actionId := drawn.actionId
  dispatchId := request.dispatchId
  created := true
  payloadMatches := true
  acquired := true
  authorityMatches := true
  applied := false
  resultStatus := .acceptedNotApplied
  claimToken := some freshToken

/-- A claim of a free key on an active run, under the run's own witness and with fresh
identities, is acquired, and its acceptance can be committed. -/
lemma prepareControlActionClaim_fresh (fp : ActionPayload → String)
    (it : Instant) (hre : Claimable s rq th ip)
    (hf : Fresh s dr.actionId rq.dispatchId) (ht : tk.isEmpty = false) :
    ∃ t row, prepareControlActionClaim fp s rq it dr tk = .ok (t,freshClaim rq dr tk) ∧
      finalizeControlActionAcceptance t (freshClaim rq dr tk) = .ok t ∧
      getControlAction t dr.actionId = some row ∧ row.appliedAt = none ∧
      row.requestId = rq.requestId := by
  obtain ⟨dl,hl,hde⟩ := resolvedRecoveryDeadline_fresh it hre
  obtain ⟨re,hrese,hres⟩ := reserveControlAction_fresh dl hre hf
  have hd : (claimedRow rq dr dl).dispatchId = some rq.dispatchId :=
    claimedRow_dispatchId hf.dispatch_plain
  obtain ⟨le,hlea,hle⟩ := takeActionLease_fresh
    (s := { s with controlActions := re }) it hrese rfl rfl ht
  have hc : claimReservedAction { s with controlActions := re }
      ⟨claimedRow rq dr dl,true,true⟩ rq.actionType it tk =
        .ok ({ s with controlActions := le },some tk,true) := by
    have hin : withinDeadline rq.actionType (claimedRow rq dr dl) it =
        true := by
      have hdu : (claimedRow rq dr dl).recoveryDeadlineAt = some dl := rfl
      simp [withinDeadline,hdu,hl]
    have ha : (claimedRow rq dr dl).appliedAt = none := rfl
    unfold claimReservedAction
    simp only [hin,ha,not_true_eq_false,Option.isSome_none,Bool.false_eq_true,or_self,
      if_false,hle,bind,Except.bind]
  obtain ⟨t,rc,hp,hro⟩ := prepareGraphActionReceipt_fresh
    fp (s := { s with controlActions := le }) hlea hre.run
    hre.active rfl hd (acceptedGraphAction_fresh hre rfl rfl)
    (Option.isSome_iff_exists.2 ⟨_,hre.verb⟩) rfl (fun hq => by cases hq) hre.run_id
    hf.action_plain hf.dispatch_plain hf.receipt_new
  have hb : bindClaim fp { s with controlActions := le } rq
      rq.dispatchId (some tk) = .ok (t,true) := by
    unfold bindClaim
    rw [if_pos ⟨rfl,(recoverable_of_verb hre.verb).2⟩,hre.expectation,hp]
    rfl
  let cl := attachReceipt rc (granted tk (it + controlActionLeaseTtl) (claimedRow rq dr dl))
  have hfo : getControlAction t dr.actionId = some cl :=
    Table.lookup_of_mem ControlActionModel.id action_id_unique (r := cl) (by simp [hro,cl])
  refine ⟨t,cl,?_,?_,hfo,rfl,rfl⟩
  · unfold prepareControlActionClaim
    rw [hde]
    simp only [bind,Except.bind,hres,hd,hc,hb]
    rfl
  · unfold finalizeControlActionAcceptance
    dsimp only [freshClaim]
    rw [hfo]
    exact if_pos ⟨rfl,rfl,rfl⟩

end

end VaultspecA2A.FreshClaims
