import VaultspecA2A.Fences
import VaultspecA2A.Runs
import VaultspecA2A.ControlActions

/-!
# Lifecycle elections

A writer of a run's lifecycle holds a witness: the status and the authority it
observed. Its write is one conditional update that names every field of the
witness and requires the elected action to stand in the journal, so of all the
writers that carry one witness at most one wins. The abstract picture is a
fenced cell: the revision counts the wins and the writer generation is the
epoch of the fence.

A run of the system interleaves elections on one run, each with any witness
whatever, with any work elsewhere that leaves the run's row alone and never
takes an action's identity out of the journal.
-/
namespace VaultspecA2A.ThreadElections
open Runs Tables Fences ThreadLifecycle Database ControlActions PyText

inductive ThreadStatusElectionOutcome
  | won
  | lost
  | notFound
  | receiptMismatch
deriving DecidableEq, Repr

def maxFailureReasonBytes : ℕ := 500

def truncationMark : String := "…"

def cappedSingleLine (text : String) : String :=
  let collapsed := collapseSpaces text
  if utf8Bytes collapsed.toList ≤ maxFailureReasonBytes then collapsed
  else
    String.ofList (utf8Prefix (maxFailureReasonBytes - utf8Bytes truncationMark.toList)
      collapsed.toList) ++ truncationMark

def journalRowFor (threadId : String) (authority : RunWriteAuthority) (a : ControlActionModel) :
    Bool :=
  decide (a.threadId = threadId) && decide (a.actionType = authority.actionType) &&
    decide (a.dispatchId = some authority.actionReceiptId)

/-- The WHERE clause of the conditional write, apart from the run's id. -/
def witnessed (expectation : ThreadWriteExpectation) (receiptExists : Bool) (t : ThreadModel) :
    Bool :=
  let current := expectation.authority
  decide (t.status = expectation.status) &&
    (t.authority.ownedBy current.actionType (some current.actionReceiptId)
      (some current.writerGeneration) (some current.runRevision) && receiptExists)

/-- Install `successor` with the new values only while the expectation still holds. -/
def compareAndSetThread (s : Store) (threadId : String) (expectation : ThreadWriteExpectation)
    (successor : RunWriteAuthority) (values : ThreadModel → ThreadModel) :
    Except Raised (Store × ThreadStatusElectionOutcome) :=
  let receiptExists := s.controlActions.holds (journalRowFor threadId successor)
  let wanted := fun t : ThreadModel =>
    decide (t.id = threadId) && witnessed expectation receiptExists t
  match s.threads.updateWhere wanted (fun t => { values t with authority := successor }) with
  | none => .error .integrityError
  | some threads =>
    let after := { s with threads := threads }
    if s.threads.affected wanted = 1 then .ok (after,.won)
    else if (getThread after threadId).isNone then .ok (after,.notFound)
    else if ¬ receiptExists then .ok (after,.receiptMismatch)
    else .ok (after,.lost)

/-- A text that leaves its column unchanged when it is absent or empty. -/
def keptUnless (new : Option String) (render : String → String) (old : Option String) :
    Option String :=
  match new with
  | none => old
  | some text => if text.isEmpty then old else some (render text)

def electThreadStatus (s : Store) (threadId : String) (expectation : ThreadWriteExpectation)
    (status : ThreadStatus) (actionType : ControlActionType) (actionReceiptId : String)
    (failureReason providerCondition : Option String := none) :
    Except Raised (Store × ThreadStatusElectionOutcome) :=
  match expectation.authority.successor actionType actionReceiptId with
  | .error e => .error e
  | .ok successor =>
    match validateTransition expectation.status status threadId with
    | .error e => .error e
    | .ok () =>
      if status = expectation.status ∧ expectation.authority.ownedBy successor.actionType
          (some successor.actionReceiptId) then
        .error (.valueError "an election must advance state or install a new action identity")
      else
        compareAndSetThread s threadId expectation successor fun t =>
          { t with
            status := status
            isActive := decide (status ∈ activeStatuses)
            failureReason := keptUnless failureReason cappedSingleLine t.failureReason
            providerCondition := keptUnless providerCondition id t.providerCondition }

/-- Enter the deletion sink. Deletion keeps the current action identity. -/
def electThreadDeleting (s : Store) (threadId : String) (expectation : ThreadWriteExpectation) :
    Except Raised (Store × ThreadStatusElectionOutcome) :=
  let eligibility := canDelete expectation.status
  if ¬ eligibility.allowed then .error (.valueError (eligibility.reason.getD ""))
  else
    let current := expectation.authority
    match current.successor current.actionType current.actionReceiptId with
    | .error e => .error e
    | .ok successor =>
      compareAndSetThread s threadId expectation successor fun t =>
        { t with status := .deleting, isActive := false }

def createThread (s : Store) (threadId : String) (authority : RunWriteAuthority)
    (status : ThreadStatus) : Except Raised Store :=
  let row : ThreadModel :=
    { id := threadId, authority := authority, status := status
      isActive := decide (status ∈ activeStatuses)
      failureReason := none, providerCondition := none
      repairStatus := .healthy, repairReason := none
      approvalStatus := none, approvalRequestId := none, approvalResponseActionId := none
      lastRequestedAction := none, lastAppliedAction := none }
  match s.threads.insert row with
  | none => .error .integrityError
  | some threads => .ok { s with threads := threads }

/-- The admission of a run: its row and the journal row of its first action, under
one receipt, in one transaction. -/
def admitRun (s : Store) (threadId receiptId : String) (payload : ActionPayload)
    (deadline : Instant) (drawn : Drawn) : Except Raised Store :=
  match RunWriteAuthority.make 0 1 .ingest receiptId with
  | .error e => .error e
  | .ok authority =>
    match createThread s threadId authority .submitted with
    | .error e => .error e
    | .ok s₁ =>
      match createControlAction s₁
          { threadId := threadId, actionType := .ingest
            idempotencyKey := "thread-create:" ++ threadId, payload := some payload
            dispatchId := some receiptId, recoveryDeadlineAt := some deadline } drawn with
      | .error e => .error e
      | .ok (s₂,_) => .ok s₂

section
variable {vs : ThreadModel → ThreadModel}
lemma witnessed_iff : witnessed ex re row = true ↔
    row.status = ex.status ∧ row.authority = ex.authority ∧ re = true := by
  simp only [witnessed,Bool.and_eq_true,decide_eq_true_eq,RunWriteAuthority.ownedBy_exact]

lemma compareAndSetThread_won (hid : ∀ r, (vs r).id = r.id)
    (h : compareAndSetThread s tid ex successor vs = .ok (t,.won)) :
    ∃ row, getThread s tid = some row ∧ row.status = ex.status ∧ row.authority = ex.authority ∧
      s.controlActions.holds (journalRowFor tid successor) = true ∧
      getThread t tid = some { vs row with authority := successor } ∧
      t.controlActions = s.controlActions := by
  unfold compareAndSetThread at h
  dsimp only at h
  split at h
  · cases h
  rename_i th hup
  rcases Table.updateWhere_keyed ThreadModel.id thread_id_unique
    (f := fun r => { vs r with authority := successor }) hid hup with
    ⟨row,hrow,hw,ha,ho⟩ | ⟨-,hz⟩
  · rw [if_pos ho] at h
    cases h
    obtain ⟨hst,hau,hex⟩ := witnessed_iff.mp hw
    exact ⟨row,hrow,hst,hau,hex,ha,rfl⟩
  · rw [if_neg (by omega)] at h
    split_ifs at h <;> cases h

lemma compareAndSetThread_missed (hid : ∀ r, (vs r).id = r.id) (hm : oc ≠ .won)
    (h : compareAndSetThread s tid ex successor vs = .ok (t,oc)) :
    t = s := by
  unfold compareAndSetThread at h
  dsimp only at h
  split at h
  · cases h
  rename_i th hup
  rcases Table.updateWhere_keyed ThreadModel.id thread_id_unique
    (f := fun r => { vs r with authority := successor }) hid hup with
    ⟨-,-,-,-,ho⟩ | ⟨hs,hz⟩
  · rw [if_pos ho] at h
    cases h
    exact (hm rfl).elim
  · rw [if_neg (by omega),hs] at h
    split_ifs at h <;> cases h <;> rfl

end

inductive ElectionCall
  | status (expectation : ThreadWriteExpectation) (status : ThreadStatus)
      (actionType : ControlActionType) (actionReceiptId : String)
      (failureReason providerCondition : Option String)
  | deleting (expectation : ThreadWriteExpectation)

def ElectionCall.expectation : ElectionCall → ThreadWriteExpectation
  | .status expectation _ _ _ _ _ => expectation
  | .deleting expectation => expectation

def elect (s : Store) (threadId : String) :
    ElectionCall → Except Raised (Store × ThreadStatusElectionOutcome)
  | .status expectation status actionType receiptId reason condition =>
    electThreadStatus s threadId expectation status actionType receiptId reason condition
  | .deleting expectation => electThreadDeleting s threadId expectation

def Permitted (current target : ThreadStatus) : Prop :=
  target ∈ validTransitions current ∨ Deletable current ∧ target = .deleting

structure Wins (threadId : String) (s t : Store) (call : ElectionCall)
    (row row' : ThreadModel) : Prop where
  before : getThread s threadId = some row
  after : getThread t threadId = some row'
  status_witness : row.status = call.expectation.status
  authority_witness : row.authority = call.expectation.authority
  successor : row.authority.successor row'.authority.actionType row'.authority.actionReceiptId =
    .ok row'.authority
  status_change : row'.status = row.status ∨ Permitted row.status row'.status
  active : row'.isActive = decide (row'.status ∈ activeStatuses)
  journaled : s.controlActions.holds (journalRowFor threadId row'.authority) = true
  journal_same : t.controlActions = s.controlActions

variable {receiptId ri : String}

private lemma successor_self {a b : RunWriteAuthority} (h : a.successor ty ri = .ok b) :
    a.successor b.actionType b.actionReceiptId = .ok b := by
  obtain ⟨-,ht,hi,-⟩ := RunWriteAuthority.successor_ok h
  rw [ht,hi]
  exact h

lemma elect_won (h : elect s tid call = .ok (t,.won)) : ∃ row ro, Wins tid s t call row ro := by
  cases call with
  | status ex status ty ri re co =>
    simp only [elect,electThreadStatus] at h
    split at h
    · cases h
    rename_i successor hs
    split at h
    · cases h
    rename_i hv
    split_ifs at h
    obtain ⟨row,hrow,hst,hau,hex,ha,hj⟩ := compareAndSetThread_won (fun _ => by rfl) h
    refine ⟨row,_,hrow,ha,hst,hau,?_,?_,rfl,hex,hj⟩
    · rw [hau]
      exact successor_self hs
    · rcases validateTransition_ok.mp hv with heq | hm
      · exact .inl (heq.symm.trans hst.symm)
      · exact .inr (.inl (hst ▸ hm))
  | deleting ex =>
    simp only [elect,electThreadDeleting] at h
    split_ifs at h with hal
    split at h
    · cases h
    rename_i successor hs
    obtain ⟨row,hrow,hst,hau,hex,ha,hj⟩ := compareAndSetThread_won (fun _ => by rfl) h
    refine ⟨row,_,hrow,ha,hst,hau,?_,?_,rfl,hex,hj⟩
    · rw [hau]
      exact successor_self hs
    · have hd : Deletable row.status := by
        rw [hst]
        exact canDelete_allowed.mp hal
      exact .inr (.inr ⟨hd,rfl⟩)

lemma elect_missed (hm : oc ≠ .won) (h : elect s tid call = .ok (t,oc)) : t = s := by
  cases call with
  | status ex status ty ri re co =>
    simp only [elect,electThreadStatus] at h
    split at h
    · cases h
    split at h
    · cases h
    split_ifs at h
    exact compareAndSetThread_missed (fun _ => by rfl) hm h
  | deleting ex =>
    simp only [elect,electThreadDeleting] at h
    split_ifs at h
    split at h
    · cases h
    exact compareAndSetThread_missed (fun _ => by rfl) hm h

/-- What an observer of one run sees: a call and its answer, or work elsewhere. -/
inductive Label
  | call (call : ElectionCall) (answer : Except Raised ThreadStatusElectionOutcome)
  | elsewhere

def JournalKept (s t : Store) : Prop := ∀ a ∈ s.controlActions.rows, ∃ b ∈ t.controlActions.rows,
    b.threadId = a.threadId ∧ b.actionType = a.actionType ∧ b.dispatchId = a.dispatchId

inductive Move (threadId : String) : Store → Label → Store → Prop
  | answered {s t : Store} {call : ElectionCall} {outcome : ThreadStatusElectionOutcome} :
      elect s threadId call = .ok (t,outcome) → Move threadId s (.call call (.ok outcome)) t
  | refused {s : Store} {call : ElectionCall} {e : Raised} :
      elect s threadId call = .error e → Move threadId s (.call call (.error e)) s
  | elsewhere {s t : Store} : getThread t threadId = getThread s threadId → JournalKept s t →
      Move threadId s .elsewhere t

def Label.Won (call : ElectionCall) (l : Label) : Prop := l = .call call (.ok .won)

def WriterJournaled (s : Store) (threadId : String) (row : ThreadModel) : Prop :=
  ∃ a ∈ s.controlActions.rows, a.threadId = threadId ∧ a.actionType = row.authority.actionType ∧
    a.dispatchId = some row.authority.actionReceiptId

/-- The state of one run that every election relies on. -/
def Recorded (threadId : String) (s : Store) : Prop := ∃ row, getThread s threadId = some row ∧
    (row.isActive = true ↔ row.status ∈ activeStatuses) ∧ WriterJournaled s threadId row

/-- The write history a row records, as a fence. -/
def fence (row : ThreadModel) : Fence (ControlActionType × String) :=
  ⟨row.authority.runRevision,row.authority.writerGeneration,
    (row.authority.actionType,row.authority.actionReceiptId)⟩

section
variable {threadId tid : String} {s t u : Store}
variable {row row' ro : ThreadModel}

lemma writerJournaled_of_holds
    (h : s.controlActions.holds (journalRowFor tid row.authority) = true) :
    WriterJournaled s tid row := by
  obtain ⟨a,ha,hrow⟩ := List.any_eq_true.mp h
  simp only [journalRowFor,Bool.and_eq_true,decide_eq_true_eq] at hrow
  exact ⟨a,ha,hrow.1.1,hrow.1.2,hrow.2⟩

lemma WriterJournaled.kept (h : WriterJournaled s tid row) (hk : JournalKept s t) :
    WriterJournaled t tid row := by
  obtain ⟨a,ha,hid,hty,hdi⟩ := h
  obtain ⟨b,hb,hi',ht',hd'⟩ := hk a ha
  exact ⟨b,hb,hi'.trans hid,ht'.trans hty,hd'.trans hdi⟩

lemma Move.cases_row (h : Move tid s l t) : (∃ call row ro, l.Won call ∧ Wins tid s t call row ro) ∨
    (getThread t tid = getThread s tid ∧ JournalKept s t ∧
      (∀ call, ¬ l.Won call) ∧ (l ≠ .elsewhere → t = s)) := by
  have hs : JournalKept s s := fun a ha => ⟨a,ha,rfl,rfl,rfl⟩
  cases h with
  | @answered _ call oc h =>
    by_cases hwo : oc = .won
    · subst hwo
      obtain ⟨row,ro,hw⟩ := elect_won h
      exact .inl ⟨call,row,ro,rfl,hw⟩
    · have hts := elect_missed hwo h
      subst hts
      refine .inr ⟨rfl,hs,fun c hc => ?_,fun _ => rfl⟩
      injection hc with _ ho
      injection ho with ho
      exact hwo ho
  | refused _ =>
    refine .inr ⟨rfl,hs,fun c hc => ?_,fun _ => rfl⟩
    injection hc with _ ho
    cases ho
  | elsewhere hrow hk =>
    refine .inr ⟨hrow,hk,fun c hc => ?_,fun hne => (hne rfl).elim⟩
    cases hc

lemma Move.recorded (hs : Recorded tid s) (h : Move tid s l t) : Recorded tid t := by
  rcases h.cases_row with ⟨call,row,ro,-,hw⟩ | ⟨hrow,hk,-,-⟩
  · refine ⟨ro,hw.after,?_,?_⟩
    · rw [hw.active,decide_eq_true_eq]
    · refine (writerJournaled_of_holds hw.journaled).kept fun a ha => ⟨a,?_,rfl,rfl,rfl⟩
      rw [hw.journal_same]
      exact ha
  · obtain ⟨row,hge,hac,hj⟩ := hs
    exact ⟨row,hrow.trans hge,hac,hj.kept hk⟩

lemma Wins.fence_advance (h : Wins tid s t call row ro) :
    fence ro = (fence row).advance (ro.authority.actionType,ro.authority.actionReceiptId) := by
  obtain ⟨hr,-,-,hg⟩ := RunWriteAuthority.successor_ok h.successor
  simp only [fence,Fence.advance,hr,hg,Prod.mk.injEq]

def LaterRow (threadId : String) (s t : Store) : Prop :=
  ∀ row row', getThread s threadId = some row → getThread t threadId = some row' →
    (fence row).Later (fence row') ∧ (row.status = .deleting → row'.status = .deleting) ∧
      (row.status = .archived → row'.status = .archived ∨ row'.status = .deleting)

lemma Wins.later (h : Wins tid s t call row ro) :
    (fence row).Later (fence ro) ∧ (row.status = .deleting → ro.status = .deleting) ∧
      (row.status = .archived → ro.status = .archived ∨ ro.status = .deleting) := by
  refine ⟨h.fence_advance ▸ Fence.later_advance _ _,fun hd => ?_,fun har => ?_⟩
  · rcases h.status_change with heq | ht | ⟨ha,-⟩
    · exact heq.trans hd
    · exact ((validTransitions_sinks ht).2.1 hd).elim
    · rw [hd] at ha
      simp [Deletable,terminalStatuses] at ha
  · rcases h.status_change with heq | ht | ⟨-,hto⟩
    · exact .inl (heq.trans har)
    · exact ((validTransitions_sinks ht).2.2 har).elim
    · exact .inr hto

lemma Move.laterRow (h : Move tid s l t) : LaterRow tid s t := by
  intro row ro hrow hrow'
  rcases h.cases_row with ⟨call,r,r',-,hw⟩ | ⟨hs,-,-,-⟩
  · have h₁ : row = r := Option.some.inj (hrow.symm.trans hw.before)
    have h₂ : ro = r' := Option.some.inj (hrow'.symm.trans hw.after)
    subst h₁ h₂
    exact hw.later
  · have heq : ro = row := Option.some.inj (hrow'.symm.trans (hs.trans hrow))
    subst heq
    exact ⟨Fence.Later.refl _,id,.inl⟩

lemma LaterRow.refl (s : Store) : LaterRow tid s s := by
  intro row ro hrow hrow'
  cases Option.some.inj (hrow.symm.trans hrow')
  exact ⟨Fence.Later.refl _,id,.inl⟩

lemma LaterRow.trans (ht : Recorded tid t) (hst : LaterRow tid s t)
    (htu : LaterRow tid t u) : LaterRow tid s u := by
  intro row row'' hrow hrow''
  obtain ⟨ro,hrow',-⟩ := ht
  obtain ⟨hf₁,hd₁,ha₁⟩ := hst row ro hrow hrow'
  obtain ⟨hf₂,hd₂,ha₂⟩ := htu ro row'' hrow' hrow''
  refine ⟨hf₁.trans hf₂,fun h => hd₂ (hd₁ h),fun h => ?_⟩
  rcases ha₁ h with ha | hd
  · exact ha₂ ha
  · exact .inr (hd₂ hd)

end

def Admitted (threadId : String) (s : Store) : Prop := ∃ s₀ receiptId payload deadline drawn,
    admitRun s₀ threadId receiptId payload deadline drawn = .ok s

private lemma receipt_nonempty (h : ReceiptIdValid ri) : ri.isEmpty = false := by
  by_contra he
  have hem : ri = "" := by simpa using he
  subst hem
  exact h.1 (by decide)

lemma createThread_ok (h : createThread s tid au su = .ok t) :
    t.controlActions = s.controlActions ∧ ∃ row, getThread t tid = some row ∧
      row.authority = au ∧ row.status = su ∧
      row.isActive = decide (su ∈ activeStatuses) := by
  unfold createThread at h
  dsimp only at h
  split at h
  · cases h
  rename_i th hi
  cases h
  have hm := (Table.mem_of_insert hi).mpr (.inr rfl)
  exact ⟨rfl,_,Table.lookup_of_mem ThreadModel.id thread_id_unique hm,rfl,rfl,rfl⟩

lemma admitted_recorded (h : Admitted tid s) : Recorded tid s := by
  obtain ⟨s₀,ri,pl,dl,dr,h⟩ := h
  unfold admitRun at h
  split at h
  · cases h
  rename_i au hm
  split at h
  · cases h
  rename_i s₁ hc
  split at h
  · cases h
  rename_i s₂ an ha
  cases h
  obtain ⟨-,-,hty,hid⟩ := RunWriteAuthority.make_ok hm
  obtain ⟨-,row,hrow,hau,hs,hac⟩ := createThread_ok hc
  unfold createControlAction at ha
  dsimp only at ha
  split_ifs at ha
  split at ha
  · cases ha
  rename_i ac hi
  cases ha
  refine ⟨row,hrow,by simp [hac,hs],_,(Table.mem_of_insert hi).mpr (.inr rfl),rfl,?_,?_⟩
  · simp only [newRow,hau,hty]
  · have hne := receipt_nonempty au.receipt_valid
    rw [hid] at hne
    simp [newRow,hau,hid,hne]

/-- What holds across one step of a run's history. -/
structure StepSafe (threadId : String) (s : Store) (l : Label) (t : Store) : Prop where
  /-- A winning call raises the revision by exactly one. -/
  revision : ∀ call row row', l.Won call → getThread s threadId = some row →
    getThread t threadId = some row' → row'.authority.runRevision = row.authority.runRevision + 1
  /-- A status changes only along the table or from a deletable status to `deleting`. -/
  status : ∀ row row', getThread s threadId = some row → getThread t threadId = some row' →
    row'.status = row.status ∨ Permitted row.status row'.status
  /-- A losing or refused call changes nothing. -/
  unchanged : ∀ call answer, l = .call call answer → answer ≠ .ok .won → t = s

/-- What holds between an earlier and a later state of a run's history. -/
structure HistorySafe (threadId : String) (s t : Store) : Prop where
  generation_le : ∀ row row', getThread s threadId = some row → getThread t threadId = some row' →
    row.authority.writerGeneration ≤ row'.authority.writerGeneration
  one_writer : ∀ row row', getThread s threadId = some row → getThread t threadId = some row' →
    row.authority.writerGeneration = row'.authority.writerGeneration →
      row.authority.actionType = row'.authority.actionType ∧
        row.authority.actionReceiptId = row'.authority.actionReceiptId
  deleting_kept : ∀ row row', getThread s threadId = some row → getThread t threadId = some row' →
    row.status = .deleting → row'.status = .deleting
  archived_left : ∀ row row', getThread s threadId = some row → getThread t threadId = some row' →
    row.status = .archived → row'.status = .archived ∨ row'.status = .deleting

section
variable {threadId tid : String} {s t : Store} {l m : Label}

lemma Move.stepSafe (h : Move tid s l t) : StepSafe tid s l t := by
  rcases h.cases_row with ⟨call,r,r',hwo,hw⟩ | ⟨hs,-,hn,hu⟩
  · refine ⟨fun _ row ro _ hrow hrow' => ?_,fun row ro hrow hrow' => ?_,?_⟩
    · cases Option.some.inj (hrow.symm.trans hw.before)
      cases Option.some.inj (hrow'.symm.trans hw.after)
      exact (RunWriteAuthority.successor_ok hw.successor).1
    · cases Option.some.inj (hrow.symm.trans hw.before)
      cases Option.some.inj (hrow'.symm.trans hw.after)
      exact hw.status_change
    · intro c an hl hne
      rw [hwo] at hl
      injection hl with _ ha
      exact (hne ha.symm).elim
  · refine ⟨fun call _ _ hwo _ _ => (hn call hwo).elim,fun row ro hrow hrow' => ?_,?_⟩
    · cases Option.some.inj (hrow'.symm.trans (hs.trans hrow))
      exact .inl rfl
    · intro c an hl _
      exact hu (by rw [hl]; exact Label.noConfusion)

lemma LaterRow.historySafe (h : LaterRow tid s t) : HistorySafe tid s t := by
  refine ⟨fun row ro hr hr' => ?_,fun row ro hr hr' hg => ?_,fun row ro hr hr' => ?_,
    fun row ro hr hr' => ?_⟩
  · exact (h row ro hr hr').1.2.1
  · exact Prod.mk.inj ((h row ro hr hr').1.2.2.2 hg)
  · exact (h row ro hr hr').2.1
  · exact (h row ro hr hr').2.2

def Passed (threadId : String) (l : Label) (s : Store) : Prop :=
  ∀ call row, l.Won call → getThread s threadId = some row →
    call.expectation.authority.runRevision < row.authority.runRevision

lemma Move.passed (h : Move tid s l t) : Passed tid l t := by
  intro call row hwo hrow
  rcases h.cases_row with ⟨c,r,r',hc,hw⟩ | ⟨-,-,hn,-⟩
  · rw [Label.Won,hc] at hwo
    injection hwo with hca
    subst hca
    cases Option.some.inj (hrow.symm.trans hw.after)
    rw [(RunWriteAuthority.successor_ok hw.successor).1,hw.authority_witness]
    exact Nat.lt_succ_self _
  · exact (hn call hwo).elim

lemma Passed.kept (hs : Recorded tid s) (hp : Passed tid l s)
    (h : Move tid s m t) : Passed tid l t := by
  intro call ro hw hrow'
  obtain ⟨row,hrow,-⟩ := hs
  have hlt := hp call row hw hrow
  have hle : row.authority.runRevision ≤ ro.authority.runRevision :=
    (h.laterRow row ro hrow hrow').1.1
  omega

lemma Passed.not_again (hp : Passed tid l s) (h : Move tid s m t)
    (ha : l.Won a) (hb : m.Won b) : a.expectation ≠ b.expectation := by
  intro heq
  rcases h.cases_row with ⟨c,r,r',hc,hw⟩ | ⟨-,-,hn,-⟩
  · rw [Label.Won,hc] at hb
    injection hb with hca
    subst hca
    have hlt := hp a r ha hw.before
    rw [heq,← hw.authority_witness] at hlt
    exact lt_irrefl _ hlt
  · exact hn b hb

end

/-- In every history of elections on an admitted run: in every state the activity
flag is that of the status and the writer stands in the journal; every step is
safe; any later state is a safe successor; and no witness wins twice. -/
theorem elections_serialise {threadId : String} {s₀ s : Store} {ls : List Label}
    (hadmitted : Admitted threadId s₀) (hrun : Run (Move threadId) s₀ ls s) :
    Recorded threadId s ∧ (∀ l t, Move threadId s l t → StepSafe threadId s l t) ∧
      (∀ ms t, Run (Move threadId) s ms t → HistorySafe threadId s t) ∧
      ls.Pairwise fun l m => ∀ a b, l.Won a → m.Won b → a.expectation ≠ b.expectation := by
  have hi := admitted_recorded hadmitted
  have hre : Recorded threadId s :=
    hrun.invariant (Recorded threadId) (fun hs hm => hm.recorded hs) hi
  refine ⟨hre,fun l t hm => hm.stepSafe,fun ms t hl => ?_,?_⟩
  · refine LaterRow.historySafe ?_
    exact hl.relates (Recorded threadId) (LaterRow threadId) (fun hs hm => hm.recorded hs)
      LaterRow.refl (fun ht hst htu => hst.trans ht htu) (fun _ hm => hm.laterRow) hre
  · exact hrun.history (Recorded threadId) (Passed threadId) _
      (fun hs hm => hm.recorded hs) (fun _ hm => hm.passed)
      (fun hs hp hm => hp.kept hs hm) (fun _ hp hm a b ha hb => hp.not_again hm ha hb) hi

/-- The admitted run is set running by its own first action. -/
theorem elections_serialise_first_win :
    ∃ s₀ s call, Admitted "run-1" s₀ ∧ Run (Move "run-1") s₀ [.call call (.ok .won)] s ∧
      Recorded "run-1" s := by
  have ha : ∃ s₀, admitRun Store.empty "run-1" "receipt-1" (.other "") 60
      ⟨"action-1","unused"⟩ = .ok s₀ := ⟨_,rfl⟩
  obtain ⟨s₀,h₀⟩ := ha
  let call : ElectionCall :=
    .status ⟨.submitted,⟨0,1,.ingest,"receipt-1",by decide,by decide⟩⟩ .running .ingest "receipt-1"
      none none
  have hw : ∃ s, elect s₀ "run-1" call = .ok (s,.won) := by
    cases h₀
    exact ⟨_,rfl⟩
  obtain ⟨s,hs⟩ := hw
  have hru : Run (Move "run-1") s₀ [.call call (.ok .won)] s := .single (.answered hs)
  exact ⟨s₀,s,call,⟨_,_,_,_,_,h₀⟩,hru,(elections_serialise ⟨_,_,_,_,_,h₀⟩ hru).1⟩

end VaultspecA2A.ThreadElections
