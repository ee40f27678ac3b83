import VaultspecA2A.TerminalSettlement

/-!
# The pause recorder

A run's row says whether it is parked, what its repair posture is and which approval it
waits for; its checkpoint is what these follow from. The recorder takes a witness of the
row, reads the checkpoint, and then compares and writes in one transaction, only while the
locked row still has the status and the writer of the witness. The pause is a fact about
the dispatch that raised it, so a status moves under the identity of the current writer.

Between the three steps anything may happen to the store: elections, submitted and settled
answers and other recorders are all steps elsewhere. An interrupt of a type the recorder
does not know is not held in its sense, and the types of the model are those it knows.
-/
namespace VaultspecA2A.PauseRecorder
open Runs ThreadLifecycle Database ActionClaims PermissionOptions ThreadElections Option
open PermissionJournal PermissionResponses TerminalSettlement

/-- The pause-derived fields of a run's row, as one read of it saw them. -/
structure RecordedPause where
  expectation : ThreadWriteExpectation
  repairStatus : RepairStatus
  approvalStatus : Option ApprovalStatus
  approvalRequestId : Option String

namespace RecordedPause

def ofRow (thread : ThreadModel) : RecordedPause :=
  ⟨threadWriteExpectation thread,thread.repairStatus,thread.approvalStatus,thread.approvalRequestId⟩

def parked (recorded : RecordedPause) : Bool :=
  decide (recorded.expectation.status = .inputRequired)

def parkableStatuses : List ThreadStatus := [.submitted,.running,.reconciling]

/-- Whether a graph-run dispatch holds the run in a status a pause moves. -/
def recordable (recorded : RecordedPause) : Bool :=
  (graphActionVerb recorded.expectation.authority.actionType).isSome &&
    (recorded.parked || decide (recorded.expectation.status ∈ parkableStatuses))

end RecordedPause

/-- What the row must change to say what its checkpoint holds. -/
structure PauseWrites where
  status : Option ThreadStatus
  repair : Option RepairTransition
  pendingApproval : Option String
  clearApproval : Bool

def PauseWrites.required (writes : PauseWrites) : Bool :=
  writes.status.isSome || writes.repair.isSome || writes.pendingApproval.isSome ||
    writes.clearApproval

def heldGate (held : List ProjectedInterrupt) : Option String :=
  ((heldPermissionInterrupts (some held)).find? fun i =>
    decide (i.interruptType.value ∈ planApprovalPauseCauses)).map ProjectedInterrupt.interruptId

/-- Compare the recorded pause with the interrupts the checkpoint holds. The repair
transition of a created request is one the policy has. -/
def pauseWrites (recorded : RecordedPause) (held : List ProjectedInterrupt) : PauseWrites where
  status :=
    if recorded.parked = !held.isEmpty then none
    else some (if held.isEmpty then .running else .inputRequired)
  repair :=
    if !(heldPermissionInterrupts (some held)).isEmpty ∧ recorded.repairStatus = .healthy then
      (repairStateForAction .permissionRequestCreated .applied).toOption
    else none
  pendingApproval := if heldGate held ≠ recorded.approvalRequestId then heldGate held else none
  clearApproval := decide (heldGate held = none ∧ recorded.approvalStatus = some .pending)

def electPause (s : Store) (run : String) (recorded : RecordedPause) (writes : PauseWrites) :
    Except Raised (Store × Bool) :=
  match writes.status with
  | none => .ok (s,true)
  | some status => do
      let authority := recorded.expectation.authority
      let (elected,outcome) ← electThreadStatus s run recorded.expectation status
        authority.actionType authority.actionReceiptId
      return (elected,decide (outcome = .won))

def repairPause (s : Store) (run : String) (writes : PauseWrites) : Except Raised Store :=
  match writes.repair with
  | none => .ok s
  | some transition => applyRepairTransition s run transition

def stampApproval (s : Store) (run : String) (writes : PauseWrites) : Except Raised Store :=
  match writes.pendingApproval with
  | some requestId => setThreadApprovalState s run (some .pending) (some requestId) (some none)
  | none =>
    if writes.clearApproval then setThreadApprovalState s run none none (some none) else .ok s

/-- Apply the writes under the witness; a lost election is rolled back. -/
def recordPause (s : Store) (run : String) (recorded : RecordedPause) (writes : PauseWrites) :
    Except Raised Store := do
  let (elected,won) ← electPause s run recorded writes
  if won then
    let repaired ← repairPause elected run writes
    stampApproval repaired run writes
  else .ok s

def takeWitness (s : Store) (run : String) : Option RecordedPause :=
  ((getThread s run).map RecordedPause.ofRow).filter RecordedPause.recordable

def writePause (s : Store) (run : String) (recorded : RecordedPause)
    (held : List ProjectedInterrupt) : Except Raised Store :=
  if !(pauseWrites recorded held).required then .ok s
  else
    match getThread s run with
    | none => .ok s
    | some locked =>
      let current := RecordedPause.ofRow locked
      if current.expectation ≠ recorded.expectation then .ok s
      else
        let writes := pauseWrites current held
        if writes.required then recordPause s run current writes else .ok s

def reconcileRunPause (s : Store) (run : String) (held : List ProjectedInterrupt) :
    Except Raised Store :=
  match takeWitness s run with
  | none => .ok s
  | some recorded => writePause s run recorded held

/-- The store, and the witness and the checkpoint a reconciliation under way has read. -/
structure System where
  store : Store
  witness : Option RecordedPause
  held : Option (List ProjectedInterrupt)

inductive Label
  | witness
  | read
  | write
  | elsewhere
deriving DecidableEq, Repr

inductive Move (run : String) : System → Label → System → Prop
  | witness {sys : System} : Move run sys .witness ⟨sys.store,takeWitness sys.store run,none⟩
  | read {sys : System} (projection : CheckpointProjection) : sys.witness.isSome = true →
      Move run sys .read { sys with held := projection }
  | write {sys : System} {recorded : RecordedPause} {held : List ProjectedInterrupt} {t : Store} :
      sys.witness = some recorded → sys.held = some held →
      writePause sys.store run recorded held = .ok t → Move run sys .write ⟨t,none,none⟩
  | elsewhere {sys : System} (t : Store) : Move run sys .elsewhere { sys with store := t }

def Submitted (thread : ThreadModel) (requestId : String) : Prop :=
  thread.approvalRequestId = some requestId ∧
    ∃ verdict ≠ .pending, thread.approvalStatus = some verdict

/-- No other gate stands before the one the row records a verdict on. -/
def GateFirst (run : String) (sys : System) : Prop :=
  ∀ thread requestId held, getThread sys.store run = some thread → sys.held = some held →
    Submitted thread requestId → requestId ∈ held.map ProjectedInterrupt.interruptId →
    heldGate held = none ∨ heldGate held = some requestId

/-- What the recorder's transaction may do. -/
structure Faithful (run : String) (sys : System) (t : Store) : Prop where
  witnessed : t ≠ sys.store → ∃ thread recorded, getThread sys.store run = some thread ∧
    sys.witness = some recorded ∧ threadWriteExpectation thread = recorded.expectation
  moved : ∀ before after, getThread sys.store run = some before → getThread t run = some after →
    after.authority.actionType = before.authority.actionType ∧
      after.authority.actionReceiptId = before.authority.actionReceiptId ∧
      after.authority.writerGeneration = before.authority.writerGeneration ∧
      (after.status = before.status ∨ after.status ∈ validTransitions before.status)
  again : ∀ held, t ≠ sys.store → sys.held = some held → reconcileRunPause t run held = .ok t

/-- A verdict on a request the checkpoint still holds stays on the row. -/
def KeepsVerdict (run : String) (sys : System) (t : Store) : Prop :=
  ∀ before requestId held, getThread sys.store run = some before → sys.held = some held →
    Submitted before requestId → requestId ∈ held.map ProjectedInterrupt.interruptId →
    ∃ after, getThread t run = some after ∧ Submitted after requestId

section
variable {row after q : ThreadModel}
variable {writes wr : PauseWrites}

/-- How the writes change a row. -/
structure Recorded (writes : PauseWrites) (row after : ThreadModel) : Prop where
  status : after.status = writes.status.getD row.status
  permitted : ∀ status, writes.status = some status → status ≠ row.status →
    status ∈ validTransitions row.status
  actionType : after.authority.actionType = row.authority.actionType
  receipt : after.authority.actionReceiptId = row.authority.actionReceiptId
  generation : after.authority.writerGeneration = row.authority.writerGeneration
  repair : after.repairStatus =
    (writes.repair.map RepairTransition.repairStatus).getD row.repairStatus
  approval : (after.approvalStatus,after.approvalRequestId) =
    match writes.pendingApproval with
    | some requestId => (some .pending,some requestId)
    | none => if writes.clearApproval then (none,none)
      else (row.approvalStatus,row.approvalRequestId)

lemma electPause_row (hrow : getThread s run = some row)
    (h : electPause s run (.ofRow row) wr = .ok (el,true)) :
    ∃ q, getThread el run = some q ∧ q.status = wr.status.getD row.status ∧
      (∀ su, wr.status = some su → su ≠ row.status → su ∈ validTransitions row.status) ∧
      q.authority.actionType = row.authority.actionType ∧
      q.authority.actionReceiptId = row.authority.actionReceiptId ∧
      q.authority.writerGeneration = row.authority.writerGeneration ∧
      q.repairStatus = row.repairStatus ∧ q.approvalStatus = row.approvalStatus ∧
      q.approvalRequestId = row.approvalRequestId := by
  unfold electPause at h
  split at h
  · rename_i hn
    cases h
    rw [hn]
    exact ⟨row,hrow,rfl,nofun,rfl,rfl,rfl,rfl,rfl,rfl⟩
  · rename_i su hs
    obtain ⟨⟨q,oc⟩,hel,h⟩ := bind_ok.1 h
    obtain ⟨rfl,hw⟩ := Prod.mk.inj (Except.ok.inj h)
    rw [of_decide_eq_true hw] at hel
    unfold electThreadStatus at hel
    split at hel
    · cases hel
    rename_i successor hsu
    split at hel
    · cases hel
    rename_i hv
    split_ifs at hel
    obtain ⟨fo,hf,-,-,-,ha,-⟩ := compareAndSetThread_won (fun _ => by rfl) hel
    rw [hrow] at hf
    cases hf
    obtain ⟨-,hty,hre,hge⟩ := RunWriteAuthority.successor_ok hsu
    refine ⟨_,ha,by rw [hs]; rfl,?_,hty,hre,?_,rfl,rfl,rfl⟩
    · intro ta ht hne
      rw [hs] at ht
      cases ht
      exact (validateTransition_ok.mp hv).resolve_left fun heq => hne heq.symm
    · exact hge.trans (if_pos ⟨rfl,rfl⟩)

lemma repairPause_row (hrow : getThread s run = some row) (h : repairPause s run wr = .ok t) :
    ∃ q, getThread t run = some q ∧ q.repairStatus =
        (wr.repair.map RepairTransition.repairStatus).getD row.repairStatus ∧
      q.status = row.status ∧ q.authority = row.authority ∧
      q.approvalStatus = row.approvalStatus ∧
      q.approvalRequestId = row.approvalRequestId := by
  unfold repairPause at h
  split at h
  · rename_i hn
    cases h
    exact ⟨row,hrow,by rw [hn]; rfl,rfl,rfl,rfl,rfl⟩
  · rename_i tr hs
    have ha := getThread_updateThread_map h fun _ => rfl
    rw [hrow] at ha
    exact ⟨_,ha,by rw [hs]; rfl,rfl,rfl,rfl,rfl⟩

lemma stampApproval_row (hrow : getThread s run = some row) (h : stampApproval s run wr = .ok t) :
    ∃ q, getThread t run = some q ∧ (q.approvalStatus,q.approvalRequestId) =
        (match wr.pendingApproval with
        | some rid => (some .pending,some rid)
        | none => if wr.clearApproval then (none,none)
          else (row.approvalStatus,row.approvalRequestId)) ∧
      q.status = row.status ∧ q.authority = row.authority ∧
      q.repairStatus = row.repairStatus := by
  unfold stampApproval at h
  split at h
  · have ha := getThread_updateThread_map h fun _ => rfl
    rw [hrow] at ha
    exact ⟨_,ha,rfl,rfl,rfl,rfl⟩
  · split_ifs at h ⊢
    · have ha := getThread_updateThread_map h fun _ => rfl
      rw [hrow] at ha
      exact ⟨_,ha,rfl,rfl,rfl,rfl⟩
    · cases h
      exact ⟨row,hrow,rfl,rfl,rfl,rfl⟩

lemma recordPause_cases (hrow : getThread s run = some row)
    (h : recordPause s run (.ofRow row) wr = .ok t) :
    t = s ∨ ∃ q, getThread t run = some q ∧ Recorded wr row q := by
  obtain ⟨⟨el,won⟩,hel,h⟩ := bind_ok.1 h
  dsimp only at h
  split_ifs at h with hw
  · subst hw
    obtain ⟨mid,hm,hst,hp,ht,hrec,hge,hpo,hap,hreq⟩ := electPause_row hrow hel
    obtain ⟨re,hrep,h⟩ := bind_ok.1 h
    obtain ⟨fi,hf,hre,hfs,hfa,hfv,hfr⟩ := repairPause_row hm hrep
    obtain ⟨q,ha,hs,has,haa,har⟩ := stampApproval_row hf h
    rw [hfv,hfr,hap,hreq] at hs
    rw [hpo] at hre
    refine .inr ⟨q,ha,?_,hp,?_,?_,?_,har.trans hre,hs⟩
    · rw [has,hfs,hst]
    · rw [haa,hfa,ht]
    · rw [haa,hfa,hrec]
    · rw [haa,hfa,hge]
  · cases h
    exact .inl rfl

lemma writePause_cases (h : writePause s run recorded held = .ok t) :
    t = s ∨ ∃ row q, getThread s run = some row ∧
      threadWriteExpectation row = recorded.expectation ∧ getThread t run = some q ∧
      Recorded (pauseWrites (.ofRow row) held) row q := by
  unfold writePause at h
  split_ifs at h
  · cases h
    exact .inl rfl
  split at h
  · cases h
    exact .inl rfl
  rename_i row hrow
  dsimp only at h
  split_ifs at h with hw
  · cases h
    exact .inl rfl
  · rcases recordPause_cases hrow h with hs | ⟨q,ha,hre⟩
    · exact .inl hs
    · exact .inr ⟨row,q,hrow,not_not.1 hw,ha,hre⟩
  · cases h
    exact .inl rfl

lemma Recorded.parked (h : Recorded (pauseWrites (.ofRow row) held) row q) :
    (RecordedPause.ofRow q).parked = !held.isEmpty := by
  have hs := h.status
  by_cases hsa : (RecordedPause.ofRow row).parked = !held.isEmpty
  · rw [pauseWrites,if_pos hsa,getD_none] at hs
    rw [← hsa]
    exact congrArg (fun su => decide (su = ThreadStatus.inputRequired)) hs
  · rw [pauseWrites,if_neg hsa,getD_some] at hs
    refine (congrArg (fun su => decide (su = ThreadStatus.inputRequired)) hs).trans ?_
    cases held.isEmpty <;> rfl

lemma Recorded.unhealthy (h : Recorded (pauseWrites (.ofRow row) held) row q)
    (hhe : (!(heldPermissionInterrupts (some held)).isEmpty) = true) :
    q.repairStatus ≠ .healthy := by
  have hre := h.repair
  by_cases hh : row.repairStatus = .healthy
  · have hw : (pauseWrites (.ofRow row) held).repair =
        (repairStateForAction .permissionRequestCreated .applied).toOption :=
      if_pos ⟨hhe,hh⟩
    rw [hre,hw]
    exact (by decide : RepairStatus.pausedResumable ≠ .healthy)
  · have hw : (pauseWrites (.ofRow row) held).repair = none := if_neg fun hb => hh hb.2
    rw [hre,hw]
    exact hh

lemma Recorded.approval_ungated (h : Recorded (pauseWrites (.ofRow row) held) row q)
    (hga : heldGate held = none) : (q.approvalStatus,q.approvalRequestId) =
      if row.approvalStatus = some .pending then (none,none)
      else (row.approvalStatus,row.approvalRequestId) := by
  have hp : (pauseWrites (.ofRow row) held).pendingApproval = none := by
    simp [pauseWrites,hga]
  have hc : (pauseWrites (.ofRow row) held).clearApproval =
      decide (row.approvalStatus = some .pending) := by
    simp [pauseWrites,hga,RecordedPause.ofRow]
  have ha := h.approval
  rw [hp,hc] at ha
  simpa using ha

lemma Recorded.approval_gated
    (h : Recorded (pauseWrites (.ofRow row) held) row q) (hga : heldGate held = some ga) :
    (q.approvalStatus,q.approvalRequestId) =
      if row.approvalRequestId = some ga then (row.approvalStatus,row.approvalRequestId)
      else (some .pending,some ga) := by
  have hc : (pauseWrites (.ofRow row) held).clearApproval = false := by
    simp [pauseWrites,hga]
  have hp : (pauseWrites (.ofRow row) held).pendingApproval =
      if row.approvalRequestId = some ga then none else some ga := by
    simp only [pauseWrites,hga,RecordedPause.ofRow,ne_eq,eq_comm]
    split_ifs <;> rfl
  have ha := h.approval
  rw [hp,hc] at ha
  by_cases hn : row.approvalRequestId = some ga
  · rw [if_pos hn] at ha ⊢
    exact ha
  · rw [if_neg hn] at ha ⊢
    exact ha

/-- A row that was made to say what the checkpoint holds needs no further write. -/
lemma Recorded.settled (h : Recorded (pauseWrites (.ofRow row) held) row q) :
    (pauseWrites (.ofRow q) held).required = false := by
  have hs : (pauseWrites (.ofRow q) held).status = none := if_pos h.parked
  have hre : (pauseWrites (.ofRow q) held).repair = none := if_neg fun hb => h.unhealthy hb.1 hb.2
  have hp : (pauseWrites (.ofRow q) held).pendingApproval = none ∧
      (pauseWrites (.ofRow q) held).clearApproval = false := by
    simp only [pauseWrites,RecordedPause.ofRow]
    cases hga : heldGate held with
    | none =>
      have ha := h.approval_ungated hga
      split_ifs at ha with hc <;> simp_all
    | some ga =>
      have ha := h.approval_gated hga
      split_ifs at ha with hn <;> simp_all
  rw [PauseWrites.required,hs,hre,hp.1,hp.2]
  rfl

lemma reconcile_settled (ha : getThread t run = some q)
    (hs : (pauseWrites (.ofRow q) held).required = false) :
    reconcileRunPause t run held = .ok t := by
  unfold reconcileRunPause takeWitness
  rw [ha,map_some,filter_some]
  split_ifs
  · exact if_pos (by rw [hs]; rfl)
  · rfl

lemma reconcile_again (h : reconcileRunPause s run held = .ok t) :
    reconcileRunPause t run held = .ok t := by
  have hf := h
  unfold reconcileRunPause at h
  split at h
  · cases h
    exact hf
  · rcases writePause_cases h with hs | ⟨row,q,-,-,ha,hre⟩
    · subst hs
      exact hf
    · exact reconcile_settled ha hre.settled

lemma Recorded.keeps (h : Recorded (pauseWrites (.ofRow row) held) row q)
    (hsu : Submitted row rid) :
    Submitted q rid ↔ heldGate held = none ∨ heldGate held = some rid := by
  obtain ⟨hre,ve,hv,hst⟩ := hsu
  cases hga : heldGate held with
  | none =>
    have ha := h.approval_ungated hga
    simp only [hst,hre,Option.some.injEq,hv,if_false,Prod.mk.injEq] at ha
    exact iff_of_true ⟨ha.2,ve,hv,ha.1⟩ (.inl rfl)
  | some ga =>
    have ha := h.approval_gated hga
    simp only [hst,hre,Option.some.injEq] at ha
    split_ifs at ha with hs <;> simp only [Prod.mk.injEq] at ha
    · exact iff_of_true ⟨ha.2,ve,hv,ha.1⟩ (.inr (congrArg some hs.symm))
    · simp [Submitted,ha.2,Ne.symm hs]

lemma Move.faithful (h : Move run sys .write sy) : Faithful run sys sy.store := by
  cases h with
  | write hw hh hwr =>
    rcases writePause_cases hwr with rfl | ⟨row,q,hrow,hex,ha,hre⟩
    · refine ⟨fun h => (h rfl).elim,fun p q hb ha => ?_,fun _ h => (h rfl).elim⟩
      cases hb.symm.trans ha
      exact ⟨rfl,rfl,rfl,.inl rfl⟩
    · refine ⟨fun _ => ⟨row,_,hrow,hw,hex⟩,fun p la hb hl => ?_, fun held' _ hh' => ?_⟩
      · cases hb.symm.trans hrow
        cases hl.symm.trans ha
        refine ⟨hre.actionType,hre.receipt,hre.generation,?_⟩
        have hs := hre.status
        cases hm : (pauseWrites (.ofRow row) _).status with
        | none => exact .inl (by rw [hs,hm]; rfl)
        | some su =>
          rw [hm,getD_some] at hs
          by_cases hsa : su = row.status
          · exact .inl (hs.trans hsa)
          · exact .inr (hs ▸ hre.permitted su hm hsa)
      · cases hh.symm.trans hh'
        exact reconcile_settled ha hre.settled

lemma Move.keepsVerdict_iff (h : Move run sys .write sy) :
    KeepsVerdict run sys sy.store ↔ sy.store = sys.store ∨ GateFirst run sys := by
  cases h with
  | write hwi hh hw =>
    rcases writePause_cases hw with rfl | ⟨row,q,hrow,hex,ha,hre⟩
    · refine iff_of_true (fun p rid _ hb _ hs _ => ?_) (.inl rfl)
      exact ⟨p,hb,hs⟩
    · constructor
      · intro hk
        refine .inr fun th rid held' ht hh' hs hm => ?_
        obtain ⟨la,hl,hst⟩ := hk th rid held' ht hh' hs hm
        cases ht.symm.trans hrow
        cases hl.symm.trans ha
        cases hh.symm.trans hh'
        exact (hre.keeps hs).1 hst
      · intro hf th rid held' ht hh' hs hm
        rcases hf with hsa | hf
        · exact ⟨th,by rw [show _ = sys.store from hsa]; exact ht,hs⟩
        · have hga := hf th rid held' ht hh' hs hm
          cases ht.symm.trans hrow
          cases hh.symm.trans hh'
          exact ⟨q,ha,(hre.keeps hs).2 hga⟩

end

def planGate (requestId : String) : ProjectedInterrupt where
  interruptId := requestId
  interruptType := .planApprovalRequest
  options := none
  bare := fun _ => rfl

def admittedPause : RecordedPause :=
  ⟨ContinuationQueue.firstTurnDone.expectation,.healthy,none,none⟩

end VaultspecA2A.PauseRecorder
