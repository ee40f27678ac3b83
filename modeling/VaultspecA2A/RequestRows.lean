import VaultspecA2A.ClarificationService
import VaultspecA2A.VerdictSubscriber
import VaultspecA2A.PermissionReceipts

/-!
# Which rows of requests a step may change

The row of a permission request is keyed by the request id alone and carries the run it
was filed under. Frames, responses, failed deliveries and receipts of a run write rows;
most of the writes name a request id and do not look at the run, and the settlement of a
document verdict names the run and the kind of the pause and does not look at the request.

The first part is about two runs: what is handled for one run leaves the rows of another
alone if every request id it writes is not filed under another run. The second is about
one run: the settlement of a resume leaves the rows of other requests alone exactly if a
verdict settles while no other document approval of its run is outstanding.
-/
namespace VaultspecA2A.RequestRows
open Runs Tables ThreadLifecycle Database ControlActions ActionClaims List
open PermissionOptions IdempotencyKeys PermissionJournal PermissionResponses Clarification
open ClarificationService VerdictSubscriber
open ThreadElections (admitRun)
open PermissionAsks (authorizePermissionResponse_guarded recordPermissionTransition_transitioned
  projectSubmission_ok provenAction_ok applyPermissionResolution_cases failedPermissionDispatch_ok)

/-- A kind of row that no write changes: a test of its request id and its run. -/
abbrev Kind := String → String → Bool

def Kind.holds (kind : Kind) (row : PermissionRequestModel) : Bool :=
  kind row.requestId row.threadId

def rowsOf (kind : Kind) (s : Store) : List PermissionRequestModel :=
  s.permissionRequests.rows.filter kind.holds

def Untouched (kind : Kind) (s t : Store) : Prop := rowsOf kind t = rowsOf kind s

def Spares (kind : Kind) (s : Store) (requestId : String) : Prop :=
  ∀ row ∈ s.permissionRequests.rows, row.requestId = requestId → kind.holds row = false

variable {threadId tid : String} {wa : PermissionRequestModel → Bool}
variable {vs : PermissionRequestModel → PermissionRequestModel}
variable {row : PermissionRequestModel} {action ac : ControlActionModel}

section
variable {ki : Kind} {s t u : Store}

lemma Untouched.of_eq (h : t.permissionRequests = s.permissionRequests) : Untouched ki s t := by
  unfold Untouched rowsOf
  rw [h]

lemma Untouched.of_step {Same : ControlActionModel → ControlActionModel → Prop}
    (h : StoreStep Same (fun _ => True) s t) : Untouched ki s t := .of_eq h.requests

lemma Untouched.trans (h : Untouched ki s t) (g : Untouched ki t u) : Untouched ki s u :=
  Eq.trans g h

lemma updateRequests_untouched (h : updateRequests s wa vs = .ok t)
    (hid : ∀ row, (vs row).requestId = row.requestId)
    (ht : ∀ row, (vs row).threadId = row.threadId)
    (ho : ∀ row ∈ s.permissionRequests.rows, wa row = true → ki.holds row = false) :
    Untouched ki s t := by
  refine Table.filter_of_updateWhere (fun row => ?_) ho (updateRequests_ok h).2
  unfold Kind.holds
  rw [hid,ht]

lemma isRequest_untouched (h : updateRequests s (isRequest rid) vs = .ok t)
    (hid : ∀ row, (vs row).requestId = row.requestId)
    (ht : ∀ row, (vs row).threadId = row.threadId) (hs : Spares ki s rid) :
    Untouched ki s t :=
  updateRequests_untouched h hid ht fun row hrow hw => hs row hrow (of_decide_eq_true hw)

lemma reopen_untouched (hs : Spares ki s rid)
    (h : reopenReaskedPermissionRequest s rid ao = .ok t) :
    Untouched ki s t := by
  refine updateRequests_untouched h (fun _ => rfl) (fun _ => rfl) fun row hrow hw => ?_
  rw [Bool.and_eq_true] at hw
  exact hs row hrow (of_decide_eq_true hw.1)

variable {now : Instant}

lemma supersede_untouched {heldRequestIds : List String} (hru : ∀ id, ki id tid = false)
    (h : supersedePermissionRequests s tid heldRequestIds now = .ok t) :
    Untouched ki s t := by
  refine updateRequests_untouched h (fun _ => rfl) (fun _ => rfl) fun row _ hw => ?_
  simp only [Bool.and_eq_true,decide_eq_true_eq] at hw
  unfold Kind.holds
  rw [hw.1.1]
  exact hru _

lemma Spares.kept (hspa : Spares ki s rid) (h : updateRequests s wa vs = .ok t)
    (hid : ∀ row, (vs row).requestId = row.requestId)
    (ht : ∀ row, (vs row).threadId = row.threadId) : Spares ki t rid := by
  intro row hrow hre
  obtain ⟨p,hb,rfl⟩ := (Table.mem_of_updateWhere (updateRequests_ok h).2).1 hrow
  have hs : (Table.changed wa vs p).requestId = p.requestId ∧
      (Table.changed wa vs p).threadId = p.threadId := by
    unfold Table.changed
    split_ifs
    · exact ⟨hid p,ht p⟩
    · exact ⟨rfl,rfl⟩
  have hsp := hspa p hb (hs.1.symm.trans hre)
  unfold Kind.holds at hsp ⊢
  rw [hs.1,hs.2,hsp]

lemma Spares.of_eq (h : t.permissionRequests = s.permissionRequests)
    (hs : Spares ki s rid) : Spares ki t rid := by
  unfold Spares
  rw [h]
  exact hs

lemma record_untouched (hru : ∀ id, ki id tid = false) (hs : Spares ki s rid)
    (h : recordPermissionRequest s rid tid prt de ao tc = .ok t) : Untouched ki s t := by
  unfold recordPermissionRequest at h
  split at h
  · exact isRequest_untouched h (fun _ => rfl) (fun _ => rfl) hs
  · dsimp only at h
    split at h
    · cases h
    rename_i re hi
    cases h
    exact Table.filter_of_insert (by exact hru rid) hi

lemma handlePermissionEvent_untouched (hru : ∀ id, ki id tid = false)
    (hs : ∀ pa, heldRequestInterrupt fr pr = some pa → Spares ki s pa.announced.interruptId)
    (h : handlePermissionEvent s tid fr pr dr now = .ok t) :
    Untouched ki s t := by
  unfold handlePermissionEvent at h
  split at h
  · cases h
    exact rfl
  rename_i pa hp
  cases persistPermissionRequest_persisted h with
  | missing => exact rfl
  | stands _ h =>
    split at h
    · exact reopen_untouched (hs pa hp) h
    · cases h
      exact rfl
  | @filed _ _ ma _ _ _ _ _ hc hm hre hrec =>
    have hma : ma.permissionRequests = s.permissionRequests := by
      rw [(markControlActionApplied_ok hm).1]
      exact (createControlAction_ok hc).2.2.1
    have hreti := ((hs pa hp).of_eq hma).kept hre (fun _ => rfl) fun _ => rfl
    exact ((Untouched.of_eq hma).trans (supersede_untouched hru hre)).trans
      (record_untouched hru hreti hrec)

lemma spares_of_filed (hru : ∀ id, ki id tid = false)
    (hrow : getPermissionRequest s rid = some row) (ht : row.threadId = tid) :
    Spares ki s rid := by
  intro o ho hid
  have hk : row.requestId = rid := Table.lookup_key PermissionRequestModel.requestId hrow
  have hs : o = row := Table.eq_of_not_fits ho
    (Table.lookup_mem PermissionRequestModel.requestId hrow)
    (fun hf => hf (hid.trans hk.symm)) fun hf => hf (hk.trans hid.symm)
  unfold Kind.holds
  rw [hs,ht]
  exact hru _

lemma respondToPermission_untouched (hru : ∀ id, ki id tid = false)
    (hsp : held.isSome = true → Spares ki s rs.requestId)
    (h : respondToPermission ou s tid rs held uc dw = .ok (t,an)) : Untouched ki s t := by
  unfold respondToPermission at h
  obtain ⟨⟨gu,au⟩,ha,h⟩ := bind_ok.1 h
  cases authorizePermissionResponse_guarded ha with
  | refused | replayed =>
    cases h
    exact .of_eq rfl
  | journaled hcr =>
    cases h
    exact .of_eq (createControlAction_ok hcr).2.2.1
  | authorized _ hp =>
    have ho : Spares ki s rs.requestId := by
      cases held with
      | some interrupt => exact hsp rfl
      | none =>
        obtain ⟨row,hrow,-⟩ := Option.map_eq_some_iff.1 hp
        obtain ⟨hf,ht⟩ := Option.filter_eq_some_iff.1 hrow
        exact spares_of_filed hru hf (of_decide_eq_true ht)
    cases recordPermissionTransition_transitioned h with
    | refused | unclaimed => exact .of_eq rfl
    | dispatched _ hc _ hpr _ =>
      have hs : ClaimStep (fun _ => True) s _ :=
        prepareControlActionClaim_claimStep (fun _ _ => trivial) hc fun _ _ _ => trivial
      obtain ⟨-,⟨su,hsu,hpro⟩,-⟩ := projectSubmission_ok hpr
      exact ((Untouched.of_eq hs.requests).trans (isRequest_untouched hsu (fun _ => rfl)
        (fun _ => rfl) (ho.of_eq hs.requests))).trans (.of_eq hpro)

lemma failedPermissionDispatch_untouched (hsp : Spares ki s rs.requestId)
    (h : failedPermissionDispatch s tid rs cm ft de recorded it = .ok t) : Untouched ki s t := by
  obtain ⟨settled,re,hst,hre,ht⟩ := @failedPermissionDispatch_ok tid _ _ _ _ _ _ _ _ _ h
  have hs := hst.requests
  refine Untouched.trans (t := re) ?_ (.of_eq (by rw [ht]))
  rcases hre with rfl | hre
  · exact .of_eq hs
  · exact (Untouched.of_eq hs).trans (isRequest_untouched hre (fun _ => rfl) (fun _ => rfl)
      (hsp.of_eq hs))

def settleResume (now : Instant) (s : Store) (action : ControlActionModel) :
    Except Raised (Store × Bool) :=
  match resumeIntent action.idempotencyKey with
  | some .clarification => settleClarificationDispatchReceipt s action now
  | some .authoringVerdict => settleVerdictDispatchReceipt s action now
  | none => .ok (s,false)

def settlesVerdict (action : ControlActionModel) : Bool :=
  decide (action.actionType = .resume) &&
    decide (resumeIntent action.idempotencyKey = some .authoringVerdict)

def awaitsDocument (threadId : String) (row : PermissionRequestModel) : Bool :=
  isOutstanding row && decide (row.threadId = threadId) &&
    decide (row.pauseReasonType = InterruptType.documentApprovalRequest.value)

def closed (now : Instant) (row : PermissionRequestModel) : PermissionRequestModel :=
  { row with requestStatus := .applied, appliedAt := some now }

lemma closeRequests_ok {pn : List PermissionRequestModel} (h : pn.foldlM (fun t pe =>
      markPermissionRequestApplied t pe.requestId .applied now) s = .ok t) :
    t.permissionRequests.rows = s.permissionRequests.rows.map (Table.changed
      (fun row => decide (row.requestId ∈ pn.map PermissionRequestModel.requestId))
      (closed now)) := by
  induction pn generalizing s with
  | nil =>
    cases h
    exact ((map_congr_left fun row _ => rfl).trans (map_id _)).symm
  | cons pe pn ih =>
    rw [foldlM_cons] at h
    obtain ⟨first,hf,hre⟩ := bind_ok.1 h
    rw [ih hre,Table.rows_of_updateWhere (updateRequests_ok hf).2,map_map]
    refine map_congr_left fun row _ => ?_
    simp only [Function.comp_apply,Table.changed,isRequest,map_cons,mem_cons,decide_eq_true_eq]
    by_cases hid : row.requestId = pe.requestId
    · simp [hid,closed]
    · simp [hid]

lemma settleVerdictDispatchReceipt_rows (hv : settlesVerdict ac = true)
    (hop : ac.appliedAt = none) (h : settleVerdictDispatchReceipt s ac now = .ok (t,dn)) :
    dn = true ∧ t.permissionRequests.rows = s.permissionRequests.rows.map
      (Table.changed (awaitsDocument ac.threadId) (closed now)) := by
  simp only [settlesVerdict,Bool.and_eq_true,decide_eq_true_eq] at hv
  unfold settleVerdictDispatchReceipt at h
  rw [if_neg (by simp [hv,hop])] at h
  obtain ⟨ma,hma,h⟩ := bind_ok.1 h
  obtain ⟨q,hc,h⟩ := bind_ok.1 h
  cases h
  refine ⟨rfl,?_⟩
  have hm : ma.permissionRequests = s.permissionRequests := by
    rw [(markControlActionApplied_ok hma).1]
  rw [closeRequests_ok hc,hm]
  refine map_congr_left fun row hrow => ?_
  -- ids are unique, so the rows under the ids of the pending ones are the pending ones
  have hme : row.requestId ∈ (getPendingPermissionRequests ma ac.threadId
      InterruptType.documentApprovalRequest.value).map PermissionRequestModel.requestId ↔
        awaitsDocument ac.threadId row = true := by
    unfold getPendingPermissionRequests
    rw [hm,mem_map]
    constructor
    · rintro ⟨o,ho,hid⟩
      obtain ⟨ho,hp⟩ := mem_filter.1 ho
      have hs : o = row := Table.eq_of_not_fits ho hrow (fun hf => hf hid)
        fun hf => hf hid.symm
      rw [← hs]
      exact hp
    · exact fun hp => ⟨row,mem_filter.2 ⟨hrow,hp⟩,rfl⟩
  unfold Table.changed
  simp only [decide_eq_true_eq,hme]

lemma settlePermission_untouched (hs : Spares ki s rid)
    (h : settlePermission s su rid oid pe dr now = .ok t) :
    Untouched ki s t := by
  obtain ⟨st,closed,ma,ar,recorded,row,-,hc,hm,-,hre,hl,-⟩ := settlePermission_ok h
  have hma : ma.permissionRequests = closed.permissionRequests := by
    split at hm
    · rw [(markControlActionApplied_ok hm).1]
    · cases hm
      rfl
  refine (isRequest_untouched hc (fun _ => rfl) (fun _ => rfl) hs).trans (.of_eq ?_)
  rw [hl]
  exact (createControlAction_ok hre).2.2.1.trans hma

lemma settleResume_untouched (ho : ac.appliedAt = none)
    (hv : settlesVerdict ac = true → ∀ row ∈ s.permissionRequests.rows,
      awaitsDocument ac.threadId row = true → ki.holds row = false)
    (h : settleResume now s ac = .ok (t,dn)) : Untouched ki s t := by
  unfold settleResume at h
  split at h
  · unfold settleClarificationDispatchReceipt at h
    split at h
    · cases h
      exact rfl
    · exact .of_step (settleAcceptedAction_step (fun _ _ => trivial) h)
  · rename_i hi
    by_cases ht : ac.actionType = .resume
    · have hs : settlesVerdict ac = true := by simp [settlesVerdict,ht,hi]
      obtain ⟨-,hro⟩ := settleVerdictDispatchReceipt_rows hs ho h
      have hk : ∀ row, ki.holds (closed now row) = ki.holds row := fun _ => rfl
      exact Table.filter_of_updateWhere hk (hv hs) (Table.ofRows_eq_some.2 hro)
    · unfold settleVerdictDispatchReceipt at h
      rw [if_pos (.inl ht)] at h
      cases h
      exact rfl
  · cases h
    exact rfl

variable {fp : ActionPayload → String}

lemma commitProvenApplication_untouched (ha : ∀ ac, provenAction fp s tid ap = some ac →
      ac.actionType = .permissionResponseSubmitted → ∀ id, ac.requestId = some id →
      Spares ki s id)
    (hv : ∀ ac, provenAction fp s tid ap = some ac →
      settlesVerdict ac = true → ∀ row ∈ s.permissionRequests.rows,
      awaitsDocument ac.threadId row = true → ki.holds row = false)
    (h : commitProvenApplication fp (settleResume now) s tid ap dr now =
      .ok t) : Untouched ki s t := by
  unfold commitProvenApplication at h
  split at h
  · cases h
    exact rfl
  rename_i ac hp
  split at h
  · obtain ⟨ma,hm,h⟩ := bind_ok.1 h
    obtain ⟨tr,-,h⟩ := bind_ok.1 h
    refine .of_eq ?_
    rw [(updateThread_ok h).1,(markControlActionApplied_ok hm).1]
  split at h
  · rename_i ht
    rcases applyPermissionResolution_cases h with rfl | ⟨rid,_,_,hre,hs⟩
    · exact rfl
    · exact settlePermission_untouched (ha ac hp ht.1 rid hre) hs
  · obtain ⟨⟨settled,dn⟩,hs,h⟩ := bind_ok.1 h
    cases h
    split
    · exact settleResume_untouched (provenAction_ok hp).2.2.1 (hv ac hp) hs
    · exact rfl

lemma handleProgressEvent_cases
    (h : handleProgressEvent fp (settleResume now) s tid ap ic dr now = .ok t) :
    t = s ∨ commitProvenApplication fp (settleResume now) s tid ap dr now = .ok t := by
  unfold handleProgressEvent at h
  split at h
  · exact .inr h
  · cases h
    exact .inl rfl

lemma handleReaskedPermissionEvent_untouched
    (hs : ∀ held, (answeredRequestId s tid ap.dispatchId).bind
      (heldInterrupt pr) = some held → Spares ki s held.interruptId)
    (h : handleReaskedPermissionEvent s tid ap pr = .ok t) :
    Untouched ki s t := by
  unfold handleReaskedPermissionEvent at h
  split at h
  · cases h
    exact rfl
  split at h
  · cases h
    exact rfl
  · rename_i held hh
    exact reopen_untouched (hs held hh) h

end

inductive Event
  | frame (frame : PermissionFrame) (projection : CheckpointProjection) (drawn : Drawn)
      (now : Instant)
  | response (response : PermissionInput) (projection : CheckpointProjection)
      (unconfirmed : Bool) (drawing : Drawing)
  | undelivered (response : PermissionInput) (claim : ControlActionClaim)
      (failureType : FailureType) (detail : String) (recorded : Bool) (instant : Instant)
  | clarification (requestId : String) (resolution : ClarificationResolution)
      (reading : CheckpointReading) (drawing : Drawing)
  | clarified (transition : ClarificationTransition) (fingerprint : String)
      (latest : CheckpointReading) (now : Instant)
  | verdict (setup : VerdictSetup) (drawing : Drawing)
  | receipt (application : DispatchApplicationReceipt) (incorporated : Bool) (drawn : Drawn)
      (now : Instant)
  | reasked (application : DispatchApplicationReceipt) (projection : CheckpointProjection)

section
variable (outside : Outside) (digest : ClarificationResolution → String)

def handle (s : Store) (threadId : String) : Event → Except Raised Store
  | .frame frame projection drawn now =>
    handlePermissionEvent s threadId frame projection drawn now
  | .response response projection unconfirmed drawing =>
    (respondToPermission outside s threadId response
      (heldInterrupt projection response.requestId) unconfirmed drawing).map Prod.fst
  | .undelivered response claim failureType detail recorded instant =>
    failedPermissionDispatch s threadId response claim failureType detail recorded instant
  | .clarification requestId resolution reading drawing =>
    (respondToClarification outside digest s threadId requestId resolution reading
      drawing).map Prod.fst
  | .clarified transition fingerprint latest now =>
    (deliveredClarification s transition fingerprint latest now).map Prod.fst
  | .verdict setup drawing =>
    (claimVerdictResume outside.fingerprint s threadId setup drawing).map Prod.fst
  | .receipt application incorporated drawn now =>
    handleProgressEvent outside.fingerprint (settleResume now) s threadId application
      incorporated drawn now
  | .reasked application projection =>
    handleReaskedPermissionEvent s threadId application projection

/-- The request id whose row an event may write without looking at the run. -/
def Event.writes (s : Store) (threadId : String) : Event → Option String
  | .frame shown projection _ _ =>
    (heldRequestInterrupt shown projection).map fun pause => pause.announced.interruptId
  | .response answer projection _ _ =>
    (heldInterrupt projection answer.requestId).map fun _ => answer.requestId
  | .undelivered answer _ _ _ _ _ => some answer.requestId
  | .receipt application _ _ _ =>
    (provenAction outside.fingerprint s threadId application).bind fun action =>
      if action.actionType = .permissionResponseSubmitted then action.requestId else none
  | .reasked application projection =>
    ((answeredRequestId s threadId application.dispatchId).bind
      (heldInterrupt projection)).map ProjectedInterrupt.interruptId
  | .clarification .. | .clarified .. | .verdict .. => none

/-- The row under the request id, if there is one, is filed under the run. -/
def FiledUnder (s : Store) (threadId requestId : String) : Prop :=
  ∀ row ∈ s.permissionRequests.rows, row.requestId = requestId → row.threadId = threadId

/-- An event handled for a run other than the given one. -/
structure Elsewhere (run : String) (s : Store) (label : String × Event) (t : Store) : Prop where
  other : label.1 ≠ run
  handled : handle outside digest s label.1 label.2 = .ok t

end

def underRun (run : String) : Kind := fun _ threadId => decide (threadId = run)

variable {s t : Store} {now : Instant}
variable {fingerprint fp : ActionPayload → String}

section
variable {di : ClarificationResolution → String}
lemma map_fst_ok {α β ε : Type} {x : Except ε (α × β)} {a : α}
    (h : x.map Prod.fst = .ok a) : ∃ b, x = .ok (a,b) := by
  cases x with
  | error e => cases h
  | ok p =>
    cases h
    exact ⟨p.2,rfl⟩

lemma Elsewhere.untouched {l : String × Event} (h : Elsewhere ou di run s l t)
    (hf : ∀ rid ∈ l.2.writes ou s l.1, FiledUnder s l.1 rid) :
    Untouched (underRun run) s t := by
  obtain ⟨tid,e⟩ := l
  obtain ⟨ho,hh⟩ := h
  dsimp only at ho hh hf
  have hru : ∀ id, underRun run id tid = false := fun _ => decide_eq_false ho
  have hs : ∀ rid, FiledUnder s tid rid → Spares (underRun run) s rid := by
    intro rid hu row hrow hid
    unfold Kind.holds
    rw [hu row hrow hid]
    exact hru _
  cases e with
  | frame frame pr dr now =>
    refine handlePermissionEvent_untouched hru (fun pa hpa => ?_) hh
    exact hs _ (hf _ (by simp [Event.writes,hpa]))
  | response response pr uc dw =>
    obtain ⟨an,hre⟩ := map_fst_ok hh
    refine respondToPermission_untouched hru (fun hhe => ?_) hre
    obtain ⟨interrupt,hhe⟩ := Option.isSome_iff_exists.1 hhe
    exact hs _ (hf _ (by simp [Event.writes,hhe]))
  | undelivered response cm ft de recorded it =>
    exact failedPermissionDispatch_untouched (hs _ (hf _ rfl)) hh
  | clarification rid rs re dw =>
    obtain ⟨an,hre⟩ := map_fst_ok hh
    exact .of_step (respondToClarification_step (fun _ _ => trivial) (fun _ _ _ => trivial) hre)
  | clarified tr fp la now =>
    obtain ⟨oc,hd⟩ := map_fst_ok hh
    obtain ⟨⟨settled,ad⟩,hse,hret⟩ := bind_ok.1 hd
    cases hret
    exact .of_step (settleFromReceipt_step (fun _ _ => trivial) hse)
  | verdict se dw =>
    obtain ⟨oc,hc⟩ := map_fst_ok hh
    exact .of_step (claimVerdictResume_ok hc).1
  | receipt ap ic dr now =>
    rcases handleProgressEvent_cases hh with rfl | hco
    · exact rfl
    refine commitProvenApplication_untouched (fun ac hp ht id hid => ?_)
      (fun ac hp _ row _ ha => ?_) hco
    · exact hs _ (hf _ (by simp [Event.writes,hp,ht,hid]))
    · simp only [awaitsDocument,Bool.and_eq_true,decide_eq_true_eq] at ha
      unfold Kind.holds
      rw [ha.1.2,(provenAction_ok hp).2.1]
      exact hru _
  | reasked ap pr =>
    refine handleReaskedPermissionEvent_untouched (fun held hhe => ?_) hh
    exact hs _ (hf _ (by simp [Event.writes,hhe]))

end

/-- Whatever is handled for other runs, in any order, leaves the rows filed under a run
alone, as long as no event writes a request id that is filed under another run than its
own. -/
theorem other_runs_untouched (outside : Outside) (digest : ClarificationResolution → String)
    (run : String) {s t : Store} {labels : List (String × Event)}
    (h : Run (fun s label t => Elsewhere outside digest run s label t ∧
      ∀ requestId ∈ label.2.writes outside s label.1, FiledUnder s label.1 requestId)
      s labels t) : Untouched (underRun run) s t :=
  h.relates (fun _ => True) (Untouched (underRun run)) (fun _ _ => trivial) (fun _ => rfl)
    (fun _ h g => h.trans g) (fun _ hm => hm.1.untouched hm.2) trivial

def laterGate : ProjectedInterrupt where
  interruptId := "request-2"
  interruptType := .documentApprovalRequest
  options := none
  bare := documentGate.bare

def laterGateFrame : PermissionFrame := ⟨some "request-2",none,some "review",none⟩

def twoRuns : Except Raised Store := do
  let one ← admittedRun
  let both ← admitRun one "run-2" "receipt-2" (.other "start") (3600 * second) ⟨"action-0",""⟩
  handlePermissionEvent both "run-1"
    ⟨some "request-1",some "shell",some "run it?",some (frameOptions goOrStop)⟩
    (some [goOrStop]) ⟨"created-1","created-1"⟩ 0

theorem other_runs_untouched_own_gate : ∃ s t, twoRuns = .ok s ∧
    handle plainOutside plainDigest s "run-2" (.frame laterGateFrame (some [laterGate])
      ⟨"created-2","created-2"⟩ 1) = .ok t ∧
    (rowsOf (underRun "run-2") t).map PermissionRequestModel.requestId = ["request-2"] ∧
    Untouched (underRun "run-1") s t := by
  have hru : ∃ s t, twoRuns = .ok s ∧
      handle plainOutside plainDigest s "run-2" (.frame laterGateFrame (some [laterGate])
        ⟨"created-2","created-2"⟩ 1) = .ok t ∧
      (rowsOf (underRun "run-2") t).map PermissionRequestModel.requestId = ["request-2"] ∧
      s.permissionRequests.rows.map PermissionRequestModel.requestId = ["request-1"] :=
    ⟨_,_,rfl,rfl,rfl,rfl⟩
  obtain ⟨s,t,hs,ht,hro,hi⟩ := hru
  refine ⟨s,t,hs,ht,hro,other_runs_untouched plainOutside plainDigest "run-1" (.single
    (l := ("run-2",.frame laterGateFrame (some [laterGate]) ⟨"created-2","created-2"⟩ 1))
    ⟨⟨by decide,ht⟩,?_⟩)⟩
  intro requestId hw row hrow hid
  cases hw
  have hm := mem_map_of_mem (f := PermissionRequestModel.requestId) hrow
  rw [hi,hid] at hm
  exact absurd hm (by decide)

/-- A run whose checkpoint holds the request id of another run overwrites the other run's
row with its frame and answers it with its response. -/
theorem coinciding_request_overwritten : ∃ s t, twoRuns = .ok s ∧
    Run (Elsewhere plainOutside plainDigest "run-1") s
      [("run-2",.frame ⟨some "request-1",some "shell",some "drop it?",
          some (frameOptions goOrStop)⟩ (some [goOrStop]) ⟨"created-2","created-2"⟩ 1),
        ("run-2",.response goAhead (some [goOrStop]) false
          (PermissionAsks.drawingAt 2 "action-2" "dispatch-2"))] t ∧
    (rowsOf (underRun "run-1") s).map (fun row => (row.description,row.requestStatus)) =
      [("run it?",.pending)] ∧
    (rowsOf (underRun "run-1") t).map (fun row => (row.description,row.requestStatus)) =
      [("drop it?",.answeredPendingApply)] :=
  ⟨_,_,rfl,.step ⟨by decide,rfl⟩ (.single ⟨by decide,rfl⟩),rfl,rfl⟩

def otherRequests (action : ControlActionModel) : Kind :=
  fun requestId _ => decide (action.requestId ≠ some requestId)

lemma commitProvenApplication_verdict (hp : provenAction fp s tid ap = some ac)
    (hv : settlesVerdict ac = true)
    (h : commitProvenApplication fp (settleResume now) s tid ap dr now = .ok t) :
    t.permissionRequests.rows = s.permissionRequests.rows.map
      (Table.changed (awaitsDocument ac.threadId) (closed now)) := by
  have hse := hv
  simp only [settlesVerdict,Bool.and_eq_true,decide_eq_true_eq] at hv
  unfold commitProvenApplication at h
  simp only [hp,hv.1,appliedRepairAction,reduceCtorEq,false_and,if_false] at h
  obtain ⟨⟨settled,dn⟩,hs,hre⟩ := bind_ok.1 h
  unfold settleResume at hs
  simp only [hv.2] at hs
  obtain ⟨hd,hro⟩ := settleVerdictDispatchReceipt_rows hse (provenAction_ok hp).2.2.1 hs
  rw [hd] at hre
  cases hre
  exact hro

/-- A row awaiting a document does not survive the settlement of a verdict of its run. -/
lemma awaitsDocument_closed (hro : t.permissionRequests.rows = s.permissionRequests.rows.map
      (Table.changed (awaitsDocument tid) (closed now)))
    (hrow : row ∈ s.permissionRequests.rows) (ha : awaitsDocument tid row = true) :
    row ∉ t.permissionRequests.rows := by
  intro hk
  have hc : closed now row ∈ t.permissionRequests.rows := by
    rw [hro]
    exact mem_map.2 ⟨row,hrow,if_pos ha⟩
  have hs : row = closed now row := Table.eq_of_not_fits hk hc (fun hf => hf rfl) fun hf => hf rfl
  have hst : row.requestStatus = .applied := by rw [hs]; rfl
  simp [awaitsDocument,isOutstanding,hst,outstandingPermissionStatuses] at ha

/-- The settlement of a proven action changes no row but that of the request it answered,
exactly if, when it settles a verdict, every unsettled document approval of the run is of
that request. -/
theorem settlement_untouched_iff (fingerprint : ActionPayload → String) (s t : Store)
    (threadId : String) (application : DispatchApplicationReceipt) (action : ControlActionModel)
    (drawn : Drawn) (now : Instant)
    (hvalid : validApplicationReceipt threadId application = true)
    (hproven : provenAction fingerprint s threadId application = some action)
    (h : handleProgressEvent fingerprint (settleResume now) s threadId application true drawn
      now = .ok t) :
    Untouched (otherRequests action) s t ↔
      (settlesVerdict action = true → ∀ row ∈ s.permissionRequests.rows,
        awaitsDocument threadId row = true → action.requestId = some row.requestId) := by
  have hru : action.threadId = threadId := (provenAction_ok hproven).2.1
  unfold handleProgressEvent at h
  rw [if_pos ⟨hvalid,by rw [hproven]; rfl,rfl⟩] at h
  constructor
  · intro hu hv row hrow ha
    by_contra ho
    have hro := commitProvenApplication_verdict hproven hv h
    rw [hru] at hro
    refine awaitsDocument_closed hro hrow ha ?_
    have hm : row ∈ rowsOf (otherRequests action) s := mem_filter.2 ⟨hrow,decide_eq_true ho⟩
    rw [← hu] at hm
    exact (mem_filter.1 hm).1
  · intro hown
    refine commitProvenApplication_untouched (fun other ho _ id hid row _ hre => ?_)
      (fun other ho hv row hrow ha => ?_) h
    · cases hproven.symm.trans ho
      exact decide_eq_false (not_not.2 (by rw [hid,hre]))
    · cases hproven.symm.trans ho
      rw [hru] at ha
      exact decide_eq_false (not_not.2 (hown hv row hrow ha))

def approvalReceipt : DispatchApplicationReceipt :=
  ⟨"dispatch-2","resume",⟨"run-1","action-2",.resume,"digest","dispatch-2",2,2⟩⟩

theorem settlement_untouched_one_gate : ∃ s t action, (approvalClaim.map Prod.fst) = .ok s ∧
    provenAction (fun _ => "digest") s "run-1" approvalReceipt = some action ∧
    settlesVerdict action = true ∧
    handleProgressEvent (fun _ => "digest") (settleResume 3) s "run-1" approvalReceipt true
      ⟨"applied-1","applied-1"⟩ 3 = .ok t ∧
    Untouched (otherRequests action) s t := by
  have hc : ∃ s t action, (approvalClaim.map Prod.fst) = .ok s ∧
      provenAction (fun _ => "digest") s "run-1" approvalReceipt = some action ∧
      settlesVerdict action = true ∧
      handleProgressEvent (fun _ => "digest") (settleResume 3) s "run-1" approvalReceipt true
        ⟨"applied-1","applied-1"⟩ 3 = .ok t ∧
      s.permissionRequests.rows.all (fun row => decide (action.requestId = some row.requestId)) =
        true :=
    ⟨_,_,_,rfl,rfl,rfl,rfl,rfl⟩
  obtain ⟨s,t,action,hs,hp,hv,ht,ho⟩ := hc
  refine ⟨s,t,action,hs,hp,hv,ht,
    (settlement_untouched_iff _ s t "run-1" approvalReceipt action _ 3 (by decide) hp ht).2 ?_⟩
  intro _ row hrow _
  exact of_decide_eq_true (all_eq_true.1 ho row hrow)

/-- The run parked on a later gate, the receipt of the approval of the earlier one still out. -/
def parkedAtLaterGate : Except Raised Store := do
  let (claimed,_) ← approvalClaim
  handlePermissionEvent claimed "run-1" laterGateFrame (some [laterGate])
    ⟨"created-3","created-3"⟩ 2

/-- The receipt of the earlier approval closes the later gate, which nobody has answered. -/
theorem later_gate_closed : ∃ s t action, parkedAtLaterGate = .ok s ∧
    validApplicationReceipt "run-1" approvalReceipt = true ∧
    provenAction (fun _ => "digest") s "run-1" approvalReceipt = some action ∧
    action.requestId = some "request-1" ∧
    handleProgressEvent (fun _ => "digest") (settleResume 3) s "run-1" approvalReceipt true
      ⟨"applied-1","applied-1"⟩ 3 = .ok t ∧
    (rowsOf (otherRequests action) s).map (fun row => (row.requestId,row.requestStatus)) =
      [("request-2",.pending)] ∧
    (rowsOf (otherRequests action) t).map (fun row => (row.requestId,row.requestStatus)) =
      [("request-2",.applied)] :=
  ⟨_,_,_,rfl,rfl,rfl,rfl,rfl,rfl,rfl⟩

end VaultspecA2A.RequestRows
