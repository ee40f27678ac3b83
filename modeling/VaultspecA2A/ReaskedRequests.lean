import VaultspecA2A.PermissionRelay

/-!
# A request asked again

A run may ask a request again under the same id after it was answered. The receipt of
the first answer settles the row, and either of two handlers opens it again: that of the
second ask's frame, behind the reservation of the creation action, and that of the
receipt, from what it reads of the checkpoint after the settlement. Nothing orders the
two beyond a frame following its park, and the second one is three steps of its own.

The reservation is compared by the description the request was first journaled under, so
a frame that carries another one opens nothing. The row is open again for certain if the
handler of the receipt reads the checkpoint after the second park, or if the description
is the same. It then has the options of whichever handler came first.
-/
namespace VaultspecA2A.ReaskedRequests
open Runs Tables PyValue ThreadLifecycle Database ControlActions ActionLeases ActionClaims List Option
open PermissionOptions IdempotencyKeys ThreadElections PermissionJournal PermissionResponses
open PermissionAsks PermissionReceipts
open PermissionRelay (Accepted Elsewhere frameOf)

inductive Event
  | park
  | settle
  | read
  | reopen
  | frame
  | elsewhere
deriving DecidableEq, Repr

def Event.cause : Event → Option Event
  | .park | .settle | .elsewhere => none
  | .read => some .settle
  | .reopen => some .read
  | .frame => some .park

def Enabled (history : List Event) (event : Event) : Prop :=
  (event = .elsewhere ∨ event ∉ history) ∧ ∀ cause ∈ event.cause, cause ∈ history

instance (history : List Event) (event : Event) : Decidable (Enabled history event) :=
  inferInstanceAs (Decidable (_ ∧ _))

/-- The store, what the checkpoint holds, what the handler of the receipt has read of it
and the events so far. -/
structure System where
  store : Store
  checkpoint : List ProjectedInterrupt
  seen : CheckpointProjection := none
  history : List Event := []

section
variable (fingerprint : ActionPayload → String) (threadId : String) (answer : Accepted)
variable (ask : ProjectedInterrupt) (frame : PermissionFrame)

/-- The effect of an event on everything but the history. Work elsewhere leaves the row and
the held interrupt of the request as they are. -/
inductive Effect : System → Event → System → Prop
  | park {sys : System} (checkpoint : List ProjectedInterrupt) :
      heldInterrupt (some checkpoint) answer.response.requestId = some ask →
      Effect sys .park { sys with checkpoint := checkpoint }
  | settle {sys : System} (drawn : Drawn) (now : Instant) {t : Store} :
      handleProgressEvent fingerprint unownedResume sys.store threadId answer.application true
        drawn now = .ok t → Effect sys .settle { sys with store := t }
  | read {sys : System} : Effect sys .read { sys with seen := some sys.checkpoint }
  | reopen {sys : System} {t : Store} :
      handleReaskedPermissionEvent sys.store threadId answer.application sys.seen = .ok t →
      Effect sys .reopen { sys with store := t }
  | frame {sys : System} (drawn : Drawn) (now : Instant) {t : Store} :
      frame.requestId = some answer.response.requestId →
      handlePermissionEvent sys.store threadId frame (some sys.checkpoint) drawn now = .ok t →
      Effect sys .frame { sys with store := t }
  | elsewhere {sys : System} {t : Store} {checkpoint : List ProjectedInterrupt} :
      Elsewhere threadId answer.response.requestId answer.response.requestId sys.store t →
      getPermissionRequest t answer.response.requestId =
        getPermissionRequest sys.store answer.response.requestId →
      heldInterrupt (some checkpoint) answer.response.requestId =
        heldInterrupt (some sys.checkpoint) answer.response.requestId →
      Effect sys .elsewhere { sys with store := t, checkpoint := checkpoint }

def Move (sys : System) (event : Event) (sys' : System) : Prop :=
  Enabled sys.history event ∧ ∃ after, Effect fingerprint threadId answer ask frame sys event after ∧
    sys' = { after with history := sys.history ++ [event] }

end

def SameChoices (options : List Value) (ask : ProjectedInterrupt) : Prop :=
  ∀ optionId, optionId ∈ validOptionIds options ↔ optionId ∈ validOptionIds ask.offered

def Offered (row : PermissionRequestModel) (ask : ProjectedInterrupt) : Prop :=
  SameChoices ((decodeAllowedOptions row.allowedOptions).getD []) ask

/-- The row of the request is pending and offers the options of the ask. -/
def Reopened (s : Store) (requestId : String) (ask : ProjectedInterrupt) : Prop :=
  ∃ row, getPermissionRequest s requestId = some row ∧ row.requestStatus = .pending ∧
    Offered row ask

/-- The creation of the request is journaled in the run under a description. -/
def Filed (threadId requestId description : String) (s : Store) : Prop :=
  ∃ a ∈ s.controlActions.rows, a.threadId = threadId ∧
    a.idempotencyKey = permissionRequestActionKey requestId ∧
    a.actionType = .permissionRequestCreated ∧ a.requestId = some requestId ∧
    a.payload = some (.description description)

/-- The journal has the answer under the dispatch of its receipt. -/
def Answers (threadId : String) (answer : Accepted) (s : Store) : Prop :=
  ∃ a ∈ s.controlActions.rows, a.threadId = threadId ∧
    a.dispatchId = some answer.application.dispatchId ∧
    a.actionType = .permissionResponseSubmitted ∧ a.requestId = some answer.response.requestId

lemma Filed.step (h : Filed tid rid de s) (hst : JournalStep tid s t) : Filed tid rid de t := by
  obtain ⟨a,ha,ht,hk,hty,hre,hp⟩ := h
  obtain ⟨b,hb,hs⟩ := hst.kept a ha
  exact ⟨b,hb,hs.threadId.trans ht,hs.idempotencyKey.trans hk,
    hs.actionType.trans hty,hs.requestId.trans hre,hs.payload.trans hp⟩

lemma Answers.step (h : Answers tid an s) (hst : JournalStep tid s t) : Answers tid an t := by
  obtain ⟨a,ha,ht,hd,hty,hre⟩ := h
  obtain ⟨b,hb,hs⟩ := hst.kept a ha
  exact ⟨b,hb,hs.threadId.trans ht,hs.dispatchId.trans hd,
    hs.actionType.trans hty,hs.requestId.trans hre⟩

lemma Answers.request (h : Answers tid an s) (hd : an.application.dispatchId.isEmpty = false) :
    answeredRequestId s tid an.application.dispatchId = some an.response.requestId := by
  obtain ⟨a,ha,ht,hid,hty,hre⟩ := h
  rw [answeredRequestId,hd,getControlActionByDispatchId_of_mem ha ht hid]
  simp [hty,hre]

lemma reopen_absent (h : reopenReaskedPermissionRequest s rid os = .ok t)
    (hrow : getPermissionRequest s rid = none) :
    getPermissionRequest t rid = none := by
  rw [getPermissionRequest_updateRequests h fun _ => rfl,hrow,map_none]

lemma reopen_outstanding (h : reopenReaskedPermissionRequest s rid os = .ok t)
    (hrow : getPermissionRequest s rid = some row)
    (ho : row.requestStatus ∈ outstandingPermissionStatuses) :
    getPermissionRequest t rid = some row := by
  rw [getPermissionRequest_updateRequests h fun _ => rfl,hrow,map_some]
  simp [Table.changed,isOutstanding,ho]

lemma reopen_settled (h : reopenReaskedPermissionRequest s rid os = .ok t)
    (hrow : getPermissionRequest s rid = some row)
    (hcl : row.requestStatus ∉ outstandingPermissionStatuses)
    (hs : SameChoices os ask) : Reopened t rid ask := by
  have hid : row.requestId = rid := Table.lookup_key PermissionRequestModel.requestId hrow
  have hc : getPermissionRequest t rid = _ := getPermissionRequest_updateRequests h fun _ => rfl
  rw [hrow,map_some,Table.changed,if_pos (by simp [isRequest,isOutstanding,hid,hcl])] at hc
  exact ⟨_,hc,rfl,hs⟩

lemma Reopened.again (h : Reopened s rid ask)
    (hre : reopenReaskedPermissionRequest s rid os = .ok t) :
    Reopened t rid ask := by
  obtain ⟨row,hrow,hs,ho⟩ := h
  exact ⟨row,reopen_outstanding hre hrow (by simp [hs,outstandingPermissionStatuses]),hs,ho⟩

lemma persist_filed (hru : (getThread s tid).isSome = true)
    (hfi : Filed tid pa.announced.interruptId de s)
    (h : persistPermissionRequest s tid fr pa dr now = .ok t) :
    (permissionRequestFields fr pa.announced).2 ≠ de ∧ t = s ∨
      (permissionRequestFields fr pa.announced).2 = de ∧
        reopenReaskedPermissionRequest s pa.announced.interruptId
          (optionMappings fr.options) = .ok t := by
  obtain ⟨a,ha,rfl,hk,ht,hreq,hp⟩ := hfi
  have hf : getControlActionByIdempotencyKey s a.threadId
      (permissionRequestActionKey pa.announced.interruptId) = some a :=
    hk ▸ Table.lookup_of_mem actionKey action_key_unique ha
  cases persistPermissionRequest_persisted h with
  | missing hno =>
    rw [hno] at hru
    cases hru
  | filed hn => cases hn.symm.trans hf
  | stands hst h =>
    cases hst.symm.trans hf
    split_ifs at h with hm
    · exact .inr ⟨by simpa [hp,eq_comm] using hm.2.2,h⟩
    · cases h
      refine .inl ⟨fun hs => hm ⟨ht,hreq,?_⟩,rfl⟩
      rw [hp,hs]

section
variable (fingerprint : ActionPayload → String) (threadId first : String) (answer : Accepted)
variable (ask : ProjectedInterrupt) (frame : PermissionFrame)

/-- What the checkpoint and the handler's reading of it show of the second ask. -/
structure Watched (sys : System) : Prop where
  causal : ∀ event ∈ sys.history, ∀ cause ∈ event.cause, cause ∈ sys.history
  held : ∀ held, heldInterrupt (some sys.checkpoint) answer.response.requestId = some held →
    held = ask
  parked : .park ∈ sys.history →
    heldInterrupt (some sys.checkpoint) answer.response.requestId = some ask
  seen : ∀ held, heldInterrupt sys.seen answer.response.requestId = some held → held = ask
  shown : .read ∈ sys.history → Before .park .read sys.history →
    heldInterrupt sys.seen answer.response.requestId = some ask

/-- How the row of the request stands. A settled row has been passed over by each handler
that is done; a frame handled before the settlement comes after the second park. -/
inductive Standing (sys : System) : Prop
  | unfiled : .frame ∉ sys.history →
      getPermissionRequest sys.store answer.response.requestId = none →
      (∀ a ∈ sys.store.controlActions.rows, Unannounced threadId answer.response.requestId a) →
      Standing sys
  | awaiting {row : PermissionRequestModel} : .settle ∉ sys.history →
      Filed threadId answer.response.requestId first sys.store →
      getPermissionRequest sys.store answer.response.requestId = some row →
      row.requestStatus = .answeredPendingApply → Standing sys
  | settled {row : PermissionRequestModel} :
      (.reopen ∈ sys.history → heldInterrupt sys.seen answer.response.requestId = none) →
      (.frame ∈ sys.history → (permissionRequestFields frame ask).2 ≠ first ∨
        Before .park .read sys.history) →
      Filed threadId answer.response.requestId first sys.store →
      getPermissionRequest sys.store answer.response.requestId = some row →
      row.requestStatus ∉ outstandingPermissionStatuses → Standing sys
  | reopened : (.frame ∉ sys.history → Filed threadId answer.response.requestId first sys.store) →
      Reopened sys.store answer.response.requestId ask → Standing sys

structure Recorded (sys : System) : Prop where
  run : (getThread sys.store threadId).isSome = true
  answered : Answers threadId answer sys.store
  awaits : .settle ∉ sys.history → ∃ row thread, AwaitsProof fingerprint threadId answer.response
    answer.actionId answer.application sys.store row thread
  standing : Standing threadId first answer ask frame sys

end

section
variable {fp : ActionPayload → String}
lemma Move.watched (h : Move fp tid an ask frame sys ev sy)
    (hw : Watched an ask sys) : Watched an ask sy := by
  obtain ⟨⟨ho,hca⟩,q,hef,rfl⟩ := h
  have hc : ∀ la ∈ sys.history ++ [ev], ∀ ca ∈ la.cause, ca ∈ sys.history ++ [ev] := by
    intro la hl ca hm
    rcases mem_append.1 hl with hl | hl
    · exact mem_append_left _ (hw.causal la hl ca hm)
    · rw [mem_singleton.1 hl] at hm
      exact mem_append_left _ (hca ca hm)
  -- Of the order of park and read only the read itself adds anything.
  have hs : ev ≠ .read → .read ∈ sys.history ++ [ev] → Before .park .read (sys.history ++ [ev]) →
      heldInterrupt sys.seen an.response.requestId = some ask := by
    intro hne hm hb
    have hre : .read ∈ sys.history := by simpa [Ne.symm hne] using hm
    exact hw.shown hre ((before_append (.inr hre)).1 hb)
  have hp : ev ≠ .park → .park ∈ sys.history ++ [ev] →
      heldInterrupt (some sys.checkpoint) an.response.requestId = some ask := by
    intro hne hm
    exact hw.parked (by simpa [Ne.symm hne] using hm)
  cases hef with
  | park _ hh =>
    exact ⟨hc,fun held hso => Option.some.inj (hso.symm.trans hh),fun _ => hh,hw.seen,hs (by simp)⟩
  | settle _ _ _ | reopen _ | frame _ _ _ _ =>
    exact ⟨hc,hw.held,hp (by simp),hw.seen,hs (by simp)⟩
  | read =>
    refine ⟨hc,hw.held,hp (by simp),hw.held,fun _ hb => ?_⟩
    exact hw.parked ((before_append_new (ho.resolve_left (by simp)) (by simp)).1 hb)
  | elsewhere _ _ hsa =>
    refine ⟨hc,?_,?_,hw.seen,hs (by simp)⟩
    · rw [hsa]
      exact hw.held
    · rw [hsa]
      exact hp (by simp)

lemma heldInterrupt_id (h : heldInterrupt pr rid = some ask) : ask.interruptId = rid := by
  have hid := find?_some h
  exact of_decide_eq_true hid

lemma Standing.quiet (h : Standing tid first an ask fr sys)
    (hrow : getPermissionRequest t an.response.requestId =
      getPermissionRequest sys.store an.response.requestId)
    (hf : Filed tid an.response.requestId first sys.store → Filed tid an.response.requestId first t)
    (hn : (∀ a ∈ sys.store.controlActions.rows, Unannounced tid an.response.requestId a) →
      ∀ a ∈ t.controlActions.rows, Unannounced tid an.response.requestId a)
    (hq : ev ≠ .settle ∧ ev ≠ .reopen ∧ ev ≠ .frame)
    (hse : .reopen ∈ sys.history → se = sys.seen) :
    Standing tid first an ask fr ⟨t,cp,se,sys.history ++ [ev]⟩ := by
  have hb : ∀ e, e ≠ ev → e ∈ sys.history ++ [ev] → e ∈ sys.history := by
    intro e hne hm
    simpa [hne] using hm
  obtain ⟨hset,hre,hfr⟩ := hq
  cases h with
  | unfiled hu hno hro =>
    exact .unfiled (mt (hb _ hfr.symm) hu) (hrow.trans hno) (hn hro)
  | awaiting hun hd hfo hs =>
    exact .awaiting (mt (hb _ hset.symm) hun) (hf hd) (hrow.trans hfo) hs
  | settled hpa hot hd hfo hs =>
    refine .settled (fun hm => ?_) (fun hm => ?_) (hf hd) (hrow.trans hfo) hs
    · have hea := hb _ hre.symm hm
      exact hse hea ▸ hpa hea
    · exact (hot (hb _ hfr.symm hm)).imp_right fun hp =>
        (before_append (.inl hp.mem)).2 hp
  | reopened hd ho =>
    refine .reopened (fun hm => hf (hd fun hfra => ?_)) ?_
    · exact hm (mem_append_left _ hfra)
    · rw [Reopened,hrow]
      exact ho

lemma Recorded.settle (h : Recorded fp tid first an ask fr sys)
    (hc : ∀ ev ∈ sys.history, ∀ ca ∈ ev.cause, ca ∈ sys.history)
    (hop : an.response.optionId.isEmpty = false) (hn : .settle ∉ sys.history)
    (hre : handleProgressEvent fp unownedResume sys.store tid an.application true dr now = .ok t) :
    Recorded fp tid first an ask fr
      { sys with store := t, history := sys.history ++ [.settle] } := by
  obtain ⟨ac,th,hawa⟩ := h.awaits hn
  have hst : JournalStep tid sys.store t := handleProgressEvent_journalStep hre
  have ha := h.answered.step hst
  have hun : .read ∉ sys.history := fun hm => hn (hc _ hm _ rfl)
  have hu : .reopen ∉ sys.history := fun hm => hun (hc _ hm _ rfl)
  -- Only a row that awaits application is changed.
  have hmi : (∀ row, getPermissionRequest sys.store an.response.requestId = some row →
      row.requestStatus ≠ .answeredPendingApply) → t = sys.store := by
    intro hrow
    refine hawa.misses (fun view hv => ?_) hre
    obtain ⟨row,hf,rfl⟩ := map_eq_some_iff.1 hv
    exact hrow row hf
  cases h.standing with
  | unfiled hunf hno hro =>
    obtain rfl := hmi (by simp [hno])
    exact ⟨h.run,ha,by simp,.unfiled (by simpa using hunf) hno hro⟩
  | awaiting _ hfi hf hs =>
    have hv : requestView sys.store an.response.requestId = some (_,_) := congrArg (Option.map _) hf
    rw [hs] at hv
    have hse := hawa.settles hop hv hre
    obtain ⟨su,hcl,haf⟩ := hse.own
    rw [hv] at haf
    obtain ⟨la,hl,hsa⟩ := map_eq_some_iff.1 haf
    refine ⟨(hse.run _).trans h.run,ha,by simp,
      .settled (by simp [hu]) (fun hm => .inr ?_) (hfi.step hst) hl ?_⟩
    · have hfr : .frame ∈ sys.history := by simpa using hm
      exact before_of_notMem (mem_append_left _ (hc _ hfr _ rfl)) (by simpa using hun)
    · rw [(Prod.mk.inj hsa).2]
      exact hcl
  | settled _ hot hfi hf hs =>
    obtain rfl := hmi fun row hrow haw => hs <| by
      cases hf.symm.trans hrow
      simp [haw,outstandingPermissionStatuses]
    refine ⟨h.run,ha,by simp,.settled (by simp [hu]) (fun hm => ?_) hfi hf hs⟩
    exact (hot (by simpa using hm)).imp_right fun hp =>
      (before_append (.inl hp.mem)).2 hp
  | reopened hfi ho =>
    obtain ⟨fo,hf,hs,-⟩ := id ho
    obtain rfl := hmi fun row hrow haw => by
      cases hf.symm.trans hrow
      cases hs.symm.trans haw
    exact ⟨h.run,ha,by simp,.reopened (fun hm => hfi (by simpa using hm)) ho⟩

lemma Recorded.reopen (h : Recorded fp tid first an ask fr sys)
    (hw : Watched an ask sys) (hs : .settle ∈ sys.history)
    (hdi : an.application.dispatchId.isEmpty = false)
    (hv : an.application.action = "resume")
    (ha : SameChoices (optionMappings ask.options) ask)
    (hre : handleReaskedPermissionEvent sys.store tid an.application sys.seen = .ok t) :
    Recorded fp tid first an ask fr
      { sys with store := t, history := sys.history ++ [.reopen] } := by
  rw [handleReaskedPermissionEvent,if_neg (by simp [hv]),h.answered.request hdi,bind_some] at hre
  have hd : .settle ∉ sys.history ++ [.reopen] → ∃ row th, AwaitsProof fp tid
      an.response an.actionId an.application t row th :=
    fun hno => (hno (mem_append_left _ hs)).elim
  have hfr : .frame ∈ sys.history ++ [Event.reopen] ↔ .frame ∈ sys.history := by simp
  cases hh : heldInterrupt sys.seen an.response.requestId with
  | none =>
    rw [hh] at hre
    cases hre
    refine ⟨h.run,h.answered,hd,?_⟩
    cases h.standing with
    | unfiled hu hn hro => exact .unfiled (mt hfr.1 hu) hn hro
    | awaiting hun => exact (hun hs).elim
    | settled _ hot hf hfo hst =>
      exact .settled (fun _ => hh) (fun hm => (hot (hfr.1 hm)).imp_right
        fun hp => (before_append (.inl hp.mem)).2 hp) hf hfo hst
    | reopened hf ho => exact .reopened (fun hm => hf (mt hfr.2 hm)) ho
  | some held =>
    obtain rfl := hw.seen held hh
    rw [hh] at hre
    dsimp only at hre
    rw [heldInterrupt_id hh] at hre
    obtain ⟨hsa,-⟩ := updateRequests_ok hre
    have hj : t.controlActions = sys.store.controlActions := by rw [hsa]
    have hste : JournalStep tid sys.store t := .of_eq hj
    refine ⟨?_,h.answered.step hste,hd,?_⟩
    · rw [getThread,hsa]
      exact h.run
    cases h.standing with
    | unfiled hu hn hro =>
      exact .unfiled (mt hfr.1 hu) (reopen_absent hre hn) (hj ▸ hro)
    | awaiting hun => exact (hun hs).elim
    | settled _ hot hf hfo hst =>
      exact .reopened (fun _ => hf.step hste) (reopen_settled hre hfo hst ha)
    | reopened hf ho =>
      refine .reopened (fun hm => (hf (mt hfr.2 hm)).step hste) ?_
      exact ho.again hre

lemma Recorded.framed (h : Recorded fp tid first an ask fr sys)
    (hh : heldInterrupt (some sys.checkpoint) an.response.requestId = some ask)
    (hnew : .frame ∉ sys.history) (hreq : fr.requestId = some an.response.requestId)
    (hch : SameChoices (optionMappings fr.options) ask)
    (hw : handlePermissionEvent sys.store tid fr (some sys.checkpoint) dr now = .ok t) :
    Recorded fp tid first an ask fr
      { sys with store := t, history := sys.history ++ [.frame] } := by
  rw [handlePermissionEvent,heldRequestInterrupt,hreq,bind_some,hh] at hw
  have hid := heldInterrupt_id hh
  have hst : JournalStep tid sys.store t := persistPermissionRequest_journalStep hw
  have hse : .settle ∈ sys.history ++ [Event.frame] ↔ .settle ∈ sys.history := by simp
  have hreo : .reopen ∈ sys.history ++ [Event.frame] ↔ .reopen ∈ sys.history := by simp
  have hfr : .frame ∈ sys.history ++ [Event.frame] := by simp
  by_cases hf : Filed tid an.response.requestId first sys.store
  · have hc := persist_filed h.run (hid ▸ hf) hw
    dsimp only at hc
    rw [hid] at hc
    have hres : t.controlActions = sys.store.controlActions ∧ t.threads = sys.store.threads := by
      rcases hc with ⟨-,rfl⟩ | ⟨-,hre⟩
      · exact ⟨rfl,rfl⟩
      · rw [(updateRequests_ok hre).1]
        exact ⟨rfl,rfl⟩
    have hru : ∀ run, getThread t run = getThread sys.store run := by
      intro run
      rw [getThread,getThread,hres.2]
    refine ⟨(congrArg _ (hru tid)).trans h.run,h.answered.step hst,fun hn => ?_,?_⟩
    · obtain ⟨row,th,haw⟩ := h.awaits (mt hse.2 hn)
      exact ⟨row,th,haw.kept (hres.1 ▸ haw.mem) ((hru _).trans haw.run) rfl rfl rfl (Nat.le_refl _)⟩
    cases h.standing with
    | unfiled _ _ hro =>
      obtain ⟨a,ha,ht,hk,-⟩ := hf
      exact (hro a ha ht hk).elim
    | awaiting hu _ hfo hs =>
      refine .awaiting (mt hse.1 hu) (hf.step hst) ?_ hs
      rcases hc with ⟨-,rfl⟩ | ⟨-,hre⟩
      · exact hfo
      · exact reopen_outstanding hre hfo (by simp [hs,outstandingPermissionStatuses])
    | settled hp _ _ hfo hs =>
      rcases hc with ⟨hot,rfl⟩ | ⟨-,hre⟩
      · exact .settled (fun hm => hp (hreo.1 hm)) (fun _ => .inl hot) hf
          hfo hs
      · exact .reopened (fun hm => (hm hfr).elim)
          (reopen_settled hre hfo hs hch)
    | reopened _ ho =>
      refine .reopened (fun hm => (hm hfr).elim) ?_
      rcases hc with ⟨-,rfl⟩ | ⟨-,hre⟩
      · exact ho
      · exact ho.again hre
  · cases h.standing with
    | awaiting _ hd | settled _ _ hd => exact (hf hd).elim
    | reopened hd => exact (hf (hd hnew)).elim
    | unfiled _ _ hro =>
      have han := persistPermissionRequest_announced h.run (by rw [hid]; exact hro) hw
      obtain ⟨row,hrow,hs,ho⟩ := han.row
      rw [hid] at hrow
      refine ⟨?_,h.answered.step hst,fun hn => ?_,
        .reopened (fun hm => (hm hfr).elim) ⟨row,hrow,hs,by rw [Offered,ho]; exact hch⟩⟩
      · rw [getThread,han.threads]
        exact h.run
      · obtain ⟨row,th,haw⟩ := h.awaits (mt hse.2 hn)
        exact ⟨row,th,haw.announced han⟩

lemma Recorded.elsewhere (h : Recorded fp tid first an ask fr sys)
    (hs : Elsewhere tid an.response.requestId an.response.requestId sys.store t)
    (hrow : getPermissionRequest t an.response.requestId =
      getPermissionRequest sys.store an.response.requestId) :
    Recorded fp tid first an ask fr ⟨t,cp,sys.seen,sys.history ++ [.elsewhere]⟩ := by
  obtain ⟨th,ht⟩ := isSome_iff_exists.1 h.run
  obtain ⟨la,hl,hw⟩ := hs.writer th ht
  refine ⟨isSome_iff_exists.2 ⟨la,hl⟩,?_,fun hn => ?_,
    h.standing.quiet hrow ?_ ?_ (by simp) fun _ => rfl⟩
  · obtain ⟨a,ha,ho,hre⟩ := h.answered
    exact ⟨a,hs.kept a ha ho,ho,hre⟩
  · obtain ⟨row,_,haw⟩ := h.awaits (by simpa using hn)
    cases haw.run.symm.trans ht
    exact ⟨row,la,haw.kept (hs.kept row haw.mem haw.answer.threadId) hl
      hw.1 hw.2.1 hw.2.2.1 hw.2.2.2⟩
  · rintro ⟨a,ha,ho,hre⟩
    exact ⟨a,hs.kept a ha ho,ho,hre⟩
  · intro hro a ha ho
    rcases hs.fresh a ha ho with hold | hf
    · exact hro a hold ho
    · exact hf.1 ho

end

section
variable (fingerprint : ActionPayload → String) (threadId first : String) (answer : Accepted)
variable (ask : ProjectedInterrupt) (frame : PermissionFrame)

/-- The request has been answered, the answer incorporated and the checkpoint holds the
request no longer. Its first frame was journaled under the description `first`, or has not
been handled. -/
structure Answered (sys : System) : Prop where
  awaits : ∃ row thread, AwaitsProof fingerprint threadId answer.response answer.actionId
    answer.application sys.store row thread
  option : answer.response.optionId.isEmpty = false
  dispatch : answer.application.dispatchId.isEmpty = false
  filed : (∃ row, getPermissionRequest sys.store answer.response.requestId = some row ∧
      Filed threadId answer.response.requestId first sys.store) ∨
    getPermissionRequest sys.store answer.response.requestId = none ∧
      ∀ a ∈ sys.store.controlActions.rows, Unannounced threadId answer.response.requestId a
  unheld : heldInterrupt (some sys.checkpoint) answer.response.requestId = none
  seen : sys.seen = none
  history : sys.history = []

/-- The frame and the checkpoint both carry the choices of the ask, as does a row that is
pending already; and the frame carries the description of the first one, or the handler of
the receipt reads the checkpoint after the second park. -/
structure Alike (sys : System) (events : List Event) : Prop where
  announced : SameChoices (optionMappings frame.options) ask
  held : SameChoices (optionMappings ask.options) ask
  row : ∀ row, getPermissionRequest sys.store answer.response.requestId = some row →
    row.requestStatus = .pending → Offered row ask
  order : (permissionRequestFields frame ask).2 = first ∨ Before .park .read events

end

section
variable {fingerprint fp : ActionPayload → String} {threadId tid first : String} {answer an : Accepted}
variable {ask : ProjectedInterrupt} {frame fr : PermissionFrame} {start sys sy : System}
variable {events : List Event}

lemma Answered.watched (h : Answered fp tid first an sys) : Watched an ask sys := by
  refine ⟨?_,?_,?_,?_,?_⟩
  · simp [h.history]
  · simp [h.unheld]
  · simp [h.history]
  · simp [h.seen,heldInterrupt,heldPermissionInterrupts]
  · simp [h.history]

lemma Answered.recorded (h : Answered fp tid first an sys)
    (hal : Alike first an ask fr sys events) :
    Recorded fp tid first an ask fr sys := by
  obtain ⟨ac,th,ha⟩ := h.awaits
  have hn : ∀ ev, ev ∉ sys.history := by simp [h.history]
  refine ⟨by rw [ha.run]; rfl,⟨ac,ha.mem,ha.answer.threadId,
    ha.answer.dispatchId,ha.answer.actionType,ha.answer.requestId⟩,
    fun _ => ⟨ac,th,ha⟩,?_⟩
  rcases h.filed with ⟨row,hf,hfi⟩ | ⟨hno,hro⟩
  · by_cases hp : row.requestStatus = .pending
    · exact .reopened (fun _ => hfi) ⟨row,hf,hp,hal.row row hf hp⟩
    by_cases ho : row.requestStatus = .answeredPendingApply
    · exact .awaiting (hn _) hfi hf ho
    · exact .settled (fun hm => (hn _ hm).elim) (fun hm => (hn _ hm).elim) hfi
        hf (by simp [outstandingPermissionStatuses,hp,ho])
  · exact .unfiled (hn _) hno hro

lemma Move.recorded (h : Move fp tid an ask frame sys ev sy) (ha : Answered fp tid first an start)
    (hal : Alike first an ask frame start events) (hw : Watched an ask sys)
    (hre : Recorded fp tid first an ask frame sys) :
    Recorded fp tid first an ask frame sy := by
  obtain ⟨⟨ho,hc⟩,q,hef,rfl⟩ := h
  have hn : ev ≠ .elsewhere → ev ∉ sys.history := ho.resolve_left
  cases hef with
  | park _ _ =>
    exact ⟨hre.run,hre.answered,fun hno => hre.awaits (by simpa using hno),
      hre.standing.quiet rfl id id (by simp) fun _ => rfl⟩
  | read =>
    refine ⟨hre.run,hre.answered,fun hno => hre.awaits (by simpa using hno),
      hre.standing.quiet rfl id id (by simp) fun hm => ?_⟩
    exact (hn (by simp) (hw.causal _ hm _ rfl)).elim
  | settle _ _ hrece =>
    exact hre.settle hw.causal ha.option (hn (by simp)) hrece
  | reopen hrea =>
    obtain ⟨_,_,haw⟩ := ha.awaits
    exact hre.reopen hw (hw.causal _ (hc _ rfl) _ rfl) ha.dispatch haw.verb hal.held hrea
  | frame _ _ hreq hwr =>
    exact hre.framed (hw.parked (hc _ rfl)) (hn (by simp)) hreq hal.announced hwr
  | elsewhere hs hrow _ => exact hre.elsewhere hs hrow

lemma history_of_moves (h : Run (Move fp tid an ask fr) start events sys) :
    sys.history = start.history ++ events := by
  induction h with
  | done _ => simp
  | step hm _ ih =>
    obtain ⟨-,q,-,rfl⟩ := hm
    rw [ih]
    simp

/-- In every order in which the frame of the second ask and the receipt of the first answer
are handled, the row of the request is open again and offers the options of the second
ask. -/
theorem reask_reopens (hanswered : Answered fingerprint threadId first answer start)
    (hrun : Run (Move fingerprint threadId answer ask frame) start events sys)
    (hframe : .frame ∈ events) (hreopen : .reopen ∈ events)
    (halike : Alike first answer ask frame start events) :
    Reopened sys.store answer.response.requestId ask := by
  obtain ⟨hw,hrec⟩ := hrun.invariant
    (fun sys => Watched answer ask sys ∧ Recorded fingerprint threadId first answer ask frame sys)
    (fun hi hm => ⟨hm.watched hi.1,hm.recorded hanswered halike hi.1 hi.2⟩)
    ⟨hanswered.watched,hanswered.recorded halike⟩
  have hh : sys.history = events := by
    rw [history_of_moves hrun,hanswered.history,nil_append]
  rw [← hh] at hframe hreopen
  have hre : .read ∈ sys.history := hw.causal _ hreopen _ rfl
  cases hrec.standing with
  | unfiled hu => exact (hu hframe).elim
  | awaiting hun => exact (hun (hw.causal _ hre _ rfl)).elim
  | reopened _ ho => exact ho
  | settled hpa hot =>
    -- Neither handler opened the row, although one of the two had to.
    have hp : Before .park .read sys.history := by
      rcases hot hframe with hne | hp
      · exact hh ▸ halike.order.resolve_left hne
      · exact hp
    cases (hpa hreopen).symm.trans (hw.shown hre hp)

end

def answeredRun : Except Raised (System × Accepted) := do
  let admitted ← admittedRun
  let filed ← handlePermissionEvent admitted "run-1" (frameOf goOrStop) (some [goOrStop])
    ⟨"created-1","created-1"⟩ 0
  let (s,outcome) ← respondToPermission plainOutside filed "run-1" goAhead (some goOrStop) false
    (drawingAt 0 "action-2" "dispatch-2")
  match outcome with
  | .dispatching transition =>
    match bindGraphActionReceipt plainOutside.fingerprint s transition.dispatch
        transition.claim.dispatchId with
    | some receipt =>
      .ok (⟨s,[],none,[]⟩,⟨goAhead,transition.claim.actionId,
        ⟨transition.claim.dispatchId,"resume",receipt⟩⟩)
    | none => .error .keyError
  | _ => .error .keyError

def rewordedFrame : PermissionFrame :=
  { frameOf goOrStop with description := some "run it again?" }

lemma Move.of_effect (hen : Enabled sys.history ev) (h : Effect fp tid an ask fr sys ev q) :
    Move fp tid an ask fr sys ev
      { q with history := sys.history ++ [ev] } := ⟨hen,q,h,rfl⟩

theorem reask_reopens_late_read : ∃ start answer sys, answeredRun = .ok (start,answer) ∧
    Run (Move plainOutside.fingerprint "run-1" answer goOrStop rewordedFrame) start
      [.settle,.park,.frame,.read,.reopen] sys ∧
    Reopened sys.store "request-1" goOrStop := by
  have hru : ∃ start answer sys, answeredRun = .ok (start,answer) ∧
      answer.response.requestId = "request-1" ∧
      Answered plainOutside.fingerprint "run-1" "run it?" answer start ∧
      (∀ row, getPermissionRequest start.store answer.response.requestId = some row →
        row.requestStatus ≠ .pending) ∧
      Run (Move plainOutside.fingerprint "run-1" answer goOrStop rewordedFrame) start
        [.settle,.park,.frame,.read,.reopen] sys :=
    ⟨_,_,_,rfl,rfl,
      ⟨⟨_,_,.tail _ (.tail _ (.head _)),⟨rfl,rfl,rfl,rfl,rfl,⟨_,rfl,rfl⟩,rfl⟩,rfl,rfl,rfl⟩,rfl,rfl,
        .inl ⟨_,rfl,_,.tail _ (.head _),rfl,rfl,rfl,rfl,rfl⟩,rfl,rfl,rfl⟩,
      fun row hrow => (by cases hrow; decide),
      .step (.of_effect (by decide) (.settle ⟨"applied-1","applied-1"⟩ 1 rfl)) <|
      .step (.of_effect (by decide) (.park [goOrStop] rfl)) <|
      .step (.of_effect (by decide) (.frame ⟨"created-2","created-2"⟩ 2 rfl rfl)) <|
      .step (.of_effect (by decide) .read) <|
      .single (.of_effect (by decide) (.reopen rfl))⟩
  obtain ⟨start,answer,sys,hs,hid,ha,hc,hru⟩ := hru
  refine ⟨start,answer,sys,hs,hru,?_⟩
  rw [← hid]
  exact reask_reopens ha hru (by decide) (by decide)
    ⟨fun _ => Iff.rfl,fun _ => Iff.rfl,fun row hrow hst => (hc row hrow hst).elim,.inr (by decide)⟩

/-- If the receipt is handled before the second park, a frame with another description
leaves the request settled while the checkpoint holds it. -/
theorem reworded_reask_stays_settled : ∃ start answer sys, answeredRun = .ok (start,answer) ∧
    Run (Move plainOutside.fingerprint "run-1" answer goOrStop rewordedFrame) start
      [.settle,.read,.reopen,.park,.frame] sys ∧
    heldInterrupt (some sys.checkpoint) "request-1" = some goOrStop ∧
    requestView sys.store "request-1" = some ("run-1",.applied) :=
  ⟨_,_,_,rfl,.step (.of_effect (by decide) (.settle ⟨"applied-1","applied-1"⟩ 1 rfl)) <|
    .step (.of_effect (by decide) .read) <|
    .step (.of_effect (by decide) (.reopen rfl)) <|
    .step (.of_effect (by decide) (.park [goOrStop] rfl)) <|
    .single (.of_effect (by decide) (.frame ⟨"created-2","created-2"⟩ 2 rfl rfl)),rfl,rfl⟩

end VaultspecA2A.ReaskedRequests
