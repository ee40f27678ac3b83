import Mathlib.Data.Fintype.Card
import VaultspecA2A.PermissionReceipts

/-!
# The log of permission decisions

The transaction of an accepted answer appends one row to the permission log. It stands
behind the claim of the answer, so that a retry that finds the answer claimed appends
nothing. The claim can be won again, though: once the lease of an answer has lapsed
without a receipt, an identical retry takes it over and logs the decision a second time.

A row of the log names no request, so the request it was written for is kept beside it.
Everything but a response is work elsewhere, which leaves the run's rows of the log and
its accepted answers as they are.
-/
namespace VaultspecA2A.DecisionLog
open Runs Tables ThreadLifecycle Database ControlActions ActionLeases ActionClaims List
open PermissionOptions IdempotencyKeys PermissionResponses PermissionAsks

/-- The row is the accepted answer to an ask of the request. -/
def IsAnswer (threadId requestId : String) (generation : Generation) (a : ControlActionModel) :
    Prop :=
  a.threadId = threadId ∧ a.requestId = some requestId ∧
    a.actionType = .permissionResponseSubmitted ∧
    a.idempotencyKey = permissionResponseActionKey requestId generation

instance (threadId requestId : String) (generation : Generation) (a : ControlActionModel) :
    Decidable (IsAnswer threadId requestId generation a) := inferInstanceAs (Decidable (_ ∧ _))

def AnsweredAsk (s : Store) (threadId requestId : String) (generation : Generation) : Prop :=
  ∃ a ∈ s.controlActions.rows, IsAnswer threadId requestId generation a

instance (s : Store) (threadId requestId : String) (generation : Generation) :
    Decidable (AnsweredAsk s threadId requestId generation) :=
  inferInstanceAs (Decidable (∃ _ ∈ _, _))

def answeredAsks (s : Store) (threadId requestId : String) : ℕ :=
  (Finset.univ.filter (AnsweredAsk s threadId requestId)).card

def loggedOf (s : Store) (threadId : String) : List PermissionLogModel :=
  s.permissionLogs.filter fun row => decide (row.threadId = threadId)

inductive Event
  | respond (response : PermissionInput) (held : Option ProjectedInterrupt) (unconfirmed : Bool)
      (drawing : Drawing)
  | elsewhere

/-- The store, and the request each row of the run's log was written for. -/
structure System where
  store : Store
  audited : List String

/-- Rows that a response appends are for the request it answers. -/
inductive Move (outside : Outside) (threadId : String) : System → Event → System → Prop
  | respond {sys : System} {response : PermissionInput} {held : Option ProjectedInterrupt}
      {unconfirmed : Bool} {drawing : Drawing} {t : Store} {answer : Answer} :
      respondToPermission outside sys.store threadId response held unconfirmed drawing =
        .ok (t,answer) →
      Move outside threadId sys (.respond response held unconfirmed drawing)
        ⟨t,sys.audited ++ List.replicate
          ((loggedOf t threadId).length - (loggedOf sys.store threadId).length)
          response.requestId⟩
  | elsewhere {sys : System} {t : Store} : loggedOf t threadId = loggedOf sys.store threadId →
      (∀ requestId generation, AnsweredAsk t threadId requestId generation ↔
        AnsweredAsk sys.store threadId requestId generation) →
      Move outside threadId sys .elsewhere ⟨t,sys.audited⟩

/-- No answer to the request that may still be delivered is free for another claim. -/
def Leased (threadId : String) (sys : System) : Event → Prop
  | .respond response _ _ drawing => ∀ a ∈ sys.store.controlActions.rows, ∀ generation,
      IsAnswer threadId response.requestId generation a → a.appliedAt = none →
      withinDeadline .permissionResponseSubmitted a drawing.now = true →
      acquirableBy a drawing.claimToken drawing.now = false
  | .elsewhere => True

/-- Every row of the run's log is accounted for, one for each answered ask. -/
structure OnePerAsk (threadId : String) (sys : System) : Prop where
  rows : sys.audited.length = (loggedOf sys.store threadId).length
  counts : ∀ requestId, sys.audited.count requestId = answeredAsks sys.store threadId requestId

variable {generation gn : Generation}

section
variable {outside ou : Outside} {threadId tid requestId rid : String} {s t : Store}
variable {a b : ControlActionModel}

lemma IsAnswer.same (h : SameIntention a b) (ha : IsAnswer tid rid gn a) : IsAnswer tid rid gn b :=
  ⟨h.threadId.trans ha.1,h.requestId.trans ha.2.1,h.actionType.trans ha.2.2.1,
    h.idempotencyKey.trans ha.2.2.2⟩

lemma IsAnswer.back (h : SameIntention a b) (hb : IsAnswer tid rid gn b) : IsAnswer tid rid gn a :=
  ⟨h.threadId.symm.trans hb.1,h.requestId.symm.trans hb.2.1,h.actionType.symm.trans hb.2.2.1,
    h.idempotencyKey.symm.trans hb.2.2.2⟩

def Adds (threadId : String) (s : Store) (New : String → Generation → Prop)
    (a : ControlActionModel) : Prop :=
  ∀ requestId generation, IsAnswer threadId requestId generation a →
    AnsweredAsk s threadId requestId generation ∨ New requestId generation

lemma answeredAsk_of_adds {New : String → Generation → Prop}
    (h : s.controlActions.Evolves SameIntention (Adds tid s New) t.controlActions)
    (hans : AnsweredAsk t tid rid gn) :
    AnsweredAsk s tid rid gn ∨ New rid gn := by
  obtain ⟨b,hb,han⟩ := hans
  exact h.sound (fun a ha _ _ hold => .inl ⟨a,ha,hold⟩) b hb rid gn han

lemma AnsweredAsk.kept {Good : ControlActionModel → Prop} (h : AnsweredAsk s tid rid gn)
    (hst : s.controlActions.Evolves SameIntention Good t.controlActions) :
    AnsweredAsk t tid rid gn := by
  obtain ⟨a,ha,han⟩ := h
  obtain ⟨b,hb,hs⟩ := hst.kept a ha
  exact ⟨b,hb,han.same hs⟩

lemma answerClaim_fresh (hl : Leased au.threadRecord.id ⟨s,[]⟩ (.respond rs held uc dw))
    (hc : prepareControlActionClaim ou.fingerprint s
      (answerClaimRequest au rs ah dw) dw.now dw.drawn
      dw.claimToken = .ok (cl,cm)) (hac : cm.acquired = true) :
    ¬ AnsweredAsk s au.threadRecord.id rs.requestId au.ask.generation ∧
      cl.permissionLogs = s.permissionLogs ∧
      ∀ rid gn, AnsweredAsk cl au.threadRecord.id rid gn ↔ AnsweredAsk s au.threadRecord.id rid gn ∨
            rid = rs.requestId ∧ gn = au.ask.generation := by
  have hst : ClaimStep (Adds au.threadRecord.id s fun rid gn =>
      rid = rs.requestId ∧ gn = au.ask.generation) s cl := by
    refine prepareControlActionClaim_claimStep_new ?_ hc ?_
    · exact fun hs hadd rid gn han =>
        hadd rid gn (han.back hs.toSameIntention)
    · rintro dl rid gn ⟨-,hre,-,hk⟩
      cases hre
      exact .inr ⟨rfl,(permissionResponseActionKey_inj hk).symm⟩
  obtain ⟨hau,hbo,-⟩ := prepareControlActionClaim_acquired hc hac
  obtain ⟨row,hm,hrow⟩ := prepareControlActionClaim_row hc hau hbo
  have hact := hst.actions.weaken fun _ _ hs => hs.toSameIntention
  refine ⟨?_,hst.logs,fun rid gn => ⟨answeredAsk_of_adds hact,?_⟩⟩
  · -- An answer that stood before would have had to be free.
    obtain ⟨st⟩ := prepareControlActionClaim_stages hc
    obtain ⟨hold,hn,-⟩ := reserveControlAction_ok st.reserves
    rintro ⟨a,ha,han⟩
    have hf : getControlActionByIdempotencyKey s au.threadRecord.id
        (permissionResponseActionKey rs.requestId au.ask.generation) = some a := by
      rw [← han.1,← han.2.2.2]
      exact Table.lookup_of_mem actionKey action_key_unique ha
    have hcr : st.reservation.created = false := by
      by_contra hno
      cases (hn (Bool.not_eq_false _ ▸ hno)).1.symm.trans hf
    obtain ⟨hs,hex⟩ := hold hcr
    cases hex.symm.trans hf
    have hw : st.token.isSome = true := (Bool.and_eq_true_iff.1 (st.acquired ▸ hac)).1
    obtain ⟨hin,b,hb,hfr,-⟩ := claimReservedAction_acquirable st.leases hw
    rw [hs,show getControlAction s st.reservation.action.id = _ from
      Table.lookup_of_mem ControlActionModel.id action_id_unique ha] at hb
    cases hb
    have hh := hl _ ha _ han (claimReservedAction_won st.leases hw).1.2.2 hin
    cases hh.symm.trans hfr
  · rintro (hans | ⟨rfl,rfl⟩)
    · exact hans.kept hact
    · exact ⟨row,hm,hrow.threadId,hrow.requestId,hrow.actionType,hrow.idempotencyKey⟩

lemma respondToPermission_logs (hle : Leased tid ⟨s,[]⟩ (.respond rs held uc dw))
    (h : respondToPermission ou s tid rs held uc dw = .ok (t,an)) :
    (t.permissionLogs = s.permissionLogs ∧ ∀ rid gn, AnsweredAsk t tid rid gn ↔
        AnsweredAsk s tid rid gn) ∨
    ∃ e gn, e.threadId = tid ∧ t.permissionLogs = s.permissionLogs ++ [e] ∧
      ¬ AnsweredAsk s tid rs.requestId gn ∧
      ∀ rid ge, AnsweredAsk t tid rid ge ↔ AnsweredAsk s tid rid ge ∨
          rid = rs.requestId ∧ ge = gn := by
  unfold respondToPermission at h
  obtain ⟨⟨gu,au⟩,hau,hre⟩ := bind_ok.1 h
  cases authorizePermissionResponse_guarded hau with
  | refused | replayed =>
    cases hre
    exact .inl ⟨rfl,fun _ _ => Iff.rfl⟩
  | journaled hcr hrow =>
    cases hre
    obtain ⟨-,-,-,hl,hi⟩ := createControlAction_ok hcr
    -- Neither a refusal nor a duplicate is journaled under the key of an ask.
    have hs : s.controlActions.Evolves SameIntention (Adds tid s fun _ _ => False)
        t.controlActions := by
      refine .insert SameIntention.refl (fun rid gn han => .inr ?_) hi
      rcases hrow.key with ⟨key,hk,-⟩ | ⟨key,hk⟩
      · exact response_key_ne _ _ key (han.2.2.2.symm.trans hk)
      · exact append_ne (by decide) _ _ (han.2.2.2.symm.trans hk)
    exact .inl ⟨hl,fun rid gn =>
      ⟨fun ha => (answeredAsk_of_adds hs ha).resolve_right id,fun ha => ha.kept hs⟩⟩
  | authorized hru =>
    subst hru
    cases recordPermissionTransition_transitioned hre with
    | refused | unclaimed => exact .inl ⟨rfl,fun _ _ => Iff.rfl⟩
    | dispatched _ hc hac hp _ =>
      right
      obtain ⟨hs,-,e,ht,hl⟩ := projectSubmission_ok hp
      obtain ⟨hn,hcl,hans⟩ := answerClaim_fresh hle hc hac
      refine ⟨e,_,ht,by rw [hl,hcl],hn,fun rid gn => ?_⟩
      rw [← hans,AnsweredAsk,AnsweredAsk,hs]

lemma answeredAsks_congr (h : ∀ gn, AnsweredAsk t tid rid gn ↔ AnsweredAsk s tid rid gn) :
    answeredAsks t tid rid = answeredAsks s tid rid := by
  unfold answeredAsks
  rw [Finset.filter_congr fun gn _ => h gn]

lemma answeredAsks_succ (hn : ¬ AnsweredAsk s tid rid gn) (h : ∀ ge, AnsweredAsk t tid rid ge ↔
      AnsweredAsk s tid rid ge ∨ ge = gn) :
    answeredAsks t tid rid = answeredAsks s tid rid + 1 := by
  have hi : Finset.univ.filter (AnsweredAsk t tid rid) =
      insert gn (Finset.univ.filter (AnsweredAsk s tid rid)) := by
    ext ge
    simp [h,or_comm]
  rw [answeredAsks,hi,Finset.card_insert_of_notMem (by simp [hn]),answeredAsks]

lemma Move.onePerAsk (h : Move ou tid sys ev sy) (hle : Leased tid sys ev)
    (ho : OnePerAsk tid sys) : OnePerAsk tid sy := by
  cases h with
  | elsewhere hl ha =>
    refine ⟨ho.rows.trans (congrArg _ hl.symm),fun rid => ?_⟩
    rw [answeredAsks_congr (ha rid)]
    exact ho.counts rid
  | @respond rs _ _ _ t _ hres =>
    rcases respondToPermission_logs hle hres with
      ⟨hl,ha⟩ | ⟨e,gn,ht,hl,hn,ha⟩
    · have hs : loggedOf t tid = loggedOf sys.store tid := congrArg (List.filter _) hl
      rw [hs,Nat.sub_self,replicate_zero,append_nil]
      refine ⟨ho.rows.trans (congrArg _ hs.symm),fun rid => ?_⟩
      rw [answeredAsks_congr (ha rid)]
      exact ho.counts rid
    · have hm : loggedOf t tid = loggedOf sys.store tid ++ [e] := by
        rw [loggedOf,loggedOf,hl,filter_append]
        simp [ht]
      rw [hm,length_append,Nat.add_sub_cancel_left]
      refine ⟨?_,fun rid => ?_⟩
      · rw [hm,length_append,length_append,ho.rows]
        rfl
      rw [count_append,ho.counts rid]
      by_cases hre : rid = rs.requestId
      · subst hre
        have hc : answeredAsks t tid rs.requestId = _ :=
          answeredAsks_succ hn (by simpa using ha rs.requestId)
        rw [hc]
        simp
      · have hc : answeredAsks t tid rid = answeredAsks sys.store tid rid := answeredAsks_congr
          fun ge => by simp [ha,hre]
        rw [hc]
        simp [Ne.symm hre]

/-- In every history of responses, the run's log has one row for each answered ask. -/
theorem log_counts_answered_asks {start sys : System} {events : List Event}
    (hrun : Run (fun sys event sys' => Move outside threadId sys event sys' ∧
      Leased threadId sys event) start events sys) (hstart : OnePerAsk threadId start) :
    OnePerAsk threadId sys :=
  hrun.invariant (OnePerAsk threadId) (fun ho hm => hm.1.onePerAsk hm.2 ho) hstart

end

def answerAt (now : Instant) (action : String) : Event :=
  .respond goAhead (some goOrStop) false (drawingAt now action action)

theorem log_counts_answered_asks_retried : ∃ s sys, admittedRun = .ok s ∧
    Run (fun sys event sys' => Move plainOutside "run-1" sys event sys' ∧
      Leased "run-1" sys event) ⟨s,[]⟩
      [answerAt 0 "action-2",answerAt (60 * second) "action-3"] sys ∧
    OnePerAsk "run-1" sys := by
  have hru : ∃ s sys, admittedRun = .ok s ∧ OnePerAsk "run-1" ⟨s,[]⟩ ∧
      Run (fun sys event sys' => Move plainOutside "run-1" sys event sys' ∧
        Leased "run-1" sys event) ⟨s,[]⟩
        [answerAt 0 "action-2",answerAt (60 * second) "action-3"] sys := by
    refine ⟨_,_,rfl,⟨rfl,fun requestId => ?_⟩,.step ⟨.respond rfl,?_⟩ (.single ⟨.respond rfl,?_⟩)⟩
    · refine (Finset.card_eq_zero.2 (Finset.filter_eq_empty_iff.2 ?_)).symm
      rintro generation - ⟨a,ha,-,hre,-⟩
      cases mem_singleton.1 ha
      cases hre
    · rintro a ha generation ⟨-,hre,-⟩
      cases mem_singleton.1 ha
      cases hre
    · rintro a ha generation ⟨-,hre,-⟩
      rcases mem_cons.1 ha with rfl | ha
      · cases hre
      · cases mem_singleton.1 ha
        exact fun _ _ => rfl
  obtain ⟨s,sys,hs,hst,hru⟩ := hru
  exact ⟨s,sys,hs,hru,log_counts_answered_asks hru hst⟩

/-- A retry of an answer whose lease has lapsed logs the decision again. -/
theorem lapsed_retry_logged_twice : ∃ s sys, admittedRun = .ok s ∧
    Run (Move plainOutside "run-1") ⟨s,[]⟩
      [answerAt 0 "action-2",answerAt (90 * second) "action-3"] sys ∧
    sys.audited = ["request-1","request-1"] ∧ (loggedOf sys.store "run-1").length = 2 ∧
    answeredAsks sys.store "run-1" "request-1" = 1 :=
  ⟨_,_,rfl,.step (.respond rfl) (.single (.respond rfl)),rfl,rfl,by decide⟩

end VaultspecA2A.DecisionLog
