import VaultspecA2A.StarGraph

/-!
# The asks of a plan approval

The approval node names its request by a digest of the run, the worker, the plan and the requests
answered before it. It runs again from its start for every resume value, and finds the same state
each time: the request is recorded once it is answered.

The digest is cut to 32 characters, so it cannot tell all requests apart. It is assumed to do so for
the requests that are answered in the run.
-/
namespace VaultspecA2A.ApprovalAsks
open Runs PyValue SupervisorRouting StarGraph List

def requestMaterial (state : TeamState) : Value := .list
    [.str state.threadId,.str (state.next.getD ""),
      .list (((state.vaultIndex.get "plan").insertionSort (· ≤ ·)).map .str),
      .list ((planApprovalsAsked state).map .str)]

def shortDigest (prims : Primitives) (material : Value) : String :=
  String.ofList ((prims.canonicalDigest material).toList.take 32)

def requestName (prims : Primitives) (material : Value) : String :=
  "plan-approval-" ++ shortDigest prims material

lemma requestName_isEmpty (pr : Primitives) (ma : Value) : (requestName pr ma).isEmpty = false := by
  rw [Bool.eq_false_iff,ne_eq,String.isEmpty_iff]
  intro h
  have hl := congrArg String.length h
  rw [requestName,String.length_append] at hl
  exact absurd hl (by simp)

/-- A step, and the material of the request it answers. -/
structure Visit where
  label : Label
  answers : Option Value

def answeredBy (state : TeamState) : Label → Option Value
  | .decide => some (requestMaterial state)
  | _ => none

def Traced (prims : Primitives) (graph : Graph) (thread : Thread) (visit : Visit)
    (thread' : Thread) : Prop :=
  Move prims graph thread visit.label thread' ∧ visit.answers = answeredBy thread.state visit.label

def answered (visits : List Visit) : List Value := visits.filterMap Visit.answers

def TellsApart (prims : Primitives) (materials : List Value) : Prop :=
  ∀ m ∈ materials, ∀ m' ∈ materials, shortDigest prims m = shortDigest prims m' → m = m'

/-- The requests a material counts as answered before its own. -/
def Precedes (material : Value) (n : ℕ) : Prop :=
  ∃ (run worker paths : Value) (asked : List String),
    material = .list [run,worker,paths,.list (asked.map .str)] ∧ asked.length = n

/-- The invariant: the state records the answered requests, and each of them counted those before
it. -/
structure Recorded (prims : Primitives) (thread : Thread) (materials : List Value) : Prop where
  recorded : thread.state.planApprovalsAsked = materials.map (requestName prims)
  counted : ∀ m ∈ materials, ∃ n < materials.length, Precedes m n
  distinct : (materials.map (requestName prims)).Nodup

section
variable {pr : Primitives} {g : Graph} {th tr : Thread} {vs : Visit}
variable {vi : List Visit} {mt : List Value}

lemma requestName_inj (h : requestName pr m = requestName pr m') :
    shortDigest pr m = shortDigest pr m' := by
  have hl := congrArg String.toList h
  rw [requestName,requestName,String.toList_append,String.toList_append] at hl
  exact String.toList_inj.1 (append_cancel_left hl)

lemma Precedes.unique (h : Precedes ma m) (g : Precedes ma n) : m = n := by
  obtain ⟨_,_,_,ak,rfl,rfl⟩ := h
  obtain ⟨_,_,_,ot,heq,rfl⟩ := g
  injection heq with heq
  simp only [List.cons.injEq,and_true,Value.list.injEq] at heq
  have hl := congrArg List.length heq.2.2.2
  simpa using hl

lemma Recorded.precedes (h : Recorded pr th mt) :
    Precedes (requestMaterial th.state) mt.length := by
  refine ⟨_,_,_,_,rfl,?_⟩
  have hk : planApprovalsAsked th.state = th.state.planApprovalsAsked := by
    rw [planApprovalsAsked,filter_eq_self]
    intro na hn
    rw [h.recorded] at hn
    obtain ⟨ma,-,rfl⟩ := mem_map.1 hn
    rw [requestName_isEmpty]
    rfl
  rw [hk,h.recorded,length_map]

lemma Recorded.fresh (h : Recorded pr th mt)
    (ha : TellsApart pr (mt ++ [requestMaterial th.state])) :
    requestName pr (requestMaterial th.state) ∉ mt.map (requestName pr) := by
  intro hold
  obtain ⟨ma,hm,hna⟩ := mem_map.1 hold
  have hs : ma = requestMaterial th.state :=
    ha ma (mem_append_left _ hm) _ (by simp) (requestName_inj hna)
  obtain ⟨n,hn,hp⟩ := h.counted ma hm
  rw [hs] at hp
  have hl := hp.unique h.precedes
  omega

lemma carriedApproval_asks (sta : TeamState) : (carriedApproval sta).planApprovalsAsked = [] := by
  unfold carriedApproval
  split_ifs <;> rfl

lemma supervisorNode_asks (h : supervisorNode pr ws os sta sc co = .ok update) :
    update.planApprovalsAsked = [] := by
  obtain ⟨de,hd,h⟩ := ThreadLifecycle.bind_ok.1 h
  cases h
  split at hd
  · obtain ⟨_,-,hd⟩ := ThreadLifecycle.bind_ok.1 hd
    cases hd
    dsimp only [acceptedUpdate]
    split_ifs
    · rfl
    · exact carriedApproval_asks _
  · dsimp only [refusedUpdate] at hd
    split_ifs at hd
    cases hd
    exact carriedApproval_asks _

lemma verdictUpdate_asks (pl : PlanApprovalPayload) (ve : ApprovalVerdict) :
    (verdictUpdate g sta pl ve).planApprovalsAsked = [pl.requestId] := by
  unfold verdictUpdate
  split_ifs
  · rfl
  · split <;> rfl

lemma move_asks (h : Move pr g th l tr) :
    tr.state.planApprovalsAsked = mergeUniqueStrs th.state.planApprovalsAsked
      ((answeredBy th.state l).map (requestName pr)).toList := by
  cases h with
  | ingest ip =>
    dsimp only [ingestTurn]
    split_ifs <;> rfl
  | supervise hn _ =>
    rw [TeamState.apply,supervisorNode_asks hn]
    rfl
  | ask _ => rfl
  | askAgain _ => rfl
  | resume value => rfl
  | decide hn _ =>
    unfold planApprovalNode at hn
    dsimp only at hn
    split at hn
    · cases hn
    · rw [TeamState.apply,← Sum.inr.inj hn,verdictUpdate_asks]
      rfl
  | mount wk sc => rfl
  | work wk =>
    dsimp only [TeamState.apply,finalizeWorkerResponse]
    rw [carriedApproval_asks]
    rfl

lemma recorded_move (h : Recorded pr th mt) (hmo : Traced pr g th vs tr)
    (hap : TellsApart pr (mt ++ vs.answers.toList)) :
    Recorded pr tr (mt ++ vs.answers.toList) := by
  obtain ⟨hmo,han⟩ := hmo
  have ha := move_asks hmo
  rw [← han,h.recorded] at ha
  cases hv : vs.answers with
  | none =>
    rw [hv] at ha
    simpa using (⟨ha,h.counted,h.distinct⟩ : Recorded pr tr mt)
  | some ma =>
    obtain rfl : ma = requestMaterial th.state := by
      rw [han] at hv
      cases hl : vs.label with
      | decide =>
        rw [hl] at hv
        exact (Option.some.inj hv).symm
      | _ =>
        rw [hl] at hv
        cases hv
    rw [hv] at ha hap
    have hf := h.fresh hap
    refine ⟨?_,?_,?_⟩
    · rw [ha]
      simp [mergeUniqueStrs,hf]
    · intro m hm
      rcases mem_append.1 hm with hold | hnew
      · obtain ⟨n,hn,hp⟩ := h.counted m hold
        exact ⟨n,by simp; omega,hp⟩
      · rw [Option.toList_some,mem_singleton] at hnew
        exact ⟨mt.length,by simp,hnew ▸ h.precedes⟩
    · rw [map_append,nodup_append]
      refine ⟨h.distinct,by simp,?_⟩
      intro na hna o ho hs
      rw [Option.toList_some,map_singleton,mem_singleton] at ho
      exact hf (ho ▸ hs ▸ hna)

lemma answered_snoc (vi : List Visit) (vs : Visit) :
    answered (vi ++ [vs]) = answered vi ++ vs.answers.toList := by
  rw [answered,filterMap_append]
  cases hv : vs.answers with
  | none => simp [answered,hv]
  | some ma => simp [answered,hv]

lemma recorded_run (hru : Run (Traced pr g) newThread vi th)
    (ha : TellsApart pr (answered vi)) : Recorded pr th (answered vi) := by
  have hre : TellsApart pr (answered ([] ++ vi)) → Recorded pr th (answered ([] ++ vi)) := by
    refine hru.remembers (fun th vi => TellsApart pr (answered vi) →
        Recorded pr th (answered vi)) ?_ fun _ => ⟨rfl,by simp [answered],by simp [answered]⟩
    intro p lg vs q h hmo ht
    rw [answered_snoc] at ht ⊢
    refine recorded_move (h fun m hm m' hm' => ?_) hmo ht
    exact ht m (mem_append_left _ hm) m' (mem_append_left _ hm')
  exact hre ha

end

/-- The labels of a node that is run again before its request is answered. -/
def replays : Label → Bool
  | .ask _ => true
  | .resume _ => true
  | _ => false

section
variable {prims pr : Primitives} {graph g : Graph} {state sta : TeamState} {thread th tr : Thread}
variable {stored st : List Value} {labels ls : List Label}

lemma traced_labels (h : Run (Traced pr g) th vi tr) :
    Run (Move pr g) th (vi.map Visit.label) tr := by
  induction h with
  | done th => exact .done th
  | step hm _ ih => exact .step hm.1 ih

lemma move_ask (h : Move pr g th (.ask rid) tr) :
    rid = (planApprovalPayload pr th.state).requestId ∧ ∃ st, tr = ⟨th.state,.parked st⟩ := by
  cases h with
  | ask hn => exact ⟨by rw [planApprovalNode_inl hn],[],rfl⟩
  | askAgain hn => exact ⟨by rw [planApprovalNode_inl hn],_,rfl⟩

lemma replays_run (hru : Run (Move pr g) th ls tr) (hla : ∀ l ∈ ls, replays l = true)
    (hp : ∃ st, th = ⟨sta,.parked st⟩) :
    ∃ st, tr = ⟨sta,.parked st⟩ := by
  induction hru with
  | done th => exact hp
  | @step th mi _ l ls hm _ ih =>
    refine ih (fun o ho => hla o (mem_cons_of_mem _ ho)) ?_
    obtain ⟨st,rfl⟩ := hp
    have hl := hla l mem_cons_self
    cases hm with
    | askAgain _ => exact ⟨st,rfl⟩
    | resume value => exact ⟨st ++ [value],rfl⟩
    | ingest _ => cases hl
    | decide _ _ => cases hl

lemma replayed_ask (hru : Run (Move pr g) newThread (p ++ .ask ak :: (be ++ .ask ag :: q)) th)
    (hb : ∀ l ∈ be, replays l = true) : ag = ak := by
  obtain ⟨_,-,hasks⟩ := hru.split
  cases hasks with
  | step hask hla =>
    obtain ⟨rfl,hp⟩ := move_ask hask
    obtain ⟨_,hw,hl⟩ := hla.split
    obtain ⟨st,rfl⟩ := replays_run hw hb hp
    cases hl with
    | step ha _ => exact (move_ask ha).1

def Disclosed (prims : Primitives) (thread : Thread) (labels : List Label) : Prop :=
  ∀ stored, thread.position = .parked stored → ∃ before since, labels =
        before ++ .ask (planApprovalPayload prims thread.state).requestId :: since ∧
      ∀ label ∈ since, replays label = true

lemma disclosed_move (h : Disclosed pr th ls)
    (hm : Move pr g th l tr) : Disclosed pr tr (ls ++ [l]) := by
  intro st hpa
  have hw : replays l = true → tr.state = th.state → (∃ st, th.position = .parked st) →
      ∃ p si, ls ++ [l] = p ++ .ask (planApprovalPayload pr tr.state).requestId :: si ∧
        ∀ l ∈ si, replays l = true := by
    rintro hl hst ⟨held,hh⟩
    obtain ⟨p,si,rfl,hs⟩ := h held hh
    refine ⟨p,si ++ [l],by simp [hst],?_⟩
    intro o ho
    rcases mem_append.1 ho with hold | hn
    · exact hs o hold
    · rw [mem_singleton.1 hn]
      exact hl
  cases hm with
  | ingest ip => cases hpa
  | supervise _ hed =>
    obtain ⟨_,-,ht⟩ := follow_ok hed
    rcases supervisorRouteMap_some ht with hp | hp | hp | hp <;>
      exact Position.noConfusion (hpa.symm.trans hp)
  | ask hno =>
    rw [planApprovalNode_inl hno]
    exact ⟨ls,[],rfl,by simp⟩
  | askAgain _ => exact hw rfl rfl ⟨_,rfl⟩
  | resume value => exact hw rfl rfl ⟨_,rfl⟩
  | decide _ hed =>
    obtain ⟨_,-,ht⟩ := follow_ok hed
    rcases planApprovalRouteMap_some ht with hp | hp | hp <;>
      exact Position.noConfusion (hpa.symm.trans hp)
  | mount wk sc => cases hpa
  | work wk => cases hpa

lemma disclosed_run (hru : Run (Move pr g) newThread ls th) : Disclosed pr th ls := by
  have hd : Disclosed pr th ([] ++ ls) :=
    hru.remembers (Disclosed pr) (fun h hm => disclosed_move h hm) fun _ h => by cases h
  simpa using hd

structure Applies (prims : Primitives) (graph : Graph) (state : TeamState) (stored : List Value)
    (state' : TeamState) (value : Value) : Prop where
  first : ∃ before after, stored = before ++ value :: after ∧
    ∀ other ∈ before, namedRequestId other ≠ some (planApprovalPayload prims state).requestId
  named : namedRequestId value = some (planApprovalPayload prims state).requestId
  applied : state' = state.apply (verdictUpdate graph state (planApprovalPayload prims state)
    ⟨(planApprovalPayload prims state).requestId,(value.get "verdict").bind asStr,
      (value.get "notes").bind asStr⟩)

lemma parseApprovalVerdict_toOption : (parseApprovalVerdict value rid).toOption = some ve ↔
    rid.isEmpty = false ∧ namedRequestId value = some rid ∧
      ve = ⟨rid,(value.get "verdict").bind asStr,(value.get "notes").bind asStr⟩ := by
  unfold parseApprovalVerdict
  split_ifs with hre
  · refine iff_of_false (by simp [Except.toOption]) ?_
    rintro ⟨hn,hna,-⟩
    rcases hre with hem | ho
    · rw [hn] at hem
      cases hem
    · exact ho hna
  · push Not at hre
    refine ⟨fun h => ⟨Bool.eq_false_iff.2 hre.1,hre.2,?_⟩,?_⟩
    · exact (Option.some.inj h).symm
    · rintro ⟨-,-,rfl⟩
      rfl

lemma decide_applies (h : Move pr g ⟨sta,.parked st⟩ .decide tr) :
    ∃ value, Applies pr g sta st tr.state value := by
  cases h with
  | decide hn _ =>
    unfold planApprovalNode at hn
    dsimp only at hn
    split at hn
    · cases hn
    · rename_i ve ha
      obtain ⟨p,value,q,hst,hp,hpa⟩ := findSome?_eq_some_iff.1 ha
      obtain ⟨hna,hnam,hv⟩ := parseApprovalVerdict_toOption.1 hp
      refine ⟨value,⟨p,q,hst,?_⟩,hnam,?_⟩
      · intro o ho hs
        have hno := hpa o ho
        rw [parseApprovalVerdict_toOption.2 ⟨hna,hs,rfl⟩] at hno
        cases hno
      · rw [← hv,← Sum.inr.inj hn]

end

/-- The asks of a run: the answered ones have names of their own, one that is replayed before its
answer keeps the name it was disclosed under, and a verdict is applied only to the ask that it
names. -/
structure AsksNamed (prims : Primitives) (graph : Graph) (visits : List Visit) (thread : Thread) :
    Prop where
  distinct : ((answered visits).map (requestName prims)).Nodup
  replayed : ∀ before asked between again after,
    visits.map Visit.label = before ++ .ask asked :: (between ++ .ask again :: after) →
    (∀ label ∈ between, replays label = true) → again = asked
  disclosed : Disclosed prims thread (visits.map Visit.label)
  named : ∀ stored thread', thread.position = .parked stored →
    Move prims graph thread .decide thread' →
    ∃ value, Applies prims graph thread.state stored thread'.state value

/-- In every run of a star, whatever its supervisor replies, its disk holds and its humans answer,
the asks for a plan approval are named apart, provided the digest tells the answered ones apart. -/
theorem asks_named {prims : Primitives} {graph : Graph} {visits : List Visit} {thread : Thread}
    (hrun : Run (Traced prims graph) newThread visits thread)
    (hapart : TellsApart prims (answered visits)) : AsksNamed prims graph visits thread := by
  refine ⟨(recorded_run hrun hapart).distinct,?_,disclosed_run (traced_labels hrun),?_⟩
  · intro before asked between again after hv hb
    have hl := traced_labels hrun
    rw [hv] at hl
    exact replayed_ask hl hb
  · intro stored thread' hp hm
    obtain ⟨state,position⟩ := thread
    obtain rfl : position = .parked stored := hp
    exact decide_applies hm

/-- The functions on plain text, and a digest that tells a first request from a second one. -/
def countingPrimitives : Primitives where
  lower := PyText.lower
  repr := fun text => "'" ++ text ++ "'"
  canonicalDigest
    | .list [_,_,_,.list []] => "0"
    | _ => "1"

def verdictOn (requestId verdict : String) : Value :=
  .dict [(.str "verdict",.str verdict),(.str "request_id",.str requestId)]

def coderMaterial (asked : List String) : Value :=
  .list [.str "thread",.str "coder",.list [.str "plan.md"],.list (asked.map .str)]

/-- A plan that is rejected and asked for again; the second ask is first handed the verdict on the
first one. -/
def rejectedPlan : List Visit :=
  [⟨.ingest coderTurn,none⟩,⟨.supervise "coder" ⟨[]⟩,none⟩,⟨.ask "plan-approval-0",none⟩,
    ⟨.resume (verdictOn "plan-approval-0" "rejected"),none⟩,⟨.decide,some (coderMaterial [])⟩,
    ⟨.supervise "coder" ⟨[]⟩,none⟩,⟨.ask "plan-approval-1",none⟩,
    ⟨.resume (verdictOn "plan-approval-0" "approved"),none⟩,⟨.ask "plan-approval-1",none⟩,
    ⟨.resume (verdictOn "plan-approval-1" "approved"),none⟩,
    ⟨.decide,some (coderMaterial ["plan-approval-0"])⟩]

theorem asks_named_rejected : ∃ thread,
    Run (Traced countingPrimitives coderGraph) newThread rejectedPlan thread ∧
      (answered rejectedPlan).map (requestName countingPrimitives) =
        ["plan-approval-0","plan-approval-1"] ∧
      AsksNamed countingPrimitives coderGraph rejectedPlan thread := by
  obtain ⟨thread,hru⟩ : ∃ thread,
      Run (Traced countingPrimitives coderGraph) newThread rejectedPlan thread := by
    constructor
    apply Run.step ⟨.ingest _,rfl⟩
    apply Run.step ⟨.supervise rfl rfl,rfl⟩
    apply Run.step ⟨.ask rfl,rfl⟩
    apply Run.step ⟨.resume _,rfl⟩
    apply Run.step ⟨.decide rfl rfl,rfl⟩
    apply Run.step ⟨.supervise rfl rfl,rfl⟩
    apply Run.step ⟨.ask rfl,rfl⟩
    apply Run.step ⟨.resume _,rfl⟩
    apply Run.step ⟨@Move.askAgain _ _ _ _
      ⟨⟨some "search",["plan.md"],"coder"⟩,"plan-approval-1"⟩ rfl,rfl⟩
    apply Run.step ⟨.resume _,rfl⟩
    apply Run.single ⟨.decide rfl rfl,rfl⟩
  have hap : TellsApart countingPrimitives (answered rejectedPlan) := by
    have ha : answered rejectedPlan = [coderMaterial [],coderMaterial ["plan-approval-0"]] := rfl
    have hd : shortDigest countingPrimitives (coderMaterial []) ≠
      shortDigest countingPrimitives (coderMaterial ["plan-approval-0"]) := by decide
    rw [ha]
    intro m hm m' hm' hs
    simp only [mem_cons,not_mem_nil,or_false] at hm hm'
    rcases hm with rfl | rfl <;> rcases hm' with rfl | rfl
    · rfl
    · exact absurd hs hd
    · exact absurd hs.symm hd
    · rfl
  exact ⟨thread,hru,rfl,asks_named hru hap⟩

end VaultspecA2A.ApprovalAsks
