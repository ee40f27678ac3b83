import VaultspecA2A.StarGraph

/-!
# The budgets of a supervisor

A decision of the supervisor is refused, is an end of the run that the completion gate blocked and
that goes to a worker instead, or is accepted. Refused decisions in a row are counted by one budget
and blocked ends by another. A refused decision leaves the count of blocked ends alone, a blocked
end sets the count of refusals back, and an accepted decision sets both back. So the decisions that
are not accepted are bounded by a product of the two budgets: what remains of them is the measure
below.

Nothing is assumed of what happens between two decisions but that the two counts are left alone, as
every node of a star but the supervisor does. A new turn of the user sets both counts back.
-/
namespace VaultspecA2A.SupervisorBudgets
open PyText SupervisorRouting StarGraph List

section
variable (prims : Primitives) (workers : List String) (options : SupervisorOptions)
variable (state : TeamState) (scan : VaultIndex) (content : String)

def decisionOf : SupervisorDecision :=
  evaluateSupervisorResponse prims (refreshed options state scan) (strip content) workers
    options.workerPhaseMap options.autonomous

/-- The reply is the end of the run, and the completion gate blocks it. -/
def FinishBlocked : Prop :=
  parseRoute prims (strip content) (workers ++ [finishRoute]) = .ok finishRoute ∧
    (checkFinishBlocked (refreshed options state scan) workers
      (inferPhaseFromVaultIndex (refreshed options state scan).vaultIndex)
      options.workerPhaseMap).isSome

end

/-- A decision that is neither refused nor the reroute of a blocked end. -/
def Accepted (decision : SupervisorDecision) : Prop :=
  decision.refused = false ∧ decision.blocksFinish = false

section
variable {pr : Primitives} {ws : List String} {os : SupervisorOptions}
variable {state st : TeamState} {sc : VaultIndex} {co : String}
variable {ph : WorkerPhaseMap} {au : Bool} {rt ip : String}
variable {decision d bl : SupervisorDecision}

lemma phaseGateDecision_blocksFinish (h : phaseGateDecision st rt ip ph = some d) :
    d.blocksFinish = false := by
  unfold phaseGateDecision at h
  split at h
  · cases h
  · split at h
    · cases h
    · dsimp only at h
      split_ifs at h <;> cases h <;> rfl

lemma planApprovalDecision_blocksFinish (h : planApprovalDecision st rt ph au = some d) :
    d.blocksFinish = false := by
  unfold planApprovalDecision at h
  split_ifs at h
  cases h
  rfl

lemma routeDecision_unblocked : (routeDecision st ip ph au rt none).blocksFinish = false := by
  unfold routeDecision gatedDecision
  cases hgat : phaseGateDecision st rt ip ph with
  | none =>
    cases ha : planApprovalDecision st rt ph au with
    | none => rfl
    | some ak => exact planApprovalDecision_blocksFinish ha
  | some ga =>
    have hga := phaseGateDecision_blocksFinish hgat
    cases hre : ga.refused with
    | true => simpa [hre,carryingFinishBlock] using hga
    | false =>
      cases ha : planApprovalDecision st rt ph au with
      | none => simpa [hre,carryingFinishBlock] using hga
      | some ak =>
        simpa [hre,carryingFinishBlock] using planApprovalDecision_blocksFinish ha

lemma carryingFinishBlock_marked : (carryingFinishBlock d (some bl)).refused = true ∨
    (carryingFinishBlock d (some bl)).blocksFinish = true := by
  unfold carryingFinishBlock
  dsimp only
  split_ifs with hre
  · exact .inl hre
  · exact .inr rfl

/-- Whichever gate the reroute of a blocked end meets, it is refused or keeps the mark. -/
lemma routeDecision_marked (hb : bl.blocksFinish = true) :
    (routeDecision st ip ph au rt (some bl)).refused = true ∨
      (routeDecision st ip ph au rt (some bl)).blocksFinish =
        true := by
  unfold routeDecision gatedDecision
  cases hga : phaseGateDecision st rt ip ph with
  | none =>
    cases ha : planApprovalDecision st rt ph au with
    | none => exact .inr hb
    | some ak => exact carryingFinishBlock_marked
  | some ga =>
    cases hre : ga.refused with
    | true =>
      left
      simp [hre,carryingFinishBlock_refused]
    | false =>
      cases ha : planApprovalDecision st rt ph au with
      | none => simpa [hre] using carryingFinishBlock_marked
      | some ak => simpa [hre] using carryingFinishBlock_marked

lemma checkFinishBlocked_marked (h : checkFinishBlocked st ws ip ph = some bl)
    (hf : bl.refused = false) : bl.blocksFinish = true := by
  have hm : ∀ re ta, (blockedFinishDecision re ta ws ip ph).refused = false →
      (blockedFinishDecision re ta ws ip ph).blocksFinish = true := by
    intro re ta
    unfold blockedFinishDecision
    split <;> simp
  unfold checkFinishBlocked at h
  split_ifs at h <;> cases h
  · exact hm _ _ hf
  · exact hm _ _ hf

lemma not_accepted_iff : ¬ Accepted (decisionOf pr ws os st sc co) ↔
    (decisionOf pr ws os st sc co).refused = true ∨ FinishBlocked pr ws os st sc co := by
  have hs : ¬ Accepted (decisionOf pr ws os st sc co) ↔
      (decisionOf pr ws os st sc co).refused = true ∨
        (decisionOf pr ws os st sc co).blocksFinish = true := by
    rw [Accepted,not_and_or,Bool.not_eq_false,Bool.not_eq_false]
  rw [hs]
  unfold decisionOf FinishBlocked evaluateSupervisorResponse
  cases hp : parseRoute pr (strip co) (ws ++ [finishRoute]) with
  | error re => simp
  | ok rt =>
    dsimp only
    by_cases hf : rt = finishRoute
    · subst hf
      rw [if_pos rfl]
      cases hb : checkFinishBlocked (refreshed os st sc) ws
          (inferPhaseFromVaultIndex (refreshed os st sc).vaultIndex)
          os.workerPhaseMap with
      | none => simp [routeDecision_unblocked]
      | some bl =>
        refine iff_of_true ?_ (.inr ⟨rfl,rfl⟩)
        dsimp only
        split
        · rename_i hfo _
          exact routeDecision_marked (checkFinishBlocked_marked hb hfo)
        · rename_i hn
          cases hre : bl.refused with
          | true => exact .inl rfl
          | false => exact .inr (checkFinishBlocked_marked hb hre)
    · rw [if_neg hf]
      simp [routeDecision_unblocked,hf]

inductive Counted (limits : RoutingLimits) (state : TeamState) (decision : SupervisorDecision) :
    Except GraphError Update → Prop
  | again (update : Update) (refused : decision.refused = true)
      (room : state.supervisorReasks + 1 ≤ limits.supervisorReaskLimit)
      (reasks : update.supervisorReasks = some (state.supervisorReasks + 1))
      (blocks : update.supervisorFinishBlocks = none) : Counted limits state decision (.ok update)
  | blocked (update : Update) (followed : decision.refused = false)
      (marked : decision.blocksFinish = true)
      (room : state.supervisorFinishBlocks + 1 ≤ limits.supervisorFinishBlockLimit)
      (reasks : update.supervisorReasks = some 0)
      (blocks : update.supervisorFinishBlocks = some (state.supervisorFinishBlocks + 1)) :
      Counted limits state decision (.ok update)
  | accepted (update : Update) (accepted : Accepted decision)
      (reasks : update.supervisorReasks = some 0)
      (blocks : update.supervisorFinishBlocks = some 0) : Counted limits state decision (.ok update)
  | exhausted (reason : String) (attempts : ℕ) (unaccepted : ¬ Accepted decision) :
      Counted limits state decision (.error (.supervisorRouting reason attempts))

lemma carriedApproval_supervisorFinishBlocks :
    (carriedApproval st).supervisorFinishBlocks = none := by
  unfold carriedApproval
  split_ifs <;> rfl

lemma supervisorNode_counted : Counted os.limits st (decisionOf pr ws os st sc co)
    (supervisorNode pr ws os st sc co) := by
  have hro := @evaluateSupervisorResponse_admits pr ws (refreshed os st sc)
    os.workerPhaseMap os.autonomous (strip co)
  unfold supervisorNode decisionOf
  dsimp only
  generalize evaluateSupervisorResponse pr (refreshed os st sc) (strip co) ws
    os.workerPhaseMap os.autonomous = d at hro ⊢
  cases hre : d.refused with
  | true =>
    dsimp only
    unfold refusedUpdate
    dsimp only
    split_ifs with ho
    · exact .exhausted _ _ (by simp [Accepted,hre])
    · exact .again _ hre (Nat.le_of_not_lt ho) rfl carriedApproval_supervisorFinishBlocks
  | false =>
    obtain ⟨rt,ha⟩ := hro hre
    rw [ha.goes]
    dsimp only
    cases hm : d.blocksFinish with
    | true =>
      rw [if_pos rfl]
      unfold spendFinishBlock
      dsimp only
      split_ifs with ho
      · exact .exhausted _ _ (by simp [Accepted,hm])
      · exact .blocked _ hre hm (Nat.le_of_not_lt ho) rfl rfl
    | false =>
      rw [if_neg (by simp)]
      exact .accepted _ ⟨hre,hm⟩ rfl rfl

end

structure Counters where
  reasks : ℕ
  blocks : ℕ
deriving DecidableEq, Repr

/-- What a decision is made on, apart from the counts. -/
structure Ask where
  state : TeamState
  scan : VaultIndex
  content : String

def carrying (counters : Counters) (state : TeamState) : TeamState :=
  { state with
    supervisorReasks := counters.reasks
    supervisorFinishBlocks := counters.blocks }

def countersOf (state : TeamState) : Counters :=
  ⟨state.supervisorReasks,state.supervisorFinishBlocks⟩

lemma Counted.spends (h : Counted li st d (.ok update)) (hu : ¬ Accepted d) :
    (d.refused = true ∧ st.supervisorReasks + 1 ≤ li.supervisorReaskLimit ∧
        countersOf (st.apply update) = ⟨st.supervisorReasks + 1,st.supervisorFinishBlocks⟩) ∨
      (d.refused = false ∧ st.supervisorFinishBlocks + 1 ≤ li.supervisorFinishBlockLimit ∧
        countersOf (st.apply update) = ⟨0,st.supervisorFinishBlocks + 1⟩) := by
  cases h with
  | again _ href hro hre hb =>
    left
    refine ⟨href,hro,?_⟩
    simp [countersOf,TeamState.apply,hre,hb]
  | blocked _ hf _ hro hre hb =>
    right
    refine ⟨hf,hro,?_⟩
    simp [countersOf,TeamState.apply,hre,hb]
  | accepted _ ha => exact (hu ha).elim

section
variable (prims : Primitives) (workers : List String) (options : SupervisorOptions)

def decideOnce (counters : Counters) (ask : Ask) : Except GraphError Counters :=
  (supervisorNode prims workers options (carrying counters ask.state) ask.scan ask.content).map
    fun update => countersOf ((carrying counters ask.state).apply update)

/-- Decisions one after the other: how many return, and what the next one raises. -/
def decideAll : Counters → List Ask → ℕ × Option GraphError
  | _, [] => (0,none)
  | counters, ask :: asks =>
    match decideOnce prims workers options counters ask with
    | .error error => (0,some error)
    | .ok next => ((decideAll next asks).1 + 1,(decideAll next asks).2)

/-- The decision is refused or is a blocked end. -/
def Unaccepted (ask : Ask) : Prop :=
  (decisionOf prims workers options ask.state ask.scan ask.content).refused = true ∨
    FinishBlocked prims workers options ask.state ask.scan ask.content

end

/-- What can still be spent on decisions that are not accepted, where a refused one costs one and a
blocked end costs `price`. -/
def remaining (limits : RoutingLimits) (price : ℕ) (counters : Counters) : ℕ :=
  (limits.supervisorFinishBlockLimit - counters.blocks) * (limits.supervisorReaskLimit + price) +
    (limits.supervisorReaskLimit - counters.reasks)

section
variable {li : RoutingLimits} {pr re bl : ℕ}

lemma remaining_le (co : Counters) : remaining li pr co ≤ pr * li.supervisorFinishBlockLimit +
    li.supervisorReaskLimit * (li.supervisorFinishBlockLimit + 1) := by
  obtain ⟨rl,bl⟩ := li
  have hb : (bl - co.blocks) * (rl + pr) ≤ bl * (rl + pr) := Nat.mul_le_mul_right _ (Nat.sub_le _ _)
  have ht : pr * bl + rl * (bl + 1) = bl * (rl + pr) + rl := by
    rw [Nat.mul_add,Nat.mul_add,Nat.mul_comm pr,Nat.mul_comm rl]
    omega
  unfold remaining
  dsimp only
  rw [ht]
  omega

lemma remaining_reask (h : re + 1 ≤ li.supervisorReaskLimit) :
    remaining li pr ⟨re + 1,bl⟩ + 1 = remaining li pr ⟨re,bl⟩ := by
  unfold remaining
  dsimp only
  omega

lemma remaining_block (h : bl + 1 ≤ li.supervisorFinishBlockLimit) :
    remaining li pr ⟨0,bl + 1⟩ + pr ≤ remaining li pr ⟨re,bl⟩ := by
  obtain ⟨r,hre⟩ := Nat.exists_eq_add_of_le h
  have hb : li.supervisorFinishBlockLimit - bl = r + 1 := by omega
  have ha : li.supervisorFinishBlockLimit - (bl + 1) = r := by omega
  unfold remaining
  dsimp only
  rw [hb,ha,Nat.add_one_mul]
  omega

end

section
variable {pr : Primitives} {ws : List String} {os : SupervisorOptions}
variable {co ne : Counters} {ask : Ask} {asks : List Ask}

lemma Unaccepted.not_accepted (h : Unaccepted pr ws os ask) :
    ¬ Accepted (decisionOf pr ws os (carrying co ask.state) ask.scan
      ask.content) := not_accepted_iff.2 h

lemma decideOnce_ok (h : Unaccepted pr ws os ask) (hn : decideOnce pr ws os co ask = .ok ne) :
    remaining os.limits 1 ne + 1 ≤ remaining os.limits 1 co := by
  have hc := @supervisorNode_counted pr ws os (carrying co ask.state) ask.scan ask.content
  unfold decideOnce at hn
  generalize supervisorNode pr ws os (carrying co ask.state) ask.scan ask.content = result at hc hn
  cases result with
  | error error => cases hn
  | ok update =>
    have hco : countersOf ((carrying co ask.state).apply update) = ne := Except.ok.inj hn
    rcases hc.spends h.not_accepted with ⟨-,hro,hs⟩ | ⟨-,hro,hs⟩
    · rw [← hco,hs]
      exact (remaining_reask hro).le
    · rw [← hco,hs]
      exact remaining_block hro

lemma decideOnce_error (her : decideOnce pr ws os co ask = .error er) :
    ∃ re att, er = .supervisorRouting re att := by
  have hc := @supervisorNode_counted pr ws os (carrying co ask.state) ask.scan ask.content
  unfold decideOnce at her
  generalize supervisorNode pr ws os (carrying co ask.state) ask.scan ask.content = result at hc her
  cases hc with
  | again => cases her
  | blocked => cases her
  | accepted => cases her
  | exhausted re att =>
    cases her
    exact ⟨re,att,rfl⟩

lemma decideAll_bounded (h : ∀ ask ∈ asks, Unaccepted pr ws os ask) :
    (decideAll pr ws os co asks).1 ≤ remaining os.limits 1 co := by
  induction asks generalizing co with
  | nil => exact Nat.zero_le _
  | cons ask asks ih =>
    unfold decideAll
    cases hre : decideOnce pr ws os co ask with
    | error error => exact Nat.zero_le _
    | ok ne =>
      have hs := decideOnce_ok (h ask (by simp)) hre
      have hres := @ih ne fun o ho => h o (by simp [ho])
      dsimp only
      omega

lemma decideAll_raises (h : (decideAll pr ws os co asks).1 < asks.length) :
    ∃ re att, (decideAll pr ws os co asks).2 = some (.supervisorRouting re att) := by
  induction asks generalizing co with
  | nil => simp at h
  | cons ask asks ih =>
    unfold decideAll at h ⊢
    cases hre : decideOnce pr ws os co ask with
    | error error =>
      obtain ⟨re,att,rfl⟩ := decideOnce_error hre
      exact ⟨re,att,rfl⟩
    | ok ne =>
      rw [hre] at h
      exact ih (by simpa using h)

lemma refused_returns {co : String} (hre : (decisionOf pr ws os st sc co).refused = true)
    (hn : supervisorNode pr ws os st sc co = .ok update) :
    follow routeFromSupervisor (supervisorRouteMap g) (st.apply update) = .ok .supervisor := by
  have hc := @supervisorNode_counted pr ws os st sc co
  rw [hn] at hc
  cases hc with
  | again _ _ _ hrea =>
    have hask : (st.apply update).supervisorReasks ≠ 0 := by
      rw [TeamState.apply,hrea]
      simp
    have hro : routeFromSupervisor (st.apply update) = .ok "supervisor" := by
      rw [routeFromSupervisor,if_pos hask]
    exact follow_of hro rfl
  | blocked _ hf => simp [hre] at hf
  | accepted _ ha => simp [Accepted,hre] at ha

lemma finishBlocked_counted {co : String} (hb : FinishBlocked pr ws os st sc co)
    (hn : supervisorNode pr ws os st sc co = .ok update) :
    update.supervisorReasks = some (st.supervisorReasks + 1) ∨
      update.supervisorFinishBlocks = some (st.supervisorFinishBlocks + 1) := by
  have hc := @supervisorNode_counted pr ws os st sc co
  rw [hn] at hc
  cases hc with
  | again _ _ _ hre => exact .inl hre
  | blocked _ _ _ _ _ hbl => exact .inr hbl
  | accepted _ ha => exact (not_accepted_iff.2 (.inr hb) ha).elim

end

def Label.counts : Label → Prop
  | .ingest _ => True
  | .supervise _ _ => True
  | _ => False

lemma countersOf_verdictUpdate :
    countersOf (st.apply (verdictUpdate g st pl ve)) = countersOf st := by
  unfold verdictUpdate
  split_ifs
  · rfl
  · dsimp only
    split <;> rfl

lemma countersOf_finalizeWorkerResponse :
    countersOf (st.apply (finalizeWorkerResponse g st wk)) = countersOf st := by
  unfold finalizeWorkerResponse carriedApproval
  split_ifs <;> rfl

lemma countersOf_move (hm : Move pr g tr l th) (ho : ¬ Label.counts l) :
    countersOf th.state = countersOf tr.state := by
  cases hm with
  | ingest => exact (ho trivial).elim
  | supervise => exact (ho trivial).elim
  | ask => rfl
  | askAgain => rfl
  | resume => rfl
  | decide hn =>
    unfold planApprovalNode at hn
    dsimp only at hn
    split at hn
    · cases hn
    · cases hn
      exact countersOf_verdictUpdate
  | mount => rfl
  | work => exact countersOf_finalizeWorkerResponse

/-- For every pair of limits and whatever the state between the decisions: of decisions in a row
that are each refused or a blocked end, at most `F + R * (F + 1)` return, and the next one raises the
routing error. A blocked end that returns is counted, whichever gate its reroute meets, and a refused
decision is never followed to a worker. Between two decisions of a turn a star leaves the counts
alone. -/
theorem unaccepted_decisions_bounded (prims : Primitives) (workers : List String)
    (options : SupervisorOptions) :
    (∀ counters asks, (∀ ask ∈ asks, Unaccepted prims workers options ask) →
      (decideAll prims workers options counters asks).1 ≤
          options.limits.supervisorFinishBlockLimit + options.limits.supervisorReaskLimit *
            (options.limits.supervisorFinishBlockLimit + 1) ∧
        ((decideAll prims workers options counters asks).1 < asks.length →
          ∃ reason attempts, (decideAll prims workers options counters asks).2 =
            some (.supervisorRouting reason attempts))) ∧
    (∀ state scan content update, FinishBlocked prims workers options state scan content →
      supervisorNode prims workers options state scan content = .ok update →
      update.supervisorReasks = some (state.supervisorReasks + 1) ∨
        update.supervisorFinishBlocks = some (state.supervisorFinishBlocks + 1)) ∧
    (∀ graph state scan content update,
      (decisionOf prims workers options state scan content).refused = true →
      supervisorNode prims workers options state scan content = .ok update →
      follow routeFromSupervisor (supervisorRouteMap graph) (state.apply update) =
        .ok .supervisor) ∧
    ∀ graph thread label thread', Move prims graph thread label thread' → ¬ Label.counts label →
      countersOf thread'.state = countersOf thread.state := by
  refine ⟨?_,fun _ _ _ _ => finishBlocked_counted,fun _ _ _ _ _ => refused_returns,
    fun _ _ _ _ => countersOf_move⟩
  intro counters asks ha
  refine ⟨?_,decideAll_raises⟩
  have hb := @decideAll_bounded prims workers options counters asks ha
  have hle := @remaining_le options.limits 1 counters
  omega

def reviewerOptions (limits : RoutingLimits) : SupervisorOptions :=
  ⟨⟨[("reviewer",.audit)]⟩,false,true,limits⟩

def unreviewed : TeamState where
  activeFeature := some "search"
  vaultIndex := ⟨[("exec",["step.md"])]⟩

/-- With one re-ask and one block, three decisions return and the fourth raises. -/
theorem unaccepted_decisions_bounded_reviewer :
    (∀ ask ∈ ["no idea","FINISH","no idea","FINISH"].map (Ask.mk unreviewed ⟨[]⟩),
      Unaccepted plainPrimitives ["reviewer"] (reviewerOptions ⟨1,1⟩) ask) ∧
    (decideAll plainPrimitives ["reviewer"] (reviewerOptions ⟨1,1⟩) ⟨0,0⟩
      (["no idea","FINISH","no idea","FINISH"].map (Ask.mk unreviewed ⟨[]⟩))).1 = 3 ∧
    ∃ reason attempts, (decideAll plainPrimitives ["reviewer"] (reviewerOptions ⟨1,1⟩) ⟨0,0⟩
      (["no idea","FINISH","no idea","FINISH"].map (Ask.mk unreviewed ⟨[]⟩))).2 =
        some (.supervisorRouting reason attempts) := by
  have hasks : ∀ ask ∈ ["no idea","FINISH","no idea","FINISH"].map (Ask.mk unreviewed ⟨[]⟩),
      Unaccepted plainPrimitives ["reviewer"] (reviewerOptions ⟨1,1⟩) ask := by
    intro ask ha
    simp only [map_cons,map_nil,mem_cons,not_mem_nil,or_false] at ha
    rcases ha with rfl | rfl | rfl | rfl
    · exact .inl rfl
    · exact .inr ⟨rfl,rfl⟩
    · exact .inl rfl
    · exact .inr ⟨rfl,rfl⟩
  have hre : (decideAll plainPrimitives ["reviewer"] (reviewerOptions ⟨1,1⟩) ⟨0,0⟩
      (["no idea","FINISH","no idea","FINISH"].map (Ask.mk unreviewed ⟨[]⟩))).1 = 3 := rfl
  obtain ⟨hs,-⟩ := unaccepted_decisions_bounded plainPrimitives ["reviewer"] (reviewerOptions ⟨1,1⟩)
  exact ⟨hasks,hre,(hs _ _ hasks).2 (by rw [hre]; decide)⟩

end VaultspecA2A.SupervisorBudgets
