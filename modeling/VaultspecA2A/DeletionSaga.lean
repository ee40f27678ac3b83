import VaultspecA2A.Runs
import VaultspecA2A.Database

/-!
# The deletion saga

A deleted run is torn down by cleanup passes over one durable saga row: a pass
claims the row, executes the items of the manifest that were not done at the
claim, records each result in the ledger, and finalizes. The claim is a stamp
that lapses after a lease; it does not say which pass took it. Finalization of
an unsettled manifest clears the stamp, whoever set it.

The system below runs any number of passes. A pass may stall for any time between two of its
steps, or die in the middle. External removals succeed or fail as the environment decides.
-/
namespace VaultspecA2A.DeletionSaga
open Runs Database

inductive CleanupKind
  | checkpoint
  | artifactFile
deriving DecidableEq, Repr

inductive CleanupItemState
  | pending
  | done
  | failed
  | abandoned
deriving DecidableEq, Repr

structure CleanupItem where
  kind : CleanupKind
  key : String
  target : String
  root : Option String
deriving DecidableEq, Repr

structure CleanupItemResult where
  key : String
  state : CleanupItemState
  detail : Option String
  attempts : ℕ
deriving DecidableEq, Repr

/-- The result ledger: entries by key, in the order of their first recording. -/
abbrev Results := List (String × CleanupItemResult)

def getResult (results : Results) (key : String) : Option CleanupItemResult :=
  (results.find? fun e => e.1 == key).map Prod.snd

def putResult (key : String) (result : CleanupItemResult) : Results → Results
  | [] => [(key,result)]
  | e :: rest => if e.1 == key then (key,result) :: rest else e :: putResult key result rest

structure ThreadDeletionSagaModel where
  claimedAt : Option Instant
  manifest : List CleanupItem
  results : Results
deriving DecidableEq, Repr

def maxCleanupAttempts : ℕ := 3

def deletionSagaClaimLease : Instant := 5 * 60 * second

/-- The ledger entry a reported result produces, or nothing for a no-op. -/
def recordFor (prior : Option CleanupItemResult) (result : CleanupItemResult) :
    Option CleanupItemResult :=
  if result.state = .done then
    match prior with
    | some p =>
      if p.state = .done ∧ p.detail = result.detail then none
      else some ⟨result.key,.done,result.detail,p.attempts⟩
    | none => some ⟨result.key,.done,result.detail,0⟩
  else
    let priorAttempts :=
      match prior with
      | some p => if p.state = .failed ∨ p.state = .abandoned then p.attempts else 0
      | none => 0
    let attempts := priorAttempts + 1
    let state := if maxCleanupAttempts ≤ attempts then CleanupItemState.abandoned else .failed
    some ⟨result.key,state,result.detail,attempts⟩

def manifestIsComplete (manifest : List CleanupItem) (results : Results) : Bool :=
  manifest.all fun item => ((getResult results item.key).map CleanupItemResult.state) == some .done

def settledItems (results : Results) : List CleanupItem → Option (List CleanupItemResult)
  | [] => some []
  | item :: rest =>
    match getResult results item.key with
    | none => none
    | some result =>
      if result.state = .abandoned then (settledItems results rest).map (result :: ·)
      else if result.state ≠ .done then none
      else settledItems results rest

def abandonedItems (manifest : List CleanupItem) (results : Results) :
    Option (List CleanupItemResult) :=
  if manifestIsComplete manifest results then some [] else settledItems results manifest

def distinctAbandonedKinds (manifest : List CleanupItem) (abandoned : List CleanupItemResult) :
    List CleanupKind :=
  manifest.foldl (fun kinds item =>
    if item.key ∈ abandoned.map CleanupItemResult.key ∧ item.kind ∉ kinds then kinds ++ [item.kind]
    else kinds) []

structure FinalizeOutcome where
  finalized : Bool
  alreadyFinal : Bool := false
  abandoned : List CleanupItemResult := []
  abandonedKinds : List CleanupKind := []
deriving DecidableEq, Repr

/-- A claim nobody holds or that is older than the lease. -/
def claimable (row : ThreadDeletionSagaModel) (now : Instant) : Bool :=
  row.claimedAt.isNone || row.claimedAt.any (· < now - deletionSagaClaimLease)

/-- Stamp the claim and report whether this call won it; nothing without a row. -/
def claimDeletionSaga (saga : Option ThreadDeletionSagaModel) (now : Instant) :
    Option ThreadDeletionSagaModel × Option (ThreadDeletionSagaModel × Bool) :=
  match saga with
  | none => (none,none)
  | some row =>
    if claimable row now then
      let claimed := { row with claimedAt := some now }
      (some claimed,some (claimed,true))
    else (some row,some (row,false))

/-- Advance one item to its recorded state. The write transaction holds the store,
so the swap finds the ledger it read. -/
def advanceDeletionCleanupItem (saga : Option ThreadDeletionSagaModel)
    (result : CleanupItemResult) : Option ThreadDeletionSagaModel × Bool :=
  match saga with
  | none => (none,false)
  | some row =>
    match recordFor (getResult row.results result.key) result with
    | none => (some row,false)
    | some record => (some { row with results := putResult record.key record row.results },true)

def finalizeDeletionSaga (saga : Option ThreadDeletionSagaModel) :
    Option ThreadDeletionSagaModel × FinalizeOutcome :=
  match saga with
  | none => (none,{ finalized := true, alreadyFinal := true })
  | some row =>
    match abandonedItems row.manifest row.results with
    | none => (some { row with claimedAt := none },{ finalized := false })
    | some abandoned =>
      (none,{ finalized := true, abandoned := abandoned
              abandonedKinds := distinctAbandonedKinds row.manifest abandoned })

def outstanding (row : ThreadDeletionSagaModel) : List CleanupItem :=
  row.manifest.filter fun item =>
    ((getResult row.results item.key).map CleanupItemResult.state) != some .done

inductive Pass
  | idle
  | driving (claimedAt : Instant) (todo : List CleanupItem)
  | ended
deriving DecidableEq, Repr

structure System where
  saga : Option ThreadDeletionSagaModel
  now : Instant
  pass : ℕ → Pass

inductive Act
  | claim (p : ℕ)
  | advance (p : ℕ) (cleaned : Bool) (detail : Option String)
  | finalize (p : ℕ)
  | die (p : ℕ)
  | tick (later : ℕ)
deriving DecidableEq, Repr

def System.set (σ : System) (p : ℕ) (state : Pass) : System :=
  { σ with pass := Function.update σ.pass p state }

/-- One step of one pass, or of the clock. A pass reads the clock once, in the write
transaction of its claim. -/
inductive Move : System → Act → System → Prop
  | owned {σ : System} {p : ℕ} {saga : Option ThreadDeletionSagaModel}
      {row : ThreadDeletionSagaModel} :
      σ.pass p = .idle → claimDeletionSaga σ.saga σ.now = (saga,some (row,true)) →
      Move σ (.claim p) ({ σ with saga := saga }.set p (.driving σ.now (outstanding row)))
  | passed {σ : System} {p : ℕ} {saga : Option ThreadDeletionSagaModel}
      {answer : Option (ThreadDeletionSagaModel × Bool)} :
      σ.pass p = .idle → claimDeletionSaga σ.saga σ.now = (saga,answer) →
      answer.any Prod.snd = false → Move σ (.claim p) ({ σ with saga := saga }.set p .ended)
  | advance {σ : System} {p : ℕ} {c : Instant} {item : CleanupItem} {rest : List CleanupItem}
      {cleaned : Bool} {detail : Option String} :
      σ.pass p = .driving c (item :: rest) →
      Move σ (.advance p cleaned detail)
        ({ σ with saga := (advanceDeletionCleanupItem σ.saga
            ⟨item.key,if cleaned then .done else .failed,detail,0⟩).1 }.set p (.driving c rest))
  | finalize {σ : System} {p : ℕ} {c : Instant} :
      σ.pass p = .driving c [] →
      Move σ (.finalize p) ({ σ with saga := (finalizeDeletionSaga σ.saga).1 }.set p .ended)
  | die {σ : System} {p : ℕ} {c : Instant} {todo : List CleanupItem} :
      σ.pass p = .driving c todo → Move σ (.die p) (σ.set p .ended)
  | tick {σ : System} {later : ℕ} : Move σ (.tick later) { σ with now := σ.now + later }

def Act.actor : Act → Option ℕ
  | .claim p | .advance p _ _ | .finalize p | .die p => some p
  | .tick _ => none

def claimOf (saga : Option ThreadDeletionSagaModel) : Option Instant :=
  saga.bind ThreadDeletionSagaModel.claimedAt

/-- The pass drives the manifest on a claim it took at `c`, which has not lapsed. -/
def InLease (σ : System) (p : ℕ) (c : Instant) : Prop :=
  (∃ todo, σ.pass p = .driving c todo) ∧ σ.now ≤ c + deletionSagaClaimLease

/-- No step leaves two passes inside their leases, and none takes away the unexpired
claim of another pass. -/
structure Excludes (σ : System) (a : Act) (τ : System) : Prop where
  single : ∀ {p q : ℕ} {c d : Instant}, InLease τ p c → InLease τ q d → p = q
  keeps : ∀ {q : ℕ} {c : Instant}, InLease σ q c → claimOf σ.saga = some c → a.actor ≠ some q →
    claimOf τ.saga = some c

/-- A pass finalizes inside its own lease, or while no pass is inside its lease. -/
def FinalizesInTime (σ : System) (a : Act) : Prop :=
  ∀ p, a = .finalize p → (∃ c, InLease σ p c) ∨ ∀ q c, ¬ InLease σ q c

/-- A pass inside its lease is alone there and the row carries its claim. -/
structure Exclusive (σ : System) : Prop where
  recorded : ∀ {p : ℕ} {c : Instant}, InLease σ p c → claimOf σ.saga = some c
  single : ∀ {p q : ℕ} {c d : Instant}, InLease σ p c → InLease σ q d → p = q

lemma claimDeletionSaga_owned (h : claimDeletionSaga sa now = (sg,some (row,true))) :
    claimOf sg = some now ∧ ∀ c, claimOf sa = some c → c + deletionSagaClaimLease < now := by
  cases sa with
  | none => cases h
  | some ro =>
    simp only [claimDeletionSaga] at h
    split_ifs at h with hc
    · cases h
      refine ⟨rfl,fun c hcl => ?_⟩
      have hc' : ro.claimedAt = some c := hcl
      simp only [claimable,hc',Option.isNone_some,Bool.false_or,Option.any_some,decide_eq_true_eq] at hc
      exact Int.add_lt_of_lt_sub_right hc
    · cases h

lemma claimDeletionSaga_passed
    (h : claimDeletionSaga sa now = (sg,an)) (ha : an.any Prod.snd = false) :
    sg = sa := by
  cases sa with
  | none => cases h; rfl
  | some ro =>
    simp only [claimDeletionSaga] at h
    split_ifs at h
    · cases h
      cases ha
    · cases h
      rfl

lemma claimOf_advance (re : CleanupItemResult) :
    claimOf (advanceDeletionCleanupItem sa re).1 = claimOf sa := by
  cases sa with
  | none => rfl
  | some row =>
    simp only [advanceDeletionCleanupItem]
    split <;> rfl

lemma claimOf_finalize : claimOf (finalizeDeletionSaga sa).1 = none := by
  cases sa with
  | none => rfl
  | some row =>
    simp only [finalizeDeletionSaga]
    split <;> rfl

variable {σ : System} {a : Act}

section
variable {p q : ℕ} {c d : Instant}

lemma inLease_set_ne (hq : q ≠ p) :
    InLease ({ σ with saga := g }.set p st) q c ↔ InLease σ q c := by
  simp only [InLease,System.set,Function.update_of_ne hq]

lemma not_inLease_ended : ¬ InLease ({ σ with saga := g }.set p .ended) p c := by
  simp [InLease,System.set]

lemma inLease_driving : InLease ({ σ with saga := g }.set p (.driving c td)) p d ↔
      d = c ∧ σ.now ≤ c + deletionSagaClaimLease := by
  simp only [InLease,System.set,Function.update_self,Pass.driving.injEq]
  constructor
  · rintro ⟨⟨_,rfl,_⟩,hl⟩
    exact ⟨rfl,hl⟩
  · rintro ⟨rfl,hl⟩
    exact ⟨⟨_,rfl,rfl⟩,hl⟩

lemma InLease.of_ended (h : InLease ({ σ with saga := g }.set p .ended) q c) :
    q ≠ p ∧ InLease σ q c := by
  have hq : q ≠ p := by
    rintro rfl
    exact not_inLease_ended h
  exact ⟨hq,(inLease_set_ne hq).1 h⟩

/-- Exclusion survives a step that puts no pass inside a lease and keeps the claim of
each pass it leaves there. -/
lemma Exclusive.narrow (hi : Exclusive σ) (hs : ∀ {q c}, InLease τ q c → InLease σ q c)
    (hc : ∀ {q c}, InLease τ q c → claimOf τ.saga = claimOf σ.saga) : Exclusive τ where
  recorded := fun h => (hc h).trans (hi.recorded (hs h))
  single := fun h h' => hi.single (hs h) (hs h')

lemma Exclusive.none_at_claim (hi : Exclusive σ)
    (h : claimDeletionSaga σ.saga σ.now = (g,some (row,true))) : ¬ InLease σ q c := by
  intro hq
  have hl := (claimDeletionSaga_owned h).2 c (hi.recorded hq)
  exact Int.not_le.2 hl hq.2

lemma Exclusive.owned (hi : Exclusive σ)
    (h : claimDeletionSaga σ.saga σ.now = (g,some (row,true))) (td : List CleanupItem) :
    Exclusive ({ σ with saga := g }.set p (.driving σ.now td)) := by
  have ho : ∀ {q c}, InLease ({ σ with saga := g }.set p (.driving σ.now td)) q c →
      q = p ∧ c = σ.now := by
    intro q c hq
    by_cases hqp : q = p
    · subst hqp
      exact ⟨rfl,(inLease_driving.1 hq).1⟩
    · exact (hi.none_at_claim h ((inLease_set_ne hqp).1 hq)).elim
  constructor
  · intro q c hq
    rw [(ho hq).2]
    exact (claimDeletionSaga_owned h).1
  · intro q r c d hq hr
    exact (ho hq).1.trans (ho hr).1.symm

lemma Exclusive.none_at_finalize (hi : Exclusive σ) (hin : FinalizesInTime σ (.finalize p))
    (hq : InLease σ q c) : q = p := by
  rcases hin p rfl with ⟨d,hp⟩ | hn
  · exact hi.single hq hp
  · exact (hn q c hq).elim

lemma Exclusive.move (hi : Exclusive σ) (hm : Move σ a τ) (hin : FinalizesInTime σ a) :
    Exclusive τ := by
  cases hm with
  | owned _ h => exact hi.owned h _
  | passed _ h ha =>
    rw [claimDeletionSaga_passed h ha]
    exact hi.narrow (fun hq => hq.of_ended.2) (fun _ => rfl)
  | @advance p c x r cl de hp =>
    have hs : ∀ {q d}, InLease ({ σ with saga := (advanceDeletionCleanupItem σ.saga
        ⟨x.key,if cl then .done else .failed,de,0⟩).1 }.set p (.driving c r)) q d →
        InLease σ q d := by
      intro q d hq
      by_cases hqp : q = p
      · subst hqp
        obtain ⟨rfl,hl⟩ := inLease_driving.1 hq
        exact ⟨⟨_,hp⟩,hl⟩
      · exact (inLease_set_ne hqp).1 hq
    exact hi.narrow hs (fun _ => claimOf_advance _)
  | finalize _ =>
    refine hi.narrow (fun hq => hq.of_ended.2) (fun hq => ?_)
    exact (hq.of_ended.1 (hi.none_at_finalize hin hq.of_ended.2)).elim
  | die _ => exact hi.narrow (fun hq => hq.of_ended.2) (fun _ => rfl)
  | tick =>
    refine hi.narrow (fun hq => ⟨hq.1,?_⟩) (fun _ => rfl)
    exact Int.le_trans (Int.le_add_of_nonneg_right (Int.natCast_nonneg _)) hq.2

lemma Exclusive.excludes (hi : Exclusive σ) (hm : Move σ a τ) (hin : FinalizesInTime σ a) :
    Excludes σ a τ where
  single := (hi.move hm hin).single
  keeps := by
    intro q c hq hc ho
    cases hm with
    | owned _ h => exact (hi.none_at_claim h hq).elim
    | passed _ h ha =>
      rw [claimDeletionSaga_passed h ha]
      exact hc
    | advance _ => exact (claimOf_advance _).trans hc
    | finalize _ =>
      rw [hi.none_at_finalize hin hq] at ho
      exact (ho rfl).elim
    | die _ => exact hc
    | tick => exact hc

/-- A late finalization takes away the claim of the pass that is inside its lease. -/
lemma Exclusive.in_time (hi : Exclusive σ) (hm : Move σ a τ) (hex : Excludes σ a τ) :
    FinalizesInTime σ a := by
  rintro p rfl
  by_contra hl
  push Not at hl
  obtain ⟨hp,q,c,hq⟩ := hl
  have hne : Act.actor (.finalize p) ≠ some q := by
    intro heq
    cases heq
    exact hp c hq
  have hk := hex.keeps hq (hi.recorded hq) hne
  cases hm with
  | finalize _ =>
    have hc : claimOf (finalizeDeletionSaga σ.saga).1 = some c := hk
    rw [claimOf_finalize] at hc
    cases hc

end

def Created (σ : System) : Prop :=
  (∃ manifest, σ.saga = some ⟨none,manifest,[]⟩) ∧ ∀ p, σ.pass p = .idle

lemma Created.exclusive (h : Created σ) : Exclusive σ := by
  have hn : ∀ {p c}, ¬ InLease σ p c := by
    rintro p c ⟨⟨td,hp⟩,_⟩
    rw [h.2 p] at hp
    cases hp
  exact ⟨fun hp => (hn hp).elim,fun hp => (hn hp).elim⟩

/-- The claim excludes at every step of a run exactly when every finalization of the
run is in time. -/
theorem claim_excludes_iff {σ τ : System} {as : List Act} (h : Created σ) :
    Run (fun σ a τ => Move σ a τ ∧ Excludes σ a τ) σ as τ ↔
      Run (fun σ a τ => Move σ a τ ∧ FinalizesInTime σ a) σ as τ := by
  constructor
  · intro hru
    refine hru.replace Exclusive ?_ h.exclusive
    rintro s a t hi ⟨hm,hex⟩
    have hin := hi.in_time hm hex
    exact ⟨⟨hm,hin⟩,hi.move hm hin⟩
  · intro hru
    refine hru.replace Exclusive ?_ h.exclusive
    rintro s a t hi ⟨hm,hin⟩
    exact ⟨⟨hm,hi.excludes hm hin⟩,hi.move hm hin⟩

def checkpointSaga : System where
  saga := some ⟨none,[⟨.checkpoint,"checkpoint:run-1","run-1",none⟩],[]⟩
  now := 0
  pass := fun _ => .idle

lemma checkpointSaga_created : Created checkpointSaga := ⟨⟨_,rfl⟩,fun _ => rfl⟩

/-- A single pass that cleans the item and finalizes at once is excluded from nobody. -/
theorem claim_excludes_iff_single_pass :
    ∃ τ, Run (fun σ a τ => Move σ a τ ∧ Excludes σ a τ) checkpointSaga
      [.claim 0,.advance 0 true none,.finalize 0] τ := by
  have hf : ∀ {σ : System}, InLease σ 0 0 → FinalizesInTime σ (.finalize 0) := by
    rintro σ h p ⟨⟩
    exact .inl ⟨0,h⟩
  exact ⟨_,(claim_excludes_iff checkpointSaga_created).2 <|
    .step ⟨.owned rfl rfl,fun _ h => by cases h⟩ <|
    .step ⟨.advance rfl,fun _ h => by cases h⟩ <|
    .single ⟨.finalize rfl,hf ⟨⟨_,rfl⟩,by decide⟩⟩⟩

/-- The first pass fails its item and stalls past its lease. The second pass claims the
saga, the first one finalizes and clears that claim, and the third pass claims the
saga while the second one is inside its lease. -/
theorem stale_finalization_admits_third : Created checkpointSaga ∧ ∃ τ, Run Move checkpointSaga
      [.claim 0,.advance 0 false none,.tick 300000001,.claim 1,.finalize 0,.claim 2] τ ∧
    (∃ c, InLease τ 1 c) ∧ ∃ c, InLease τ 2 c := by
  refine ⟨checkpointSaga_created,_,.step (.owned rfl rfl) <| .step (.advance rfl) <| .step .tick <|
    .step (.owned rfl rfl) <| .step (.finalize rfl) <| .single (.owned rfl rfl),?_⟩
  exact ⟨⟨300000001,⟨_,rfl⟩,by decide⟩,300000001,⟨_,rfl⟩,by decide⟩

end VaultspecA2A.DeletionSaga
