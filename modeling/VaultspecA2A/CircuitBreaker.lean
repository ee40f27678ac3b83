import VaultspecA2A.Runs
import VaultspecA2A.Database

/-!
# The worker circuit breaker

The breaker rejects dispatches while the worker's transport is down. Once its
recovery window is over it reserves one probe for one dispatch and admits nobody
else until the probe settles. An admission is an object of its own and `releaseProbe`
compares identities; the three report calls take no admission at all.

The system below lets any number of dispatches run against one breaker. A dispatch reports or
releases at any later time, and also more than once. Cancellations and the watchdog report without
an admission.
-/
namespace VaultspecA2A.CircuitBreaker
open Runs Database List

inductive CircuitState
  | closed
  | opened
  | halfOpen
deriving DecidableEq, Repr

/-- One caller's admission; `id` is the identity of the object. -/
structure DispatchAdmission where
  id : ℕ
  holdsProbe : Bool
deriving DecidableEq, Repr

structure WorkerCircuitBreaker where
  failureThreshold : ℕ
  recoveryTimeout : Instant
  consecutiveFailures : ℕ := 0
  state : CircuitState := .closed
  openedAt : Instant := 0
  probeOwner : Option DispatchAdmission := none
deriving DecidableEq, Repr

namespace WorkerCircuitBreaker

def readState (b : WorkerCircuitBreaker) (now : Instant) : WorkerCircuitBreaker :=
  if b.state = .opened ∧ b.recoveryTimeout ≤ now - b.openedAt then { b with state := .halfOpen }
  else b

def shutOut (b : WorkerCircuitBreaker) (now : Instant) : Bool := (b.readState now).state == .opened

/-- Reserve the right to dispatch; `fresh` is the identity of a new admission. -/
def preDispatch (b : WorkerCircuitBreaker) (now : Instant) (fresh : ℕ) :
    WorkerCircuitBreaker × Option DispatchAdmission :=
  let b := b.readState now
  match b.state with
  | .opened => (b,none)
  | .halfOpen =>
    if b.probeOwner.isSome then (b,none)
    else ({ b with probeOwner := some ⟨fresh,true⟩ },some ⟨fresh,true⟩)
  | .closed => (b,some ⟨fresh,false⟩)

def close (b : WorkerCircuitBreaker) : WorkerCircuitBreaker :=
  { b with probeOwner := none, consecutiveFailures := 0, state := .closed }

def recordSuccess (b : WorkerCircuitBreaker) : WorkerCircuitBreaker := b.close

def recordRefusal (b : WorkerCircuitBreaker) : WorkerCircuitBreaker := b.close

def recordFailure (b : WorkerCircuitBreaker) (now : Instant) : WorkerCircuitBreaker :=
  let b := { b with probeOwner := none, consecutiveFailures := b.consecutiveFailures + 1 }
  if b.failureThreshold ≤ b.consecutiveFailures then { b with state := .opened, openedAt := now }
  else b

def releaseProbe (b : WorkerCircuitBreaker) (admission : DispatchAdmission) :
    WorkerCircuitBreaker :=
  if b.probeOwner = some admission then { b with probeOwner := none } else b

def forceOpen (b : WorkerCircuitBreaker) (now : Instant) : WorkerCircuitBreaker :=
  { b with probeOwner := none, consecutiveFailures := b.failureThreshold
           state := .opened, openedAt := now }

end WorkerCircuitBreaker

inductive Outcome
  | success
  | failure
  | refusal
deriving DecidableEq, Repr

def WorkerCircuitBreaker.report (b : WorkerCircuitBreaker) (now : Instant) :
    Outcome → WorkerCircuitBreaker
  | .success => b.recordSuccess
  | .failure => b.recordFailure now
  | .refusal => b.recordRefusal

/-- `probes` are the admissions of probes that have neither reported nor been
released; `reclaimed` are those a forced opening has taken back. -/
structure System where
  breaker : WorkerCircuitBreaker
  now : Instant
  fresh : ℕ
  probes : List DispatchAdmission
  reclaimed : List DispatchAdmission
deriving Repr

inductive Act
  | preDispatch
  | read
  | report (reporter : Option DispatchAdmission) (outcome : Outcome)
  | releaseProbe (admission : DispatchAdmission)
  | forceOpen
  | tick (later : ℕ)
deriving DecidableEq, Repr

def System.settle (σ : System) (b : WorkerCircuitBreaker) (admission : Option DispatchAdmission) :
    System :=
  { σ with breaker := b, probes := σ.probes.filter fun p => some p ≠ admission }

def step (σ : System) : Act → System
  | .preDispatch =>
    let (b,answer) := σ.breaker.preDispatch σ.now σ.fresh
    { σ with breaker := b, fresh := σ.fresh + 1
             probes := (answer.filter (·.holdsProbe)).toList ++ σ.probes }
  | .read => { σ with breaker := σ.breaker.readState σ.now }
  | .report reporter outcome => σ.settle (σ.breaker.report σ.now outcome) reporter
  | .releaseProbe admission => σ.settle (σ.breaker.releaseProbe admission) (some admission)
  | .forceOpen =>
    { σ with breaker := σ.breaker.forceOpen σ.now, reclaimed := σ.probes ++ σ.reclaimed }
  | .tick later => { σ with now := σ.now + later }

def start (failureThreshold : ℕ) (recoveryTimeout now : Instant) : System :=
  ⟨{ failureThreshold, recoveryTimeout },now,0,[],[]⟩

/-- The probe is out: admitted, not reported, not released and not reclaimed. -/
def Out (σ : System) (p : DispatchAdmission) : Prop := p ∈ σ.probes ∧ p ∉ σ.reclaimed

/-- No step leaves two probes out, and no report by another dispatch ends a probe. -/
structure OneProbe (σ : System) (a : Act) (τ : System) : Prop where
  single : ∀ {p q : DispatchAdmission}, Out τ p → Out τ q → p = q
  kept : ∀ {p : DispatchAdmission} {reporter : Option DispatchAdmission} {outcome : Outcome},
    Out σ p → a = .report reporter outcome → reporter ≠ some p → τ.breaker.probeOwner = some p

/-- A report made while a probe is out is the probe's own. -/
def OwnReport (σ : System) (a : Act) : Prop :=
  ∀ reporter outcome p, a = .report reporter outcome → Out σ p → reporter = some p

/-- The watchdog forces the circuit open only while no probe is out. -/
def ForcedIdle (σ : System) (a : Act) : Prop := a = .forceOpen → ∀ p, ¬ Out σ p

section
variable (b : WorkerCircuitBreaker) (now : Instant)

lemma readState_probeOwner : (b.readState now).probeOwner = b.probeOwner := by
  rw [WorkerCircuitBreaker.readState]
  split_ifs <;> rfl

lemma report_probeOwner (oc : Outcome) : (b.report now oc).probeOwner = none := by
  cases oc with
  | success => rfl
  | refusal => rfl
  | failure =>
    simp only [WorkerCircuitBreaker.report,WorkerCircuitBreaker.recordFailure]
    split_ifs <;> rfl

/-- An admission reserves the probe nobody holds, or leaves the reservation alone. -/
lemma preDispatch_cases (fresh : ℕ) : ((b.preDispatch now fresh).1.probeOwner = b.probeOwner ∧
      (b.preDispatch now fresh).2.filter (·.holdsProbe) = none) ∨
    (b.probeOwner = none ∧ (b.preDispatch now fresh).1.probeOwner = some ⟨fresh,true⟩ ∧
      (b.preDispatch now fresh).2 = some ⟨fresh,true⟩) := by
  have hre := readState_probeOwner b now
  simp only [WorkerCircuitBreaker.preDispatch]
  split
  · exact .inl ⟨hre,rfl⟩
  · split_ifs with hh
    · exact .inl ⟨hre,rfl⟩
    · rw [hre,Option.isSome_iff_ne_none,not_not] at hh
      exact .inr ⟨hh,rfl,rfl⟩
  · exact .inl ⟨hre,rfl⟩

end

def Reserved (σ : System) : Prop := ∀ p, Out σ p → σ.breaker.probeOwner = some p

section
variable {σ : System}

lemma Out.of_settle (h : Out (σ.settle b ad) p) : Out σ p ∧ some p ≠ ad := by
  have hm := mem_filter.1 h.1
  exact ⟨⟨hm.1,h.2⟩,of_decide_eq_true hm.2⟩

lemma Reserved.preDispatch (hi : Reserved σ) : Reserved (step σ .preDispatch) := by
  intro p hp
  rcases preDispatch_cases σ.breaker σ.now σ.fresh with
    ⟨ho,ha⟩ | ⟨hf,ho,ha⟩
  · have hold : Out σ p := by
      have hm := hp.1
      simp only [step,ha,Option.toList_none,nil_append] at hm
      exact ⟨hm,hp.2⟩
    exact ho.trans (hi _ hold)
  · have hm := hp.1
    simp only [step,ha,Option.filter_some,if_true,Option.toList_some,singleton_append,mem_cons] at hm
    rcases hm with rfl | hm
    · exact ho
    · have hown := hi _ ⟨hm,hp.2⟩
      rw [hf] at hown
      cases hown

/-- The step lemma: reports aside, every operation leaves the probes that are out with
the breaker. -/
lemma Reserved.after (hi : Reserved σ) (hown : OwnReport σ a) : Reserved (step σ a) := by
  cases a with
  | preDispatch => exact hi.preDispatch
  | read =>
    intro p hp
    exact (readState_probeOwner _ _).trans (hi _ hp)
  | report re oc =>
    intro p hp
    obtain ⟨ho,hne⟩ := hp.of_settle
    exact (hne (hown re oc p rfl ho).symm).elim
  | releaseProbe ad =>
    intro p hp
    obtain ⟨ho,hne⟩ := hp.of_settle
    have howne := hi _ ho
    have hk : σ.breaker.releaseProbe ad = σ.breaker := by
      rw [WorkerCircuitBreaker.releaseProbe,if_neg]
      rw [howne]
      exact hne
    exact (congrArg _ hk).trans howne
  | forceOpen =>
    intro p hp
    exact (hp.2 (mem_append_left _ hp.1)).elim
  | tick la => exact hi

lemma Reserved.single (hi : Reserved σ) (hp : Out σ p) (hq : Out σ q) :
    p = q := Option.some.inj ((hi _ hp).symm.trans (hi _ hq))

lemma Reserved.oneProbe (hi : Reserved σ) (ho : OwnReport σ a) : OneProbe σ a (step σ a) where
  single := (hi.after ho).single
  kept := fun hp ha hne => (hne (ho _ _ _ ha hp)).elim

lemma OneProbe.ownReport (h : OneProbe σ a (step σ a)) : OwnReport σ a := by
  rintro re oc p rfl hp
  by_contra hne
  have ho : (σ.breaker.report σ.now oc).probeOwner = some p := h.kept hp rfl hne
  rw [report_probeOwner] at ho
  cases ho

def Unforced (σ : System) : Prop := Reserved σ ∧ σ.reclaimed = []

lemma Unforced.out (hi : Unforced σ) (hp : p ∈ σ.probes) : Out σ p := by
  refine ⟨hp,?_⟩
  rw [hi.2]
  exact not_mem_nil

lemma Unforced.after (hi : Unforced σ) (ho : OwnReport σ a) (hid : ForcedIdle σ a) :
    Unforced (step σ a) := by
  refine ⟨hi.1.after ho,?_⟩
  cases a with
  | forceOpen =>
    have hn : σ.probes = [] := by
      rw [eq_nil_iff_forall_not_mem]
      intro p hp
      exact hid rfl p (hi.out hp)
    simp only [step,hn,hi.2,append_nil]
  | preDispatch => exact hi.2
  | read => exact hi.2
  | report re oc => exact hi.2
  | releaseProbe ad => exact hi.2
  | tick la => exact hi.2

end

lemma start_unforced (ft : ℕ) (rt now : Instant) : Unforced (start ft rt now) :=
  ⟨fun _ hp => (not_mem_nil hp.1).elim,rfl⟩

/-- From a new breaker, at most one probe is out at every step and no report of another
dispatch ends it, exactly in the runs in which a report made while a probe is out is
the probe's own. If the watchdog moreover forces the circuit open only while no
probe is out, then at most one probe is unsettled, reclaimed probes included. -/
theorem single_probe_iff (failureThreshold : ℕ) (recoveryTimeout now : Instant) (as : List Act)
    (τ : System) :
    (Run (fun σ a τ => step σ a = τ ∧ OneProbe σ a τ)
        (start failureThreshold recoveryTimeout now) as τ ↔
      Run (fun σ a τ => step σ a = τ ∧ OwnReport σ a)
        (start failureThreshold recoveryTimeout now) as τ) ∧
    (Run (fun σ a τ => step σ a = τ ∧ OwnReport σ a ∧ ForcedIdle σ a)
        (start failureThreshold recoveryTimeout now) as τ →
      ∀ p ∈ τ.probes, ∀ q ∈ τ.probes, p = q) := by
  have hs := start_unforced failureThreshold recoveryTimeout now
  refine ⟨⟨?_,?_⟩,?_⟩
  · intro hru
    refine hru.replace Reserved ?_ hs.1
    rintro s a _ hi ⟨rfl,hon⟩
    exact ⟨⟨rfl,hon.ownReport⟩,hi.after hon.ownReport⟩
  · intro hru
    refine hru.replace Reserved ?_ hs.1
    rintro s a _ hi ⟨rfl,ho⟩
    exact ⟨⟨rfl,hi.oneProbe ho⟩,hi.after ho⟩
  · intro hru p hp q hq
    have hen : Unforced τ := by
      refine hru.invariant Unforced ?_ hs
      rintro s a _ hi ⟨rfl,ho,hid⟩
      exact hi.after ho hid
    exact hen.1.single (hen.out hp) (hen.out hq)

/-- Two dispatches are admitted by a closed breaker with threshold one. The first fails
and opens it; the third dispatch becomes the probe; the second one's failure, reported
only then, opens the circuit again and a fourth dispatch becomes a second probe. -/
theorem straggler_admits_second_probe : ∃ τ, Run (fun σ a τ => step σ a = τ) (start 1 30 0)
      [.preDispatch,.preDispatch,.report (some ⟨0,false⟩) .failure,.tick 30,.preDispatch,
        .report (some ⟨1,false⟩) .failure,.tick 30,.preDispatch] τ ∧
    τ.probes = [⟨3,true⟩,⟨2,true⟩] ∧ τ.reclaimed = [] :=
  ⟨_,.step rfl <| .step rfl <| .step rfl <| .step rfl <| .step rfl <| .step rfl <| .step rfl <|
    .single rfl,rfl,rfl⟩

end VaultspecA2A.CircuitBreaker
