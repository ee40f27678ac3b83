import VaultspecA2A.Runs
import Mathlib.Data.List.Nodup

/-!
# Cancels on a worker

A worker runs one ingest or resume of a run at a time, the one that holds the run's slot. A
cancel is noted as the run's pending cancellation. If the slot is free it is answered at once,
by a cancelled terminal that carries its identity; otherwise it is left to the holder, whose
settlement finds the note and answers it.

What settles a run, reserves its slot or handles a cancel does so under the run's arbitration
lock, and each such section is one step here: it reads and writes the slot, the note and the
terminals, and no other section of the run comes between. The slot is also given back without the
lock, at the end of every dispatch; that does nothing when a settlement has given it back before.
A dispatch whose checkpoint is parked and a resume that is refused give it back in this way only.

What a preflight finds, how a turn ends and whether the worker has room is an input of the step.
-/
namespace VaultspecA2A.CancelArbitration
open Runs List Function

inductive GraphAction
  | ingest
  | resume
deriving DecidableEq, Repr

inductive Phase
  | running
  /-- An exception is on its way to the backstop. -/
  | failing
  /-- The dispatch is done, and gives the slot back without a settlement. -/
  | returning
deriving DecidableEq, Repr

structure Holder where
  action : GraphAction
  phase : Phase
deriving DecidableEq, Repr

inductive Outcome
  | completed
  | failed
  | cancelled
  | interrupted
deriving DecidableEq, Repr

structure Terminal where
  run : String
  outcome : Outcome
  /-- The identity of the cancel, on a cancelled terminal. -/
  cancellation : Option String
deriving DecidableEq, Repr

/-- An accepted cancel, and how many terminals had been emitted when it was accepted. -/
structure Cancel where
  run : String
  dispatchId : String
  since : ℕ
deriving DecidableEq, Repr

structure Arrival where
  run : String
  dispatchId : String
  action : GraphAction
deriving DecidableEq, Repr

structure Worker where
  /-- The identities admitted last, the oldest first. -/
  dispatchIds : List String := []
  /-- Deliveries that were no duplicates when they arrived and wait for a slot. -/
  arrived : List Arrival := []
  holders : String → Option Holder := fun _ => none
  pendingCancellations : String → Option String := fun _ => none
  accepted : List Cancel := []
  handled : List Cancel := []
  terminals : List Terminal := []

namespace Worker
variable (w : Worker) (run : String)

def setPhase (phase : Phase) : Worker :=
  { w with
    holders := Function.update w.holders run ((w.holders run).map fun holder =>
      { holder with phase }) }

def releaseSlot : Worker := { w with holders := Function.update w.holders run none }

def emit (outcome : Outcome) (cancellation : Option String) : Worker :=
  { w with terminals := w.terminals ++ [⟨run,outcome,cancellation⟩] }

def emitTerminalStatus (outcome : Outcome) (cancellation : Option String) (failureEvidence : Bool) :
    Option Worker :=
  match outcome with
  | .interrupted => some w
  | .completed => some (w.emit run .completed none)
  | .failed => if failureEvidence then some (w.emit run .failed none) else none
  | .cancelled => cancellation.map fun dispatchId => w.emit run .cancelled (some dispatchId)

def dropPending : Worker :=
  { w with pendingCancellations := Function.update w.pendingCancellations run none }

def emitTerminalOutcome (outcome : Outcome) (failureEvidence : Bool) : Option Worker :=
  match w.pendingCancellations run with
  | some dispatchId =>
    (w.dropPending run).emitTerminalStatus run .cancelled (some dispatchId) false
  | none => w.emitTerminalStatus run outcome none failureEvidence

def settleRun (outcome : Outcome) (failureEvidence : Bool) : Worker :=
  match w.emitTerminalOutcome run outcome failureEvidence with
  | some settled => settled.releaseSlot run
  | none => w.setPhase run .failing

/-- Fail a run before it ran, or after an exception that nothing caught. -/
def rejectWithCondition (failureEvidence : Bool) : Worker :=
  if failureEvidence || (w.pendingCancellations run).isSome then
    ((w.emitTerminalOutcome run .failed failureEvidence).getD w).releaseSlot run
  else w.releaseSlot run

def handleCancel (cancel : Cancel) : Worker :=
  match w.holders cancel.run with
  | some _ =>
    { w with
      pendingCancellations :=
        Function.update w.pendingCancellations cancel.run (some cancel.dispatchId) }
  | none => (w.dropPending cancel.run).emit cancel.run .cancelled (some cancel.dispatchId)

def phaseOf : Option Phase := (w.holders run).map Holder.phase

def runs (action : GraphAction) : Prop := w.holders run = some ⟨action,.running⟩

instance (action : GraphAction) : Decidable (w.runs run action) :=
  inferInstanceAs (Decidable (_ = _))

end Worker

inductive Label
  | arrives (arrival : Arrival)
  /-- A delivery asks for the slot of its run; the worker may be full. -/
  | reserves (index : ℕ) (full : Bool)
  /-- A turn that ran has ended. -/
  | settles (run : String) (outcome : Outcome) (failureEvidence : Bool)
  /-- The checkpoint of a redelivered ingest is complete. -/
  | settlesCompleted (run : String)
  /-- A dispatch is refused before it ran, or died of an exception. -/
  | rejects (run : String) (failureEvidence : Bool)
  /-- The checkpoint of a redelivered ingest is parked. -/
  | findsParked (run : String)
  | refusesResume (run : String)
  | returns (run : String)
  | acceptsCancel (run dispatchId : String)
  | handlesCancel (index : ℕ)
deriving DecidableEq, Repr

section
variable (capacity : ℕ)

def admitDispatchId (dispatchIds : List String) (dispatchId : String) : List String :=
  (if dispatchIds.length = capacity then dispatchIds.tail else dispatchIds) ++ [dispatchId]

def step (w : Worker) : Label → Worker
  | .arrives arrival =>
    if arrival.dispatchId ∈ w.dispatchIds then w
    else { w with arrived := w.arrived ++ [arrival] }
  | .reserves index full =>
    match w.arrived[index]? with
    | none => w
    | some arrival =>
      if (w.holders arrival.run).isSome ∨ full ∨ arrival.dispatchId ∈ w.dispatchIds then
        { w with arrived := w.arrived.eraseIdx index }
      else
        { w with
          dispatchIds := admitDispatchId capacity w.dispatchIds arrival.dispatchId
          arrived := w.arrived.eraseIdx index
          holders := Function.update w.holders arrival.run (some ⟨arrival.action,.running⟩) }
  | .settles run outcome failureEvidence =>
    if w.phaseOf run = some .running then w.settleRun run outcome failureEvidence else w
  | .settlesCompleted run =>
    if w.runs run .ingest then w.settleRun run .completed false else w
  | .rejects run failureEvidence =>
    if w.phaseOf run = some .running ∨ w.phaseOf run = some .failing then
      w.rejectWithCondition run failureEvidence
    else w
  | .findsParked run => if w.runs run .ingest then w.setPhase run .returning else w
  | .refusesResume run => if w.runs run .resume then w.setPhase run .returning else w
  | .returns run => if w.phaseOf run = some .returning then w.releaseSlot run else w
  | .acceptsCancel run dispatchId =>
    if dispatchId ∈ w.dispatchIds then w
    else
      { w with
        dispatchIds := admitDispatchId capacity w.dispatchIds dispatchId
        accepted := w.accepted ++ [⟨run,dispatchId,w.terminals.length⟩] }
  | .handlesCancel index =>
    match w.accepted[index]? with
    | none => w
    | some cancel =>
      { w.handleCancel cancel with
        accepted := w.accepted.eraseIdx index
        handled := w.handled ++ [cancel] }

end

def Worker.spent (w : Worker) : List String := w.terminals.filterMap Terminal.cancellation

/-- A cancelled terminal of the run has been emitted since the cancel was accepted. -/
def Worker.Answered (w : Worker) (cancel : Cancel) : Prop :=
  ∃ terminal ∈ w.terminals.drop cancel.since,
    terminal.run = cancel.run ∧ terminal.outcome = .cancelled

/-- A handled cancel of the run waits for its terminal. -/
def Worker.Waiting (w : Worker) (run : String) : Prop :=
  ∃ cancel ∈ w.handled, cancel.run = run ∧ ¬w.Answered cancel

structure Lawful (w : Worker) : Prop where
  answered : ∀ run, w.holders run = none → ¬w.Waiting run
  once : w.spent.Nodup
  own : ∀ terminal ∈ w.terminals, ∀ dispatchId, terminal.cancellation = some dispatchId →
    terminal.outcome = .cancelled ∧
      ∃ cancel ∈ w.handled, cancel.run = terminal.run ∧ cancel.dispatchId = dispatchId

/-- The run whose slot a step gives back without a settlement. -/
def returned (w : Worker) : Label → Option String
  | .returns run => if w.phaseOf run = some .returning then some run else none
  | _ => none

def spends (w : Worker) : Label → Option String
  | .settles run _ _ =>
    if w.phaseOf run = some .running then w.pendingCancellations run else none
  | .settlesCompleted run => if w.runs run .ingest then w.pendingCancellations run else none
  | .rejects run _ =>
    if w.phaseOf run = some .running ∨ w.phaseOf run = some .failing then
      w.pendingCancellations run
    else none
  | .handlesCancel index =>
    (w.accepted[index]?).bind fun cancel =>
      if (w.holders cancel.run).isSome then none else some cancel.dispatchId
  | _ => none

/-- No cancel waits for a dispatch that gives its slot back without a settlement, and no
identity is spent that has been spent before. -/
def Heeds (w : Worker) (label : Label) : Prop :=
  (∀ run ∈ returned w label, ¬w.Waiting run) ∧ ∀ dispatchId ∈ spends w label, dispatchId ∉ w.spent

section
variable {w w' : Worker} {run : String}

/-- The effects of a step on the slots, the notes and the terminals, with the slot it gives
back without a settlement and the identity it spends. -/
inductive Effect (w : Worker) : Option String → Option String → Worker → Prop
  | quiet {w' : Worker} :
      w'.terminals = w.terminals →
      w'.pendingCancellations = w.pendingCancellations →
      w'.handled = w.handled →
      (∀ run, w'.holders run = none → w.holders run = none) →
      (∀ cancel ∈ w'.accepted, cancel ∈ w.accepted ∨ cancel.since = w.terminals.length) →
      Effect w none none w'
  /-- The cancel is left to the holder of the slot. -/
  | noted {w' : Worker} (cancel : Cancel) :
      w'.terminals = w.terminals →
      w'.pendingCancellations =
        Function.update w.pendingCancellations cancel.run (some cancel.dispatchId) →
      w'.handled = w.handled ++ [cancel] →
      w'.holders = w.holders →
      w'.accepted ⊆ w.accepted →
      cancel ∈ w.accepted →
      w.holders cancel.run ≠ none →
      Effect w none none w'
  /-- A cancelled terminal is emitted, for a cancel noted earlier or handled just now. -/
  | ceased {w' : Worker} (run dispatchId : String) (handled : List Cancel) :
      w'.terminals = w.terminals ++ [⟨run,.cancelled,some dispatchId⟩] →
      w'.pendingCancellations = Function.update w.pendingCancellations run none →
      w'.handled = w.handled ++ handled →
      (∀ cancel ∈ handled, cancel ∈ w.accepted ∧ cancel.run = run) →
      (w.pendingCancellations run = some dispatchId ∨
        ∃ cancel ∈ handled, cancel.dispatchId = dispatchId) →
      (∀ other, other ≠ run → w'.holders other = none → w.holders other = none) →
      w'.accepted ⊆ w.accepted →
      Effect w none (some dispatchId) w'
  /-- The slot is given back by a settlement that found no note. -/
  | ended {w' : Worker} (run : String) (terminals : List Terminal) :
      w'.terminals = w.terminals ++ terminals →
      w'.pendingCancellations = w.pendingCancellations →
      w'.handled = w.handled →
      w'.holders = Function.update w.holders run none →
      w'.accepted = w.accepted →
      w.pendingCancellations run = none →
      (∀ terminal ∈ terminals, terminal.cancellation = none) →
      Effect w none none w'
  | returned (run : String) : Effect w (some run) none (w.releaseSlot run)

lemma Effect.unchanged : Effect w none none w := .quiet rfl rfl rfl (fun _ h => h) fun _ => Or.inl

lemma setPhase_effect (ph : Phase) : Effect w none none (w.setPhase run ph) := by
  refine .quiet rfl rfl rfl ?_ fun _ => Or.inl
  intro o hf
  by_cases heq : o = run
  · subst heq
    simpa [Worker.setPhase] using hf
  · simpa [Worker.setPhase,heq] using hf

lemma emitTerminalOutcome_pending
    (h : w.pendingCancellations run = some did) (oc : Outcome) (ev : Bool) :
    w.emitTerminalOutcome run oc ev =
      some ((w.dropPending run).emit run .cancelled (some did)) := by
  rw [Worker.emitTerminalOutcome,h]
  rfl

lemma emitTerminalOutcome_plain (h : w.pendingCancellations run = none)
    (hs : w.emitTerminalOutcome run oc ev = some settled) :
    ∃ tr : List Terminal, (∀ te ∈ tr, te.cancellation = none) ∧
      settled = { w with terminals := w.terminals ++ tr } := by
  rw [Worker.emitTerminalOutcome,h] at hs
  have ho : ∀ oc : Outcome, ∀ te ∈ [(⟨run,oc,none⟩ : Terminal)], te.cancellation = none := by
    intro oc te hm
    rw [mem_singleton.1 hm]
  cases oc with
  | interrupted =>
    cases hs
    exact ⟨[],fun _ hm => (not_mem_nil hm).elim,by rw [append_nil]⟩
  | completed =>
    cases hs
    exact ⟨_,ho .completed,rfl⟩
  | failed =>
    cases ev with
    | false => cases hs
    | true =>
      cases hs
      exact ⟨_,ho .failed,rfl⟩
  | cancelled => cases hs

lemma ceased_effect (h : w.pendingCancellations run = some did) : Effect w none (some did)
    (((w.dropPending run).emit run .cancelled (some did)).releaseSlot run) := by
  refine .ceased run did [] rfl rfl (append_nil _).symm
    (forall_mem_nil _) (Or.inl h) ?_ (List.Subset.refl _)
  intro o hne hf
  exact (update_of_ne hne _ _).symm.trans hf

lemma ended_effect (h : w.pendingCancellations run = none)
    (hs : w.emitTerminalOutcome run oc ev = some settled) :
    Effect w none none (settled.releaseSlot run) := by
  obtain ⟨tr,hp,rfl⟩ := emitTerminalOutcome_plain h hs
  exact .ended run tr rfl rfl rfl rfl rfl h hp

lemma settleRun_effect (oc : Outcome) (ev : Bool) :
    Effect w none (w.pendingCancellations run) (w.settleRun run oc ev) := by
  rw [Worker.settleRun]
  cases hp : w.pendingCancellations run with
  | some did =>
    rw [emitTerminalOutcome_pending hp]
    exact ceased_effect hp
  | none =>
    cases hs : w.emitTerminalOutcome run oc ev with
    | some settled => exact ended_effect hp hs
    | none => exact setPhase_effect .failing

lemma rejectWithCondition_effect (ev : Bool) :
    Effect w none (w.pendingCancellations run) (w.rejectWithCondition run ev) := by
  rw [Worker.rejectWithCondition]
  cases hp : w.pendingCancellations run with
  | some did =>
    rw [if_pos (by simp),emitTerminalOutcome_pending hp]
    exact ceased_effect hp
  | none =>
    cases ev with
    | true =>
      rw [if_pos (by simp)]
      have hs : w.emitTerminalOutcome run .failed true = some (w.emit run .failed none) := by
        rw [Worker.emitTerminalOutcome,hp]
        rfl
      rw [hs]
      exact ended_effect hp hs
    | false =>
      rw [if_neg (by simp)]
      exact .ended run [] (append_nil _).symm rfl rfl rfl rfl hp (forall_mem_nil _)

lemma handleCancel_effect (hc : w.accepted[i]? = some c) :
    Effect w none (if (w.holders c.run).isSome then none else some c.dispatchId)
      { w.handleCancel c with
        accepted := w.accepted.eraseIdx i
        handled := w.handled ++ [c] } := by
  have hm := mem_of_getElem? hc
  have hs := (eraseIdx_sublist w.accepted i).subset
  rw [Worker.handleCancel]
  cases hh : w.holders c.run with
  | some holder =>
    refine .noted c rfl rfl rfl rfl hs hm ?_
    rw [hh]
    exact Option.some_ne_none _
  | none =>
    refine .ceased c.run c.dispatchId [c] rfl rfl rfl ?_ (Or.inr ⟨c,mem_singleton_self _,rfl⟩)
      (fun _ _ h => h) hs
    intro o ho
    rw [mem_singleton.1 ho]
    exact ⟨hm,rfl⟩

variable (capacity ca : ℕ) in
lemma step_effect (w : Worker) (l : Label) :
    Effect w (returned w l) (spends w l) (step ca w l) := by
  cases l with
  | arrives ar =>
    rw [step]
    split
    · exact .unchanged
    · exact .quiet rfl rfl rfl (fun _ h => h) fun _ => Or.inl
  | reserves i fu =>
    rw [step]
    split
    · exact .unchanged
    · rename_i ar _
      split
      · exact .quiet rfl rfl rfl (fun _ h => h) fun _ => Or.inl
      · refine .quiet rfl rfl rfl ?_ fun _ => Or.inl
        intro run hf
        by_cases heq : run = ar.run
        · subst heq
          simp at hf
        · simpa [heq] using hf
  | settles run oc ev =>
    rw [step,spends]
    split
    · exact settleRun_effect oc ev
    · exact .unchanged
  | settlesCompleted run =>
    rw [step,spends]
    split
    · exact settleRun_effect .completed false
    · exact .unchanged
  | rejects run ev =>
    rw [step,spends]
    split
    · exact rejectWithCondition_effect ev
    · exact .unchanged
  | findsParked run =>
    rw [step]
    split
    · exact setPhase_effect .returning
    · exact .unchanged
  | refusesResume run =>
    rw [step]
    split
    · exact setPhase_effect .returning
    · exact .unchanged
  | returns run =>
    rw [step,returned]
    split
    · exact .returned run
    · exact .unchanged
  | acceptsCancel run did =>
    rw [step]
    split
    · exact .unchanged
    · refine .quiet rfl rfl rfl (fun _ h => h) ?_
      intro c hm
      rcases mem_append.1 hm with hold | hn
      · exact Or.inl hold
      · rw [mem_singleton.1 hn]
        exact Or.inr rfl
  | handlesCancel i =>
    rw [step,spends]
    cases hc : w.accepted[i]? with
    | none => exact .unchanged
    | some c => exact handleCancel_effect hc

structure Noted (w : Worker) : Prop where
  waiting : ∀ run, w.Waiting run → w.pendingCancellations run ≠ none
  own : ∀ run dispatchId, w.pendingCancellations run = some dispatchId →
    ∃ cancel ∈ w.handled, cancel.run = run ∧ cancel.dispatchId = dispatchId
  accepted : ∀ cancel ∈ w.accepted, cancel.since ≤ w.terminals.length
  handled : ∀ cancel ∈ w.handled, cancel.since ≤ w.terminals.length

lemma Worker.Answered.append (h : w.Answered c) (hw : w'.terminals = w.terminals ++ tr) :
    w'.Answered c := by
  obtain ⟨te,hm,ht⟩ := h
  refine ⟨te,?_,ht⟩
  rw [hw,drop_append]
  exact mem_append_left _ hm

variable {did : Option String}

lemma answered_of_ceased (hw : w'.terminals = w.terminals ++ [⟨c.run,.cancelled,did⟩])
    (hs : c.since ≤ w.terminals.length) : w'.Answered c := by
  refine ⟨⟨c.run,.cancelled,did⟩,?_,rfl,rfl⟩
  rw [hw,drop_append,Nat.sub_eq_zero_of_le hs]
  exact mem_append_right _ (mem_singleton_self _)

lemma waiting_before (ht : w'.terminals = w.terminals ++ tr)
    (hh : w'.handled = w.handled ++ handled) (h : w'.Waiting run) :
    w.Waiting run ∨ ∃ c ∈ handled, c.run = run ∧ ¬w'.Answered c := by
  obtain ⟨c,hm,hru,hw⟩ := h
  rw [hh] at hm
  rcases mem_append.1 hm with hold | hn
  · exact Or.inl ⟨c,hold,hru,fun ha => hw (ha.append ht)⟩
  · exact Or.inr ⟨c,hn,hru,hw⟩

lemma waiting_before_same (ht : w'.terminals = w.terminals ++ tr)
    (hh : w'.handled = w.handled) (h : w'.Waiting run) : w.Waiting run := by
  rw [← append_nil w.handled] at hh
  rcases waiting_before ht hh h with hold | ⟨_,hn,_⟩
  · exact hold
  · cases hn

lemma not_waiting_of_ceased (hw : w'.terminals = w.terminals ++ [⟨run,.cancelled,did⟩])
    (hs : ∀ c ∈ w'.handled, c.since ≤ w.terminals.length) : ¬w'.Waiting run := by
  rintro ⟨c,hm,rfl,hwa⟩
  exact hwa (answered_of_ceased hw (hs c hm))

lemma noted_of_noted (hn : Noted w) (ht : w'.terminals = w.terminals)
    (hpe : w'.pendingCancellations =
      Function.update w.pendingCancellations c.run (some c.dispatchId))
    (hh : w'.handled = w.handled ++ [c]) (hs : w'.accepted ⊆ w.accepted)
    (hm : c ∈ w.accepted) : Noted w' := by
  refine ⟨?_,?_,?_,?_⟩
  · intro run hw
    rw [hpe]
    by_cases heq : run = c.run
    · subst heq
      rw [update_self]
      exact Option.some_ne_none _
    · rw [update_of_ne heq]
      rw [← append_nil w.terminals] at ht
      rcases waiting_before ht hh hw with hold | ⟨o,hnew,hru,_⟩
      · exact hn.waiting run hold
      · rw [mem_singleton.1 hnew] at hru
        exact (heq hru.symm).elim
  · intro run did hp
    rw [hpe] at hp
    rw [hh]
    by_cases heq : run = c.run
    · subst heq
      rw [update_self] at hp
      cases hp
      exact ⟨c,mem_append_right _ (mem_singleton_self _),rfl,rfl⟩
    · rw [update_of_ne heq] at hp
      obtain ⟨o,ho,hown⟩ := hn.own run did hp
      exact ⟨o,mem_append_left _ ho,hown⟩
  · rw [ht]
    exact fun o ho => hn.accepted o (hs ho)
  · intro o ho
    rw [ht]
    rw [hh] at ho
    rcases mem_append.1 ho with hold | hnew
    · exact hn.handled o hold
    · rw [mem_singleton.1 hnew]
      exact hn.accepted c hm

lemma handled_since (hn : Noted w) (hh : w'.handled = w.handled ++ handled)
    (hf : ∀ c ∈ handled, c ∈ w.accepted ∧ c.run = run) :
    ∀ c ∈ w'.handled, c.since ≤ w.terminals.length := by
  intro c hm
  rw [hh] at hm
  rcases mem_append.1 hm with hold | hnew
  · exact hn.handled c hold
  · exact hn.accepted c (hf c hnew).1

lemma noted_of_ceased (hn : Noted w) (ht : w'.terminals = w.terminals ++ [⟨run,.cancelled,did⟩])
    (hpe : w'.pendingCancellations = Function.update w.pendingCancellations run none)
    (hh : w'.handled = w.handled ++ handled)
    (hf : ∀ c ∈ handled, c ∈ w.accepted ∧ c.run = run)
    (hsu : w'.accepted ⊆ w.accepted) : Noted w' := by
  have hs := handled_since hn hh hf
  have hl : w'.terminals.length = w.terminals.length + 1 := by
    rw [ht,length_append,length_singleton]
  refine ⟨?_,?_,?_,?_⟩
  · intro o hw
    rw [hpe]
    by_cases heq : o = run
    · subst heq
      exact (not_waiting_of_ceased ht hs hw).elim
    · rw [update_of_ne heq]
      rcases waiting_before ht hh hw with hold | ⟨c,hnew,hru,_⟩
      · exact hn.waiting o hold
      · exact (heq (hru.symm.trans (hf c hnew).2)).elim
  · intro o did hp
    rw [hpe] at hp
    by_cases heq : o = run
    · subst heq
      rw [update_self] at hp
      cases hp
    · rw [update_of_ne heq] at hp
      obtain ⟨c,hm,hc⟩ := hn.own o did hp
      rw [hh]
      exact ⟨c,mem_append_left _ hm,hc⟩
  · intro c hm
    have := hn.accepted c (hsu hm)
    omega
  · intro c hm
    have := hs c hm
    omega

lemma Effect.noted_kept (h : Effect w ba sp w') (hn : Noted w) : Noted w' := by
  cases h with
  | quiet ht hp hh _ ha =>
    have hap : w'.terminals = w.terminals ++ [] := by rw [ht,append_nil]
    refine ⟨?_,?_,?_,?_⟩
    · intro run hw
      rw [hp]
      exact hn.waiting run (waiting_before_same hap hh hw)
    · rw [hp,hh]
      exact hn.own
    · intro c hm
      rw [ht]
      rcases ha c hm with hold | hnew
      · exact hn.accepted c hold
      · exact Nat.le_of_eq hnew
    · rw [hh,ht]
      exact hn.handled
  | noted c ht hp hh _ hs hm _ =>
    exact noted_of_noted hn ht hp hh hs hm
  | ceased run did handled ht hp hh hf _ _ hs =>
    exact noted_of_ceased hn ht hp hh hf hs
  | ended run tr ht hp hh _ ha _ _ =>
    have hl : w.terminals.length ≤ w'.terminals.length := by
      rw [ht,length_append]
      omega
    refine ⟨?_,?_,?_,?_⟩
    · intro o hw
      rw [hp]
      exact hn.waiting o (waiting_before_same ht hh hw)
    · rw [hp,hh]
      exact hn.own
    · rw [ha]
      exact fun c hm => Nat.le_trans (hn.accepted c hm) hl
    · rw [hh]
      exact fun c hm => Nat.le_trans (hn.handled c hm) hl
  | returned run => exact ⟨hn.waiting,hn.own,hn.accepted,hn.handled⟩

lemma spent_append (ht : w'.terminals = w.terminals ++ tr) :
    w'.spent = w.spent ++ tr.filterMap Terminal.cancellation := by
  rw [Worker.spent,ht,filterMap_append]
  rfl

lemma Lawful.own_append (h : Lawful w)
    (ht : w'.terminals = w.terminals ++ tr) (hh : w'.handled = w.handled ++ handled)
    (hn : ∀ te ∈ tr, ∀ did, te.cancellation = some did → te.outcome = .cancelled ∧
        ∃ c ∈ w'.handled, c.run = te.run ∧ c.dispatchId = did) :
    ∀ te ∈ w'.terminals, ∀ did, te.cancellation = some did → te.outcome = .cancelled ∧
        ∃ c ∈ w'.handled, c.run = te.run ∧ c.dispatchId = did := by
  intro te hm did hid
  rw [ht] at hm
  rcases mem_append.1 hm with hold | ha
  · obtain ⟨hca,c,hc,ho⟩ := h.own te hold did hid
    rw [hh]
    exact ⟨hca,c,mem_append_left _ hc,ho⟩
  · exact hn te ha did hid

/-- A step that spends no identity and gives no slot back without a settlement keeps the law. -/
lemma Lawful.kept (h : Lawful w) (ht : w'.terminals = w.terminals ++ tr)
    (hp : ∀ te ∈ tr, te.cancellation = none)
    (hh : w'.handled = w.handled ++ handled) (ha : ∀ run, w'.holders run = none → ¬w'.Waiting run) : Lawful w' := by
  refine ⟨ha,?_,?_⟩
  · have hn : tr.filterMap Terminal.cancellation = [] := by
      rw [filterMap_eq_nil_iff]
      exact hp
    rw [spent_append ht,hn,append_nil]
    exact h.once
  · refine h.own_append ht hh ?_
    intro te hm did hid
    rw [hp te hm] at hid
    cases hid

lemma ceased_lawful_iff {did : String} (h : Lawful w)
    (hn : Noted w) (ht : w'.terminals = w.terminals ++ [⟨run,.cancelled,some did⟩])
    (hh : w'.handled = w.handled ++ handled)
    (hf : ∀ c ∈ handled, c ∈ w.accepted ∧ c.run = run)
    (hown : w.pendingCancellations run = some did ∨ ∃ c ∈ handled, c.dispatchId = did)
    (hho : ∀ o, o ≠ run → w'.holders o = none → w.holders o = none) :
    Lawful w' ↔ did ∉ w.spent := by
  have hs : w'.spent = w.spent ++ [did] := spent_append ht
  constructor
  · intro h' hm
    have ho := h'.once
    rw [hs] at ho
    exact (nodup_append.1 ho).2.2 did hm did (mem_singleton_self _) rfl
  · intro hfre
    refine ⟨?_,?_,?_⟩
    · intro o hfr hw
      by_cases heq : o = run
      · subst heq
        exact not_waiting_of_ceased ht (handled_since hn hh hf) hw
      · rcases waiting_before ht hh hw with hold | ⟨c,hnew,hru,_⟩
        · exact h.answered o (hho o heq hfr) hold
        · exact heq (hru.symm.trans (hf c hnew).2)
    · rw [hs]
      refine nodup_append.2 ⟨h.once,nodup_singleton _,?_⟩
      rintro a ha b hb rfl
      rw [mem_singleton.1 hb] at ha
      exact hfre ha
    · refine h.own_append ht hh ?_
      intro te hm o hid
      rw [mem_singleton.1 hm] at hid ⊢
      cases hid
      refine ⟨rfl,?_⟩
      rw [hh]
      rcases hown with hp | ⟨c,hc,hid⟩
      · obtain ⟨c,hc,howne⟩ := hn.own run did hp
        exact ⟨c,mem_append_left _ hc,howne⟩
      · exact ⟨c,mem_append_right _ hc,(hf c hc).2,hid⟩

/-- A slot that is given back without a settlement leaves the law to who waits for it. -/
lemma releaseSlot_lawful_iff (h : Lawful w) : Lawful (w.releaseSlot run) ↔ ¬w.Waiting run := by
  constructor
  · intro h'
    exact h'.answered run (update_self _ _ _)
  · intro hw
    refine ⟨?_,h.once,h.own⟩
    intro o hf
    by_cases heq : o = run
    · subst heq
      exact hw
    · exact h.answered o ((update_of_ne heq _ _).symm.trans hf)

lemma Effect.lawful_iff (hef : Effect w ba sp w') (h : Lawful w) (hno : Noted w) :
    Lawful w' ↔ (∀ run ∈ ba, ¬w.Waiting run) ∧ ∀ did ∈ sp, did ∉ w.spent := by
  have hn : ∀ P : String → Prop, ∀ x ∈ (none : Option String), P x := by
    intro P x hm
    cases hm
  cases hef with
  | quiet ht _ hh hho _ =>
    rw [← append_nil w.terminals] at ht
    refine iff_of_true (h.kept ht ?_ (hh.trans (append_nil _).symm) ?_) ⟨hn _,hn _⟩
    · exact forall_mem_nil _
    · intro run hf hw
      exact h.answered run (hho run hf) (waiting_before_same ht hh hw)
  | noted c ht _ hh hho _ _ hhel =>
    rw [← append_nil w.terminals] at ht
    refine iff_of_true (h.kept ht ?_ hh ?_) ⟨hn _,hn _⟩
    · exact forall_mem_nil _
    · intro run hf hw
      rw [hho] at hf
      rcases waiting_before ht hh hw with hold | ⟨o,hnew,hru,_⟩
      · exact h.answered run hf hold
      · rw [mem_singleton.1 hnew] at hru
        subst hru
        exact hhel hf
  | ceased run did handled ht _ hh hfr ho hho _ =>
    rw [ceased_lawful_iff h hno ht hh hfr ho hho]
    constructor
    · intro hfre
      refine ⟨hn _,?_⟩
      intro o hm
      cases hm
      exact hfre
    · exact fun hhe => hhe.2 did rfl
  | ended run tr ht _ hh hho _ hp hpl =>
    refine iff_of_true (h.kept ht hpl (hh.trans (append_nil _).symm) ?_) ⟨hn _,hn _⟩
    intro o hf hw
    have hold := waiting_before_same ht hh hw
    rw [hho] at hf
    by_cases heq : o = run
    · subst heq
      exact hno.waiting o hold hp
    · rw [update_of_ne heq] at hf
      exact h.answered o hf hold
  | returned run =>
    rw [releaseSlot_lawful_iff h]
    constructor
    · intro hw
      refine ⟨?_,hn _⟩
      intro o hm
      cases hm
      exact hw
    · exact fun hhe => hhe.1 run rfl

variable (capacity ca : ℕ)

lemma foldl_noted (ls : List Label) : Noted (ls.foldl (step ca) {}) := by
  induction ls using List.reverseRecOn with
  | nil =>
    refine ⟨?_,?_,?_,?_⟩
    · rintro run ⟨c,hm,_⟩
      cases hm
    · intro run did hp
      cases hp
    · exact forall_mem_nil _
    · exact forall_mem_nil _
  | append_singleton ls l ih =>
    rw [foldl_append]
    exact (step_effect ca _ l).noted_kept ih

end

def defaultDispatchIdCapacity : ℕ := 10000

/-- A cancel is handled while a dispatch holds the slot, which then gives it back. -/
def cancelledDuring (action : GraphAction) (ends : Label) : List Label :=
  [.arrives ⟨"run","dispatch-1",action⟩,.reserves 0 false,.acceptsCancel "run" "cancel-1",
    .handlesCancel 0,ends,.returns "run"]

end VaultspecA2A.CancelArbitration
