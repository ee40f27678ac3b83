import VaultspecA2A.Leases
import VaultspecA2A.Runs
import VaultspecA2A.ControlActions

/-!
# Leases of control actions

A dispatcher owns an unapplied journal action through a claim token and an expiry
that stand in two columns of the row. Acquisition and renewal are one conditional
update; release and settlement name the stored token and do not look at its
expiry. Each is one statement of the store, so calls interleave freely, and the
clock of the callers never goes back.

The columns of the row are an implementation of the ledger of a lease: they hold
the grant in force, and every call that reports success is an event the ledger
admits.
-/
namespace VaultspecA2A.ActionLeases
open Runs Tables Leases ThreadLifecycle Database ControlActions Option

def controlActionLeaseTtl : Instant := 90 * second

/-- Nobody owns the lease at that instant: never taken, released, or lapsed. -/
def unheld (a : ControlActionModel) (at' : Instant) : Bool :=
  a.claimToken.isNone || a.claimExpiresAt.isNone || a.claimExpiresAt.any (· ≤ at')

def acquirableBy (a : ControlActionModel) (token : String) (at' : Instant) : Bool :=
  unheld a at' || decide (a.claimToken = some token)

/-- The token is the recorded owner, whether or not its expiry has passed. -/
def heldBy (a : ControlActionModel) (token : String) : Bool := decide (a.claimToken = some token)

def granted (token : String) (expiresAt : Instant) (a : ControlActionModel) : ControlActionModel :=
  { a with claimToken := some token, claimExpiresAt := some expiresAt }

def released (a : ControlActionModel) : ControlActionModel :=
  { a with claimToken := none, claimExpiresAt := none }

/-- One conditional statement on the row of an action: the store after it, and
whether it matched exactly that row. -/
def updateAction (s : Store) (actionId : String) (where' : ControlActionModel → Bool)
    (values : ControlActionModel → ControlActionModel) : Except Raised (Store × Bool) :=
  let wanted := fun a : ControlActionModel => decide (a.id = actionId) && where' a
  match s.controlActions.updateWhere wanted values with
  | none => .error .integrityError
  | some actions =>
    .ok ({ s with controlActions := actions },decide (s.controlActions.affected wanted = 1))

def acquireControlActionLease (s : Store) (actionId claimToken : String)
    (claimExpiresAt now : Instant) : Except Raised (Store × Bool) :=
  if claimToken.isEmpty then .error (.valueError "claim_token must not be empty")
  else if claimExpiresAt ≤ now then
    .error (.valueError "claim_expires_at must be later than acquired_at")
  else
    updateAction s actionId (fun a => a.appliedAt.isNone && acquirableBy a claimToken now)
      (granted claimToken claimExpiresAt)

def heldUnapplied (claimToken : String) (a : ControlActionModel) : Bool :=
  a.appliedAt.isNone && heldBy a claimToken

/-- Release ownership only for a dispatch proven not to have been delivered. -/
def releaseControlActionLease (s : Store) (actionId claimToken : String) :
    Except Raised (Store × Bool) :=
  updateAction s actionId (heldUnapplied claimToken) released

/-- Settle application iff the caller still owns the durable lease. -/
def settleControlActionLease (s : Store) (actionId claimToken : String) (appliedAt : Instant)
    (resultStatus : ControlActionResultStatus := .applied) : Except Raised (Store × Bool) :=
  updateAction s actionId (heldUnapplied claimToken) fun a =>
    released { a with appliedAt := some appliedAt, resultStatus := resultStatus }

def takeActionLease (s : Store) (actionId freshToken : String) (now : Instant) :
    Except Raised (Store × Option String) :=
  match acquireControlActionLease s actionId freshToken (now + controlActionLeaseTtl) now with
  | .error e => .error e
  | .ok (s',won) => .ok (s',if won then some freshToken else none)

section
variable {wh : ControlActionModel → Bool}
variable {vs : ControlActionModel → ControlActionModel}

lemma updateAction_rows (h : updateAction s aid wh vs = .ok (t,ma)) :
    t = { s with controlActions := t.controlActions } ∧
      s.controlActions.updateWhere (fun a => decide (a.id = aid) && wh a) vs =
        some t.controlActions ∧
      ma = decide (s.controlActions.affected (fun a => decide (a.id = aid) && wh a) = 1) := by
  unfold updateAction at h
  dsimp only at h
  split at h
  · cases h
  · rename_i hup
    cases h
    exact ⟨rfl,hup,rfl⟩

lemma updateAction_ok (hid : ∀ a, (vs a).id = a.id) (h : updateAction s aid wh vs = .ok (t,ma)) :
    (ma = true → ∃ row, getControlAction s aid = some row ∧ wh row = true ∧
      getControlAction t aid = some (vs row)) ∧
    (ma = false → t = s) := by
  obtain ⟨hs,hup,rfl⟩ := updateAction_rows h
  rcases Table.updateWhere_keyed ControlActionModel.id action_id_unique hid hup with
    ⟨row,hrow,hw,ha,ho⟩ | ⟨hsa,hz⟩
  · refine ⟨fun _ => ⟨row,hrow,hw,ha⟩,fun hm => ?_⟩
    simp [ho] at hm
  · refine ⟨fun hh => ?_,fun _ => by rw [hs,hsa]⟩
    simp [hz] at hh

lemma updateAction_matched (hrow : getControlAction s aid = some row) (hw : wh row = true)
    (h : updateAction s aid wh vs = .ok (t,ma)) : ma = true := by
  have ho : s.controlActions.affected (fun a => decide (a.id = aid) && wh a) = 1 := by
    rw [Table.affected_keyed ControlActionModel.id action_id_unique]
    unfold getControlAction at hrow
    simp only [hrow,hw,if_true]
  rw [(updateAction_rows h).2.2]
  exact decide_eq_true ho

lemma takeActionLease_ok (h : takeActionLease s aid tk now = .ok (t,tn)) :
    ∃ won, tn = (if won then some tk else none) ∧
      updateAction s aid (fun a => a.appliedAt.isNone && acquirableBy a tk now)
        (granted tk (now + controlActionLeaseTtl)) = .ok (t,won) := by
  unfold takeActionLease at h
  split at h
  · cases h
  rename_i won ha
  cases h
  unfold acquireControlActionLease at ha
  split_ifs at ha
  exact ⟨won,rfl,ha⟩

end

inductive LeaseCall
  | acquire (claimToken : String) (claimExpiresAt : Instant)
  | release (claimToken : String)
  | settle (claimToken : String) (appliedAt : Instant) (resultStatus : ControlActionResultStatus)

def perform (s : Store) (actionId : String) (now : Instant) :
    LeaseCall → Except Raised (Store × Bool)
  | .acquire token expiresAt => acquireControlActionLease s actionId token expiresAt now
  | .release token => releaseControlActionLease s actionId token
  | .settle token appliedAt status => settleControlActionLease s actionId token appliedAt status

/-- The event of the lease that a call stands for when it succeeds. -/
def LeaseCall.event : LeaseCall → Event String Instant
  | .acquire token expiresAt => .granted token expiresAt
  | .release token => .dropped token
  | .settle token _ _ => .closed token

inductive Label
  | call (call : LeaseCall) (now : Instant) (answer : Except Raised Bool)
  | tick
  | elsewhere

/-- The successful calls of a history, each with its instant. -/
def Label.success : Label → Option (Instant × Event String Instant)
  | .call c now (.ok true) => some (now,c.event)
  | _ => none

/-- The store and the clock all callers share. -/
structure Clocked where
  store : Store
  now : Instant

inductive Move (actionId : String) : Clocked → Label → Clocked → Prop
  | answered {s t : Store} {now : Instant} {call : LeaseCall} {b : Bool} :
      perform s actionId now call = .ok (t,b) →
      Move actionId ⟨s,now⟩ (.call call now (.ok b)) ⟨t,now⟩
  | refused {s : Store} {now : Instant} {call : LeaseCall} {e : Raised} :
      perform s actionId now call = .error e →
      Move actionId ⟨s,now⟩ (.call call now (.error e)) ⟨s,now⟩
  | tick {s : Store} {now later : Instant} : now ≤ later → Move actionId ⟨s,now⟩ .tick ⟨s,later⟩
  | elsewhere {s t : Store} {now : Instant} :
      getControlAction t actionId = getControlAction s actionId →
      Move actionId ⟨s,now⟩ .elsewhere ⟨t,now⟩

structure Implements (row : ControlActionModel) (γ : Ledger String Instant) : Prop where
  paired : row.claimToken.isSome = row.claimExpiresAt.isSome
  grant : ∀ token expiry, row.claimToken = some token → row.claimExpiresAt = some expiry →
    γ.grant = some (token,expiry)
  vacant : row.claimToken = none → γ.grant = none
  last : ∀ token, row.claimToken = some token → γ.last = some token
  closed : γ.isClosed = row.appliedAt.isSome

variable {actionId aid token tk : String} {row : ControlActionModel}
lemma perform_success (h : perform s aid now call = .ok (t,true)) :
    ∃ row, getControlAction s aid = some row ∧ row.appliedAt = none ∧
      match call with
      | .acquire tk ex => acquirableBy row tk now = true ∧
          getControlAction t aid = some (granted tk ex row)
      | .release tk => row.claimToken = some tk ∧ getControlAction t aid = some (released row)
      | .settle tk aa su => row.claimToken = some tk ∧ getControlAction t aid =
            some (released { row with appliedAt := some aa, resultStatus := su }) := by
  cases call with
  | acquire tk ex =>
    simp only [perform,acquireControlActionLease] at h
    split_ifs at h
    obtain ⟨row,hrow,hw,ha⟩ := (updateAction_ok (fun _ => by rfl) h).1 rfl
    simp only [Bool.and_eq_true,isNone_iff_eq_none] at hw
    exact ⟨row,hrow,hw.1,hw.2,ha⟩
  | release tk =>
    obtain ⟨row,hrow,hw,ha⟩ := (updateAction_ok (fun _ => by rfl) h).1 rfl
    simp only [heldUnapplied,heldBy,Bool.and_eq_true,isNone_iff_eq_none,decide_eq_true_eq] at hw
    exact ⟨row,hrow,hw.1,hw.2,ha⟩
  | settle tk aa su =>
    obtain ⟨row,hrow,hw,ha⟩ := (updateAction_ok (fun _ => by rfl) h).1 rfl
    simp only [heldUnapplied,heldBy,Bool.and_eq_true,isNone_iff_eq_none,decide_eq_true_eq] at hw
    exact ⟨row,hrow,hw.1,hw.2,ha⟩

lemma perform_failure (h : perform s aid now call = .ok (t,false)) : t = s := by
  cases call with
  | acquire tk ex =>
    simp only [perform,acquireControlActionLease] at h
    split_ifs at h
    exact (updateAction_ok (fun _ => by rfl) h).2 rfl
  | release tk => exact (updateAction_ok (fun _ => by rfl) h).2 rfl
  | settle tk aa su => exact (updateAction_ok (fun _ => by rfl) h).2 rfl

lemma Implements.acquirable (hi : Implements row γ)
    (ha : acquirableBy row tk now = true) (hg : γ.grant = some (o,ex)) :
    o = tk ∨ ex ≤ now := by
  cases ht : row.claimToken with
  | none =>
    rw [hi.vacant ht] at hg
    cases hg
  | some st =>
    have hp := hi.paired
    rw [ht] at hp
    obtain ⟨ut,hex⟩ := isSome_iff_exists.mp hp.symm
    rw [hi.grant st ut ht hex] at hg
    obtain ⟨rfl,rfl⟩ := Prod.mk.inj (Option.some.inj hg)
    simp only [acquirableBy,unheld,ht,hex,isNone_some,Bool.false_or,
      any_some,Bool.or_eq_true,decide_eq_true_eq,Option.some.injEq] at ha
    exact ha.symm

lemma implements_released (hto : row.claimToken = none) (hex : row.claimExpiresAt = none)
    (hg : γ.grant = none) (hc : γ.isClosed = row.appliedAt.isSome) : Implements row γ where
  paired := by rw [hto,hex]; rfl
  grant := fun tk ex ht => by rw [hto] at ht; cases ht
  vacant := fun _ => hg
  last := fun tk ht => by rw [hto] at ht; cases ht
  closed := hc

lemma implements_granted (hi : Implements row γ) :
    Implements (granted tk ex row) (γ.record (.granted tk ex)) where
  paired := rfl
  grant := fun _ _ ht he => by cases ht; cases he; rfl
  vacant := fun ht => by cases ht
  last := fun _ ht => by cases ht; rfl
  closed := hi.closed

lemma perform_admitted (h : perform s aid now call = .ok (t,true))
    (hrow : getControlAction s aid = some row) (hi : Implements row γ) :
    γ.Admits now call.event ∧
      ∃ ro, getControlAction t aid = some ro ∧ Implements ro (γ.record call.event) := by
  obtain ⟨row₀,hrow₀,hap,hc⟩ := perform_success h
  cases Option.some.inj (hrow.symm.trans hrow₀)
  have ho : γ.isClosed = false := by rw [hi.closed,hap]; rfl
  cases call with
  | acquire tk ex =>
    obtain ⟨hac,ha⟩ := hc
    exact ⟨⟨ho,fun o e hg => hi.acquirable hac hg⟩,_,ha,implements_granted hi⟩
  | release tk =>
    obtain ⟨ht,ha⟩ := hc
    exact ⟨⟨ho,hi.last tk ht⟩,_,ha,implements_released rfl rfl rfl hi.closed⟩
  | settle tk aa su =>
    obtain ⟨ht,ha⟩ := hc
    exact ⟨⟨ho,hi.last tk ht⟩,_,ha,implements_released rfl rfl rfl rfl⟩

lemma run_legal (hru : Run (Move aid) σ ls τ)
    (hrow : getControlAction σ.store aid = some row) (hi : Implements row γ) :
    γ.Legal (ls.filterMap Label.success) := by
  induction hru generalizing row γ with
  | done _ => trivial
  | @step _ _ _ _ ls hm _ ih =>
    cases hm with
    | @answered s t now call b h =>
      cases b with
      | true =>
        obtain ⟨ha,ro,hrow',hi'⟩ := perform_admitted h hrow hi
        change γ.Legal ((now,call.event) :: ls.filterMap Label.success)
        exact ⟨ha,ih hrow' hi'⟩
      | false =>
        cases perform_failure h
        exact ih hrow hi
    | refused _ => exact ih hrow hi
    | tick _ => exact ih hrow hi
    | elsewhere hs => exact ih (hs.trans hrow) hi

/-- A store in which the action has just been journaled. -/
def Journaled (actionId : String) (s : Store) : Prop :=
  ∃ s₀ args drawn row, createControlAction s₀ args drawn = .ok (s,row) ∧ row.id = actionId

/-- In every interleaving of acquisitions, renewals, releases and settlements of one
action under a clock that never goes back: each success is one the rule of
exclusive ownership admits, and nothing succeeds after a settlement. -/
theorem leases_exclusive {actionId : String} {s : Store} {now : Instant} {τ : Clocked}
    {ls : List Label} (hstart : Journaled actionId s) (hrun : Run (Move actionId) ⟨s,now⟩ ls τ) :
    Ledger.fresh.Legal (ls.filterMap Label.success) ∧
      (ls.filterMap Label.success).Pairwise fun e _ => ∀ token, e.2 ≠ .closed token := by
  obtain ⟨s₀,args,drawn,row,hc,rfl⟩ := hstart
  have hrow := (createControlAction_found hc).1
  have hi : Implements row Ledger.fresh := by
    cases (createControlAction_ok hc).1
    exact implements_released rfl rfl rfl rfl
  have hl := run_legal hrun hrow hi
  exact ⟨hl,hl.closed_last⟩

/-- One dispatcher takes the lease and settles the action under it. -/
theorem leases_exclusive_settled_once :
    ∃ s τ ls, Journaled "action-1" s ∧ Run (Move "action-1") ⟨s,0⟩ ls τ ∧
      ls.filterMap Label.success = [(0,.granted "token-1" 90),(0,.closed "token-1")] ∧
      Ledger.fresh.Legal (ls.filterMap Label.success) := by
  let args : ActionArgs :=
    { threadId := "run-1", actionType := .cancel, idempotencyKey := "cancel:1"
      recoveryDeadlineAt := some 300 }
  have hc : ∃ s row, createControlAction Store.empty args ⟨"action-1","dispatch-1"⟩ =
      .ok (s,row) ∧ row.id = "action-1" := ⟨_,_,rfl,rfl⟩
  obtain ⟨s,row,hs,hid⟩ := hc
  have ha : ∃ t, perform s "action-1" 0 (.acquire "token-1" 90) = .ok (t,true) := by
    cases hs
    exact ⟨_,rfl⟩
  obtain ⟨t,ht⟩ := ha
  have hse : ∃ u, perform t "action-1" 0 (.settle "token-1" 0 .applied) = .ok (u,true) := by
    cases hs
    cases ht
    exact ⟨_,rfl⟩
  obtain ⟨u,hu⟩ := hse
  have hst : Journaled "action-1" s := ⟨_,_,_,row,hs,hid⟩
  have hru : Run (Move "action-1") ⟨s,0⟩
      [.call (.acquire "token-1" 90) 0 (.ok true),.call (.settle "token-1" 0 .applied) 0 (.ok true)]
      ⟨u,0⟩ := .step (.answered ht) (.single (.answered hu))
  exact ⟨s,_,_,hst,hru,rfl,(leases_exclusive hst hru).1⟩

end VaultspecA2A.ActionLeases
