import VaultspecA2A.ActionClaims

/-!
# Receipts between elections

The receipt of an accepted action is stored by the first call that finds the action to be the
writer of its run, with the revision of that moment. Elections move the revision on, and with
another action they move the writer. Here elections and calls follow each other in any order,
each in a transaction of its own.
-/
namespace VaultspecA2A.ReceiptPersistence
open Tables ThreadLifecycle Database ThreadElections ActionClaims List

inductive Call
  | elect (threadId : String) (call : ElectionCall)
  | persist (receipt : GraphActionReceipt) (expectation : ThreadWriteExpectation)

/-- The store after a call and the receipt it returned; one that raises is rolled back. -/
def perform (s : Store) : Call → Store × Option GraphActionReceipt
  | .elect threadId call =>
    match elect s threadId call with
    | .ok (s',_) => (s',none)
    | .error _ => (s,none)
  | .persist receipt expectation =>
    match persistGraphActionReceipt s receipt expectation with
    | .ok answered => answered
    | .error _ => (s,none)

def after (s : Store) (history : List Call) : Store :=
  history.foldl (fun s call => (perform s call).1) s

def returned (s : Store) (history : List Call) (call : Call) : Option GraphActionReceipt :=
  (perform (after s history) call).2

/-- The journal holds this receipt for the action. -/
def Stores (s : Store) (actionId : String) (receipt : GraphActionReceipt) : Prop :=
  ∃ a ∈ s.controlActions.rows, a.id = actionId ∧ a.graphReceipt = some receipt

/-- The receipt's action writes the run, under the receipt's generation and at its revision or
a later one. -/
def WriterOf (s : Store) (receipt : GraphActionReceipt) : Prop :=
  ∃ thread ∈ s.threads.rows, thread.id = receipt.threadId ∧
    thread.authority.ownedBy receipt.actionType (some receipt.dispatchId)
      (some receipt.writerGeneration) (some receipt.runRevision) false = true

variable {s t : Store} {rc r : GraphActionReceipt} {ex : ThreadWriteExpectation} {id : String}

/-- A row keeps its id, and a receipt once it has one. -/
structure Keeps (a b : ControlActionModel) : Prop where
  id : b.id = a.id
  receipt : ∀ r, a.graphReceipt = some r → b.graphReceipt = some r

lemma persist_keeps (h : persistGraphActionReceipt s rc ex = .ok (t,st)) :
    s.controlActions.Rewrites Keeps (fun _ => False) t.controlActions := by
  have hrefl : ∀ a, Keeps a a := fun a => ⟨rfl,fun _ => id⟩
  unfold persistGraphActionReceipt at h
  dsimp only at h
  split at h
  · cases h
    exact .refl hrefl _
  split at h
  · cases h
  rename_i u hup
  cases h
  refine .updateWhere (f := attachReceipt rc) hrefl (fun a hp _ => ⟨rfl,fun r hr => ?_⟩) hup
  rw [hr] at hp
  simp at hp

lemma elect_journal (h : elect s id call = .ok (t,oc)) : t.controlActions = s.controlActions := by
  by_cases ho : oc = .won
  · subst ho
    obtain ⟨_,_,hw⟩ := elect_won h
    exact hw.journal_same
  · rw [elect_missed ho h]

lemma perform_stores (c : Call) (h : Stores s id r) : Stores (perform s c).1 id r := by
  cases c with
  | elect run call =>
    cases hel : elect s run call with
    | error e =>
      rw [perform,hel]
      exact h
    | ok v =>
      rw [perform,hel]
      obtain ⟨a,ha,hs⟩ := h
      exact ⟨a,elect_journal hel ▸ ha,hs⟩
  | persist rc ex =>
    cases hp : persistGraphActionReceipt s rc ex with
    | error e =>
      rw [perform,hp]
      exact h
    | ok v =>
      rw [perform,hp]
      obtain ⟨a,ha,hid,hr⟩ := h
      obtain ⟨b,hb,hk⟩ := (persist_keeps hp).kept ha
      exact ⟨b,hb,hk.id.trans hid,hk.receipt r hr⟩

lemma after_stores (history : List Call) (h : Stores s id r) : Stores (after s history) id r := by
  induction history generalizing s with
  | nil => exact h
  | cons c history ih => exact ih (perform_stores c h)

lemma Stores.unique (h : Stores s id r) (h' : Stores s id r') : r = r' := by
  obtain ⟨a,ha,hid,hr⟩ := h
  obtain ⟨b,hb,hid',hr'⟩ := h'
  have he : a = b := Table.eq_of_not_fits ha hb (fun hf => hf.1 (hid.trans hid'.symm))
    fun hf => hf.1 (hid'.trans hid.symm)
  rw [he,hr'] at hr
  exact (Option.some.inj hr).symm

lemma persist_returned (h : (perform s (.persist rc ex)).2 = some r) :
    Stores (perform s (.persist rc ex)).1 rc.actionId r ∧ WriterOf s r := by
  rw [perform] at h ⊢
  cases hp : persistGraphActionReceipt s rc ex with
  | error e =>
    rw [hp] at h
    cases h
  | ok v =>
    rw [hp] at h
    dsimp only at h ⊢
    unfold persistGraphActionReceipt at hp
    dsimp only at hp
    split at hp
    · cases hp
      cases h
    split at hp
    · cases hp
    cases hp
    obtain ⟨hst,hma⟩ := Option.filter_eq_some_iff.1 h
    split_ifs at hst with hown
    obtain ⟨a,ha,hra⟩ := Option.bind_eq_some_iff.1 hst
    have hna : a.id = rc.actionId := by
      have hn := find?_some ha
      simp only [receiptNames,Bool.and_eq_true,decide_eq_true_eq] at hn
      exact hn.1
    simp only [receiptMatches,Bool.and_eq_true,decide_eq_true_eq,Option.all_some] at hma
    obtain ⟨th,hth,hw⟩ := any_eq_true.1 hown
    rw [Bool.and_eq_true,decide_eq_true_eq] at hw
    refine ⟨⟨a,mem_of_find?_eq_some ha,hna,(Option.filter_eq_some_iff.1 hra).1⟩,th,hth,?_,?_⟩
    · exact hw.1.trans hma.1.1.symm
    · rw [(witnessed_iff.1 hw.2).2.1]
      exact hma.2

/-- A stored receipt stays. A receipt is returned while its action writes the run, and it is
the one every other call for the action returns. -/
theorem receipts_stable (s : Store) (before : List Call) :
    (∀ more actionId receipt, Stores (after s before) actionId receipt →
        Stores (after s (before ++ more)) actionId receipt ∧
        ∀ other, Stores (after s (before ++ more)) actionId other → other = receipt) ∧
      ∀ asked expectation receipt, returned s before (.persist asked expectation) = some receipt →
        WriterOf (after s before) receipt ∧
        ∀ more again expectation' other, again.actionId = asked.actionId →
          returned s (before ++ .persist asked expectation :: more)
            (.persist again expectation') = some other → other = receipt := by
  refine ⟨fun more id r h => ?_,fun asked ex r h => ?_⟩
  · rw [after,foldl_append]
    have hs := after_stores more h
    exact ⟨hs,fun other ho => ho.unique hs⟩
  · obtain ⟨hst,hw⟩ := persist_returned h
    refine ⟨hw,fun more again ex' other hid ho => ?_⟩
    have hs : Stores (after s (before ++ .persist asked ex :: more)) asked.actionId r := by
      rw [after,foldl_append]
      exact after_stores more hst
    obtain ⟨hother,-⟩ := persist_returned ho
    rw [hid] at hother
    exact hother.unique (perform_stores _ hs)

end VaultspecA2A.ReceiptPersistence
