import Mathlib.Order.Basic
import Mathlib.Data.List.Basic
import Mathlib.Data.List.Induction

/-!
# Labelled runs of a step relation

A system is a relation `move s l t`: from the state `s` the step labelled `l`
leads to `t`. The label carries what an observer of the step sees (the call and
its answer), so a list of labels is a history. The rules below turn a fact about
one step into a fact about every run: an invariant of the states, a fact about
every label, a reflexive and transitive relation between an earlier and a later
state, and a relation between an earlier and a later label of one history. The
order of two labels in a history is fixed as soon as one of them occurs. For a step
function there is also an exact rule: under which condition on its steps an
invariant holds throughout a history.

Nothing here depends on what the states are.
-/
namespace VaultspecA2A.Runs
open List

section
variable {S L : Type*} {move mo : S → L → S → Prop}

/-- `Run move s ls t`: the labels `ls`, in order, lead from `s` to `t`. -/
inductive Run (move : S → L → S → Prop) : S → List L → S → Prop
  | done (s : S) : Run move s [] s
  | step {s t u : S} {l : L} {ls : List L} :
      move s l t → Run move t ls u → Run move s (l :: ls) u

lemma Run.single (h : mo s l t) : Run mo s [l] t := .step h (.done t)

lemma Run.append (h : Run mo s ls t) (g : Run mo t ms u) : Run mo s (ls ++ ms) u := by
  induction h with
  | done _ => exact g
  | step hm _ ih => exact .step hm (ih g)

/-- A history cut in two passes through a state at the cut. -/
lemma Run.split (h : Run mo s (ls ++ ms) u) : ∃ t, Run mo s ls t ∧ Run mo t ms u := by
  induction ls generalizing s with
  | nil => exact ⟨s, .done s, h⟩
  | cons l ls ih =>
    cases h with
    | step hm hr =>
      obtain ⟨t, hl, hr⟩ := ih hr
      exact ⟨t, .step hm hl, hr⟩

/-- Under an invariant, a run of one relation is a run of another that has its steps. -/
lemma Run.replace {mv : S → L → S → Prop} (Inv : S → Prop)
    (hst : ∀ {s l t}, Inv s → mo s l t → mv s l t ∧ Inv t)
    (h : Run mo s ls t) (hs : Inv s) : Run mv s ls t := by
  induction h with
  | done s => exact .done s
  | step hm _ ih =>
    obtain ⟨hm',hi⟩ := hst hs hm
    exact .step hm' (ih hi)

lemma Run.invariant (Inv : S → Prop) (hst : ∀ {s l t}, Inv s → mo s l t → Inv t)
    (h : Run mo s ls t) (hs : Inv s) : Inv t := by
  induction h with
  | done _ => exact hs
  | step hm _ ih => exact ih (hst hs hm)

/-- The invariant rule with a history: what a step keeps of the state and of the labels
taken so far. -/
lemma Run.remembers (Inv : S → List L → Prop)
    (hst : ∀ {s lg l t}, Inv s lg → mo s l t → Inv t (lg ++ [l]))
    (h : Run mo s ls t) (hs : Inv s lg) :
    Inv t (lg ++ ls) := by
  induction h generalizing lg with
  | done _ => simpa using hs
  | step hm _ ih => simpa using ih (hst hs hm)

/-- What one step shows of its label under an invariant holds of every label. -/
lemma Run.labels (Inv : S → Prop) (P : L → Prop) (hst : ∀ {s l t}, Inv s → mo s l t → Inv t)
    (hl : ∀ {s l t}, Inv s → mo s l t → P l)
    (h : Run mo s ls t) (hs : Inv s) : ∀ l ∈ ls, P l := by
  induction h with
  | done _ => simp
  | step hm _ ih =>
    exact forall_mem_cons.mpr ⟨hl hs hm, ih (hst hs hm)⟩

/-- A reflexive and transitive relation kept by each step relates the ends. -/
lemma Run.relates (Inv : S → Prop) (R : S → S → Prop) (hst : ∀ {s l t}, Inv s → mo s l t → Inv t)
    (hre : ∀ s, R s s) (ht : ∀ {s t u}, Inv t → R s t → R t u → R s u)
    (ho : ∀ {s l t}, Inv s → mo s l t → R s t)
    (h : Run mo s ls t) (hs : Inv s) : R s t := by
  induction h with
  | done s => exact hre s
  | step hm _ ih => exact ht (hst hs hm) (ho hs hm) (ih (hst hs hm))

/-- The history rule. A step leaves a mark of its label on the state, later steps
keep the mark, and a step taken under the mark of `l` is related to `l`. -/
lemma Run.history (Inv : S → Prop) (Mark : L → S → Prop) (R : L → L → Prop)
    (hst : ∀ {s l t}, Inv s → mo s l t → Inv t)
    (hma : ∀ {s l t}, Inv s → mo s l t → Mark l t)
    (hk : ∀ {s l m t}, Inv s → Mark l s → mo s m t → Mark l t)
    (hre : ∀ {s l m t}, Inv s → Mark l s → mo s m t → R l m)
    (h : Run mo s ls t) (hs : Inv s) : ls.Pairwise R := by
  induction h with
  | done _ => exact List.Pairwise.nil
  | @step s t u l ls hm hr ih =>
    refine List.Pairwise.cons ?_ (ih (hst hs hm))
    exact Run.labels (fun s => Inv s ∧ Mark l s) (R l)
      (fun hi hm' => ⟨hst hi.1 hm', hk hi.1 hi.2 hm'⟩)
      (fun hi hm' => hre hi.1 hi.2 hm') hr ⟨hst hs hm, hma hs hm⟩

/-- The exact invariant rule, for a step function and one history. If a step from a state with
the invariant leads to one with it exactly under a condition on the step, the invariant holds
throughout exactly when every step meets the condition. -/
lemma invariant_throughout_iff (Inv : S → Prop) (Cond : S → L → Prop) (hs : Inv s)
    (hst : ∀ p l q, ls = p ++ l :: q → Inv (p.foldl step s) →
      (Inv (step (p.foldl step s) l) ↔ Cond (p.foldl step s) l)) :
    (∀ p q, ls = p ++ q → Inv (p.foldl step s)) ↔
      ∀ p l q, ls = p ++ l :: q → Cond (p.foldl step s) l := by
  constructor
  · intro hi p l q hl
    refine (hst p l q hl (hi p (l :: q) hl)).1 ?_
    have hn := hi (p ++ [l]) q (by rw [hl,append_assoc]; rfl)
    rw [foldl_append] at hn
    exact hn
  · intro hc p
    induction p using List.reverseRecOn with
    | nil => exact fun _ _ => hs
    | append_singleton p l ih =>
      intro q hl
      have hsp : ls = p ++ l :: q := by
        rw [hl,append_assoc]
        rfl
      rw [foldl_append]
      exact (hst p l q hsp (ih (l :: q) hsp)).2 (hc p l q hsp)

end

section Order
variable {L : Type*} [DecidableEq L] {a b l : L} {history lg : List L}

/-- The label `a` occurs, and no `b` stands before its first occurrence. -/
def Before (a b : L) (history : List L) : Prop := history.idxOf a < history.idxOf b

instance : Decidable (Before a b history) := inferInstanceAs (Decidable (_ < _))

lemma Before.mem (h : Before a b lg) : a ∈ lg :=
  idxOf_lt_length_iff.1 (Nat.lt_of_lt_of_le h idxOf_le_length)

lemma before_of_notMem (ha : a ∈ lg) (hb : b ∉ lg) : Before a b lg := by
  rw [Before,idxOf_eq_length_iff.2 hb]
  exact idxOf_lt_length_iff.2 ha

/-- The order of two labels does not change once one of them has occurred. -/
lemma before_append (h : a ∈ lg ∨ b ∈ lg) : Before a b (lg ++ [l]) ↔ Before a b lg := by
  have hk : ∀ c ∈ lg, (lg ++ [l]).idxOf c = lg.idxOf c := fun c hc => idxOf_append_of_mem hc
  have hl : ∀ c ∉ lg, lg.length ≤ (lg ++ [l]).idxOf c ∧ lg.idxOf c = lg.length := by
    intro c hc
    rw [idxOf_append_of_notMem hc]
    exact ⟨Nat.le_add_right _ _,idxOf_eq_length_iff.2 hc⟩
  have hea : ∀ c ∈ lg, lg.idxOf c < lg.length := fun c hc => idxOf_lt_length_iff.2 hc
  unfold Before
  by_cases ha : a ∈ lg <;> by_cases hb : b ∈ lg
  · rw [hk a ha,hk b hb]
  · rw [hk a ha]
    have := hl b hb
    have := hea a ha
    omega
  · rw [hk b hb]
    have := hl a ha
    have := hea b hb
    omega
  · exact (h.elim ha hb).elim

/-- Of the labels that have occurred, each stands before one that occurs now. -/
lemma before_append_new (hb : b ∉ lg) (hne : a ≠ b) : Before a b (lg ++ [b]) ↔ a ∈ lg := by
  constructor
  · intro h
    have hm := h.mem
    simpa [hne] using hm
  · intro ha
    exact (before_append (.inl ha)).2 (before_of_notMem ha hb)

lemma before_filter (ha : p a = true) (hb : p b = true) :
    Before a b (lg.filter p) ↔ Before a b lg := by
  induction lg with
  | nil => rfl
  | cons l lg ih =>
    unfold Before at ih ⊢
    by_cases hl : p l = true
    · rw [filter_cons_of_pos hl,idxOf_cons,idxOf_cons,idxOf_cons,idxOf_cons]
      cases l == a <;> cases l == b <;> simp [ih]
    · have hne : ∀ c, p c = true → l ≠ c := fun c hc heq => hl (heq ▸ hc)
      rw [filter_cons_of_neg hl,ih,idxOf_cons_ne _ (hne a ha),
        idxOf_cons_ne _ (hne b hb),Nat.succ_lt_succ_iff]

lemma Before.trans (h : Before a b lg) (g : Before b c lg) : Before a c lg := Nat.lt_trans h g

end Order

end VaultspecA2A.Runs
