import Mathlib.Data.List.Perm.Basic

/-!
# Lists taken apart

A list is read through what each of its members yields. Members can be dropped from the
reading without a change exactly when they yield nothing, and a reading by distinct keys,
one group after the other, yields what the list does, in another order. So does a fold
that appends, member by member.

Nothing here depends on what the lists hold.
-/
namespace VaultspecA2A.Selections
open List

variable {A B K : Type}

lemma flatMap_filter_perm (ke : A → Bool) (f : A → List B) (l : List A) :
    (l.flatMap f).Perm ((l.filter ke).flatMap f ++ (l.filter fun a => !ke a).flatMap f) := by
  rw [← flatMap_append]
  exact List.Perm.flatMap_right f (filter_append_perm ke l).symm

/-- Members are dropped without a change exactly when they yield nothing. -/
lemma flatMap_filter_eq_iff (ke : A → Bool) (f : A → List B) (l : List A) :
    l.flatMap f = (l.filter ke).flatMap f ↔ ∀ a ∈ l, ke a = false → f a = [] := by
  constructor
  · intro h a ha hd
    have hle := (flatMap_filter_perm ke f l).length_eq
    rw [h,length_append] at hle
    have hn : (l.filter fun a => !ke a).flatMap f = [] := length_eq_zero_iff.mp (by omega)
    have hm : a ∈ l.filter fun a => !ke a := mem_filter.mpr ⟨ha, by rw [hd]; rfl⟩
    exact flatMap_eq_nil_iff.mp hn a hm
  · intro h
    induction l with
    | nil => rfl
    | cons a l ih =>
      have hl := ih fun b hb => h b (mem_cons_of_mem a hb)
      cases hk : ke a with
      | true => rw [filter_cons_of_pos hk,flatMap_cons,flatMap_cons,hl]
      | false =>
        rw [filter_cons_of_neg (by simp [hk]),flatMap_cons,h a mem_cons_self hk,nil_append,hl]

/-- A state that every step appends to has what all the members yield. -/
lemma foldl_view {S : Type} {step : S → A → S} {view : S → List B}
    (h : ∀ s a, view (step s a) = view s ++ f a) (l : List A) (s : S) :
    view (l.foldl step s) = view s ++ l.flatMap f := by
  induction l generalizing s with
  | nil => rw [foldl_nil,flatMap_nil,append_nil]
  | cons a l ih => rw [foldl_cons,ih,h,append_assoc,flatMap_cons]

lemma flatMap_groups_perm [DecidableEq K] (key : A → K) (f : A → List B) {keys : List K}
    (hno : keys.Nodup) {l : List A} (hc : ∀ a ∈ l, key a ∈ keys) :
    (keys.flatMap fun k => (l.filter fun a => decide (key a = k)).flatMap f).Perm
      (l.flatMap f) := by
  induction keys generalizing l with
  | nil =>
    have hn : l = [] := eq_nil_iff_forall_not_mem.mpr fun a ha => not_mem_nil (hc a ha)
    rw [hn]
    exact .nil
  | cons k keys ih =>
    obtain ⟨hk, hke⟩ := nodup_cons.mp hno
    -- what the first key leaves is covered by the others, and their groups lie in it
    have hre : ∀ a ∈ l.filter (fun a => !decide (key a = k)), key a ∈ keys := by
      intro a ha
      obtain ⟨hm, hne⟩ := mem_filter.mp ha
      rcases mem_cons.mp (hc a hm) with h | h
      · simp [h] at hne
      · exact h
    have hgr : (keys.flatMap fun j => (l.filter fun a => decide (key a = j)).flatMap f) =
        keys.flatMap fun j => ((l.filter fun a => !decide (key a = k)).filter
          fun a => decide (key a = j)).flatMap f := by
      apply flatMap_congr
      intro j hj
      rw [filter_filter]
      congr 1
      apply filter_congr
      intro a _
      have hjk : j ≠ k := fun h => hk (h ▸ hj)
      by_cases h : key a = j
      · simp [h,hjk]
      · simp [h]
    rw [flatMap_cons,hgr]
    exact ((ih hke hre).append_left _).trans
      (flatMap_filter_perm (fun a => decide (key a = k)) f l).symm

end VaultspecA2A.Selections
