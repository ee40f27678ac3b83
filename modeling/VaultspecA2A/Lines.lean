import Mathlib.Data.List.MinMax
import Mathlib.Data.List.Nodup

/-!
# Waiting lines with numbered places

Those who wait stand in a line, each with a number for its place. A newcomer takes
the number after the highest one still waiting, so numbers are given again once a
line has drained; within one line they grow from front to back all the same. The one
with the lowest number is then the one at the front, and a line that only ever loses
members keeps the order in which they came.

Nothing here depends on what the members are.
-/
namespace VaultspecA2A.Lines
open List

section
variable {R : Type*} {place pl : R → ℕ} {line li : List R} {a : R}

/-- The number after the highest one that is taken. -/
def nextPlace (place : R → ℕ) (line : List R) : ℕ := (line.map place).foldr max 0 + 1

/-- The numbers grow from the front of the line to its back. -/
def Ordered (place : R → ℕ) (line : List R) : Prop := line.Pairwise fun a b => place a < place b

lemma lt_nextPlace (h : a ∈ li) : pl a < nextPlace pl li := by
  induction li with
  | nil => cases h
  | cons b li ih =>
    rw [nextPlace,map_cons,foldr_cons]
    rcases mem_cons.1 h with rfl | hm
    · omega
    · have hlt := ih hm
      rw [nextPlace] at hlt
      omega

/-- A newcomer stands at the back. -/
lemma Ordered.snoc (h : Ordered pl li) (ha : pl a = nextPlace pl li) : Ordered pl (li ++ [a]) := by
  refine pairwise_append.2 ⟨h,pairwise_singleton _ _,?_⟩
  intro b hb c hc
  rw [mem_singleton.1 hc,ha]
  exact lt_nextPlace hb

/-- The lowest number is at the front. -/
lemma Ordered.argmin (h : Ordered pl (a :: li)) : (a :: li).argmin pl = some a := by
  have hb : ∀ b ∈ li, pl a < pl b := (pairwise_cons.1 h).1
  rw [argmin_cons]
  cases hre : li.argmin pl with
  | none => rfl
  | some b =>
    have hlt := hb b (argmin_mem hre)
    dsimp only
    rw [if_neg (by omega)]

/-- The front of a line is the first, among all who ever came, of those still in it. -/
lemma find?_of_sublist [DecidableEq R] {all : List R} (h : (a :: li).Sublist all)
    (hno : all.Nodup) : all.find? (fun b => decide (b ∈ a :: li)) = some a := by
  induction all with
  | nil => cases h
  | cons b all ih =>
    obtain ⟨hn,hre⟩ := nodup_cons.1 hno
    cases h with
    | cons _ h =>
      -- the first who came has left, since it does not stand anywhere behind itself
      have hl : b ∉ a :: li := fun hb => hn (h.subset hb)
      rw [find?_cons_of_neg (by simpa using hl)]
      exact ih h hre
    | cons_cons _ h => simp

/-- Members that are rewritten in place, where none joins, only leave the line. -/
lemma sublist_of_rewritten {T : Type*} {ticket : R → T} (h : ∀ a ∈ li, p (f a) = true → p a = true)
    (ht : ∀ a ∈ li, ticket (f a) = ticket a) :
    (((li.map f).filter p).map ticket).Sublist ((li.filter p).map ticket) := by
  induction li with
  | nil => simp
  | cons a li ih =>
    have hre := ih (fun b hb => h b (mem_cons_of_mem _ hb))
      (fun b hb => ht b (mem_cons_of_mem _ hb))
    rw [map_cons]
    by_cases hs : p (f a) = true
    · rw [filter_cons_of_pos hs,map_cons,ht a mem_cons_self,
        filter_cons_of_pos (h a mem_cons_self hs),map_cons]
      exact hre.cons_cons _
    · rw [filter_cons_of_neg hs]
      by_cases hst : p a = true
      · rw [filter_cons_of_pos hst,map_cons]
        exact hre.cons _
      · rw [filter_cons_of_neg hst]
        exact hre

end

end VaultspecA2A.Lines
