import Mathlib.Data.List.Basic
import Mathlib.Data.Option.Defs

/-!
# The order of a fold

A list is folded into a state by a step that may fail. If any two members that may
stand next to each other can be exchanged, up to a relation the step respects, then
every reordering of the list gives the same result, up to that relation: a fold that
fails in one order fails in each.

Nothing here depends on what is folded.
-/
namespace VaultspecA2A.Folds
open List

section
variable {S A : Type} {R : S → S → Prop} {step : S → A → Option S}

lemma rel_refl (hre : ∀ s, R s s) (x : Option S) : Option.Rel R x x := by
  cases x with
  | none => exact .none
  | some s => exact .some (hre s)

lemma rel_trans (h : Option.Rel R x y) (g : Option.Rel R y z)
    (ht : ∀ {s t u}, R s t → R t u → R s u) : Option.Rel R x z := by
  cases h with
  | none => exact g
  | some h =>
    cases g with
    | some g => exact .some (ht h g)

lemma rel_bind (hf : ∀ {s t}, R s t → Option.Rel R (f s) (g t))
    (h : Option.Rel R x y) : Option.Rel R (x.bind f) (y.bind g) := by
  cases h with
  | none => exact .none
  | some h => exact hf h

lemma rel_map {T : Type} {R' : T → T → Prop} {f g : S → T} (h : Option.Rel R x y)
    (hf : ∀ {s t}, x = some s → y = some t → R s t → R' (f s) (g t)) :
    Option.Rel R' (x.map f) (y.map g) := by
  cases h with
  | none => exact .none
  | some h => exact .some (hf rfl rfl h)

variable (hcongr : ∀ {s t} (a : A), R s t → Option.Rel R (step s a) (step t a))

include hcongr in
lemma foldlM_congr (l : List A) (h : R s t) : Option.Rel R (l.foldlM step s) (l.foldlM step t) := by
  induction l generalizing s t with
  | nil => exact .some h
  | cons a l ih =>
    rw [foldlM_cons,foldlM_cons]
    exact rel_bind ih (hcongr a h)

include hcongr in
/-- Members that may be exchanged when they are neighbours may be reordered. -/
lemma foldlM_perm (hre : ∀ s, R s s) (htr : ∀ {s t u}, R s t → R t u → R s u)
    {Free : A → A → Prop} (hs : ∀ {a b} (s : S), Free a b →
      Option.Rel R ((step s a).bind fun t => step t b) ((step s b).bind fun t => step t a))
    {l m : List A} (h : l.Perm m) (hf : ∀ a ∈ l, ∀ b ∈ l, Free a b) (s : S) :
    Option.Rel R (l.foldlM step s) (m.foldlM step s) := by
  induction h generalizing s with
  | nil => exact rel_refl hre _
  | cons a h ih =>
    have ht := ih fun b hb c hc =>
      hf b (mem_cons_of_mem _ hb) c (mem_cons_of_mem _ hc)
    rw [foldlM_cons,foldlM_cons]
    cases hst : step s a with
    | none => exact .none
    | some t => exact ht t
  | swap a b l =>
    have hab := hs s (hf b (by simp) a (by simp))
    simp only [foldlM_cons]
    have hres := rel_bind (foldlM_congr hcongr l) hab
    simpa [Option.bind_assoc] using hres
  | trans h _ ih ih' =>
    refine rel_trans (ih hf s) (ih' ?_ s) htr
    exact fun a ha b hb => hf a (h.mem_iff.2 ha) b (h.mem_iff.2 hb)

end

end VaultspecA2A.Folds
