import Mathlib.Order.Nat
import Mathlib.Tactic.Common

/-!
# Fenced writers

A fence records how often a cell was written, who wrote it last, and an epoch
that grows exactly when the writer changes. `Later` is what one fence may become
by any number of writes: it never goes back, the same revision is the same fence,
and within one epoch there is only one writer. It is a preorder, and one write
is a step of it.
-/
namespace VaultspecA2A.Fences

@[ext] structure Fence (W : Type*) where
  revision : ℕ
  epoch : ℕ
  writer : W

namespace Fence
section
variable {W : Type*}

def advance [DecidableEq W] (f : Fence W) (w : W) : Fence W :=
  ⟨f.revision + 1,if f.writer = w then f.epoch else f.epoch + 1,w⟩

def Later (f g : Fence W) : Prop :=
  f.revision ≤ g.revision ∧ f.epoch ≤ g.epoch ∧ (f.revision = g.revision → f = g) ∧
    (f.epoch = g.epoch → f.writer = g.writer)

lemma Later.refl (f : Fence W) : Later f f := ⟨le_rfl,le_rfl,fun _ => rfl,fun _ => rfl⟩

lemma Later.trans {f g h : Fence W} (hfg : Later f g) (hgh : Later g h) : Later f h := by
  obtain ⟨hr₁,he₁,hs₁,hw₁⟩ := hfg
  obtain ⟨hr₂,he₂,hs₂,hw₂⟩ := hgh
  refine ⟨hr₁.trans hr₂,he₁.trans he₂,fun hr => ?_,fun he => ?_⟩
  · have hrg : f.revision = g.revision := by omega
    have hrh : g.revision = h.revision := by omega
    exact (hs₁ hrg).trans (hs₂ hrh)
  · have heg : f.epoch = g.epoch := by omega
    have heh : g.epoch = h.epoch := by omega
    exact (hw₁ heg).trans (hw₂ heh)

lemma later_advance [DecidableEq W] (f : Fence W) (w : W) : Later f (f.advance w) := by
  refine ⟨Nat.le_succ _,?_,fun hr => ?_,fun he => ?_⟩
  · unfold advance
    dsimp only
    split_ifs <;> omega
  · simp only [advance] at hr
    omega
  · simp only [advance] at he ⊢
    split_ifs at he with hw
    · exact hw
    · omega

end
end Fence

end VaultspecA2A.Fences
