import Mathlib.Data.List.Basic

/-!
# Computations that send commands

A computation sends commands one after the other and returns a value or fails. What was sent before
a failure stays sent. A block is taken apart from its first step on: a command of the block is one
of its first step, or that step returned a value and the command is one of the rest.
-/
namespace VaultspecA2A.CommandTrace

universe u

structure Trace (C E α : Type u) where
  sent : List C
  result : Except E α

namespace Trace
variable {C E α β : Type u} {command co o : C}

def bind (x : Trace C E α) (f : α → Trace C E β) : Trace C E β :=
  match x.result with
  | .error error => ⟨x.sent,.error error⟩
  | .ok a => ⟨x.sent ++ (f a).sent,(f a).result⟩

instance : Monad (Trace C E) where
  pure a := ⟨[],.ok a⟩
  bind := bind

def lift (result : Except E α) : Trace C E α := ⟨[],result⟩

def send (command : C) : Trace C E PUnit := ⟨[command],.ok ⟨⟩⟩

lemma mem_sent_bind {x : Trace C E α} {f : α → Trace C E β} : co ∈ (x >>= f).sent ↔
    co ∈ x.sent ∨ ∃ a, x.result = .ok a ∧ co ∈ (f a).sent := by
  change co ∈ (bind x f).sent ↔ _
  unfold bind
  cases x.result <;> simp

lemma mem_sent_lift_bind {re : Except E α} {f : α → Trace C E β} :
    co ∈ (lift re >>= f).sent ↔ ∃ a, re = .ok a ∧ co ∈ (f a).sent := by
  rw [mem_sent_bind]
  simp [lift]

lemma mem_sent_send_bind {f : PUnit → Trace C E β} :
    co ∈ (send o >>= f).sent ↔ co = o ∨ co ∈ (f ⟨⟩).sent := by
  change co ∈ [o] ++ (f ⟨⟩).sent ↔ _
  simp

lemma not_mem_sent_lift : co ∉ (lift re : Trace C E α).sent := List.not_mem_nil

end Trace

end VaultspecA2A.CommandTrace
