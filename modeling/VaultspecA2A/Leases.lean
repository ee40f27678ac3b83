import Mathlib.Order.Basic
import Mathlib.Data.List.Basic

/-!
# Expiring ownership

A lease is granted to an owner until an expiry, dropped, or closed for good. The
ledger of a lease keeps the grant in force, the owner that was granted last, and
whether the lease was closed. `Admits` is the rule of exclusive ownership: a
grant is due when nobody else's grant is unexpired, only the last owner may drop
or close, and nothing happens to a closed lease. A legal history follows the
rule at each event, so in it a closing event is the last one.
-/
namespace VaultspecA2A.Leases

section
variable {T Time : Type*}

inductive Event (T Time : Type*)
  | granted (owner : T) (expiry : Time)
  | dropped (owner : T)
  | closed (owner : T)

structure Ledger (T Time : Type*) where
  grant : Option (T × Time)
  last : Option T
  isClosed : Bool

variable {γ : Ledger T Time} {es : List (Time × Event T Time)}

namespace Ledger

def fresh : Ledger T Time := ⟨none,none,false⟩

def record (γ : Ledger T Time) : Event T Time → Ledger T Time
  | .granted owner expiry => ⟨some (owner,expiry),some owner,γ.isClosed⟩
  | .dropped _ => ⟨none,γ.last,γ.isClosed⟩
  | .closed _ => ⟨none,γ.last,true⟩

variable [LE Time]

/-- The rule of exclusive ownership at the instant `now`. -/
def Admits (γ : Ledger T Time) (now : Time) : Event T Time → Prop
  | .granted owner _ =>
    γ.isClosed = false ∧ ∀ other expiry, γ.grant = some (other,expiry) →
      other = owner ∨ expiry ≤ now
  | .dropped owner => γ.isClosed = false ∧ γ.last = some owner
  | .closed owner => γ.isClosed = false ∧ γ.last = some owner

lemma Admits.open (h : γ.Admits now e) : γ.isClosed = false := by
  cases e with
  | granted ow ex => exact h.1
  | dropped ow => exact h.1
  | closed ow => exact h.1

/-- Each event of the history is admitted by the ledger of the events before it. -/
def Legal (γ : Ledger T Time) : List (Time × Event T Time) → Prop
  | [] => True
  | (now,e) :: es => γ.Admits now e ∧ Legal (γ.record e) es

lemma Legal.nil_of_closed (h : γ.Legal es) (hc : γ.isClosed = true) : es = [] := by
  cases es with
  | nil => rfl
  | cons e es =>
    have ho := h.1.open
    rw [hc] at ho
    cases ho

/-- Nothing follows a closing event. -/
lemma Legal.closed_last (h : γ.Legal es) : es.Pairwise fun e _ => ∀ ow, e.2 ≠ .closed ow := by
  induction es generalizing γ with
  | nil => exact List.Pairwise.nil
  | cons e es ih =>
    refine List.Pairwise.cons (fun f hf ow he => ?_) (ih h.2)
    have hc : (γ.record e.2).isClosed = true := by rw [he]; rfl
    have hn := h.2.nil_of_closed hc
    rw [hn] at hf
    cases hf

end Ledger
end

end VaultspecA2A.Leases
