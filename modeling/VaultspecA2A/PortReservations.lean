import Mathlib.Logic.Function.Basic
import VaultspecA2A.Runs

/-!
# Reserved ports

A process reserves a port of its role by creating a marker file that did not exist, and stamps
it with its number. A marker whose process is dead is unlinked first. Looking, judging,
unlinking, creating and stamping are steps of their own, and a process may die before any of
them. Which candidates of the band a call comes to, whether the port answers its probe, and
when the marker of a dead process is past its lifetime are left open.
-/
namespace VaultspecA2A.PortReservations
open Runs Function

/-- The marker file of a role and a port. -/
abbrev Path := String × ℕ

/-- Where a process is in the attempt at a candidate. -/
inductive Stage
  | idle
  | seen (path : Path)
  | stale (path : Path)
  | probing (path : Path)
  | writing (path : Path)

/-- The marker files, each with its creator and whether the number is written, and the
processes. -/
structure Registry where
  creator : Path → Option ℕ := fun _ => none
  stamped : Path → Bool := fun _ => false
  crashed : ℕ → Bool := fun _ => false
  stage : ℕ → Stage := fun _ => .idle
  held : ℕ → Path → Bool := fun _ _ => false

inductive Event
  | look (path : Path)
  | judge (expired : Bool)
  | unlink
  | create (free : Bool)
  | stamp
  | release (path : Path)
  | crash

section
variable (s : Registry)

def reservationIsLive (path : Path) (creator : ℕ) (expired : Bool) : Bool :=
  !expired && (!s.stamped path || !s.crashed creator)

def put (path : Path) (creator : Option ℕ) : Registry :=
  { s with creator := update s.creator path creator, stamped := update s.stamped path false }

def go (process : ℕ) (stage : Stage) : Registry :=
  { s with stage := update s.stage process stage }

def hold (process : ℕ) (path : Path) (held : Bool) : Registry :=
  { s with held := update s.held process (update (s.held process) path held) }

/-- One step of a process that lives. The marker of a live process is not past its lifetime. -/
def act (process : ℕ) : Event → Stage → Option Registry
  | .look path, .idle =>
    some (go s process (if (s.creator path).isSome then .seen path else .probing path))
  | .judge expired, .seen path =>
    match s.creator path with
    | none => some (go s process (.stale path))
    | some creator =>
      if expired && !s.crashed creator then none
      else some (go s process
        (if reservationIsLive s path creator expired then .idle else .stale path))
  | .unlink, .stale path => some (go (put s path none) process (.probing path))
  | .create free, .probing path =>
    if free && (s.creator path).isNone then
      some (hold (go (put s path (some process)) process (.writing path)) process path true)
    else some (go s process .idle)
  | .stamp, .writing path =>
    -- The number is written to the file that was created, wherever its name leads by now.
    let stamped := s.stamped path || s.creator path == some process
    some (go { s with stamped := update s.stamped path stamped } process .idle)
  | .release path, _ =>
    if s.held process path then some (hold (put s path none) process path false) else none
  | .crash, _ => some { s with crashed := update s.crashed process true }
  | _, _ => none

def step (event : ℕ × Event) : Option Registry :=
  if s.crashed event.1 then none else act s event.1 event.2 (s.stage event.1)

/-- A process unlinks no marker of a live process, and creates none beside one that a live
process has for the same port under another role. -/
def Careful : Event → Stage → Prop
  | .unlink, .stale path => ∀ other, s.creator path = some other → s.crashed other = true
  | .create _, .probing path => ∀ place other, place.2 = path.2 → place ≠ path →
      s.creator place = some other → s.crashed other = true
  | _, _ => True

def CarefulStep (event : ℕ × Event) (t : Registry) : Prop :=
  Careful s event.2 (s.stage event.1) ∧ step s event = some t

/-- A live process has a marker wherever it holds a port, and no two have one for a port. -/
structure Kept : Prop where
  owned : ∀ {p path}, s.crashed p = false → s.held p path = true → s.creator path = some p
  apart : ∀ {p q path other}, s.crashed p = false → s.crashed q = false →
    s.creator path = some p → s.creator other = some q → path.2 = other.2 → path = other

end

/-- What stands at one path changes: to the marker of whoever holds the path then, and with no
marker of a live process for the port under another role. -/
lemma Kept.change (h : Kept s) (hcr : t.crashed = s.crashed)
    (ho : ∀ other, t.creator other = if other = path then m else s.creator other)
    (hh : ∀ {q other}, s.crashed q = false → t.held q other = true →
      if other = path then m = some q else s.held q other = true)
    (hm : m ≠ none → Careful s (.create true) (.probing path)) : Kept t := by
  constructor
  · intro q other hq hheld
    have := hh (hcr ▸ hq) hheld
    rw [ho]
    split_ifs at this ⊢
    · exact this
    · exact h.owned (hcr ▸ hq) this
  · intro q r x y hq hr hx hy hxy
    have ha := @h.apart q r x y
    rw [hcr] at hq hr
    rw [ho] at hx hy
    by_cases hp : m = none
    · grind
    · have hc := hm hp
      simp only [Careful] at hc
      grind

lemma Kept.act (h : Kept s) (hc : Careful s e (s.stage p)) (hp : s.crashed p = false)
    (hst : act s p e (s.stage p) = some t) : Kept t := by
  generalize s.stage p = stage at hc hst
  unfold PortReservations.act at hst
  split at hst
  · cases hst
    exact ⟨h.owned,h.apart⟩
  · split at hst
    · cases hst
      exact ⟨h.owned,h.apart⟩
    · split_ifs at hst <;> cases hst <;> exact ⟨h.owned,h.apart⟩
  · cases hst
    refine h.change rfl (update_apply _ _ _) (fun hq hheld => ?_) (fun hn => (hn rfl).elim)
    split_ifs with he
    · exact nomatch hq.symm.trans (hc _ (h.owned hq (he ▸ hheld)))
    · exact hheld
  · split_ifs at hst with hf <;> cases hst
    · have hn := Option.isNone_iff_eq_none.1 (Bool.and_eq_true_iff.1 hf).2
      refine h.change rfl (update_apply _ _ _) (fun {q other} hq hheld => ?_) fun _ => hc
      have ho : s.held q other = true → s.creator other = some q := h.owned hq
      simp only [hold,go,put,update_apply] at hheld
      grind
    · exact ⟨h.owned,h.apart⟩
  · cases hst
    exact ⟨h.owned,h.apart⟩
  · split_ifs at hst with hheld
    cases hst
    refine h.change rfl (update_apply _ _ _) (fun {q other} hq hh => ?_) (fun hn => (hn rfl).elim)
    have hp := h.owned hp hheld
    have ho : s.held q other = true → s.creator other = some q := h.owned hq
    simp only [hold,put,update_apply] at hh
    grind
  · cases hst
    have ha : ∀ {q}, update s.crashed p true q = false → s.crashed q = false := by
      grind [update_apply]
    exact ⟨fun hq => h.owned (ha hq),fun hq hr => h.apart (ha hq) (ha hr)⟩
  · cases hst

/-- No two live processes hold a port, and a process that releases a port removes its own
marker, in every run of careful steps. -/
theorem reservations_exclusive (h : Run CarefulStep {} events s) :
    (∀ p q role other port, s.crashed p = false → s.crashed q = false →
      s.held p (role,port) = true → s.held q (other,port) = true → p = q) ∧
    ∀ p path, (step s (p,.release path)).isSome = true → s.creator path = some p := by
  have hk : Kept s := by
    refine h.invariant Kept ?_ ⟨nofun,nofun⟩
    rintro s ⟨p,e⟩ t hk ⟨hc,hst⟩
    rw [step] at hst
    split_ifs at hst with hp
    exact hk.act hc (Bool.eq_false_iff.2 hp) hst
  constructor
  · intro p q role other port hp hq hhp hhq
    have ho := hk.owned hp hhp
    have ho' := hk.owned hq hhq
    rw [hk.apart hp hq ho ho' rfl] at ho
    exact Option.some.inj (ho.symm.trans ho')
  · intro p path hst
    simp only [step,act] at hst
    split_ifs at hst with hp hh
    · cases hst
    · exact hk.owned (Bool.eq_false_iff.2 hp) hh
    · cases hst

theorem reservations_exclusive_first : ∃ s,
    Run CarefulStep {} [(0,.look ("worker",8100)),(0,.create true)] s ∧
      s.creator ("worker",8100) = some 0 := by
  have hr : Run CarefulStep {} [(0,.look ("worker",8100)),(0,.create true)] _ :=
    .step ⟨trivial,rfl⟩ (.single ⟨nofun,rfl⟩)
  exact ⟨_,hr,(reservations_exclusive hr).2 0 _ rfl⟩

/-- Two processes judge the marker of a dead one. The second unlinks it and reserves the port,
then the first unlinks the new marker and reserves the port too. -/
def race (path : Path) : List (ℕ × Event) :=
  [(0,.look path),(0,.create true),(0,.stamp),(0,.crash),(1,.look path),(1,.judge false),
    (2,.look path),(2,.judge false),(2,.unlink),(2,.create true),(2,.stamp),(1,.unlink),
    (1,.create true),(1,.stamp)]

theorem reclaimed_twice : ∃ s,
    Run (fun s event t => step s event = some t) {} (race ("worker",8100)) s ∧
    (s.crashed 1 = false ∧ s.crashed 2 = false ∧ s.held 1 ("worker",8100) = true ∧
      s.held 2 ("worker",8100) = true) ∧
    (step s (2,.release ("worker",8100))).isSome = true ∧ s.creator ("worker",8100) = some 1 := by
  have hr : Run (fun s event t => step s event = some t) {} (race ("worker",8100)) _ :=
    .step rfl (.step rfl (.step rfl (.step rfl (.step rfl (.step rfl (.step rfl (.step rfl
      (.step rfl (.step rfl (.step rfl (.step rfl (.step rfl (.single rfl)))))))))))))
  exact ⟨_,hr,⟨rfl,rfl,rfl,rfl⟩,rfl,rfl⟩

end VaultspecA2A.PortReservations
