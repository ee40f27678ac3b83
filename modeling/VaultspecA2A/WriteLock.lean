import Mathlib.Data.Int.Notation
import VaultspecA2A.Runs

/-!
# Locks of provider writes

The writers of a file wait for the lock of the file's entry, which is made for the first of
them and dropped by the last. A lock is the event loop's: one writer takes it at a time, and
while it is free any writer that waits for it may; in which order they do is left open. What
runs between two suspensions is one step. The key of a path is given.
-/
namespace VaultspecA2A.WriteLock
open Runs

/-- An entry with its lock, and how many writers wait for it and are inside. -/
structure PathEntry where
  key : String
  users : ℤ := 0
  locked : Bool := false
  waiting : ℕ := 0
  inside : ℕ := 0
deriving DecidableEq, Repr

/-- The registry, the entries in the order they were made, and how many were. -/
structure ProviderWriteLock where
  entries : String → Option ℕ := fun _ => none
  entry : ℕ → PathEntry := fun _ => { key := "" }
  made : ℕ := 0

inductive Event
  | hold (key : String)
  | enter (id : ℕ)
  | cancel (id : ℕ)
  | leave (id : ℕ)

def PathEntry.arrive (entry : PathEntry) : PathEntry :=
  { entry with users := entry.users + 1, waiting := entry.waiting + 1 }

section
variable (s : ProviderWriteLock)

def put (id : ℕ) (entry : PathEntry) : ProviderWriteLock :=
  { s with entry := Function.update s.entry id entry }

def release (id : ℕ) (entry : PathEntry) : ProviderWriteLock :=
  { put s id { entry with users := entry.users - 1 } with
    entries :=
      if entry.users - 1 ≤ 0 ∧ s.entries entry.key = some id then
        Function.update s.entries entry.key none
      else s.entries }

def step : Event → Option ProviderWriteLock
  | .hold key =>
    match s.entries key with
    | some id => some (put s id (s.entry id).arrive)
    | none =>
      some { put s s.made { key := key : PathEntry }.arrive with
        entries := Function.update s.entries key (some s.made), made := s.made + 1 }
  | .enter id =>
    let entry := s.entry id
    if entry.waiting = 0 ∨ entry.locked then none
    else some (put s id { entry with
      locked := true, waiting := entry.waiting - 1, inside := entry.inside + 1 })
  | .cancel id =>
    let entry := s.entry id
    if entry.waiting = 0 then none
    else some (release s id { entry with waiting := entry.waiting - 1 })
  | .leave id =>
    let entry := s.entry id
    if entry.inside = 0 then none
    else some (release s id { entry with locked := false, inside := entry.inside - 1 })

end

/-- The count and the lock say what the writers of the entry do. -/
structure Sound (entry : PathEntry) : Prop where
  users : entry.users = entry.waiting + entry.inside
  inside : entry.inside = entry.locked.toNat

/-- The registry leads from a key to the one entry of that key that has writers. -/
structure Kept (s : ProviderWriteLock) : Prop where
  sound : ∀ id, Sound (s.entry id)
  used : ∀ key id, s.entries key = some id ↔ 0 < (s.entry id).users ∧ (s.entry id).key = key
  fresh : ∀ id, s.made ≤ id → (s.entry id).users = 0

section
variable {s t : ProviderWriteLock} {id : ℕ} {events : List Event}

lemma Kept.update (h : Kept s) (hs : Sound e)
    (hid : id < made) (hm : s.made ≤ made) (he : ∀ key j, entries key = some j ↔
      if j = id then 0 < e.users ∧ e.key = key else s.entries key = some j) :
    Kept ⟨entries,Function.update s.entry id e,made⟩ := by
  refine ⟨fun j => ?_,fun key j => ?_,fun j hj => ?_⟩ <;> dsimp only at * <;>
    by_cases hji : j = id
  · rwa [hji,Function.update_self]
  · rw [Function.update_of_ne hji]
    exact h.sound j
  · rw [he,if_pos hji,hji,Function.update_self]
  · rw [he,if_neg hji,Function.update_of_ne hji,h.used]
  · omega
  · rw [Function.update_of_ne hji]
    exact h.fresh j (Nat.le_trans hm hj)

lemma Kept.made (h : Kept s) (hu : 0 < (s.entry id).users) : id < s.made := by
  by_contra hn
  have := h.fresh id (Nat.le_of_not_lt hn)
  omega

/-- A writer that leaves the block or gives up drops the entry if it is the last. -/
lemma Kept.release (h : Kept s) (hu : 0 < (s.entry id).users) (hk : e.key = (s.entry id).key)
    (hs : Sound { e with users := e.users - 1 }) : Kept (release s id e) := by
  refine h.update hs (h.made hu) (Nat.le_refl _) fun key j => ?_
  have hj := h.used key j
  have hi := h.used e.key id
  grind

lemma Kept.put (h : Kept s) (hu : 0 < (s.entry id).users) (hk : e.key = (s.entry id).key)
    (he : 0 < e.users) (hs : Sound e) : Kept (put s id e) := by
  refine h.update hs (h.made hu) (Nat.le_refl _) fun key j => ?_
  have hj := h.used key j
  grind

lemma Kept.step (h : Kept s) (hst : step s ev = some t) : Kept t := by
  cases ev with
  | hold key =>
    rw [WriteLock.step] at hst
    split at hst <;> cases hst
    · rename_i id hid
      obtain ⟨hu,hi⟩ := h.sound id
      have hp := ((h.used key id).1 hid).1
      refine h.put hp rfl ?_ ⟨?_,hi⟩ <;> simp [PathEntry.arrive] <;> omega
    · rename_i hn
      refine h.update ⟨rfl,rfl⟩ (Nat.lt_succ_self _) (Nat.le_succ _) fun k j => ?_
      have hf := h.fresh s.made (Nat.le_refl _)
      have hj := h.used k j
      simp only [PathEntry.arrive,Function.update_apply]
      grind
  | enter id =>
    obtain ⟨hu,hi⟩ := h.sound id
    rw [WriteLock.step] at hst
    split_ifs at hst with hc
    cases hst
    obtain ⟨hw,hl⟩ := not_or.1 hc
    rw [Bool.not_eq_true] at hl
    rw [hl] at hi
    refine h.put (by omega) rfl (by dsimp only; omega) ⟨?_,?_⟩
    · dsimp only
      omega
    · dsimp only
      rw [hi]
      rfl
  | cancel id =>
    obtain ⟨hu,hi⟩ := h.sound id
    rw [WriteLock.step] at hst
    split_ifs at hst with hc
    cases hst
    refine h.release (by omega) rfl ⟨?_,hi⟩
    dsimp only
    omega
  | leave id =>
    obtain ⟨hu,hi⟩ := h.sound id
    rw [WriteLock.step] at hst
    split_ifs at hst with hc
    cases hst
    have hle := Bool.toNat_le (s.entry id).locked
    refine h.release (by omega) rfl ⟨?_,?_⟩
    · dsimp only
      omega
    · change (s.entry id).inside - 1 = 0
      omega

/-- At most one writer of a key is inside. A writer waits only while one of its own key is
inside, and the registry has an entry for a key exactly while the key has writers. -/
theorem writes_serialised (h : Run (fun s event t => step s event = some t) {} events s) :
    (∀ i j, (s.entry i).key = (s.entry j).key → 0 < (s.entry i).inside →
      0 < (s.entry j).inside → i = j ∧ (s.entry i).inside = 1) ∧
    (∀ i, 0 < (s.entry i).waiting →
      (∀ j, (s.entry j).key = (s.entry i).key → (s.entry j).inside = 0) →
      (step s (.enter i)).isSome = true) ∧
    ∀ key, (s.entries key).isSome = true ↔ ∃ i, (s.entry i).key = key ∧
      0 < (s.entry i).waiting + (s.entry i).inside := by
  have hk : Kept s := h.invariant Kept (fun hs hst => hs.step hst)
    ⟨fun _ => ⟨rfl,rfl⟩,fun _ _ => by simp,fun _ _ => rfl⟩
  have hc : ∀ i, 0 < (s.entry i).waiting + (s.entry i).inside ↔ 0 < (s.entry i).users := by
    intro i
    have := (hk.sound i).users
    omega
  refine ⟨fun i j hij hi hj => ⟨?_,?_⟩,fun i hw hj => ?_,fun key => ?_⟩
  · have hei := (hk.used _ i).2 ⟨(hc i).1 (by omega),rfl⟩
    have hej := (hk.used _ j).2 ⟨(hc j).1 (by omega),rfl⟩
    rw [hij,hej] at hei
    exact (Option.some.inj hei).symm
  · have hle := Bool.toNat_le (s.entry i).locked
    have := (hk.sound i).inside
    omega
  · have hl := (hk.sound i).inside
    rw [hj i rfl] at hl
    have hl : (s.entry i).locked = false := by
      cases hb : (s.entry i).locked with
      | false => rfl
      | true => simp [hb] at hl
    simp [step,hl,Nat.ne_of_gt hw]
  · rw [Option.isSome_iff_exists]
    exact exists_congr fun i => by rw [hk.used,hc,and_comm]

end

theorem writes_serialised_first : ∃ s,
    Run (fun s event t => step s event = some t) {} [.hold "notes",.enter 0] s ∧
      (s.entries "notes").isSome = true := by
  have hr : Run (fun s event t => step s event = some t) {} [.hold "notes",.enter 0] _ :=
    .step rfl (.single rfl)
  exact ⟨_,hr,((writes_serialised hr).2.2 "notes").2 ⟨0,rfl,Nat.one_pos⟩⟩

end VaultspecA2A.WriteLock
