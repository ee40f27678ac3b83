import Mathlib.Data.Finset.Card
import Mathlib.Data.List.Infix

/-!
# The window of dispatch identities

The worker admits a dispatch once while it remembers its identity. It remembers as many as the
capacity, in the order of admission, and forgets the oldest first. The constructor refuses a
capacity below one; nothing here needs that.
-/
namespace VaultspecA2A.DispatchIds
open List

structure DispatchIdAdmission where
  capacity : ℕ
  ordered : List String := []
  ids : Finset String := ∅

/-- What a call may raise: `ValueError`, `IndexError` of an empty deque, `KeyError` of a set. -/
inductive Raised
  | value
  | index
  | key
deriving DecidableEq

section
variable (a : DispatchIdAdmission)

def remember (id : String) : DispatchIdAdmission :=
  { a with ordered := a.ordered ++ [id], ids := insert id a.ids }

/-- A call, with the state it leaves and what it returns or raises. -/
def admitId (id : String) : DispatchIdAdmission × Except Raised Bool :=
  if id.isEmpty then (a,.error .value)
  else if id ∈ a.ids then (a,.ok false)
  else if a.ordered.length = a.capacity then
    match a.ordered with
    | [] => (a,.error .index)
    | expired :: rest =>
      if expired ∈ a.ids then
        (remember { a with ordered := rest, ids := a.ids.erase expired } id,.ok true)
      else ({ a with ordered := rest },.error .key)
  else (remember a id,.ok true)

/-- After the admissions of the log the queue is its end, as long as the capacity allows. -/
structure Kept (log : List String) : Prop where
  same : a.ids = a.ordered.toFinset
  nodup : a.ordered.Nodup
  newest : a.ordered = log.drop (log.length - a.capacity)

end

/-- The state after the calls, and the identities they admitted, in order. -/
def admitAll (a : DispatchIdAdmission) : List String → DispatchIdAdmission × List String
  | [] => (a,[])
  | id :: calls =>
    let later := admitAll (admitId a id).1 calls
    (later.1,if (admitId a id).2 = .ok true then id :: later.2 else later.2)

/-- Between two admissions of an identity stand as many others as the window holds. -/
def Spaced (capacity : ℕ) (log : List String) : Prop :=
  ∀ before id between, before ++ id :: between ++ [id] <+: log → id ∉ between →
    capacity ≤ between.toFinset.card

lemma Kept.remember (hi : x ∉ a.ordered) (hs : a.ids = a.ordered.toFinset) (hn : a.ordered.Nodup)
    (hl : a.ordered ++ [x] = (log ++ [x]).drop (log.length + 1 - a.capacity)) :
    Kept (remember a x) (log ++ [x]) := by
  refine ⟨?_,nodup_append.2 ⟨hn,nodup_singleton x,?_⟩,?_⟩
  · ext y
    simp [DispatchIds.remember,hs]
  · grind
  · rw [length_append,length_singleton]
    exact hl

/-- An identity is admitted only if it is not remembered, and nothing else changes the state. -/
lemma Kept.admitId (h : Kept a log) (x : String) : (admitId a x).2 ≠ .ok true ∧ (admitId a x).1 = a ∨
    (admitId a x).2 = .ok true ∧ x ∉ a.ordered ∧ Kept (admitId a x).1 (log ++ [x]) ∧
      (admitId a x).1.capacity = a.capacity := by
  obtain ⟨hs,hn,hl⟩ := h
  have hlen := congrArg length hl
  rw [length_drop] at hlen
  unfold DispatchIds.admitId
  split_ifs with he hm hf
  · exact .inl ⟨nofun,rfl⟩
  · exact .inl ⟨nofun,rfl⟩
  · rw [hs,mem_toFinset] at hm
    cases ho : a.ordered with
    | nil => exact .inl ⟨nofun,rfl⟩
    | cons expired rest =>
      rw [ho] at hs hn hl hm hf hlen
      rw [length_cons] at hf hlen
      have hin : expired ∈ a.ids := hs ▸ mem_toFinset.2 mem_cons_self
      obtain ⟨hx,hr⟩ := nodup_cons.1 hn
      simp only [hin,if_true]
      refine .inr ⟨trivial,hm,Kept.remember (fun hmem => hm (mem_cons_of_mem _ hmem)) ?_ hr ?_,rfl⟩
      · simp [hs,hx]
      · dsimp only
        rw [drop_append_of_le_length (by omega),Nat.sub_add_comm (by omega),← tail_drop,← hl,
          tail_cons]
  · rw [hs,mem_toFinset] at hm
    refine .inr ⟨rfl,hm,Kept.remember hm hs hn ?_,rfl⟩
    rw [hl,Nat.sub_eq_zero_of_le (by omega),Nat.sub_eq_zero_of_le (by omega),drop_zero,drop_zero]

lemma Spaced.snoc (h : Spaced a.capacity log) (hk : Kept a log) (hx : x ∉ a.ordered) :
    Spaced a.capacity (log ++ [x]) := by
  intro before y between hp hy
  rcases prefix_concat_iff.1 hp with he | hp
  · obtain ⟨rfl,hxy⟩ := append_inj' he rfl
    obtain rfl := singleton_inj.1 hxy
    have hsuf : a.ordered <:+ between := by
      have hd : a.ordered <:+ before ++ y :: between := hk.newest ▸ drop_suffix _ _
      rcases suffix_or_suffix_of_suffix hd (suffix_append before _) with hd | hd
      · refine (suffix_cons_iff.1 hd).resolve_left fun he => hx ?_
        rw [he]
        exact mem_cons_self
      · exact (hx (hd.subset mem_cons_self)).elim
    have hlen : a.capacity ≤ a.ordered.length := by
      by_contra hlt
      have hn := congrArg length hk.newest
      rw [length_drop] at hn
      rw [hk.newest,Nat.sub_eq_zero_of_le (by omega)] at hx
      simp at hx
    calc a.capacity ≤ a.ordered.length := hlen
      _ = a.ordered.toFinset.card := (toFinset_card_of_nodup hk.nodup).symm
      _ ≤ between.toFinset.card := Finset.card_le_card fun y hy => mem_toFinset.2 (hsuf.subset (mem_toFinset.1 hy))
  · exact h before y between hp hy

lemma Kept.admitAll (h : Kept a log) (hsp : Spaced a.capacity log) (calls : List String) :
    Kept (admitAll a calls).1 (log ++ (admitAll a calls).2) ∧
      (admitAll a calls).1.capacity = a.capacity ∧
      Spaced a.capacity (log ++ (admitAll a calls).2) := by
  induction calls generalizing a log with
  | nil => simpa [DispatchIds.admitAll] using ⟨h,hsp⟩
  | cons x calls ih =>
    rw [DispatchIds.admitAll]
    rcases h.admitId x with ⟨hne,he⟩ | ⟨hok,hx,hk,hc⟩
    · simpa only [hne,if_false,he] using ih h hsp
    · have hr := ih hk (hc ▸ hsp.snoc h hx)
      simpa only [hok,if_true,hc,append_assoc,singleton_append] using hr

/-- The queue and the set hold the same identities, each once and no more than the capacity,
and an identity is admitted again only after as many others as that. -/
theorem admissions_spaced (capacity : ℕ) (calls : List String) :
    let after := admitAll { capacity := capacity } calls
    (∀ x, x ∈ after.1.ordered ↔ x ∈ after.1.ids) ∧ after.1.ordered.Nodup ∧
      after.1.ordered.length ≤ capacity ∧ Spaced capacity after.2 := by
  have hk : Kept { capacity := capacity } [] := ⟨rfl,nodup_nil,drop_nil.symm⟩
  obtain ⟨⟨hs,hn,hl⟩,hc,hsp⟩ := hk.admitAll (fun _ _ _ hp => by simp at hp) calls
  refine ⟨fun x => by rw [hs,mem_toFinset],hn,?_,hsp⟩
  have hlen := congrArg length hl
  rw [length_drop,hc] at hlen
  dsimp only at hlen
  omega

end VaultspecA2A.DispatchIds
