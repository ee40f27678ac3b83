import VaultspecA2A.PyValue
import Mathlib.Data.List.Nodup
import Mathlib.Data.List.Induction

/-!
# Unions of mappings by key

A mapping of records is merged entry by entry. Each entry is read, stands under the key of its
record and is stored in one canonical form; a second record under a taken key must be the one
that is there. Such a union exists exactly if records with one key are equal, and then it holds
the records that were read, whatever their order and number.

Nothing here depends on what the records are.
-/
namespace VaultspecA2A.KeyedUnions
open PyValue List Option

abbrev Entries := List (Value × Value)

/-- How records are read, keyed, stored and compared with what is stored. -/
structure Kind (R : Type) where
  read : Value → Option R
  key : R → String
  dump : R → Value
  same : Value → R → Bool
  same_iff : ∀ r r', same (dump r') r = true ↔ r' = r
  read_dump : ∀ v r, read v = some r → read (dump r) = some r

/-- Records with one key are equal. -/
def Identified {R K : Type} (key : R → K) (rs : List R) : Prop :=
  ∀ r ∈ rs, ∀ r' ∈ rs, key r = key r' → r = r'

variable {R : Type} (k : Kind R)

namespace Kind

def entry (r : R) : Value × Value := (.str (k.key r),k.dump r)

def mergeEntry (merged : Entries) (entry : Value × Value) : Option Entries :=
  match k.read entry.2 with
  | none => none
  | some r =>
    if entry.1.text? ≠ some (k.key r) then none
    else
      match (Value.dict merged).get (k.key r) with
      | none => some (merged ++ [(.str (k.key r),k.dump r)])
      | some previous => if k.same previous r then some merged else none

def merge (existing incoming : Entries) : Option Entries :=
  (existing ++ incoming).foldlM k.mergeEntry []

/-- The entries read as these records, each under its key. -/
def Reads (es : Entries) (rs : List R) : Prop :=
  List.Forall₂ (fun e r => k.read e.2 = some r ∧ e.1.text? = some (k.key r)) es rs

/-- A union in its canonical form. -/
structure Canonical (m : Entries) (rs : List R) : Prop where
  entries : m = rs.map k.entry
  keys : (rs.map k.key).Nodup
  readable : ∀ r ∈ rs, k.read (k.dump r) = some r

end Kind

variable {k} {m n : Entries} {rs ts : List R}

lemma Identified.congr {K : Type} {key : R → K} (h : ∀ r, r ∈ rs ↔ r ∈ ts) :
    Identified key rs ↔ Identified key ts := by
  simp only [Identified,h]

lemma Kind.Canonical.reads (h : k.Canonical m rs) : k.Reads m rs := by
  rw [h.entries]
  exact forall₂_map_left_iff.2 (forall₂_same.2 fun r hr => ⟨h.readable r hr,rfl⟩)

lemma Kind.Canonical.get (h : k.Canonical m rs) (key : String) :
    (Value.dict m).get key = (rs.find? fun r => decide (k.key r = key)).map k.dump := by
  rw [h.entries]
  simp only [Value.get,find?_map,Option.map_map]
  rfl

lemma Kind.Canonical.get_eq_some (h : k.Canonical m rs) {key : String} {v : Value} :
    (Value.dict m).get key = some v ↔ ∃ r ∈ rs, k.key r = key ∧ v = k.dump r := by
  rw [h.get,map_eq_some_iff]
  constructor
  · rintro ⟨r,hr,rfl⟩
    exact ⟨r,mem_of_find?_eq_some hr,by simpa using find?_some hr,rfl⟩
  · rintro ⟨r,hr,rfl,rfl⟩
    cases hf : rs.find? fun o => decide (k.key o = k.key r) with
    | none => exact absurd (find?_eq_none.1 hf r hr) (by simp)
    | some o =>
      have ho : k.key o = k.key r := by simpa using find?_some hf
      exact ⟨o,rfl,by rw [inj_on_of_nodup_map h.keys (mem_of_find?_eq_some hf) hr ho]⟩

lemma Kind.Canonical.nil : k.Canonical [] [] := ⟨rfl,nodup_nil,forall_mem_nil _⟩

lemma Kind.Canonical.identified (h : k.Canonical m rs) : Identified k.key rs :=
  fun _ hr _ hr' => inj_on_of_nodup_map h.keys hr hr'

/-- The result is a mapping of these records, in the given form, or there is none. -/
def Unites (k : Kind R) (Form : Entries → List R → Prop) (result : Option Entries) (rs : List R) :
    Prop :=
  (Identified k.key rs → ∃ m us, result = some m ∧ Form m us ∧ ∀ r, r ∈ us ↔ r ∈ rs) ∧
    (¬ Identified k.key rs → result = none)

lemma Unites.congr {Form : Entries → List R → Prop} (h : Unites k Form x rs)
    (he : ∀ r, r ∈ rs ↔ r ∈ ts) : Unites k Form x ts := by
  unfold Unites at h ⊢
  simpa only [Identified.congr he,he] using h

/-- Records are added to a union exactly if all that there is agrees on its keys. -/
lemma foldlM_mergeEntry {es : Entries} (hr : k.Reads es ts) (hm : k.Canonical m rs) :
    Unites k k.Canonical (es.foldlM k.mergeEntry m) (rs ++ ts) := by
  induction hr generalizing m rs with
  | nil =>
    rw [append_nil]
    exact ⟨fun _ => ⟨m,rs,rfl,hm,fun _ => Iff.rfl⟩,fun h => (h hm.identified).elim⟩
  | @cons e r es ts he hrest ih =>
    have hstep : k.mergeEntry m e = match (Value.dict m).get (k.key r) with
        | none => some (m ++ [k.entry r])
        | some previous => if k.same previous r then some m else none := by
      unfold Kind.mergeEntry
      rw [he.1]
      exact if_neg (not_not.2 he.2)
    rw [foldlM_cons,hstep]
    cases hg : (Value.dict m).get (k.key r) with
    | none =>
      have hnew : k.Canonical (m ++ [k.entry r]) (rs ++ [r]) := by
        rw [hm.get,map_eq_none_iff,find?_eq_none] at hg
        refine ⟨by rw [hm.entries,map_append]; rfl,?_,fun o ho => ?_⟩
        · rw [map_append,map_singleton,← concat_eq_append]
          refine hm.keys.concat fun hk => ?_
          obtain ⟨o,ho,hok⟩ := mem_map.1 hk
          exact hg o ho (decide_eq_true hok)
        · rcases mem_append.1 ho with ho | ho
          · exact hm.readable o ho
          · rw [mem_singleton.1 ho]
            exact k.read_dump _ _ he.1
      have hi := ih hnew
      rw [append_assoc,singleton_append] at hi
      exact hi
    | some previous =>
      obtain ⟨o,ho,hok,rfl⟩ := hm.get_eq_some.1 hg
      by_cases hs : o = r
      · have hmem : ∀ x, x ∈ rs ++ ts ↔ x ∈ rs ++ r :: ts := by
          intro x
          simp only [mem_append,mem_cons]
          refine ⟨fun h => h.imp_right .inr,?_⟩
          rintro (hx | rfl | hx)
          · exact .inl hx
          · exact .inl (hs ▸ ho)
          · exact .inr hx
        simp only [(k.same_iff r o).2 hs,if_true,bind_eq_bind,bind_some]
        exact (ih hm).congr hmem
      · have hno : k.same (k.dump o) r = false :=
          Bool.not_eq_true _ ▸ fun h => hs ((k.same_iff r o).1 h)
        simp only [hno,Bool.false_eq_true,if_false]
        refine ⟨fun h => (hs (h o (mem_append_left _ ho) r ?_ hok)).elim,fun _ => rfl⟩
        exact mem_append_right _ mem_cons_self

/-- Two mappings that read have a union exactly if their records agree on their keys. -/
lemma merge_unites (hm : k.Reads m rs) (hn : k.Reads n ts) :
    Unites k k.Canonical (k.merge m n) (rs ++ ts) := by
  have h := foldlM_mergeEntry (rel_append hm hn) Kind.Canonical.nil
  rwa [nil_append] at h

lemma foldlM_reads {es : Entries} (h : es.foldlM k.mergeEntry m = some n) :
    ∃ rs, k.Reads es rs := by
  induction es generalizing m with
  | nil => exact ⟨[],.nil⟩
  | cons e es ih =>
    rw [foldlM_cons] at h
    obtain ⟨o,ho,h⟩ := bind_eq_some_iff.1 h
    obtain ⟨rs,hrs⟩ := ih h
    unfold Kind.mergeEntry at ho
    cases hr : k.read e.2 with
    | none => simp [hr] at ho
    | some r =>
      rw [hr] at ho
      exact ⟨r :: rs,.cons ⟨hr,not_not.1 fun hk => by simp [hk] at ho⟩ hrs⟩

lemma merge_reads {o : Entries} (h : k.merge m n = some o) :
    (∃ rs, k.Reads m rs) ∧ ∃ ts, k.Reads n ts := by
  unfold Kind.merge at h
  rw [foldlM_append] at h
  obtain ⟨_,hm,hn⟩ := bind_eq_some_iff.1 h
  exact ⟨foldlM_reads hm,foldlM_reads hn⟩

lemma Unites.reads (h : Unites k k.Canonical x rs) : Unites k k.Reads x rs := by
  refine ⟨fun hi => ?_,h.2⟩
  obtain ⟨m,us,hx,hm,hu⟩ := h.1 hi
  exact ⟨m,us,hx,hm.reads,hu⟩

lemma Unites.add (h : Unites k k.Reads x rs) (hn : k.Reads n ts) :
    Unites k k.Canonical (x.bind fun m => k.merge m n) (rs ++ ts) := by
  by_cases hrs : Identified k.key rs
  · obtain ⟨m,us,rfl,hm,hu⟩ := h.1 hrs
    exact (merge_unites hm hn).congr (by simp [hu])
  · refine ⟨fun hi => (hrs fun r hr r' hr' => ?_).elim,fun _ => ?_⟩
    · exact hi r (mem_append_left _ hr) r' (mem_append_left _ hr')
    · rw [h.2 hrs]
      rfl

lemma Unites.merge (hx : Unites k k.Reads x rs) (hy : Unites k k.Reads y ts) :
    Unites k k.Canonical (do k.merge (← x) (← y)) (rs ++ ts) := by
  by_cases hts : Identified k.key ts
  · obtain ⟨n,vs,rfl,hn,hv⟩ := hy.1 hts
    exact (hx.add hn).congr (by simp [hv])
  · refine ⟨fun h => (hts fun r hr r' hr' => ?_).elim,fun _ => ?_⟩
    · exact h r (mem_append_right _ hr) r' (mem_append_right _ hr')
    · rw [hy.2 hts]
      cases x <;> rfl

/-- Two unions of the same records, which answer alike. -/
structure SameUnion (k : Kind R) (m n : Entries) : Prop where
  left : ∃ rs, k.Canonical m rs
  right : ∃ ts, k.Canonical n ts
  lookups : ∀ key, (Value.dict m).get key = (Value.dict n).get key

lemma SameUnion.trans {o : Entries} (h : SameUnion k m n) (g : SameUnion k n o) :
    SameUnion k m o := ⟨h.left,g.right,fun key => (h.lookups key).trans (g.lookups key)⟩

lemma Kind.Canonical.mem_iff (h : k.Canonical m rs) (r : R) :
    r ∈ rs ↔ (Value.dict m).get (k.key r) = some (k.dump r) := by
  rw [h.get_eq_some]
  refine ⟨fun hr => ⟨r,hr,rfl,rfl⟩,?_⟩
  rintro ⟨o,ho,-,hd⟩
  rwa [← (k.same_iff r o).1 (hd ▸ (k.same_iff r r).2 rfl)]

lemma Unites.same (hx : Unites k k.Canonical x rs) (hy : Unites k k.Canonical y ts)
    (he : ∀ r, r ∈ rs ↔ r ∈ ts) : Option.Rel (SameUnion k) x y := by
  have hy := hy.congr fun r => (he r).symm
  by_cases hi : Identified k.key rs
  · obtain ⟨m,us,rfl,hm,hu⟩ := hx.1 hi
    obtain ⟨n,vs,rfl,hn,hv⟩ := hy.1 hi
    refine .some ⟨⟨us,hm⟩,⟨vs,hn⟩,fun key => Option.ext fun v => ?_⟩
    rw [hm.get_eq_some,hn.get_eq_some]
    simp only [hu,hv]
  · rw [hx.2 hi,hy.2 hi]
    exact .none

/-- Results that need something agree if they agree where it is there. -/
lemma rel_of_needed {P : Prop} (hx : ∀ o, x = some o → P) (hy : ∀ o, y = some o → P)
    (h : P → Option.Rel (SameUnion k) x y) : Option.Rel (SameUnion k) x y := by
  cases x with
  | some o => exact h (hx o rfl)
  | none =>
    cases y with
    | some o => exact h (hy o rfl)
    | none => exact .none

lemma SameUnion.merge (h : SameUnion k m n) (es : Entries) :
    Option.Rel (SameUnion k) (k.merge m es) (k.merge n es) := by
  obtain ⟨⟨rs,hm⟩,⟨ts,hn⟩,hl⟩ := h
  refine rel_of_needed (fun _ h => (merge_reads h).2) (fun _ h => (merge_reads h).2) ?_
  rintro ⟨us,hu⟩
  refine (merge_unites hm.reads hu).same (merge_unites hn.reads hu) fun r => ?_
  rw [mem_append,mem_append,hm.mem_iff,hn.mem_iff,hl]

lemma merge_merge_reads {o u : Entries} (h : ((k.merge m n).bind fun v => k.merge v o) = some u) :
    (∃ rs, k.Reads m rs) ∧ (∃ rs, k.Reads n rs) ∧ ∃ rs, k.Reads o rs := by
  obtain ⟨v,hv,hu⟩ := bind_eq_some_iff.1 h
  exact ⟨(merge_reads hv).1,(merge_reads hv).2,(merge_reads hu).2⟩

/-- Two mappings are added to a third in either order. -/
lemma merge_swap (m n o : Entries) :
    Option.Rel (SameUnion k) ((k.merge m n).bind fun u => k.merge u o)
      ((k.merge m o).bind fun u => k.merge u n) := by
  refine rel_of_needed (fun _ => merge_merge_reads)
    (fun _ h => (merge_merge_reads h).imp_right And.symm) ?_
  rintro ⟨⟨rs,hm⟩,⟨ts,hn⟩,us,ho⟩
  refine ((merge_unites hm hn).reads.add ho).same ((merge_unites hm ho).reads.add hn) fun r => ?_
  simp only [mem_append,or_right_comm]

/-- Values that are reduced together before they are reduced with others. -/
inductive Grouping (A : Type)
  | write (a : A)
  | join (first second : Grouping A)

def Grouping.writes {A : Type} : Grouping A → List A
  | write a => [a]
  | join first second => first.writes ++ second.writes

section
variable {A S : Type} (written : A → S) (reduce : S → S → Option S)

def Grouping.value : Grouping A → Option S
  | write a => some (written a)
  | join first second => do reduce (← first.value) (← second.value)

/-- A value reduced with one group after the other. -/
def channel (initial : S) (groups : List (Grouping A)) : Option S :=
  groups.foldlM (fun value group => do reduce value (← group.value written reduce)) initial

lemma channel_concat (initial : S) (groups : List (Grouping A)) (g : Grouping A) :
    channel written reduce initial (groups ++ [g]) =
      (channel written reduce initial groups).bind fun value =>
        (g.value written reduce).bind (reduce value) := by
  unfold channel
  rw [foldlM_append]
  simp

end

section
variable {A : Type} {entry : A → Value × Value} {record : A → R}
variable (hw : ∀ a, k.read (entry a).2 = some (record a) ∧
 (entry a).1.text? = some (k.key (record a)))
include hw

lemma Grouping.value_unites (g : Grouping A) :
    Unites k k.Reads (g.value (fun a => [entry a]) k.merge) (g.writes.map record) := by
  induction g with
  | write a =>
    refine ⟨fun _ => ⟨_,_,rfl,.cons (hw a) .nil,fun _ => Iff.rfl⟩,fun h => (h ?_).elim⟩
    intro r hr r' hr' _
    rw [mem_singleton.1 hr,mem_singleton.1 hr']
  | join l r hl hr =>
    rw [Grouping.writes,map_append]
    exact (hl.merge hr).reads

/-- However the entries are ordered, grouped and repeated, the channel holds their union. -/
lemma channel_unites (groups : List (Grouping A)) :
    Unites k k.Canonical (channel (fun a => [entry a]) k.merge [] groups)
      ((groups.flatMap Grouping.writes).map record) := by
  induction groups using List.reverseRecOn with
  | nil =>
    refine ⟨fun _ => ⟨[],[],rfl,.nil,fun _ => Iff.rfl⟩,fun h => (h ?_).elim⟩
    exact fun r hr => (by cases hr)
  | append_singleton groups g ih =>
    rw [channel_concat,flatMap_append,map_append,flatMap_singleton]
    exact ih.reads.merge (g.value_unites hw)

end

end VaultspecA2A.KeyedUnions
