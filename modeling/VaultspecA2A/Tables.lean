import Mathlib.Data.List.Basic
import Mathlib.Data.List.Pairwise

/-!
# Tables under constraints

A table is a list of rows together with the proof that each row passes the
table's check and that any two rows fit together. `Fits` states every uniqueness
constraint of the table at once: two rows fit when they differ in each unique
column. A write that would break a constraint does not happen and is reported by
`none`, which is how a database answers it; every other write yields a table
again.

A conditional update names the rows it wants by a predicate and is reported by
the number of rows it matched. Lookup by a key column is related to each write.
A table evolves when no row is ever lost, as far as a relation `Same` identifies
rows, and when a property of all its rows goes on to hold. It is rewritten when, in
addition, the rows keep their order.
-/
namespace VaultspecA2A.Tables
open List

structure Table (R : Type*) (Check : R → Prop) (Fits : R → R → Prop) where
  rows : List R
  checks : ∀ r ∈ rows, Check r
  fits : rows.Pairwise Fits

namespace Table
section
variable {R : Type*} {Check : R → Prop} {Fits : R → R → Prop} {t u v : Table R Check Fits}
 {p q : R → Bool} {f : R → R} {a b r : R}

instance : EmptyCollection (Table R Check Fits) := ⟨⟨[],by simp,List.Pairwise.nil⟩⟩

lemma ext_rows (h : t.rows = u.rows) : t = u := by
  cases t; cases u; cases h; rfl

def first (t : Table R Check Fits) (p : R → Bool) : Option R := t.rows.find? p

def holds (t : Table R Check Fits) (p : R → Bool) : Bool := t.rows.any p

def affected (t : Table R Check Fits) (p : R → Bool) : ℕ := t.rows.countP p

def changed (p : R → Bool) (f : R → R) (r : R) : R := if p r then f r else r

lemma eq_of_not_fits (ha : a ∈ t.rows) (hb : b ∈ t.rows) (hab : ¬ Fits a b) (hba : ¬ Fits b a) :
    a = b := by
  have hre : t.rows.Pairwise fun x y => x = y ∨ Fits x y ∨ Fits y x :=
    t.fits.imp fun h => .inr (.inl h)
  have hf : t.rows.Pairwise fun x y => y = x ∨ Fits y x ∨ Fits x y :=
    t.fits.imp fun h => .inr (.inr h)
  rcases hre.forall_of_forall_of_flip (fun _ _ => .inl rfl) hf ha hb with h | h | h
  · exact h
  · exact (hab h).elim
  · exact (hba h).elim

/-- The row a query selects, if no other row meets it. -/
lemma first_of_mem (ha : a ∈ t.rows) (hp : p a = true) (ho : ∀ b ∈ t.rows, p b = true → b = a) :
    t.first p = some a := by
  have hs : (t.rows.find? p).isSome = true := find?_isSome.2 ⟨a,ha,hp⟩
  obtain ⟨b,hb⟩ := Option.isSome_iff_exists.1 hs
  rw [first,hb,ho b (mem_of_find?_eq_some hb) (find?_some hb)]

def deleteWhere (t : Table R Check Fits) (p : R → Bool) : Table R Check Fits :=
  ⟨t.rows.filter (fun r => !p r),fun r hr => t.checks r (List.mem_of_mem_filter hr),t.fits.filter _⟩

section
variable [DecidablePred Check] [DecidableRel Fits]

/-- The table with these rows, if they satisfy the constraints. -/
def ofRows (rows : List R) : Option (Table R Check Fits) :=
  if h : (∀ r ∈ rows, Check r) ∧ rows.Pairwise Fits then some ⟨rows,h.1,h.2⟩ else none

def insert (t : Table R Check Fits) (r : R) : Option (Table R Check Fits) := ofRows (t.rows ++ [r])

def updateWhere (t : Table R Check Fits) (p : R → Bool) (f : R → R) : Option (Table R Check Fits) :=
  ofRows (t.rows.map (changed p f))

lemma ofRows_eq_some : ofRows ro = some t ↔ t.rows = ro := by
  unfold ofRows
  split_ifs with h
  · constructor
    · intro ht
      cases Option.some.inj ht
      rfl
    · intro ht
      exact congrArg some (ext_rows ht.symm)
  · constructor
    · intro ht
      cases ht
    · intro ht
      exact (h (ht ▸ ⟨t.checks,t.fits⟩)).elim

lemma rows_of_insert (h : t.insert r = some u) : u.rows = t.rows ++ [r] := ofRows_eq_some.mp h

lemma rows_of_updateWhere (h : t.updateWhere p f = some u) : u.rows = t.rows.map (changed p f) :=
  ofRows_eq_some.mp h

lemma insert_of_fits (hc : Check r) (hf : ∀ a ∈ t.rows, Fits a r) : ∃ u, t.insert r = some u := by
  refine ⟨⟨t.rows ++ [r],?_,?_⟩,ofRows_eq_some.mpr rfl⟩
  · intro a ha
    rcases mem_append.1 ha with ha | ha
    · exact t.checks a ha
    · rwa [mem_singleton.1 ha]
  · refine pairwise_append.2 ⟨t.fits,pairwise_singleton _ _,fun a ha b hb => ?_⟩
    rw [mem_singleton.1 hb]
    exact hf a ha

/-- An update whose rows still meet the constraints is made. -/
lemma updateWhere_of_fits (hc : ∀ r ∈ t.rows, p r = true → Check (f r))
    (hf : ∀ a ∈ t.rows, ∀ b ∈ t.rows, Fits a b → Fits (changed p f a) (changed p f b)) :
    ∃ u, t.updateWhere p f = some u := by
  refine ⟨⟨t.rows.map (changed p f),?_,?_⟩,ofRows_eq_some.mpr rfl⟩
  · intro a ha
    obtain ⟨r,hr,rfl⟩ := mem_map.1 ha
    unfold changed
    split_ifs with hp
    · exact hc r hr hp
    · exact t.checks r hr
  · rw [pairwise_map]
    exact t.fits.imp_of_mem fun ha hb => hf _ ha _ hb

lemma mem_of_insert (h : t.insert r = some u) : a ∈ u.rows ↔ a ∈ t.rows ∨ a = r := by
  rw [rows_of_insert h]
  simp

lemma mem_of_updateWhere (h : t.updateWhere p f = some u) :
    a ∈ u.rows ↔ ∃ b ∈ t.rows, changed p f b = a := by
  rw [rows_of_updateWhere h]
  exact mem_map

/-- An update leaves alone the rows of a kind that it neither matches nor makes. -/
lemma filter_of_updateWhere (hk : ∀ r, q (f r) = q r) (ho : ∀ r ∈ t.rows, p r = true → q r = false)
    (h : t.updateWhere p f = some u) : u.rows.filter q = t.rows.filter q := by
  have hq : ∀ r, q (changed p f r) = q r := by
    intro r
    unfold changed
    split_ifs
    · exact hk r
    · rfl
  have hs : ∀ r ∈ t.rows.filter q, changed p f r = r := by
    intro r hr
    obtain ⟨hm,hr⟩ := mem_filter.1 hr
    unfold changed
    split_ifs with hp
    · rw [ho r hm hp] at hr
      cases hr
    · rfl
  calc u.rows.filter q = (t.rows.map (changed p f)).filter q := by rw [rows_of_updateWhere h]
    _ = (t.rows.filter (q ∘ changed p f)).map (changed p f) := filter_map
    _ = (t.rows.filter q).map (changed p f) := by rw [show q ∘ changed p f = q from funext hq]
    _ = (t.rows.filter q).map id := map_congr_left hs
    _ = t.rows.filter q := map_id _

lemma filter_of_insert (ho : q r = false) (h : t.insert r = some u) :
    u.rows.filter q = t.rows.filter q := by
  rw [rows_of_insert h,filter_append,filter_singleton,ho]
  simp

/-- An update that matches no row changes nothing. -/
lemma updateWhere_of_affected_zero (h : t.affected p = 0) : t.updateWhere p f = some t := by
  refine ofRows_eq_some.mpr ?_
  have hid : ∀ r ∈ t.rows, changed p f r = r := by
    intro r hr
    have hp := countP_eq_zero.mp h r hr
    simp [changed,hp]
  calc t.rows = t.rows.map id := (map_id _).symm
    _ = t.rows.map (changed p f) := map_congr_left fun r hr => (hid r hr).symm

end

section Keyed
variable {K : Type*} [DecidableEq K] (key : R → K) {k : K}

def lookup (t : Table R Check Fits) (k : K) : Option R := t.first fun r => decide (key r = k)

lemma lookup_key (h : t.lookup key k = some r) : key r = k := by
  simpa using find?_some h

lemma lookup_mem (h : t.lookup key k = some r) : r ∈ t.rows := mem_of_find?_eq_some h

variable (hkey : ∀ {a b}, Fits a b → key a ≠ key b)

include hkey in
lemma lookup_of_mem (h : r ∈ t.rows) : t.lookup key (key r) = some r := by
  obtain ⟨ro,ch,fits⟩ := t
  simp only [lookup,first]
  simp only at h
  clear ch
  induction ro with
  | nil => cases h
  | cons a ro ih =>
    obtain ⟨hh,ht⟩ := pairwise_cons.mp fits
    rcases mem_cons.mp h with rfl | h
    · simp
    · rw [find?_cons_of_neg (by simpa using hkey (hh r h))]
      exact ih ht h

include hkey in
/-- A conditional write to one key matches at most its row. -/
lemma affected_keyed : t.affected (fun r => decide (key r = k) && q r) =
      match t.lookup key k with
      | none => 0
      | some r => if q r then 1 else 0 := by
  obtain ⟨ro,ch,fits⟩ := t
  simp only [affected,lookup,first]
  clear ch
  induction ro with
  | nil => rfl
  | cons a ro ih =>
    obtain ⟨hh,ht⟩ := pairwise_cons.mp fits
    rw [countP_cons]
    by_cases hk : key a = k
    · have hre : ro.countP (fun r => decide (key r = k) && q r) = 0 := by
        refine countP_eq_zero.mpr fun r hr => ?_
        have hne : key r ≠ k := fun hr' => hkey (hh r hr) (hk.trans hr'.symm)
        simp [hne]
      simp [hk,hre]
    · simp [hk,ih ht]

lemma lookup_updateWhere [DecidablePred Check] [DecidableRel Fits] (hf : ∀ r, key (f r) = key r)
    (h : t.updateWhere p f = some u) :
    u.lookup key k = (t.lookup key k).map (changed p f) := by
  have hc : ∀ r, key (changed p f r) = key r := by
    intro r
    unfold changed
    split_ifs
    · exact hf r
    · rfl
  simp only [lookup,first,rows_of_updateWhere h,find?_map]
  congr 2
  funext r
  simp [hc]

include hkey in
/-- A conditional write to one key changes its row and reports one match, or
changes nothing and reports none. -/
lemma updateWhere_keyed [DecidablePred Check] [DecidableRel Fits] (hf : ∀ r, key (f r) = key r)
    (h : t.updateWhere (fun r => decide (key r = k) && q r) f = some u) :
    (∃ r, t.lookup key k = some r ∧ q r = true ∧ u.lookup key k = some (f r) ∧
      t.affected (fun r => decide (key r = k) && q r) = 1) ∨
    (u = t ∧ t.affected (fun r => decide (key r = k) && q r) = 0) := by
  have hc := affected_keyed key hkey (t := t) (k := k) (q := q)
  cases hrow : t.lookup key k with
  | none =>
    simp only [hrow] at hc
    rw [updateWhere_of_affected_zero hc] at h
    exact .inr ⟨(Option.some.inj h).symm,hc⟩
  | some row =>
    simp only [hrow] at hc
    split_ifs at hc with hq
    · refine .inl ⟨row,rfl,hq,?_,hc⟩
      rw [lookup_updateWhere key hf h,hrow]
      simp [changed,lookup_key key hrow,hq]
    · rw [updateWhere_of_affected_zero hc] at h
      exact .inr ⟨(Option.some.inj h).symm,hc⟩

lemma lookup_insert [DecidablePred Check] [DecidableRel Fits] (h : t.insert r = some u) :
    u.lookup key k = (t.lookup key k).or (if key r = k then some r else none) := by
  simp only [lookup,first,rows_of_insert h,find?_append]
  congr 1
  split_ifs with hk <;> simp [hk]

end Keyed

section Evolution
variable {Same : R → R → Prop} {Good : R → Prop}

/-- Every row stays, as the same row to `Same`, and `Good` goes on to hold of all rows. -/
structure Evolves (Same : R → R → Prop) (Good : R → Prop) (t u : Table R Check Fits) : Prop where
  kept : ∀ a ∈ t.rows, ∃ b ∈ u.rows, Same a b
  sound : (∀ a ∈ t.rows, Good a) → ∀ b ∈ u.rows, Good b

lemma Evolves.refl (hs : ∀ a, Same a a) (t : Table R Check Fits) : t.Evolves Same Good t :=
  ⟨fun a ha => ⟨a,ha,hs a⟩,fun h => h⟩

lemma Evolves.weaken {Same' : R → R → Prop} (hs : ∀ a b, Same a b → Same' a b)
    (h : t.Evolves Same Good u) : t.Evolves Same' Good u := by
  refine ⟨fun a ha => ?_,h.sound⟩
  obtain ⟨b,hb,hab⟩ := h.kept a ha
  exact ⟨b,hb,hs a b hab⟩

lemma Evolves.trans (hs : ∀ {a b c}, Same a b → Same b c → Same a c) (h : t.Evolves Same Good u)
    (g : u.Evolves Same Good v) : t.Evolves Same Good v := by
  refine ⟨?_,fun hgo => g.sound (h.sound hgo)⟩
  intro a ha
  obtain ⟨b,hb,hab⟩ := h.kept a ha
  obtain ⟨c,hc,hbc⟩ := g.kept b hb
  exact ⟨c,hc,hs hab hbc⟩

variable [DecidablePred Check] [DecidableRel Fits]

lemma Evolves.insert (hs : ∀ a, Same a a) (hr : Good r) (h : t.insert r = some u) :
    t.Evolves Same Good u := by
  constructor
  · intro a ha
    exact ⟨a,(mem_of_insert h).2 (.inl ha),hs a⟩
  · intro hgo b hb
    rcases (mem_of_insert h).1 hb with hb | rfl
    · exact hgo b hb
    · exact hr

lemma Evolves.updateWhere (hs : ∀ a, Same a a) (hf : ∀ a, Same a (f a))
    (hgo : ∀ a ∈ t.rows, p a = true → Good a → Good (f a))
    (h : t.updateWhere p f = some u) : t.Evolves Same Good u := by
  constructor
  · intro a ha
    refine ⟨changed p f a,(mem_of_updateWhere h).2 ⟨a,ha,rfl⟩,?_⟩
    unfold changed
    split_ifs
    · exact hf a
    · exact hs a
  · intro hal b hb
    obtain ⟨a,ha,rfl⟩ := (mem_of_updateWhere h).1 hb
    unfold changed
    split_ifs with hp
    · exact hgo a ha hp (hal a ha)
    · exact hal a ha

end Evolution

section Rewriting
variable {Keeps : R → R → Prop} {New : R → Prop}

/-- Every row stays in its place, changed as `Keeps` allows, and new rows follow. -/
def Rewrites (Keeps : R → R → Prop) (New : R → Prop) (t u : Table R Check Fits) : Prop :=
  ∃ (f : R → R) (new : List R), u.rows = t.rows.map f ++ new ∧ (∀ a ∈ t.rows, Keeps a (f a)) ∧
    ∀ a ∈ new, New a

lemma Rewrites.refl (hk : ∀ a, Keeps a a) (t : Table R Check Fits) : t.Rewrites Keeps New t :=
  ⟨id,[],by simp,fun a _ => hk a,by simp⟩

lemma Rewrites.weaken {Keeps' : R → R → Prop} (hk : ∀ {a b}, Keeps a b → Keeps' a b)
    (h : t.Rewrites Keeps New u) : t.Rewrites Keeps' New u := by
  obtain ⟨f,new,hu,hf,hn⟩ := h
  exact ⟨f,new,hu,fun a ha => hk (hf a ha),hn⟩

lemma Rewrites.kept (h : t.Rewrites Keeps New u) (ha : a ∈ t.rows) : ∃ b ∈ u.rows, Keeps a b := by
  obtain ⟨f,new,hu,hf,-⟩ := h
  refine ⟨f a,?_,hf a ha⟩
  rw [hu]
  exact mem_append_left _ (mem_map_of_mem ha)

lemma Rewrites.trans (hk : ∀ {a b c}, Keeps a b → Keeps b c → Keeps a c)
    (hn : ∀ {a b}, Keeps a b → New a → New b)
    (h : t.Rewrites Keeps New u) (g : u.Rewrites Keeps New v) : t.Rewrites Keeps New v := by
  obtain ⟨f,new,hu,hf,hnew⟩ := h
  obtain ⟨f',ne,hv,hf',hn'⟩ := g
  have hold : ∀ a ∈ t.rows, f a ∈ u.rows := fun a ha => by
    rw [hu]
    exact mem_append_left _ (mem_map_of_mem ha)
  have hadd : ∀ a ∈ new, a ∈ u.rows := fun a ha => by
    rw [hu]
    exact mem_append_right _ ha
  refine ⟨f' ∘ f,new.map f' ++ ne,?_,fun a ha => hk (hf a ha) (hf' (f a) (hold a ha)),?_⟩
  · rw [hv,hu]
    simp
  · intro a ha
    rcases mem_append.1 ha with hm | hl
    · obtain ⟨b,hb,rfl⟩ := mem_map.1 hm
      exact hn (hf' b (hadd b hb)) (hnew b hb)
    · exact hn' a hl

variable [DecidablePred Check] [DecidableRel Fits]

lemma Rewrites.updateWhere (hk : ∀ a, Keeps a a)
    (hf : ∀ a, p a = true → Check (f a) → Keeps a (f a)) (h : t.updateWhere p f = some u) :
    t.Rewrites Keeps New u := by
  refine ⟨changed p f,[],?_,?_,by simp⟩
  · rw [rows_of_updateWhere h]
    simp
  · intro a ha
    have hc : Check (changed p f a) := u.checks _ ((mem_of_updateWhere h).2 ⟨a,ha,rfl⟩)
    unfold changed at hc ⊢
    split_ifs at hc ⊢ with hp
    · exact hf a hp hc
    · exact hk a

lemma rows_of_updateWhere_newest (hu : u.rows = ro ++ [r]) (hp : ∀ a, Fits a r → p a = false)
    (h : u.updateWhere p f = some v) : v.rows = ro ++ [changed p f r] := by
  have hf : ∀ a ∈ ro, Fits a r := by
    have hal := u.fits
    rw [hu,pairwise_append] at hal
    exact fun a ha => hal.2.2 a ha r (mem_singleton_self r)
  have ho : ∀ a ∈ ro, changed p f a = id a := fun a ha => by
    simp [changed,hp a (hf a ha)]
  rw [rows_of_updateWhere h,hu,map_append,map_congr_left ho]
  simp

end Rewriting
end
end Table

end VaultspecA2A.Tables
