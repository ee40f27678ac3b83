import Mathlib.Algebra.BigOperators.Group.List.Basic
import Mathlib.Data.List.Nodup

/-!
# Mappings in insertion order

A mapping is the list of its entries, no key twice. Setting a key that is there replaces
its value in place and setting a new one puts it last, so the order of the entries is part
of the mapping. Two mappings that answer every lookup alike can differ in that order;
restricting a mapping to some keys keeps it.
-/
namespace VaultspecA2A.OrderedDict
open List

structure Dict (K V : Type*) where
  entries : List (K × V)
  nodup : (entries.map Prod.fst).Nodup

section
variable {K V : Type*} [DecidableEq K]

def setEntry (key : K) (value : V) : List (K × V) → List (K × V)
  | [] => [(key,value)]
  | entry :: entries =>
    if entry.1 = key then (key,value) :: entries else entry :: setEntry key value entries

variable {key o : K} {value : V} {es : List (K × V)}

lemma setEntry_keys : (setEntry key value es).map Prod.fst =
    if key ∈ es.map Prod.fst then es.map Prod.fst
    else es.map Prod.fst ++ [key] := by
  induction es with
  | nil => rfl
  | cons en es ih =>
    rw [setEntry,map_cons]
    by_cases h : en.1 = key
    · rw [if_pos h,if_pos (h ▸ mem_cons_self),map_cons,h]
    · have hi : key ∈ en.1 :: es.map Prod.fst ↔ key ∈ es.map Prod.fst := by
        simp [Ne.symm h]
      rw [if_neg h,map_cons,ih]
      simp only [hi]
      split_ifs <;> rfl

lemma setEntry_nodup (h : (es.map Prod.fst).Nodup) :
    ((setEntry key value es).map Prod.fst).Nodup := by
  rw [setEntry_keys]
  split_ifs with hm
  · exact h
  · rw [← concat_eq_append]
    exact h.concat hm

lemma setEntry_new (h : key ∉ es.map Prod.fst) : setEntry key value es = es ++ [(key,value)] := by
  induction es with
  | nil => rfl
  | cons en es ih =>
    rw [map_cons,mem_cons,not_or] at h
    rw [setEntry,if_neg (Ne.symm h.1),ih h.2,cons_append]

lemma mem_of_mem_setEntry (h : en ∈ setEntry key value es) : en = (key,value) ∨ en ∈ es := by
  induction es with
  | nil => exact .inl (mem_singleton.1 h)
  | cons first es ih =>
    rw [setEntry] at h
    split_ifs at h with hk
    · exact (mem_cons.1 h).imp_right (mem_cons_of_mem first)
    · rcases mem_cons.1 h with rfl | hm
      · exact .inr mem_cons_self
      · exact (ih hm).imp_right (mem_cons_of_mem first)

lemma setEntry_find : (setEntry key value es).find? (fun en => en.1 = o) =
    if o = key then some (key,value) else es.find? fun en => en.1 = o := by
  induction es with
  | nil =>
    by_cases h : o = key
    · simp [setEntry,h]
    · simp [setEntry,h,Ne.symm h]
  | cons en es ih =>
    rw [setEntry]
    by_cases hk : en.1 = key
    · by_cases h : o = key
      · simp [hk,h]
      · simp [hk,h,Ne.symm h]
    · rw [if_neg hk,find?_cons,find?_cons,ih]
      by_cases h : en.1 = o
      · have ho : o ≠ key := h ▸ hk
        simp [h,ho]
      · simp [h]

lemma setEntry_filter (ke : K → Bool) : (setEntry key value es).filter (fun en => ke en.1) =
    if ke key then setEntry key value (es.filter fun en => ke en.1)
    else es.filter fun en => ke en.1 := by
  induction es with
  | nil => cases h : ke key <;> simp [setEntry,h]
  | cons en es ih =>
    rw [setEntry]
    by_cases hk : en.1 = key
    · subst hk
      cases h : ke en.1 <;> simp [setEntry,h]
    · rw [if_neg hk,filter_cons,filter_cons,ih]
      cases h : ke key <;> cases hen : ke en.1 <;> simp [setEntry,hk]

end

namespace Dict
section
variable {K V : Type*}

def keys (d : Dict K V) : List K := d.entries.map Prod.fst

instance : EmptyCollection (Dict K V) := ⟨⟨[],List.nodup_nil⟩⟩

lemma ext_entries {d e : Dict K V} (h : d.entries = e.entries) : d = e := by
  cases d; cases e; cases h; rfl

def restrict (keep : K → Bool) (d : Dict K V) : Dict K V where
  entries := d.entries.filter fun entry => keep entry.1
  nodup := d.nodup.sublist (List.filter_sublist.map Prod.fst)

@[simp] lemma restrict_entries (ke : K → Bool) (d : Dict K V) :
    (d.restrict ke).entries = d.entries.filter fun en => ke en.1 := rfl

lemma restrict_restrict (ke : K → Bool) (d : Dict K V) :
    (d.restrict ke).restrict ke = d.restrict ke := by
  refine ext_entries ?_
  rw [restrict_entries,restrict_entries,filter_filter]
  simp only [Bool.and_self]

variable [DecidableEq K]

def get (d : Dict K V) (key : K) : Option V :=
  (d.entries.find? fun entry => entry.1 = key).map Prod.snd

def set (d : Dict K V) (key : K) (value : V) : Dict K V where
  entries := setEntry key value d.entries
  nodup := setEntry_nodup d.nodup

@[simp] lemma set_entries (d : Dict K V) (key : K) (value : V) :
    (d.set key value).entries = setEntry key value d.entries := rfl

def update (d : Dict K V) (pairs : List (K × V)) : Dict K V :=
  pairs.foldl (fun d entry => d.set entry.1 entry.2) d

def ofPairs (pairs : List (K × V)) : Dict K V := update ∅ pairs

variable {d e : Dict K V} {key o : K} {value : V} {pa : List (K × V)} {ke : K → Bool}

lemma mem_entries_iff : (key,value) ∈ d.entries ↔ d.get key = some value := by
  rw [get,Option.map_eq_some_iff]
  constructor
  · intro hm
    have hf : (d.entries.find? fun en => en.1 = key).isSome := by
      rw [find?_isSome]
      exact ⟨(key,value),hm,decide_eq_true rfl⟩
    obtain ⟨en,hen⟩ := Option.isSome_iff_exists.1 hf
    have hk : en.1 = key := by simpa using find?_some hen
    have hs := inj_on_of_nodup_map d.nodup (mem_of_find?_eq_some hen) hm hk
    exact ⟨en,hen,by rw [hs]⟩
  · rintro ⟨en,hen,rfl⟩
    have hk : en.1 = key := by simpa using find?_some hen
    rw [← hk]
    exact mem_of_find?_eq_some hen

lemma mem_keys_iff : key ∈ d.keys ↔ (d.get key).isSome := by
  rw [keys,mem_map,Option.isSome_iff_exists]
  constructor
  · rintro ⟨en,hm,rfl⟩
    exact ⟨en.2,mem_entries_iff.1 hm⟩
  · rintro ⟨value,hge⟩
    exact ⟨(key,value),mem_entries_iff.2 hge,rfl⟩

@[simp] lemma get_empty : (∅ : Dict K V).get key = none := rfl

@[simp] lemma get_set : (d.set key value).get o = if o = key then some value else d.get o := by
  rw [get,set,setEntry_find,apply_ite (Option.map Prod.snd)]
  rfl

lemma get_restrict : (d.restrict ke).get key = if ke key then d.get key else none := by
  rw [get,restrict,find?_filter]
  cases h : ke key with
  | true =>
    rw [if_pos rfl,get]
    congr 2
    funext en
    by_cases hk : en.1 = key
    · simp [hk,h]
    · simp [hk]
  | false =>
    rw [if_neg Bool.false_ne_true,Option.map_eq_none_iff,find?_eq_none]
    rintro en - hen
    simp only [Bool.decide_and,Bool.decide_eq_true,Bool.and_eq_true,decide_eq_true_eq] at hen
    rw [hen.2,h] at hen
    exact Bool.false_ne_true hen.1

lemma entries_set_new (h : d.get key = none) :
    (d.set key value).entries = d.entries ++ [(key,value)] := by
  refine setEntry_new fun hm => ?_
  have hs := mem_keys_iff.1 hm
  rw [h] at hs
  exact Bool.false_ne_true hs

lemma restrict_set : (d.set key value).restrict ke =
    if ke key then (d.restrict ke).set key value else d.restrict ke := by
  refine ext_entries ?_
  rw [restrict_entries,set_entries,setEntry_filter,apply_ite Dict.entries,set_entries,
    restrict_entries]

@[simp] lemma update_nil : d.update [] = d := rfl

@[simp] lemma update_cons (en : K × V) : d.update (en :: pa) = (d.set en.1 en.2).update pa := rfl

lemma restrict_update : (d.update pa).restrict ke =
    (d.restrict ke).update (pa.filter fun en => ke en.1) := by
  induction pa generalizing d with
  | nil => rfl
  | cons en pa ih =>
    rw [update_cons,ih,restrict_set,filter_cons]
    split_ifs <;> rfl

/-- Entries under new keys are put behind those that are there. -/
lemma entries_update_new (hn : (pa.map Prod.fst).Nodup)
    (hnew : ∀ en ∈ pa, d.get en.1 = none) : (d.update pa).entries = d.entries ++ pa := by
  induction pa generalizing d with
  | nil => exact (append_nil _).symm
  | cons en pa ih =>
    obtain ⟨hen,hp⟩ := forall_mem_cons.1 hnew
    obtain ⟨hf,hn⟩ := nodup_cons.1 hn
    rw [update_cons,ih hn,entries_set_new hen,append_assoc,singleton_append]
    intro o ho
    rw [get_set,if_neg,hp o ho]
    intro hs
    exact hf (hs ▸ mem_map_of_mem ho)

lemma get_update (h : (pa.map Prod.fst).Nodup) : (d.update pa).get key =
    ((pa.find? fun en => en.1 = key).map Prod.snd).or (d.get key) := by
  induction pa generalizing d with
  | nil => rfl
  | cons en pa ih =>
    obtain ⟨hf,hn⟩ := nodup_cons.1 h
    rw [update_cons,ih hn,get_set,find?_cons]
    by_cases hk : en.1 = key
    · have hno : (pa.find? fun o => o.1 = key) = none := by
        rw [find?_eq_none]
        intro o ho hs
        rw [decide_eq_true_eq,← hk] at hs
        exact hf (hs ▸ mem_map_of_mem ho)
      simp [hno,hk]
    · simp [hk,Ne.symm hk]

lemma mem_of_mem_update (h : en ∈ (d.update pa).entries) : en ∈ d.entries ∨ en ∈ pa := by
  induction pa generalizing d with
  | nil => exact .inl h
  | cons first pa ih =>
    rcases ih h with hs | hp
    · rcases mem_of_mem_setEntry hs with rfl | hm
      · exact .inr mem_cons_self
      · exact .inl hm
    · exact .inr (mem_cons_of_mem first hp)

lemma mem_of_mem_ofPairs (h : en ∈ (ofPairs pa).entries) : en ∈ pa :=
  (mem_of_mem_update h).resolve_left not_mem_nil

lemma get_update_dict : (d.update e.entries).get key = (e.get key).or (d.get key) :=
  get_update e.nodup

lemma ofPairs_of_nodup (h : (pa.map Prod.fst).Nodup) : (ofPairs pa).entries = pa := by
  rw [ofPairs,entries_update_new h fun _ _ => get_empty]
  rfl

lemma ofPairs_entries : ofPairs d.entries = d := ext_entries (ofPairs_of_nodup d.nodup)

lemma entries_perm {keys : List K} (hn : keys.Nodup)
    (hk : ∀ key value, d.get key = some value → key ∈ keys) :
    (keys.filterMap fun key => (d.get key).map (Prod.mk key)).Perm d.entries := by
  refine (perm_ext_iff_of_nodup ?_ d.nodup.of_map).2 ?_
  · refine hn.filterMap fun a b en ha hb => ?_
    rw [Option.mem_def,Option.map_eq_some_iff] at ha hb
    obtain ⟨v,-,rfl⟩ := ha
    obtain ⟨w,-,hw⟩ := hb
    exact (congrArg Prod.fst hw).symm
  · rintro ⟨key,value⟩
    rw [mem_entries_iff,mem_filterMap]
    constructor
    · rintro ⟨fo,-,hf⟩
      obtain ⟨v,hge,heq⟩ := Option.map_eq_some_iff.1 hf
      cases heq
      exact hge
    · intro hge
      exact ⟨key,hk key value hge,by rw [hge,Option.map_some]⟩

end
end Dict

end VaultspecA2A.OrderedDict
