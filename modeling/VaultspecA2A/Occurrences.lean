import Mathlib.Data.List.Infix

/-!
# Occurrences of words in a text

A word occurs in a text at the places from which the text goes on with it. An occurrence of one
word lies within an occurrence of another if it begins no earlier and ends no later; then the first
word is part of the second. An occurrence of a word is its own, with respect to a list of words, if
it lies within no occurrence of a longer word of the list.

The lemmas on counting at the end say when a list holds a property at two places.
-/
namespace VaultspecA2A.Occurrences
open List

variable {α : Type*} {i : ℕ}

section
variable [DecidableEq α]

/-- The places where a word occurs, an empty word at every place. -/
def occurrences (word text : List α) : List ℕ :=
  (List.range (text.length + 1)).filter fun i => word.isPrefixOf (text.drop i)

/-- The occurrence at `i` lies within the one at `j`. -/
def within (word : List α) (i : ℕ) (other : List α) (j : ℕ) : Bool :=
  decide (j ≤ i) && decide (i + word.length ≤ j + other.length)

def occursAlone (words : List (List α)) (text word : List α) : Bool :=
  (occurrences word text).any fun i => words.all fun other =>
    decide (other.length ≤ word.length) ||
      (occurrences other text).all fun j => !within word i other j

variable {wo o x : List α}

lemma mem_occurrences : i ∈ occurrences wo x ↔ i ≤ x.length ∧ wo <+: x.drop i := by
  simp [occurrences,Nat.lt_succ_iff]

lemma occurrences_ne_nil_iff : occurrences wo x ≠ [] ↔ wo <:+: x := by
  constructor
  · intro h
    obtain ⟨i,hi⟩ := exists_mem_of_ne_nil _ h
    exact (mem_occurrences.1 hi).2.isInfix.trans (drop_suffix i x).isInfix
  · intro h
    obtain ⟨r,hs,hsu⟩ := infix_iff_prefix_suffix.1 h
    rw [suffix_iff_eq_drop] at hsu
    rw [hsu] at hs
    exact ne_nil_of_mem (mem_occurrences.2 ⟨Nat.sub_le _ _,hs⟩)

lemma infix_of_within (hi : i ∈ occurrences wo x) (hj : j ∈ occurrences o x)
    (hw : within wo i o j = true) : wo <:+: o := by
  simp only [within,Bool.and_eq_true,decide_eq_true_eq] at hw
  obtain ⟨hb,hen⟩ := hw
  have hwo := (mem_occurrences.1 hi).2
  have ho : o.drop (i - j) <+: x.drop i := by
    have hd := (mem_occurrences.1 hj).2.drop (i - j)
    rw [drop_drop] at hd
    have hpl : j + (i - j) = i := by omega
    rwa [hpl] at hd
  have hp : wo <+: o.drop (i - j) := by
    apply prefix_of_prefix_length_le hwo ho
    rw [length_drop]
    omega
  exact hp.isInfix.trans (drop_suffix _ _).isInfix

lemma exists_longer (ho : occurrences wo x ≠ []) (hc : occursAlone wr x wo = false) :
    ∃ o ∈ wr, wo.length < o.length ∧ occurrences o x ≠ [] ∧ wo <:+: o := by
  obtain ⟨i,hi⟩ := exists_mem_of_ne_nil _ ho
  have hn := any_eq_false.1 hc i hi
  obtain ⟨o,hot,hl⟩ : ∃ o ∈ wr, ¬ (decide (o.length ≤ wo.length) ||
      (occurrences o x).all fun j => !within wo i o j) = true := by
    simpa using hn
  simp only [Bool.or_eq_true,decide_eq_true_eq,not_or,not_le,all_eq_true,
    not_forall,Bool.not_eq_true',Bool.not_eq_false] at hl
  obtain ⟨hle,j,hj,hw⟩ := hl
  exact ⟨o,hot,hle,ne_nil_of_mem hj,infix_of_within hi hj hw⟩

end

section
variable {l : List α} {a b : α} {q : α → Bool}

/-- Around an element with the property, two elements have it if another one has. -/
lemma two_le_countP_iff (hq : q a = true) :
    2 ≤ (p ++ a :: af).countP q ↔ ∃ b ∈ p ++ af, q b = true := by
  rw [← countP_pos_iff,countP_append,countP_append,countP_cons_of_pos hq]
  omega

lemma two_le_countP (ha : a ∈ l) (hb : b ∈ l) (hne : b ≠ a) (hqa : q a = true)
    (hqb : q b = true) : 2 ≤ l.countP q := by
  obtain ⟨p,af,rfl⟩ := append_of_mem ha
  rw [two_le_countP_iff hqa]
  refine ⟨b,?_,hqb⟩
  simpa [hne] using hb

/-- Another place of the list than that of `a` holds an element with the property, where `a` has
it too, if two elements have it. -/
lemma any_other_place_iff (ha : (a,i) ∈ l.zipIdx) (hq : q a = true) :
    (l.zipIdx.any fun o => decide (o.2 ≠ i) && q o.1) = true ↔ 2 ≤ l.countP q := by
  have hp : l[i]? = some a := mem_zipIdx_iff_getElem?.1 ha
  obtain ⟨p,af,rfl,rfl⟩ : ∃ p af, l = p ++ a :: af ∧ p.length = i := by
    obtain ⟨hlt,rfl⟩ := List.getElem?_eq_some_iff.1 hp
    refine ⟨l.take i,l.drop (i + 1),?_,by simp; omega⟩
    rw [← drop_eq_getElem_cons hlt,take_append_drop]
  rw [two_le_countP_iff hq,any_eq_true]
  constructor
  · rintro ⟨⟨b,j⟩,hb,ho⟩
    simp only [Bool.and_eq_true,decide_eq_true_eq] at ho
    have hb := mem_zipIdx_iff_getElem?.1 hb
    refine ⟨b,?_,ho.2⟩
    rcases Nat.lt_or_gt_of_ne ho.1 with hlt | hgt
    · rw [getElem?_append_left hlt] at hb
      exact mem_append_left _ (mem_of_getElem? hb)
    · obtain ⟨k,rfl⟩ := Nat.exists_eq_add_of_lt hgt
      rw [getElem?_append_right (by omega)] at hb
      have hk : p.length + k + 1 - p.length = k + 1 := by omega
      rw [hk,getElem?_cons_succ] at hb
      exact mem_append_right _ (mem_of_getElem? hb)
  · rintro ⟨b,hb,hqb⟩
    rcases mem_append.1 hb with hb | hb
    · obtain ⟨j,hj⟩ := getElem?_of_mem hb
      have hlt : j < p.length := (List.getElem?_eq_some_iff.1 hj).1
      refine ⟨(b,j),mem_zipIdx_iff_getElem?.2 ?_,by simp [hlt.ne,hqb]⟩
      rw [getElem?_append_left hlt,hj]
    · obtain ⟨j,hj⟩ := getElem?_of_mem hb
      refine ⟨(b,p.length + (j + 1)),mem_zipIdx_iff_getElem?.2 ?_,by simp [hqb]⟩
      rw [getElem?_append_right (by simp)]
      simpa using hj

end

end VaultspecA2A.Occurrences
