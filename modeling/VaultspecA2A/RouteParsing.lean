import VaultspecA2A.Occurrences
import VaultspecA2A.SupervisorRouting

/-!
# Which route a reply names

A reply that is not itself an option is searched for the names of the options, ignoring case. The
names can be part of one another, so a reply that holds the longer name holds the shorter one too.
The parser tells the two apart by the names alone: an option counts if no other option that occurs
in the reply has its name inside its own. Where the names stand in the reply plays no part, and an
option that also stands alone is dropped with the occurrences that lie within the longer name.
-/
namespace VaultspecA2A.RouteParsing
open PyText SupervisorRouting Occurrences List

section
variable (prims : Primitives) (text : String) (options : List String) (option : String)

def occurs : Bool := contains (prims.lower text) (prims.lower option)

/-- How many of the options that occur in the reply have this name in their own. -/
def holders : ℕ :=
  options.countP fun other => occurs prims text other && contains (prims.lower other) (prims.lower option)

/-- The option occurs, and its name is in no other one's that occurs. -/
def outermost : Bool := occurs prims text option && decide (holders prims text options option = 1)

/-- The option has an occurrence in the reply that lies within none of a longer option. -/
def standsAlone : Bool :=
  occursAlone (options.map fun other => (prims.lower other).toList) (prims.lower text).toList
    (prims.lower option).toList

variable {prims text options option}

lemma occursIn_iff : occursIn wo cs = true ↔ wo <:+: cs := by
  induction cs with
  | nil => simp [occursIn]
  | cons c cs ih =>
    rw [occursIn,Bool.or_eq_true, isPrefixOf_iff_prefix,ih,infix_cons_iff]

lemma contains_iff : contains text wo = true ↔ wo.toList <:+: text.toList := occursIn_iff

lemma occurs_iff : occurs prims text option = true ↔
    occurrences (prims.lower option).toList (prims.lower text).toList ≠ [] :=
  contains_iff.trans occurrences_ne_nil_iff.symm

lemma contains_self (wo : String) : contains wo wo = true := contains_iff.2 (infix_refl _)

lemma holders_pos (h : option ∈ options) (ho : occurs prims text option = true) :
    0 < holders prims text options option :=
  countP_pos_iff.2 ⟨option,h,by simp [ho,contains_self]⟩

lemma namedOptions_eq :
    namedOptions prims text options = options.filter (outermost prims text options) := by
  let ma := options.filter (occurs prims text)
  have hc : ∀ option, ma.countP (fun o => contains (prims.lower o) (prims.lower option)) =
        holders prims text options option := by
    intro option
    rw [countP_filter,holders]
    simp only [Bool.and_comm]
  have hk : ∀ e ∈ ma.zipIdx, (!ma.zipIdx.any fun o => decide (o.2 ≠ e.2) &&
        contains (prims.lower o.1) (prims.lower e.1)) =
      decide (holders prims text options e.1 = 1) := by
    rintro ⟨option,i⟩ hen
    have ha := any_other_place_iff (q := fun o =>
      contains (prims.lower o) (prims.lower option)) hen (contains_self _)
    rw [hc] at ha
    have hm := mem_filter.1 (fst_mem_of_mem_zipIdx hen)
    have hp : 0 < holders prims text options option := holders_pos hm.1 hm.2
    rw [Bool.eq_iff_iff,Bool.not_eq_true',← Bool.not_eq_true,ha,decide_eq_true_iff]
    dsimp only
    omega
  calc namedOptions prims text options = (ma.zipIdx.filter fun e =>
          decide (holders prims text options e.1 = 1)).map Prod.fst := by
        unfold namedOptions
        exact congrArg (List.map Prod.fst) (filter_congr hk)
    _ = (ma.zipIdx.map Prod.fst).filter fun option =>
          decide (holders prims text options option = 1) := by
        rw [filter_map]
        rfl
    _ = options.filter (outermost prims text options) := by
        rw [zipIdx_map_fst,filter_filter]
        exact filter_congr fun option _ => Bool.and_comm _ _

lemma standsAlone_of_outermost (h : option ∈ options)
    (hou : outermost prims text options option = true) :
    standsAlone prims text options option = true := by
  obtain ⟨ho,hs⟩ : occurs prims text option = true ∧
      holders prims text options option = 1 := by simpa [outermost] using hou
  by_contra hc
  obtain ⟨_,hot,hl,hf,hp⟩ := exists_longer (occurs_iff.1 ho) (Bool.eq_false_iff.2 hc)
  obtain ⟨o,hm,rfl⟩ := mem_map.1 hot
  have hne : o ≠ option := by
    rintro rfl
    exact Nat.lt_irrefl _ hl
  have ht : 2 ≤ holders prims text options option :=
    two_le_countP h hm hne (by simp [ho,contains_self])
      (by simp [occurs_iff.2 hf,contains_iff.2 hp])
  omega

lemma parseRoute_ok_iff (ht : text ∉ options) : parseRoute prims text options = .ok rt ↔
    options.filter (outermost prims text options) = [rt] := by
  rw [parseRoute,if_neg ht,namedOptions_eq]
  split
  · rename_i hn
    simp [hn]
  · rename_i hn
    simp [hn]
  · rename_i hno _
    constructor
    · intro h
      cases h
    · intro hn
      exact (hno rt hn).elim

end

/-- A reply yields a route only if that is the one option that stands alone in it, and a reply in
which two different options stand alone is refused. -/
structure ReadsRoute (prims : Primitives) (text : String) (options : List String) : Prop where
  routed : ∀ route, parseRoute prims text options = .ok route →
    standsAlone prims text options route = true ∧
      ∀ option ∈ options, standsAlone prims text options option = true → option = route
  refused : ∀ first ∈ options, ∀ second ∈ options, first ≠ second →
    standsAlone prims text options first = true → standsAlone prims text options second = true →
    ∃ refusal, parseRoute prims text options = .error refusal

/-- For every reply and every list of workers, where the reply is not an option itself: it is read
as described if and only if, when it holds a single outermost option, no option stands alone in it
that is not outermost. -/
theorem readsRoute_iff (prims : Primitives) (text : String) (workers : List String)
    (htext : text ∉ workers ++ [finishRoute]) :
    ReadsRoute prims text (workers ++ [finishRoute]) ↔ (((workers ++ [finishRoute]).filter
          (outermost prims text (workers ++ [finishRoute]))).length = 1 →
        ∀ option ∈ workers ++ [finishRoute],
          standsAlone prims text (workers ++ [finishRoute]) option = true →
          outermost prims text (workers ++ [finishRoute]) option = true) := by
  generalize workers ++ [finishRoute] = options at htext ⊢
  constructor
  · intro h hon option ho ha
    obtain ⟨route,hro⟩ := length_eq_one_iff.1 hon
    have hs := (h.routed route ((parseRoute_ok_iff htext).2 hro)).2 option ho ha
    have hm : route ∈ options.filter (outermost prims text options) := by simp [hro]
    rw [hs]
    exact (mem_filter.1 hm).2
  · intro h
    have hrou : ∀ route, parseRoute prims text options = .ok route →
        standsAlone prims text options route = true ∧
          ∀ option ∈ options, standsAlone prims text options option = true → option = route := by
      intro route hok
      have hro := (parseRoute_ok_iff htext).1 hok
      have hm : route ∈ options.filter (outermost prims text options) := by simp [hro]
      obtain ⟨ho,hou⟩ := mem_filter.1 hm
      refine ⟨standsAlone_of_outermost ho hou,?_⟩
      intro option ho ha
      have hot := mem_filter.2 ⟨ho,h (by simp [hro]) option ho ha⟩
      rw [hro] at hot
      exact mem_singleton.1 hot
    refine ⟨hrou,?_⟩
    intro first hf second hse hne hfi hsec
    cases hre : parseRoute prims text options with
    | error refusal => exact ⟨refusal,rfl⟩
    | ok route =>
      have hb := (hrou route hre).2
      have heq := (hb first hf hfi).trans (hb second hse hsec).symm
      exact (hne heq).elim

def plainPrims : Primitives := ⟨PyText.lower,id,fun _ => ""⟩

/-- A reply that names the reviewer in a sentence. -/
theorem readsRoute_iff_reviewer :
    ReadsRoute plainPrims "The Reviewer should look at this" (["coder","reviewer"] ++ [finishRoute]) :=
  (readsRoute_iff _ _ _ (by decide)).2 (by decide)

/-- Of two workers, each named on its own, the one with the longer name is taken. -/
theorem two_workers_one_route :
    parseRoute plainPrims "vaultspec-coder, then coder" (["coder","vaultspec-coder"] ++ [finishRoute]) =
        .ok "vaultspec-coder" ∧
      ¬ ReadsRoute plainPrims "vaultspec-coder, then coder"
        (["coder","vaultspec-coder"] ++ [finishRoute]) := by
  have hok : parseRoute plainPrims "vaultspec-coder, then coder"
      (["coder","vaultspec-coder"] ++ [finishRoute]) = .ok "vaultspec-coder" := by decide
  refine ⟨hok,fun h => ?_⟩
  have hs := (h.routed _ hok).2 "coder" (by decide) (by decide)
  exact absurd hs (by decide)

end VaultspecA2A.RouteParsing
