import VaultspecA2A.Grounding

/-!
# Documents that ground a phase

A phase is refused when a requirement group has no link. The types a group admits stand in one
table, the directories whose documents become links in another, and a link counts for a type by the
end of its file name. An audit is a type that every group of investigations admits, and no phase
collects audits: a decision that rests on an applied audit alone is refused.
-/
namespace VaultspecA2A.GroundingCompleteness
open PyText PyValue Grounding List

lemma suffix_append_iff {α : Type*} {ma : α} {fr wo r : List α} (hre : ma ∉ r)
    (hw : ma ∈ wo) : (ma :: r) <:+ fr ++ wo ↔ (ma :: r) <:+ wo := by
  constructor
  · intro h
    rcases suffix_or_suffix_of_suffix h (suffix_append fr wo) with hin | ho
    · exact hin
    · rcases suffix_cons_iff.1 ho with heq | hs
      · exact heq.symm ▸ suffix_rfl
      · exact (hre (hs.subset hw)).elim
  · intro h
    exact h.trans (suffix_append fr wo)

lemma countsAs_iff {dt li : String} : countsAs dt li = true ↔
    ('-' :: dt.toList) <:+ li.toList.rdropWhile (· = ']') := by
  rw [countsAs,endsWith,isSuffixOf_iff_suffix,rstrip,String.toList_ofList,String.toList_append]
  rfl

/-- What is dropped from the end of a text stops at the last letter that is kept. -/
lemma rdropWhile_append {α : Type*} {p : α → Bool} {fr wo : List α}
    (h : ∃ x ∈ wo, ¬ p x = true) : (fr ++ wo).rdropWhile p = fr ++ wo.rdropWhile p := by
  induction wo using List.reverseRecOn with
  | nil =>
    obtain ⟨x,hx,-⟩ := h
    cases hx
  | append_singleton wo x ih =>
    rw [← append_assoc]
    by_cases hx : p x = true
    · rw [rdropWhile_concat_pos _ _ _ hx,rdropWhile_concat_pos _ _ _ hx]
      apply ih
      obtain ⟨kept,hk,hs⟩ := h
      rcases mem_append.1 hk with hold | hn
      · exact ⟨kept,hold,hs⟩
      · rw [mem_singleton.1 hn] at hs
        exact (hs hx).elim
    · rw [rdropWhile_concat_neg _ _ _ hx,rdropWhile_concat_neg _ _ _ hx,append_assoc]

lemma mem_rdropWhile {α : Type*} {p : α → Bool} {wo : List α} {x : α} (hx : x ∈ wo)
    (hs : ¬ p x = true) : x ∈ wo.rdropWhile p := by
  rw [← @List.rdropWhile_append_rtakeWhile _ p wo] at hx
  rcases mem_append.1 hx with hk | hd
  · exact hk
  · exact (hs (mem_rtakeWhile_imp hd)).elim

lemma countsAs_wikiLink {dt da ba : String} (ht : '-' ∉ dt.toList) (hb : '-' ∈ ba.toList) :
    countsAs dt (wikiLink (da ++ "-" ++ ba)) = countsAs dt ba := by
  have hs : ¬ decide ('-' = ']') = true := by decide
  have hl : (wikiLink (da ++ "-" ++ ba)).toList =
      "[[".toList ++ (da.toList ++ ['-']) ++ ba.toList ++ [']'] ++ [']'] := by
    simp [wikiLink]
  rw [Bool.eq_iff_iff,countsAs_iff,countsAs_iff,hl,
    rdropWhile_concat_pos _ _ _ (by decide),rdropWhile_concat_pos _ _ _ (by decide),
    rdropWhile_append ⟨'-',hb,hs⟩,
    suffix_append_iff ht (mem_rdropWhile hb hs)]

/-- The proposal is applied, its timestamp has a date, and its child is the feature's document of
the type. -/
structure AppliedDocument (feature docType : String) (item : Value) : Prop where
  applied : (item.get "status").any (·.isKey "applied") = true
  dated : ∃ ms date, item.get "created_at_ms" = some (.int ms) ∧ dateKey ms = some date
  child : groundingChildKey item = some (docType ++ "/" ++ (feature ++ "-" ++ docType ++ ".md"))

/-- For each requirement group the snapshot holds a document of the feature. -/
def Grounded (feature : String) (phase : PipelinePhase) (items : List Value) : Prop :=
  ∀ group ∈ phaseRequiredGrounding phase, ∃ docType ∈ group, ∃ item ∈ items,
    AppliedDocument feature docType item

/-- The submission is refused for a group that no link meets. -/
def RefusedUngrounded (snapshot : Option Value) (feature : String) (phase : PipelinePhase) : Prop :=
  ∃ related note, resolveGroundingRelated snapshot feature phase = .ok related ∧
    refuseUngrounded phase related = .error note

/-- The proposal is applied, and its child is a file of the phase's directories whose name begins
with the feature. -/
structure Collected (feature : String) (phase : PipelinePhase) (item : Value) (base : String) :
    Prop where
  applied : AppliedChild (phaseGroundingDirs phase) item base
  named : startsWith base (feature ++ "-") = true

/-- For each requirement group a file is collected whose name ends with a type of the group. -/
def MetInScope (feature : String) (phase : PipelinePhase) (items : List Value) : Prop :=
  ∀ group ∈ phaseRequiredGrounding phase, ∃ item ∈ items, ∃ base, Collected feature phase item base ∧
    ∃ docType ∈ group, countsAs docType base = true

/-- A file is collected whose timestamp has no date. -/
def Undated (feature : String) (phase : PipelinePhase) (items : List Value) : Prop :=
  ∃ item ∈ items, ∃ base ms, Collected feature phase item base ∧
    item.get "created_at_ms" = some (.int ms) ∧ dateKey ms = none

section
variable {fe ba : String} {ph : PipelinePhase}
lemma Collected.link {ms : ℤ} (h : Collected fe ph x ba)
    (hms : x.get "created_at_ms" = some (.int ms)) :
    groundingLink fe (phaseGroundingDirs ph) x =
      match dateKey ms with
      | some da => .ok (some (wikiLink (da ++ "-" ++ ba)))
      | none => .error (.valueError "year is out of range") := by
  obtain ⟨⟨ha,-,dd,hd,hk⟩,hs⟩ := h
  simp only [groundingLink,ha,if_true,hk,hms,
    groundingDatedStem_of_child (phaseGroundingDirs_flat ph) hd hs]
  cases dateKey ms <;> rfl

lemma groundingLink_cases (fe : String) (ph : PipelinePhase) (x : Value) :
    groundingLink fe (phaseGroundingDirs ph) x = .ok none ∨ ∃ ba ms, Collected fe ph x ba ∧
        x.get "created_at_ms" = some (.int ms) := by
  rw [groundingLink]
  split_ifs with ha
  · split
    · exact .inl rfl
    · next childKey hk =>
        rcases groundingDatedStem_cases childKey (x.get "created_at_ms") fe
            (phaseGroundingDirs_flat ph) with
          hs | ⟨dd,hd,ba,ms,rfl,hst,hms⟩
        · left
          rw [hs]
          rfl
        · right
          exact ⟨ba,ms,⟨⟨ha,⟨ms,hms⟩,dd,hd,hk⟩,hst⟩,hms⟩
  · exact .inl rfl

lemma groundingLinks_error {di : List String} : (∃ error, groundingLinks fe di it = .error error) ↔
    ∃ x ∈ it, ∃ error, groundingLink fe di x = .error error := by
  induction it with
  | nil => simp [groundingLinks]
  | cons x r ih =>
    rw [exists_mem_cons_iff,groundingLinks]
    cases hi : groundingLink fe di x with
    | error error => simp
    | ok li =>
      rw [← ih]
      cases groundingLinks fe di r with
      | error error => simp [Except.map]
      | ok ln => simp [Except.map]

lemma undated_iff : Undated fe ph it ↔
    ∃ er, groundingLinks fe (phaseGroundingDirs ph) it = .error er := by
  rw [groundingLinks_error]
  constructor
  · rintro ⟨x,hi,ba,ms,hc,hms,hd⟩
    refine ⟨x,hi,.valueError "year is out of range",?_⟩
    rw [hc.link hms,hd]
  · rintro ⟨x,hi,er,her⟩
    rcases groundingLink_cases fe ph x with hs | ⟨ba,ms,hc,hms⟩
    · rw [hs] at her
      cases her
    · refine ⟨x,hi,ba,ms,hc,hms,?_⟩
      cases hd : dateKey ms with
      | none => rfl
      | some da =>
        rw [hc.link hms,hd] at her
        cases her

lemma phaseRequiredGrounding_flat (ph : PipelinePhase) :
    ∀ gr ∈ phaseRequiredGrounding ph, ∀ dt ∈ gr, '-' ∉ dt.toList := by
  cases ph <;> decide

lemma Collected.mark (h : Collected fe ph x ba) : '-' ∈ ba.toList := by
  obtain ⟨r,hre⟩ := isPrefixOf_iff_prefix.1 h.named
  rw [← hre,String.toList_append]
  simp

lemma met_iff {gr : List String} (hli : groundingLinks fe (phaseGroundingDirs ph) it = .ok ln)
    (hgr : gr ∈ phaseRequiredGrounding ph) :
    (∃ li ∈ ln, ∃ dt ∈ gr, countsAs dt li = true) ↔ ∃ x ∈ it, ∃ ba, Collected fe ph x ba ∧
        ∃ dt ∈ gr, countsAs dt ba = true := by
  have hf := phaseRequiredGrounding_flat ph gr hgr
  constructor
  · rintro ⟨li,hl,dt,ht,hcou⟩
    obtain ⟨x,hi,hco⟩ := (mem_groundingLinks hli).1 hl
    rcases groundingLink_cases fe ph x with hs | ⟨ba,ms,hc,hms⟩
    · rw [hs] at hco
      cases hco
    · rw [hc.link hms] at hco
      cases hd : dateKey ms with
      | none =>
        rw [hd] at hco
        cases hco
      | some da =>
        rw [hd] at hco
        cases hco
        rw [countsAs_wikiLink (hf dt ht) hc.mark] at hcou
        exact ⟨x,hi,ba,hc,dt,ht,hcou⟩
  · rintro ⟨x,hi,ba,hc,dt,ht,hcou⟩
    obtain ⟨ms,hms⟩ := hc.applied.timestamp
    have hda : ¬ Undated fe ph it := by
      rw [undated_iff,hli]
      simp
    cases hd : dateKey ms with
    | none => exact (hda ⟨x,hi,ba,ms,hc,hms,hd⟩).elim
    | some da =>
      have hl := hc.link hms
      rw [hd] at hl
      refine ⟨_,(mem_groundingLinks hli).2 ⟨x,hi,hl⟩,dt,ht,?_⟩
      rw [countsAs_wikiLink (hf dt ht) hc.mark]
      exact hcou

lemma refuseUngrounded_iff : (∃ nt, refuseUngrounded ph re = .error nt) ↔
    ¬ ∀ gr ∈ phaseRequiredGrounding ph, ∃ li ∈ re, ∃ dt ∈ gr, countsAs dt li = true := by
  have hm : missingGrounding ph re = [] ↔ ∀ gr ∈ phaseRequiredGrounding ph,
      ∃ li ∈ re, ∃ dt ∈ gr, countsAs dt li = true := by
    simp [missingGrounding,filter_eq_nil_iff]
  rw [← hm,refuseUngrounded]
  dsimp only
  split_ifs with hem
  · simpa using hem
  · simpa using hem

lemma metInScope_iff (hl : groundingLinks fe (phaseGroundingDirs ph) it = .ok ln) :
    (∃ nt, refuseUngrounded ph (sortedSet ln) = .error nt) ↔ ¬ MetInScope fe ph it := by
  rw [refuseUngrounded_iff,MetInScope,not_iff_not]
  refine forall_congr' fun gr => imp_congr_right fun hgr => ?_
  rw [← met_iff hl hgr]
  simp only [mem_sortedSet]

def snapshotItems (snapshot : Option Value) : List Value :=
  (snapshot.map recoveryProposalItems).getD []

lemma resolveGroundingRelated_eq {sn : Option Value}
    (hs : phaseGroundingDirs ph ≠ []) : resolveGroundingRelated sn fe ph =
      (groundingLinks fe (phaseGroundingDirs ph) (snapshotItems sn)).map sortedSet := by
  unfold resolveGroundingRelated
  rw [if_neg (by simpa using hs)]
  cases sn with
  | none => rfl
  | some da => rfl

lemma phaseRequiredGrounding_scope (h : phaseGroundingDirs ph = []) :
    phaseRequiredGrounding ph = [] := by
  cases ph with
  | adr => cases h
  | plan => cases h
  | _ => rfl

/-- A submission is refused as ungrounded exactly when every collected file has a date and a group
has no collected file. -/
lemma refusedUngrounded_iff {sn : Option Value} : RefusedUngrounded sn fe ph ↔
    ¬ Undated fe ph (snapshotItems sn) ∧ ¬ MetInScope fe ph (snapshotItems sn) := by
  by_cases hs : phaseGroundingDirs ph = []
  · have hgr := phaseRequiredGrounding_scope hs
    have hm : MetInScope fe ph (snapshotItems sn) := by
      rw [MetInScope,hgr]
      simp
    constructor
    · rintro ⟨re,nt,-,hre⟩
      have hu := refuseUngrounded_iff.1 ⟨nt,hre⟩
      rw [hgr] at hu
      simp at hu
    · intro h
      exact (h.2 hm).elim
  · unfold RefusedUngrounded
    rw [resolveGroundingRelated_eq hs,undated_iff]
    cases hl : groundingLinks fe (phaseGroundingDirs ph) (snapshotItems sn) with
    | error error => simp [Except.map]
    | ok ln =>
      rw [← metInScope_iff hl]
      simp [Except.map]

lemma phaseGroundingDirs_unbracketed (ph : PipelinePhase) : ∀ dir ∈ phaseGroundingDirs ph,
    ('-' :: dir.toList).rdropWhile (· = ']') = '-' :: dir.toList := by
  cases ph <;> decide

lemma AppliedDocument.collected {dt : String} (h : AppliedDocument fe dt x)
    (hs : dt ∈ phaseGroundingDirs ph) :
    Collected fe ph x (fe ++ "-" ++ dt) ∧ countsAs dt (fe ++ "-" ++ dt) = true := by
  obtain ⟨ms,da,hms,-⟩ := h.dated
  have hn : (fe ++ "-" ++ dt).toList = fe.toList ++ '-' :: dt.toList := by
    simp
  refine ⟨⟨⟨h.applied,⟨ms,hms⟩,dt,hs,h.child⟩,?_⟩,?_⟩
  · rw [startsWith, isPrefixOf_iff_prefix,@String.toList_append (fe ++ "-") dt]
    exact prefix_append _ _
  · rw [countsAs_iff,hn,rdropWhile_append ⟨'-',by simp,by decide⟩,
      phaseGroundingDirs_unbracketed ph dt hs]
    exact suffix_append _ _

end

/-- For every snapshot, feature and phase: that a document of the feature in each requirement group
keeps the submission from being refused as ungrounded is the case exactly when, given those
documents, each group has a file that the phase collects, or a collected file has no date. It is the
case whenever each group has a document of a type that the phase collects. -/
theorem grounded_not_refused_iff (snapshot : Option Value) (feature : String)
    (phase : PipelinePhase) :
    ((Grounded feature phase (snapshotItems snapshot) →
        ¬ RefusedUngrounded snapshot feature phase) ↔
      (Grounded feature phase (snapshotItems snapshot) →
        MetInScope feature phase (snapshotItems snapshot) ∨
          Undated feature phase (snapshotItems snapshot))) ∧
    ((∀ group ∈ phaseRequiredGrounding phase, ∃ docType ∈ group,
        docType ∈ phaseGroundingDirs phase ∧
          ∃ item ∈ snapshotItems snapshot, AppliedDocument feature docType item) →
      ¬ RefusedUngrounded snapshot feature phase) := by
  have hre := @refusedUngrounded_iff feature phase snapshot
  constructor
  · refine imp_congr_right fun _ => ?_
    rw [hre,← not_or,not_not,or_comm]
  · intro hsc hu
    apply (hre.1 hu).2
    intro group hgr
    obtain ⟨docType,ht,hs,item,hi,hd⟩ := hsc group hgr
    obtain ⟨hc,hco⟩ := hd.collected hs
    exact ⟨item,hi,_,hc,docType,ht,hco⟩

/-- An applied research document keeps a decision from being refused. -/
theorem grounded_not_refused_research : ¬ RefusedUngrounded
    (some (appliedSnapshot "research/foo-research.md" 1784157786246)) "foo" .adr := by
  apply (grounded_not_refused_iff _ _ _).2
  intro group hgr
  cases mem_singleton.1 hgr
  exact ⟨"research",by decide,by decide,_,mem_singleton_self _,rfl,
    ⟨1784157786246,"2026-07-15",rfl,by decide⟩,rfl⟩

/-- A decision that rests on an applied audit is refused. -/
theorem audit_is_not_collected : Grounded "foo" .adr
      (snapshotItems (some (appliedSnapshot "audit/foo-audit.md" 1784157786246))) ∧
    RefusedUngrounded (some (appliedSnapshot "audit/foo-audit.md" 1784157786246)) "foo" .adr := by
  constructor
  · intro group hgr
    cases mem_singleton.1 hgr
    exact ⟨"audit",by decide,_,mem_singleton_self _,rfl,
      ⟨1784157786246,"2026-07-15",rfl,by decide⟩,rfl⟩
  · exact ⟨[],_,rfl,rfl⟩

end VaultspecA2A.GroundingCompleteness
