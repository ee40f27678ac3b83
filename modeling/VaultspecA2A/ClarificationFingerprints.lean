import Mathlib.Data.List.Sort
import VaultspecA2A.Clarification
import VaultspecA2A.PyJson

/-!
# Fingerprints of clarification resolutions

A resolution is journaled under the digest of its canonical JSON. Its resume value is stored as
canonical JSON too, and is dispatched from what was stored; the gate parses what it is resumed
with and commits the digest of that. Canonical JSON has the keys of a mapping in their order, so
that the answers come back sorted and their digest is the same.
-/
namespace VaultspecA2A.ClarificationFingerprints
open Clarification PyJson PyValue List

def sortAnswers (answers : List (String × String)) : List (String × String) :=
  answers.mergeSort fun a b => decide (a.1 ≤ b.1)

/-- The resume value with its keys in order, at both levels. -/
def canonicalValue : ClarificationResolution → Value
  | .answers requestId answers =>
    .dict [(.str "answers",.dict ((sortAnswers answers).map fun a => (.str a.1,.str a.2))),
      (.str "request_id",.str requestId),(.str "type",.str "clarification_response")]
  | .continuation requestId prompt =>
    .dict [(.str "prompt",.str prompt),(.str "request_id",.str requestId),
      (.str "type",.str "clarification_continuation")]
  | .decline requestId =>
    .dict [(.str "request_id",.str requestId),(.str "type",.str "clarification_decline")]

def canonicalJson (resolution : ClarificationResolution) : Option String :=
  dumps (canonicalValue resolution)

def clarificationResolutionFingerprint (sha256 : String → String)
    (resolution : ClarificationResolution) : Option String :=
  (canonicalJson resolution).map sha256

/-- What the models of the three resolutions check. -/
def WellFormed : ClarificationResolution → Prop
  | .answers requestId answers => isRequestId requestId = true ∧ boundedAnswers answers ∧
      (answers.map Prod.fst).Nodup
  | .continuation requestId prompt =>
    isRequestId requestId = true ∧ isContinuationPrompt prompt = true
  | .decline requestId => isRequestId requestId = true

/-- The service takes a resolution of the request, and answers only without a violation. -/
def Accepted (request : ClarificationRequest) (resolution : ClarificationResolution) : Prop :=
  WellFormed resolution ∧ resolution.requestId = request.requestId ∧
    ∀ requestId answers, resolution = .answers requestId answers →
      validateClarificationAnswers request answers = []

/-- The same kind, request id and content; the order of the answers is no content. -/
def SameContent : ClarificationResolution → ClarificationResolution → Prop
  | .answers requestId answers, .answers requestId' answers' =>
    requestId = requestId' ∧ answers.Perm answers'
  | resolution, resolution' => resolution = resolution'

variable {r r' : ClarificationResolution} {an an' : List (String × String)}

lemma sortAnswers_perm (an : List (String × String)) : (sortAnswers an).Perm an :=
  mergeSort_perm _ _

/-- Answers to different questions are sorted in one way. -/
lemma sortAnswers_eq (h : an.Perm an') (hn : (an.map Prod.fst).Nodup) :
    sortAnswers an = sortAnswers an' := by
  have hs : ∀ l : List (String × String), (sortAnswers l).Pairwise fun a b => a.1 ≤ b.1 := by
    intro l
    refine (pairwise_mergeSort ?_ ?_ l).imp fun h => of_decide_eq_true h
    · intro a b c hab hbc
      exact decide_eq_true (String.le_trans (of_decide_eq_true hab) (of_decide_eq_true hbc))
    · intro a b
      simpa using String.le_total a.1 b.1
  refine ((sortAnswers_perm an).trans (h.trans (sortAnswers_perm an').symm)).eq_of_pairwise ?_
    (hs an) (hs an')
  intro a b ha hb hab hba
  have ha := (sortAnswers_perm an).mem_iff.1 ha
  have hb := h.mem_iff.2 ((sortAnswers_perm an').mem_iff.1 hb)
  exact inj_on_of_nodup_map hn ha hb (String.le_antisymm hab hba)

lemma loads_canonical (h : WellFormed r) :
    ∃ text, canonicalJson r = some text ∧ loads text = some (canonicalValue r) := by
  have hw : writable (canonicalValue r) = true := by
    cases r with
    | answers rid an =>
      have hall : writableEntries ((sortAnswers an).map fun a => (.str a.1,.str a.2)) = true := by
        rw [writableEntries_iff,forall_mem_map]
        exact fun _ _ => ⟨rfl,rfl⟩
      simp [canonicalValue,writable,writableEntries,writableKey,hall]
    | _ => rfl
  have hj : isJson (canonicalValue r) = true := by
    cases r with
    | answers rid an =>
      have hall : isJsonEntries ((sortAnswers an).map fun a => (.str a.1,.str a.2)) = true := by
        have hn : (((sortAnswers an).map fun a => (a.1,Value.str a.2)).map Prod.fst).Nodup := by
          rw [map_map]
          exact ((sortAnswers_perm an).map Prod.fst).nodup_iff.2 h.2.2
        have hi := (isJsonEntries_iff hn).2 (forall_mem_map.2 fun _ _ => rfl)
        rwa [map_map] at hi
      simp [canonicalValue,isJson,isJsonEntries,hall,Value.text?,Value.isKey]
    | _ => rfl
  have hd : canonicalJson r = some (String.ofList (write (canonicalValue r))) := if_pos hw
  exact ⟨_,hd,(loads_dumps hd).trans (congrArg some (asJson_eq_self _ hj))⟩

/-- The gate reads what the service dispatched, with the answers sorted. -/
lemma parse_canonical (h : WellFormed r) :
    ∃ parsed, parseClarificationResolution (canonicalValue r) r.requestId = .ok parsed ∧
      canonicalValue parsed = canonicalValue r := by
  cases r with
  | answers rid an =>
    obtain ⟨hid,⟨hle,hb⟩,hn⟩ := h
    have hp := sortAnswers_perm an
    refine ⟨.answers rid (sortAnswers an),parse_of_fields rfl rfl rfl rfl hid ⟨?_,?_⟩,?_⟩
    · rwa [hp.length_eq]
    · exact fun a ha => hb a (hp.mem_iff.1 ha)
    · rw [canonicalValue,canonicalValue,← sortAnswers_eq hp.symm hn]
  | continuation rid prompt =>
    have hi : requestIdOf (canonicalValue (.continuation rid prompt)) = some rid := by
      simp [requestIdOf,canonicalValue,Value.get,Value.isKey,Value.text?,h.1]
    refine ⟨.continuation rid prompt,@parse_of_reader _ readContinuation _ rfl rfl ?_,rfl⟩
    have hf : (canonicalValue (.continuation rid prompt)).hasOnlyFields
      ["type","request_id","prompt"] = true := rfl
    have hg : ((canonicalValue (.continuation rid prompt)).get "prompt").bind Value.text? =
      some prompt := rfl
    rw [readContinuation,hi,hg]
    exact if_pos ⟨hf,h.2⟩
  | decline rid =>
    have hi : requestIdOf (canonicalValue (.decline rid)) = some rid := by
      have hid : isRequestId rid = true := h
      simp [requestIdOf,canonicalValue,Value.get,Value.isKey,Value.text?,hid]
    refine ⟨.decline rid,@parse_of_reader _ readDecline _ rfl rfl ?_,rfl⟩
    have hf : (canonicalValue (.decline rid)).hasOnlyFields ["type","request_id"] = true := rfl
    rw [readDecline,hi]
    exact if_pos hf

lemma sameContent_of_canonical (h : canonicalValue r = canonicalValue r') : SameContent r r' := by
  cases r with
  | answers rid an =>
    cases r' with
    | answers rid' an' =>
      simp only [canonicalValue,Value.dict.injEq,List.cons.injEq,Prod.mk.injEq,Value.str.injEq,
        true_and,and_true] at h
      obtain ⟨hm,rfl⟩ := h
      have hs : sortAnswers an = sortAnswers an' := by
        have ht := congrArg textEntries hm
        rwa [textEntries_texts,textEntries_texts] at ht
      exact ⟨rfl,(sortAnswers_perm an).symm.trans (hs ▸ sortAnswers_perm an')⟩
    | _ => simp [canonicalValue] at h
  | continuation rid prompt =>
    cases r' <;> simp_all [canonicalValue,SameContent]
  | decline rid =>
    cases r' <;> simp_all [canonicalValue,SameContent]

section
variable {sha256 : String → String}

end

end VaultspecA2A.ClarificationFingerprints
