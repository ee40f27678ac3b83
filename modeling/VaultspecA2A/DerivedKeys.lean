import VaultspecA2A.Clarification
import VaultspecA2A.IdempotencyKeys

/-!
# Derived keys are told apart

No head of a derived key begins another, so keys of two purposes differ; within a purpose the
identity can be read back, as the separator of the asks is outside the grammar of a request id.
The rows of refusals and of duplicates are keyed over a key that may be the client's own, which
is any text.
-/
namespace VaultspecA2A.DerivedKeys
open IdempotencyKeys PyText List

abbrev RequestId := { text : String // Clarification.isHandle text.length text = true }

inductive DerivedKey
  | threadCreate (threadId : String)
  | permissionRequest (requestId : String)
  | permissionResponse (requestId : RequestId) (generation : Generation)
  | permissionResponseApplied (requestId : RequestId) (generation : Generation)
  | permissionRejection (idempotencyKey : String)
  | permissionDuplicate (idempotencyKey : String)
  | clarificationResponse (requestId : String)
  | authoringVerdict (proposalId : String)

/-- The key as its builder gives it; the builder of an application may refuse. -/
def DerivedKey.journalKey : DerivedKey → Option String
  | threadCreate threadId => some (threadCreateActionKey threadId)
  | permissionRequest requestId => some (permissionRequestActionKey requestId)
  | permissionResponse requestId generation =>
    some (permissionResponseActionKey requestId generation)
  | permissionResponseApplied requestId generation =>
    permissionResponseAppliedActionKey (permissionResponseActionKey requestId generation)
  | permissionRejection idempotencyKey => some (permissionRejectionActionKey idempotencyKey)
  | permissionDuplicate idempotencyKey => some (permissionDuplicateActionKey idempotencyKey)
  | clarificationResponse requestId => some (clarificationResponseActionKey requestId)
  | authoringVerdict proposalId => some (authoringVerdictActionKey proposalId)

variable {rid rid' : RequestId} {a b : Generation}

lemma startsWith_append (x y : String) : startsWith (x ++ y) x = true := by
  rw [startsWith,String.toList_append]
  exact isPrefixOf_iff_prefix.2 (prefix_append _ _)

lemma startsWith_apart (h : (startsWith x y || startsWith y x) = false)
    (z : String) : startsWith (x ++ z) y = false := by
  rw [← Bool.not_eq_true]
  intro hs
  obtain ⟨r,hr⟩ := isPrefixOf_iff_prefix.1 hs
  refine append_ne h z (String.ofList r) ?_
  apply String.toList_inj.1
  rw [String.toList_append,String.toList_append,String.toList_ofList,hr,String.toList_append]

lemma resumeIntent_other
    (hc : (startsWith x "clarification-response:" || startsWith "clarification-response:" x) = false)
    (hv : (startsWith x "authoring-verdict:" || startsWith "authoring-verdict:" x) = false)
    (z : String) : resumeIntent (x ++ z) = none := by
  simp [resumeIntent,startsWith_apart hc,startsWith_apart hv]

lemma resumeIntent_digest (h : ':' ∉ digest.toList) : resumeIntent digest = none := by
  have hs : ∀ x : String, ':' ∈ x.toList → startsWith digest x = false := by
    intro x hx
    rw [← Bool.not_eq_true]
    intro hs
    exact h (( isPrefixOf_iff_prefix.1 hs).subset hx)
  have hc := hs "clarification-response:" (by decide)
  have hv := hs "authoring-verdict:" (by decide)
  simp only [resumeIntent,hc,hv,Bool.false_eq_true,if_false]

lemma journalKey_applied (rid : RequestId) (g : Generation) :
    (DerivedKey.permissionResponseApplied rid g).journalKey =
      some ("permission-response-applied:" ++ (rid ++ askSuffix g)) := by
  have hs := startsWith_append "permission-response:" (rid ++ askSuffix g)
  change permissionResponseAppliedActionKey ("permission-response:" ++ _) = _
  unfold permissionResponseAppliedActionKey
  rw [if_pos hs,String.toList_append,drop_left,String.ofList_toList]

lemma separator_not_mem (rid : RequestId) : ∀ c ∈ rid.val.toList, (c != '#') = true := by
  obtain ⟨text,h⟩ := rid
  intro c hc
  rw [bne_iff_ne]
  rintro rfl
  rw [Clarification.isHandle,Bool.and_eq_true] at h
  obtain ⟨_,h⟩ := h
  change '#' ∈ text.toList at hc
  cases hl : text.toList with
  | nil => rw [hl] at hc; cases hc
  | cons c cs =>
    rw [hl] at h hc
    rw [Bool.and_eq_true,all_eq_true] at h
    cases hc with
    | head => exact absurd h.1 (by decide)
    | tail _ hc => exact absurd (h.2 _ hc) (by decide)

lemma takeWhile_ask (rid : RequestId) (g : Generation) :
    (rid.val ++ askSuffix g).toList.takeWhile (· != '#') = rid.val.toList := by
  have hs : (askSuffix g).toList.takeWhile (· != '#') = [] := by
    rw [askSuffix]
    split_ifs
    · rfl
    · rw [String.toList_append]
      rfl
  rw [String.toList_append,takeWhile_append_of_pos (separator_not_mem rid),hs,append_nil]

lemma ask_inj (h : rid.val ++ askSuffix a = rid'.val ++ askSuffix b) : rid = rid' ∧ a = b := by
  have hr : rid.val = rid'.val := by
    apply String.toList_inj.1
    rw [← takeWhile_ask rid a,h,takeWhile_ask]
  rw [hr] at h
  exact ⟨Subtype.ext hr,askSuffix_inj (append_right_inj h)⟩

lemma journalKey_injective : Function.Injective DerivedKey.journalKey := by
  intro d e h
  cases d <;> cases e <;> try simp only [journalKey_applied] at h
  all_goals
    first
    | exact absurd (Option.some.inj h) (append_ne (by decide) _ _)
    | obtain ⟨rfl,rfl⟩ := ask_inj (append_right_inj (Option.some.inj h))
      rfl
    | rw [append_right_inj (Option.some.inj h)]

lemma intent_none {d : DerivedKey} (h : resumeIntent key = none)
    (hc : ∀ rid, d ≠ .clarificationResponse rid) (hv : ∀ pid, d ≠ .authoringVerdict pid) :
    (resumeIntent key = some .clarification ↔ ∃ rid, d = .clarificationResponse rid) ∧
    (resumeIntent key = some .authoringVerdict ↔ ∃ pid, d = .authoringVerdict pid) := by
  simp [h,hc,hv]

/-- Every builder gives a key, keys agree only when purpose and identity do, and a resume's
intent is read off a key exactly when it is a clarification's or a verdict's; off a digest it
is not. -/
theorem derived_keys_apart : Function.Injective DerivedKey.journalKey ∧
    (∀ sha256Hex : String → String, (∀ text, ':' ∉ (sha256Hex text).toList) →
      ∀ threadId requestId optionId, resumeIntent (defaultCancelKey sha256Hex threadId) = none ∧
        resumeIntent (defaultPermissionResponseKey sha256Hex requestId optionId) = none) ∧
    ∀ d : DerivedKey, ∃ key, d.journalKey = some key ∧
      (resumeIntent key = some .clarification ↔ ∃ rid, d = .clarificationResponse rid) ∧
      (resumeIntent key = some .authoringVerdict ↔ ∃ pid, d = .authoringVerdict pid) := by
  refine ⟨journalKey_injective,?_,?_⟩
  · intro sha256Hex h _ _ _
    exact ⟨resumeIntent_digest (h _),resumeIntent_digest (h _)⟩
  intro d
  cases d with
  | permissionResponseApplied rid g =>
    exact ⟨_,journalKey_applied rid g,
      intent_none (resumeIntent_other (by decide) (by decide) _) nofun nofun⟩
  | clarificationResponse rid =>
    have hi : resumeIntent (clarificationResponseActionKey rid) = some .clarification :=
      if_pos (startsWith_append _ _)
    exact ⟨_,rfl,by simp [hi]⟩
  | authoringVerdict pid =>
    have hc := startsWith_apart (x := "authoring-verdict:") (y := "clarification-response:")
      (by decide) pid
    have hi : resumeIntent (authoringVerdictActionKey pid) = some .authoringVerdict :=
      (if_neg (Bool.eq_false_iff.1 hc)).trans (if_pos (startsWith_append _ _))
    exact ⟨_,rfl,by simp [hi]⟩
  | _ =>
    exact ⟨_,rfl,intent_none (resumeIntent_other (by decide) (by decide) _) nofun nofun⟩

end VaultspecA2A.DerivedKeys
