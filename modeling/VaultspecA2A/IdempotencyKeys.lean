import Mathlib.Data.Fin.Basic
import VaultspecA2A.PyText

/-!
# Journal keys

Every journal key the gateway derives is a readable prefix followed by an identity,
but for the default keys of a cancellation and of a response, which are digests. The
prefix of a resume says which answer it carries. A permission request may be asked
again under its own id; each ask takes a response key of its own, and the number of
asks is capped. The keys of refusals and of duplicates are built over the key a
response resolves to: the client's own, or a digest of the request and the chosen
option. The digest is a parameter.
-/
namespace VaultspecA2A.IdempotencyKeys
open PyText List

def maxPermissionAsks : ℕ := 64

/-- Which ask of a request a response answers; the builders refuse any other number. -/
abbrev Generation := Fin maxPermissionAsks

def askSuffix (generation : Generation) : String :=
  if generation.val = 0 then "" else "#" ++ toString generation.val

def threadCreateActionKey (threadId : String) : String := "thread-create:" ++ threadId

def permissionRequestActionKey (requestId : String) : String := "permission-request:" ++ requestId

def permissionResponseActionKey (requestId : String) (generation : Generation) : String :=
  "permission-response:" ++ (requestId ++ askSuffix generation)

def permissionRejectionActionKey (idempotencyKey : String) : String :=
  "permission-rejection:" ++ idempotencyKey

def permissionDuplicateActionKey (idempotencyKey : String) : String :=
  "permission-duplicate:" ++ idempotencyKey

/-- The key of the application of one accepted answer, from the answer's own key. -/
def permissionResponseAppliedActionKey (responseActionKey : String) : Option String :=
  if startsWith responseActionKey "permission-response:" then
    some ("permission-response-applied:" ++
      String.ofList (responseActionKey.toList.drop "permission-response:".toList.length))
  else none

def clarificationResponseActionKey (requestId : String) : String :=
  "clarification-response:" ++ requestId

def authoringVerdictActionKey (proposalId : String) : String := "authoring-verdict:" ++ proposalId

/-- What one accepted resume answers, as its journal key records it. -/
inductive ResumeIntent
  | clarification
  | authoringVerdict
deriving DecidableEq, Repr

def resumeIntent (idempotencyKey : String) : Option ResumeIntent :=
  if startsWith idempotencyKey "clarification-response:" then some .clarification
  else if startsWith idempotencyKey "authoring-verdict:" then some .authoringVerdict
  else none

def defaultCancelKey (sha256Hex : String → String) (threadId : String) : String :=
  sha256Hex (threadId ++ ":cancel")

def defaultPermissionResponseKey (sha256Hex : String → String) (requestId optionId : String) :
    String := sha256Hex (requestId ++ ":" ++ optionId)

lemma append_right_inj {a b c : String} (h : a ++ b = a ++ c) : b = c := by
  have hl := congrArg String.toList h
  rw [String.toList_append,String.toList_append] at hl
  exact String.toList_inj.1 (append_cancel_left hl)

lemma append_ne (h : (startsWith a b || startsWith b a) = false)
    (x y : String) : a ++ x ≠ b ++ y := by
  intro he
  have hl := congrArg String.toList he
  rw [String.toList_append,String.toList_append] at hl
  have ha : a.toList <+: a.toList ++ x.toList := prefix_append _ _
  have hb : b.toList <+: a.toList ++ x.toList := hl ▸ prefix_append _ _
  rw [Bool.or_eq_false_iff] at h
  rcases prefix_or_prefix_of_prefix ha hb with hab | hba
  · exact Bool.false_ne_true (h.2.symm.trans ( isPrefixOf_iff_prefix.2 hab))
  · exact Bool.false_ne_true (h.1.symm.trans ( isPrefixOf_iff_prefix.2 hba))

lemma decimal_inj {m n : ℕ} (h : toString m = toString n) : m = n := by
  have hd := congrArg (fun x : String => Nat.ofDigitChars 10 x.toList 0) h
  simpa [Nat.toString_eq_ofList_toDigits] using hd

lemma askSuffix_inj (h : askSuffix a = askSuffix b) : a = b := by
  have hm : ∀ n : ℕ, "" ≠ "#" ++ toString n := by
    intro n hn
    have hl := congrArg String.toList hn
    rw [String.toList_append] at hl
    cases hl
  apply Fin.ext
  simp only [askSuffix] at h
  split_ifs at h with ha hb hb
  · exact ha.trans hb.symm
  · exact (hm _ h).elim
  · exact (hm _ h.symm).elim
  · exact decimal_inj (append_right_inj h)

lemma permissionResponseActionKey_inj {rid : String}
    (h : permissionResponseActionKey rid a = permissionResponseActionKey rid b) :
    a = b := askSuffix_inj (append_right_inj (append_right_inj h))

end VaultspecA2A.IdempotencyKeys
