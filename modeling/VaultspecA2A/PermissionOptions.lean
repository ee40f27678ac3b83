import VaultspecA2A.Database

/-!
# Permission options

A tool permission parks a run on a list of options its provider offers. An answer
names one option by id, and the option's kind says whether the answer approves or
rejects. The verdict is computed twice: at submission, from the interrupt the
checkpoint holds, and at settlement, from the journal row of the request.

The row's copy went through other hands. A park frame is projected by the worker, which drops the
entries without an id and keeps an id and a kind of each other one; the gateway keeps the first
fifty. A row refreshed after a receipt takes the interrupt's own list, or nothing at all if any
entry of it is malformed, and again the first fifty.

The keywords looked for in an id are ASCII, and no other letter lowers to one of
theirs.
-/
namespace VaultspecA2A.PermissionOptions
open PyText PyValue Database List

inductive PermissionOptionKind
  | allowOnce
  | allowAlways
  | rejectOnce
  | rejectAlways
deriving DecidableEq, Repr

def PermissionOptionKind.value : PermissionOptionKind → String
  | .allowOnce => "allow_once"
  | .allowAlways => "allow_always"
  | .rejectOnce => "reject_once"
  | .rejectAlways => "reject_always"

inductive InterruptType
  | permissionRequest
  | planApprovalRequest
  | documentApprovalRequest
  | clarificationRequest
deriving DecidableEq, Repr

def InterruptType.value : InterruptType → String
  | .permissionRequest => "permission_request"
  | .planApprovalRequest => "plan_approval_request"
  | .documentApprovalRequest => "document_approval_request"
  | .clarificationRequest => "clarification_request"

def planApprovalPauseCauses : List String :=
  ["plan_approval",InterruptType.planApprovalRequest.value,
    InterruptType.documentApprovalRequest.value]

def optionIdOf (option : Value) : Option String :=
  (option.getStr "optionId").or (option.getStr "option_id")

def validOptionIds (options : List Value) : List String := options.flatMap fun option =>
    (option.getStr "optionId").toList ++ (option.getStr "option_id").toList

def names (optionId : String) (option : Value) : Bool := optionIdOf option == some optionId

def offeredOption (options : List Value) (optionId : String) : Option Value :=
  options.find? (names optionId)

def mapAcpOptionKind (optionId : String) : PermissionOptionKind :=
  let oid := lower optionId
  let rejecting := contains oid "deny" || contains oid "reject"
  if contains oid "always" then
    if rejecting then .rejectAlways else .allowAlways
  else if rejecting then .rejectOnce
  else .allowOnce

def declaredKinds : List PermissionOptionKind := [.allowOnce,.allowAlways,.rejectOnce,.rejectAlways]

def declaredKind (option : Value) : Option PermissionOptionKind :=
  match option.get "kind" with
  | some (.str declared) => declaredKinds.find? fun kind => kind.value == declared
  | _ => none

def optionKind (option : Value) : PermissionOptionKind :=
  (declaredKind option).getD (mapAcpOptionKind ((optionIdOf option).getD ""))

def isRejection (option : Value) : Bool :=
  optionKind option == .rejectOnce || optionKind option == .rejectAlways

def PermissionOptionKind.approving (kind : PermissionOptionKind) : Bool :=
  kind == .allowOnce || kind == .allowAlways

def isApproval (option : Value) : Bool := (optionKind option).approving

def isRemembering (option : Value) : Bool :=
  optionKind option == .allowAlways || optionKind option == .rejectAlways

def optionIdOfKind (options : List Value) (kind : PermissionOptionKind) : Option String :=
  options.findSome? fun option =>
    if optionKind option = kind then optionIdOf option else none

def narrowestOptionId (options : List Value) (approving : Bool) : Option String :=
  if approving then (optionIdOfKind options .allowOnce).or (optionIdOfKind options .allowAlways)
  else (optionIdOfKind options .rejectOnce).or (optionIdOfKind options .rejectAlways)

/-- The one rejection verdict for an answer to a list of options; an answer that names
none of them is judged by its spelling. -/
def answerIsRejection (offered : List Value) (responseOptionId : String) : Bool :=
  if responseOptionId.isEmpty then false
  else
    isRejection ((offeredOption offered responseOptionId).getD
      (.dict [(.str "optionId",.str responseOptionId)]))

def approvalOptions : List Value :=
  [.dict [(.str "option_id",.str "approve"),(.str "kind",.str "allow_once")],
    .dict [(.str "option_id",.str "reject"),(.str "kind",.str "reject_once")]]

/-- A pause as a checkpoint holds it; `options` and `toolName` are those fields of its
payload. The gates that ask for an approval offer no choices of their own. -/
structure ProjectedInterrupt where
  interruptId : String
  interruptType : InterruptType
  options : Option Value
  toolName : Option Value := none
  bare : interruptType.value ∈ planApprovalPauseCauses → options = none

/-- The options a response to the held interrupt is judged against. -/
def ProjectedInterrupt.offered (interrupt : ProjectedInterrupt) : List Value :=
  if interrupt.interruptType.value ∈ planApprovalPauseCauses then approvalOptions
  else (interrupt.options.bind Value.items?).getD []

def permissionOption (option : Value) : Option Value := (optionIdOf option).map fun optionId =>
    .dict [(.str "option_id",.str optionId),(.str "kind",.str (optionKind option).value)]

/-- The options of the frame that announces the interrupt. The emitter projects what the
stream projection hands it once more. -/
def frameOptions (interrupt : ProjectedInterrupt) : Value :=
  let projected :=
    if interrupt.interruptType.value ∈ planApprovalPauseCauses then approvalOptions
    else ((interrupt.options.bind Value.items?).getD []).filterMap permissionOption
  .list (projected.filterMap permissionOption)

def maxStoredOptions : ℕ := 50

def optionMappings : Option Value → List Value
  | some (.list items) => if items.all Value.isStringKeyed then items.take maxStoredOptions else []
  | _ => []

def storedOptions (options : List Value) : StoredJson := .decoded (.list options)

def decodeAllowedOptions : StoredJson → Option (List Value)
  | .absent => some []
  | .malformed => none
  | .decoded value => value.items?

def responseIsRejection (rawOptions : StoredJson) (responseOptionId : String) : Bool :=
  answerIsRejection ((decodeAllowedOptions rawOptions).getD []) responseOptionId

/-- The column a park frame writes, first or as a re-ask. -/
def frameColumn (interrupt : ProjectedInterrupt) : StoredJson :=
  storedOptions (optionMappings (some (frameOptions interrupt)))

/-- The column a receipt refreshes from the interrupt held again. -/
def refreshedColumn (interrupt : ProjectedInterrupt) : StoredJson :=
  storedOptions (optionMappings interrupt.options)

def responseVerdict (interrupt : ProjectedInterrupt) (optionId : String) : ApprovalStatus :=
  if answerIsRejection interrupt.offered optionId then .rejected else .approved

def settledVerdict (column : StoredJson) (optionId : String) : ApprovalStatus :=
  if responseIsRejection column optionId then .rejected else .approved

def spelledRejection (optionId : String) : Bool :=
  isRejection (.dict [(.str "optionId",.str optionId)])

def declaredRejection (offered : List Value) (optionId : String) : Option Bool :=
  (offeredOption offered optionId).map isRejection

/-- The id is among the first fifty ids of the offer. -/
def KeptByFrame (offered : List Value) (optionId : String) : Prop :=
  optionId ∈ (offered.filterMap optionIdOf).take maxStoredOptions

/-- Every entry is a mapping with text keys, and one of the first fifty has the id. -/
def KeptByRefresh (offered : List Value) (optionId : String) : Prop :=
  offered.all Value.isStringKeyed = true ∧
    optionId ∈ (offered.take maxStoredOptions).filterMap optionIdOf

instance (offered : List Value) (optionId : String) : Decidable (KeptByFrame offered optionId) :=
  inferInstanceAs (Decidable (_ ∈ _))

/-- The option the id names, if there is one, is of the polarity the id spells. -/
def SpelledAsDeclared (offered : List Value) (optionId : String) : Prop :=
  ∀ rejects, declaredRejection offered optionId = some rejects → rejects = spelledRejection optionId

section
variable {od copy os : List Value} {oid : String} {op : Value}

lemma answerIsRejection_eq (hne : oid.isEmpty = false) : answerIsRejection od oid =
    (declaredRejection od oid).getD (spelledRejection oid) := by
  rw [answerIsRejection,hne,declaredRejection,spelledRejection,if_neg Bool.false_ne_true]
  cases offeredOption od oid with
  | none => rw [Option.getD_none,Option.map_none,Option.getD_none]
  | some op => rw [Option.getD_some,Option.map_some,Option.getD_some]

lemma validOptionIds_nonempty (h : oid ∈ validOptionIds od) : oid.isEmpty = false := by
  obtain ⟨op,_,hid⟩ := mem_flatMap.1 h
  have hre : ∀ key, op.getStr key = some oid → oid.isEmpty = false := by
    intro key hk
    obtain ⟨value,_,hv⟩ := Option.bind_eq_some_iff.1 hk
    cases value with
    | str s =>
      simp only [Value.nonemptyStr] at hv
      split_ifs at hv with hem
      cases hv
      exact Bool.eq_false_iff.2 hem
    | _ => cases hv
  rw [mem_append,Option.mem_toList,Option.mem_toList] at hid
  rcases hid with hid | hid
  · exact hre _ hid
  · exact hre _ hid

lemma SpelledAsDeclared.getD_eq (h : SpelledAsDeclared od oid) :
    (declaredRejection od oid).getD (spelledRejection oid) = spelledRejection oid := by
  cases hd : declaredRejection od oid with
  | none => rw [Option.getD_none]
  | some re => rw [Option.getD_some,h re hd]

lemma names_iff : names oid op = true ↔ optionIdOf op = some oid := by
  rw [names,beq_iff_eq]

/-- Two readings agree exactly when the copy kept the option, or the option says what
the fallback says. -/
lemma getD_eq_iff {de kept : Option Bool} {K : Prop} (hk : K → kept = de) (hl : ¬ K → kept = none) :
    de.getD fa = kept.getD fa ↔ K ∨ ∀ re, de = some re → re = fa := by
  by_cases hK : K
  · simp [hk hK,hK]
  · rw [hl hK]
    cases de with
    | none => simp
    | some b => simp [hK]

lemma declaredRejection_take (n : ℕ) (h : oid ∈ (os.take n).filterMap optionIdOf) :
    declaredRejection (os.take n) oid = declaredRejection os oid := by
  obtain ⟨op,hm,hid⟩ := mem_filterMap.1 h
  have hfo : ((os.take n).find? (names oid)).isSome = true := find?_isSome.2 ⟨op,hm,names_iff.2 hid⟩
  obtain ⟨first,hf⟩ := Option.isSome_iff_exists.1 hfo
  have hs := ( take_prefix n os).find?_eq_some hf
  rw [declaredRejection,declaredRejection,offeredOption,offeredOption,hf,hs]

lemma declaredRejection_none (h : oid ∉ os.filterMap optionIdOf) :
    declaredRejection os oid = none := by
  have hno : os.find? (names oid) = none := by
    rw [find?_eq_none]
    intro op hm hn
    exact h (mem_filterMap.2 ⟨op,hm,names_iff.1 hn⟩)
  rw [declaredRejection,offeredOption,hno,Option.map_none]

/-- A bounded copy reads as the whole when it kept the id, and as nothing otherwise. -/
lemma bounded_agree_iff (n : ℕ) : (declaredRejection os oid).getD fa =
      (declaredRejection (os.take n) oid).getD fa ↔
    oid ∈ (os.take n).filterMap optionIdOf ∨ ∀ re, declaredRejection os oid = some re → re = fa :=
  getD_eq_iff (declaredRejection_take n) declaredRejection_none

/-! The worker's projection keeps the id and the polarity of every option it keeps, and
the order of the options. -/

lemma nonemptyStr_of_some {value : Value} (h : value.nonemptyStr = some oid) :
    (Value.str oid).nonemptyStr = some oid := by
  cases value with
  | str s =>
    have hs := h
    simp only [Value.nonemptyStr] at hs
    split_ifs at hs
    cases hs
    exact h
  | _ => cases h

lemma nonemptyStr_optionIdOf (h : optionIdOf op = some oid) :
    (Value.str oid).nonemptyStr = some oid := by
  rcases Option.or_eq_some_iff.1 h with hre | ⟨_,hre⟩
  · obtain ⟨value,_,hv⟩ := Option.bind_eq_some_iff.1 hre
    exact nonemptyStr_of_some hv
  · obtain ⟨value,_,hv⟩ := Option.bind_eq_some_iff.1 hre
    exact nonemptyStr_of_some hv

lemma permissionOption_spec (h : optionIdOf op = some oid) : ∃ pr, permissionOption op = some pr ∧
    optionIdOf pr = some oid ∧ isRejection pr = isRejection op ∧
    pr.isStringKeyed = true := by
  refine ⟨_,by rw [permissionOption,h,Option.map_some],?_,?_,rfl⟩
  · exact nonemptyStr_optionIdOf h
  · have hk : declaredKind (.dict [(.str "option_id",.str oid),
        (.str "kind",.str (optionKind op).value)]) = some (optionKind op) := by
      cases optionKind op <;> rfl
    rw [isRejection,optionKind,hk,Option.getD_some,isRejection]

lemma permissionOption_none (h : optionIdOf op = none) : permissionOption op = none := by
  rw [permissionOption,h,Option.map_none]

lemma names_permissionOption : (permissionOption op).any (names oid) = names oid op := by
  cases hid : optionIdOf op with
  | none => rw [permissionOption_none hid,names,hid]; rfl
  | some fo =>
    obtain ⟨pr,hp,hi',_⟩ := permissionOption_spec hid
    rw [hp,Option.any_some,names,names,hi',hid]

lemma declaredRejection_projected : declaredRejection (os.filterMap permissionOption) oid =
    declaredRejection os oid := by
  rw [declaredRejection,declaredRejection,offeredOption,offeredOption,find?_filterMap]
  simp only [names_permissionOption]
  cases hf : os.find? (names oid) with
  | none => rfl
  | some op =>
    have hid := names_iff.1 (find?_some hf)
    obtain ⟨pr,hp,_,hre,_⟩ := permissionOption_spec hid
    rw [Option.bind_some,hp,Option.map_some,Option.map_some,hre]

lemma ids_projected :
    (os.filterMap permissionOption).filterMap optionIdOf = os.filterMap optionIdOf := by
  rw [filterMap_filterMap]
  congr 1
  funext op
  cases hid : optionIdOf op with
  | none => rw [permissionOption_none hid,Option.bind_none]
  | some fo =>
    obtain ⟨pr,hp,hi',_⟩ := permissionOption_spec hid
    rw [hp,Option.bind_some,hi']

lemma ids_take_projected (n : ℕ) : ((os.filterMap permissionOption).take n).filterMap optionIdOf =
    (os.filterMap optionIdOf).take n := by
  induction os generalizing n with
  | nil => simp
  | cons op r ih =>
    cases hid : optionIdOf op with
    | none =>
      rw [filterMap_cons_none (permissionOption_none hid),filterMap_cons_none hid]
      exact ih n
    | some fo =>
      obtain ⟨pr,hp,hi',_⟩ := permissionOption_spec hid
      rw [filterMap_cons_some hp,filterMap_cons_some hid]
      cases n with
      | zero => rfl
      | succ n => rw [take_succ_cons,filterMap_cons_some hi',take_succ_cons,ih]

lemma projected_isStringKeyed : (os.filterMap permissionOption).all Value.isStringKeyed = true := by
  rw [all_eq_true]
  intro pr hm
  obtain ⟨op,_,hp⟩ := mem_filterMap.1 hm
  cases hid : optionIdOf op with
  | none =>
    rw [permissionOption_none hid] at hp
    cases hp
  | some fo =>
    obtain ⟨pj,hp',_,_,hk⟩ := permissionOption_spec hid
    rw [hp] at hp'
    cases hp'
    exact hk

end

section
variable (interrupt it : ProjectedInterrupt) (optionId oid : String)

lemma verdict_eq_iff {a b : Bool} :
    (if a then ApprovalStatus.rejected else .approved) = (if b then .rejected else .approved) ↔
      a = b := by
  cases a <;> cases b <;> simp

lemma frameOptions_eq : ∃ os, frameOptions it = .list (os.filterMap permissionOption) ∧
    declaredRejection os oid = declaredRejection it.offered oid ∧
    os.filterMap optionIdOf = it.offered.filterMap optionIdOf := by
  refine ⟨_,rfl,?_⟩
  rw [ProjectedInterrupt.offered]
  split_ifs with hga
  · exact ⟨rfl,rfl⟩
  · exact ⟨declaredRejection_projected,ids_projected⟩

lemma frame_agrees_iff (hne : oid.isEmpty = false) :
    responseVerdict it oid = settledVerdict (frameColumn it) oid ↔
      KeptByFrame it.offered oid ∨ SpelledAsDeclared it.offered oid := by
  obtain ⟨os,hf,hd,hi⟩ := frameOptions_eq it oid
  have hc : decodeAllowedOptions (frameColumn it) =
      some ((os.filterMap permissionOption).take maxStoredOptions) := by
    rw [frameColumn,hf,optionMappings,projected_isStringKeyed]
    rfl
  rw [responseVerdict,settledVerdict,verdict_eq_iff,responseIsRejection,hc,Option.getD_some,
    answerIsRejection_eq hne,answerIsRejection_eq hne,← hd,← declaredRejection_projected,
    bounded_agree_iff,declaredRejection_projected,hd,ids_take_projected,hi]
  rfl

lemma spelledAsDeclared_approval {oid : String}
    (h : oid ∈ validOptionIds approvalOptions) : SpelledAsDeclared approvalOptions oid := by
  have hi : validOptionIds approvalOptions = ["approve","reject"] := by decide
  have hs : ∀ id ∈ ["approve","reject"],
      declaredRejection approvalOptions id = some (spelledRejection id) := by decide
  rw [hi] at h
  intro re hre
  rw [hs oid h] at hre
  exact (Option.some.inj hre).symm

lemma declaredRejection_optionMappings (im : List Value) : (KeptByRefresh im oid →
      declaredRejection (optionMappings (some (.list im))) oid = declaredRejection im oid) ∧
    (¬ KeptByRefresh im oid → declaredRejection (optionMappings (some (.list im))) oid = none) := by
  rw [optionMappings]
  split_ifs with hke
  · refine ⟨fun hk => declaredRejection_take _ hk.2,fun hl => declaredRejection_none ?_⟩
    intro hm
    exact hl ⟨hke,hm⟩
  · exact ⟨fun hk => (hke hk.1).elim,fun _ => rfl⟩

lemma refresh_agrees_iff (ha : oid ∈ validOptionIds it.offered) :
    responseVerdict it oid = settledVerdict (refreshedColumn it) oid ↔
      KeptByRefresh it.offered oid ∨ SpelledAsDeclared it.offered oid := by
  have hne := validOptionIds_nonempty ha
  have hc : decodeAllowedOptions (refreshedColumn it) = some (optionMappings it.options) := rfl
  rw [responseVerdict,settledVerdict,verdict_eq_iff,responseIsRejection,hc,
    Option.getD_some,answerIsRejection_eq hne,answerIsRejection_eq hne]
  by_cases hga : it.interruptType.value ∈ planApprovalPauseCauses
  · have ho : it.offered = approvalOptions := if_pos hga
    have hp : SpelledAsDeclared it.offered oid := by
      rw [ho] at ha ⊢
      exact spelledAsDeclared_approval ha
    have hn : declaredRejection (optionMappings it.options) oid = none := by
      rw [it.bare hga]
      rfl
    rw [hn,Option.getD_none]
    exact iff_of_true hp.getD_eq (.inr hp)
  · have ho : it.offered = (it.options.bind Value.items?).getD [] := if_neg hga
    obtain ⟨im,hi⟩ : ∃ im, it.options = some (.list im) := by
      cases hop : it.options with
      | none => rw [ho,hop] at ha; cases ha
      | some value =>
        cases value with
        | list im => exact ⟨im,rfl⟩
        | _ => rw [ho,hop] at ha; cases ha
    have hl : it.offered = im := by
      rw [ho,hi]
      rfl
    obtain ⟨hk,hlo⟩ := declaredRejection_optionMappings oid im
    rw [hl,hi]
    exact getD_eq_iff hk hlo

/-- For every interrupt and every option id its submission accepts: the verdict settled
from a row the park frame wrote is the submitted one exactly when the id is among the
first fifty ids offered or its option is of the polarity it spells; from a row a receipt
refreshed, exactly when every entry is a mapping and one of the first fifty has the id,
or again the option is of the polarity the id spells. -/
theorem verdicts_agree_iff (haccepted : optionId ∈ validOptionIds interrupt.offered) :
    (responseVerdict interrupt optionId = settledVerdict (frameColumn interrupt) optionId ↔
      KeptByFrame interrupt.offered optionId ∨ SpelledAsDeclared interrupt.offered optionId) ∧
    (responseVerdict interrupt optionId = settledVerdict (refreshedColumn interrupt) optionId ↔
      KeptByRefresh interrupt.offered optionId ∨ SpelledAsDeclared interrupt.offered optionId) :=
  ⟨frame_agrees_iff interrupt optionId (validOptionIds_nonempty haccepted),
    refresh_agrees_iff interrupt optionId haccepted⟩

end

def declaredOption (optionId kind : String) : Value :=
  .dict [(.str "optionId",.str optionId),(.str "kind",.str kind)]

def toolInterrupt (options : List Value) : ProjectedInterrupt where
  interruptId := "request-1"
  interruptType := .permissionRequest
  options := some (.list options)
  bare := fun h => absurd h (by decide)

def goOrStop : ProjectedInterrupt :=
  toolInterrupt [declaredOption "go" "allow_once",declaredOption "stop" "reject_once"]

theorem verdicts_agree_go_or_stop : responseVerdict goOrStop "stop" = .rejected ∧
    settledVerdict (frameColumn goOrStop) "stop" = .rejected := by
  have hv : responseVerdict goOrStop "stop" = .rejected := by decide
  have hk : KeptByFrame goOrStop.offered "stop" := by decide
  have ha := (verdicts_agree_iff goOrStop "stop" (by decide)).1
  exact ⟨hv,(ha.2 (.inl hk)).symm.trans hv⟩

/-- A refusal offered after fifty approvals, under an id that spells no refusal, is
submitted as a rejection and settled as an approval, from either row. One malformed
entry is enough for the refreshed row. -/
theorem refusal_settles_as_approval :
    let crowded := toolInterrupt (List.replicate 50 (declaredOption "go" "allow_once") ++
      [declaredOption "stop" "reject_once"])
    let malformed := toolInterrupt [declaredOption "stop" "reject_once",.null]
    responseVerdict crowded "stop" = .rejected ∧
      settledVerdict (frameColumn crowded) "stop" = .approved ∧
      settledVerdict (refreshedColumn crowded) "stop" = .approved ∧
      responseVerdict malformed "stop" = .rejected ∧
      settledVerdict (refreshedColumn malformed) "stop" = .approved := by
  decide

end VaultspecA2A.PermissionOptions
