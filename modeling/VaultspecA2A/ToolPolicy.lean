import VaultspecA2A.PermissionOptions
import VaultspecA2A.ProjectScope

/-!
# The decision about a tool call

Both provider lanes put a tool call to one decision. Guards come first and refuse the call
ahead of anybody: there is no project to measure it against, it names another project, or its
tool is withheld from every run. Then a supervised run asks a human, and an unattended run
approves what its composed surface covers. The answer is the id of an offered option, or
nothing, which refuses the call.

An option may carry its id under two spellings. The check of the answer accepts both; the
lookup that narrows a remembered answer to a single use knows an option by the first one only.
-/
namespace VaultspecA2A.ToolPolicy
open PyText PyValue PermissionOptions ProjectScope List

/-- The registry of harness servers, with the tools of each that no run may call. -/
def knownMcpServers : List (String × List String) :=
  [("vaultspec-rag",[]),("vaultspec-core",["search","crossref"])]

/-- `text.split(sep, 1)`, when the separator occurs. -/
def splitOnce (sep : List Char) : List Char → Option (List Char × List Char)
  | [] => none
  | c :: cs =>
    if sep.isPrefixOf (c :: cs) then some ([],(c :: cs).drop sep.length)
    else (splitOnce sep cs).map fun parts => (c :: parts.1,parts.2)

/-- A qualified name is held against its own server, a bare one against all of them. -/
def harnessToolIsWithheld (toolName : String) : Bool :=
  if startsWith toolName "mcp__" then
    match (splitOnce "__".toList toolName.toList).bind fun parts =>
        splitOnce "__".toList parts.2 with
    | none => false
    | some (server,tool) =>
      knownMcpServers.any fun entry =>
        entry.1 == String.ofList server && entry.2.contains (String.ofList tool)
  else knownMcpServers.any fun entry => entry.2.contains toolName

structure ToolPermissionRequest where
  tool : String
  arguments : Value
  options : List Value

/-- The human rung: an option id, a suspension of the run, or any other error. -/
inductive Ask
  | chose (optionId : String)
  | graphBubbleUp
  | raised
deriving DecidableEq, Repr

/-- The suspension that `decide` lets pass. -/
inductive GraphBubbleUp
  | suspended
deriving DecidableEq, Repr

section
variable (host : Host)

def refusedAheadOfBothRungs (request : ToolPermissionRequest) (scope : Option RunProjectScope) :
    Bool :=
  match scope with
  | none => true
  | some scope =>
    (boundProjectRoot host scope).isNone ||
      (foreignProjectArgument host request.arguments scope).isSome ||
      harnessToolIsWithheld request.tool

def narrowedToOneUse (optionId : String) (options : List Value) : Option String :=
  match offeredOption options optionId with
  | none => some optionId
  | some chosen =>
    if !isRemembering chosen then some optionId
    else if isApproval chosen then some ((optionIdOfKind options .allowOnce).getD optionId)
    else optionIdOfKind options .rejectOnce

def humanAnswer (request : ToolPermissionRequest) : Ask → Except GraphBubbleUp (Option String)
  | .chose optionId => .ok (narrowedToOneUse optionId request.options)
  | .graphBubbleUp => .error .suspended
  | .raised => .ok none

/-- Approve exactly what the composed surface covers, with an offered approval. -/
def autonomousAnswer (request : ToolPermissionRequest) (covered : Bool) : Option String :=
  if covered then narrowestOptionId request.options true
  else optionIdOfKind request.options .rejectOnce

def offeredAnswer (options : List Value) (chosen : Option String) : Option String :=
  chosen.filter fun optionId =>
    (validOptionIds options).isEmpty || (validOptionIds options).contains optionId

protected def decide (request : ToolPermissionRequest) (scope : Option RunProjectScope)
    (covered : Bool) (ask : Option Ask) : Except GraphBubbleUp (Option String) :=
  if refusedAheadOfBothRungs host request scope then .ok none
  else
    match ask with
    | some ask => (humanAnswer request ask).map (offeredAnswer request.options)
    | none => .ok (offeredAnswer request.options (autonomousAnswer request covered))

end

lemma decide_guarded (co : Bool) (ask : Option Ask)
    (hgu : refusedAheadOfBothRungs host rq sc = true) :
    ToolPolicy.decide host rq sc co ask = .ok none :=
  if_pos hgu

lemma decide_asked (co : Bool) (ask : Ask) (hgu : refusedAheadOfBothRungs host rq sc = false) :
    ToolPolicy.decide host rq sc co (some ask) =
      (humanAnswer rq ask).map (offeredAnswer rq.options) :=
  if_neg (Bool.eq_false_iff.1 hgu)

lemma decide_unattended (co : Bool) (hgu : refusedAheadOfBothRungs host rq sc = false) :
    ToolPolicy.decide host rq sc co none =
      .ok (offeredAnswer rq.options (autonomousAnswer rq co)) :=
  if_neg (Bool.eq_false_iff.1 hgu)

section
variable {host : Host} {request rq : ToolPermissionRequest} {scope sc : RunProjectScope}

lemma refused_iff : refusedAheadOfBothRungs host rq (some sc) = true ↔
    boundProjectRoot host sc = none ∨ NamesForeignInReach host sc rq.arguments ∨
      harnessToolIsWithheld rq.tool = true := by
  rw [refusedAheadOfBothRungs,Bool.or_eq_true,Bool.or_eq_true,Option.isNone_iff_eq_none,
    foreignProjectArgument_isSome,or_assoc]

/-- A call is refused in every posture exactly when a guard refuses it: past the guards a
supervised run asks. -/
lemma always_refused_iff : (∀ co ask, ToolPolicy.decide host rq (some sc) co ask = .ok none) ↔
    refusedAheadOfBothRungs host rq (some sc) = true := by
  constructor
  · intro h
    by_contra hgu
    have ha := h true (some .graphBubbleUp)
    rw [decide_asked true _ (Bool.eq_false_iff.2 hgu)] at ha
    cases ha
  · exact fun hgu co ask => decide_guarded co ask hgu

/-- A call that names a foreign project is refused in every posture exactly when the scan
reaches the name, or another guard refuses the call. -/
theorem foreign_call_refused_iff (host : Host) (scope : RunProjectScope)
    (request : ToolPermissionRequest) :
    (NamesForeignProject host scope request.arguments →
        ∀ covered ask, ToolPolicy.decide host request (some scope) covered ask = .ok none) ↔
      (NamesForeignProject host scope request.arguments →
        boundProjectRoot host scope = none ∨ NamesForeignInReach host scope request.arguments ∨
          harnessToolIsWithheld request.tool = true) := by
  rw [always_refused_iff,refused_iff]

end

/-! A host of plain absolute paths, and a run bound to `/work/run`. -/

def plainHost : Host where
  isAbsolute path := startsWith path "/"
  realpath := some
  normcase path := path
  parts path := (path.toList.splitOn '/').map String.ofList

def runScope : RunProjectScope := ⟨some "/work/run"⟩

def acceptOrDecline : List Value :=
  [.dict [(.str "optionId",.str "accept"),(.str "kind",.str "allow_once")],
    .dict [(.str "optionId",.str "decline"),(.str "kind",.str "reject_once")]]

def nested : ℕ → Value → Value
  | 0, args => args
  | depth + 1, args => .dict [(.str "input",nested depth args)]

def otherRoot : Value := .dict [(.str "project_root",.str "/work/other")]

def otherRoots : Value := .dict [(.str "project_root",.list [.str "/work/other"])]

def searchWith (args : Value) : ToolPermissionRequest :=
  ⟨"mcp__vaultspec-rag__search_vault",args,acceptOrDecline⟩

/-- A search that names another project, in a list or seven levels down, is approved by an
unattended run that covers the tool and by a human who allows it. -/
theorem foreign_call_approved : (NamesForeignProject plainHost runScope otherRoots ∧
      ∀ ask ∈ [none,some (Ask.chose "accept")],
        ToolPolicy.decide plainHost (searchWith otherRoots) (some runScope) true ask =
          .ok (some "accept")) ∧
    NamesForeignProject plainHost runScope (nested 7 otherRoot) ∧
      ∀ ask ∈ [none,some (Ask.chose "accept")],
        ToolPolicy.decide plainHost (searchWith (nested 7 otherRoot)) (some runScope) true ask =
          .ok (some "accept") := by
  have hf : NamesForeign plainHost runScope (.str "project_root") (.str "/work/other") :=
    ⟨"project_root",by decide,rfl,"/work/other",rfl,by decide,by decide +kernel⟩
  refine ⟨⟨⟨0,.here (.head _) (.inr ⟨_,rfl,_,.head _,hf⟩)⟩,by decide +kernel⟩,⟨7,?_⟩,
    by decide +kernel⟩
  iterate 7 refine .inEntry (.head _) ?_
  exact .here (.head _) (.inl hf)

section
variable {options os : List Value} {optionId oid : String} {kind ki : PermissionOptionKind}

/-- The kind of the option an id stands for: the first that has it as its id, or else the
first that has it as its other spelling. -/
def kindNamed (options : List Value) (optionId : String) : Option PermissionOptionKind :=
  ((offeredOption options optionId).or
    (options.find? fun option => option.getStr "option_id" == some optionId)).map optionKind

lemma optionIdOf_valid (hm : op ∈ os) (h : optionIdOf op = some oid) : oid ∈ validOptionIds os := by
  refine mem_flatMap.2 ⟨op,hm,?_⟩
  rw [mem_append,Option.mem_toList,Option.mem_toList]
  rcases Option.or_eq_some_iff.1 h with hf | ⟨-,hs⟩
  · exact .inl hf
  · exact .inr hs

lemma optionIdOfKind_some (h : optionIdOfKind os ki = some oid) :
    ∃ op ∈ os, optionKind op = ki ∧ optionIdOf op = some oid := by
  obtain ⟨op,hm,hid⟩ := exists_of_findSome?_eq_some h
  split_ifs at hid with hk
  exact ⟨op,hm,hk,hid⟩

lemma optionIdOfKind_valid (h : optionIdOfKind os ki = some oid) : oid ∈ validOptionIds os := by
  obtain ⟨op,hm,-,hid⟩ := optionIdOfKind_some h
  exact optionIdOf_valid hm hid

lemma kindNamed_offered (h : offeredOption os oid = some op) :
    kindNamed os oid = some (optionKind op) := by
  rw [kindNamed,h,Option.some_or,Option.map_some]

lemma kindNamed_isSome : (kindNamed os oid).isSome = true ↔ oid ∈ validOptionIds os := by
  rw [kindNamed,Option.isSome_map,Option.isSome_or,Bool.or_eq_true,offeredOption,
    find?_isSome,find?_isSome]
  constructor
  · rintro (⟨op,hm,hid⟩ | ⟨op,hm,hid⟩)
    · exact optionIdOf_valid hm (names_iff.1 hid)
    · refine mem_flatMap.2 ⟨op,hm,mem_append_right _ ?_⟩
      exact Option.mem_toList.2 (beq_iff_eq.1 hid)
  · intro h
    obtain ⟨op,hm,hid⟩ := mem_flatMap.1 h
    rw [mem_append,Option.mem_toList,Option.mem_toList] at hid
    rcases hid with hf | hs
    · refine .inl ⟨op,hm,names_iff.2 ?_⟩
      rw [optionIdOf,hf,Option.some_or]
    · exact .inr ⟨op,hm,beq_iff_eq.2 hs⟩

lemma offeredAnswer_valid (h : oid ∈ validOptionIds os) :
    offeredAnswer os (some oid) = some oid := by
  rw [offeredAnswer,Option.filter_some,List.contains_iff_mem.2 h,Bool.or_true,if_pos rfl]

lemma offeredAnswer_some (h : offeredAnswer os ch = some oid) :
    ch = some oid ∧ (validOptionIds os ≠ [] → oid ∈ validOptionIds os) := by
  obtain ⟨hc,ha⟩ := Option.filter_eq_some_iff.1 h
  refine ⟨hc,fun hs => ?_⟩
  rw [Bool.or_eq_true,List.isEmpty_iff,List.contains_iff_mem] at ha
  exact ha.resolve_left hs

/-- What is asked of an answer that names an option. -/
structure Follows (options : List Value) (covered : Bool) (ask : Option Ask) (answer : String) :
    Prop where
  approves_covered : ∀ kind, ask = none → kindNamed options answer = some kind →
    kind.approving = true → covered = true
  keeps_polarity : ∀ chosen kind, ask = some (.chose chosen) →
    kindNamed options chosen = some kind →
    ∃ kept, kindNamed options answer = some kept ∧ kept.approving = kind.approving
  no_remembered_refusal : kindNamed options answer ≠ some .rejectAlways
  remembered_approval : kindNamed options answer = some .allowAlways →
    optionIdOfKind options .allowOnce = none
  offered : validOptionIds options ≠ [] → answer ∈ validOptionIds options

/-- The readers of the options agree on what the ids they use stand for: the id taken for a
once-only option is that of one, the id taken for a remembered approval is not that of a
remembered refusal, and no remembered option that ought to be narrowed can be named by its
other spelling alone. -/
structure ReadAlike (options : List Value) : Prop where
  allow_once : ∀ optionId, optionIdOfKind options .allowOnce = some optionId →
    kindNamed options optionId = some .allowOnce
  reject_once : ∀ optionId, optionIdOfKind options .rejectOnce = some optionId →
    kindNamed options optionId = some .rejectOnce
  allow_always : ∀ optionId, optionIdOfKind options .allowOnce = none →
    optionIdOfKind options .allowAlways = some optionId →
    kindNamed options optionId ≠ some .rejectAlways
  spelled : ∀ optionId, offeredOption options optionId = none →
    kindNamed options optionId ≠ some .rejectAlways ∧
      (kindNamed options optionId = some .allowAlways → optionIdOfKind options .allowOnce = none)

lemma readAlike_of_nodup (hi : (os.filterMap optionIdOf).Nodup)
    (ho : ∀ op ∈ os, ∀ oid, op.getStr "option_id" = some oid →
      optionIdOf op = some oid) : ReadAlike os := by
  have hp := pairwise_filterMap.1 hi
  have hsy : Std.Symm fun a c : Value => ∀ x, optionIdOf a = some x →
      ∀ y, optionIdOf c = some y → x ≠ y := ⟨fun a c h x hx y hy => (h y hy x hx).symm⟩
  have hfo : ∀ op ∈ os, ∀ oid, optionIdOf op = some oid → offeredOption os oid = some op := by
    intro op hm oid hid
    cases hf : offeredOption os oid with
    | none =>
      have hno := find?_eq_none.1 hf op hm
      exact absurd (names_iff.2 hid) hno
    | some o =>
      have hot := mem_of_find?_eq_some hf
      have hs : optionIdOf o = some oid := names_iff.1 (find?_some hf)
      by_contra hne
      have hd := hp.forall hot hm fun heq => hne (congrArg some heq)
      exact hd _ hs _ hid rfl
  have hk : ∀ {ki oid}, optionIdOfKind os ki = some oid → kindNamed os oid = some ki := by
    intro ki oid h
    obtain ⟨op,hm,rfl,hid⟩ := optionIdOfKind_some h
    exact kindNamed_offered (hfo op hm oid hid)
  refine ⟨fun _ => hk,fun _ => hk,?_,?_⟩
  · intro oid _ ha
    rw [hk ha]
    decide
  · intro oid hl
    have hn : kindNamed os oid = none := by
      rw [kindNamed,hl,Option.none_or,Option.map_eq_none_iff,find?_eq_none]
      intro op hm hse
      have hid := ho op hm oid (beq_iff_eq.1 hse)
      rw [hfo op hm oid hid] at hl
      cases hl
    rw [hn]
    exact ⟨by simp,by simp⟩

/-- An answer of a kind that is neither to be narrowed nor of another polarity. -/
lemma follows_of_kind (hk : kindNamed os an = some ki)
    (hc : ask = none → ki.approving = true → co = true)
    (hp : ∀ ch ak, ask = some (.chose ch) → kindNamed os ch = some ak → ki.approving = ak.approving)
    (hre : ki ≠ .rejectAlways)
    (hap : ki = .allowAlways → optionIdOfKind os .allowOnce = none)
    (ho : validOptionIds os ≠ [] → an ∈ validOptionIds os) :
    Follows os co ask an := by
  refine ⟨?_,?_,?_,?_,ho⟩
  · intro na ha hn happ
    rw [hk] at hn
    cases hn
    exact hc ha happ
  · exact fun ch ak ha haske => ⟨ki,hk,hp ch ak ha haske⟩
  · rw [hk]
    exact fun heq => hre (Option.some.inj heq)
  · rw [hk]
    exact fun heq => hap (Option.some.inj heq)

lemma unattended_follows (hre : ReadAlike os) (hop : rq.options = os)
    (h : offeredAnswer os (autonomousAnswer rq co) = some an) :
    Follows os co none an := by
  obtain ⟨hc,ho⟩ := offeredAnswer_some h
  rw [autonomousAnswer,hop] at hc
  split_ifs at hc with hco
  · rw [narrowestOptionId,if_pos rfl] at hc
    rcases Option.or_eq_some_iff.1 hc with hon | ⟨hn,ha⟩
    · exact follows_of_kind (hre.allow_once _ hon) (fun _ _ => hco) (by simp) (by simp)
        (by simp) ho
    · refine ⟨fun _ _ _ _ => hco,by simp,hre.allow_always _ hn ha,fun _ => hn,ho⟩
  · exact follows_of_kind (hre.reject_once _ hc) (fun _ h => absurd h (by decide))
      (by simp) (by simp) (by simp) ho

lemma asked_follows (hre : ReadAlike os) (h : offeredAnswer os (narrowedToOneUse ch os) = some an) :
    Follows os co (some (.chose ch)) an := by
  obtain ⟨hn,hof⟩ := offeredAnswer_some h
  rw [narrowedToOneUse] at hn
  cases hl : offeredOption os ch with
  | none =>
    rw [hl] at hn
    cases hn
    have hs := hre.spelled ch hl
    refine ⟨by simp,?_,hs.1,hs.2,hof⟩
    intro o ki ho hk
    cases ho
    exact ⟨ki,hk,rfl⟩
  | some op =>
    have hk := kindNamed_offered hl
    rw [hl] at hn
    dsimp only at hn
    -- The chosen option's kind decides whether the answer is narrowed.
    have hp : ∀ (ki : PermissionOptionKind) o ak, some (Ask.chose ch) = some (.chose o) →
        kindNamed os o = some ak →
        ki.approving = (optionKind op).approving → ki.approving = ak.approving := by
      intro ki o ak ho ha heq
      cases ho
      rw [hk] at ha
      cases ha
      exact heq
    split_ifs at hn with hrem hap
    · cases hn
      refine follows_of_kind hk (by simp) (fun o ak ho ha =>
        hp _ o ak ho ha rfl) ?_ ?_ hof
      · intro heq
        simp [isRemembering,heq] at hrem
      · intro heq
        simp [isRemembering,heq] at hrem
    · cases hon : optionIdOfKind os .allowOnce with
      | some on =>
        rw [hon] at hn
        cases hn
        exact follows_of_kind (hre.allow_once _ hon) (by simp)
          (fun o ak ho ha => hp _ o ak ho ha hap.symm)
          (by simp) (by simp) hof
      | none =>
        rw [hon] at hn
        cases hn
        refine follows_of_kind hk (by simp) (fun o ak ho ha =>
          hp _ o ak ho ha rfl) ?_ (fun _ => hon) hof
        intro heq
        simp [isApproval,PermissionOptionKind.approving,heq] at hap
    · exact follows_of_kind (hre.reject_once _ hn) (by simp)
        (fun o ak ho ha => hp _ o ak ho ha (Bool.eq_false_iff.2 hap).symm)
        (by simp) (by simp) hof

end

section
variable {host : Host} {request : ToolPermissionRequest} {scope : Option RunProjectScope}

/-- Past the guards every answer follows the rules, and a covered call gets the once-only
approval it is offered, exactly when the readers of the options agree. -/
theorem answers_follow_iff (hguard : refusedAheadOfBothRungs host request scope = false) :
    ((∀ covered ask answer, ToolPolicy.decide host request scope covered ask = .ok (some answer) →
        Follows request.options covered ask answer) ∧
      ((optionIdOfKind request.options .allowOnce).isSome = true →
        ∃ answer, ToolPolicy.decide host request scope true none = .ok (some answer) ∧
          kindNamed request.options answer = some .allowOnce)) ↔
      ReadAlike request.options := by
  have hu : ∀ {covered optionId}, autonomousAnswer request covered = some optionId →
      optionId ∈ validOptionIds request.options →
      ToolPolicy.decide host request scope covered none = .ok (some optionId) := by
    intro covered optionId han hv
    rw [decide_unattended covered hguard,han,offeredAnswer_valid hv]
  constructor
  · rintro ⟨hal,hon⟩
    refine ⟨?_,?_,?_,?_⟩
    · intro optionId ha
      obtain ⟨answer,hd,hk⟩ := hon (Option.isSome_iff_exists.2 ⟨_,ha⟩)
      have han : autonomousAnswer request true = some optionId := by
        rw [autonomousAnswer,if_pos rfl,narrowestOptionId,if_pos rfl,ha,Option.some_or]
      rw [hu han (optionIdOfKind_valid ha)] at hd
      cases hd
      exact hk
    · intro optionId hrej
      have hv := optionIdOfKind_valid hrej
      have hf := hal false none optionId (hu hrej hv)
      obtain ⟨kind,hk⟩ := Option.isSome_iff_exists.1 (kindNamed_isSome.2 hv)
      cases kind with
      | rejectOnce => exact hk
      | rejectAlways => exact absurd hk hf.no_remembered_refusal
      | allowOnce => exact absurd (hf.approves_covered _ rfl hk rfl) (by decide)
      | allowAlways => exact absurd (hf.approves_covered _ rfl hk rfl) (by decide)
    · intro optionId hn halw
      have han : autonomousAnswer request true = some optionId := by
        rw [autonomousAnswer,if_pos rfl,narrowestOptionId,if_pos rfl,hn,halw, Option.none_or]
      exact (hal true none optionId (hu han (optionIdOfKind_valid halw))).no_remembered_refusal
    · intro optionId hl
      by_cases hv : optionId ∈ validOptionIds request.options
      · have hd : ToolPolicy.decide host request scope true (some (.chose optionId)) =
            .ok (some optionId) := by
          rw [decide_asked true _ hguard,humanAnswer,narrowedToOneUse,hl]
          exact congrArg Except.ok (offeredAnswer_valid hv)
        have hf := hal true (some (.chose optionId)) optionId hd
        exact ⟨hf.no_remembered_refusal,hf.remembered_approval⟩
      · have hn : kindNamed request.options optionId = none :=
          Option.not_isSome_iff_eq_none.1 fun h => hv (kindNamed_isSome.1 h)
        rw [hn]
        exact ⟨by simp,by simp⟩
  · intro hre
    refine ⟨?_,?_⟩
    · intro covered ask answer hd
      cases ask with
      | none =>
        rw [decide_unattended covered hguard] at hd
        exact unattended_follows hre rfl (Except.ok.inj hd)
      | some ask =>
        rw [decide_asked covered ask hguard] at hd
        cases ask with
        | chose chosen => exact asked_follows hre (Except.ok.inj hd)
        | graphBubbleUp => cases hd
        | raised => cases hd
    · intro ho
      obtain ⟨optionId,ha⟩ := Option.isSome_iff_exists.1 ho
      have han : autonomousAnswer request true = some optionId := by
        rw [autonomousAnswer,if_pos rfl,narrowestOptionId,if_pos rfl,ha,Option.some_or]
      exact ⟨optionId,hu han (optionIdOfKind_valid ha),hre.allow_once _ ha⟩

end

def ownSearch (options : List Value) : ToolPermissionRequest :=
  ⟨"mcp__vaultspec-rag__search_vault",.dict [(.str "project_root",.str "/work/run/docs")],options⟩

/-- Every answer to two plain options follows the rules. -/
theorem answers_follow_plain_options : (∀ covered ask answer,
      ToolPolicy.decide plainHost (ownSearch acceptOrDecline) (some runScope) covered ask =
        .ok (some answer) →
      Follows acceptOrDecline covered ask answer) ∧
    ((optionIdOfKind acceptOrDecline .allowOnce).isSome = true →
      ∃ answer, ToolPolicy.decide plainHost (ownSearch acceptOrDecline) (some runScope) true none =
          .ok (some answer) ∧ kindNamed acceptOrDecline answer = some .allowOnce) := by
  refine (@answers_follow_iff plainHost (ownSearch acceptOrDecline) (some runScope)
    (by decide +kernel)).2 ?_
  refine readAlike_of_nodup (by decide +kernel) ?_
  intro option hm optionId hs
  rcases mem_cons.1 hm with rfl | hm
  · cases hs
  · rw [mem_singleton.1 hm] at hs
    cases hs

def twoSpellings : List Value :=
  [.dict [(.str "optionId",.str "deny-rule"),(.str "option_id",.str "deny_rule"),
      (.str "kind",.str "reject_always")],
    .dict [(.str "optionId",.str "deny"),(.str "kind",.str "reject_once")],
    .dict [(.str "optionId",.str "allow"),(.str "kind",.str "allow_once")],
    .dict [(.str "optionId",.str "allow-rule"),(.str "option_id",.str "allow_rule"),
      (.str "kind",.str "allow_always")]]

/-- A human who answers with the other spelling of a remembering option gets it remembered,
with a once-only option of that polarity on offer. -/
theorem other_spelling_remembered :
    let decided := fun chosen => ToolPolicy.decide plainHost (ownSearch twoSpellings)
      (some runScope) false (some (.chose chosen))
    refusedAheadOfBothRungs plainHost (ownSearch twoSpellings) (some runScope) = false ∧
      decided "deny-rule" = .ok (some "deny") ∧ decided "deny_rule" = .ok (some "deny_rule") ∧
      kindNamed twoSpellings "deny_rule" = some .rejectAlways ∧
      decided "allow-rule" = .ok (some "allow") ∧ decided "allow_rule" = .ok (some "allow_rule") ∧
      kindNamed twoSpellings "allow_rule" = some .allowAlways := by
  decide +kernel

end VaultspecA2A.ToolPolicy
