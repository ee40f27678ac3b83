import Mathlib.Data.List.Dedup
import Mathlib.Data.List.Sort
import VaultspecA2A.PyValue
import VaultspecA2A.ThreadLifecycle

/-!
# Grounding links

A decision or a plan cites the documents it rests on. The submitter finds them in
the engine's recovery snapshot: the applied proposals whose child path lies in a
directory of the phase's scope and whose file name begins with the feature. The
path is undated; the date of the link comes from the proposal's timestamp.

A child path is `<doc_type>/<feature>-<doc_type>.md`. The feature is not delimited
in it, and the resolver looks at the beginning of the file name only.
-/
namespace VaultspecA2A.Grounding
open PyText PyValue ThreadLifecycle List

inductive PipelinePhase
  | research
  | adr
  | plan
  | exec
  | audit
deriving DecidableEq, Repr

namespace PipelinePhase

def value : PipelinePhase → String
  | research => "research"
  | adr => "adr"
  | plan => "plan"
  | exec => "exec"
  | audit => "audit"

end PipelinePhase

def phaseGroundingDirs : PipelinePhase → List String
  | .adr => ["research","reference"]
  | .plan => ["adr","research","reference"]
  | _ => []

def coreAdrGrounding : List String := ["research","reference","audit"]

/-- Requirement groups: each must be met, by any one of its types. -/
def phaseRequiredGrounding : PipelinePhase → List (List String)
  | .adr => [coreAdrGrounding]
  | .plan => [["adr"],coreAdrGrounding]
  | _ => []

def digit (n : ℕ) : Char := Char.ofNat (48 + n % 10)

def twoDigits (n : ℕ) : List Char := [digit (n / 10),digit n]

/-- The proleptic Gregorian date of a day counted from the first of March of year zero,
as a year, a month and a day. -/
def civilDate (z : ℕ) : ℕ × ℕ × ℕ :=
  let era := z / 146097
  let doe := z % 146097
  let yoe := (doe - doe / 1460 + doe / 36524 - doe / 146096) / 365
  let doy := doe - (365 * yoe + yoe / 4 - yoe / 100)
  let mp := (5 * doy + 2) / 153
  let month := if mp < 10 then mp + 3 else mp - 9
  (yoe + era * 400 + if month ≤ 2 then 1 else 0,month,doy - (153 * mp + 2) / 5 + 1)

/-- The UTC date of a millisecond timestamp; nothing outside the years 1 to 9999, where
the conversion raises. -/
def dateKey (ms : ℤ) : Option String :=
  let day := ms / 86400000
  if -719162 ≤ day ∧ day ≤ 2932896 then
    let (y,m,d) := civilDate (day + 719468).toNat
    some (String.ofList
      (twoDigits (y / 100) ++ twoDigits y ++ ['-'] ++ twoDigits m ++ ['-'] ++ twoDigits d))
  else none

variable {date da : String}

lemma dateKey_length (h : dateKey ms = some da) : da.toList.length = 10 := by
  simp only [dateKey] at h
  split_ifs at h
  cases h
  simp [twoDigits]

example : dateKey 1784157786246 = some "2026-07-15" := by decide

def recoveryProposalItems (snapshotData : Value) : List Value :=
  (((((snapshotData.get "snapshot").bind (·.get "proposals")).bind (·.get "items")).bind
    Value.items?)).getD []

def groundingChildKey (item : Value) : Option String :=
  (item.get "rollback").bind (·.getStr "child_key")

def groundingDatedStem (childKey : String) (createdAtMs : Option Value) (feature : String)
    (groundingDirs : List String) : Except Raised (Option String) :=
  match partition '/' childKey with
  | (_,none) => .ok none
  | (docDir,some filename) =>
    if docDir ∉ groundingDirs ∨ endsWith filename ".md" = false then .ok none
    else
      let base := dropEnd 3 filename
      if startsWith base (feature ++ "-") = false then .ok none
      else
        match createdAtMs with
        | some (.int ms) =>
          match dateKey ms with
          | some date => .ok (some (date ++ "-" ++ base))
          | none => .error (.valueError "year is out of range")
        | _ => .ok none

def wikiLink (stem : String) : String := "[[" ++ stem ++ "]]"

def groundingLink (feature : String) (groundingDirs : List String) (item : Value) :
    Except Raised (Option String) :=
  if (item.get "status").any (·.isKey "applied") then
    match groundingChildKey item with
    | none => .ok none
    | some childKey =>
      (groundingDatedStem childKey (item.get "created_at_ms") feature groundingDirs).map
        (·.map wikiLink)
  else .ok none

def groundingLinks (feature : String) (groundingDirs : List String) :
    List Value → Except Raised (List String)
  | [] => .ok []
  | item :: rest =>
    match groundingLink feature groundingDirs item with
    | .error e => .error e
    | .ok link => (groundingLinks feature groundingDirs rest).map (link.toList ++ ·)

def sortedSet (links : List String) : List String := links.dedup.insertionSort (· ≤ ·)

def resolveGroundingRelated (snapshot : Option Value) (feature : String) (phase : PipelinePhase) :
    Except Raised (List String) :=
  if (phaseGroundingDirs phase).isEmpty then .ok []
  else
    match snapshot with
    | none => .ok []
    | some data =>
      (groundingLinks feature (phaseGroundingDirs phase) (recoveryProposalItems data)).map sortedSet

def countsAs (docType link : String) : Bool := endsWith (rstrip ']' link) ("-" ++ docType)

def missingGrounding (phase : PipelinePhase) (related : List String) : List (List String) :=
  (phaseRequiredGrounding phase).filter fun group =>
    !related.any fun link => group.any fun docType => countsAs docType link

def refuseUngrounded (phase : PipelinePhase) (related : List String) : Except String Unit :=
  let missing := missingGrounding phase related
  if missing.isEmpty then .ok ()
  else
    let unmet := String.intercalate "; " (missing.map (String.intercalate " or "))
    .error (phase.value ++ " document is missing required grounding: no applied " ++ unmet ++
      " document exists for this feature yet. A " ++ phase.value ++
      " states its own provenance, so each of these must materialize before it can cite them.")

/-- The link names the feature's document of a type in the scope. -/
def NamesDocumentOf (feature : String) (groundingDirs : List String) (link : String) : Prop :=
  ∃ ms date docType, dateKey ms = some date ∧ docType ∈ groundingDirs ∧
    link = wikiLink (date ++ "-" ++ (feature ++ "-" ++ docType))

/-- The proposal is applied, carries an integer timestamp, and its child is the file
`base` of a directory in the scope. -/
structure AppliedChild (groundingDirs : List String) (item : Value) (base : String) : Prop where
  applied : (item.get "status").any (·.isKey "applied") = true
  timestamp : ∃ ms, item.get "created_at_ms" = some (.int ms)
  child : ∃ docDir ∈ groundingDirs,
    groundingChildKey item = some (docDir ++ "/" ++ (base ++ ".md"))

/-- Every applied file of the scope whose name begins with the feature and a hyphen is
one of the feature's own documents. -/
def NoExtendedName (feature : String) (groundingDirs : List String) (items : List Value) : Prop :=
  ∀ item ∈ items, ∀ base, AppliedChild groundingDirs item base →
    startsWith base (feature ++ "-") = true → ∃ docType ∈ groundingDirs, base = feature ++ "-" ++ docType

variable {ms : ℤ} {links li : List String} {base ba : String}

lemma groundingDatedStem_cases (ck : String) (cam : Option Value)
    (fe : String) (hd : ∀ dir ∈ di, '/' ∉ dir.toList) :
    groundingDatedStem ck cam fe di = .ok none ∨
      ∃ dd ∈ di, ∃ ba ms, ck = dd ++ "/" ++ (ba ++ ".md") ∧
        startsWith ba (fe ++ "-") = true ∧ cam = some (.int ms) := by
  rw [groundingDatedStem]
  split
  · exact .inl rfl
  · next dd filename hp =>
      dsimp only
      split_ifs with hs hst
      · exact .inl rfl
      · exact .inl rfl
      · rw [not_or,not_not,Bool.not_eq_false] at hs
        obtain ⟨ba,rfl⟩ := endsWith_iff.1 hs.2
        have hb : dropEnd 3 (ba ++ ".md") = ba := dropEnd_append ba ".md"
        rw [hb,Bool.not_eq_false] at hst
        have hk := (partition_eq (hd dd hs.1)).1 hp
        split
        · next ms => exact .inr ⟨dd,hs.1,ba,ms,hk,hst,rfl⟩
        · exact .inl rfl

lemma groundingDatedStem_of_child (hdi : ∀ dir ∈ di, '/' ∉ dir.toList)
    (hd : dd ∈ di) (hs : startsWith ba (fe ++ "-") = true) :
    groundingDatedStem (dd ++ "/" ++ (ba ++ ".md")) (some (.int ms)) fe di =
      match dateKey ms with
      | some da => .ok (some (da ++ "-" ++ ba))
      | none => .error (.valueError "year is out of range") := by
  have hp : partition '/' (dd ++ "/" ++ (ba ++ ".md")) = (dd,some (ba ++ ".md")) :=
    (partition_eq (hdi dd hd)).2 rfl
  have hen : endsWith (ba ++ ".md") ".md" = true := endsWith_iff.2 ⟨ba,rfl⟩
  have hb : dropEnd 3 (ba ++ ".md") = ba := dropEnd_append ba ".md"
  simp only [groundingDatedStem,hp,hen,hb,hs,hd,not_true_eq_false,
    Bool.true_eq_false,or_self,if_false]

lemma groundingDatedStem_ok (hdirs : ∀ dir ∈ di, '/' ∉ dir.toList)
    (h : groundingDatedStem ck cam fe di = .ok (some st)) :
    ∃ dd ∈ di, ∃ ba ms da, ck = dd ++ "/" ++ (ba ++ ".md") ∧
      startsWith ba (fe ++ "-") = true ∧ cam = some (.int ms) ∧
      dateKey ms = some da ∧ st = da ++ "-" ++ ba := by
  rcases groundingDatedStem_cases ck cam fe hdirs with
    hsk | ⟨dd,hdi,ba,ms,rfl,hs,rfl⟩
  · rw [hsk] at h
    cases h
  · rw [groundingDatedStem_of_child hdirs hdi hs] at h
    cases hd : dateKey ms with
    | none =>
      rw [hd] at h
      cases h
    | some da =>
      rw [hd] at h
      cases h
      exact ⟨dd,hdi,ba,ms,da,rfl,hs,rfl,hd,rfl⟩

lemma mem_groundingLinks (h : groundingLinks fe di it = .ok li) :
    ln ∈ li ↔ ∃ x ∈ it, groundingLink fe di x = .ok (some ln) := by
  induction it generalizing li with
  | nil =>
    cases h
    simp
  | cons x r ih =>
    rw [groundingLinks] at h
    split at h
    · cases h
    · next first hf =>
        cases hre : groundingLinks fe di r with
        | error e =>
          rw [hre] at h
          cases h
        | ok ot =>
          rw [hre] at h
          cases h
          rw [mem_append,ih hre,exists_mem_cons_iff,hf]
          simp [Option.mem_toList]

lemma groundingLink_ok (h : groundingLinks fe di it = .ok li) (hi : x ∈ it) :
    ∃ co, groundingLink fe di x = .ok co := by
  induction it generalizing li with
  | nil => cases hi
  | cons first r ih =>
    rw [groundingLinks] at h
    split at h
    · cases h
    · next co hf =>
        rcases mem_cons.1 hi with rfl | hm
        · exact ⟨co,hf⟩
        · cases hre : groundingLinks fe di r with
          | error e =>
            rw [hre] at h
            cases h
          | ok ot => exact ih hre hm

/-- A proposal contributes a link exactly when it is an applied child of the scope whose
file name begins with the feature and a hyphen. -/
lemma groundingLink_some (hdirs : ∀ dir ∈ di, '/' ∉ dir.toList)
    (h : groundingLink fe di x = .ok (some ln)) :
    ∃ ba ms da, AppliedChild di x ba ∧ startsWith ba (fe ++ "-") = true ∧
      dateKey ms = some da ∧ ln = wikiLink (da ++ "-" ++ ba) := by
  rw [groundingLink] at h
  split_ifs at h with ha
  · split at h
    · cases h
    · next ck hk =>
        cases hs : groundingDatedStem ck (x.get "created_at_ms") fe di with
        | error e =>
          rw [hs] at h
          cases h
        | ok st =>
          rw [hs] at h
          obtain ⟨st,rfl,rfl⟩ := Option.map_eq_some_iff.1 (Except.ok.inj h)
          obtain ⟨dd,hdi,ba,ms,da,rfl,hst,hms,hd,rfl⟩ := groundingDatedStem_ok hdirs hs
          exact ⟨ba,ms,da,⟨ha,⟨ms,hms⟩,dd,hdi,hk⟩,hst,hd,rfl⟩
  · cases h

lemma groundingLink_of_child (hdirs : ∀ dir ∈ di, '/' ∉ dir.toList) (hc : AppliedChild di x ba)
    (hs : startsWith ba (fe ++ "-") = true)
    (h : groundingLink fe di x = .ok co) :
    ∃ ms da, dateKey ms = some da ∧ co = some (wikiLink (da ++ "-" ++ ba)) := by
  obtain ⟨ha,⟨ms,hms⟩,dd,hdi,hk⟩ := hc
  simp only [groundingLink,ha,if_true,hk,hms,groundingDatedStem_of_child hdirs hdi hs] at h
  cases hd : dateKey ms with
  | none =>
    rw [hd] at h
    cases h
  | some da =>
    rw [hd] at h
    cases h
    exact ⟨ms,da,hd,rfl⟩

lemma wikiLink_file_inj (hd : dateKey ms = some da) (hd' : dateKey ms' = some dat)
    (h : wikiLink (da ++ "-" ++ ba) = wikiLink (dat ++ "-" ++ bs)) : ba = bs := by
  have hle : da.toList.length = dat.toList.length := by
    rw [dateKey_length hd,dateKey_length hd']
  have hl := congrArg String.toList h
  simp only [wikiLink,String.toList_append,append_assoc,append_cancel_left_eq] at hl
  have ht := (append_inj hl hle).2
  simp only [append_cancel_left_eq,append_cancel_right_eq] at ht
  exact String.toList_inj.1 ht

lemma names_only_iff (hdi : ∀ dir ∈ di, '/' ∉ dir.toList) (h : groundingLinks fe di it = .ok li) :
    (∀ ln ∈ li, NamesDocumentOf fe di ln) ↔ NoExtendedName fe di it := by
  constructor
  · intro ho x hi ba hc hs
    obtain ⟨co,hl⟩ := groundingLink_ok h hi
    obtain ⟨ms,da,hd,rfl⟩ := groundingLink_of_child hdi hc hs hl
    have hm := (mem_groundingLinks h).2 ⟨x,hi,hl⟩
    obtain ⟨ms',dat,dt,hd',ht,heq⟩ := ho _ hm
    exact ⟨dt,ht,wikiLink_file_inj hd hd' heq⟩
  · intro hn ln hl
    obtain ⟨x,hi,hco⟩ := (mem_groundingLinks h).1 hl
    obtain ⟨ba,ms,da,hc,hs,hd,rfl⟩ := groundingLink_some hdi hco
    obtain ⟨dt,ht,rfl⟩ := hn x hi ba hc hs
    exact ⟨ms,da,dt,hd,ht,rfl⟩

lemma phaseGroundingDirs_flat (ph : PipelinePhase) :
    ∀ dir ∈ phaseGroundingDirs ph, '/' ∉ dir.toList := by
  cases ph <;> decide

lemma mem_sortedSet : ln ∈ sortedSet li ↔ ln ∈ li := by
  rw [sortedSet,mem_insertionSort,mem_dedup]

/-- The resolved links name documents of the feature only, exactly when no applied file of
the phase's scope extends the feature's name with a hyphen beyond a document type. -/
theorem grounding_own_feature_iff {snapshot : Option Value} {feature : String}
    {phase : PipelinePhase} {related : List String}
    (h : resolveGroundingRelated snapshot feature phase = .ok related) :
    (∀ link ∈ related, NamesDocumentOf feature (phaseGroundingDirs phase) link) ↔
      NoExtendedName feature (phaseGroundingDirs phase)
        ((snapshot.map recoveryProposalItems).getD []) := by
  have hdi := phaseGroundingDirs_flat phase
  unfold resolveGroundingRelated at h
  split_ifs at h with hs
  · cases h
    rw [List.isEmpty_iff] at hs
    rw [hs]
    refine ⟨fun _ item _ base hc => ?_,fun _ link hl => (not_mem_nil hl).elim⟩
    obtain ⟨docDir,hd,_⟩ := hc.child
    exact (not_mem_nil hd).elim
  · cases snapshot with
    | none =>
      cases h
      exact ⟨fun _ item hi => (not_mem_nil hi).elim,fun _ link hl => (not_mem_nil hl).elim⟩
    | some data =>
      simp only at h
      cases hli : groundingLinks feature (phaseGroundingDirs phase)
          (recoveryProposalItems data) with
      | error e =>
        rw [hli] at h
        cases h
      | ok links =>
        rw [hli] at h
        cases h
        simp only [mem_sortedSet]
        exact names_only_iff hdi hli

def appliedSnapshot (childKey : String) (createdAtMs : ℤ) : Value :=
  .dict [(.str "snapshot",.dict [(.str "proposals",.dict [(.str "items",.list
    [.dict [(.str "status",.str "applied"),(.str "created_at_ms",.int createdAtMs),
      (.str "rollback",.dict [(.str "child_key",.str childKey)])]])])])]

theorem grounding_own_feature_research :
    resolveGroundingRelated (some (appliedSnapshot "research/foo-research.md" 1784157786246)) "foo"
        .adr = .ok ["[[2026-07-15-foo-research]]"] ∧
      NoExtendedName "foo" (phaseGroundingDirs .adr)
        (recoveryProposalItems (appliedSnapshot "research/foo-research.md" 1784157786246)) := by
  have hre : resolveGroundingRelated
      (some (appliedSnapshot "research/foo-research.md" 1784157786246)) "foo" .adr =
        .ok ["[[2026-07-15-foo-research]]"] := by rfl
  refine ⟨hre,(grounding_own_feature_iff hre).1 ?_⟩
  intro link hl
  rw [mem_singleton.1 hl]
  exact ⟨1784157786246,"2026-07-15","research",by decide,by decide,by decide⟩

/-- The research of the feature `foo-bar` is cited by the decision of the feature `foo`. -/
theorem grounding_cites_extended_feature :
    resolveGroundingRelated (some (appliedSnapshot "research/foo-bar-research.md" 1784157786246))
        "foo" .adr = .ok ["[[2026-07-15-foo-bar-research]]"] ∧
      NamesDocumentOf "foo-bar" (phaseGroundingDirs .adr) "[[2026-07-15-foo-bar-research]]" ∧
      ¬ NamesDocumentOf "foo" (phaseGroundingDirs .adr) "[[2026-07-15-foo-bar-research]]" := by
  have hd : dateKey 1784157786246 = some "2026-07-15" := by decide
  refine ⟨by rfl,⟨1784157786246,"2026-07-15","research",hd,by decide,by decide⟩,?_⟩
  rintro ⟨ms,date,docType,hd',ht,heq⟩
  have hl : wikiLink ("2026-07-15" ++ "-" ++ "foo-bar-research") =
      wikiLink (date ++ "-" ++ ("foo" ++ "-" ++ docType)) := heq
  have hf := wikiLink_file_inj hd hd' hl
  have hn : ∀ docType ∈ phaseGroundingDirs .adr,
      "foo-bar-research" ≠ "foo" ++ "-" ++ docType := by decide
  exact hn docType ht hf

end VaultspecA2A.Grounding
