import VaultspecA2A.PyText
import VaultspecA2A.PyValue

/-!
# The project a run is bound to

A run is admitted against one project. Its tools take a project as an argument, so every call
is scanned, before anyone is asked about it, for an argument that names another project. The
scan goes through mappings and lists down to a fixed depth. It looks at a text that stands
under one of four keys; a text in a list under such a key it does not look at.

What a path names is for the host to say: whether a text is an absolute path, what it
resolves to, how letters of a path are folded, and the parts a path is compared by. These are
parameters, and nothing is assumed of them.
-/
namespace VaultspecA2A.ProjectScope
open PyText PyValue List

/-- What the operating system says about paths; `realpath` is `none` when it refuses. -/
structure Host where
  nt : Bool := false
  isAbsolute : String → Bool
  realpath : String → Option String
  normcase : String → String
  parts : String → List String

section
variable (host : Host)

def canonicalProjectRoot (value : String) : Option String :=
  if isBlank value then none
  else if !host.isAbsolute value then none
  else host.realpath value

/-- The form without the extended-length mark of Windows, which must still be absolute. -/
def canonicalWorkspaceRoot (value : String) : Option String :=
  (canonicalProjectRoot host value).bind fun canonical =>
    let root :=
      if host.nt && startsWith canonical "\\\\?\\" then
        let rest := canonical.toList.drop 4
        if (rest.take 4).map Char.toUpper = "UNC\\".toList then
          "\\\\" ++ String.ofList (rest.drop 4)
        else String.ofList rest
      else canonical
    if host.isAbsolute root then some root else none

def projectScopeKey (value : String) : Option String :=
  (canonicalWorkspaceRoot host value).map host.normcase

structure RunProjectScope where
  workspaceRoot : Option String
deriving DecidableEq, Repr

def boundProjectRoot (scope : RunProjectScope) : Option String :=
  match scope.workspaceRoot with
  | none => none
  | some root => if root.isEmpty then none else projectScopeKey host root

/-- The candidate lies inside the project; what cannot be compared does not. -/
def bindsProjectPath (scope : RunProjectScope) (candidate : String) : Bool :=
  match boundProjectRoot host scope, projectScopeKey host candidate with
  | some bound, some key => (host.parts bound).isPrefixOf (host.parts key)
  | _, _ => false

def projectArgumentKeys : List String :=
  ["project_root","projectRoot","workspace_root","workspaceRoot"]

def maxArgumentScanDepth : ℕ := 6

def foreignProjectField (scope : RunProjectScope) (key value : Value) : Option String :=
  match key, value with
  | .str key, .str value =>
    if key ∈ projectArgumentKeys ∧ ¬ isBlank value ∧
        ¬ bindsProjectPath host scope (strip value) then some value
    else none
  | _, _ => none

/-- The scan, with the number of levels it still enters: seven at depth zero. -/
def scanForeignProjectArgument (scope : RunProjectScope) : ℕ → Value → Option String
  | 0, _ => none
  | left + 1, .dict entries =>
    entries.findSome? fun entry =>
      (foreignProjectField host scope entry.1 entry.2).or
        (scanForeignProjectArgument scope left entry.2)
  | left + 1, .list items => items.findSome? (scanForeignProjectArgument scope left)
  | _ + 1, _ => none

def foreignProjectArgument (args : Value) (scope : RunProjectScope) : Option String :=
  scanForeignProjectArgument host scope (maxArgumentScanDepth + 1) args

end

/-- Somewhere inside the value, `depth` levels down, a mapping has an entry with the property. -/
inductive HasField (P : Value → Value → Prop) : ℕ → Value → Prop
  | here {entries : List (Value × Value)} {entry : Value × Value} :
      entry ∈ entries → P entry.1 entry.2 → HasField P 0 (.dict entries)
  | inEntry {depth : ℕ} {entries : List (Value × Value)} {entry : Value × Value} :
      entry ∈ entries → HasField P depth entry.2 → HasField P (depth + 1) (.dict entries)
  | inItem {depth : ℕ} {items : List Value} {item : Value} :
      item ∈ items → HasField P depth item → HasField P (depth + 1) (.list items)

section
variable {host : Host} {scope sc : RunProjectScope} {P Q : Value → Value → Prop}

def NamesForeign (host : Host) (scope : RunProjectScope) (key value : Value) : Prop :=
  ∃ name ∈ projectArgumentKeys, key = .str name ∧ ∃ path, value = .str path ∧ isBlank path = false ∧
      bindsProjectPath host scope (strip path) = false

def NamesForeignInList (host : Host) (scope : RunProjectScope) (key value : Value) : Prop :=
  NamesForeign host scope key value ∨
    ∃ items, value = .list items ∧ ∃ item ∈ items, NamesForeign host scope key item

/-- The arguments name, anywhere, a path outside the project of the run. -/
def NamesForeignProject (host : Host) (scope : RunProjectScope) (args : Value) : Prop :=
  ∃ depth, HasField (NamesForeignInList host scope) depth args

/-- They name one where the scan looks: a text of its own, at most six levels down. -/
def NamesForeignInReach (host : Host) (scope : RunProjectScope) (args : Value) : Prop :=
  ∃ depth ≤ maxArgumentScanDepth, HasField (NamesForeign host scope) depth args

lemma foreignProjectField_isSome :
    (foreignProjectField host sc key value).isSome = true ↔ NamesForeign host sc key value := by
  constructor
  · intro h
    unfold foreignProjectField at h
    split at h
    · rename_i na pa
      split_ifs at h with hf
      · obtain ⟨hn,hb,ho⟩ := hf
        exact ⟨na,hn,rfl,pa,rfl,Bool.eq_false_iff.2 hb,Bool.eq_false_iff.2 ho⟩
      · cases h
    · cases h
  · rintro ⟨na,hn,rfl,pa,rfl,hb,ho⟩
    simp [foreignProjectField,hn,hb,ho]

/-- By induction on the levels left: each level of the scan is one step of `HasField`. -/
lemma scan_isSome (l : ℕ) (value : Value) :
    (scanForeignProjectArgument host sc l value).isSome = true ↔
      ∃ de < l, HasField (NamesForeign host sc) de value := by
  induction l generalizing value with
  | zero => simp [scanForeignProjectArgument]
  | succ l ih =>
    cases value with
    | dict es =>
      rw [scanForeignProjectArgument,isSome_findSome?,any_eq_true]
      constructor
      · rintro ⟨e,hm,hfo⟩
        rw [Option.isSome_or,Bool.or_eq_true,foreignProjectField_isSome,ih] at hfo
        rcases hfo with hf | ⟨de,hd,hi⟩
        · exact ⟨0,Nat.succ_pos l,.here hm hf⟩
        · exact ⟨de + 1,Nat.succ_lt_succ hd,.inEntry hm hi⟩
      · rintro ⟨de,hd,hf⟩
        cases hf with
        | here hm hf =>
          refine ⟨_,hm,?_⟩
          rw [Option.isSome_or,foreignProjectField_isSome.2 hf,Bool.true_or]
        | inEntry hm hi =>
          refine ⟨_,hm,?_⟩
          rw [Option.isSome_or,(ih _).2 ⟨_,Nat.lt_of_succ_lt_succ hd,hi⟩,Bool.or_true]
    | list it =>
      rw [scanForeignProjectArgument,isSome_findSome?,any_eq_true]
      constructor
      · rintro ⟨x,hm,hfo⟩
        obtain ⟨de,hd,hi⟩ := (ih x).1 hfo
        exact ⟨de + 1,Nat.succ_lt_succ hd,.inItem hm hi⟩
      · rintro ⟨de,hd,hf⟩
        cases hf with
        | inItem hm hi =>
          exact ⟨_,hm,(ih _).2 ⟨_,Nat.lt_of_succ_lt_succ hd,hi⟩⟩
    | null | bool | int | float | str =>
      constructor
      · intro h
        cases h
      · rintro ⟨de,-,hf⟩
        cases hf

lemma foreignProjectArgument_isSome : (foreignProjectArgument host ar sc).isSome = true ↔
    NamesForeignInReach host sc ar := by
  rw [foreignProjectArgument,scan_isSome]
  simp only [NamesForeignInReach,Nat.lt_succ_iff]

end

end VaultspecA2A.ProjectScope
