import VaultspecA2A.ToolPolicy

/-!
# The paths a tool call names

A native read is let through when the scan of its payload finds a path, and finds none outside
the project of the run. A text is read as a path when its key is one of six or when the text
itself leads out of a directory. The scan goes six levels deep.
-/
namespace VaultspecA2A.PathArguments
open PyText PyValue ProjectScope ToolPolicy List

def pathArgumentKeys : List String :=
  ["path","paths","file_path","filePath","notebook_path","notebookPath"]

/-- The texts of a payload, each with the key that held it; a list has the key of its parent. -/
def stringFields : ℕ → Value → Value → List (Value × String)
  | 0, _, _ => []
  | _ + 1, key, .str text => [(key,text)]
  | left + 1, _, .dict entries => entries.flatMap fun entry => stringFields left entry.1 entry.2
  | left + 1, key, .list items => items.flatMap (stringFields left key)
  | _ + 1, _, _ => []

structure PathHost extends Host where
  join : String → String → String

structure ToolCall where
  args : Value
  locations : List Value

structure PathArgumentScan where
  inside : List String
  outside : List String

def PathArgumentScan.confined (scan : PathArgumentScan) : Bool :=
  !scan.inside.isEmpty && scan.outside.isEmpty

/-- `StandsAt key text held value depth`: the text stands so many levels inside the value that
`held` holds, and its own key is `key`. -/
inductive StandsAt (key : Value) (text : String) : Value → Value → ℕ → Prop
  | here : StandsAt key text key (.str text) 0
  | inEntry {held : Value} {entries : List (Value × Value)} {entry : Value × Value} {depth : ℕ} :
      entry ∈ entries → StandsAt key text entry.1 entry.2 depth →
      StandsAt key text held (.dict entries) (depth + 1)
  | inItem {held item : Value} {items : List Value} {depth : ℕ} : item ∈ items →
      StandsAt key text held item depth → StandsAt key text held (.list items) (depth + 1)

section
variable (host : PathHost) (call : ToolCall) (scope : RunProjectScope)

def reachesPastItsOwnDirectory (value : String) : Bool :=
  startsWith value "~" || host.isAbsolute value || decide (".." ∈ host.parts value)

def anchoredTo (value bound : String) : String :=
  if startsWith value "~" || host.isAbsolute value then value else host.join bound value

def readAsPath (field : Value × String) : Bool := !(strip field.2).isEmpty &&
    (pathArgumentKeys.any field.1.isKey || reachesPastItsOwnDirectory host (strip field.2))

def inProject (value : String) : Bool := (boundProjectRoot host.toHost scope).any fun bound =>
    bindsProjectPath host.toHost scope (anchoredTo host value bound)

def pathArgumentsInProject : PathArgumentScan :=
  let fields := (call.args :: call.locations).flatMap (stringFields (maxArgumentScanDepth + 1) (.str ""))
  let values := (fields.filter (readAsPath host)).map fun field => strip field.2
  ⟨values.filter (inProject host scope),values.filter fun value => !inProject host scope value⟩

/-- The call names the path, so many levels deep in its arguments or in a location. -/
def NamesPath (depth : ℕ) (path : String) : Prop :=
  ∃ key text payload, payload ∈ call.args :: call.locations ∧ StandsAt key text (.str "") payload depth ∧
    readAsPath host (key,text) = true ∧ strip text = path

def SomeNamed (reach : ℕ → Prop) : Prop :=
  ∃ depth path, reach depth ∧ NamesPath host call depth path

def AllInside (reach : ℕ → Prop) : Prop :=
  ∀ depth path, reach depth → NamesPath host call depth path → inProject host scope path = true

end

section
variable {text path : String} {host : PathHost}
variable {call : ToolCall} {scope : RunProjectScope}

lemma mem_stringFields :
    (key,text) ∈ stringFields n held value ↔ ∃ depth < n, StandsAt key text held value depth := by
  induction n generalizing held value with
  | zero => simp [stringFields]
  | succ n ih =>
    constructor
    · intro h
      cases value with
      | str text =>
        cases mem_singleton.1 h
        exact ⟨0,n.succ_pos,.here⟩
      | dict entries =>
        obtain ⟨entry,hm,hf⟩ := mem_flatMap.1 h
        obtain ⟨depth,hd,hs⟩ := ih.1 hf
        exact ⟨depth + 1,Nat.succ_lt_succ hd,.inEntry hm hs⟩
      | list items =>
        obtain ⟨item,hm,hf⟩ := mem_flatMap.1 h
        obtain ⟨depth,hd,hs⟩ := ih.1 hf
        exact ⟨depth + 1,Nat.succ_lt_succ hd,.inItem hm hs⟩
      | _ => cases h
    · rintro ⟨depth,hd,hs⟩
      cases hs with
      | here => exact mem_singleton_self _
      | inEntry hm hs => exact mem_flatMap.2 ⟨_,hm,ih.2 ⟨_,Nat.lt_of_succ_lt_succ hd,hs⟩⟩
      | inItem hm hs => exact mem_flatMap.2 ⟨_,hm,ih.2 ⟨_,Nat.lt_of_succ_lt_succ hd,hs⟩⟩

lemma mem_scanned :
    path ∈ (((call.args :: call.locations).flatMap (stringFields (maxArgumentScanDepth + 1)
      (.str ""))).filter (readAsPath host)).map (fun field => strip field.2) ↔
    ∃ depth ≤ maxArgumentScanDepth, NamesPath host call depth path := by
  simp only [mem_map,mem_filter,mem_flatMap,Prod.exists,mem_stringFields,Nat.lt_succ_iff]
  constructor
  · rintro ⟨key,text,⟨⟨payload,hp,depth,hd,hs⟩,hr⟩,rfl⟩
    exact ⟨depth,hd,key,text,payload,hp,hs,hr,rfl⟩
  · rintro ⟨depth,hd,key,text,payload,hp,hs,hr,rfl⟩
    exact ⟨key,text,⟨⟨payload,hp,depth,hd,hs⟩,hr⟩,rfl⟩

lemma confined_iff : (pathArgumentsInProject host call scope).confined = true ↔
    SomeNamed host call (· ≤ maxArgumentScanDepth) ∧
      AllInside host call scope (· ≤ maxArgumentScanDepth) := by
  simp only [pathArgumentsInProject,PathArgumentScan.confined,Bool.and_eq_true,
    Bool.not_eq_true',List.isEmpty_eq_false_iff_exists_mem,List.isEmpty_iff,filter_eq_nil_iff,
    mem_filter,mem_scanned,Bool.not_eq_false]
  constructor
  · rintro ⟨⟨path,⟨depth,hd,hn⟩,-⟩,hall⟩
    exact ⟨⟨depth,path,hd,hn⟩,fun depth path hd hn => hall path ⟨depth,hd,hn⟩⟩
  · rintro ⟨⟨depth,path,hd,hn⟩,hall⟩
    exact ⟨⟨path,⟨depth,hd,hn⟩,hall depth path hd hn⟩,
      fun path ⟨depth,hd,hn⟩ => hall depth path hd hn⟩

/-- A call reported confined names a path and none outside the project, exactly if what it names
deeper than the scan goes lies inside, or what the scan sees is not confined. -/
theorem confined_paths_inside_iff : ((pathArgumentsInProject host call scope).confined = true →
      SomeNamed host call (fun _ => True) ∧ AllInside host call scope (fun _ => True)) ↔
    AllInside host call scope (maxArgumentScanDepth < ·) ∨
      ¬ (SomeNamed host call (· ≤ maxArgumentScanDepth) ∧
        AllInside host call scope (· ≤ maxArgumentScanDepth)) := by
  rw [confined_iff]
  constructor
  · intro h
    by_contra hc
    obtain ⟨hdeep,hseen⟩ := not_or.1 hc
    exact hdeep fun depth path _ => (h (not_not.1 hseen)).2 depth path trivial
  · rintro (hdeep | hseen) hc
    · obtain ⟨⟨depth,path,hd,hn⟩,hin⟩ := hc
      refine ⟨⟨depth,path,trivial,hn⟩,fun depth path _ => ?_⟩
      exact (Nat.lt_or_ge maxArgumentScanDepth depth).elim (hdeep depth path) (hin depth path)
    · exact (hseen hc).elim

end

def plainPathHost : PathHost := { plainHost with join := fun bound _ => bound }

def deepCall : ToolCall where
  args := nested 6 (.dict [(.str "path",.str "/work/other/notes")])
  locations := [.dict [(.str "path",.str "/work/run/notes")]]

/-- Beside a path of the project, a path of another one seven levels down is not seen. -/
theorem deep_path_confined :
    (pathArgumentsInProject plainPathHost deepCall runScope).confined = true ∧
    NamesPath plainPathHost deepCall 7 "/work/other/notes" ∧
    inProject plainPathHost runScope "/work/other/notes" = false := by
  have hs : ∀ {value : Value} {n : ℕ},
      StandsAt (.str "path") "/work/other/notes" (.str "input") value n →
      StandsAt (.str "path") "/work/other/notes" (.str "input") (.dict [(.str "input",value)])
        (n + 1) := fun h => .inEntry (mem_singleton_self _) h
  refine ⟨by decide,⟨.str "path","/work/other/notes",_,mem_cons_self,?_,by decide,by decide⟩,
    by decide⟩
  exact .inEntry (mem_singleton_self _) (hs (hs (hs (hs (hs (.inEntry (mem_singleton_self _)
    .here))))))

end VaultspecA2A.PathArguments
