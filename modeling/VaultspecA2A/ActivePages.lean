import VaultspecA2A.GapRecovery
import Mathlib.Data.Prod.Lex
import Mathlib.Data.String.Basic

/-!
# Pages of active runs

Active runs are read page by page, newest first, each page behind the last row of the one before.
Runs are inserted, settled and deleted between the reads, so the reads below are given the table
as it stands at each of them.
-/
namespace VaultspecA2A.ActivePages
open Tables Database ThreadLifecycle GapRecovery List

/-- The columns of a run that the pages read. -/
structure ThreadRow where
  id : String
  status : ThreadStatus
  isActive : Bool
  workspaceKey : Option String
  featureTag : Option String
  createdAt : Instant

def ThreadRow.position (row : ThreadRow) : Lex (Instant × String) := toLex (row.createdAt,row.id)

abbrev Threads := Table ThreadRow (fun _ => True) fun first second => first.id ≠ second.id

structure Selectors where
  workspaceRoot : Option String
  featureTag : Option String

def maxWorkspaceRootLength : ℕ := 4096
def maxFeatureTagLength : ℕ := 128

section
variable (workspaceKey : String → String) (q : Selectors)

def Selectors.selects (row : ThreadRow) : Bool :=
  row.isActive && decide (row.status ∈ activeStatuses) && isPathSafeRunId row.id &&
    q.workspaceRoot.all (fun root => row.workspaceKey == some (workspaceKey root)) &&
    q.featureTag.all fun tag => row.featureTag == some tag

def behind (afterCreatedAt : Option Instant) (afterId : Option String) (row : ThreadRow) : Bool :=
  match afterCreatedAt, afterId with
  | some created, some id =>
    decide (row.createdAt < created) || decide (row.createdAt = created) && decide (row.id < id)
  | _, _ => true

def activeThreadPage (limit : ℕ) (afterCreatedAt : Option Instant) (afterId : Option String)
    (threads : Threads) : List ThreadRow :=
  ((threads.rows.filter fun row =>
    q.selects workspaceKey row && behind afterCreatedAt afterId row).insertionSort
      fun first second => second.position ≤ first.position).take limit

def listActiveThreadPage (limit : ℤ) (afterCreatedAt : Option Instant) (afterId : Option String)
    (threads : Threads) : Except String (List ThreadRow) :=
  if ¬ (1 ≤ limit ∧ limit ≤ 101) then
    .error "active-thread page limit must be between 1 and 101"
  else if q.workspaceRoot.any fun root =>
      ¬ (1 ≤ root.length ∧ root.length ≤ maxWorkspaceRootLength) then
    .error "active-thread workspace selector must be between 1 and 4096 characters"
  else if q.featureTag.any fun tag => ¬ (1 ≤ tag.length ∧ tag.length ≤ maxFeatureTagLength) then
    .error "active-thread feature selector must be between 1 and 128 characters"
  else if afterCreatedAt.isNone ≠ afterId.isNone then
    .error "active-thread keyset cursor requires both created_at and id"
  else .ok (activeThreadPage workspaceKey q limit.toNat afterCreatedAt afterId threads)

/-- One read: behind which row, of which table, and what it returned. -/
structure Read where
  after : Option ThreadRow
  threads : Threads
  page : List ThreadRow

/-- Read page after page, each of the table as it then is, until one is short. -/
def follow (limit : ℤ) (after : Option ThreadRow) : List Threads → Except String (List Read × Bool)
  | [] => .ok ([],false)
  | threads :: later => do
    let page ← listActiveThreadPage workspaceKey q limit (after.map ThreadRow.createdAt)
      (after.map ThreadRow.id) threads
    if page.length < limit then .ok ([⟨after,threads,page⟩],true)
    else do
      let (reads,short) ← follow limit page.getLast? later
      .ok (⟨after,threads,page⟩ :: reads,short)

def visited (reads : List Read) : List ThreadRow := reads.flatMap Read.page

end

inductive Change
  | insert (row : ThreadRow)
  | settle (id : String) (status : ThreadStatus)
  | delete (id : String)

def change (threads : Threads) : Change → Threads
  | .insert row => (threads.insert row).getD threads
  | .settle id status => (threads.updateWhere (fun row => row.id = id) fun row =>
      { row with status, isActive := decide (status ∈ activeStatuses) }).getD threads
  | .delete id => threads.deleteWhere fun row => row.id = id

/-- The tables that the reads see, with these changes before each but the first. -/
def snapshots (threads : Threads) : List (List Change) → List Threads
  | [] => [threads]
  | changes :: later => threads :: snapshots (changes.foldl change threads) later

def Change.creates : Change → Option (String × Instant)
  | .insert row => some (row.id,row.createdAt)
  | _ => none

/-- The runs there were and the runs inserted since, with their times of creation. -/
def creations (threads : Threads) (between : List (List Change)) : List (String × Instant) :=
  threads.rows.map (fun row => (row.id,row.createdAt)) ++ between.flatten.filterMap Change.creates

variable {workspaceKey : String → String} {q : Selectors} {limit : ℤ} {k : ℕ} {t u : Threads}
variable {row a b : ThreadRow} {aft : Option ThreadRow}

lemma behind_iff : behind (aft.map ThreadRow.createdAt) (aft.map ThreadRow.id) row = true ↔
    ∀ last ∈ aft, row.position < last.position := by
  cases aft with
  | none => exact iff_of_true rfl fun _ h => (by cases h)
  | some last => simp [behind,ThreadRow.position,Prod.Lex.toLex_lt_toLex]

lemma position_inj (ha : a ∈ t.rows) (hb : b ∈ t.rows) (h : a.position = b.position) : a = b := by
  have hid : a.id = b.id := congrArg (fun p => (ofLex p).2) h
  exact t.eq_of_not_fits ha hb (fun hn => hn hid) fun hn => hn hid.symm

/-- A page falls, and a row that it could have and has not is below a full page. -/
lemma activeThreadPage_spec (workspaceKey : String → String) (q : Selectors) (k : ℕ)
    (aft : Option ThreadRow) (t : Threads)
    (hp : page = activeThreadPage workspaceKey q k (aft.map ThreadRow.createdAt)
      (aft.map ThreadRow.id) t) :
    page.Pairwise (fun a b => b.position < a.position) ∧
      (∀ row ∈ page, row ∈ t.rows ∧ ∀ last ∈ aft, row.position < last.position) ∧
      ∀ row ∈ t.rows, q.selects workspaceKey row = true →
        (∀ last ∈ aft, row.position < last.position) →
        row ∈ page ∨ k ≤ page.length ∧ ∀ a ∈ page, row.position < a.position := by
  let l := (t.rows.filter fun row => q.selects workspaceKey row &&
    behind (aft.map ThreadRow.createdAt) (aft.map ThreadRow.id) row).insertionSort
      fun first second => second.position ≤ first.position
  have hmem : ∀ row, row ∈ l ↔ row ∈ t.rows ∧ q.selects workspaceKey row = true ∧
      ∀ last ∈ aft, row.position < last.position := by
    intro row
    rw [mem_insertionSort,mem_filter,Bool.and_eq_true,behind_iff]
  have hnod : l.Nodup := by
    refine (perm_insertionSort _ _).nodup_iff.2 (List.Nodup.filter _ ?_)
    exact t.fits.imp fun h he => h (congrArg _ he)
  have hfall : l.Pairwise fun a b => b.position < a.position := by
    refine ((pairwise_insertionSort (fun first second : ThreadRow =>
      second.position ≤ first.position) _).and hnod).imp_of_mem fun ha hb h => ?_
    exact lt_of_le_of_ne h.1 fun he => h.2
      (position_inj ((hmem _).1 ha).1 ((hmem _).1 hb).1 he.symm)
  have hpage : page = l.take k := hp
  refine ⟨hpage ▸ hfall.sublist (take_sublist k l),fun row hr => ?_,fun row hr hs hb => ?_⟩
  · have hl := (hmem row).1 (mem_of_mem_take (hpage ▸ hr))
    exact ⟨hl.1,hl.2.2⟩
  · have hl := (hmem row).2 ⟨hr,hs,hb⟩
    rw [← take_append_drop k l] at hl hfall
    rw [hpage]
    refine (mem_append.1 hl).imp_right fun hd => ⟨?_,fun a ha => ?_⟩
    · have hlt := length_pos_of_mem hd
      rw [length_drop] at hlt
      rw [length_take]
      omega
    · exact (pairwise_append.1 hfall).2.2 a ha row hd

lemma listActiveThreadPage_ok {id : Option String}
    (h : listActiveThreadPage workspaceKey q limit created id t = .ok page) :
    1 ≤ limit ∧ page = activeThreadPage workspaceKey q limit.toNat created id t := by
  unfold listActiveThreadPage at h
  split_ifs at h with hl
  exact ⟨hl.1,(Except.ok.inj h).symm⟩

/-- The pages behind a row fall below it, and the short page ends the search for each run that
is there whenever its position is still ahead. -/
lemma follow_spec (tables : List Threads) (aft : Option ThreadRow)
    (h : follow workspaceKey q limit aft tables = .ok (reads,short)) :
    (visited reads).Pairwise (fun a b => b.position < a.position) ∧
      (∀ row ∈ visited reads, (∃ t ∈ tables, row ∈ t.rows) ∧
        ∀ last ∈ aft, row.position < last.position) ∧
      (short = true → ∀ p, (∀ last ∈ aft, p < last.position) →
        (∀ read ∈ reads, (∀ last ∈ read.after, p < last.position) →
          ∃ row ∈ read.threads.rows, row.position = p ∧ q.selects workspaceKey row = true) →
        ∃ row ∈ visited reads, row.position = p) := by
  induction tables generalizing aft reads short with
  | nil =>
    cases h
    exact ⟨.nil,fun _ hr => (by cases hr),fun hs => (by cases hs)⟩
  | cons t tables ih =>
    obtain ⟨page,hpage,h⟩ := bind_ok.1 h
    obtain ⟨hlimit,hp⟩ := listActiveThreadPage_ok hpage
    obtain ⟨hfall,hin,hfull⟩ := activeThreadPage_spec workspaceKey q limit.toNat aft t hp
    split_ifs at h with hshort
    · cases h
      refine ⟨?_,fun row hr => ?_,fun _ p hp hstay => ?_⟩
      · simpa [visited] using hfall
      · have hm := hin row (by simpa [visited] using hr)
        exact ⟨⟨t,mem_cons_self,hm.1⟩,hm.2⟩
      · obtain ⟨row,hr,rfl,hs⟩ := hstay _ mem_cons_self hp
        rcases hfull row hr hs hp with hm | ⟨hk,-⟩
        · exact ⟨row,by simpa [visited] using hm,rfl⟩
        · omega
    · obtain ⟨⟨rest,sh⟩,hrest,h⟩ := bind_ok.1 h
      cases h
      have hne : page ≠ [] := by
        rintro rfl
        rw [length_nil] at hshort
        omega
      obtain ⟨init,last,rfl⟩ := (eq_nil_or_concat' page).resolve_left hne
      rw [getLast?_concat] at hrest
      obtain ⟨hf,hm,hc⟩ := ih _ hrest
      have hlast : ∀ a ∈ init ++ [last], last.position ≤ a.position := by
        intro a ha
        rcases mem_append.1 ha with ha | ha
        · exact ((pairwise_append.1 hfall).2.2 a ha last (mem_singleton_self _)).le
        · rw [mem_singleton.1 ha]
      have hv : visited (⟨aft,t,init ++ [last]⟩ :: rest) = init ++ [last] ++ visited rest := rfl
      rw [hv]
      refine ⟨pairwise_append.2 ⟨hfall,hf,fun a ha b hb => ?_⟩,fun row hr => ?_,?_⟩
      · exact lt_of_lt_of_le ((hm b hb).2 last rfl) (hlast a ha)
      · rcases mem_append.1 hr with hr | hr
        · exact ⟨⟨t,mem_cons_self,(hin row hr).1⟩,(hin row hr).2⟩
        · obtain ⟨⟨o,ho,hro⟩,hb⟩ := hm row hr
          refine ⟨⟨o,mem_cons_of_mem _ ho,hro⟩,fun top ht => ?_⟩
          exact (hb last rfl).trans ((hin last (by simp)).2 top ht)
      · intro hs p hp hstay
        obtain ⟨row,hr,rfl,hsel⟩ := hstay _ mem_cons_self hp
        rcases hfull row hr hsel hp with hmem | ⟨-,hbelow⟩
        · exact ⟨row,mem_append_left _ hmem,rfl⟩
        · obtain ⟨found,hfound,hpos⟩ := hc hs row.position
            (fun top ht => Option.mem_some.1 ht ▸ hbelow last (by simp))
            fun read hread => hstay read (mem_cons_of_mem _ hread)
          exact ⟨found,mem_append_right _ hfound,hpos⟩

lemma change_created (h : row ∈ (change t c).rows) :
    (∃ o ∈ t.rows, o.id = row.id ∧ o.createdAt = row.createdAt) ∨
      c.creates = some (row.id,row.createdAt) := by
  cases c with
  | insert r =>
    rw [change] at h
    cases hi : t.insert r with
    | none =>
      rw [hi] at h
      exact .inl ⟨row,h,rfl,rfl⟩
    | some u =>
      rw [hi] at h
      rcases (Table.mem_of_insert hi).1 h with h | rfl
      · exact .inl ⟨row,h,rfl,rfl⟩
      · exact .inr rfl
  | settle id status =>
    refine .inl ?_
    rw [change] at h
    cases hu : t.updateWhere (fun row => row.id = id) fun row =>
      { row with status, isActive := decide (status ∈ activeStatuses) } with
    | none =>
      rw [hu] at h
      exact ⟨row,h,rfl,rfl⟩
    | some u =>
      rw [hu] at h
      obtain ⟨o,ho,rfl⟩ := (Table.mem_of_updateWhere hu).1 h
      refine ⟨o,ho,?_⟩
      unfold Table.changed
      split_ifs <;> exact ⟨rfl,rfl⟩
  | delete id => exact .inl ⟨row,mem_of_mem_filter h,rfl,rfl⟩

lemma changes_created {changes : List Change} (h : row ∈ (changes.foldl change t).rows) :
    (∃ o ∈ t.rows, o.id = row.id ∧ o.createdAt = row.createdAt) ∨
      (row.id,row.createdAt) ∈ changes.filterMap Change.creates := by
  induction changes using List.reverseRecOn generalizing row with
  | nil => exact .inl ⟨row,h,rfl,rfl⟩
  | append_singleton changes c ih =>
    rw [foldl_append] at h
    rw [filterMap_append]
    rcases change_created h with ⟨o,ho,hid,hcr⟩ | hc
    · rw [← hid,← hcr]
      exact (ih ho).imp_right (mem_append_left _)
    · exact .inr (mem_append_right _ (mem_filterMap.2 ⟨c,by simp,hc⟩))

lemma mem_creations {between : List (List Change)} (ht : u ∈ snapshots t between)
    (h : row ∈ u.rows) : (row.id,row.createdAt) ∈ creations t between := by
  induction between generalizing t with
  | nil =>
    cases mem_singleton.1 ht
    exact mem_append_left _ (mem_map.2 ⟨row,h,rfl⟩)
  | cons changes between ih =>
    rcases mem_cons.1 ht with rfl | ht
    · exact mem_append_left _ (mem_map.2 ⟨row,h,rfl⟩)
    · unfold creations
      rw [flatten_cons,filterMap_append]
      rcases mem_append.1 (ih ht) with hm | hm
      · obtain ⟨r,hr,he⟩ := mem_map.1 hm
        rw [← he]
        rcases changes_created hr with ⟨o,ho,hid,hcr⟩ | hc
        · exact mem_append_left _ (mem_map.2 ⟨o,ho,by rw [hid,hcr]⟩)
        · exact mem_append_right _ (mem_append_left _ hc)
      · exact mem_append_right _ (mem_append_right _ hm)

/-- The pages visit runs in falling order and each once, an id twice only if it was created
again, and every run that was there before the first page and was active and selected at each
read that had not passed its position. -/
theorem pages_visit_all {workspaceKey : String → String} {q : Selectors} {limit : ℤ}
    {first : Threads} {between : List (List Change)} {reads : List Read}
    (h : follow workspaceKey q limit none (snapshots first between) = .ok (reads,true)) :
    (visited reads).Pairwise (fun a b => b.position < a.position) ∧
      (((creations first between).map Prod.fst).Nodup → ((visited reads).map ThreadRow.id).Nodup) ∧
      ∀ run ∈ first.rows, (∀ read ∈ reads, (∀ last ∈ read.after, run.position < last.position) →
          ∃ row ∈ read.threads.rows, row.position = run.position ∧
            q.selects workspaceKey row = true) →
        ∃ row ∈ visited reads, row.position = run.position := by
  obtain ⟨hfall,hin,hall⟩ := follow_spec _ _ h
  refine ⟨hfall,fun hn => ?_,fun run _ => hall rfl run.position fun _ hl => (by cases hl)⟩
  refine pairwise_map.2 (hfall.imp_of_mem fun {a b} ha hb hlt hid => ?_)
  obtain ⟨⟨t,ht,hat⟩,-⟩ := hin a ha
  obtain ⟨⟨u,hu,hbu⟩,-⟩ := hin b hb
  have he := inj_on_of_nodup_map hn (mem_creations ht hat) (mem_creations hu hbu) hid
  have hpos : a.position = b.position := congrArg toLex (Prod.ext (congrArg Prod.snd he) hid)
  exact absurd hlt (hpos ▸ lt_irrefl _)

def running (id : String) (createdAt : Instant) : ThreadRow :=
  ⟨id,.running,true,none,none,createdAt⟩

def tied : Threads := ⟨[running "run-1" 5,running "run-2" 5],by simp,by decide⟩

/-- On pages of one row, with a run inserted between the reads. -/
theorem pages_visit_all_tied : ∃ reads, follow id ⟨none,none⟩ 1 none
      (snapshots tied [[.insert (running "run-3" 9)],[]]) = .ok (reads,true) ∧
    (visited reads).Pairwise (fun a b => b.position < a.position) ∧
    (visited reads).map ThreadRow.id = ["run-2","run-1"] := by
  refine ⟨_,rfl,?_,by decide⟩
  exact (pages_visit_all (show follow id ⟨none,none⟩ 1 none
    (snapshots tied [[.insert (running "run-3" 9)],[]]) = .ok (_,true) from rfl)).1

end VaultspecA2A.ActivePages
