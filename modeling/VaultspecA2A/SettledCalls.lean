import VaultspecA2A.RunLiveState
import VaultspecA2A.Runs

/-!
# The settled calls a run keeps

A call that settles bounds how many settled calls its run keeps: of those, the ones that were
registered first are given up until fifty are left. The order is that of registration, so a call
that was registered long ago and settles now stands before calls that settled earlier. It is given
up at once if fifty settled calls were registered after it, and otherwise it stays with the status
it settled with.

A history is any list of starts and updates of calls.
-/
namespace VaultspecA2A.SettledCalls
open RunLiveState List

inductive CallEvent
  | start (key title : String) (kind : ToolKind) (agentId : String)
  | update (key agentId : String) (changes : Changes)
deriving DecidableEq, Repr

def record (calls : Calls) : CallEvent → Calls
  | .start key title kind agentId => startToolCall calls key title kind agentId
  | .update key agentId changes => updateToolCall calls key agentId changes

def recorded (history : List CallEvent) : Calls := history.foldl record []

/-- The calls that were registered after a call; none if it is not registered. -/
def registeredAfter (calls : Calls) (key : String) : Calls :=
  (calls.dropWhile fun entry => decide (entry.1 ≠ key)).tail

variable {status su : ToolCallStatus}

section
variable {calls cs before p after q : Calls} {key : String} {state st old : ToolCallState}

def Distinct (calls : Calls) : Prop := (calls.map Prod.fst).Nodup

/-- A call stands once, between those registered before and those registered after it. -/
structure Stands (calls before : Calls) (key : String) (state : ToolCallState) (after : Calls) :
    Prop where
  split : calls = before ++ (key,state) :: after
  fresh : ∀ entry ∈ before ++ after, entry.1 ≠ key

lemma Distinct.stands (h : Distinct cs) (hf : cs.lookup key = some st) :
    ∃ p q, Stands cs p key st q := by
  induction cs with
  | nil => cases hf
  | cons e cs ih =>
    rw [lookup_cons_ite] at hf
    have hn := nodup_cons.1 h
    split_ifs at hf with hk
    · obtain rfl := Option.some.inj hf
      refine ⟨[],cs,by rw [hk]; rfl,?_⟩
      intro o ho heq
      apply hn.1
      rw [← hk,← heq]
      exact mem_map_of_mem ho
    · obtain ⟨p,q,hs,hfr⟩ := ih hn.2 hf
      refine ⟨e :: p,q,by rw [hs]; rfl,?_⟩
      intro o ho
      rcases mem_cons.1 ho with rfl | ho
      · exact Ne.symm hk
      · exact hfr o ho

lemma Stands.registeredAfter (h : Stands cs p key st q) : registeredAfter cs key = q := by
  have hb : ∀ e ∈ p, decide (e.1 ≠ key) = true := by
    intro e hen
    exact decide_eq_true (h.fresh e (mem_append_left _ hen))
  rw [SettledCalls.registeredAfter,h.split,dropWhile_append_of_pos hb]
  simp

lemma Stands.set (h : Stands cs p key old q) (st : ToolCallState) :
    Stands (cs.set key st) p key st q := by
  refine ⟨?_,h.fresh⟩
  have hk : ∀ es : Calls, (∀ e ∈ es, e.1 ≠ key) →
      (es.map fun e => if e.1 = key then (e.1,st) else e) = es := by
    intro es hf
    calc _ = es.map id := map_congr_left fun e hen => if_neg (hf e hen)
      _ = es := map_id es
  have hb := hk p fun e hen => h.fresh e (mem_append_left _ hen)
  have ha := hk q fun e hen => h.fresh e (mem_append_right _ hen)
  rw [Calls.set,h.split,if_pos (by simp),map_append,map_cons,hb,ha,if_pos rfl]

lemma fresh_of_lookup_none (h : cs.lookup key = none) : ∀ e ∈ cs, e.1 ≠ key := by
  intro e hen
  have hne := lookup_eq_none_iff.1 h e hen
  simpa using Ne.symm (bne_iff_ne.1 (by simpa using hne))

lemma stands_set_new (h : cs.lookup key = none) (st : ToolCallState) :
    Stands (cs.set key st) cs key st [] := by
  have hf := fresh_of_lookup_none h
  refine ⟨?_,by simpa using hf⟩
  rw [Calls.set,if_neg]
  rw [Bool.not_eq_true,any_eq_false]
  intro e hen
  simpa using hf e hen

lemma registeredAfter_new (h : cs.lookup key = none) : registeredAfter cs key = [] := by
  have ha : ∀ e ∈ cs, decide (e.1 ≠ key) = true := fun e hen =>
    decide_eq_true (fresh_of_lookup_none h e hen)
  rw [registeredAfter,← append_nil cs,dropWhile_append_of_pos ha]
  rfl

lemma Distinct.set (h : Distinct cs) (key : String) (st : ToolCallState) :
    Distinct (cs.set key st) := by
  cases hf : cs.lookup key with
  | none =>
    have hfr := fresh_of_lookup_none hf
    rw [(stands_set_new hf st).split,Distinct,map_append]
    refine nodup_append.2 ⟨h,by simp,?_⟩
    intro first hfi second hs
    obtain ⟨e,hen,rfl⟩ := mem_map.1 hfi
    rw [map_singleton,mem_singleton] at hs
    rw [hs]
    exact hfr e hen
  | some old =>
    obtain ⟨p,q,hst⟩ := h.stands hf
    have hk : (cs.set key st).map Prod.fst = cs.map Prod.fst := by
      rw [(hst.set st).split,hst.split]
      simp
    rw [Distinct,hk]
    exact h

lemma Distinct.filter (h : Distinct cs) (p : String × ToolCallState → Bool) :
    Distinct (cs.filter p) :=
  (filter_sublist.map Prod.fst).nodup h

lemma Distinct.merge (h : Distinct cs) (key gid : String) (ch : Changes) :
    Distinct (mergeToolCall cs key gid ch) := by
  unfold mergeToolCall
  split
  · exact h.set _ _
  · split_ifs
    · exact h
    · exact h.set _ _

lemma Distinct.record (h : Distinct cs) (e : CallEvent) : Distinct (record cs e) := by
  cases e with
  | start key ti ki gid => exact h.set _ _
  | update key gid ch =>
    unfold SettledCalls.record updateToolCall
    dsimp only
    split_ifs
    · exact (h.merge key gid ch).filter _
    · exact h.merge key gid ch

lemma distinct_recorded (lg : List CallEvent) : Distinct (recorded lg) := by
  induction lg using List.reverseRecOn with
  | nil => exact nodup_nil
  | append_singleton lg e ih =>
    rw [recorded,foldl_append]
    exact ih.record e

lemma Stands.lookup (h : Stands cs p key st q) : cs.lookup key = some st := by
  have hb : List.lookup key p = none := by
    rw [lookup_eq_none_iff]
    intro e hen
    simpa using Ne.symm (h.fresh e (mem_append_left _ hen))
  rw [h.split,lookup_append,hb,Option.none_or]
  exact lookup_cons_self

lemma Stands.settled (h : Stands cs p key st q) (hs : st.status.settled = true) :
    cs.settled = p.settled ++ (key,st) :: q.settled := by
  simp [Calls.settled,h.split,hs]

lemma Stands.given_up_iff (h : Stands cs p key st q) (hs : st.status.settled = true) :
    key ∈ (cs.settled.take (cs.settled.length - settledToolCallCap)).map Prod.fst ↔
      settledToolCallCap ≤ q.settled.length := by
  have hl := h.settled hs
  have hle : cs.settled.length = p.settled.length + 1 + q.settled.length := by
    rw [hl,length_append,length_cons]
    omega
  constructor
  · intro hgo
    by_contra hf
    obtain ⟨e,hen,hk⟩ := mem_map.1 hgo
    have hsh : cs.settled.length - settledToolCallCap ≤ p.settled.length := by omega
    rw [hl,take_append_of_le_length (by rw [← hl]; exact hsh)] at hen
    have hb : e ∈ p := mem_of_mem_filter (mem_of_mem_take hen)
    exact h.fresh e (mem_append_left _ hb) hk
  · intro hm
    obtain ⟨n,hn⟩ : ∃ n, cs.settled.length - settledToolCallCap =
        p.settled.length + (n + 1) := ⟨q.settled.length - settledToolCallCap,by omega⟩
    rw [hn,hl,take_length_add_append,take_succ_cons]
    simp

lemma Stands.lookup_pruneSettled (h : Stands cs p key st q) (hs : st.status.settled = true) :
    cs.pruneSettled.lookup key =
      if settledToolCallCap ≤ q.settled.length then none else some st := by
  rw [Calls.pruneSettled,lookup_filter,h.lookup]
  simp only [h.given_up_iff hs]

lemma settled_filter (p : String × ToolCallState → Bool) :
    Calls.settled (cs.filter p) = cs.settled.filter p := by
  unfold Calls.settled
  rw [filter_filter,filter_filter]
  simp only [Bool.and_comm]

lemma length_filter_given_up (es : Calls) (n : ℕ) :
    (es.filter fun e => e.1 ∉ (es.take n).map Prod.fst).length ≤
      (es.drop n).length := by
  have hn : ((es.take n).filter fun e => e.1 ∉ (es.take n).map Prod.fst) = [] := by
    rw [filter_eq_nil_iff]
    intro e hen
    simpa using mem_map_of_mem (f := Prod.fst) hen
  generalize (es.take n).map Prod.fst = go at hn ⊢
  calc (es.filter fun e => e.1 ∉ go).length
      = ((es.take n ++ es.drop n).filter fun e => e.1 ∉ go).length := by
        rw [take_append_drop]
    _ = ((es.drop n).filter fun e => e.1 ∉ go).length := by
        rw [filter_append,hn,nil_append]
    _ ≤ (es.drop n).length := length_filter_le _ _

lemma pruneSettled_bounded (cs : Calls) : cs.pruneSettled.settled.length ≤ settledToolCallCap := by
  have hk : cs.pruneSettled.settled.length ≤
      (cs.settled.drop (cs.settled.length - settledToolCallCap)).length := by
    rw [Calls.pruneSettled,settled_filter]
    exact length_filter_given_up _ _
  rw [length_drop] at hk
  omega

lemma Distinct.settled_set (h : Distinct cs) (key : String) (st : ToolCallState)
    (ho : ∀ old, cs.lookup key = some old → st.status.settled = true → old.status.settled = true)
    (hn : cs.lookup key = none → st.status.settled = false) :
    (cs.set key st).settled.length ≤ cs.settled.length := by
  cases hf : cs.lookup key with
  | none =>
    rw [(stands_set_new hf st).split]
    simp [Calls.settled,hn hf]
  | some old =>
    obtain ⟨p,q,hst⟩ := h.stands hf
    rw [(hst.set st).split,hst.split]
    unfold Calls.settled
    rw [filter_append,filter_append,length_append,length_append,filter_cons,filter_cons]
    by_cases hs : st.status.settled = true
    · simp [hs,ho old hf hs]
    · rw [if_neg hs]
      split_ifs
      · rw [length_cons]
        omega
      · exact Nat.le_refl _

lemma record_bounded (h : Distinct cs) (hc : cs.settled.length ≤ settledToolCallCap)
    (e : CallEvent) : (record cs e).settled.length ≤ settledToolCallCap := by
  cases e with
  | start key ti ki gid =>
    have hse := h.settled_set key ⟨ti,ki,.pending,gid⟩ (by simp [ToolCallStatus.settled])
      (by simp [ToolCallStatus.settled])
    exact Nat.le_trans hse hc
  | update key gid ch =>
    unfold SettledCalls.record updateToolCall
    dsimp only
    split_ifs with hsett
    · exact pruneSettled_bounded _
    · refine Nat.le_trans ?_ hc
      have ho : ∀ old : ToolCallStatus, (ch.status.getD old).settled = true →
          old.settled = true := by
        intro old hold
        cases hst : ch.status with
        | none => simpa [hst] using hold
        | some su => simp_all
      unfold mergeToolCall
      split
      · rename_i st hf
        refine h.settled_set key _ ?_ ?_
        · rintro old hold hs
          rw [hf] at hold
          cases hold
          exact ho _ hs
        · rw [hf]
          simp
      · rename_i hn
        split_ifs
        · exact Nat.le_refl _
        · refine h.settled_set key _ ?_ ?_
          · rw [hn]
            simp
          · intro _
            by_contra hs
            exact absurd (ho .pending (by simpa [Changes.register] using hs)) (by decide)

lemma recorded_bounded (lg : List CallEvent) :
    (recorded lg).settled.length ≤ settledToolCallCap := by
  induction lg using List.reverseRecOn with
  | nil => exact Nat.zero_le _
  | append_singleton lg e ih =>
    rw [recorded,foldl_append]
    exact record_bounded (distinct_recorded lg) ih e

lemma Distinct.merge_stands (h : Distinct cs) (key gid : String) (hs : ch.status = some su) :
    ∃ p st, Stands (mergeToolCall cs key gid ch) p key st
      (registeredAfter cs key) ∧ st.status = su := by
  unfold mergeToolCall
  cases hf : cs.lookup key with
  | some old =>
    obtain ⟨p,q,hst⟩ := h.stands hf
    rw [hst.registeredAfter]
    refine ⟨p,_,hst.set _,?_⟩
    simp [Changes.apply,hs]
  | none =>
    dsimp only
    rw [registeredAfter_new hf,if_neg (by simp [Changes.isEmpty,hs])]
    refine ⟨cs,_,stands_set_new hf _,?_⟩
    simp [Changes.register,hs]

def Shows (calls : Calls) (key : String) (status : ToolCallStatus) : Prop :=
  ∃ state, calls.lookup key = some state ∧ state.status = status

lemma Distinct.update_shows_iff (h : Distinct cs) (gid : String)
    (hsta : ch.status = some su) (hs : su.settled = true) :
    Shows (updateToolCall cs key gid ch) key su ↔
      (registeredAfter cs key).settled.length < settledToolCallCap := by
  obtain ⟨p,st,hstan,hst⟩ := h.merge_stands key gid hsta
  have hp : (ch.status.any ToolCallStatus.settled) = true := by simp [hsta,hs]
  rw [← hst] at hs
  unfold updateToolCall Shows
  dsimp only
  rw [if_pos hp,hstan.lookup_pruneSettled hs]
  split_ifs with hm
  · simpa using hm
  · simpa [hst] using hm

end

def Settles (event : CallEvent) (key : String) (status : ToolCallStatus) : Prop :=
  status.settled = true ∧ ∃ agentId title, event = .update key agentId ⟨some status,title⟩

/-- For every history of starts and updates: each call that settles is then in the record with
the status it settled with, and the record never holds more than fifty settled calls, if and only if
each call that settles has, at that time, fewer than fifty settled calls registered after it. -/
theorem settled_kept_iff (history : List CallEvent) :
    ((∀ before event after key status, history = before ++ event :: after →
        Settles event key status → Shows (recorded (before ++ [event])) key status) ∧
      ∀ before after, history = before ++ after → (recorded before).settled.length ≤ 50) ↔
    ∀ before event after key status, history = before ++ event :: after →
      Settles event key status → (registeredAfter (recorded before) key).settled.length < 50 := by
  have hst : ∀ before event key status, Settles event key status →
      (Shows (recorded (before ++ [event])) key status ↔
        (registeredAfter (recorded before) key).settled.length < 50) := by
    rintro before _ key status ⟨hse,agentId,title,rfl⟩
    rw [recorded,foldl_append]
    exact (distinct_recorded before).update_shows_iff agentId rfl hse
  constructor
  · rintro ⟨hk,-⟩ before event after key status hh hs
    exact (hst before event key status hs).1 (hk before event after key status hh hs)
  · intro hro
    refine ⟨?_,fun before _ _ => recorded_bounded before⟩
    intro before event after key status hh hs
    exact (hst before event key status hs).2 (hro before event after key status hh hs)

/-- A call is registered, fifty others are registered and settle, and then it settles. -/
def lateSettlement : List CallEvent := .start "slow" "fetch" .fetch "agent" ::
    (List.range 50).map (fun n => .update (toString n) "agent" ⟨some .completed,none⟩) ++
      [.update "slow" "agent" ⟨some .completed,none⟩]

/-- The call that has just settled is not in the record. -/
theorem late_settlement_lost :
    Settles (.update "slow" "agent" ⟨some .completed,none⟩) "slow" .completed ∧
      ¬ Shows (recorded lateSettlement) "slow" .completed := by
  refine ⟨⟨rfl,"agent",none,rfl⟩,?_⟩
  rintro ⟨state,hf,-⟩
  have hl : (recorded lateSettlement).lookup "slow" = none := by decide +kernel
  rw [hl] at hf
  cases hf

end VaultspecA2A.SettledCalls
