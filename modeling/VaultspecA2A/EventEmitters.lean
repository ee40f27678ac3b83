import VaultspecA2A.Debounce
import VaultspecA2A.RunLiveState
import VaultspecA2A.Runs
import Mathlib.Algebra.Order.Group.Int

/-!
# The worker's event producer

Each event of a run takes the next number of the run when it is built. Most events are then
broadcast at once. Updates of a tool call and of a run's plan are debounced: one that comes too
soon after the last is held, and a timer broadcasts it later under the number it already has. An
update of a tool call changes the worker's record of the call when it is emitted, whether it is
broadcast then or not.

The emitters do not let go of the loop between the decision and the broadcast or the hold, so each
emission is one step. A timer is a step at any time at which its wait is over.
-/
namespace VaultspecA2A.EventEmitters
open Runs PyValue Debounce RunLiveState List

structure ToolCallStart where
  threadId : String
  agentId : String
  toolCallId : String
  title : String
  kind : ToolKind := .other
  content : List Value := []

structure ToolCallUpdate where
  threadId : String
  agentId : String
  toolCallId : String
  changes : Changes
  content : Option (List Value) := none
  locations : Option (List Value) := none

structure PlanUpdate where
  threadId : String
  entries : List Value

inductive DomainEvent
  | toolCallStart (event : ToolCallStart)
  | toolCallUpdate (event : ToolCallUpdate)
  | planUpdate (event : PlanUpdate)
  /-- An event of any other kind. -/
  | other (threadId : String)

structure SequencedEvent where
  event : DomainEvent
  sequence : ℕ

structure Settings (T : Type*) where
  toolCallDebounce : T
  planUpdateDebounce : T
  debounceMapMaxEntries : ℕ := 1000

section
variable {T : Type*}

def Settings.toolPolicy (settings : Settings T) : Policy T where
  interval := settings.toolCallDebounce
  timerEach := false
  maxEntries := some settings.debounceMapMaxEntries

def Settings.planPolicy (settings : Settings T) : Policy T where
  interval := settings.planUpdateDebounce
  timerEach := true

structure Producer (T : Type*) where
  sequences : String → ℕ := fun _ => 0
  /-- The worker's record of the tool calls of each run. -/
  calls : String → Calls := fun _ => []
  /-- The updates of tool calls, by run and call. -/
  tools : Debouncer (String × String) SequencedEvent T := {}
  plans : Debouncer String SequencedEvent T := {}
  /-- What was broadcast, in order. -/
  broadcasts : List SequencedEvent := []

def Producer.next (p : Producer T) (threadId : String) : ℕ := p.sequences threadId + 1

def nextSequence (p : Producer T) (threadId : String) : Producer T :=
  { p with sequences := Function.update p.sequences threadId (p.next threadId) }

def broadcast (p : Producer T) (event : Option SequencedEvent) : Producer T :=
  { p with broadcasts := p.broadcasts ++ event.toList }

def emitOther (p : Producer T) (threadId : String) : Producer T :=
  broadcast (nextSequence p threadId) (some ⟨.other threadId,p.next threadId⟩)

def emitToolCallStart (p : Producer T) (event : ToolCallStart) : Producer T :=
  let started := startToolCall (p.calls event.threadId) event.toolCallId event.title event.kind
    event.agentId
  broadcast
    { nextSequence p event.threadId with calls := Function.update p.calls event.threadId started }
    (some ⟨.toolCallStart event,p.next event.threadId⟩)

variable [AddGroup T] [LinearOrder T] (settings : Settings T)

def emitToolCallUpdate (p : Producer T) (event : ToolCallUpdate) (now : T) : Producer T :=
  let updated := updateToolCall (p.calls event.threadId) event.toolCallId event.agentId event.changes
  let debounced := emits settings.toolPolicy p.tools (event.threadId,event.toolCallId)
    ⟨.toolCallUpdate event,p.next event.threadId⟩ now
  broadcast
    { nextSequence p event.threadId with
      calls := Function.update p.calls event.threadId updated
      tools := debounced.1 }
    debounced.2

def emitPlanUpdate (p : Producer T) (event : PlanUpdate) (now : T) : Producer T :=
  let debounced := emits settings.planPolicy p.plans event.threadId
    ⟨.planUpdate event,p.next event.threadId⟩ now
  broadcast { nextSequence p event.threadId with plans := debounced.1 } debounced.2

def broadcastDebouncedToolUpdate (p : Producer T) (key : String × String) (started now : T) :
    Producer T :=
  let fired := fires settings.toolPolicy p.tools key started now
  broadcast { p with tools := fired.1 } fired.2

def broadcastDebouncedPlanUpdate (p : Producer T) (threadId : String) (started now : T) :
    Producer T :=
  let fired := fires settings.planPolicy p.plans threadId started now
  broadcast { p with plans := fired.1 } fired.2

def pruneToolDebounce (p : Producer T) (threadId : String) : Producer T :=
  { p with
    tools := forgets p.tools fun key => key.1 == threadId
    plans := forgets p.plans fun key => key == threadId }

inductive Action (T : Type*)
  | other (threadId : String)
  | toolCallStart (event : ToolCallStart)
  | toolCallUpdate (event : ToolCallUpdate) (now : T)
  | planUpdate (event : PlanUpdate) (now : T)
  | toolTimer (key : String × String) (started now : T)
  | planTimer (threadId : String) (started now : T)
  | prune (threadId : String)

def step (p : Producer T) : Action T → Producer T
  | .other threadId => emitOther p threadId
  | .toolCallStart event => emitToolCallStart p event
  | .toolCallUpdate event now => emitToolCallUpdate settings p event now
  | .planUpdate event now => emitPlanUpdate settings p event now
  | .toolTimer key started now => broadcastDebouncedToolUpdate settings p key started now
  | .planTimer threadId started now => broadcastDebouncedPlanUpdate settings p threadId started now
  | .prune threadId => pruneToolDebounce p threadId

end

def DomainEvent.updateKey : DomainEvent → Option (String × String)
  | .toolCallUpdate event => some (event.threadId,event.toolCallId)
  | _ => none

def DomainEvent.planKey : DomainEvent → Option String
  | .planUpdate event => some event.threadId
  | _ => none

def numbersOf {K : Type*} [DecidableEq K] (keyOf : DomainEvent → Option K) (key : K)
    (broadcasts : List SequencedEvent) : List ℕ :=
  (broadcasts.filter fun sent => keyOf sent.event = some key).map SequencedEvent.sequence

section
variable {K : Type*} [DecidableEq K] {ko : DomainEvent → Option K}

lemma numbersOf_append (br mo : List SequencedEvent) : numbersOf ko key (br ++ mo) =
    numbersOf ko key br ++ numbersOf ko key mo := by
  unfold numbersOf
  rw [filter_append,map_append]

lemma numbersOf_own (h : ∀ se, e = some se → ko se.event = some key) :
    numbersOf ko key e.toList = (e.map SequencedEvent.sequence).toList := by
  cases e with
  | none => rfl
  | some se => simp [numbersOf,h se rfl]

lemma numbersOf_none (h : ∀ se, e = some se → ko se.event ≠ some key) :
    numbersOf ko key e.toList = [] := by
  cases e with
  | none => rfl
  | some se => simp [numbersOf,h se rfl]

end

/-- The debounced events of one kind: what is held belongs to its key, and the numbers broadcast
under the key are followed. -/
structure Numbered {K T : Type*} [DecidableEq K] (keyOf : DomainEvent → Option K)
    (threadOf : K → String) (d : Debouncer K SequencedEvent T) (broadcasts : List SequencedEvent)
    (sequences : String → ℕ) : Prop where
  holds : Holds (fun key sent => keyOf sent.event = some key) d
  tracks : ∀ key, Tracks SequencedEvent.sequence d key (numbersOf keyOf key broadcasts)
    (sequences (threadOf key))

section
variable {K T : Type*} [DecidableEq K] {ko : DomainEvent → Option K} {tho : K → String}
 {d : Debouncer K SequencedEvent T} {br : List SequencedEvent} {sq : String → ℕ}

lemma le_update_next (sq : String → ℕ) (tid o : String) :
    sq o ≤ Function.update sq tid (sq tid + 1) o := by
  by_cases h : o = tid
  · rw [h,Function.update_self]
    exact Nat.le_succ _
  · rw [Function.update_of_ne h]

lemma Numbered.unrelated (h : Numbered ko tho d br sq)
    (hev : ∀ se, e = some se → ko se.event = none)
    (hse : ∀ tid, sq tid ≤ sn tid) :
    Numbered ko tho d (br ++ e.toList) sn ∧ ∀ key, (numbersOf ko key br).Pairwise (· < ·) →
        ((numbersOf ko key (br ++ e.toList)).Pairwise (· < ·) ↔ True) := by
  have hn : ∀ key, numbersOf ko key (br ++ e.toList) = numbersOf ko key br := by
    intro key
    rw [numbersOf_append,numbersOf_none,append_nil]
    intro se hs
    rw [hev se hs]
    exact (Option.some_ne_none key).symm
  refine ⟨⟨h.holds,fun key => ?_⟩,fun key ho => ?_⟩
  · rw [hn]
    exact (h.tracks key).kept rfl rfl (hse _)
  · rw [hn]
    exact iff_of_true ho trivial

variable [AddGroup T] [LinearOrder T] {po : Policy T} {now st : T}

lemma emits_sent (ko : DomainEvent → Option K) (h : ko se.event = some k) :
    ∀ out, (emits po d k se now).2 = some out → ko out.event = some k := by
  intro out ho
  rcases emits_cases po d k se now with ⟨-,hs,-⟩ | ⟨-,hs,-⟩
  · rw [hs,Option.some.injEq] at ho
    rw [← ho]
    exact h
  · rw [hs] at ho
    cases ho

lemma Numbered.fires_sent (h : Numbered ko tho d br sq) :
    ∀ out, (fires po d k st now).2 = some out → ko out.event = some k := by
  intro out ho
  rcases fires_cases po d k st now with ⟨-,hs⟩ | ⟨-,hse,-⟩
  · rw [hs] at ho
    cases ho
  · exact h.holds k out (hse.symm.trans ho)

lemma Numbered.emits (h : Numbered ko tho d br sq)
    (hke : ko se.event = some k) (hs : se.sequence = sq (tho k) + 1) :
    Numbered ko tho (emits po d k se now).1 (br ++ (Debounce.emits po d k se now).2.toList)
        (Function.update sq (tho k) (sq (tho k) + 1)) ∧
      ∀ key, (numbersOf ko key br).Pairwise (· < ·) → ((numbersOf ko key
        (br ++ (Debounce.emits po d k se now).2.toList)).Pairwise (· < ·) ↔ True) := by
  have ho : ∀ out, (Debounce.emits po d k se now).2 = some out →
      ko out.event = some k := emits_sent ko hke
  have hot : ∀ key, key ≠ k → numbersOf ko key (Debounce.emits po d k se now).2.toList = [] := by
    intro key hk
    refine numbersOf_none fun out hse => ?_
    rw [ho out hse,Ne,Option.some.injEq]
    exact Ne.symm hk
  have hn : sq (tho k) < se.sequence := by
    rw [hs]
    exact Nat.lt_succ_self _
  refine ⟨⟨h.holds.emits hke,fun key => ?_⟩,fun key hor => ?_⟩
  all_goals
    rw [numbersOf_append]
    by_cases hk : key = k
  · subst hk
    rw [numbersOf_own ho,Function.update_self,← hs]
    exact (h.tracks key).emits hn
  · rw [hot key hk,append_nil]
    exact (h.tracks key).emits_other hk (le_update_next _ _ _)
  · subst hk
    rw [numbersOf_own ho]
    exact iff_of_true ((h.tracks key).emits_ordered hn hor) trivial
  · rw [hot key hk,append_nil]
    exact iff_of_true hor trivial

/-- A timer leaves them in order exactly if it sends nothing that was overtaken. -/
lemma Numbered.fires (h : Numbered ko tho d br sq) (k : K) :
    Numbered ko tho (fires po d k st now).1 (br ++ (Debounce.fires po d k st now).2.toList) sq ∧
      ∀ key, (numbersOf ko key br).Pairwise (· < ·) → ((numbersOf ko key
        (br ++ (Debounce.fires po d k st now).2.toList)).Pairwise (· < ·) ↔
          (k = key → Due po d k st now → d.pending k ≠ none → d.overtaken k = false)) := by
  have hot : ∀ key, key ≠ k → numbersOf ko key (Debounce.fires po d k st now).2.toList = [] := by
    intro key hk
    refine numbersOf_none fun out hs => ?_
    rw [h.fires_sent out hs,Ne,Option.some.injEq]
    exact Ne.symm hk
  refine ⟨⟨h.holds.fires,fun key => ?_⟩,fun key ho => ?_⟩
  all_goals
    rw [numbersOf_append]
    by_cases hk : key = k
  · subst hk
    rw [numbersOf_own h.fires_sent]
    exact (h.tracks key).fires
  · rw [hot key hk,append_nil]
    exact (h.tracks key).fires_other hk
  · subst hk
    rw [numbersOf_own h.fires_sent,(h.tracks key).fires_ordered_iff ho]
    exact ⟨fun hc _ => hc,fun hc => hc rfl⟩
  · rw [hot key hk,append_nil]
    exact iff_of_true ho fun hs => (hk hs.symm).elim

end

section
variable {T : Type*}

structure Sound (p : Producer T) : Prop where
  tools : Numbered DomainEvent.updateKey Prod.fst p.tools p.broadcasts p.sequences
  plans : Numbered DomainEvent.planKey id p.plans p.broadcasts p.sequences

lemma planKey_none {e : DomainEvent} (h : e.updateKey = some key) : e.planKey = none := by
  cases e with
  | planUpdate e => cases h
  | _ => rfl

lemma updateKey_none {e : DomainEvent} (h : e.planKey = some tid) : e.updateKey = none := by
  cases e with
  | toolCallUpdate e => cases h
  | _ => rfl

lemma sound_init : Sound ({} : Producer T) := by
  constructor
  all_goals
    refine ⟨?_,fun _ => ⟨fun _ hm => (not_mem_nil hm).elim,?_⟩⟩
    · intro _ _ hn
      cases hn
    · intro _ hn
      cases hn

def InOrder {K : Type*} [DecidableEq K] (keyOf : DomainEvent → Option K) (key : K)
    (p : Producer T) : Prop :=
  (numbersOf keyOf key p.broadcasts).Pairwise (· < ·)

variable [AddGroup T] [LinearOrder T] {settings cf : Settings T} {p : Producer T} {action ac : Action T}

/-- No timer sends an update of the call that was overtaken. -/
def ToolTimely (settings : Settings T) (key : String × String) (p : Producer T) : Action T → Prop
  | .toolTimer k started now => k = key → Due settings.toolPolicy p.tools k started now →
      p.tools.pending k ≠ none → p.tools.overtaken k = false
  | _ => True

/-- No timer sends a plan of the run that was overtaken. -/
def PlanTimely (settings : Settings T) (threadId : String) (p : Producer T) : Action T → Prop
  | .planTimer k started now => k = threadId → Due settings.planPolicy p.plans k started now →
      p.plans.pending k ≠ none → p.plans.overtaken k = false
  | _ => True

lemma step_tools (h : Sound p) (ac : Action T) :
    Numbered DomainEvent.updateKey Prod.fst (step cf p ac).tools
        (step cf p ac).broadcasts (step cf p ac).sequences ∧
      ∀ key, InOrder DomainEvent.updateKey key p →
        (InOrder DomainEvent.updateKey key (step cf p ac) ↔ ToolTimely cf key p ac) := by
  cases ac with
  | other tid =>
    refine h.tools.unrelated ?_ (le_update_next _ _)
    rintro _ ⟨⟩
    rfl
  | toolCallStart e =>
    refine h.tools.unrelated ?_ (le_update_next _ _)
    rintro _ ⟨⟩
    rfl
  | toolCallUpdate e now => exact h.tools.emits rfl rfl
  | planUpdate e now =>
    refine h.tools.unrelated ?_ (le_update_next _ _)
    exact fun se hs => updateKey_none (emits_sent DomainEvent.planKey rfl se hs)
  | toolTimer k st now => exact h.tools.fires k
  | planTimer tid st now =>
    refine h.tools.unrelated ?_ (fun _ => Nat.le_refl _)
    exact fun se hs => updateKey_none (h.plans.fires_sent se hs)
  | prune tid =>
    refine ⟨⟨h.tools.holds,fun key => ?_⟩,fun key ho => iff_of_true ho trivial⟩
    exact ⟨(h.tools.tracks key).sent,(h.tools.tracks key).held⟩

lemma step_plans (h : Sound p) (ac : Action T) :
    Numbered DomainEvent.planKey id (step cf p ac).plans
        (step cf p ac).broadcasts (step cf p ac).sequences ∧
      ∀ tid, InOrder DomainEvent.planKey tid p → (InOrder DomainEvent.planKey tid (step cf p ac) ↔
          PlanTimely cf tid p ac) := by
  cases ac with
  | other tid =>
    refine h.plans.unrelated ?_ (le_update_next _ _)
    rintro _ ⟨⟩
    rfl
  | toolCallStart e =>
    refine h.plans.unrelated ?_ (le_update_next _ _)
    rintro _ ⟨⟩
    rfl
  | toolCallUpdate e now =>
    refine h.plans.unrelated ?_ (le_update_next _ _)
    exact fun se hs => planKey_none (emits_sent DomainEvent.updateKey rfl se hs)
  | planUpdate e now => exact h.plans.emits rfl rfl
  | toolTimer key st now =>
    refine h.plans.unrelated ?_ (fun _ => Nat.le_refl _)
    exact fun se hs => planKey_none (h.tools.fires_sent se hs)
  | planTimer k st now => exact h.plans.fires k
  | prune tid =>
    refine ⟨⟨h.plans.holds,fun key => ?_⟩,fun key ho => iff_of_true ho trivial⟩
    exact ⟨(h.plans.tracks key).sent,(h.plans.tracks key).held⟩

lemma Sound.step (h : Sound p) (ac : Action T) : Sound (step cf p ac) :=
  ⟨(step_tools h ac).1,(step_plans h ac).1⟩

lemma foldl_sound (cf : Settings T) (act : List (Action T)) : Sound (act.foldl (step cf) {}) := by
  induction act using List.reverseRecOn with
  | nil => exact sound_init
  | append_singleton act ac ih =>
    rw [foldl_append]
    exact ih.step ac

/-- Over every history the updates of a call, and the plans of a run, are broadcast in the order
of their numbers exactly if no timer sends one after which another was sent directly. -/
theorem updates_in_order_iff (settings : Settings T) (actions : List (Action T)) :
    (∀ key : String × String, (∀ before after, actions = before ++ after →
        InOrder DomainEvent.updateKey key (before.foldl (step settings) {})) ↔
      ∀ before action after, actions = before ++ action :: after →
        ToolTimely settings key (before.foldl (step settings) {}) action) ∧
    ∀ threadId : String, (∀ before after, actions = before ++ after →
        InOrder DomainEvent.planKey threadId (before.foldl (step settings) {})) ↔
      ∀ before action after, actions = before ++ action :: after →
        PlanTimely settings threadId (before.foldl (step settings) {}) action := by
  constructor
  · intro key
    refine invariant_throughout_iff (InOrder DomainEvent.updateKey key)
      (ToolTimely settings key) List.Pairwise.nil fun before action after _ ho => ?_
    exact (step_tools (foldl_sound settings before) action).2 key ho
  · intro threadId
    refine invariant_throughout_iff (InOrder DomainEvent.planKey threadId)
      (PlanTimely settings threadId) List.Pairwise.nil fun before action after _ ho => ?_
    exact (step_plans (foldl_sound settings before) action).2 threadId ho

end

def milliseconds : Settings ℤ where
  toolCallDebounce := 100
  planUpdateDebounce := 250

/-- Three updates of one call: the second comes too soon and is held, the third comes when the
interval is over and the timer of the second is not. -/
def overtaking : List (Action ℤ) :=
  let update : ToolCallUpdate :=
    { threadId := "t", agentId := "a", toolCallId := "c", changes := { status := some .inProgress } }
  [.toolCallUpdate update 1000,.toolCallUpdate update 1050,.toolCallUpdate update 1100,
    .toolTimer ("t","c") 1050 1150]

def overtakingPlans : List (Action ℤ) :=
  [.planUpdate ⟨"t",[]⟩ 1000,.planUpdate ⟨"t",[]⟩ 1050,.planUpdate ⟨"t",[]⟩ 1250,
    .planTimer "t" 1050 1300]

theorem held_update_follows_newer : numbersOf DomainEvent.updateKey ("t","c")
      (overtaking.foldl (step milliseconds) {}).broadcasts = [1,3,2] ∧
    ¬ InOrder DomainEvent.updateKey ("t","c") (overtaking.foldl (step milliseconds) {}) ∧
    ¬ InOrder DomainEvent.planKey "t" (overtakingPlans.foldl (step milliseconds) {}) := by
  have ht : numbersOf DomainEvent.updateKey ("t","c")
      (overtaking.foldl (step milliseconds) {}).broadcasts = [1,3,2] := by decide
  have hp : numbersOf DomainEvent.planKey "t"
      (overtakingPlans.foldl (step milliseconds) {}).broadcasts = [1,3,2] := by decide
  refine ⟨ht,?_,?_⟩
  · rw [InOrder,ht]
    decide
  · rw [InOrder,hp]
    decide

end VaultspecA2A.EventEmitters
