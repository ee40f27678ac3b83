import VaultspecA2A.PermissionOptions
import VaultspecA2A.StarGraph
import Mathlib.Data.List.InsertIdx

/-!
# What a parked run asks, and who hears of it

When a turn of a run ends at an interrupt, the worker reads the run's state back and
broadcasts a frame for every open question that it has not broadcast yet. Which ones it has
is remembered in one map from request ids to runs. A permission request is put into the map
when its frame goes out, in the place of the run's other requests; an answer does not take it
out again, and a clarification is never in it.

A worker holds several runs at a time. Turns of different runs overlap, and a projection pauses
between two questions, so the steps below are single questions. How old an entry of the map is
comes with the step that prunes it.
-/
namespace VaultspecA2A.Disclosures
open PyValue PermissionOptions Runs List Option Function
open StarGraph (namedRequestId)

/-- A question of a parked run: the task that asked and what it asked. -/
structure LiveInterrupt where
  taskName : String
  payload : Option Value

structure InterruptEmission where
  threadId : String
  agentId : String
  requestId : String
  interruptType : InterruptType
  payload : Value

def interruptTypes : List InterruptType :=
  [.permissionRequest,.planApprovalRequest,.documentApprovalRequest,.clarificationRequest]

def interruptEmission (threadId : String) (interrupt : LiveInterrupt) : Option InterruptEmission :=
  interrupt.payload.bind fun payload =>
    ((payload.get "type").bind Value.text?).bind fun named =>
      (interruptTypes.find? fun known => known.value == named).bind fun interruptType =>
        (namedRequestId payload).map fun requestId =>
          ⟨threadId,interrupt.taskName,requestId,interruptType,payload⟩

inductive FrameBody
  | clarificationPending
  | permissionRequest (description toolCall : String)
deriving DecidableEq, Repr

structure Frame where
  threadId : String
  agentId : String
  requestId : String
  body : FrameBody
deriving DecidableEq, Repr

def payloadText (payload : Value) (key default : String) : String :=
  (payload.getStr key).getD default

def planApprovalType : String := "plan_approval"

def planApprovalBody (payload : Value) : FrameBody :=
  let feature := payloadText payload "feature" "unknown"
  let planPaths := ((payload.get "plan_paths").bind Value.items?).getD []
  let execWorker := payloadText payload "exec_worker" "unknown"
  let planSummary :=
    if planPaths.isEmpty then "no plan documents"
    else toString planPaths.length ++ " plan document(s)"
  .permissionRequest ("Approve plan for feature '" ++ feature ++ "' before routing to " ++
    execWorker ++ " (" ++ planSummary ++ ")") planApprovalType

def documentApprovalBody (payload : Value) : FrameBody :=
  let phase := payloadText payload "phase" "document"
  let feature := payloadText payload "feature" "unknown"
  .permissionRequest ("Approve the " ++ phase ++ " document for feature '" ++ feature ++
    "' before the run proceeds") planApprovalType

def toolPermissionBody (payload : Value) : FrameBody :=
  let toolName := payloadText payload "tool_name" "unknown"
  .permissionRequest ("Permission required: " ++ toolName) toolName

def InterruptEmission.body (emission : InterruptEmission) : FrameBody :=
  match emission.interruptType with
  | .clarificationRequest => .clarificationPending
  | .planApprovalRequest => planApprovalBody emission.payload
  | .documentApprovalRequest => documentApprovalBody emission.payload
  | .permissionRequest => toolPermissionBody emission.payload

def InterruptEmission.isPermission (emission : InterruptEmission) : Bool :=
  emission.interruptType != .clarificationRequest

structure EventEmitters where
  /-- Request ids and the runs whose frames they went out with. -/
  pendingPermissions : List (String × String) := []
  broadcast : List Frame := []

namespace EventEmitters
variable (emitters : EventEmitters)

def hasPendingPermission (requestId : String) : Bool :=
  emitters.pendingPermissions.any fun entry => entry.1 == requestId

/-- The request takes the place of the other ones of its run. -/
def replaceThreadPendingPermission (threadId requestId : String) : EventEmitters :=
  { emitters with
    pendingPermissions := (emitters.pendingPermissions.filter fun entry =>
        entry.2 ≠ threadId ∧ entry.1 ≠ requestId) ++ [(requestId,threadId)] }

def expireThreadPermissions (threadId : String) : EventEmitters :=
  { emitters with
    pendingPermissions := emitters.pendingPermissions.filter fun entry => entry.2 ≠ threadId }

def pruneStalePermissions (aged heldThreadIds : List String) : EventEmitters :=
  { emitters with
    pendingPermissions := emitters.pendingPermissions.filter fun entry =>
      ¬(entry.1 ∈ aged ∧ entry.2 ∉ heldThreadIds) }

def send (frame : Frame) : EventEmitters :=
  { emitters with broadcast := emitters.broadcast ++ [frame] }

def emitInterrupt (emission : InterruptEmission) : EventEmitters :=
  let frame := ⟨emission.threadId,emission.agentId,emission.requestId,emission.body⟩
  match emission.interruptType with
  | .clarificationRequest => emitters.send frame
  | _ => (emitters.replaceThreadPendingPermission emission.threadId emission.requestId).send frame

def project (threadId : String) (interrupt : LiveInterrupt) : EventEmitters :=
  match interruptEmission threadId interrupt with
  | none => emitters
  | some emission =>
    if emitters.hasPendingPermission emission.requestId then emitters
    else emitters.emitInterrupt emission

end EventEmitters

/-- An open question, and how many frames had been broadcast when it was raised. -/
structure Asked where
  interrupt : LiveInterrupt
  raisedAt : ℕ

structure RunState where
  asked : List Asked := []
  /-- How far the projection at the end of the turn has come; none before it, and none when
  the state could not be read. -/
  next : Option ℕ := none

structure Worker where
  emitters : EventEmitters := {}
  runs : String → RunState := fun _ => {}
  activeIngests : List String := []
  parkedThreads : List String := []

inductive Label
  | starts (run : String)
  | answers (run : String) (index : ℕ)
  | raises (run : String) (index : ℕ) (interrupt : LiveInterrupt)
  | parks (run : String) (readable : Bool)
  | projects (run : String)
  /-- The turn is over and the run waits. -/
  | markParked (run : String) (aged : List String)
  /-- The turn was the last one of the run. -/
  | markTerminal (run : String) (aged : List String)
  /-- What is held for the run is let go of outside a turn: the run is over, or only a
  dispatch was refused before it ran. -/
  | release (run : String) (ended : Bool)

namespace Worker
variable (w : Worker) (run : String)

def setRun (state : RunState) : Worker := { w with runs := Function.update w.runs run state }

def projectNext : Worker :=
  match (w.runs run).next.bind fun index => (w.runs run).asked[index]?.map fun asked =>
      (index,asked) with
  | none => w
  | some (index,asked) =>
    { w.setRun run { (w.runs run) with next := some (index + 1) } with
      emitters := w.emitters.project run asked.interrupt }

def heldThreadIds (parked : List String) : List String := w.activeIngests.filter (· ≠ run) ++ parked

def markParked (aged : List String) : Worker :=
  let parkedThreads := w.parkedThreads.insert run
  { w with
    emitters := w.emitters.pruneStalePermissions aged (w.heldThreadIds run parkedThreads)
    activeIngests := w.activeIngests.filter (· ≠ run)
    parkedThreads }

def markTerminal (aged : List String) : Worker :=
  let parkedThreads := w.parkedThreads.filter (· ≠ run)
  { w.setRun run {} with
    emitters := (w.emitters.expireThreadPermissions run).pruneStalePermissions aged
      (w.heldThreadIds run parkedThreads)
    activeIngests := w.activeIngests.filter (· ≠ run)
    parkedThreads }

end Worker

def step (w : Worker) : Label → Worker
  | .starts run =>
    { w.setRun run { (w.runs run) with next := none } with
      activeIngests := w.activeIngests.insert run }
  | .answers run index =>
    w.setRun run { (w.runs run) with asked := (w.runs run).asked.eraseIdx index }
  | .raises run index interrupt =>
    w.setRun run { (w.runs run) with
      asked := (w.runs run).asked.insertIdx index ⟨interrupt,w.emitters.broadcast.length⟩ }
  | .parks run readable =>
    w.setRun run { (w.runs run) with next := if readable then some 0 else none }
  | .projects run => w.projectNext run
  | .markParked run aged => w.markParked run aged
  | .markTerminal run aged => w.markTerminal run aged
  | .release run ended =>
    { w.setRun run (if ended then {} else w.runs run) with
      emitters := w.emitters.expireThreadPermissions run }

/-- Questions are raised and answered while a turn goes on, and before its projection. -/
def Proper (w : Worker) : Label → Prop
  | .answers run _ => (w.runs run).next = none
  | .raises run _ _ => (w.runs run).next = none
  | _ => True

def Moves (w : Worker) (l : Label) (w' : Worker) : Prop := Proper w l ∧ w' = step w l

def framesSince (broadcast : List Frame) (run requestId : String) (raisedAt : ℕ) : ℕ :=
  (broadcast.drop raisedAt).countP fun frame =>
    frame.threadId == run && frame.requestId == requestId

def Worker.frames (w : Worker) (run requestId : String) (asked : Asked) : ℕ :=
  framesSince w.emitters.broadcast run requestId asked.raisedAt

/-- Every open question the projection has passed has had a frame, and no open permission
question has had two. -/
structure Lawful (w : Worker) : Prop where
  shown : ∀ run index, (w.runs run).next = some index →
    ∀ asked ∈ (w.runs run).asked.take index, ∀ emission,
      interruptEmission run asked.interrupt = some emission →
        0 < w.frames run emission.requestId asked
  once : ∀ run, ∀ asked ∈ (w.runs run).asked, ∀ emission,
    interruptEmission run asked.interrupt = some emission → emission.isPermission = true →
      w.frames run emission.requestId asked ≤ 1

/-- The map is right about the question whose turn it is: the request is not in it if the
asking had no frame yet, and is in it if a permission question of the run that is open under
this id had one. -/
def Told (w : Worker) : Label → Prop
  | .projects run => ∀ index asked emission, (w.runs run).next = some index →
      (w.runs run).asked[index]? = some asked →
      interruptEmission run asked.interrupt = some emission →
      (w.frames run emission.requestId asked = 0 →
        w.emitters.hasPendingPermission emission.requestId = false) ∧
      ∀ other ∈ (w.runs run).asked, ∀ named, interruptEmission run other.interrupt = some named →
          named.requestId = emission.requestId → named.isPermission = true →
            0 < w.frames run emission.requestId other →
              w.emitters.hasPendingPermission emission.requestId = true
  | _ => True

variable {o : String}

section
variable {w w' : Worker} {run rid : String} {asked ak : Asked} {ra index ix : ℕ}
variable {broadcast : List Frame} {em : InterruptEmission} {l : Label}

lemma framesSince_append (h : ra ≤ broadcast.length) :
    framesSince (broadcast ++ [fr]) run rid ra = framesSince broadcast run rid ra +
        if fr.threadId = run ∧ fr.requestId = rid then 1 else 0 := by
  unfold framesSince
  rw [drop_append_of_le_length h,countP_append,countP_singleton]
  simp only [Bool.and_eq_true,beq_iff_eq]

lemma emitInterrupt_broadcast (et : EventEmitters) :
    ∃ fr, (et.emitInterrupt em).broadcast = et.broadcast ++ [fr] ∧
      fr.threadId = em.threadId ∧ fr.requestId = em.requestId := by
  unfold EventEmitters.emitInterrupt
  cases em.interruptType <;> exact ⟨_,rfl,rfl,rfl⟩

lemma interruptEmission_thread (h : interruptEmission run it = some em) : em.threadId = run := by
  unfold interruptEmission at h
  simp only [bind_eq_some_iff,map_eq_some_iff] at h
  obtain ⟨pl,-,na,-,ki,-,rid,-,rfl⟩ := h
  rfl

def Timely (w : Worker) : Prop :=
  ∀ run, ∀ asked ∈ (w.runs run).asked, asked.raisedAt ≤ w.emitters.broadcast.length

/-- A step of one run that broadcasts nothing: its projection begins, or is not gone on with,
and its open questions were open before or are raised just now. -/
structure Quiet (w w' : Worker) (run : String) (state : RunState) : Prop where
  broadcast : w'.emitters.broadcast = w.emitters.broadcast
  runs : w'.runs = Function.update w.runs run state
  next : ∀ index, state.next = some index → index = 0 ∨ state = w.runs run
  asked : ∀ asked ∈ state.asked, asked ∈ (w.runs run).asked ∨
    asked.raisedAt = w.emitters.broadcast.length

lemma Quiet.frames (hq : Quiet w w' run st) (o rid : String) (ak : Asked) :
    w'.frames o rid ak = w.frames o rid ak := by
  rw [Worker.frames,Worker.frames,hq.broadcast]

lemma Quiet.lawful (hq : Quiet w w' run st) (h : Lawful w) : Lawful w' := by
  constructor
  · intro o ix hn ak hm em hem
    rw [hq.frames]
    rw [hq.runs] at hn hm
    by_cases hs : o = run
    · subst hs
      rw [update_self] at hn hm
      rcases hq.next ix hn with rfl | hst
      · rw [take_zero] at hm
        exact (not_mem_nil hm).elim
      · rw [hst] at hn hm
        exact h.shown o ix hn ak hm em hem
    · rw [update_of_ne hs] at hn hm
      exact h.shown o ix hn ak hm em hem
  · intro o ak hm em hem hp
    rw [hq.frames]
    rw [hq.runs] at hm
    by_cases hs : o = run
    · subst hs
      rw [update_self] at hm
      rcases hq.asked ak hm with hold | hnew
      · exact h.once o ak hold em hem hp
      · rw [Worker.frames,framesSince,hnew,drop_length]
        exact Nat.zero_le 1
    · rw [update_of_ne hs] at hm
      exact h.once o ak hm em hem hp

lemma Quiet.timely (hq : Quiet w w' run st) (h : Timely w) : Timely w' := by
  intro o ak hm
  rw [hq.broadcast]
  rw [hq.runs] at hm
  by_cases hs : o = run
  · subst hs
    rw [update_self] at hm
    rcases hq.asked ak hm with hold | hn
    · exact h o ak hold
    · exact Nat.le_of_eq hn
  · rw [update_of_ne hs] at hm
    exact h o ak hm

lemma step_quiet (hp : Proper w l) (hl : ∀ run, l ≠ .projects run) :
    ∃ run st, Quiet w (step w l) run st := by
  cases l with
  | starts run => exact ⟨run,_,rfl,rfl,fun _ h => (by cases h),fun _ h => .inl h⟩
  | answers run ix =>
    refine ⟨run,_,rfl,rfl,?_,fun _ h => .inl (mem_of_mem_eraseIdx h)⟩
    intro i hi
    have hn : (w.runs run).next = none := hp
    rw [hn] at hi
    cases hi
  | raises run ix it =>
    refine ⟨run,_,rfl,rfl,?_,?_⟩
    · intro i hi
      have hn : (w.runs run).next = none := hp
      rw [hn] at hi
      cases hi
    · intro ak hm
      rcases eq_or_mem_of_mem_insertIdx hm with rfl | hold
      · exact .inr rfl
      · exact .inl hold
  | parks run re =>
    refine ⟨run,_,rfl,rfl,?_,fun _ h => .inl h⟩
    intro i hi
    cases re with
    | true =>
      cases hi
      exact .inl rfl
    | false => cases hi
  | projects run => exact (hl run rfl).elim
  | markParked run ag =>
    exact ⟨run,w.runs run,rfl,(update_eq_self run w.runs).symm,fun _ _ => .inr rfl,
      fun _ h => .inl h⟩
  | markTerminal run ag =>
    exact ⟨run,_,rfl,rfl,fun _ h => (by cases h),fun _ h => (not_mem_nil h).elim⟩
  | release run en =>
    refine ⟨run,_,rfl,rfl,?_,?_⟩
    · intro i hi
      cases en with
      | true => cases hi
      | false => exact .inr rfl
    · intro ak hm
      cases en with
      | true => exact (not_mem_nil hm).elim
      | false => exact .inl hm

/-- The projection of a run has come to a question. -/
structure Reaches (w : Worker) (run : String) (index : ℕ) (asked : Asked) : Prop where
  next : (w.runs run).next = some index
  asked : (w.runs run).asked[index]? = some asked

/-- The projection has gone on by one question; the map and the frames are another matter. -/
def Passed (w w' : Worker) (run : String) (index : ℕ) : Prop :=
  w'.runs = Function.update w.runs run { (w.runs run) with next := some (index + 1) }

lemma step_projects (h : Reaches w run ix ak) : Passed w (step w (.projects run)) run ix ∧
    (step w (.projects run)).emitters = w.emitters.project run ak.interrupt := by
  have hn : w.projectNext run =
      { w.setRun run { (w.runs run) with next := some (ix + 1) } with
        emitters := w.emitters.project run ak.interrupt } := by
    unfold Worker.projectNext
    simp only [h.next,bind_some,h.asked,map_some]
  rw [step,hn]
  exact ⟨rfl,rfl⟩

lemma Passed.stillOpen (h : Passed w w' run ix) (o : String) :
    (w'.runs o).asked = (w.runs o).asked := by
  rw [h]
  by_cases hs : o = run
  · subst hs
    rw [update_self]
  · rw [update_of_ne hs]

lemma Passed.shown (h : Passed w w' run ix) (hre : Reaches w run ix ak)
    (hn : (w'.runs o).next = some ne) (ha : a ∈ (w'.runs o).asked.take ne) :
    (∃ p, (w.runs o).next = some p ∧ a ∈ (w.runs o).asked.take p) ∨ o = run ∧ a = ak := by
  rw [h.stillOpen] at ha
  rw [h] at hn
  by_cases hs : o = run
  · subst hs
    rw [update_self] at hn
    cases hn
    rw [take_add_one,hre.asked,toList_some] at ha
    rcases mem_append.1 ha with hold | hnew
    · exact .inl ⟨ix,hre.next,hold⟩
    · exact .inr ⟨rfl,mem_singleton.1 hnew⟩
  · rw [update_of_ne hs] at hn
    exact .inl ⟨ne,hn,ha⟩

lemma Passed.just (h : Passed w w' run ix) (hre : Reaches w run ix ak) :
    (w'.runs run).next = some (ix + 1) ∧ ak ∈ (w'.runs run).asked.take (ix + 1) := by
  constructor
  · rw [h,update_self]
  · rw [h.stillOpen,take_add_one,hre.asked]
    exact mem_append_right _ (mem_singleton.2 rfl)

lemma Passed.lawful_silent (hp : Passed w w' run ix) (h : Lawful w) (hre : Reaches w run ix ak)
    (hbr : w'.emitters.broadcast = w.emitters.broadcast) :
    Lawful w' ↔ ∀ em, interruptEmission run ak.interrupt = some em →
      0 < w.frames run em.requestId ak := by
  have hf : ∀ o rid a, w'.frames o rid a = w.frames o rid a := by
    intro o rid a
    rw [Worker.frames,Worker.frames,hbr]
  constructor
  · intro h' em hem
    obtain ⟨hn,hm⟩ := hp.just hre
    rw [← hf]
    exact h'.shown run (ix + 1) hn ak hm em hem
  · intro hs
    constructor
    · intro o next hn a ha em hem
      rw [hf]
      rcases hp.shown hre hn ha with ⟨p,hb,hold⟩ | ⟨rfl,rfl⟩
      · exact h.shown o p hb a hold em hem
      · exact hs em hem
    · intro o a ha em hem hpe
      rw [hf]
      rw [hp.stillOpen] at ha
      exact h.once o a ha em hem hpe

lemma Passed.lawful_sent (hp : Passed w w' run ix) (h : Lawful w) (hti : Timely w)
    (hre : Reaches w run ix ak)
    (hem : interruptEmission run ak.interrupt = some em)
    (hbr : w'.emitters.broadcast = w.emitters.broadcast ++ [fr])
    (ht : fr.threadId = run) (hreq : fr.requestId = em.requestId) :
    Lawful w' ↔ ∀ o ∈ (w.runs run).asked, ∀ na,
      interruptEmission run o.interrupt = some na → na.requestId = em.requestId →
        na.isPermission = true → w.frames run em.requestId o = 0 := by
  have hf : ∀ o rid a, a ∈ (w.runs o).asked → w'.frames o rid a = w.frames o rid a +
        if o = run ∧ rid = em.requestId then 1 else 0 := by
    intro o rid a ha
    rw [Worker.frames,Worker.frames,hbr,framesSince_append (hti o a ha),ht,hreq]
    simp only [eq_comm]
  constructor
  · intro h' o ho na hn hid hpe
    have hon := h'.once run o (by rw [hp.stillOpen]; exact ho) na hn hpe
    rw [hid,hf run _ o ho,if_pos ⟨rfl,rfl⟩] at hon
    omega
  · intro hfi
    constructor
    · intro o next hnex a ha na hn
      have hop : a ∈ (w.runs o).asked := by
        rw [← hp.stillOpen o]
        exact mem_of_mem_take ha
      rw [hf o _ a hop]
      rcases hp.shown hre hnex ha with ⟨p,hb,hold⟩ | ⟨rfl,rfl⟩
      · exact Nat.add_pos_left (h.shown o p hb a hold na hn) _
      · rw [hn] at hem
        cases hem
        rw [if_pos ⟨rfl,rfl⟩]
        exact Nat.succ_pos _
    · intro o a ha na hn hpe
      rw [hp.stillOpen] at ha
      rw [hf o _ a ha]
      split_ifs with hs
      · obtain ⟨rfl,hid⟩ := hs
        rw [hid,hfi a ha na hn hid hpe]
      · exact h.once o a ha na hn hpe

lemma Passed.timely (hp : Passed w w' run ix) (ht : Timely w)
    (hl : w.emitters.broadcast.length ≤ w'.emitters.broadcast.length) : Timely w' := by
  intro o a ha
  rw [hp.stillOpen] at ha
  exact Nat.le_trans (ht o a ha) hl

lemma project_length (et : EventEmitters) (it : LiveInterrupt) :
    et.broadcast.length ≤ (et.project run it).broadcast.length := by
  unfold EventEmitters.project
  split
  · exact Nat.le_refl _
  · rename_i em _
    split_ifs
    · exact Nat.le_refl _
    · obtain ⟨fr,heq,-,-⟩ := @emitInterrupt_broadcast em et
      rw [heq,length_append]
      exact Nat.le_add_right _ _

/-- From a lawful state a question of the projection leads to a lawful one exactly when the
map is right about it. -/
lemma projects_lawful_iff (h : Lawful w) (hti : Timely w) (hre : Reaches w run ix ak) :
    Lawful (step w (.projects run)) ↔ Told w (.projects run) := by
  obtain ⟨hpa,hemi⟩ := step_projects hre
  have hto : Told w (.projects run) ↔ ∀ em, interruptEmission run ak.interrupt = some em →
      (w.frames run em.requestId ak = 0 → w.emitters.hasPendingPermission em.requestId = false) ∧
      ∀ o ∈ (w.runs run).asked, ∀ na, interruptEmission run o.interrupt = some na →
          na.requestId = em.requestId → na.isPermission = true → 0 < w.frames run em.requestId o →
              w.emitters.hasPendingPermission em.requestId = true := by
    constructor
    · intro hal em hem
      exact hal ix ak em hre.next hre.asked hem
    · intro hal i a em hi ha hem
      rw [hre.next] at hi
      cases hi
      rw [hre.asked] at ha
      cases ha
      exact hal em hem
  rw [hto]
  cases hem : interruptEmission run ak.interrupt with
  | none =>
    have hs : w.emitters.project run ak.interrupt = w.emitters := by
      rw [EventEmitters.project,hem]
    rw [hs] at hemi
    rw [hpa.lawful_silent h hre (by rw [hemi]),hem]
    exact iff_of_true (fun _ h => by cases h) (fun _ h => by cases h)
  | some em =>
    cases hp : w.emitters.hasPendingPermission em.requestId with
    | true =>
      have hs : w.emitters.project run ak.interrupt = w.emitters := by
        rw [EventEmitters.project,hem]
        exact if_pos hp
      rw [hs] at hemi
      rw [hpa.lawful_silent h hre (by rw [hemi]),hem]
      constructor
      · rintro hsh _ ⟨⟩
        refine ⟨fun hz => ?_,fun _ _ _ _ _ _ _ => hp⟩
        exact absurd hz (Nat.ne_of_gt (hsh em rfl))
      · rintro hal _ ⟨⟩
        refine Nat.pos_of_ne_zero fun hz => ?_
        rw [(hal em rfl).1 hz] at hp
        cases hp
    | false =>
      have hse : w.emitters.project run ak.interrupt = w.emitters.emitInterrupt em := by
        rw [EventEmitters.project,hem]
        exact if_neg (by rw [hp]; exact Bool.false_ne_true)
      rw [hse] at hemi
      obtain ⟨fr,hfr,ht,hreq⟩ := @emitInterrupt_broadcast em w.emitters
      rw [interruptEmission_thread hem] at ht
      rw [hpa.lawful_sent h hti hre hem (by rw [hemi,hfr]) ht hreq]
      constructor
      · rintro hf _ ⟨⟩
        refine ⟨fun _ => hp,?_⟩
        intro o ho na hn hid hpe hpo
        rw [hf o ho na hn hid hpe] at hpo
        cases hpo
      · intro hal o ho na hn hid hpe
        refine Nat.eq_zero_of_not_pos fun hpo => ?_
        rw [(hal em rfl).2 o ho na hn hid hpe hpo] at hp
        cases hp

lemma projectNext_same (h : ∀ ix ak, ¬Reaches w run ix ak) : w.projectNext run = w := by
  unfold Worker.projectNext
  cases hn : (w.runs run).next with
  | none => rfl
  | some ix =>
    cases ha : (w.runs run).asked[ix]? with
    | none => simp only [bind_some,ha,map_none]
    | some ak => exact (h ix ak ⟨hn,ha⟩).elim

lemma step_timely (ht : Timely w) (hpr : Proper w l) : Timely (step w l) := by
  by_cases hl : ∃ run, l = .projects run
  · obtain ⟨run,rfl⟩ := hl
    by_cases hre : ∃ ix ak, Reaches w run ix ak
    · obtain ⟨ix,ak,hre⟩ := hre
      obtain ⟨hp,hem⟩ := step_projects hre
      refine hp.timely ht ?_
      rw [hem]
      exact project_length _ _
    · rw [step,projectNext_same fun ix ak hr => hre ⟨ix,ak,hr⟩]
      exact ht
  · obtain ⟨run,st,hq⟩ := step_quiet hpr (fun run heq => hl ⟨run,heq⟩)
    exact hq.timely ht

lemma step_lawful_iff (h : Lawful w) (ht : Timely w) (hp : Proper w l) :
    Lawful (step w l) ↔ Told w l := by
  by_cases hl : ∃ run, l = .projects run
  · obtain ⟨run,rfl⟩ := hl
    by_cases hre : ∃ ix ak, Reaches w run ix ak
    · obtain ⟨ix,ak,hre⟩ := hre
      exact projects_lawful_iff h ht hre
    · rw [step,projectNext_same fun ix ak hr => hre ⟨ix,ak,hr⟩]
      refine iff_of_true h ?_
      intro ix ak em hn ha _
      exact (hre ⟨ix,ak,hn,ha⟩).elim
  · obtain ⟨run,st,hq⟩ := step_quiet hp (fun run heq => hl ⟨run,heq⟩)
    refine iff_of_true (hq.lawful h) ?_
    cases l with
    | projects run => exact (hl ⟨run,rfl⟩).elim
    | _ => trivial

lemma run_foldl (hru : Run Moves w ls w') : w' = ls.foldl step w := by
  induction hru with
  | done _ => rfl
  | step hm _ ih => rw [foldl_cons,ih,hm.2]

lemma run_timely (hru : Run Moves {} ls w) : Timely w := by
  refine hru.invariant Timely ?_ (fun _ _ hm => (not_mem_nil hm).elim)
  rintro w l w' ht ⟨hp,rfl⟩
  exact step_timely ht hp

end

def permissionQuestion (requestId : String) : LiveInterrupt :=
  ⟨"coder",some (.dict [(.str "type",.str "permission_request"),
    (.str "request_id",.str requestId)])⟩

def askedOnce : List Label :=
  [.starts "first",.raises "first" 0 (permissionQuestion "perm-1"),.parks "first" true,
    .projects "first",.markParked "first" []]

def askedAgain : List Label := askedOnce ++ [.starts "first",.answers "first" 0,
    .raises "first" 0 (permissionQuestion "perm-1"),.parks "first" true,.projects "first"]

def askedElsewhere : List Label :=
  askedOnce ++ [.starts "second",.raises "second" 0 (permissionQuestion "perm-1"),
    .parks "second" true,.projects "second"]

/-- A second question is asked beside the first, and both stay open. -/
def askedBeside : List Label := [.starts "first",.raises "first" 0 (permissionQuestion "perm-1"),
    .raises "first" 1 (permissionQuestion "perm-2"),.parks "first" true,.projects "first",
    .projects "first",.markParked "first" [],.starts "first",.parks "first" true,
    .projects "first"]

lemma askedOnce_run : Run Moves {} askedOnce (askedOnce.foldl step {}) :=
  .step ⟨trivial,rfl⟩ (.step ⟨rfl,rfl⟩ (.step ⟨trivial,rfl⟩ (.step ⟨trivial,rfl⟩
    (.single ⟨trivial,rfl⟩))))

end VaultspecA2A.Disclosures
