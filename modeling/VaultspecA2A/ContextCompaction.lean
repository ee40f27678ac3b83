import Mathlib.Algebra.Order.Ring.Int
import Mathlib.Data.List.Basic

/-!
# Compaction of a conversation

A conversation over its token budget is cut to the system messages in front, the first human
message, a summary and the newest of the other messages. Tokens are estimated by characters,
rounded down; the budget is spent with the estimate of each message, so the estimate of what is
left may be over it. The number of characters to a token is a parameter.
-/
namespace VaultspecA2A.ContextCompaction
open List

inductive MessageKind
  | system
  | human
  | other
deriving DecidableEq, Repr

inductive Part
  | text (text : String)
  /-- A block of another kind, with the text it may have. -/
  | block (text : Option String)
deriving DecidableEq, Repr

inductive Content
  | text (text : String)
  | parts (parts : List Part)
deriving DecidableEq, Repr

structure Message where
  kind : MessageKind
  content : Content
deriving DecidableEq, Repr

def Part.chars : Part → ℕ
  | text words => words.length
  | block words => (words.getD "").length

def Message.chars (message : Message) : ℕ :=
  match message.content with
  | .text text => text.length
  | .parts parts => (parts.map Part.chars).sum

def isSystem (message : Message) : Bool := message.kind == .system

def isHuman (message : Message) : Bool := message.kind == .human

def summary : Message :=
  ⟨.human,.text ("[Context compacted: earlier conversation history removed to stay within the " ++
    "token budget. The core objective and recent working context are preserved.]")⟩

def summaryOverhead : ℕ := 50

/-- The system messages in front, the first human message, and the rest. -/
def splitPinnedMessages (messages : List Message) : List Message × Option Message × List Message :=
  let body := messages.dropWhile isSystem
  (messages.takeWhile isSystem,body.find? isHuman,body.eraseP isHuman)

section
variable (charsPerToken : ℕ)

def estimateTokens (messages : List Message) : ℕ := (messages.map Message.chars).sum / charsPerToken

/-- Walk back from the newest message until the budget is spent; one message is kept anyway. -/
def keepRecentMessages (budget : ℕ) : List Message → List Message → ℕ → List Message
  | [], kept, _ => kept
  | message :: older, kept, keptTokens =>
    if budget < keptTokens + estimateTokens charsPerToken [message] then
      if kept.isEmpty then [message] else kept
    else
      keepRecentMessages budget older (message :: kept)
        (keptTokens + estimateTokens charsPerToken [message])

def compactContext (messages : List Message) (maxTokens : ℤ) : List Message :=
  if messages.isEmpty ∨ estimateTokens charsPerToken messages ≤ maxTokens then messages
  else
    let (system,pinned,body) := splitPinnedMessages messages
    let budget := maxTokens - estimateTokens charsPerToken system -
      estimateTokens charsPerToken pinned.toList - summaryOverhead
    system ++ pinned.toList ++
      summary :: keepRecentMessages charsPerToken budget.toNat body.reverse [] 0

end

/-- What is kept is a run of the newest messages, and within the budget if the newest is. -/
lemma keepRecentMessages_spec (cpt budget : ℕ) (older kept : List Message) (tokens : ℕ) :
    ∃ n, keepRecentMessages cpt budget older kept tokens = (older.take n).reverse ++ kept ∧
      (kept = [] → ∀ m ∈ older.head?, m ∈ older.take n) ∧
      (tokens ≤ budget → (∀ m ∈ older.head?, kept = [] → tokens + estimateTokens cpt [m] ≤ budget) →
        tokens + ((older.take n).map fun m => estimateTokens cpt [m]).sum ≤ budget) := by
  induction older generalizing kept tokens with
  | nil => exact ⟨0,rfl,nofun,fun h _ => h⟩
  | cons m older ih =>
    rw [keepRecentMessages]
    split_ifs with hb hk
    · rw [List.isEmpty_iff] at hk
      exact ⟨1,by simp [hk],by simp,fun _ hf => absurd (hf m rfl hk) (by omega)⟩
    · exact ⟨0,rfl,fun h => absurd (List.isEmpty_iff.2 h) hk,fun h _ => h⟩
    · obtain ⟨n,hn,-,hs⟩ := ih (m :: kept) (tokens + estimateTokens cpt [m])
      refine ⟨n + 1,by simp [hn],by simp,?_⟩
      intro _ _
      have hs := hs (not_lt.1 hb) fun _ _ hc => by cases hc
      rw [take_succ_cons,map_cons,sum_cons]
      omega

section
variable {cpt : ℕ} {messages : List Message} {maxTokens : ℤ}

lemma find_human (messages : List Message) :
    (messages.dropWhile isSystem).find? isHuman = messages.find? isHuman := by
  induction messages with
  | nil => rfl
  | cons m ms ih =>
    rw [dropWhile_cons]
    split_ifs with hm
    · have hh : isHuman m = false := by
        rw [isHuman,eq_of_beq hm]
        rfl
      rw [ih,find?_cons,hh]
    · rfl

/-- The newest message is in front, pinned, or the newest of the rest. -/
lemma latest_cases (h : messages.getLast? = some latest) :
    latest ∈ messages.takeWhile isSystem ∨ messages.find? isHuman = some latest ∨
      ((messages.dropWhile isSystem).eraseP isHuman).getLast? = some latest := by
  rw [← find_human]
  have ha := takeWhile_append_dropWhile (p := isSystem) (l := messages)
  rw [← ha,getLast?_append] at h
  generalize messages.dropWhile isSystem = body at h ⊢
  rcases eq_nil_or_concat body with rfl | ⟨bs,m,rfl⟩
  · exact .inl (mem_of_getLast? h)
  · rw [concat_eq_append,getLast?_concat,Option.some_or,Option.some.injEq] at h
    subst h
    rw [concat_eq_append,find?_append]
    by_cases hb : ∃ x ∈ bs, isHuman x = true
    · obtain ⟨x,hx,hp⟩ := hb
      exact .inr (.inr (by rw [eraseP_append_left hp _ hx,getLast?_concat]))
    · have hb : ∀ x ∈ bs, ¬isHuman x = true := fun x hx hp => hb ⟨x,hx,hp⟩
      by_cases hm : isHuman m = true
      · exact .inr (.inl (by rw [find?_eq_none.2 hb]; simp [hm]))
      · rw [eraseP_append_right _ hb,eraseP_cons_of_neg hm]
        exact .inr (.inr getLast?_concat)

end

end VaultspecA2A.ContextCompaction
