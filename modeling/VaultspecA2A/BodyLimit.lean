import VaultspecA2A.PyJson
import VaultspecA2A.Runs

/-!
# The bound on request bodies

The gateway and the worker put one middleware before their applications. It reads the declared
length of every write, receives the body message by message while it counts the bytes, and hands
the application one message that holds the whole body. A declaration that cannot be read is a bad
request; one above the allowance, or a body above it, is too large.

Bytes are lists of octets. A header may come more than once, and the numbers are those of Python:
the conversion of a text of digits to an integer refuses more than 4300 of them.
-/
namespace VaultspecA2A.BodyLimit
open PyText PyJson Runs List

abbrev Bytes := List UInt8

def ascii (cs : List Char) : Bytes := cs.map fun c => UInt8.ofNat c.toNat

def lowerByte (b : UInt8) : UInt8 := if 65 ≤ b ∧ b ≤ 90 then b + 32 else b

def isdigit (value : Bytes) : Bool :=
  !value.isEmpty && value.all fun b => decide (48 ≤ b) && decide (b ≤ 57)

def digitsValue (value : Bytes) : ℕ := value.foldl (fun n b => 10 * n + (b.toNat - 48)) 0

def intMaxStrDigits : ℕ := 4300

structure ValueError where
  digits : ℕ
deriving DecidableEq, Repr

def int (value : Bytes) : Except ValueError ℕ :=
  if intMaxStrDigits < value.length then .error ⟨value.length⟩ else .ok (digitsValue value)

inductive ScopeType
  | http
  | websocket
  | lifespan
deriving DecidableEq, Repr

structure Scope where
  type : ScopeType
  method : Option String := none
  path : Option String := none
  headers : Option (List (Bytes × Bytes)) := none
deriving DecidableEq, Repr

abbrev Limit := Scope → ℕ × String

structure BodyLimitSettings where
  internalMaxHttpBodyBytes : ℕ
  internalMaxEventBatchBytes : ℕ
deriving DecidableEq, Repr

def maxV1WriteBodyBytes : ℕ := 1024 * 1024

def unreadableLengthDetail : String :=
  "Content-Length must be a single non-negative decimal integer"

def workerBodyLimit (settings : BodyLimitSettings) : Limit := fun _ =>
  let maxBytes := settings.internalMaxHttpBodyBytes
  (maxBytes,"Internal request body exceeds " ++ toString maxBytes ++ " bytes")

def dispatchEnvelopeBudget (settings : BodyLimitSettings) : ℕ := settings.internalMaxHttpBodyBytes

def gatewayBodyLimit (settings : BodyLimitSettings) : Limit := fun scope =>
  let path := scope.path.getD ""
  if startsWith path "/v1/" then
    (maxV1WriteBodyBytes,"v1 request body exceeds " ++ toString maxV1WriteBodyBytes ++ " bytes")
  else if rstrip '/' path = "/internal/events/batch" then
    let maxBytes := settings.internalMaxEventBatchBytes
    (maxBytes,"Payload too large (max " ++ toString maxBytes ++ " bytes)")
  else workerBodyLimit settings scope

structure DeclaredLength where
  value : Option ℕ
  readable : Bool := true
deriving DecidableEq, Repr

def isContentLength (name : Bytes) : Bool :=
  decide (name.map lowerByte = ascii "content-length".toList)

def contentLengthFrom : Option ℕ → List (Bytes × Bytes) → Except ValueError DeclaredLength
  | declared, [] => .ok ⟨declared,true⟩
  | declared, (name,value) :: headers =>
    if ¬ isContentLength name then contentLengthFrom declared headers
    else if ¬ isdigit value then .ok ⟨none,false⟩
    else do
      let length ← int value
      if declared.any fun d => decide (length ≠ d) then .ok ⟨none,false⟩
      else contentLengthFrom (some length) headers

def contentLength (scope : Scope) : Except ValueError DeclaredLength :=
  contentLengthFrom none (scope.headers.getD [])

inductive Message
  | disconnect
  | request (body : Option Bytes) (moreBody : Option Bool)
deriving DecidableEq, Repr

structure Response where
  status : ℕ
  headers : List (Bytes × Bytes)
  body : Bytes
deriving DecidableEq, Repr

def detailJson (detail : String) : List Char :=
  openBrace :: (writeString "detail" ++ [':',' '] ++ writeString detail ++ [closeBrace])

def reject (detail : String) (status : ℕ := 413) : Response :=
  let body := ascii (detailJson detail)
  { status := status
    headers := [(ascii "content-type".toList,ascii "application/json".toList),
        (ascii "content-length".toList,ascii (decimal body.length))]
    body := body }

/-- What becomes of a request: the application is called and receives the messages, it is
answered here, the middleware raises, or it waits for the next message. -/
inductive Outcome
  | handed (receive : List Message)
  | refused (response : Response)
  | raised (error : ValueError)
  | waiting
deriving DecidableEq, Repr

inductive Round
  | disconnected
  | overflow
  | more (body : Bytes)
  | complete (body : Bytes)
deriving DecidableEq, Repr

def receiveRound (maxBytes : ℕ) (body : Bytes) : Message → Round
  | .disconnect => .disconnected
  | .request chunk moreBody =>
    let chunk := chunk.getD []
    if maxBytes < body.length + chunk.length then .overflow
    else if moreBody.getD false then .more (body ++ chunk)
    else .complete (body ++ chunk)

/-- `replay` yields the message once and then what the server delivers. -/
def replay (message : Message) (upstream : List Message) : List Message := message :: upstream

def readBody (maxBytes : ℕ) (detail : String) : Bytes → List Message → Outcome
  | _, [] => .waiting
  | body, message :: rest =>
    match receiveRound maxBytes body message with
    | .disconnected => .handed (replay message rest)
    | .overflow => .refused (reject detail)
    | .more body => readBody maxBytes detail body rest
    | .complete body => .handed (replay (.request (some body) (some false)) rest)

def isBoundedWrite (scope : Scope) : Bool :=
  decide (scope.type = .http) &&
    scope.method.any fun method => decide (method ∈ ["POST","PUT","PATCH","DELETE"])

def call (limit : Limit) (scope : Scope) (receive : List Message) : Outcome :=
  if ¬ isBoundedWrite scope then .handed receive
  else
    let (maxBytes,detail) := limit scope
    match contentLength scope with
    | .error error => .raised error
    | .ok declared =>
      if ¬ declared.readable then .refused (reject unreadableLengthDetail 400)
      else if declared.value.any fun length => decide (maxBytes < length) then
        .refused (reject detail)
      else readBody maxBytes detail [] receive

def declarations (headers : List (Bytes × Bytes)) : List Bytes :=
  (headers.filter fun header => isContentLength header.1).map Prod.snd

/-- All values are decimal and state one number, the declared one if there is one. -/
def Settled (declared : Option ℕ) (values : List Bytes) : Prop :=
  (∀ value ∈ values, isdigit value = true) ∧
    ∃ n, (∀ d ∈ declared, d = n) ∧ ∀ value ∈ values, digitsValue value = n

/-- A value has more digits than `int` takes, and nothing before it stops the reading. -/
def Overlong (declared : Option ℕ) (values : List Bytes) : Prop :=
  ∃ before value after, values = before ++ value :: after ∧ isdigit value = true ∧
    intMaxStrDigits < value.length ∧ Settled declared before

section
variable {declared de : Option ℕ} {values vs : List Bytes}

lemma settled_nil : Settled de [] := by
  refine ⟨by simp,de.getD 0,?_,by simp⟩
  intro d hd
  rw [Option.mem_def.1 hd]
  rfl

lemma settled_cons (hdig : isdigit value = true) (ha : ∀ d ∈ de, d = digitsValue value) :
    Settled de (value :: vs) ↔ Settled (some (digitsValue value)) vs := by
  constructor
  · rintro ⟨hdi,n,hde,hva⟩
    have hn : digitsValue value = n := hva value (by simp)
    refine ⟨fun v hv => hdi v (by simp [hv]),n,?_,fun v hv => hva v (by simp [hv])⟩
    simpa using hn
  · rintro ⟨hdi,n,hde,hva⟩
    have hn : digitsValue value = n := hde _ rfl
    refine ⟨?_,n,fun d hd => (ha d hd).trans hn,?_⟩
    · simpa [hdig] using hdi
    · simpa [hn] using hva

lemma overlong_cons (hd : isdigit value = true) (hsh : value.length ≤ intMaxStrDigits)
    (ha : ∀ d ∈ de, d = digitsValue value) :
    Overlong de (value :: vs) ↔ Overlong (some (digitsValue value)) vs := by
  constructor
  · rintro ⟨p,lo,q,hs,hlo,hl,hse⟩
    cases p with
    | nil =>
      rw [nil_append,List.cons.injEq] at hs
      rw [← hs.1] at hl
      omega
    | cons first p =>
      rw [cons_append,List.cons.injEq] at hs
      rw [← hs.1] at hse
      exact ⟨p,lo,q,hs.2,hlo,hl,(settled_cons hd ha).1 hse⟩
  · rintro ⟨p,lo,q,rfl,hlo,hl,hse⟩
    exact ⟨value :: p,lo,q,rfl,hlo,hl,(settled_cons hd ha).2 hse⟩

/-- A first value that cannot be settled ends the reading, whatever comes behind it. -/
lemma not_overlong_cons (hsh : isdigit value = true → value.length ≤ intMaxStrDigits)
    (hu : ∀ vs, ¬ Settled de (value :: vs)) :
    ¬ Overlong de (value :: vs) := by
  rintro ⟨p,lo,q,hs,hl,hle,hse⟩
  cases p with
  | nil =>
    rw [nil_append,List.cons.injEq] at hs
    rw [← hs.1] at hl hle
    have := hsh hl
    omega
  | cons first p =>
    rw [cons_append,List.cons.injEq] at hs
    rw [← hs.1] at hse
    exact hu p hse

lemma not_overlong_of_short (h : ∀ value ∈ vs, value.length ≤ intMaxStrDigits) :
    ¬ Overlong de vs := by
  rintro ⟨p,lo,q,rfl,-,hl,-⟩
  have := h lo (by simp)
  omega

/-- What reading the declarations gives: an error, the one number they state, or that they
cannot be read. -/
inductive Declares (declared : Option ℕ) (values : List Bytes) :
    Except ValueError DeclaredLength → Prop
  | raises (error : ValueError) (overlong : Overlong declared values) :
      Declares declared values (.error error)
  | settles (short : ¬ Overlong declared values) (settled : Settled declared values) :
      Declares declared values (.ok ⟨(values.head?.map digitsValue).or declared,true⟩)
  | conflicts (short : ¬ Overlong declared values) (unsettled : ¬ Settled declared values) :
      Declares declared values (.ok ⟨none,false⟩)

lemma Declares.cons (h : Declares (some (digitsValue value)) vs re) (hd : isdigit value = true)
    (hs : value.length ≤ intMaxStrDigits) (ha : ∀ d ∈ de, d = digitsValue value) :
    Declares de (value :: vs) re := by
  cases h with
  | raises er ho =>
    exact .raises er ((overlong_cons hd hs ha).2 ho)
  | settles hno hse =>
    have hsa : (vs.head?.map digitsValue).or (some (digitsValue value)) =
        ((value :: vs).head?.map digitsValue).or de := by
      obtain ⟨-,n,hde,hv⟩ := hse
      have hn : digitsValue value = n := hde _ rfl
      cases vs with
      | nil => rfl
      | cons first vs => simp [hv first (by simp),hn]
    rw [hsa]
    exact .settles (mt (overlong_cons hd hs ha).1 hno) ((settled_cons hd ha).2 hse)
  | conflicts hno hu =>
    exact .conflicts (mt (overlong_cons hd hs ha).1 hno) (mt (settled_cons hd ha).1 hu)

lemma contentLengthFrom_declares (headers : List (Bytes × Bytes)) (de : Option ℕ) :
    Declares de (declarations headers) (contentLengthFrom de headers) := by
  induction headers generalizing de with
  | nil =>
    have hs : ¬ Overlong de [] := by
      rintro ⟨p,lo,q,hsp,-⟩
      simp at hsp
    exact .settles hs settled_nil
  | cons header headers ih =>
    obtain ⟨na,value⟩ := header
    unfold contentLengthFrom
    by_cases hn : isContentLength na = true
    · have hv : declarations ((na,value) :: headers) = value :: declarations headers := by
        simp [declarations,hn]
      rw [hv,if_neg (by simp [hn])]
      by_cases hdi : isdigit value = true
      · rw [if_neg (by simp [hdi]),int]
        by_cases hl : intMaxStrDigits < value.length
        · rw [if_pos hl]
          exact .raises _ ⟨[],value,_,rfl,hdi,hl,settled_nil⟩
        · rw [if_neg hl]
          have hs : value.length ≤ intMaxStrDigits := Nat.le_of_not_lt hl
          show Declares _ _ (if _ then _ else _)
          split_ifs with hdif
          · have hu : ∀ vs, ¬ Settled de (value :: vs) := by
              rintro vs ⟨-,n,hde,hv⟩
              obtain ⟨d,hd,hne⟩ := (Option.any_eq_true _ _).1 hdif
              have hva := hv value (by simp)
              have hd := hde d hd
              exact of_decide_eq_true hne (hva.trans hd.symm)
            exact .conflicts (not_overlong_cons (fun _ => hs) hu) (hu _)
          · have ha : ∀ d ∈ de, d = digitsValue value := by
              intro d hd
              by_contra hne
              apply hdif
              rw [Option.mem_def.1 hd]
              exact decide_eq_true (Ne.symm hne)
            exact (ih (some (digitsValue value))).cons hdi hs ha
      · rw [if_pos hdi]
        have hu : ∀ vs, ¬ Settled de (value :: vs) := by
          intro vs hse
          exact hdi (hse.1 value (by simp))
        exact .conflicts (not_overlong_cons (fun h => (hdi h).elim) hu)
          (hu _)
    · have hv : declarations ((na,value) :: headers) = declarations headers := by
        simp [declarations,hn]
      rw [hv,if_pos (by simp [hn])]
      exact ih de

end

/-- How a request ends: with the last message of its body, with a disconnect, or not yet.
The messages behind the end are still to be received. -/
inductive Ending
  | complete (rest : List Message)
  | disconnected (rest : List Message)
  | unfinished
deriving DecidableEq, Repr

/-- The bytes of a request up to its end, however they were cut into messages. -/
structure Received where
  body : Bytes
  ending : Ending
deriving DecidableEq, Repr

def received : List Message → Received
  | [] => ⟨[],.unfinished⟩
  | .disconnect :: rest => ⟨[],.disconnected rest⟩
  | .request chunk moreBody :: rest =>
    if moreBody.getD false then ⟨chunk.getD [] ++ (received rest).body,(received rest).ending⟩
    else ⟨chunk.getD [],.complete rest⟩

def decideBody (maxBytes : ℕ) (detail : String) (request : Received) : Outcome :=
  if maxBytes < request.body.length then .refused (reject detail)
  else
    match request.ending with
    | .complete rest => .handed (.request (some request.body) (some false) :: rest)
    | .disconnected rest => .handed (.disconnect :: rest)
    | .unfinished => .waiting

variable {maxBytes mb : ℕ}

lemma readBody_eq (de : String) (messages : List Message) (hb : bo.length ≤ mb) :
    readBody mb de bo messages =
      decideBody mb de ⟨bo ++ (received messages).body,(received messages).ending⟩ := by
  induction messages generalizing bo with
  | nil =>
    have hh : ¬ mb < bo.length := by omega
    simp [readBody,received,decideBody,hh]
  | cons m r ih =>
    cases m with
    | disconnect =>
      have hh : ¬ mb < bo.length := by omega
      simp [readBody,receiveRound,replay,received,decideBody,hh]
    | request ch mob =>
      by_cases ho : mb < bo.length + (ch.getD []).length
      · have hl : mb < (bo ++ (received (.request ch mob :: r)).body).length := by
          rw [received]
          split_ifs
          · simp only [length_append]
            omega
          · simpa using ho
        rw [decideBody,if_pos hl,readBody,receiveRound,if_pos ho]
      · rw [readBody,receiveRound,received,if_neg ho]
        split_ifs with hm
        · have hh : (bo ++ ch.getD []).length ≤ mb := by
            rw [length_append]
            omega
          simpa using ih hh
        · simp [decideBody,ho,replay]

def Reads (maxBytes : ℕ) (body : Bytes) (message : Message) (body' : Bytes) : Prop :=
  receiveRound maxBytes body message = .more body'

lemma reads_bounded (h : Reads mb bo m bd) : bd.length ≤ mb := by
  unfold Reads receiveRound at h
  cases m with
  | disconnect => cases h
  | request ch mob =>
    dsimp only at h
    split_ifs at h with ho
    cases h
    rw [length_append]
    omega

lemma run_reads_bounded (h : Run (Reads mb) [] messages bo) : bo.length ≤ mb :=
  h.invariant (fun bo => bo.length ≤ mb) (fun _ hs => reads_bounded hs) (by simp)

/-- Two declarations disagree or one is not decimal. -/
def Unreadable (values : List Bytes) : Prop := (∃ value ∈ values, isdigit value = false) ∨
    ∃ first ∈ values, ∃ second ∈ values, digitsValue first ≠ digitsValue second

def DeclaredAbove (maxBytes : ℕ) (values : List Bytes) : Prop :=
  ∃ value ∈ values, maxBytes < digitsValue value

lemma settled_none_iff : Settled none vs ↔ ¬ Unreadable vs := by
  constructor
  · rintro ⟨hd,n,-,hva⟩ hu
    rcases hu with ⟨value,hv,hn⟩ | ⟨first,hf,second,hse,hne⟩
    · rw [hd value hv] at hn
      cases hn
    · exact hne ((hva first hf).trans (hva second hse).symm)
  · intro hre
    unfold Unreadable at hre
    push Not at hre
    obtain ⟨hd,hs⟩ := hre
    refine ⟨fun value hv => by simpa using hd value hv,?_⟩
    cases vs with
    | nil => exact ⟨0,by simp,by simp⟩
    | cons first vs =>
      exact ⟨digitsValue first,by simp,fun value hv => hs value hv first (by simp)⟩

lemma declaredAbove_iff (h : ¬ Unreadable vs) : DeclaredAbove mb vs ↔
    ((vs.head?.map digitsValue).any fun le => decide (mb < le)) = true := by
  unfold Unreadable at h
  push Not at h
  cases vs with
  | nil => simp [DeclaredAbove]
  | cons first vs =>
    constructor
    · rintro ⟨value,hv,ha⟩
      rw [h.2 value hv first (by simp)] at ha
      simpa using ha
    · intro ha
      exact ⟨first,by simp,by simpa using ha⟩

def Scope.declarations (scope : Scope) : List Bytes :=
  BodyLimit.declarations (scope.headers.getD [])

section
variable (limit : Limit) (scope : Scope) (messages : List Message)

inductive Answers : Outcome → Prop
  | raises (error : ValueError) (overlong : Overlong none scope.declarations) :
      Answers (.raised error)
  | badRequest (short : ¬ Overlong none scope.declarations)
      (unreadable : Unreadable scope.declarations) :
      Answers (.refused (reject unreadableLengthDetail 400))
  | tooLarge (short : ¬ Overlong none scope.declarations)
      (readable : ¬ Unreadable scope.declarations)
      (above : DeclaredAbove (limit scope).1 scope.declarations) :
      Answers (.refused (reject (limit scope).2))
  | decides (short : ¬ Overlong none scope.declarations)
      (readable : ¬ Unreadable scope.declarations)
      (within : ¬ DeclaredAbove (limit scope).1 scope.declarations) :
      Answers (decideBody (limit scope).1 (limit scope).2 (received messages))

lemma call_answers (hw : isBoundedWrite scope = true) :
    Answers limit scope messages (call limit scope messages) := by
  have hd : Declares none scope.declarations (contentLength scope) :=
    contentLengthFrom_declares _ none
  unfold call
  rw [if_neg (by simp [hw])]
  generalize contentLength scope = re at hd
  cases hd with
  | raises er ho => exact .raises er ho
  | conflicts hs hu =>
    rw [settled_none_iff,not_not] at hu
    exact .badRequest hs hu
  | settles hs hse =>
    have hre := settled_none_iff.1 hse
    by_cases ha : DeclaredAbove (limit scope).1 scope.declarations
    · have han := (declaredAbove_iff hre).1 ha
      simpa [han] using Answers.tooLarge hs hre ha
    · have han := mt (declaredAbove_iff hre).2 ha
      have hrea : readBody (limit scope).1 (limit scope).2 [] messages =
          decideBody (limit scope).1 (limit scope).2 (received messages) :=
        readBody_eq _ _ (by simp)
      simpa [han,hrea] using Answers.decides hs hre ha

variable {limit scope messages}

lemma Answers.eq_badRequest (h : Answers limit scope messages oc)
    (hs : ¬ Overlong none scope.declarations) (hu : Unreadable scope.declarations) :
    oc = .refused (reject unreadableLengthDetail 400) := by
  cases h with
  | raises _ ho => exact (hs ho).elim
  | badRequest => rfl
  | tooLarge _ hre => exact (hre hu).elim
  | decides _ hre => exact (hre hu).elim

lemma Answers.eq_tooLarge (h : Answers limit scope messages oc)
    (hs : ¬ Overlong none scope.declarations) (hre : ¬ Unreadable scope.declarations)
    (ha : DeclaredAbove (limit scope).1 scope.declarations) :
    oc = .refused (reject (limit scope).2) := by
  cases h with
  | raises _ ho => exact (hs ho).elim
  | badRequest _ hu => exact (hre hu).elim
  | tooLarge => rfl
  | decides _ _ hw => exact (hw ha).elim

lemma Answers.eq_decides (h : Answers limit scope messages oc)
    (hs : ¬ Overlong none scope.declarations) (hre : ¬ Unreadable scope.declarations)
    (hw : ¬ DeclaredAbove (limit scope).1 scope.declarations) :
    oc = decideBody (limit scope).1 (limit scope).2 (received messages) := by
  cases h with
  | raises _ ho => exact (hs ho).elim
  | badRequest _ hu => exact (hre hu).elim
  | tooLarge _ _ ha => exact (hw ha).elim
  | decides => rfl

lemma Answers.eq_raised (h : Answers limit scope messages oc)
    (ho : Overlong none scope.declarations) : ∃ er, oc = .raised er := by
  cases h with
  | raises er => exact ⟨er,rfl⟩
  | badRequest hs => exact (hs ho).elim
  | tooLarge hs => exact (hs ho).elim
  | decides hs => exact (hs ho).elim

variable (limit scope messages)

/-- The messages that bring the same bytes and the same end are answered alike. -/
lemma call_unchunked (hw : isBoundedWrite scope = true) (h : received ot = received messages) :
    call limit scope ot = call limit scope messages := by
  have hre : ∀ mb de, readBody mb de [] ot = readBody mb de [] messages := by
    intro mb de
    rw [readBody_eq de ot (by simp),readBody_eq de messages (by simp),h]
  unfold call
  rw [if_neg (by simp [hw]),if_neg (by simp [hw])]
  simp only [hre]

end

def Message.size : Message → ℕ
  | .disconnect => 0
  | .request body _ => (body.getD []).length

/-- A write is bounded. Its body is handed on whole where the declared length and the received
one are within the allowance; a declaration that cannot be read is a bad request, and anything
else is too large. -/
structure Bounds (limit : Limit) (scope : Scope) (messages : List Message) : Prop where
  handed : ¬ Unreadable scope.declarations → ¬ DeclaredAbove (limit scope).1 scope.declarations →
    (received messages).body.length ≤ (limit scope).1 → (received messages).ending ≠ .unfinished →
    ∃ rest, call limit scope messages =
      .handed (.request (some (received messages).body) (some false) :: rest)
  waits : ¬ Unreadable scope.declarations → ¬ DeclaredAbove (limit scope).1 scope.declarations →
    (received messages).body.length ≤ (limit scope).1 → (received messages).ending = .unfinished →
    call limit scope messages = .waiting
  badRequest : Unreadable scope.declarations →
    call limit scope messages = .refused (reject unreadableLengthDetail 400)
  tooLarge : ¬ Unreadable scope.declarations →
    DeclaredAbove (limit scope).1 scope.declarations ∨
      (limit scope).1 < (received messages).body.length →
    call limit scope messages = .refused (reject (limit scope).2)
  /-- When a message is received, the loop holds the allowance and that message at most. -/
  held : ∀ taken message rest body, messages = taken ++ message :: rest →
    Run (Reads (limit scope).1) [] taken body →
    body.length + message.size ≤ (limit scope).1 + message.size
  unchunked : ∀ others, received others = received messages →
    call limit scope others = call limit scope messages

/-- The client leaves before its body is complete, with nothing to refuse until then. -/
def Leaves (limit : Limit) (scope : Scope) (messages : List Message) : Prop :=
  (∃ rest, (received messages).ending = .disconnected rest) ∧ ¬ Unreadable scope.declarations ∧
    ¬ DeclaredAbove (limit scope).1 scope.declarations ∧
    (received messages).body.length ≤ (limit scope).1

variable {messages : List Message} {limit : Limit} {scope : Scope}

lemma Bounds.not_raised (h : Bounds limit scope messages) (er : ValueError) :
    call limit scope messages ≠ .raised er := by
  intro hra
  by_cases hu : Unreadable scope.declarations
  · simp [h.badRequest hu] at hra
  by_cases ha : DeclaredAbove (limit scope).1 scope.declarations ∨
      (limit scope).1 < (received messages).body.length
  · simp [h.tooLarge hu ha] at hra
  push Not at ha
  by_cases hen : (received messages).ending = .unfinished
  · simp [h.waits hu ha.1 ha.2 hen] at hra
  · obtain ⟨r,hh⟩ := h.handed hu ha.1 ha.2 hen
    simp [hh] at hra

/-- A client that leaves is handed on as one that left, without the bytes it had sent. -/
lemma call_leaves (hwr : isBoundedWrite scope = true)
    (hs : ¬ Overlong none scope.declarations) (h : Leaves limit scope messages) :
    ∃ r, call limit scope messages = .handed (.disconnect :: r) := by
  obtain ⟨⟨r,hen⟩,hre,hw,ht⟩ := h
  refine ⟨r,?_⟩
  rw [(call_answers limit scope messages hwr).eq_decides hs hre hw,decideBody,
    if_neg (Nat.not_lt.2 ht),hen]

lemma bounds_of_short (hwr : isBoundedWrite scope = true)
    (hs : ¬ Overlong none scope.declarations) (hst : ¬ Leaves limit scope messages) :
    Bounds limit scope messages := by
  have ha := call_answers limit scope messages hwr
  refine ⟨?_,?_,ha.eq_badRequest hs,?_,?_,?_⟩
  · intro hre hw ht hen
    have hd := ha.eq_decides hs hre hw
    rw [decideBody,if_neg (Nat.not_lt.2 ht)] at hd
    cases hendi : (received messages).ending with
    | complete r =>
      rw [hendi] at hd
      exact ⟨r,hd⟩
    | disconnected r => exact (hst ⟨⟨r,hendi⟩,hre,hw,ht⟩).elim
    | unfinished => exact (hen hendi).elim
  · intro hre hw ht hen
    rw [ha.eq_decides hs hre hw,decideBody,if_neg (Nat.not_lt.2 ht),hen]
  · intro hre hab
    by_cases hde : DeclaredAbove (limit scope).1 scope.declarations
    · exact ha.eq_tooLarge hs hre hde
    · have ht := hab.resolve_left hde
      rw [ha.eq_decides hs hre hde,decideBody,if_pos ht]
  · intro ta m r bo _ hru
    have := run_reads_bounded hru
    omega
  · intro ot hsa
    exact call_unchunked limit scope messages hwr hsa

/-- For every write, every header list and every sequence of messages: the body is bounded as
described if and only if no declaration with more than 4300 digits is read and the client stays. -/
theorem bounds_iff (limit : Limit) (scope : Scope) (messages : List Message)
    (hwrite : isBoundedWrite scope = true) :
    Bounds limit scope messages ↔
      ¬ Overlong none scope.declarations ∧ ¬ Leaves limit scope messages := by
  constructor
  · intro h
    have hs : ¬ Overlong none scope.declarations := by
      intro ho
      obtain ⟨error,hra⟩ := (call_answers limit scope messages hwrite).eq_raised ho
      exact h.not_raised error hra
    refine ⟨hs,fun hl => ?_⟩
    obtain ⟨rest,hle⟩ := call_leaves hwrite hs hl
    obtain ⟨⟨_,hen⟩,hre,hw,ht⟩ := hl
    obtain ⟨rest',hh⟩ := h.handed hre hw ht (by simp [hen])
    simp [hle] at hh
  · rintro ⟨hs,hst⟩
    exact bounds_of_short hwrite hs hst

def declaredPost (value : Bytes) : Scope where
  type := .http
  method := some "POST"
  path := some "/internal/heartbeat"
  headers := some [(ascii "Content-Length".toList,value)]

/-- A body that comes in two messages and declares its length is bounded. -/
theorem bounds_iff_twelve : Bounds (gatewayBodyLimit ⟨256,1024⟩) (declaredPost (ascii "12".toList))
    [.request (some (ascii "[1,2,".toList)) (some true),
      .request (some (ascii "3,4,5]\n".toList)) none] := by
  refine (bounds_iff _ _ _ rfl).2 ⟨not_overlong_of_short ?_,?_⟩
  · show ∀ value ∈ [ascii "12".toList], value.length ≤ intMaxStrDigits
    decide
  · rintro ⟨⟨rest,hen⟩,-⟩
    cases hen

lemma isdigit_replicate (h : n ≠ 0) : isdigit (List.replicate n 48) = true := by
  simp [isdigit,h]

/-- Zero, written with 4301 digits, is a declared length that no allowance refuses. The conversion
raises, and the write is neither handed on nor refused. -/
theorem bounds_fails_zeros : ¬ Bounds (gatewayBodyLimit ⟨256,1024⟩)
    (declaredPost (List.replicate 4301 48)) [.request none none] := by
  intro h
  have hl : intMaxStrDigits < (List.replicate 4301 (48 : UInt8)).length := by
    rw [length_replicate]
    decide
  have ho : Overlong none (declaredPost (List.replicate 4301 48)).declarations :=
    ⟨[],_,[],rfl,isdigit_replicate (by decide),hl,settled_nil⟩
  obtain ⟨error,hra⟩ := (call_answers _ _ _ rfl).eq_raised ho
  exact h.not_raised error hra

/-- Every declaration of the request states the number of bytes, in digits that are read. -/
def Honest (scope : Scope) (size : ℕ) : Prop :=
  ∀ value ∈ scope.declarations, isdigit value = true ∧ value.length ≤ intMaxStrDigits ∧
    digitsValue value = size

lemma call_honest (hw : isBoundedWrite scope = true)
    (hh : Honest scope bo.length) (hb : received messages = ⟨bo,.complete r⟩) :
    call limit scope messages =
      if (limit scope).1 < bo.length then .refused (reject (limit scope).2)
      else .handed (.request (some bo) (some false) :: r) := by
  have han := call_answers limit scope messages hw
  have hs : ¬ Overlong none scope.declarations :=
    not_overlong_of_short fun value hv => (hh value hv).2.1
  have hre : ¬ Unreadable scope.declarations :=
    settled_none_iff.1 ⟨fun value hv => (hh value hv).1,bo.length,by simp,
      fun value hv => (hh value hv).2.2⟩
  by_cases ha : DeclaredAbove (limit scope).1 scope.declarations
  · obtain ⟨value,hv,hl⟩ := ha
    have hsi : (limit scope).1 < bo.length := by
      rw [(hh value hv).2.2] at hl
      exact hl
    rw [if_pos hsi]
    exact han.eq_tooLarge hs hre ⟨value,hv,hl⟩
  · rw [han.eq_decides hs hre ha,hb]
    rfl

def RefusesBatch (settings : BodyLimitSettings) (size : ℕ) : Prop :=
  ∀ scope messages rest body, scope.type = .http → scope.method = some "POST" →
    scope.path = some "/internal/events/batch" → Honest scope size →
    received messages = ⟨body,.complete rest⟩ → body.length = size →
    ∃ response, call (gatewayBodyLimit settings) scope messages = .refused response

lemma refusesBatch_iff : RefusesBatch cf si ↔ cf.internalMaxEventBatchBytes < si := by
  have hl : ∀ scope : Scope, scope.path = some "/internal/events/batch" →
      (gatewayBodyLimit cf scope).1 = cf.internalMaxEventBatchBytes := by
    intro scope hp
    have hv1 : ¬ startsWith "/internal/events/batch" "/v1/" = true := by decide
    have hb : rstrip '/' "/internal/events/batch" = "/internal/events/batch" := by decide
    unfold gatewayBodyLimit
    rw [hp]
    dsimp only [Option.getD_some]
    rw [if_neg hv1,if_pos hb]
  constructor
  · intro href
    obtain ⟨rs,hre⟩ := href ⟨.http,some "POST",some "/internal/events/batch",none⟩
      [.request (some (List.replicate si 0)) none] [] (List.replicate si 0) rfl rfl rfl
      (by simp [Honest,Scope.declarations,declarations]) rfl (by simp)
    by_contra hs
    rw [call_honest rfl (by simp [Honest,Scope.declarations,declarations]) rfl,hl _ rfl,
      if_neg (by simpa using hs)] at hre
    cases hre
  · rintro hla scope messages r bo ht hm hp hh hbo rfl
    have hw : isBoundedWrite scope = true := by simp [isBoundedWrite,ht,hm]
    rw [call_honest hw hh hbo,hl scope hp,if_pos hla]
    exact ⟨_,rfl⟩

end VaultspecA2A.BodyLimit
