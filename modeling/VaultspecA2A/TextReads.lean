import VaultspecA2A.PyText

/-!
# Bounded reads of text files

An agent reads a file by lines: from one line on, so many of them, and no more than a number of
bytes. The reader takes a line in pieces, so that it never holds a long one whole. The piece
that is too long for what remains is cut before the first character that does not fit.
-/
namespace VaultspecA2A.TextReads
open PyText List

def readChunkCharacters : ℕ := 4096

structure AcpFileReadRange where
  line : Option ℕ
  limit : Option ℕ

/-- `handle.readline(size)`: what it gives of the text still unread, and what it leaves. -/
def readline : ℕ → List Char → List Char × List Char
  | size + 1, c :: text =>
    if c = '\n' then ([c],text) else (c :: (readline size text).1,(readline size text).2)
  | _, text => ([],text)

def endsLine (chunk : List Char) : Bool := chunk.getLast? == some '\n'

lemma readline_append (size : ℕ) (text : List Char) :
    (readline size text).1 ++ (readline size text).2 = text := by
  fun_induction readline with
  | case1 => rfl
  | case2 _ _ _ _ ih => exact congrArg (cons _) ih
  | case3 => rfl

lemma readline_shorter (h : readline size text = (c :: chunk,rest)) :
    rest.length < text.length := by
  rw [← readline_append size text,h]
  simp only [length_append,length_cons]
  omega

section
variable (size : ℕ)

/-- Reads to the end of the line; `none` when the text ends before it. -/
def skipLine (text : List Char) : Option (List Char) :=
  match _ : readline size text with
  | ([],_) => none
  | (c :: chunk,rest) => if endsLine (c :: chunk) then some rest else skipLine rest
termination_by text.length
decreasing_by exact readline_shorter ‹_›

def skipLines : ℕ → List Char → Option (List Char)
  | 0, text => some text
  | count + 1, text => (skipLine size text).bind (skipLines count)

def readChunks (limit : Option ℕ) (remaining linesRead : ℕ) (text : List Char) : List Char :=
  if remaining = 0 then []
  else match _ : readline (min size remaining) text with
    | ([],_) => []
    | (c :: chunk,rest) =>
      if remaining < utf8Bytes (c :: chunk) then utf8Prefix remaining (c :: chunk)
      else
        let linesRead := linesRead + (endsLine (c :: chunk)).toNat
        if endsLine (c :: chunk) && limit.any (· ≤ linesRead) then c :: chunk
        else c :: chunk ++ readChunks limit (remaining - utf8Bytes (c :: chunk)) linesRead rest
termination_by text.length
decreasing_by exact readline_shorter ‹_›

def readTextLines (text : List Char) (ranges : AcpFileReadRange) (maximum : ℕ) : List Char :=
  if maximum = 0 ∨ ranges.limit = some 0 then []
  else match skipLines size (ranges.line.getD 1 - 1) text with
    | none => []
    | some rest => readChunks size ranges.limit maximum 0 rest

end

/-- How long the first so many lines of a text are. -/
def linesLength : ℕ → List Char → ℕ
  | count + 1, c :: text => linesLength (if c = '\n' then count else count + 1) text + 1
  | _, _ => 0

def afterLines (count : ℕ) (text : List Char) : List Char := text.drop (linesLength count text)

def atMost (limit : Option ℕ) (text : List Char) : List Char :=
  limit.elim text fun count => text.take (linesLength count text)

/-- From the start line on, at most as many lines as the limit, to the end of the text. -/
def selected (ranges : AcpFileReadRange) (text : List Char) : List Char :=
  atMost ranges.limit (afterLines (ranges.line.getD 1 - 1) text)

@[simp] lemma linesLength_zero (text : List Char) : linesLength 0 text = 0 := by
  cases text <;> rfl

lemma endsLine_cons (hc : c ≠ '\n') : endsLine (c :: chunk) = endsLine chunk := by
  cases chunk <;> simp [endsLine,hc]

/-- A piece is of one line, and closes it if it ends in a line feed. -/
lemma readline_lines (size count : ℕ) (text : List Char) :
    linesLength (count + 1) text = (readline size text).1.length +
      linesLength (count + 1 - (endsLine (readline size text).1).toNat) (readline size text).2 := by
  fun_induction readline with
  | case1 => simp [endsLine,linesLength,Nat.add_comm]
  | case2 _ _ _ hc ih => simp [endsLine_cons hc,linesLength,hc,ih,Nat.add_right_comm]
  | case3 => simp [endsLine]

lemma afterLines_readline (count : ℕ) (h : readline size text = (chunk,rest)) :
    afterLines (count + 1) text = afterLines (count + 1 - (endsLine chunk).toNat) rest := by
  have ht := readline_append size text
  rw [afterLines,readline_lines size,h] at *
  rw [← ht,drop_length_add_append]
  rfl

lemma afterLines_succ (count : ℕ) (text : List Char) :
    afterLines (count + 1) text = afterLines count (afterLines 1 text) := by
  induction text with
  | nil => simp [afterLines]
  | cons c text ih =>
    by_cases hc : c = '\n'
    · simp [afterLines,linesLength,hc]
    · simpa [afterLines,linesLength,hc] using ih

lemma readline_nil (hs : 0 < size) (h : readline size text = ([],rest)) : text = [] := by
  obtain ⟨size,rfl⟩ := Nat.exists_eq_succ_of_ne_zero hs.ne'
  cases text with
  | nil => rfl
  | cons c text =>
    rw [readline] at h
    split at h <;> cases h

lemma skipLine_eq (hs : 0 < size) : (skipLine size text).getD [] = afterLines 1 text := by
  fun_induction skipLine with
  | case1 _ _ h => rw [readline_nil hs h]; rfl
  | case2 _ _ _ _ h he =>
    rw [afterLines_readline 0 h,he]
    simp [afterLines]
  | case3 _ _ _ _ h he ih => simp [afterLines_readline 0 h,he,ih]

lemma skipLines_eq (hs : 0 < size) (count : ℕ) :
    (skipLines size count text).getD [] = afterLines count text := by
  induction count generalizing text with
  | zero => simp [skipLines,afterLines]
  | succ count ih =>
    rw [afterLines_succ,← skipLine_eq hs,skipLines]
    cases skipLine size text with
    | none => simp [afterLines]
    | some rest => exact ih

lemma utf8Bytes_cons (c : Char) (cs : List Char) :
    utf8Bytes (c :: cs) = c.utf8Size + utf8Bytes cs := rfl

/-- A piece that fits is whole in the cut, and the rest of the budget is for what follows. -/
lemma utf8Prefix_append (h : utf8Bytes cs ≤ n) :
    utf8Prefix n (cs ++ ds) = cs ++ utf8Prefix (n - utf8Bytes cs) ds := by
  induction cs generalizing n with
  | nil => rfl
  | cons c cs ih =>
    rw [utf8Bytes_cons] at h
    rw [cons_append,utf8Prefix,if_pos (by omega),ih (by omega),utf8Bytes_cons,Nat.sub_sub]
    rfl

lemma utf8Prefix_append_of_lt (h : n < utf8Bytes cs) :
    utf8Prefix n (cs ++ ds) = utf8Prefix n cs := by
  induction cs generalizing n with
  | nil => cases h
  | cons c cs ih =>
    rw [utf8Bytes_cons] at h
    rw [cons_append,utf8Prefix,utf8Prefix]
    split_ifs with hc
    · rw [ih (by omega)]
    · rfl

lemma utf8Prefix_zero (cs : List Char) : utf8Prefix 0 cs = [] := by
  cases cs with
  | nil => rfl
  | cons c => simp [utf8Prefix,c.utf8Size_pos.ne']

lemma utf8Prefix_longest (n : ℕ) (cs : List Char) :
    utf8Prefix n cs <+: cs ∧ utf8Bytes (utf8Prefix n cs) ≤ n ∧
      ∀ ds, ds <+: cs → utf8Bytes ds ≤ n → ds <+: utf8Prefix n cs := by
  induction cs generalizing n with
  | nil => exact ⟨ nil_prefix,Nat.zero_le _,fun _ h _ => h⟩
  | cons c cs ih =>
    rw [utf8Prefix]
    split_ifs with hc
    · obtain ⟨hp,hb,hm⟩ := ih (n - c.utf8Size)
      refine ⟨(prefix_cons_inj c).2 hp,by rw [utf8Bytes_cons]; omega,fun ds hd hn => ?_⟩
      cases ds with
      | nil => exact nil_prefix
      | cons d ds =>
        obtain ⟨rfl,hds⟩ := cons_prefix_cons.1 hd
        rw [utf8Bytes_cons] at hn
        exact (prefix_cons_inj d).2 (hm ds hds (by omega))
    · refine ⟨ nil_prefix,Nat.zero_le _,fun ds hd hn => ?_⟩
      cases ds with
      | nil => exact nil_prefix
      | cons d ds =>
        obtain ⟨rfl,-⟩ := cons_prefix_cons.1 hd
        rw [utf8Bytes_cons] at hn
        omega

lemma atMost_readline (limit : Option ℕ) (linesRead : ℕ)
    (hk : ∀ n ∈ limit, linesRead < n) (h : readline size text = (chunk,rest)) :
    atMost (limit.map (· - linesRead)) text = chunk ++
      atMost (limit.map (· - (linesRead + (endsLine chunk).toNat))) rest := by
  have ht := readline_append size text
  cases limit with
  | none =>
    rw [h] at ht
    exact ht.symm
  | some n =>
    have hl := readline_lines size (n - linesRead - 1) text
    rw [h] at hl ht
    rw [Nat.sub_add_cancel (Nat.sub_pos_of_lt (hk n rfl)),Nat.sub_sub] at hl
    simp only [atMost,Option.map_some,Option.elim_some]
    rw [hl,← ht,take_length_add_append]

lemma readChunks_eq (hs : 0 < size) (limit : Option ℕ) (remaining linesRead : ℕ)
    (text : List Char) (hk : ∀ n ∈ limit, linesRead < n) :
    readChunks size limit remaining linesRead text =
      utf8Prefix remaining (atMost (limit.map (· - linesRead)) text) := by
  fun_induction readChunks with
  | case1 => rw [utf8Prefix_zero]
  | case2 remaining _ _ hr _ h =>
    rw [readline_nil (by omega) h]
    cases limit <;> simp [atMost,utf8Prefix]
  | case3 remaining linesRead text hr c chunk rest h hlt =>
    rw [atMost_readline limit linesRead hk h,utf8Prefix_append_of_lt hlt]
  | case4 remaining linesRead text hr c chunk rest h hlt lr hd =>
    rw [atMost_readline limit linesRead hk h,utf8Prefix_append (by omega)]
    obtain ⟨he,hl⟩ := Bool.and_eq_true_iff.1 hd
    obtain ⟨n,rfl,hn⟩ := (Option.any_eq_true _ _).1 hl
    have hz : n - lr = 0 := Nat.sub_eq_zero_of_le (of_decide_eq_true hn)
    simp [atMost,utf8Prefix,lr,hz]
  | case5 remaining linesRead text hr c chunk rest h hlt lr hd ih =>
    rw [atMost_readline limit linesRead hk h,utf8Prefix_append (by omega),ih]
    intro n hn
    have := hk n hn
    cases he : endsLine (c :: chunk) with
    | false => simpa [lr,he] using this
    | true => simp_all

lemma readTextLines_eq (hs : 0 < size) (text : List Char) (ranges : AcpFileReadRange)
    (maximum : ℕ) : readTextLines size text ranges maximum =
      utf8Prefix maximum (selected ranges text) := by
  rw [readTextLines,selected,← skipLines_eq hs]
  split_ifs with h
  · rcases h with rfl | hl
    · rw [utf8Prefix_zero]
    · simp [hl,atMost,utf8Prefix]
  · have hk : ∀ n ∈ ranges.limit, 0 < n := by
      rintro n hn
      exact Nat.pos_of_ne_zero fun hz => h (.inr (hz ▸ hn))
    cases skipLines size (ranges.line.getD 1 - 1) text with
    | none => cases ranges.limit <;> simp [atMost,utf8Prefix]
    | some rest => simpa using readChunks_eq hs ranges.limit maximum 0 rest hk

/-- A read gives the longest part from the front of the selected lines that is within the
maximum, whatever the size of a piece. -/
theorem readTextLines_longest (text : List Char) (ranges : AcpFileReadRange) (maximum : ℕ) :
    let read := readTextLines readChunkCharacters text ranges maximum
    (read <+: selected ranges text ∧ utf8Bytes read ≤ maximum ∧
      ∀ other, other <+: selected ranges text → utf8Bytes other ≤ maximum → other <+: read) ∧
    ∀ size, 0 < size → readTextLines size text ranges maximum = read := by
  have he := fun {size} (hs : 0 < size) => readTextLines_eq hs text ranges maximum
  have hr := he (show 0 < readChunkCharacters by decide)
  intro read
  refine ⟨?_,fun size hs => (he hs).trans hr.symm⟩
  rw [show read = _ from hr]
  exact utf8Prefix_longest _ _

end VaultspecA2A.TextReads
