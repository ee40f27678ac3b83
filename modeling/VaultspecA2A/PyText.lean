import Mathlib.Algebra.GroupWithZero.Nat
import Mathlib.Data.List.DropRight

/-!
# Text primitives

Python and SQL text operations over code points: white space as `str.isspace`
sees it, `str.split` without an argument, a prefix bounded by its UTF-8 size, and
the SQL `length` and `trim`, which stop at the first NUL and remove only spaces.
A string is the list of its code points.
-/
namespace VaultspecA2A.PyText
open List

def isSpace (c : Char) : Bool :=
  let n := c.toNat
  (0x09 ≤ n && n ≤ 0x0d) || (0x1c ≤ n && n ≤ 0x20) || n == 0x85 || n == 0xa0 || n == 0x1680 ||
    (0x2000 ≤ n && n ≤ 0x200a) || n == 0x2028 || n == 0x2029 || n == 0x202f || n == 0x205f ||
    n == 0x3000

def isBlank (text : String) : Bool := text.toList.all isSpace

def strip (text : String) : String :=
  String.ofList ((text.toList.dropWhile isSpace).rdropWhile isSpace)

/-- The characters a pattern's `\s` matches: those of the property White_Space. -/
def isWhiteSpace (c : Char) : Bool :=
  isSpace c && !(decide (0x1c ≤ c.toNat) && decide (c.toNat ≤ 0x1f))

/-- A bounded token: `^\S+$` with a maximal length. -/
def isToken (maxLength : ℕ) (text : String) : Bool :=
  decide (1 ≤ text.length) && decide (text.length ≤ maxLength) &&
    text.toList.all fun c => !isWhiteSpace c

def wordsFrom : List Char → List Char → List (List Char)
  | [], current => if current.isEmpty then [] else [current.reverse]
  | c :: cs, current =>
    if isSpace c then
      if current.isEmpty then wordsFrom cs [] else current.reverse :: wordsFrom cs []
    else wordsFrom cs (c :: current)

/-- `" ".join(text.split())`. -/
def collapseSpaces (text : String) : String :=
  String.ofList (List.intercalate [' '] (wordsFrom text.toList []))

def utf8Bytes (cs : List Char) : ℕ := (cs.map Char.utf8Size).sum

/-- The longest prefix of whole characters whose UTF-8 encoding fits the budget:
what lenient decoding leaves of an encoding cut at that byte. -/
def utf8Prefix : ℕ → List Char → List Char
  | _, [] => []
  | budget, c :: cs =>
    if c.utf8Size ≤ budget then c :: utf8Prefix (budget - c.utf8Size) cs else []

def sqlLength (text : String) : ℕ := (text.toList.takeWhile (· ≠ '\x00')).length

def sqlTrim (text : String) : String :=
  String.ofList (((text.toList.dropWhile (· = ' ')).reverse.dropWhile (· = ' ')).reverse)

def startsWith (text start : String) : Bool := start.toList.isPrefixOf text.toList

def endsWith (text finish : String) : Bool := finish.toList.isSuffixOf text.toList

/-- `text[: -n]` for a positive `n`. -/
def dropEnd (n : ℕ) (text : String) : String := String.ofList (text.toList.rdrop n)

def rstrip (c : Char) (text : String) : String := String.ofList (text.toList.rdropWhile (· = c))

/-- `text.lower()` on ASCII letters; other letters are kept. -/
def lower (text : String) : String := String.ofList (text.toList.map Char.toLower)

/-- `str.upper` of a character, as far as the result is an ASCII letter: the dotless i and
the long s are the only other characters that have one. -/
def upperChar (c : Char) : Char :=
  if c = 'ı' then 'I' else if c = 'ſ' then 'S' else c.toUpper

def upper (text : String) : String := String.ofList (text.toList.map upperChar)

def isLineBreak (c : Char) : Bool :=
  let n := c.toNat
  (0x0a ≤ n && n ≤ 0x0d) || (0x1c ≤ n && n ≤ 0x1e) || n == 0x85 || n == 0x2028 || n == 0x2029

/-- `text.splitlines()`, up to empty lines: a final break and a `\r\n` give one more. -/
def splitlines (text : String) : List String := (text.toList.splitOnP isLineBreak).map String.ofList

def occursIn (word : List Char) : List Char → Bool
  | [] => word.isEmpty
  | c :: cs => word.isPrefixOf (c :: cs) || occursIn word cs

def contains (text word : String) : Bool := occursIn word.toList text.toList

/-- The code points before the first separator and those after it, if there is one. -/
def splitFirst (sep : Char) : List Char → List Char × Option (List Char)
  | [] => ([],none)
  | c :: cs =>
    if c = sep then ([],some cs) else (c :: (splitFirst sep cs).1,(splitFirst sep cs).2)

/-- `text.partition(sep)`; without a separator there is no tail. -/
def partition (sep : Char) (text : String) : String × Option String :=
  (String.ofList (splitFirst sep text.toList).1,(splitFirst sep text.toList).2.map String.ofList)

lemma endsWith_iff : endsWith x fi = true ↔ ∃ r, x = r ++ fi := by
  rw [endsWith,isSuffixOf_iff_suffix]
  constructor
  · rintro ⟨r,h⟩
    refine ⟨String.ofList r,String.toList_inj.1 ?_⟩
    rw [String.toList_append,String.toList_ofList,h]
  · rintro ⟨r,rfl⟩
    exact ⟨r.toList,String.toList_append.symm⟩

lemma dropEnd_append (x fi : String) : dropEnd fi.toList.length (x ++ fi) = x := by
  rw [dropEnd,String.toList_append,rdrop_append_length,String.ofList_toList]

lemma splitFirst_append (h : sep ∉ fr) (r : List Char) :
    splitFirst sep (fr ++ sep :: r) = (fr,some r) := by
  induction fr with
  | nil => simp [splitFirst]
  | cons c cs ih =>
    rw [mem_cons,not_or] at h
    rw [cons_append,splitFirst,if_neg (Ne.symm h.1),ih h.2]

lemma splitFirst_some {x r : List Char} (h : splitFirst sep x = (fr,some r)) :
    x = fr ++ sep :: r := by
  induction x generalizing fr with
  | nil => cases h
  | cons c cs ih =>
    rw [splitFirst] at h
    split_ifs at h with hc
    · cases h
      rw [hc,nil_append]
    · obtain ⟨rfl,hre⟩ := Prod.mk.inj h
      rw [cons_append]
      exact congrArg _ (ih (Prod.ext rfl hre))

/-- A text is split at the separator exactly when the part before it has none. -/
lemma partition_eq (h : sep ∉ fr.toList) :
    partition sep x = (fr,some r) ↔ x = fr ++ sep.toString ++ r := by
  rw [partition]
  constructor
  · intro heq
    obtain ⟨hf,hre⟩ := Prod.mk.inj heq
    obtain ⟨ta,ht,rfl⟩ := Option.map_eq_some_iff.1 hre
    have hs := splitFirst_some (Prod.ext rfl ht)
    apply String.toList_inj.1
    rw [hs,← hf]
    simp
  · rintro rfl
    have hl : (fr ++ sep.toString ++ r).toList = fr.toList ++ sep :: r.toList := by
      simp
    rw [hl,splitFirst_append h]
    simp

end VaultspecA2A.PyText
