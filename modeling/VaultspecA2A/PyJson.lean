import VaultspecA2A.OrderedDict
import VaultspecA2A.PyText
import VaultspecA2A.PyValue

/-!
# JSON texts

`json.dumps` with the separators `,` and `:` and `json.loads`, on untyped values. A text is
written in printable ASCII: every other character of a string is written as one or two escapes of
four hexadecimal digits. The keys of a mapping are written as texts, and reading builds a mapping
key by key, so a key that was no text comes back as one and of two equal keys the last one counts.
What is read back from a written value is therefore the value with its keys taken as JSON takes
them, which for a value that JSON can express is the value itself.

A float is its literal. A surrogate that stands alone in a text is no character and is refused.
-/
namespace VaultspecA2A.PyJson
open PyValue OrderedDict Option

abbrev quote : Char := '\x22'

abbrev backslash : Char := '\x5c'

abbrev openBrace : Char := '\x7b'

abbrev closeBrace : Char := '\x7d'

def shortEscapes : List (Char × Char) :=
  [(quote,quote),(backslash,backslash),('\n','n'),('\r','r'),('\t','t'),('\x0c','f'), ('\x08','b')]

def unicodeEscape (n : ℕ) : List Char :=
  [backslash,'u',(n / 4096 % 16).digitChar,(n / 256 % 16).digitChar,(n / 16 % 16).digitChar,
    (n % 16).digitChar]

def escapeChar (c : Char) : List Char :=
  match shortEscapes.lookup c with
  | some letter => [backslash,letter]
  | none =>
    if 0x20 ≤ c.toNat ∧ c.toNat ≤ 0x7e then [c]
    else if c.toNat < 0x10000 then unicodeEscape c.toNat
    else
      unicodeEscape (0xd800 + (c.toNat - 0x10000) / 1024) ++
        unicodeEscape (0xdc00 + (c.toNat - 0x10000) % 1024)

def writeString (text : String) : List Char := quote :: text.toList.flatMap escapeChar ++ [quote]

def hexValue (c : Char) : Option ℕ :=
  if '0' ≤ c ∧ c ≤ '9' then some (c.toNat - 48)
  else if 'a' ≤ c ∧ c ≤ 'f' then some (c.toNat - 87)
  else if 'A' ≤ c ∧ c ≤ 'F' then some (c.toNat - 55)
  else none

def readUnit : List Char → Option (ℕ × List Char)
  | a :: b :: c :: d :: rest => do
      let w ← hexValue a
      let x ← hexValue b
      let y ← hexValue c
      let z ← hexValue d
      some (((w * 16 + x) * 16 + y) * 16 + z,rest)
  | _ => none

/-- What follows `\u`; two surrogates are one character. -/
def readUnicode (cs : List Char) : Option (Char × List Char) :=
  match readUnit cs with
  | none => none
  | some (high,rest) =>
    if 0xd800 ≤ high ∧ high ≤ 0xdbff then
      match readUnit (rest.drop 2) with
      | none => none
      | some (low,rest') =>
        if rest.take 2 = [backslash,'u'] ∧ 0xdc00 ≤ low ∧ low ≤ 0xdfff then
          some (Char.ofNat (0x10000 + (high - 0xd800) * 1024 + (low - 0xdc00)),rest')
        else none
    else if 0xdc00 ≤ high ∧ high ≤ 0xdfff then none
    else some (Char.ofNat high,rest)

def readEscape : List Char → Option (Char × List Char)
  | [] => none
  | c :: rest =>
    if c = 'u' then readUnicode rest
    else
      ([(quote,quote),(backslash,backslash),('/','/'),('b','\x08'),('f','\x0c'),('n','\n'),
        ('r','\r'),('t','\t')].lookup c).map fun char => (char,rest)

def readChars : ℕ → List Char → Option (List Char × List Char)
  | 0, _ => none
  | _ + 1, [] => none
  | fuel + 1, c :: rest =>
    if c = quote then some ([],rest)
    else if c = backslash then
      (readEscape rest).bind fun escape =>
        (readChars fuel escape.2).map fun chars => (escape.1 :: chars.1,chars.2)
    -- control characters are refused
    else if c.toNat < 0x20 then none
    else (readChars fuel rest).map fun chars => (c :: chars.1,chars.2)

lemma hexValue_digitChar : ∀ n < 16, hexValue n.digitChar = some n := by decide

lemma readUnit_unicodeEscape (h : n < 65536) (r : List Char) :
    readUnit ((unicodeEscape n).drop 2 ++ r) = some (n,r) := by
  have hd : ∀ m, hexValue (m % 16).digitChar = some (m % 16) :=
    fun m => hexValue_digitChar _ (Nat.mod_lt m (by decide))
  simp only [unicodeEscape,List.drop_succ_cons,List.drop_zero,List.cons_append,List.nil_append,
    readUnit,hd,bind_eq_bind,bind_some,Option.some.injEq,Prod.mk.injEq,and_true]
  omega

/-- A character is no surrogate. -/
lemma toNat_valid (c : Char) : c.toNat < 0xd800 ∨ 0xdfff < c.toNat ∧ c.toNat < 0x110000 := c.valid

lemma readEscape_short (h : (c,le) ∈ shortEscapes) (r : List Char) :
    readEscape (le :: r) = some (c,r) := by
  simp only [shortEscapes,List.mem_cons,Prod.mk.injEq,List.not_mem_nil,or_false] at h
  rcases h with ⟨rfl,rfl⟩ | ⟨rfl,rfl⟩ | ⟨rfl,rfl⟩ | ⟨rfl,rfl⟩ | ⟨rfl,rfl⟩ | ⟨rfl,rfl⟩ | ⟨rfl,rfl⟩ <;>
    rfl

lemma readEscape_unicode (h : n < 65536) (hp : n < 0xd800 ∨ 0xdfff < n) (r : List Char) :
    readEscape ((unicodeEscape n).tail ++ r) = some (Char.ofNat n,r) := by
  have hu := readUnit_unicodeEscape h r
  have ht : (unicodeEscape n).tail ++ r = 'u' :: ((unicodeEscape n).drop 2 ++ r) := rfl
  rw [ht,readEscape,if_pos rfl,readUnicode,hu]
  dsimp only
  rw [if_neg (by omega),if_neg (by omega)]

lemma readEscape_pair (h : n < 0x100000) (r : List Char) :
    readEscape ((unicodeEscape (0xd800 + n / 1024)).tail ++
      (unicodeEscape (0xdc00 + n % 1024) ++ r)) = some (Char.ofNat (0x10000 + n),r) := by
  have hh := readUnit_unicodeEscape (n := 0xd800 + n / 1024) (by omega)
    (unicodeEscape (0xdc00 + n % 1024) ++ r)
  have hl := readUnit_unicodeEscape (n := 0xdc00 + n % 1024) (by omega) r
  have ht : (unicodeEscape (0xd800 + n / 1024)).tail ++
      (unicodeEscape (0xdc00 + n % 1024) ++ r) = 'u' :: ((unicodeEscape (0xd800 + n / 1024)).drop 2 ++
        (unicodeEscape (0xdc00 + n % 1024) ++ r)) := rfl
  have hd : (unicodeEscape (0xdc00 + n % 1024) ++ r).drop 2 =
      (unicodeEscape (0xdc00 + n % 1024)).drop 2 ++ r := rfl
  have hta : (unicodeEscape (0xdc00 + n % 1024) ++ r).take 2 = [backslash,'u'] := rfl
  rw [ht,readEscape,if_pos rfl,readUnicode,hh]
  dsimp only
  rw [if_pos (by omega),hd,hl]
  dsimp only
  have hs : 0x10000 + (0xd800 + n / 1024 - 0xd800) * 1024 + (0xdc00 + n % 1024 - 0xdc00) =
      0x10000 + n := by omega
  rw [if_pos ⟨hta,by omega,by omega⟩,hs]

/-- A written character is read back. -/
lemma readChars_escapeChar (fu : ℕ) (c : Char) (r : List Char) :
    readChars (fu + 1) (escapeChar c ++ r) = (readChars fu r).map fun ch => (c :: ch.1,ch.2) := by
  -- an escape is a backslash and what it is read back from
  have hes : ∀ ta, readEscape (ta ++ r) = some (c,r) → readChars (fu + 1) (backslash :: ta ++ r) =
        (readChars fu r).map fun ch => (c :: ch.1,ch.2) := by
    intro ta ht
    rw [List.cons_append,readChars,if_neg (by decide),if_pos rfl,ht,bind_some]
  unfold escapeChar
  split
  · rename_i le hl
    obtain ⟨p,q,heq,-⟩ := List.lookup_eq_some_iff.1 hl
    refine hes [le] (readEscape_short ?_ r)
    rw [heq]
    exact List.mem_append_right _ List.mem_cons_self
  · rename_i hn
    have hne : c ≠ quote ∧ c ≠ backslash := by
      constructor <;> rintro rfl <;> cases hn
    split_ifs with ha hb
    · rw [List.singleton_append,readChars,if_neg hne.1,if_neg hne.2,if_neg (by omega)]
    · have hp : c.toNat < 0xd800 ∨ 0xdfff < c.toNat := by
        have := toNat_valid c
        omega
      refine hes (unicodeEscape c.toNat).tail ?_
      rw [readEscape_unicode (by omega) hp,Char.ofNat_toNat]
    · have hv := toNat_valid c
      rw [List.append_assoc]
      refine hes ((unicodeEscape (0xd800 + (c.toNat - 0x10000) / 1024)).tail ++
        unicodeEscape (0xdc00 + (c.toNat - 0x10000) % 1024)) ?_
      rw [List.append_assoc,readEscape_pair (by omega),Nat.add_sub_cancel' (by omega),
        Char.ofNat_toNat]

lemma readChars_write (h : cs.length < fu) (r : List Char) :
    readChars fu (cs.flatMap escapeChar ++ quote :: r) = some (cs,r) := by
  induction cs generalizing fu with
  | nil =>
    obtain ⟨fu,rfl⟩ := Nat.exists_eq_add_of_lt h
    rw [List.flatMap_nil,List.nil_append,readChars,if_pos rfl]
  | cons c cs ih =>
    cases fu with
    | zero => exact (Nat.not_lt_zero _ h).elim
    | succ fu =>
      rw [List.flatMap_cons,List.append_assoc,readChars_escapeChar,
        ih (Nat.lt_of_succ_lt_succ h),map_some]

def decimal (n : ℕ) : List Char := Nat.toDigits 10 n

def writeInt : ℤ → List Char
  | .ofNat n => decimal n
  | .negSucc n => '-' :: decimal (n + 1)

/-- `0|[1-9][0-9]*` -/
def readMagnitude : List Char → Option (List Char × List Char)
  | [] => none
  | c :: rest =>
    if c = '0' then some ([c],rest)
    else if c.isDigit then some (c :: rest.takeWhile Char.isDigit,rest.dropWhile Char.isDigit)
    else none

def readInteger : List Char → Option (List Char × List Char)
  | [] => none
  | c :: rest =>
    if c = '-' then (readMagnitude rest).map fun digits => (c :: digits.1,digits.2)
    else readMagnitude (c :: rest)

/-- `(\.[0-9]+)?` -/
def readFraction : List Char → List Char × List Char
  | [] => ([],[])
  | c :: rest =>
    if c = '.' ∧ rest.takeWhile Char.isDigit ≠ [] then
      (c :: rest.takeWhile Char.isDigit,rest.dropWhile Char.isDigit)
    else ([],c :: rest)

/-- `[+-]?` -/
def readSign : List Char → List Char × List Char
  | [] => ([],[])
  | c :: rest => if c = '+' ∨ c = '-' then ([c],rest) else ([],c :: rest)

/-- `([eE][+-]?[0-9]+)?` -/
def readExponent : List Char → List Char × List Char
  | [] => ([],[])
  | c :: rest =>
    let (sign,digits) := readSign rest
    if (c = 'e' ∨ c = 'E') ∧ digits.takeWhile Char.isDigit ≠ [] then
      (c :: sign ++ digits.takeWhile Char.isDigit,digits.dropWhile Char.isDigit)
    else ([],c :: rest)

/-- `int(digits)` for an optional sign and decimal digits. -/
def integerValue : List Char → ℤ
  | [] => 0
  | c :: rest =>
    if c = '-' then -(Nat.ofDigitChars 10 rest 0 : ℤ) else Nat.ofDigitChars 10 (c :: rest) 0

def readNumber (cs : List Char) : Option (Value × List Char) := (readInteger cs).map fun integer =>
    let fraction := readFraction integer.2
    let exponent := readExponent fraction.2
    if fraction.1 = [] ∧ exponent.1 = [] then (.int (integerValue integer.1),exponent.2)
    else (.float (String.ofList (integer.1 ++ fraction.1 ++ exponent.1)),exponent.2)

def floatConstants : List String := ["NaN","Infinity","-Infinity"]

def isFloatLiteral (literal : String) : Bool :=
  decide (literal ∈ floatConstants) ||
    match readNumber literal.toList with
    | some (.float text,rest) => text == literal && rest.isEmpty
    | _ => false

/-- What can follow a value inside a text. -/
def Delimited (rest : List Char) : Prop := ∀ c, rest.head? = some c → c ∈ [',',']',closeBrace]

section
variable {cs r : List Char}

lemma Delimited.not_isDigit (h : Delimited r) : ∀ c, r.head? = some c → c.isDigit = false := by
  intro c hc
  have hm := h c hc
  simp only [List.mem_cons,List.not_mem_nil,or_false] at hm
  rcases hm with rfl | rfl | rfl <;> rfl

/-- A scan stops before what follows it. -/
lemma span_append (h : ∀ c, r.head? = some c → p c = false) (cs : List Char) :
    (cs ++ r).takeWhile p = cs.takeWhile p ∧ (cs ++ r).dropWhile p = cs.dropWhile p ++ r := by
  induction cs with
  | nil =>
    cases r with
    | nil => exact ⟨rfl,rfl⟩
    | cons c r => simp [h c rfl]
  | cons c cs ih =>
    rw [List.cons_append]
    cases hc : p c with
    | true => simp [hc,ih]
    | false => simp [hc]

lemma Delimited.span_digits (h : Delimited r) (cs : List Char) :
    (cs ++ r).takeWhile Char.isDigit = cs.takeWhile Char.isDigit ∧
      (cs ++ r).dropWhile Char.isDigit = cs.dropWhile Char.isDigit ++ r :=
  span_append h.not_isDigit cs

lemma readMagnitude_append (h : Delimited r) (hre : readMagnitude cs = some di) :
    readMagnitude (cs ++ r) = some (di.1,di.2 ++ r) := by
  cases cs with
  | nil => cases hre
  | cons c cs =>
    rw [readMagnitude] at hre
    rw [List.cons_append,readMagnitude]
    split_ifs at hre ⊢
    · cases hre
      rfl
    · cases hre
      rw [(h.span_digits cs).1,(h.span_digits cs).2]

lemma readInteger_append (h : Delimited r) (hre : readInteger cs = some di) :
    readInteger (cs ++ r) = some (di.1,di.2 ++ r) := by
  cases cs with
  | nil => cases hre
  | cons c cs =>
    rw [readInteger] at hre
    rw [List.cons_append,readInteger]
    split_ifs at hre ⊢
    · obtain ⟨ma,hm,rfl⟩ := map_eq_some_iff.1 hre
      rw [readMagnitude_append h hm,map_some]
    · rw [← List.cons_append]
      exact readMagnitude_append h hre

/-- Nothing is read of what follows a value. -/
lemma readFraction_delimited (h : Delimited r) : readFraction r = ([],r) := by
  cases r with
  | nil => rfl
  | cons c r =>
    have hc := h c rfl
    rw [readFraction,if_neg]
    rintro ⟨rfl,-⟩
    exact absurd hc (by decide)

lemma readFraction_append (h : Delimited r) (cs : List Char) :
    readFraction (cs ++ r) = ((readFraction cs).1,(readFraction cs).2 ++ r) := by
  cases cs with
  | nil => exact readFraction_delimited h
  | cons c cs =>
    rw [List.cons_append,readFraction,readFraction,(h.span_digits cs).1,(h.span_digits cs).2]
    split_ifs <;> rfl

lemma readSign_append (h : Delimited r) (cs : List Char) :
    readSign (cs ++ r) = ((readSign cs).1,(readSign cs).2 ++ r) := by
  cases cs with
  | cons c cs =>
    rw [List.cons_append,readSign,readSign]
    split_ifs <;> rfl
  | nil =>
    cases r with
    | nil => rfl
    | cons c r =>
      have hc := h c rfl
      refine if_neg ?_
      rintro (rfl | rfl) <;> exact absurd hc (by decide)

lemma readExponent_append (h : Delimited r) (cs : List Char) :
    readExponent (cs ++ r) = ((readExponent cs).1,(readExponent cs).2 ++ r) := by
  cases cs with
  | cons c cs =>
    rw [List.cons_append,readExponent,readExponent,readSign_append h]
    dsimp only
    rw [(h.span_digits _).1,(h.span_digits _).2]
    split_ifs <;> rfl
  | nil =>
    cases r with
    | nil => rfl
    | cons c r =>
      have hc := h c rfl
      refine if_neg ?_
      rintro ⟨rfl | rfl,-⟩ <;> exact absurd hc (by decide)

lemma readNumber_append (h : Delimited r) (hre : readNumber cs = some nu) :
    readNumber (cs ++ r) = some (nu.1,nu.2 ++ r) := by
  unfold readNumber at hre ⊢
  obtain ⟨it,hi,rfl⟩ := map_eq_some_iff.1 hre
  rw [readInteger_append h hi,map_some]
  dsimp only
  rw [readFraction_append h,readExponent_append h]
  dsimp only
  split_ifs <;> rfl

end

/-! Integers are read back. -/

lemma decimal_isDigit : ∀ c ∈ decimal n, c.isDigit = true :=
  fun _ hc => Nat.isDigit_of_mem_toDigits (by decide) (by decide) hc

lemma digitChar_ne_zero : ∀ n < 10, n ≠ 0 → n.digitChar ≠ '0' := by decide

lemma decimal_head (hn : n ≠ 0) : ∃ c r, decimal n = c :: r ∧ c ≠ '0' := by
  induction n using Nat.strongRecOn with
  | ind n ih =>
    rcases Nat.lt_or_ge n 10 with hlt | hge
    · exact ⟨n.digitChar,[],Nat.toDigits_of_lt_base hlt,digitChar_ne_zero n hlt hn⟩
    · obtain ⟨c,r,heq,hc⟩ := ih (n / 10) (by omega) (by omega)
      refine ⟨c,r ++ [(n % 10).digitChar],?_,hc⟩
      unfold decimal at heq ⊢
      rw [Nat.toDigits_of_base_le (by decide) hge,heq,List.cons_append]

lemma readMagnitude_decimal (n : ℕ) : readMagnitude (decimal n) = some (decimal n,[]) := by
  by_cases hn : n = 0
  · subst hn
    rfl
  · obtain ⟨c,r,heq,hc⟩ := decimal_head hn
    have hd := @decimal_isDigit n
    rw [heq] at hd ⊢
    obtain ⟨hf,hre⟩ := List.forall_mem_cons.1 hd
    rw [readMagnitude,if_neg hc,if_pos hf,List.takeWhile_eq_self_iff.2 hre,
      List.dropWhile_eq_nil_iff.2 hre]

lemma decimal_ne_minus (n : ℕ) : ∃ c r, decimal n = c :: r ∧ c ≠ '-' := by
  cases hd : decimal n with
  | nil => exact (Nat.toDigits_ne_nil hd).elim
  | cons c r =>
    refine ⟨c,r,rfl,?_⟩
    rintro rfl
    have hdi := @decimal_isDigit n '-' (hd ▸ List.mem_cons_self)
    exact absurd hdi (by decide)

lemma readInteger_writeInt (n : ℤ) : readInteger (writeInt n) = some (writeInt n,[]) := by
  cases n with
  | ofNat n =>
    obtain ⟨c,r,heq,hc⟩ := decimal_ne_minus n
    have hre := readMagnitude_decimal n
    rw [writeInt]
    rw [heq] at hre ⊢
    rw [readInteger,if_neg hc,hre]
  | negSucc n =>
    rw [writeInt,readInteger,if_pos rfl,readMagnitude_decimal,map_some]

lemma integerValue_writeInt (n : ℤ) : integerValue (writeInt n) = n := by
  have hv : ∀ m : ℕ, Nat.ofDigitChars 10 (decimal m) 0 = m :=
    fun m => Nat.ofDigitChars_toDigits (by decide) (by decide)
  cases n with
  | ofNat n =>
    obtain ⟨c,r,heq,hc⟩ := decimal_ne_minus n
    have hn := hv n
    rw [writeInt]
    rw [heq] at hn ⊢
    rw [integerValue,if_neg hc,hn]
    rfl
  | negSucc n =>
    rw [writeInt,integerValue,if_pos rfl,hv]
    rfl

lemma readNumber_writeInt (n : ℤ) : readNumber (writeInt n) = some (.int n,[]) := by
  rw [readNumber,readInteger_writeInt,map_some]
  dsimp only [readFraction,readExponent]
  rw [if_pos ⟨rfl,rfl⟩,integerValue_writeInt]

def keyText : Value → String
  | .str text => text
  | .int n => String.ofList (writeInt n)
  | .float literal => literal
  | .bool true => "true"
  | .bool false => "false"
  | .null => "null"
  | _ => ""

def writableKey : Value → Bool
  | .float literal => isFloatLiteral literal
  | .list _ => false
  | .dict _ => false
  | _ => true

mutual

def writable : Value → Bool
  | .float literal => isFloatLiteral literal
  | .list items => writableItems items
  | .dict entries => writableEntries entries
  | _ => true

def writableItems : List Value → Bool
  | [] => true
  | item :: items => writable item && writableItems items

def writableEntries : List (Value × Value) → Bool
  | [] => true
  | (key,value) :: entries => writableKey key && writable value && writableEntries entries

end

mutual

def write : Value → List Char
  | .null => "null".toList
  | .bool true => "true".toList
  | .bool false => "false".toList
  | .int n => writeInt n
  | .float literal => literal.toList
  | .str text => writeString text
  | .list [] => ['[',']']
  | .list (item :: items) => '[' :: (write item ++ writeItems items ++ [']'])
  | .dict [] => [openBrace,closeBrace]
  | .dict ((key,value) :: entries) =>
    openBrace ::
      (writeString (keyText key) ++ ':' :: write value ++ writeEntries entries ++ [closeBrace])

def writeItems : List Value → List Char
  | [] => []
  | item :: items => ',' :: (write item ++ writeItems items)

def writeEntries : List (Value × Value) → List Char
  | [] => []
  | (key,value) :: entries =>
    ',' :: (writeString (keyText key) ++ ':' :: write value ++ writeEntries entries)

end

/-- What stands behind a separator: by default `json.dumps` writes a blank. -/
def gap (spaced : Bool) : List Char := if spaced then [' '] else []

mutual

def writeSpaced (spaced : Bool) : Value → List Char
  | .list (item :: items) =>
    '[' :: (writeSpaced spaced item ++ spacedItems spaced items ++ [']'])
  | .dict ((key,value) :: entries) =>
    openBrace :: (writeString (keyText key) ++ ':' :: (gap spaced ++ writeSpaced spaced value) ++
      spacedEntries spaced entries ++ [closeBrace])
  | value => write value

def spacedItems (spaced : Bool) : List Value → List Char
  | [] => []
  | item :: items => ',' :: (gap spaced ++ (writeSpaced spaced item ++ spacedItems spaced items))

def spacedEntries (spaced : Bool) : List (Value × Value) → List Char
  | [] => []
  | (key,value) :: entries =>
    ',' :: (gap spaced ++ (writeString (keyText key) ++
      ':' :: (gap spaced ++ writeSpaced spaced value) ++ spacedEntries spaced entries))

end

section
variable (li x : String) (im key value : Value) (it : List Value)
 (es : List (Value × Value))

@[simp] lemma write_float : write (.float li) = li.toList := rfl

@[simp] lemma write_str : write (.str x) = writeString x := rfl

@[simp] lemma write_list :
    write (.list (im :: it)) = '[' :: (write im ++ writeItems it ++ [']']) := rfl

@[simp] lemma write_dict : write (.dict ((key,value) :: es)) = openBrace ::
    (writeString (keyText key) ++ ':' :: write value ++ writeEntries es ++ [closeBrace]) := rfl

@[simp] lemma writeItems_cons : writeItems (im :: it) = ',' :: (write im ++ writeItems it) := rfl

@[simp] lemma writeEntries_cons : writeEntries ((key,value) :: es) =
    ',' :: (writeString (keyText key) ++ ':' :: write value ++ writeEntries es) := rfl

@[simp] lemma spacedItems_cons (sp : Bool) : spacedItems sp (im :: it) =
    ',' :: (gap sp ++ (writeSpaced sp im ++ spacedItems sp it)) := rfl

@[simp] lemma spacedEntries_cons (sp : Bool) : spacedEntries sp ((key,value) :: es) =
    ',' :: (gap sp ++ (writeString (keyText key) ++ ':' :: (gap sp ++ writeSpaced sp value) ++
      spacedEntries sp es)) := rfl

end

mutual

theorem writeSpaced_false : ∀ value : Value, writeSpaced false value = write value
  | .null | .bool _ | .int _ | .float _ | .str _ | .list [] | .dict [] => rfl
  | .list (im :: it) => by
      rw [writeSpaced,writeSpaced_false im,spacedItems_false it]
      rfl
  | .dict ((key,value) :: es) => by
      rw [writeSpaced,writeSpaced_false value,spacedEntries_false es]
      rfl

theorem spacedItems_false : ∀ it : List Value, spacedItems false it = writeItems it
  | [] => rfl
  | im :: it => by
      rw [spacedItems,writeSpaced_false im,spacedItems_false it]
      rfl

theorem spacedEntries_false : ∀ es : List (Value × Value), spacedEntries false es = writeEntries es
  | [] => rfl
  | (key,value) :: es => by
      rw [spacedEntries,writeSpaced_false value,spacedEntries_false es]
      rfl

end

/-- `json.dumps(value, separators=(",", ":"))`; a key of another type is refused. -/
def dumps (value : Value) : Option String :=
  if writable value then some (String.ofList (write value)) else none

def isJsonSpace (c : Char) : Bool := c == ' ' || c == '\t' || c == '\n' || c == '\r'

def skipSpace (cs : List Char) : List Char := cs.dropWhile isJsonSpace

def readWord (word : String) (value : Value) (cs : List Char) : Option (Value × List Char) :=
  if cs.take word.toList.length = word.toList then some (value,cs.drop word.toList.length) else none

def readScalar (cs : List Char) : Option (Value × List Char) :=
  (readWord "null" .null cs).or <| (readWord "true" (.bool true) cs).or <|
    (readWord "false" (.bool false) cs).or <| (readNumber cs).or <|
    (readWord "NaN" (.float "NaN") cs).or <| (readWord "Infinity" (.float "Infinity") cs).or <|
    readWord "-Infinity" (.float "-Infinity") cs

def ofDict (mapping : Dict String Value) : Value :=
  .dict (mapping.entries.map fun entry => (.str entry.1,entry.2))

mutual

def readValue : ℕ → List Char → Option (Value × List Char)
  | 0, _ => none
  | _ + 1, [] => none
  | fuel + 1, c :: rest =>
    if c = quote then
      (readChars fuel rest).map fun chars => (.str (String.ofList chars.1),chars.2)
    else if c = openBrace then
      if (skipSpace rest).head? = some closeBrace then some (.dict [],(skipSpace rest).tail)
      else (readEntries fuel (skipSpace rest)).map fun pairs =>
        (ofDict (.ofPairs pairs.1),pairs.2)
    else if c = '[' then
      if (skipSpace rest).head? = some ']' then some (.list [],(skipSpace rest).tail)
      else (readItems fuel (skipSpace rest)).map fun items => (.list items.1,items.2)
    else readScalar (c :: rest)

def readItems : ℕ → List Char → Option (List Value × List Char)
  | 0, _ => none
  | fuel + 1, cs =>
    (readValue fuel cs).bind fun item =>
      match skipSpace item.2 with
      | [] => none
      | c :: rest =>
        if c = ']' then some ([item.1],rest)
        else if c = ',' then
          (readItems fuel (skipSpace rest)).map fun items => (item.1 :: items.1,items.2)
        else none

def readEntries : ℕ → List Char → Option (List (String × Value) × List Char)
  | 0, _ => none
  | _ + 1, [] => none
  | fuel + 1, c :: cs =>
    if c = quote then
      (readChars fuel cs).bind fun key =>
        if (skipSpace key.2).head? = some ':' then
          (readValue fuel (skipSpace (skipSpace key.2).tail)).bind fun value =>
            let entry := (String.ofList key.1,value.1)
            match skipSpace value.2 with
            | [] => none
            | c :: rest =>
              if c = closeBrace then some ([entry],rest)
              else if c = ',' then
                (readEntries fuel (skipSpace rest)).map fun pairs => (entry :: pairs.1,pairs.2)
              else none
        else none
    else none

end

def loads (text : String) : Option Value :=
  match readValue (text.toList.length + 1) (skipSpace text.toList) with
  | some (value,rest) => if skipSpace rest = [] then some value else none
  | none => none

lemma writableItems_iff : writableItems it = true ↔ ∀ im ∈ it, writable im = true := by
  induction it with
  | nil => simp [writableItems]
  | cons im it ih => rw [writableItems,Bool.and_eq_true,ih,List.forall_mem_cons]

lemma writableEntries_iff : writableEntries es = true ↔
    ∀ e ∈ es, writableKey e.1 = true ∧ writable e.2 = true := by
  induction es with
  | nil => simp [writableEntries]
  | cons e es ih =>
    rw [writableEntries,Bool.and_eq_true,Bool.and_eq_true,ih,List.forall_mem_cons]

lemma writable_ofDict : writable (ofDict ma) = true ↔ ∀ e ∈ ma.entries, writable e.2 = true := by
  rw [ofDict,writable,writableEntries_iff,List.forall_mem_map]
  exact forall₂_congr fun _ _ => and_iff_right rfl

mutual

/-- The value with its keys as JSON has them. -/
def asJson : Value → Value
  | .list items => .list (asJsonItems items)
  | .dict entries => ofDict (.ofPairs (asJsonEntries entries))
  | value => value

def asJsonItems : List Value → List Value
  | [] => []
  | item :: items => asJson item :: asJsonItems items

def asJsonEntries : List (Value × Value) → List (String × Value)
  | [] => []
  | (key,value) :: entries => (keyText key,asJson value) :: asJsonEntries entries

end

def opensValue (c : Char) : Bool :=
  c.isDigit || decide (c ∈ [quote,openBrace,'[','n','t','f','-','N','I'])

structure Reads (spaced : Bool) (value : Value) : Prop where
  head : ∃ c rest, writeSpaced spaced value = c :: rest ∧ opensValue c = true
  back : ∀ fuel rest, (writeSpaced spaced value).length < fuel → Delimited rest →
    readValue fuel (writeSpaced spaced value ++ rest) = some (asJson value,rest)

section
variable {sp : Bool} {cs r : List Char} {c : Char}

lemma opensValue_ne (h : opensValue c = true) (ho : opensValue o = false) : c ≠ o := by
  rintro rfl
  rw [h] at ho
  cases ho

lemma opensValue_not_space (h : opensValue c = true) : isJsonSpace c = false := by
  simp only [isJsonSpace,Bool.or_eq_false_iff,beq_eq_false_iff_ne]
  exact ⟨⟨⟨opensValue_ne h (by decide),opensValue_ne h (by decide)⟩,opensValue_ne h (by decide)⟩,
    opensValue_ne h (by decide)⟩

lemma skipSpace_cons (h : isJsonSpace c = false) : skipSpace (c :: r) = c :: r := by
  rw [skipSpace,List.dropWhile_cons_of_neg (by simp [h])]

lemma skipSpace_gap (cs : List Char) : skipSpace (gap sp ++ cs) = skipSpace cs := by
  cases sp <;> rfl

lemma readWord_append (wo : String) (value : Value) (r : List Char) :
    readWord wo value (wo.toList ++ r) = some (value,r) := by
  rw [readWord,List.take_left,List.drop_left,if_pos rfl]

lemma readWord_eq_none (hw : wo.toList = first :: le) (hne : c ≠ first) :
    readWord wo value (c :: r) = none := by
  rw [readWord,hw,List.length_cons,List.take_succ_cons,if_neg]
  intro heq
  exact hne (List.cons.inj heq).1

lemma readNumber_head (h : readNumber cs = some nu) :
    ∃ c r, cs = c :: r ∧ (c = '-' ∨ c.isDigit = true) := by
  obtain ⟨it,hi,-⟩ := map_eq_some_iff.1 h
  cases cs with
  | nil => cases hi
  | cons c r =>
    refine ⟨c,r,rfl,?_⟩
    rw [readInteger] at hi
    split_ifs at hi with hm
    · exact .inl hm
    · rw [readMagnitude] at hi
      split_ifs at hi with hz hd
      · rw [hz]
        exact .inr (by decide)
      · exact .inr hd

lemma number_head_ne (h : c = '-' ∨ c.isDigit = true)
    (hl : le ≠ '-' ∧ le.isDigit = false) : c ≠ le := by
  rintro rfl
  rcases h with hm | hd
  · exact hl.1 hm
  · rw [hd] at hl
    cases hl.2

lemma readScalar_number (h : readNumber cs = some nu) : readScalar cs = some nu := by
  obtain ⟨c,r,rfl,hc⟩ := readNumber_head h
  rw [readScalar,readWord_eq_none rfl (number_head_ne hc (by decide)),
    readWord_eq_none rfl (number_head_ne hc (by decide)),
    readWord_eq_none rfl (number_head_ne hc (by decide)),h]
  rfl

lemma opensValue_number (h : c = '-' ∨ c.isDigit = true) : opensValue c = true := by
  rcases h with rfl | hd
  · decide
  · rw [opensValue,hd,Bool.true_or]

/-- Values that are neither strings nor lists nor mappings. -/
lemma Reads.scalar (hh : ∃ c r, writeSpaced sp value = c :: r ∧ opensValue c = true ∧
      c ≠ quote ∧ c ≠ openBrace ∧ c ≠ '[') (hs : asJson value = value)
    (hsc : ∀ r, Delimited r → readScalar (writeSpaced sp value ++ r) = some (value,r)) :
    Reads sp value := by
  obtain ⟨c,ta,heq,ho,hq,hb,hbr⟩ := hh
  refine ⟨⟨c,ta,heq,ho⟩,fun fu r hf hre => ?_⟩
  obtain ⟨fu,rfl⟩ := Nat.exists_eq_add_one.2 (Nat.zero_lt_of_lt hf)
  rw [hs,← hsc r hre,heq,List.cons_append,readValue,if_neg hq,if_neg hb,if_neg hbr]

lemma Reads.number (hn : readNumber (writeSpaced sp value) = some (value,[]))
    (hs : asJson value = value) : Reads sp value := by
  obtain ⟨c,ta,heq,hc⟩ := readNumber_head hn
  refine .scalar ⟨c,ta,heq,opensValue_number hc,?_,?_,?_⟩ hs fun r hre => ?_
  · exact number_head_ne hc (by decide)
  · exact number_head_ne hc (by decide)
  · exact number_head_ne hc (by decide)
  · exact readScalar_number (readNumber_append hre hn)

lemma reads_float (h : isFloatLiteral li = true) : Reads sp (.float li) := by
  rw [isFloatLiteral,Bool.or_eq_true,decide_eq_true_eq] at h
  rcases h with hc | hn
  · simp only [floatConstants,List.mem_cons,List.not_mem_nil,or_false] at hc
    rcases hc with rfl | rfl | rfl
    · refine .scalar ⟨'N',['a','N'],rfl,rfl,by decide,by decide,by decide⟩ rfl fun r _ => ?_
      exact readWord_append "NaN" _ r
    · refine .scalar ⟨'I',"nfinity".toList,rfl,rfl,by decide,by decide,by decide⟩ rfl
        fun r _ => ?_
      exact readWord_append "Infinity" _ r
    · refine .scalar ⟨'-',"Infinity".toList,rfl,rfl,by decide,by decide,by decide⟩ rfl
        fun r _ => ?_
      exact readWord_append "-Infinity" _ r
  · refine .number ?_ rfl
    change readNumber li.toList = _
    split at hn
    · rename_i x r hre
      rw [Bool.and_eq_true,beq_iff_eq,List.isEmpty_iff] at hn
      rw [hre,hn.1,hn.2]
    · cases hn

lemma escapeChar_length_pos (c : Char) : 1 ≤ (escapeChar c).length := by
  unfold escapeChar
  split
  · exact Nat.le_add_left 1 1
  · split_ifs
    · exact le_rfl
    · exact Nat.le_add_left 1 5
    · exact Nat.le_add_left 1 11

lemma length_le_escaped (cs : List Char) : cs.length ≤ (cs.flatMap escapeChar).length := by
  induction cs with
  | nil => exact le_rfl
  | cons c cs ih =>
    have hp := escapeChar_length_pos c
    rw [List.flatMap_cons,List.length_append,List.length_cons]
    omega

lemma writeString_length (x : String) :
    (writeString x).length = (x.toList.flatMap escapeChar).length + 2 := by
  simp [writeString]

lemma readChars_writeString (h : (writeString x).length < fu + 2) (r : List Char) :
    readChars fu (x.toList.flatMap escapeChar ++ quote :: r) = some (x.toList,r) := by
  have hl := length_le_escaped x.toList
  rw [writeString_length] at h
  exact readChars_write (by omega) r

lemma readValue_quote (fu : ℕ) (r : List Char) : readValue (fu + 1) (quote :: r) =
    (readChars fu r).map fun ch => (.str (String.ofList ch.1),ch.2) := by
  rw [readValue,if_pos rfl]

lemma reads_str (x : String) : Reads sp (.str x) := by
  refine ⟨⟨quote,_,rfl,rfl⟩,fun fu r hf _ => ?_⟩
  obtain ⟨fu,rfl⟩ := Nat.exists_eq_add_one.2 (Nat.zero_lt_of_lt hf)
  have hre := @readChars_writeString x fu (Nat.lt_succ_of_lt hf) r
  have hc : writeSpaced sp (.str x) ++ r =
      quote :: (x.toList.flatMap escapeChar ++ quote :: r) := by
    simp [writeSpaced,writeString]
  rw [hc,readValue_quote,hre,map_some,String.ofList_toList]
  rfl

lemma Delimited.cons (h : c ∈ [',',']',closeBrace]) : Delimited (c :: r) := by
  intro first hf
  cases hf
  exact h

lemma Reads.skipSpace (h : Reads sp value) (r : List Char) :
    skipSpace (writeSpaced sp value ++ r) = writeSpaced sp value ++ r := by
  obtain ⟨c,ta,heq,ho⟩ := h.head
  rw [heq,List.cons_append,skipSpace_cons (opensValue_not_space ho)]

lemma readItems_write {it : List Value} (hi : ∀ o ∈ it, Reads sp o)
    (h : Reads sp value) {fu : ℕ} (hf : (writeSpaced sp value ++ spacedItems sp it).length + 1 < fu) :
    readItems fu (writeSpaced sp value ++ spacedItems sp it ++ ']' :: r) =
      some (asJson value :: asJsonItems it,r) := by
  induction it generalizing value fu with
  | nil =>
    obtain ⟨fu,rfl⟩ := Nat.exists_eq_add_one.2 (Nat.zero_lt_of_lt hf)
    rw [List.length_append] at hf
    rw [spacedItems,List.append_nil,readItems,h.back fu (']' :: r) (by omega) (.cons (by decide)),bind_some]
    dsimp only
    rw [skipSpace_cons (by decide)]
    rfl
  | cons o it ih =>
    obtain ⟨fu,rfl⟩ := Nat.exists_eq_add_one.2 (Nat.zero_lt_of_lt hf)
    obtain ⟨ho,hi⟩ := List.forall_mem_cons.1 hi
    have hc : writeSpaced sp value ++ spacedItems sp (o :: it) ++ ']' :: r = writeSpaced sp value ++
          ',' :: (gap sp ++ (writeSpaced sp o ++ spacedItems sp it ++ ']' :: r)) := by
      simp
    rw [spacedItems_cons,List.length_append,List.length_cons,List.length_append] at hf
    rw [hc,readItems,h.back fu _ (by omega) (.cons (by decide)),bind_some]
    dsimp only
    rw [skipSpace_cons (by decide)]
    dsimp only
    rw [if_neg (by decide),if_pos rfl,skipSpace_gap,List.append_assoc,ho.skipSpace,
      ← List.append_assoc,ih hi ho (by omega)]
    rfl

lemma skipSpace_writeString (x : String) (r : List Char) :
    skipSpace (writeString x ++ r) = writeString x ++ r :=
  skipSpace_cons (by decide)

lemma readEntries_entry (h : Reads sp value)
    (hf : (writeString x).length + (writeSpaced sp value).length < fu) (hre : Delimited r) :
    readEntries (fu + 1) (writeString x ++ ':' :: (gap sp ++ (writeSpaced sp value ++ r))) =
      match skipSpace r with
      | [] => none
      | c :: more =>
        if c = closeBrace then some ([(x,asJson value)],more)
        else if c = ',' then
          (readEntries fu (skipSpace more)).map fun pa =>
            ((x,asJson value) :: pa.1,pa.2)
        else none := by
  have hk := @readChars_writeString x fu (by omega)
    (':' :: (gap sp ++ (writeSpaced sp value ++ r)))
  have hc : writeString x ++ ':' :: (gap sp ++ (writeSpaced sp value ++ r)) = quote ::
      (x.toList.flatMap escapeChar ++ quote :: ':' :: (gap sp ++ (writeSpaced sp value ++ r))) := by
    simp [writeString]
  rw [hc,readEntries,if_pos rfl,hk,bind_some]
  dsimp only
  rw [skipSpace_cons (by decide),List.head?_cons,if_pos rfl,List.tail_cons,skipSpace_gap,
    h.skipSpace,h.back fu r (by omega) hre,bind_some,String.ofList_toList]

lemma readEntries_write (hen : ∀ e ∈ es, Reads sp e.2) (h : Reads sp value)
    (hf : (writeString (keyText key) ++ ':' :: (gap sp ++ writeSpaced sp value) ++
      spacedEntries sp es).length + 1 < fu) :
    readEntries fu (writeString (keyText key) ++ ':' :: (gap sp ++ writeSpaced sp value) ++
        spacedEntries sp es ++ closeBrace :: r) =
      some ((keyText key,asJson value) :: asJsonEntries es,r) := by
  induction es generalizing key value fu with
  | nil =>
    obtain ⟨fu,rfl⟩ := Nat.exists_eq_add_one.2 (Nat.zero_lt_of_lt hf)
    have hc : writeString (keyText key) ++ ':' :: (gap sp ++ writeSpaced sp value) ++
        spacedEntries sp [] ++ closeBrace :: r = writeString (keyText key) ++
          ':' :: (gap sp ++ (writeSpaced sp value ++ closeBrace :: r)) := by
      simp [spacedEntries]
    simp only [List.length_append,List.length_cons] at hf
    rw [hc,readEntries_entry h (by omega) (.cons (by decide)),skipSpace_cons (by decide)]
    rfl
  | cons o es ih =>
    obtain ⟨fu,rfl⟩ := Nat.exists_eq_add_one.2 (Nat.zero_lt_of_lt hf)
    obtain ⟨ok,ov⟩ := o
    obtain ⟨ho,hen⟩ := List.forall_mem_cons.1 hen
    have hc : writeString (keyText key) ++ ':' :: (gap sp ++ writeSpaced sp value) ++
        spacedEntries sp ((ok,ov) :: es) ++ closeBrace :: r = writeString (keyText key) ++
          ':' :: (gap sp ++ (writeSpaced sp value ++ ',' :: (gap sp ++
            (writeString (keyText ok) ++ ':' :: (gap sp ++ writeSpaced sp ov) ++
              spacedEntries sp es ++ closeBrace :: r)))) := by
      simp
    simp only [spacedEntries_cons,List.length_append,List.length_cons] at hf
    rw [hc,readEntries_entry h (by omega) (.cons (by decide)),skipSpace_cons (by decide)]
    dsimp only
    rw [if_neg (by decide),if_pos rfl,skipSpace_gap,List.append_assoc,List.append_assoc,
      skipSpace_writeString,← List.append_assoc,← List.append_assoc,ih hen ho]
    · rfl
    · simp only [List.length_append,List.length_cons]
      omega

lemma reads_list (h : ∀ im ∈ it, Reads sp im) : Reads sp (.list it) := by
  cases it with
  | nil =>
    refine ⟨⟨'[',[']'],rfl,rfl⟩,fun fu r hf _ => ?_⟩
    obtain ⟨fu,rfl⟩ := Nat.exists_eq_add_one.2 (Nat.zero_lt_of_lt hf)
    rfl
  | cons im it =>
    obtain ⟨hi,hit⟩ := List.forall_mem_cons.1 h
    refine ⟨⟨'[',_,rfl,rfl⟩,fun fu r hf _ => ?_⟩
    obtain ⟨fu,rfl⟩ := Nat.exists_eq_add_one.2 (Nat.zero_lt_of_lt hf)
    have hc : writeSpaced sp (.list (im :: it)) ++ r =
        '[' :: (writeSpaced sp im ++ spacedItems sp it ++ ']' :: r) := by
      simp [writeSpaced]
    have hb : (writeSpaced sp im ++ spacedItems sp it ++ ']' :: r).head? ≠ some ']' := by
      obtain ⟨c,ta,heq,ho⟩ := hi.head
      rw [heq]
      exact fun heq => opensValue_ne ho (by decide) (Option.some.inj heq)
    rw [writeSpaced,List.length_cons,List.length_append,List.length_singleton] at hf
    rw [hc,readValue,if_neg (by decide),if_neg (by decide),if_pos rfl,
      List.append_assoc,hi.skipSpace,← List.append_assoc,if_neg hb,
      readItems_write hit hi (by omega)]
    rfl

lemma reads_dict (h : ∀ e ∈ es, Reads sp e.2) : Reads sp (.dict es) := by
  cases es with
  | nil =>
    refine ⟨⟨openBrace,[closeBrace],rfl,rfl⟩,fun fu r hf _ => ?_⟩
    obtain ⟨fu,rfl⟩ := Nat.exists_eq_add_one.2 (Nat.zero_lt_of_lt hf)
    rfl
  | cons e es =>
    obtain ⟨key,value⟩ := e
    obtain ⟨hfi,hen⟩ := List.forall_mem_cons.1 h
    have hv : Reads sp value := hfi
    refine ⟨⟨openBrace,_,rfl,rfl⟩,fun fu r hf _ => ?_⟩
    obtain ⟨fu,rfl⟩ := Nat.exists_eq_add_one.2 (Nat.zero_lt_of_lt hf)
    have hc : writeSpaced sp (.dict ((key,value) :: es)) ++ r =
        openBrace :: (writeString (keyText key) ++ ':' :: (gap sp ++ writeSpaced sp value) ++
          spacedEntries sp es ++ closeBrace :: r) := by
      simp [writeSpaced]
    rw [writeSpaced,List.length_cons,List.length_append,List.length_singleton] at hf
    rw [hc,readValue,if_neg (by decide),if_pos rfl,List.append_assoc,
      List.append_assoc,skipSpace_writeString,if_neg,← List.append_assoc,
      ← List.append_assoc,readEntries_write hen hv (by omega)]
    · rfl
    · exact fun heq => absurd (Option.some.inj heq) (by decide)

end

lemma reads_null : Reads sp .null :=
  .scalar ⟨'n',"ull".toList,rfl,rfl,by decide,by decide,by decide⟩ rfl
    fun r _ => congrArg (Option.or · _) (readWord_append "null" _ r)

lemma reads_bool (b : Bool) : Reads sp (.bool b) := by
  cases b with
  | true =>
    exact .scalar ⟨'t',"rue".toList,rfl,rfl,by decide,by decide,by decide⟩ rfl
      fun r _ => readWord_append "true" _ r
  | false =>
    exact .scalar ⟨'f',"alse".toList,rfl,rfl,by decide,by decide,by decide⟩ rfl
      fun r _ => readWord_append "false" _ r

mutual

-- over the shape of the value, with the members of a list or mapping read first
theorem reads_of_writable : ∀ value : Value, writable value = true → Reads sp value
  | .null, _ => reads_null
  | .bool b, _ => reads_bool b
  | .int n, _ => .number (readNumber_writeInt n) rfl
  | .float _, h => reads_float h
  | .str x, _ => reads_str x
  | .list it, h => reads_list (reads_of_writableItems it h)
  | .dict es, h => reads_dict (reads_of_writableEntries es h)

theorem reads_of_writableItems : ∀ it : List Value, writableItems it = true → ∀ im ∈ it, Reads sp im
  | [], _ => List.forall_mem_nil _
  | im :: it, h => by
      rw [writableItems,Bool.and_eq_true] at h
      exact List.forall_mem_cons.2 ⟨reads_of_writable im h.1,reads_of_writableItems it h.2⟩

theorem reads_of_writableEntries : ∀ es : List (Value × Value),
    writableEntries es = true → ∀ e ∈ es, Reads sp e.2
  | [], _ => List.forall_mem_nil _
  | (_,value) :: es, h => by
      rw [writableEntries,Bool.and_eq_true,Bool.and_eq_true] at h
      exact List.forall_mem_cons.2 ⟨reads_of_writable value h.1.2,reads_of_writableEntries es h.2⟩

end

lemma loads_spaced (h : writable value = true) :
    loads (String.ofList (writeSpaced sp value)) = some (asJson value) := by
  have hre := @reads_of_writable sp value h
  have hs := hre.skipSpace []
  have hb := hre.back ((writeSpaced sp value).length + 1) [] (Nat.lt_succ_self _)
    (fun _ h => by cases h)
  rw [List.append_nil] at hs hb
  rw [loads,String.toList_ofList,hs,hb]
  rfl

/-- What is written is read back, with the keys of its mappings as texts. -/
lemma loads_dumps (h : dumps value = some x) : loads x = some (asJson value) := by
  rw [dumps] at h
  split_ifs at h with hw
  cases h
  rw [← writeSpaced_false,loads_spaced hw]

/-! ## JSON values

A value is one of JSON when the keys of its mappings are texts, no text twice. Such a value
is read back as it is. -/

mutual

def isJson : Value → Bool
  | .list items => isJsonItems items
  | .dict entries => isJsonEntries entries
  | _ => true

def isJsonItems : List Value → Bool
  | [] => true
  | item :: items => isJson item && isJsonItems items

def isJsonEntries : List (Value × Value) → Bool
  | [] => true
  | (key,value) :: entries =>
    (key.text?.any fun text => !entries.any fun entry => entry.1.isKey text) && isJson value &&
      isJsonEntries entries

end

lemma any_isKey (pa : List (String × Value)) (x : String) :
    ((pa.map fun e => (Value.str e.1,e.2)).any fun e => e.1.isKey x) =
      decide (x ∈ pa.map Prod.fst) := by
  induction pa with
  | nil => rfl
  | cons e pa ih =>
    rw [List.map_cons,List.any_cons,ih,List.map_cons]
    simp [Value.isKey,eq_comm,beq_eq_decide]

lemma isJsonItems_iff : isJsonItems it = true ↔ ∀ im ∈ it, isJson im = true := by
  induction it with
  | nil => simp [isJsonItems]
  | cons im it ih => rw [isJsonItems,Bool.and_eq_true,ih,List.forall_mem_cons]

lemma isJsonEntries_iff {pa : List (String × Value)} (h : (pa.map Prod.fst).Nodup) :
    isJsonEntries (pa.map fun e => (Value.str e.1,e.2)) = true ↔ ∀ e ∈ pa, isJson e.2 = true := by
  induction pa with
  | nil => simp [isJsonEntries]
  | cons e pa ih =>
    obtain ⟨hn,hno⟩ := List.nodup_cons.1 h
    rw [List.map_cons,isJsonEntries,Bool.and_eq_true,Bool.and_eq_true,ih hno,
      List.forall_mem_cons,Value.text?,any_some,any_isKey,decide_eq_false hn]
    simp

lemma isJson_ofDict {ma : Dict String Value} :
    isJson (ofDict ma) = true ↔ ∀ e ∈ ma.entries, isJson e.2 = true :=
  isJsonEntries_iff ma.nodup

mutual

theorem asJson_eq_self : ∀ value : Value, isJson value = true → asJson value = value
  | .null, _ => rfl
  | .bool _, _ => rfl
  | .int _, _ => rfl
  | .float _, _ => rfl
  | .str _, _ => rfl
  | .list it, h => congrArg Value.list (asJsonItems_eq_self it h)
  | .dict es, h => by
      obtain ⟨hn,heq⟩ := asJsonEntries_eq_self es h
      rw [asJson,ofDict,Dict.ofPairs_of_nodup hn,heq]

theorem asJsonItems_eq_self : ∀ it : List Value, isJsonItems it = true → asJsonItems it = it
  | [], _ => rfl
  | item :: it, h => by
      rw [isJsonItems,Bool.and_eq_true] at h
      rw [asJsonItems,asJson_eq_self item h.1,asJsonItems_eq_self it h.2]

theorem asJsonEntries_eq_self : ∀ es : List (Value × Value), isJsonEntries es = true →
    ((asJsonEntries es).map Prod.fst).Nodup ∧
      (asJsonEntries es).map (fun e => (Value.str e.1,e.2)) = es
  | [], _ => ⟨List.nodup_nil,rfl⟩
  | (key,value) :: es, h => by
      rw [isJsonEntries,Bool.and_eq_true,Bool.and_eq_true] at h
      obtain ⟨⟨hk,hv⟩,hen⟩ := h
      obtain ⟨hno,heq⟩ := asJsonEntries_eq_self es hen
      cases key with
      | str x =>
        have hn : x ∉ (asJsonEntries es).map Prod.fst := by
          rw [← heq,Value.text?,any_some,any_isKey,Bool.not_eq_true',decide_eq_false_iff_not] at hk
          exact hk
        rw [asJsonEntries,List.map_cons,List.map_cons,heq,asJson_eq_self value hv]
        exact ⟨List.nodup_cons.2 ⟨hn,hno⟩,rfl⟩
      | null => cases hk
      | bool b => cases hk
      | int n => cases hk
      | float li => cases hk
      | list it => cases hk
      | dict es => cases hk

end

def isPrintable (c : Char) : Bool := decide (0x20 ≤ c.toNat) && decide (c.toNat ≤ 0x7e)

def Printable (cs : List Char) : Prop := ∀ c ∈ cs, isPrintable c = true

instance (cs : List Char) : Decidable (Printable cs) :=
  List.decidableBAll (fun c => isPrintable c = true) cs

section
variable {cs ds : List Char} {c : Char}

@[simp] lemma printable_nil : Printable [] := List.forall_mem_nil _

@[simp] lemma printable_cons : Printable (c :: cs) ↔ isPrintable c = true ∧ Printable cs :=
  List.forall_mem_cons

@[simp] lemma printable_append : Printable (cs ++ ds) ↔ Printable cs ∧ Printable ds :=
  List.forall_mem_append

lemma isPrintable_of_isDigit (h : c.isDigit = true) : isPrintable c = true := by
  simp only [Char.isDigit,Bool.and_eq_true,decide_eq_true_eq] at h
  simp only [isPrintable,Bool.and_eq_true,decide_eq_true_eq]
  have hl : 48 ≤ c.toNat := h.1
  have hh : c.toNat ≤ 57 := h.2
  omega

lemma Printable.of_digits (h : ∀ c ∈ cs, c.isDigit = true) : Printable cs :=
  fun c hc => isPrintable_of_isDigit (h c hc)

lemma printable_takeWhile_digits : Printable (cs.takeWhile Char.isDigit) :=
  .of_digits fun _ hc => List.mem_takeWhile_imp hc

lemma digitChar_printable : ∀ n < 16, isPrintable n.digitChar = true := by decide

lemma unicodeEscape_printable (n : ℕ) : Printable (unicodeEscape n) := by
  simp only [unicodeEscape,printable_cons,printable_nil,and_true]
  have hd : ∀ m, isPrintable (m % 16).digitChar = true :=
    fun m => digitChar_printable _ (Nat.mod_lt m (by decide))
  exact ⟨by decide,by decide,hd _,hd _,hd _,hd _⟩

lemma shortEscapes_printable : ∀ e ∈ shortEscapes, isPrintable e.2 = true := by decide

lemma escapeChar_printable (c : Char) : Printable (escapeChar c) := by
  unfold escapeChar
  split
  · rename_i le hl
    simp only [printable_cons,printable_nil,and_true]
    refine ⟨by decide,?_⟩
    obtain ⟨p,q,hs,-⟩ := List.lookup_eq_some_iff.1 hl
    exact shortEscapes_printable (c,le) (hs ▸ by simp)
  · split_ifs with hp
    · simp [isPrintable,hp]
    · exact unicodeEscape_printable _
    · exact printable_append.2 ⟨unicodeEscape_printable _,unicodeEscape_printable _⟩

lemma writeString_printable (x : String) : Printable (writeString x) := by
  simp only [writeString,List.cons_append,printable_cons,printable_append,printable_nil,and_true]
  refine ⟨by decide,?_,by decide⟩
  intro c hc
  obtain ⟨sr,-,hs⟩ := List.mem_flatMap.1 hc
  exact escapeChar_printable sr c hs

lemma writeInt_printable (n : ℤ) : Printable (writeInt n) := by
  cases n with
  | ofNat n => exact .of_digits decimal_isDigit
  | negSucc n => exact printable_cons.2 ⟨by decide,.of_digits decimal_isDigit⟩

lemma readMagnitude_printable (h : readMagnitude cs = some di) : Printable di.1 := by
  cases cs with
  | nil => cases h
  | cons c r =>
    rw [readMagnitude] at h
    split_ifs at h with hz hd
    · cases h
      simp [hz,isPrintable]
    · cases h
      exact printable_cons.2 ⟨isPrintable_of_isDigit hd,printable_takeWhile_digits⟩

lemma readInteger_printable (h : readInteger cs = some di) : Printable di.1 := by
  cases cs with
  | nil => cases h
  | cons c r =>
    rw [readInteger] at h
    split_ifs at h with hmi
    · obtain ⟨ma,hm,rfl⟩ := map_eq_some_iff.1 h
      exact printable_cons.2 ⟨hmi ▸ by decide,readMagnitude_printable hm⟩
    · exact readMagnitude_printable h

lemma readFraction_printable (cs : List Char) : Printable (readFraction cs).1 := by
  cases cs with
  | nil => exact printable_nil
  | cons c r =>
    rw [readFraction]
    split_ifs with hp
    · exact printable_cons.2 ⟨hp.1 ▸ by decide,printable_takeWhile_digits⟩
    · exact printable_nil

lemma readSign_printable (cs : List Char) : Printable (readSign cs).1 := by
  cases cs with
  | nil => exact printable_nil
  | cons c r =>
    rw [readSign]
    split_ifs with hs
    · rcases hs with rfl | rfl <;> simp [isPrintable]
    · exact printable_nil

lemma readExponent_printable (cs : List Char) : Printable (readExponent cs).1 := by
  cases cs with
  | nil => exact printable_nil
  | cons c r =>
    have hs := readSign_printable r
    rw [readExponent]
    dsimp only
    split_ifs with hex
    · refine printable_append.2 ⟨printable_cons.2 ⟨?_,hs⟩,printable_takeWhile_digits⟩
      rcases hex.1 with rfl | rfl <;> decide
    · exact printable_nil

lemma readNumber_printable (h : readNumber cs = some (.float li,r)) : Printable li.toList := by
  obtain ⟨it,hi,heq⟩ := map_eq_some_iff.1 h
  dsimp only at heq
  split_ifs at heq
  · cases heq
  · cases heq
    rw [String.toList_ofList]
    exact printable_append.2 ⟨printable_append.2
      ⟨readInteger_printable hi,readFraction_printable _⟩,readExponent_printable _⟩

lemma isFloatLiteral_printable (h : isFloatLiteral li = true) : Printable li.toList := by
  rw [isFloatLiteral,Bool.or_eq_true,decide_eq_true_eq] at h
  rcases h with hc | hn
  · have hco : ∀ x ∈ floatConstants, Printable x.toList := by decide
    exact hco li hc
  · split at hn
    · rename_i x r hre
      rw [Bool.and_eq_true,beq_iff_eq] at hn
      exact hn.1 ▸ readNumber_printable hre
    · cases hn

mutual

theorem write_printable : ∀ value : Value, writable value = true → Printable (write value)
  | .null, _ => by decide
  | .bool true, _ => by decide
  | .bool false, _ => by decide
  | .int n, _ => writeInt_printable n
  | .float _, h => isFloatLiteral_printable h
  | .str x, _ => writeString_printable x
  | .list [], _ => by decide
  | .list (im :: items), h => by
      rw [writable,writableItems,Bool.and_eq_true] at h
      simp only [write_list,printable_cons,printable_append,printable_nil,and_true]
      exact ⟨by decide,⟨write_printable im h.1,writeItems_printable items h.2⟩,by decide⟩
  | .dict [], _ => by decide
  | .dict ((key,value) :: entries), h => by
      rw [writable,writableEntries,Bool.and_eq_true,Bool.and_eq_true] at h
      simp only [write_dict,printable_cons,printable_append,printable_nil,and_true]
      exact ⟨by decide,⟨⟨writeString_printable _,by decide,write_printable value h.1.2⟩,
        writeEntries_printable entries h.2⟩,by decide⟩

theorem writeItems_printable :
    ∀ it : List Value, writableItems it = true → Printable (writeItems it)
  | [], _ => printable_nil
  | item :: it, h => by
      rw [writableItems,Bool.and_eq_true] at h
      simp only [writeItems_cons,printable_cons,printable_append]
      exact ⟨by decide,write_printable item h.1,writeItems_printable it h.2⟩

theorem writeEntries_printable : ∀ es : List (Value × Value),
    writableEntries es = true → Printable (writeEntries es)
  | [], _ => printable_nil
  | (_,value) :: es, h => by
      rw [writableEntries,Bool.and_eq_true,Bool.and_eq_true] at h
      simp only [writeEntries_cons,printable_cons,printable_append]
      exact ⟨by decide,⟨writeString_printable _,by decide,write_printable value h.1.2⟩,
        writeEntries_printable es h.2⟩

end

end

end VaultspecA2A.PyJson
