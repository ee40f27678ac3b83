import Mathlib.Data.Int.Notation
import Mathlib.Data.List.Basic

/-!
# Untyped values

The values a provider, a checkpoint or a JSON column can hold: scalars, lists and
mappings. A mapping is the list of its entries in order, and its keys may be any
value; reading one under a text key finds the entry stored under that text.
-/
namespace VaultspecA2A.PyValue

inductive Value
  | null
  | bool (b : Bool)
  | int (n : ℤ)
  | float (literal : String)
  | str (s : String)
  | list (items : List Value)
  | dict (entries : List (Value × Value))
deriving Repr

namespace Value

def isKey (key : String) : Value → Bool
  | str s => s == key
  | _ => false

/-- `mapping.get(key)`; nothing is found under a text key of any other value. -/
def get (key : String) : Value → Option Value
  | dict entries => (entries.find? fun e => e.1.isKey key).map Prod.snd
  | _ => none

def nonemptyStr : Value → Option String
  | str s => if s.isEmpty then none else some s
  | _ => none

def getStr (key : String) (v : Value) : Option String := (v.get key).bind nonemptyStr

def isDict : Value → Bool
  | dict _ => true
  | _ => false

def isStringKeyed : Value → Bool
  | dict entries => entries.all fun e => match e.1 with | str _ => true | _ => false
  | _ => false

def text? : Value → Option String
  | str s => some s
  | _ => none

def hasOnlyFields (names : List String) : Value → Bool
  | dict entries => entries.all fun e => e.1.text?.any (· ∈ names)
  | _ => false

/-- `bool(value)`. A float is its literal: zero when its mantissa has no other digit. -/
def truthy : Value → Bool
  | null => false
  | bool b => b
  | int n => decide (n ≠ 0)
  | float literal =>
    (literal.toList.takeWhile fun c => decide (c ∉ ['e','E'])).any fun c =>
      decide (c ∉ ['+','-','.','0'])
  | str s => !s.isEmpty
  | list items => !items.isEmpty
  | dict entries => !entries.isEmpty

def items? : Value → Option (List Value)
  | list items => some items
  | _ => none

end Value

end VaultspecA2A.PyValue
