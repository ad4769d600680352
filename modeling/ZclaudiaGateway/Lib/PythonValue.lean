import Mathlib.Data.Rat.Defs
import Mathlib.Data.List.Basic

/-!
# Python values as `json` sees them

The values `json.loads` returns and `json.dumps` is given, with the operators of the language on them: truthiness, the items of
a dict and whether a value can be encoded. What the encoder does not take is one kind of value: bytes, a date, an object of the
application, a container that holds itself or is nested too deeply.
-/

/-- A `float`. -/
inductive PyFloat where
  | finite (q : ℚ)
  | infinity (negative : Bool)
  | nan
deriving DecidableEq

/-- A value, less the identity of objects. An `int` of so many digits that the interpreter refuses to write it is an object. -/
inductive PyValue where
  | none
  | bool (b : Bool)
  | int (n : ℤ)
  | float (f : PyFloat)
  | str (s : String)
  | list (elems : List PyValue)
  | dict (items : List (PyValue × PyValue))
  | object (truthy : Bool)

namespace PyValue

/-- `bool(v)`. -/
def truthy : PyValue → Bool
  | none => false
  | bool b => b
  | int n => decide (n ≠ 0)
  | float f => decide (f ≠ .finite 0)
  | str s => decide (s ≠ "")
  | list elems => !elems.isEmpty
  | dict items => !items.isEmpty
  | object truthy => truthy

/-- `v.get(name)` of a dict, or nothing when the value is not a dict or has no such key. -/
def get (v : PyValue) (name : String) : Option PyValue :=
  match v with
  | dict items => items.findSome? (fun p => match p.1 with | str s => if s = name then some p.2 else Option.none | _ => Option.none)
  | _ => Option.none

/-- A dict with this key can be encoded. -/
def isJsonKey : PyValue → Bool
  | list _ | dict _ | object _ => false
  | _ => true

mutual

/-- `json.dumps(v)` returns. -/
def serialises : PyValue → Bool
  | list elems => serialisesAll elems
  | dict items => serialisesItems items
  | object _ => false
  | _ => true

/-- The elements of a list can be encoded. -/
def serialisesAll : List PyValue → Bool
  | [] => true
  | v :: vs => serialises v && serialisesAll vs

/-- The items of a dict can be encoded. -/
def serialisesItems : List (PyValue × PyValue) → Bool
  | [] => true
  | p :: ps => serialisesItem p && serialisesItems ps

/-- The key and the value of an item can be encoded. -/
def serialisesItem : PyValue × PyValue → Bool
  | (k, v) => isJsonKey k && serialises v

end

end PyValue

/-- What `json.loads` does with a text. -/
inductive PyLoads where
  | value (v : PyValue)
  | valueError
  | error
