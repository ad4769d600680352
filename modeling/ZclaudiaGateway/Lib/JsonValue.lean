import Mathlib.Data.Rat.Defs
import Mathlib.Data.List.Basic

/-!
# JSON values as ECMAScript sees them

The values `JSON.parse` returns, and the operators of the language on them: property access, truthiness, comparison with a
number and conversion to a string. None of these values is callable and only an object can hold a member named `toString`, so
a conversion to a string throws a `TypeError` exactly when it meets an object with such a member: the member hides the
inherited method and cannot be called. What is nested deeper than the engine's call stack holds throws a `RangeError`, though
`JSON.parse` accepts it. Numbers are rationals, with the two infinities a literal that is too large parses to.
-/

/-- A number that is not `NaN`, which no literal parses to. -/
inductive JsNumber where
  | finite (q : ℚ)
  | infinity (negative : Bool)
deriving DecidableEq

namespace JsNumber

/-- `Number.isFinite`. -/
def isFinite : JsNumber → Bool
  | finite _ => true
  | infinity _ => false

/-- `Number.isInteger`, with the integer. -/
def toInt? : JsNumber → Option ℤ
  | finite q => if q.den = 1 then some q.num else none
  | infinity _ => none

/-- `n > 0`. -/
def positive : JsNumber → Bool
  | finite q => decide (0 < q)
  | infinity negative => !negative

end JsNumber

/-- A value `JSON.parse` returns. -/
inductive JsonValue where
  | null
  | bool (b : Bool)
  | num (n : JsNumber)
  | str (s : String)
  | arr (elems : List JsonValue)
  | obj (members : List (String × JsonValue))

namespace JsonValue

/-! ## Property access and truthiness -/

/-- The own member of that name, `none` for `undefined`. Arrays and scalars have no member the callers ask for. -/
def member (v : JsonValue) (name : String) : Option JsonValue :=
  match v with
  | obj members => (members.find? (fun p => p.1 = name)).map Prod.snd
  | _ => none

/-- `typeof v === 'object'` and `v` is not `null`. -/
def isObject : JsonValue → Bool
  | arr _ => true
  | obj _ => true
  | _ => false

/-- The string, when the value is one. -/
def asString : JsonValue → Option String
  | str s => some s
  | _ => none

/-- The number, when the value is one. -/
def asNumber : JsonValue → Option JsNumber
  | num n => some n
  | _ => none

/-- The boolean, when the value is one. -/
def asBool : JsonValue → Option Bool
  | bool b => some b
  | _ => none

/-- The elements, when the value is an array. -/
def asArray : JsonValue → Option (List JsonValue)
  | arr elems => some elems
  | _ => none

/-- `Boolean(v)`. -/
def truthy : JsonValue → Bool
  | null => false
  | bool b => b
  | num n => decide (n ≠ .finite 0)
  | str s => decide (s ≠ "")
  | arr _ => true
  | obj _ => true

/-- `Object.entries(v)` for the values it can be asked of: the elements of an array and the characters of a string are under
their indices. -/
def entries : JsonValue → List (String × JsonValue)
  | obj members => members
  | arr elems => elems.zipIdx.map (fun p => (toString p.2, p.1))
  | str s => s.toList.zipIdx.map (fun p => (toString p.2, str (String.singleton p.1)))
  | _ => []

/-! ## Conversion to a string -/

/-- The call stack of the engine: which lists `Array.prototype.join` gets through before it overflows. -/
structure CallStack where
  joins : List JsonValue → Bool

mutual

/-- No object that the conversion to a string meets has a member named `toString`. -/
def hasText : JsonValue → Bool
  | arr elems => allHaveText elems
  | obj members => !(members.any (fun p => p.1 = "toString"))
  | _ => true

def allHaveText : List JsonValue → Bool
  | [] => true
  | v :: vs => hasText v && allHaveText vs

end

/-- `elems.join(',')` returns a string. -/
def joinsToString (stack : CallStack) (elems : List JsonValue) : Bool := allHaveText elems && stack.joins elems

/-- `String(v)` returns a string. An array is joined, which calls for itself on the arrays in it. -/
def convertsToString (stack : CallStack) : JsonValue → Bool
  | arr elems => joinsToString stack elems
  | v => v.hasText

/-- The text of a value whose text is a plain name: a string, or an array that holds just one such value. The text of every
other value has a digit, a comma, a space or a bracket in it, is empty, or is one of `null`, `true`, `false`. -/
def nameText : JsonValue → Option String
  | str s => some s
  | arr [v] => nameText v
  | _ => none

/-! ## Comparison with zero -/

/-- The value of a digit in a radix up to sixteen. -/
def digitValue (radix : Nat) (c : Char) : Option Nat :=
  let v :=
    if '0' ≤ c ∧ c ≤ '9' then c.toNat - '0'.toNat
    else if 'a' ≤ c ∧ c ≤ 'f' then c.toNat - 'a'.toNat + 10
    else if 'A' ≤ c ∧ c ≤ 'F' then c.toNat - 'A'.toNat + 10
    else radix
  if v < radix then some v else none

/-- The number a non-empty list of digits writes. -/
def digitsValue (radix : Nat) (cs : List Char) : Option Nat :=
  if cs.isEmpty then none
  else cs.foldl (fun acc c => acc.bind (fun n => (digitValue radix c).map (fun d => n * radix + d))) (some 0)

/-- An optional sign and digits: the exponent of a decimal literal. -/
def signedValue : List Char → Option ℤ
  | '-' :: cs => (digitsValue 10 cs).map (fun n => -(n : ℤ))
  | '+' :: cs => (digitsValue 10 cs).map (fun n => (n : ℤ))
  | cs => (digitsValue 10 cs).map (fun n => (n : ℤ))

/-- A decimal literal without a sign: digits with at most one point among or around them, and an optional exponent. -/
def decimalValue (cs : List Char) : Option ℚ :=
  let mantissa := cs.takeWhile (fun c => c ≠ 'e' ∧ c ≠ 'E')
  let exponent := (cs.drop mantissa.length).tail
  let whole := mantissa.takeWhile (· ≠ '.')
  let fraction := (mantissa.drop whole.length).tail
  let scale : Option ℤ := if mantissa.length = cs.length then some 0 else signedValue exponent
  match digitsValue 10 (whole ++ fraction), scale with
  | some n, some e => some ((n : ℚ) * (10 : ℚ) ^ (e - fraction.length))
  | _, _ => none

/-- A literal of a numeric string without a sign. -/
def unsignedValue (cs : List Char) : Option JsNumber :=
  if cs = "Infinity".toList then some (.infinity false) else (decimalValue cs).map .finite

/-- White space and line terminators, which `ToNumber` of a string strips from both ends. -/
def isStrWhiteSpace (c : Char) : Bool :=
  c.toNat ∈ [0x9, 0xA, 0xB, 0xC, 0xD, 0x20, 0xA0, 0x1680, 0x2028, 0x2029, 0x202F, 0x205F, 0x3000, 0xFEFF]
    || (0x2000 ≤ c.toNat && c.toNat ≤ 0x200A)

/-- `Number(s)` before rounding, `none` for `NaN`. -/
def stringToNumber (s : String) : Option JsNumber :=
  let cs := (s.toList.dropWhile isStrWhiteSpace).reverse.dropWhile isStrWhiteSpace |>.reverse
  match cs with
  | [] => some (.finite 0)
  | '0' :: 'x' :: ds | '0' :: 'X' :: ds => (digitsValue 16 ds).map (fun n => .finite n)
  | '0' :: 'o' :: ds | '0' :: 'O' :: ds => (digitsValue 8 ds).map (fun n => .finite n)
  | '0' :: 'b' :: ds | '0' :: 'B' :: ds => (digitsValue 2 ds).map (fun n => .finite n)
  | '-' :: ds =>
    (unsignedValue ds).map (fun n =>
      match n with
      | .finite q => .finite (-q)
      | .infinity _ => .infinity true)
  | '+' :: ds => unsignedValue ds
  | ds => unsignedValue ds

/-- `Number(s) > 0`. A positive rational up to half the least positive double rounds to zero. -/
def stringPositive (s : String) : Bool :=
  match stringToNumber s with
  | some (.finite q) => decide ((1 : ℚ) / 2 ^ 1075 < q)
  | some (.infinity negative) => !negative
  | none => false

/-- `v > 0`, for a value that converts to a string. The text of an array of one element is the element's text, which reads
back as the number when it is one; a longer array's text has a comma and an object's text is a name, so both compare as
`NaN`. -/
def positive : JsonValue → Bool
  | null => false
  | bool b => b
  | num n => n.positive
  | str s => stringPositive s
  | arr [num n] => n.positive
  | arr [str s] => stringPositive s
  | arr [arr elems] => positive (arr elems)
  | arr _ => false
  | obj _ => false

end JsonValue
