import OpmuxGateway.Library.OrderedMap

/-
This file gives JSON values with the number forms of the JSON library.
-/

namespace Opmux

/-- A double is not a number, infinite, or a finite rational value. -/
inductive F64 where
  | nan
  | infinite (negative : Bool)
  | finite (value : ℚ)
  deriving DecidableEq, Repr

/-- This rounding keeps 53 significant bits and breaks ties to even. -/
def F64.roundNat (value : Nat) : Nat :=
  let unit := 2 ^ (value.log2 - 52)
  let quotient := value / unit
  let rest := value % unit
  if 2 * rest < unit ∨ (2 * rest = unit ∧ quotient % 2 = 0) then quotient * unit
  else (quotient + 1) * unit

/-- This conversion is `value as f64` for a machine integer. -/
def F64.ofInt (value : Int) : F64 :=
  .finite (if value < 0 then -(F64.roundNat value.natAbs : ℚ) else F64.roundNat value.natAbs)

/-- A JSON number is an unsigned integer, a negative integer, or a double. -/
inductive JsonNumber where
  | posInt (value : UInt64)
  | negInt (value : Int64)
  | float (value : F64)
  deriving DecidableEq, Repr

namespace JsonNumber

def asI64 : JsonNumber → Option Int
  | .posInt value => if value.toNat < 2 ^ 63 then some value.toNat else none
  | .negInt value => some value.toInt
  | .float _ => none

def asU64 : JsonNumber → Option Nat
  | .posInt value => some value.toNat
  | .negInt _ | .float _ => none

def asF64 : JsonNumber → F64
  | .posInt value => F64.ofInt value.toNat
  | .negInt value => F64.ofInt value.toInt
  | .float value => value

end JsonNumber

/-- An object lists its entries in the order of the text. -/
inductive Json where
  | null
  | bool (value : Bool)
  | number (value : JsonNumber)
  | string (value : String)
  | array (items : List Json)
  | object (entries : List (String × Json))

namespace Json

/-- A key maps to its last entry. -/
def get (value : Json) (key : String) : Option Json :=
  match value with
  | .object entries => (entries.reverse.find? fun entry => entry.1 = key).map Prod.snd
  | _ => none

/-- The entries of an object are read in the order of their keys. -/
def asObject : Json → Option (List (String × Json))
  | .object entries => some (OrderedMap.ofEntries entries)
  | _ => none

mutual

/-- A parsed value keeps the ordered entries of each of its objects. -/
def canonical : Json → Json
  | .array items => .array (canonicalItems items)
  | .object entries => .object (OrderedMap.ofEntries (canonicalEntries entries))
  | .null => .null
  | .bool value => .bool value
  | .number value => .number value
  | .string value => .string value

def canonicalItems : List Json → List Json
  | [] => []
  | item :: rest => canonical item :: canonicalItems rest

def canonicalEntries : List (String × Json) → List (String × Json)
  | [] => []
  | (key, value) :: rest => (key, canonical value) :: canonicalEntries rest

end

def asBool : Json → Option Bool
  | .bool value => some value
  | _ => none

def asStr : Json → Option String
  | .string value => some value
  | _ => none

def asArray : Json → Option (List Json)
  | .array items => some items
  | _ => none

def asI64 : Json → Option Int
  | .number value => value.asI64
  | _ => none

def asU64 : Json → Option Nat
  | .number value => value.asU64
  | _ => none

def asF64 : Json → Option F64
  | .number value => some value.asF64
  | _ => none

end Json

end Opmux
