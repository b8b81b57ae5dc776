import OpmuxGateway.Construction.Core.Time

/-
This file gives the string operations of the standard library.
-/

namespace Opmux

/-- This predicate is the Unicode `White_Space` property. -/
def isWhitespace (c : Char) : Bool :=
  (0x9 ≤ c.toNat && c.toNat ≤ 0xD) || c.toNat = 0x20 || c.toNat = 0x85 || c.toNat = 0xA0 ||
    c.toNat = 0x1680 || (0x2000 ≤ c.toNat && c.toNat ≤ 0x200A) || c.toNat = 0x2028 ||
    c.toNat = 0x2029 || c.toNat = 0x202F || c.toNat = 0x205F || c.toNat = 0x3000

/-- This operation is `str::trim`. -/
def trim (value : String) : String :=
  String.ofList (((value.toList.dropWhile isWhitespace).reverse.dropWhile isWhitespace).reverse)

/-- The decimal value of a list of digits. -/
def digitsValue (digits : List Char) : Nat :=
  digits.foldl (fun value digit => 10 * value + (digit.toNat - '0'.toNat)) 0

/-- This operation is `str::parse::<u64>` on a nonempty string of digits. -/
def parseU64 (digits : String) : Option Nat :=
  let value := digitsValue digits.toList
  if value ≤ u64Max then some value else none

/-- This operation is `str::eq_ignore_ascii_case`. -/
def eqIgnoreAsciiCase (first second : String) : Bool :=
  first.toList.map Char.toLower == second.toList.map Char.toLower

/-- A header value is text when each byte is a tab or a visible ASCII character. -/
def headerToStr (value : List UInt8) : Option String :=
  if value.all fun byte => (32 ≤ byte.toNat && byte.toNat < 127) || byte.toNat = 9 then
    some (String.ofList (value.map fun byte => Char.ofNat byte.toNat))
  else none

end Opmux
