import OpmuxGateway.Construction.Core.Text

/-
This file gives the addresses of the standard library and their parser.
-/

namespace Opmux

structure Ipv4Addr where
  a : Nat
  b : Nat
  c : Nat
  d : Nat
  deriving DecidableEq, Repr

/-- An address has eight groups of sixteen bits. -/
structure Ipv6Addr where
  groups : List Nat
  deriving DecidableEq, Repr

inductive IpAddr where
  | v4 (address : Ipv4Addr)
  | v6 (address : Ipv6Addr)
  deriving DecidableEq, Repr

inductive SocketAddr where
  | v4 (ip : Ipv4Addr) (port : Nat)
  | v6 (ip : Ipv6Addr) (port scopeId : Nat)
  deriving DecidableEq, Repr

def IpAddr.isLoopback : IpAddr → Bool
  | .v4 address => address.a = 127
  | .v6 address => address.groups = [0, 0, 0, 0, 0, 0, 0, 1]

/-- This operation is `char::to_digit`. -/
def toDigit (radix : Nat) (c : Char) : Option Nat :=
  let value :=
    if '0' ≤ c ∧ c ≤ '9' then c.toNat - '0'.toNat
    else if 'a' ≤ c ∧ c ≤ 'z' then 10 + (c.toNat - 'a'.toNat)
    else if 'A' ≤ c ∧ c ≤ 'Z' then 10 + (c.toNat - 'A'.toNat)
    else radix
  if value < radix then some value else none

namespace AddrParser

/-- A reader takes its value from the front of the text, or the text stays as it was. -/
abbrev Reader (Value : Type) := List Char → Option (Value × List Char)

def readGivenChar (target : Char) : List Char → Option (List Char)
  | [] => none
  | c :: rest => if c = target then some rest else none

/-- The separator stands before each item except the first one. -/
def readSeparator {Value : Type} (separator : Char) (index : Nat) (inner : Reader Value) :
    Reader Value := fun text =>
  if index = 0 then inner text else readGivenChar separator text >>= inner

/-- A number has at most the given digits and fits its type. -/
def readNumber (radix : Nat) (maxDigits : Option Nat) (allowZeroPrefix : Bool) (most : Nat) :
    Reader Nat := fun text =>
  let digits := text.takeWhile fun c => (toDigit radix c).isSome
  let value := digits.foldl (fun value c => radix * value + (toDigit radix c).getD 0) 0
  if digits.isEmpty || maxDigits.any (· < digits.length) ||
      (!allowZeroPrefix && digits.head? = some '0' && 1 < digits.length) || most < value then none
  else some (value, text.drop digits.length)

def readIpv4Addr : Reader Ipv4Addr := fun text => do
  let octet := readNumber 10 (some 3) false 255
  let (a, text) ← readSeparator '.' 0 octet text
  let (b, text) ← readSeparator '.' 1 octet text
  let (c, text) ← readSeparator '.' 2 octet text
  let (d, text) ← readSeparator '.' 3 octet text
  return (⟨a, b, c, d⟩, text)

/-- The groups end at the limit, at a missing group, or after an embedded IPv4 address. -/
def readGroups : (limit : Nat) → List Nat → List Char → List Nat × Bool × List Char
  | 0, groups, text => (groups, false, text)
  | limit + 1, groups, text =>
      let embedded :=
        if limit = 0 then none else readSeparator ':' groups.length readIpv4Addr text
      match embedded with
      | some (address, rest) =>
          (groups ++ [256 * address.a + address.b, 256 * address.c + address.d], true, rest)
      | none =>
          match readSeparator ':' groups.length (readNumber 16 (some 4) true 65535) text with
          | some (group, rest) => readGroups limit (groups ++ [group]) rest
          | none => (groups, false, text)

/-- The groups around `::` leave room for a group of zeros. -/
def readIpv6Addr : Reader Ipv6Addr := fun text =>
  let (head, headIpv4, rest) := readGroups 8 [] text
  if head.length = 8 then some (⟨head⟩, rest)
  else if headIpv4 then none
  else do
    let rest ← readGivenChar ':' rest
    let rest ← readGivenChar ':' rest
    let (tail, _, rest) := readGroups (8 - (head.length + 1)) [] rest
    return (⟨head ++ List.replicate (8 - head.length - tail.length) 0 ++ tail⟩, rest)

def readIpAddr : Reader IpAddr := fun text =>
  match readIpv4Addr text with
  | some (address, rest) => some (.v4 address, rest)
  | none => do
      let (address, rest) ← readIpv6Addr text
      return (.v6 address, rest)

def readPort : Reader Nat := fun text => do
  readNumber 10 none true 65535 (← readGivenChar ':' text)

def readScopeId : Reader Nat := fun text => do
  readNumber 10 none true u32Max (← readGivenChar '%' text)

def readSocketAddrV4 : Reader SocketAddr := fun text => do
  let (ip, text) ← readIpv4Addr text
  let (port, text) ← readPort text
  return (.v4 ip port, text)

/-- The scope identifier may be omitted. -/
def readSocketAddrV6 : Reader SocketAddr := fun text => do
  let text ← readGivenChar '[' text
  let (ip, text) ← readIpv6Addr text
  let (scopeId, text) := (readScopeId text).getD (0, text)
  let text ← readGivenChar ']' text
  let (port, text) ← readPort text
  return (.v6 ip port scopeId, text)

def readSocketAddr : Reader SocketAddr := fun text =>
  readSocketAddrV4 text <|> readSocketAddrV6 text

/-- A value is parsed when its reader takes the whole text. -/
def parseWith {Value : Type} (inner : Reader Value) (text : String) : Option Value := do
  let (value, rest) ← inner text.toList
  if rest.isEmpty then some value else none

end AddrParser

def IpAddr.fromStr : String → Option IpAddr := AddrParser.parseWith AddrParser.readIpAddr

def SocketAddr.fromStr : String → Option SocketAddr :=
  AddrParser.parseWith AddrParser.readSocketAddr

end Opmux
