import ModelVault.Text.Decimal
import ModelVault.Text.Hexadecimal

/-!
Socket addresses in numeric form: four decimal octets, or eight hexadecimal groups in brackets of which one
run of zeros may be left out.
-/

namespace ModelVault

/-- An address of four octets. -/
structure Ipv4 where
  first : UInt8
  second : UInt8
  third : UInt8
  fourth : UInt8
  deriving DecidableEq

/-- An address of eight groups. -/
structure Ipv6 where
  groups : List UInt16
  length_eq : groups.length = 8
  deriving DecidableEq

/-- An address and a port. The address of eight groups has a scope, zero unless it is given. -/
inductive SocketAddress where
  | v4 (address : Ipv4) (port : UInt16)
  | v6 (address : Ipv6) (scope : UInt32) (port : UInt16)
  deriving DecidableEq

namespace SocketAddress

/-- What is behind a character at the front of a text. -/
def behind? (c : Char) : List Char → Option (List Char)
  | d :: rest => if d = c then some rest else none
  | [] => none

/-- One of the 22 hexadecimal digits. -/
def isHexDigit (c : Char) : Bool :=
  (Text.hexValue? c).isSome

/-- A number below a limit at the front of a text. -/
def decimal? (limit : Nat) (text : List Char) : Option (Nat × List Char) :=
  let digits := text.takeWhile Text.isDigit
  if digits.isEmpty ∨ limit ≤ Text.ofDigits digits then none
  else some (Text.ofDigits digits, text.drop digits.length)

/-- An octet has no leading zeros. -/
def octet? (text : List Char) : Option (UInt8 × List Char) := do
  let digits := text.takeWhile Text.isDigit
  if digits.head? = some '0' ∧ 1 < digits.length then none
  if 3 < digits.length then none
  let (value, rest) ← decimal? 256 text
  return (UInt8.ofNat value, rest)

/-- A group has one to four digits. -/
def group? (text : List Char) : Option (UInt16 × List Char) :=
  let digits := text.takeWhile isHexDigit
  if digits.isEmpty ∨ 4 < digits.length then none
  else
    let value := digits.foldl (fun value c => 16 * value + (Text.hexValue? c).getD 0) 0
    some (UInt16.ofNat value, text.drop digits.length)

/-- Four octets at the front of a text. -/
def ipv4? (text : List Char) : Option (Ipv4 × List Char) := do
  let (first, text) ← octet? text
  let (second, text) ← octet? (← behind? '.' text)
  let (third, text) ← octet? (← behind? '.' text)
  let (fourth, text) ← octet? (← behind? '.' text)
  return (⟨first, second, third, fourth⟩, text)

/-- The two groups that four octets fill. -/
def Ipv4.groups (address : Ipv4) : List UInt16 :=
  [UInt16.ofNat (256 * address.first.toNat + address.second.toNat),
    UInt16.ofNat (256 * address.third.toNat + address.fourth.toNat)]

/-- As many groups as there are at the front of a text, up to a number. Four octets may take the place of the
last two; whether they did is the second part of the result. -/
def groups (isFirst : Bool) : Nat → List Char → List UInt16 × Bool × List Char
  | 0, text => ([], false, text)
  | more + 1, text =>
    match if isFirst then some text else behind? ':' text with
    | none => ([], false, text)
    | some inner =>
      match if more = 0 then none else ipv4? inner with
      | some (address, rest) => (Ipv4.groups address, true, rest)
      | none =>
        match group? inner with
        | none => ([], false, text)
        | some (value, rest) =>
          let (values, octets, rest) := groups false more rest
          (value :: values, octets, rest)

/-- Eight groups at the front of a text. Two colons stand for at least one zero. -/
def ipv6? (text : List Char) : Option (Ipv6 × List Char) := do
  let (front, octets, rest) := groups true 8 text
  if h : front.length = 8 then return (⟨front, h⟩, rest)
  if octets then none
  let rest ← behind? ':' (← behind? ':' rest)
  let (back, _, rest) := groups true (7 - front.length) rest
  let values := front ++ List.replicate (8 - front.length - back.length) 0 ++ back
  if h : values.length = 8 then return (⟨values, h⟩, rest) else none

/-- A port behind a colon, and nothing behind it. -/
def port? (text : List Char) : Option UInt16 := do
  let (port, rest) ← decimal? 65536 (← behind? ':' text)
  if rest.isEmpty then return UInt16.ofNat port else none

/-- The address that a text writes. -/
def read? (text : String) : Option SocketAddress :=
  match text.toList with
  | '[' :: rest => do
    let (address, rest) ← ipv6? rest
    let (scope, rest) := ((behind? '%' rest).bind (decimal? 4294967296)).getD (0, rest)
    return .v6 address (UInt32.ofNat scope) (← port? (← behind? ']' rest))
  | text => do
    let (address, rest) ← ipv4? text
    return .v4 address (← port? rest)

/-- The octets with points between them. -/
def Ipv4.text (address : Ipv4) : String :=
  ".".intercalate ([address.first, address.second, address.third, address.fourth].map toString)

/-- The groups with colons between them. -/
private def joined (groups : List UInt16) : String :=
  ":".intercalate (groups.map fun group => Text.hexNumeral group.toNat)

private def zeroRun (groups : List UInt16) : Nat :=
  (groups.takeWhile (· = 0)).length

/-- The length of the longest run of zeros and the place of the first one that is so long. -/
private def longestRun : List UInt16 → Nat × Nat
  | [] => (0, 0)
  | group :: rest =>
    let (length, start) := longestRun rest
    let here := zeroRun (group :: rest)
    if length ≤ here then (here, 0) else (length, start + 1)

/-- The shortest form: the first of the longest runs of at least two zeros is left out, and an address that
stands for four octets shows them. -/
def Ipv6.text (address : Ipv6) : String :=
  match address.groups with
  | [0, 0, 0, 0, 0, 65535, high, low] =>
    let octets : Ipv4 := ⟨(high >>> 8).toUInt8, high.toUInt8, (low >>> 8).toUInt8, low.toUInt8⟩
    "::ffff:" ++ Ipv4.text octets
  | groups =>
    let (length, start) := longestRun groups
    if 1 < length then joined (groups.take start) ++ "::" ++ joined (groups.drop (start + length))
    else joined groups

/-- The address, in brackets if it has groups, and the port. -/
def text : SocketAddress → String
  | v4 address port => Ipv4.text address ++ ":" ++ toString port
  | v6 address scope port =>
    let scope := if scope = 0 then "" else "%" ++ toString scope
    "[" ++ Ipv6.text address ++ scope ++ "]:" ++ toString port

/-- Every host has the address: it stands for the host itself or for all addresses it has. -/
def isOwn : SocketAddress → Bool
  | v4 address _ => address.first = 127 || address = ⟨0, 0, 0, 0⟩
  | v6 address _ _ => address.groups.dropLast.all (· = 0) && address.groups.getLast?.any (· ≤ 1)

end SocketAddress

end ModelVault
