import ModelVault.Bytes

/-!
Which texts are addresses of a service: references with an optional scheme, an authority, and behind a scheme
a path and a query.
-/

namespace ModelVault.Endpoint

private def octets (text : String) : Bytes := Bytes.ofText text

private def isLetter (octet : UInt8) : Bool :=
  (65 ≤ octet && octet ≤ 90) || (97 ≤ octet && octet ≤ 122)

private def isDigitOctet (octet : UInt8) : Bool :=
  48 ≤ octet && octet ≤ 57

private def isAnyOf (text : String) (octet : UInt8) : Bool :=
  (octets text).contains octet

def isSchemeOctet (octet : UInt8) : Bool :=
  isLetter octet || isDigitOctet octet || isAnyOf "+-.~" octet

/-- An octet that may stand in an authority, apart from the percent sign. -/
def isAuthorityOctet (octet : UInt8) : Bool :=
  isLetter octet || isDigitOctet octet || isAnyOf "!$&'()*+,-.;=_~:[]@" octet

/-- An octet that ends an authority. -/
def endsAuthority (octet : UInt8) : Bool :=
  isAnyOf "/?#" octet

/-- An octet of a path. Quotes and braces are let through. -/
def isPathOctet (octet : UInt8) : Bool :=
  127 ≤ octet || octet = 0x21 || (0x24 ≤ octet && octet ≤ 0x3b) || octet = 0x3d ||
    (0x40 ≤ octet && octet ≤ 0x5f) || (0x61 ≤ octet && octet ≤ 0x7e) || octet = 0x22

def isQueryOctet (octet : UInt8) : Bool :=
  octet = 0x21 || (0x24 ≤ octet && octet ≤ 0x3b) || octet = 0x3d || 0x3f ≤ octet

/-- What an authority has shown so far. -/
structure Authority where
  colons : Nat
  opened : Bool
  closed : Bool
  percent : Bool
  endsWithAt : Bool
  deriving DecidableEq

namespace Authority

/-- An authority of which nothing has come. -/
def empty : Authority := ⟨0, false, false, false, false⟩

/-- Take in an octet. What stands before an at sign or in brackets is no port and may hold percent signs. -/
def take? (authority : Authority) (octet : UInt8) : Option Authority :=
  let authority := { authority with endsWithAt := false }
  if octet = 58 then
    if 8 ≤ authority.colons then none else some { authority with colons := authority.colons + 1 }
  else if octet = 91 then
    if authority.percent || authority.opened then none else some { authority with opened := true }
  else if octet = 93 then
    if !authority.opened || authority.closed then none
    else some { authority with closed := true, colons := 0, percent := false }
  else if octet = 64 then some { authority with colons := 0, percent := false, endsWithAt := true }
  else if octet = 37 then some { authority with percent := true }
  else if isAuthorityOctet octet then some authority
  else none

/-- The authority is whole: brackets in pairs, at most one port, and a host behind an at sign. -/
def isWhole (authority : Authority) : Bool :=
  authority.opened == authority.closed && authority.colons ≤ 1 && !authority.endsWithAt &&
    !authority.percent

end Authority

/-- The length of the authority at the front of a text, if it is well formed. -/
def authorityLength? (text : Bytes) : Option Nat := do
  let authority := text.takeWhile (!endsAuthority ·)
  let seen ← authority.foldlM Authority.take? .empty
  if seen.isWhole then return authority.length else none

/-- A path and a query are well formed; what follows a number sign does not count. -/
def isPathAndQuery (text : Bytes) : Bool :=
  let text := text.takeWhile (· ≠ 35)
  let path := text.takeWhile (· ≠ 63)
  let query := text.drop (path.length + 1)
  path.all isPathOctet && query.all isQueryOctet && (Bytes.text? text).isSome

private def lowered (octet : UInt8) : UInt8 :=
  if 65 ≤ octet && octet ≤ 90 then octet + 32 else octet

/-- The text behind a scheme, or nothing in the first part if there is no scheme. A scheme has at most
64 octets. -/
def behindScheme? (text : Bytes) : Option (Option Bytes) :=
  if (text.take 7).map lowered = octets "http://" then some (some (text.drop 7))
  else if (text.take 8).map lowered = octets "https://" then some (some (text.drop 8))
  else
    let scheme := text.takeWhile isSchemeOctet
    if 3 < text.length ∧ (text.drop scheme.length).take 3 = octets "://" then
      if 64 < scheme.length then none else some (some (text.drop (scheme.length + 3)))
    else some none

/-- The text is an address. Without a scheme it is one authority, a star or a path. -/
def isWellFormed (endpoint : String) : Bool :=
  let text := octets endpoint
  if text.isEmpty ∨ 65534 < text.length then false
  else if text.head? = some 47 then text.length = 1 || isPathAndQuery text
  else
    match behindScheme? text with
    | none => false
    | some none => authorityLength? text = some text.length
    | some (some rest) =>
      match authorityLength? rest with
      | none => false
      | some length => length ≠ 0 && isPathAndQuery (rest.drop length)

end ModelVault.Endpoint
