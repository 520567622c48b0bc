import ModelVault.Text.Hexadecimal

/-!
Byte strings as lists of octets: their text, their hexadecimal form and their division into pieces.
-/

namespace ModelVault

/-- An octet string. -/
abbrev Bytes := List UInt8

namespace Bytes

def ofText (text : String) : Bytes :=
  text.toUTF8.data.toList

/-- The text whose UTF-8 octets these are, if there is one. -/
def text? (bytes : Bytes) : Option String :=
  String.fromUTF8? ⟨bytes.toArray⟩

private def hexDigit (nibble : UInt8) : Char :=
  Char.ofNat (if nibble < 10 then 48 + nibble.toNat else 87 + nibble.toNat)

/-- Two lowercase hexadecimal digits an octet, the high half first. -/
def hex (bytes : Bytes) : String :=
  String.ofList (bytes.flatMap fun (octet : UInt8) => [hexDigit (octet >>> 4), hexDigit (octet &&& 15)])

private def ofDigits? : List Char → Option Bytes
  | [] => some []
  | high :: low :: rest => do
    let octet := 16 * (← Text.hexValue? high) + (← Text.hexValue? low)
    return UInt8.ofNat octet :: (← ofDigits? rest)
  | [_] => none

/-- The octets that hexadecimal digits write, two for each. -/
def ofHex? (text : String) : Option Bytes :=
  ofDigits? text.toList

/-- The octets of `value` modulo `256 ^ width`, least significant first. -/
def ofNatLittle : Nat → Nat → Bytes
  | 0, _ => []
  | width + 1, value => UInt8.ofNat value :: ofNatLittle width (value / 256)

/-- The number with these octets, least significant first. -/
def toNatLittle (bytes : Bytes) : Nat :=
  bytes.foldr (fun octet high => octet.toNat + 256 * high) 0

@[simp] theorem text?_ofText (text : String) : text? (ofText text) = some text := by
  simp [text?, ofText, String.fromUTF8?, String.fromUTF8, text.isValidUTF8]

@[simp] theorem length_ofNatLittle (width value : Nat) :
    (ofNatLittle width value).length = width := by
  induction width generalizing value with
  | zero => rfl
  | succ width ih => simp [ofNatLittle, ih]

theorem toNatLittle_ofNatLittle (width value : Nat) :
    toNatLittle (ofNatLittle width value) = value % Nat.pow 256 width := by
  induction width generalizing value with
  | zero => simp [ofNatLittle, toNatLittle, Nat.mod_one]
  | succ width ih =>
    have high := ih (value / 256)
    simp only [toNatLittle] at high
    have low : (UInt8.ofNat value).toNat = value % 256 := by simp
    have power : Nat.pow 256 (width + 1) = 256 * Nat.pow 256 width := Nat.mul_comm _ _
    rw [ofNatLittle, toNatLittle, List.foldr_cons, high, low, power, Nat.mod_mul]

end Bytes

/-- Consecutive pieces of `width` items, the last one possibly shorter; a width of zero acts as one. -/
def splitEvery (width : Nat) : List α → List (List α)
  | [] => []
  | head :: tail => (head :: tail.take (width - 1)) :: splitEvery width (tail.drop (width - 1))
termination_by items => items.length
decreasing_by simp only [List.length_drop, List.length_cons]; omega

end ModelVault
