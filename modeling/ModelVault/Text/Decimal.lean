/-!
Decimal numerals: reading a run of ASCII digits and writing a number at a least width.
-/

namespace ModelVault.Text

def isDigit (c : Char) : Bool :=
  '0' ≤ c ∧ c ≤ '9'

/-- The number that the digits write, leading zeros included; the empty run writes zero. -/
def ofDigits (digits : List Char) : Nat :=
  digits.foldl (fun value c => 10 * value + (c.toNat - 48)) 0

/-- The number, if it lies below the bound. -/
def below? (bound number : Nat) : Option Nat :=
  if number < bound then some number else none

/-- The number with one more digit behind it, if both ten times the number and what it becomes lie below the bound. -/
def appendDigit? (bound number : Nat) (c : Char) : Option Nat := do
  let shifted ← below? bound (10 * number)
  below? bound (shifted + (c.toNat - 48))

/-- The number that the digits write, if nothing on the way to it reaches the bound. -/
def ofDigitsBelow? (bound : Nat) (digits : List Char) : Option Nat :=
  digits.foldlM (appendDigit? bound) 0

/-- The number written by a text of ASCII digits and nothing else, which holds at least one. -/
def numeral? (text : String) : Option Nat :=
  if !text.isEmpty && text.toList.all isDigit then some (ofDigits text.toList) else none

/-- The number written by digits that a plus sign may precede. -/
def unsigned? (text : String) : Option Nat :=
  match text.toList with
  | '+' :: digits => numeral? (String.ofList digits)
  | _ => numeral? text

/-- The number written by digits that a sign may precede. -/
def signed? (text : String) : Option Int :=
  match text.toList with
  | '-' :: digits => (numeral? (String.ofList digits)).map fun magnitude => -(magnitude : Int)
  | _ => (unsigned? text).map Int.ofNat

/-- The decimal digits of a number, filled with zeros on the left up to `width`. -/
def paddedNumeral (width number : Nat) : String :=
  let digits := toString number
  String.ofList (List.replicate (width - digits.length) '0') ++ digits

/-- The text with blanks after it up to `width` characters. -/
def padRight (width : Nat) (text : String) : String :=
  text ++ String.ofList (List.replicate (width - text.length) ' ')

/-- The text with blanks before it up to `width` characters. -/
def padLeft (width : Nat) (text : String) : String :=
  String.ofList (List.replicate (width - text.length) ' ') ++ text

end ModelVault.Text
