import ModelVault.Text.Decimal

/-!
Binary floating-point numbers of 64 bits as exact values: the nearest number of a decimal, the shortest
decimal that reads back, and rounding to whole numbers.
-/

namespace ModelVault

/-- A number of the format. A finite one is `significand * 2 ^ exponent`, with a significand below `2 ^ 53`
and an exponent from -1074 to 971; unless the exponent is the least, the significand is at least `2 ^ 52`. -/
inductive Binary64 where
  | notANumber
  | infinite (negative : Bool)
  | finite (negative : Bool) (significand : Nat) (exponent : Int)
  deriving DecidableEq

namespace Binary64

def leastExponent : Int := -1074

def greatestExponent : Int := 971

def zero (negative : Bool) : Binary64 := .finite negative 0 leastExponent

/-- A quotient rounded to the nearest whole number; a half goes to the even neighbour. -/
def divideToEven (numerator denominator : Nat) : Nat :=
  let quotient := numerator / denominator
  let remainder := numerator % denominator
  if 2 * remainder < denominator then quotient
  else if denominator < 2 * remainder then quotient + 1
  else quotient + quotient % 2

/-- The numerator and the denominator of a quotient divided by a power of two. -/
def scaled (numerator denominator : Nat) (exponent : Int) : Nat × Nat :=
  if 0 ≤ exponent then (numerator, denominator * Nat.pow 2 exponent.toNat)
  else (numerator * Nat.pow 2 (-exponent).toNat, denominator)

/-- The exponent at which the quotient of two positive numbers has a significand of 53 bits, or the least. -/
def exponentOf (numerator denominator : Nat) : Int :=
  let low := (numerator.log2 : Int) - denominator.log2 - 53
  let (upper, lower) := scaled numerator denominator low
  max (if Nat.pow 2 53 ≤ upper / lower then low + 1 else low) leastExponent

/-- The number nearest to a quotient; of two equally near the one with the even significand. -/
def ofQuotient (negative : Bool) (numerator denominator : Nat) : Binary64 :=
  if numerator = 0 then zero negative
  else
    let exponent := exponentOf numerator denominator
    let (upper, lower) := scaled numerator denominator exponent
    let significand := divideToEven upper lower
    let (significand, exponent) :=
      if significand = Nat.pow 2 53 then (Nat.pow 2 52, exponent + 1) else (significand, exponent)
    if greatestExponent < exponent then .infinite negative else .finite negative significand exponent

/-- The number nearest to `digits * 10 ^ power`. Decimals far outside the range of the format are
decided by their magnitude alone. -/
def ofDecimal (negative : Bool) (digits : Nat) (power : Int) : Binary64 :=
  if digits = 0 then zero negative
  else if 400 < power then .infinite negative
  else if (toString digits).length + power < -400 then zero negative
  else if 0 ≤ power then ofQuotient negative (digits * Nat.pow 10 power.toNat) 1
  else ofQuotient negative digits (Nat.pow 10 (-power).toNat)

private def exponentPart? : List Char → Option Int
  | [] => some 0
  | mark :: rest =>
    if mark = 'e' ∨ mark = 'E' then Text.signed? (String.ofList rest) else none

/-- The number nearest to digits with a point among them or at either end, and a power of ten behind
an `e` if there is one. -/
def ofNumeral? (negative : Bool) (text : List Char) : Option Binary64 :=
  let whole := text.takeWhile Text.isDigit
  let rest := text.dropWhile Text.isDigit
  let (fraction, rest) := match rest with
    | '.' :: rest => (rest.takeWhile Text.isDigit, rest.dropWhile Text.isDigit)
    | _ => ([], rest)
  if whole.isEmpty && fraction.isEmpty then none
  else (exponentPart? rest).map fun power =>
    ofDecimal negative (Text.ofDigits (whole ++ fraction)) (power - fraction.length)

/-- The number that a lowercase text writes, with or without a sign. -/
def ofText? (text : String) : Option Binary64 :=
  let (negative, rest) := match text.toList with
    | '-' :: rest => (true, rest)
    | '+' :: rest => (false, rest)
    | rest => (false, rest)
  if rest = "inf".toList ∨ rest = "infinity".toList then some (.infinite negative)
  else if rest = "nan".toList then some .notANumber
  else ofNumeral? negative rest

/-- The numbers between which all reals round to a significand, as multiples of a quarter of its last
place: the gap below is half as wide where the exponent changes. -/
def neighbourhood (significand : Nat) (exponent : Int) : Nat × Nat :=
  let narrow := significand = Nat.pow 2 52 ∧ leastExponent < exponent
  (4 * significand - (if narrow then 1 else 2), 4 * significand + 2)

/-- Whether a decimal of the grid of a power of ten rounds to a significand; the ends of the
neighbourhood do if the significand is even. -/
def readsBack (significand : Nat) (exponent : Int) (digits : Nat) (power : Int) : Bool :=
  let (low, high) := neighbourhood significand exponent
  let (decimal, grid) :=
    if 0 ≤ power then (digits * Nat.pow 10 power.toNat, 1) else (digits, Nat.pow 10 (-power).toNat)
  let (decimal, grid) := scaled decimal grid (exponent - 2)
  if significand % 2 = 0 then low * grid ≤ decimal ∧ decimal ≤ high * grid
  else low * grid < decimal ∧ decimal < high * grid

/-- The two decimals of a grid around a number, the nearer one first; at a tie the upper one. -/
def gridNeighbours (significand : Nat) (exponent power : Int) : List Nat :=
  let (upper, lower) :=
    if 0 ≤ exponent then (significand * Nat.pow 2 exponent.toNat, 1)
    else (significand, Nat.pow 2 (-exponent).toNat)
  let (upper, lower) :=
    if 0 ≤ power then (upper, lower * Nat.pow 10 power.toNat) else (upper * Nat.pow 10 (-power).toNat, lower)
  let below := upper / lower
  if 2 * (upper % lower) < lower then [below, below + 1] else [below + 1, below]

/-- The shortest decimal that reads back, as digits and a power of ten: the first hit on finer and
finer grids. -/
def shortest (significand : Nat) (exponent : Int) : Nat → Int → Nat × Int
  | 0, power => ((gridNeighbours significand exponent power).headD 0, power)
  | finer + 1, power =>
    match (gridNeighbours significand exponent power).find?
        (readsBack significand exponent · power) with
    | some digits => (digits, power)
    | none => shortest significand exponent finer (power - 1)

/-- A power of ten above a number, from the bits of its significand and its exponent. -/
def decimalMagnitude (significand : Nat) (exponent : Int) : Int :=
  ((significand.log2 + 1 : Int) + exponent) * 30103 / 100000 + 1

/-- Digits and a power of ten without an exponent. -/
def positional (digits : Nat) (power : Int) : String :=
  if 0 ≤ power then toString (digits * Nat.pow 10 power.toNat)
  else
    let places := (-power).toNat
    toString (digits / Nat.pow 10 places) ++ "." ++ Text.paddedNumeral places (digits % Nat.pow 10 places)

/-- The shortest decimal that reads back, written without an exponent; whole numbers have no point. -/
def text : Binary64 → String
  | notANumber => "NaN"
  | infinite negative => (if negative then "-" else "") ++ "inf"
  | finite negative significand exponent =>
    let magnitude :=
      if significand = 0 then "0"
      else
        let (digits, power) :=
          shortest significand exponent 20 (decimalMagnitude significand exponent)
        positional digits power
    (if negative then "-" else "") ++ magnitude

/-- The nearest whole number from 0 to `2 ^ 64 - 1`, a half going up; what is no number counts as zero. -/
def roundToUnsigned : Binary64 → Nat
  | notANumber => 0
  | infinite negative => if negative then 0 else UInt64.size - 1
  | finite negative significand exponent =>
    if negative then 0
    else if 64 < exponent then if significand = 0 then 0 else UInt64.size - 1
    else if 0 ≤ exponent then min (significand * Nat.pow 2 exponent.toNat) (UInt64.size - 1)
    else
      let places := (-exponent).toNat
      min ((significand + Nat.pow 2 (places - 1)) / Nat.pow 2 places) (UInt64.size - 1)

end Binary64

end ModelVault
