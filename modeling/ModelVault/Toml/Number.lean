import ModelVault.Config.Setting
import ModelVault.Number.Signed
import ModelVault.Toml.Token

/-! The numbers of TOML. -/

namespace ModelVault.Toml

/-- A run of digits at the front of a word, single underscores between them left out, and the rest of the
word. `first` says that no digit has come, `zero` that the first one was a zero which has to stand alone,
and `underscore` that a digit has to follow. -/
def digitRun? (isDigit : Char → Bool) (first zero underscore : Bool) :
    List Char → Option (List Char × List Char)
  | [] => if first || underscore then none else some ([], [])
  | c :: rest =>
    if isDigit c then
      if zero then none
      else (digitRun? isDigit false false false rest).map fun (digits, rest) => (c :: digits, rest)
    else if c = '_' ∧ !first ∧ !underscore then digitRun? isDigit false zero true rest
    else if first || underscore then none
    else some ([], c :: rest)

/-- Digits at the front of a word, in which a zero may lead. -/
def freeDigits? (isDigit : Char → Bool) (word : List Char) : Option (List Char × List Char) :=
  digitRun? isDigit true false false word

/-- Decimal digits at the front of a word, in which a zero stands alone. -/
def strictDigits? (word : List Char) : Option (List Char × List Char) :=
  match word with
  | '0' :: rest => (digitRun? Text.isDigit false true false rest).map fun (digits, rest) => ('0' :: digits, rest)
  | _ => digitRun? Text.isDigit true false false word

/-- A sign before digits, true for minus. -/
def takeSign (word : List Char) : Bool × List Char :=
  match word with
  | '-' :: rest => (true, rest)
  | '+' :: rest => (false, rest)
  | _ => (false, word)

private def inRange (value : Int) : Option Setting :=
  if IsInt64 value then some (.integer value) else none

private def isDigitOf (base : Nat) (c : Char) : Bool :=
  (Text.hexValue? c).any (· < base)

private def basedInteger? (base : Nat) (word : List Char) : Option Setting :=
  match freeDigits? (isDigitOf base) word with
  | some (digits, []) =>
    inRange (digits.foldl (fun value c => base * value + (Text.hexValue? c).getD 0) 0 : Nat)
  | _ => none

private def integer? (word : List Char) : Option Setting :=
  let (negative, word) := takeSign word
  match strictDigits? word with
  | some (digits, []) =>
    let magnitude : Int := Text.ofDigits digits
    inRange (if negative then -magnitude else magnitude)
  | _ => none

private def exponent? (suffix rest : List Char) : Option (Int × List Char) :=
  match suffix with
  | [] => some (0, rest)
  | [_] =>
    let rest := (eat? .plus rest).getD rest
    match Token.next? rest with
    | some (.bare word, rest) =>
      match freeDigits? Text.isDigit word with
      | some (digits, []) => some (Text.ofDigits digits, rest)
      | _ => none
    | _ => none
  | _ :: word =>
    let (negative, word) := takeSign word
    match freeDigits? Text.isDigit word with
    | some (digits, []) =>
      let magnitude : Int := Text.ofDigits digits
      some (if negative then -magnitude else magnitude, rest)
    | _ => none

private def isMarked (suffix : List Char) : Bool :=
  match suffix with
  | [] => true
  | mark :: _ => mark = 'e' || mark = 'E'

private def decimal? (word : List Char) (fraction : Option (List Char)) (rest : List Char) :
    Option (Setting × List Char) := do
  let (negative, word) := takeSign word
  let (whole, suffix) ← strictDigits? word
  let (decimals, suffix) ← match fraction with
    | none => some ([], suffix)
    | some fraction => if suffix.isEmpty then freeDigits? Text.isDigit fraction else none
  if !isMarked suffix then none
  let (power, rest) ← exponent? suffix rest
  match Binary64.ofDecimal negative (Text.ofDigits (whole ++ decimals)) (power - decimals.length) with
  | .infinite _ => none
  | value => return (.decimal value, rest)

private def special? (word : List Char) : Option Setting :=
  let (negative, word) := takeSign word
  if word = "inf".toList then some (.decimal (.infinite negative))
  else if word = "nan".toList then some (.decimal .notANumber)
  else none

/-- The number that begins with a word, and the text behind it: whole numbers of 64 bits in four bases, and
decimals, whose fraction and exponent may take the words that follow. -/
def number? (word rest : List Char) : Option (Setting × List Char) :=
  match word with
  | '0' :: 'x' :: digits => (basedInteger? 16 digits).map (·, rest)
  | '0' :: 'o' :: digits => (basedInteger? 8 digits).map (·, rest)
  | '0' :: 'b' :: digits => (basedInteger? 2 digits).map (·, rest)
  | _ =>
    if word.contains 'e' || word.contains 'E' then decimal? word none rest
    else
      match eat? .period rest with
      | some rest =>
        match Token.next? rest with
        | some (.bare fraction, rest) => decimal? word (some fraction) rest
        | _ => none
      | none => ((special? word).or (integer? word)).map (·, rest)

end ModelVault.Toml
