import ModelVault.Text.Decimal

/-! The dates and times of TOML, in the form that readers of the document get: as text. -/

namespace ModelVault.Toml

private def twoDigits? : List Char → Option (Nat × List Char)
  | a :: b :: rest => if Text.isDigit a ∧ Text.isDigit b then some (Text.ofDigits [a, b], rest) else none
  | _ => none

private def mark? (mark : Char) : List Char → Option (List Char)
  | c :: rest => if c = mark then some rest else none
  | [] => none

private def date? (text : List Char) : Option (String × List Char) := do
  let (century, text) ← twoDigits? text
  let (year, text) ← twoDigits? text
  let (month, text) ← twoDigits? (← mark? '-' text)
  let (day, text) ← twoDigits? (← mark? '-' text)
  if month < 1 ∨ 12 < month ∨ day < 1 ∨ 31 < day then none
  return (Text.paddedNumeral 4 (100 * century + year) ++ "-" ++ Text.paddedNumeral 2 month ++ "-" ++
    Text.paddedNumeral 2 day, text)

/-- Nine decimals at most count, and zeros at their end are left out. -/
private def fraction? (text : List Char) : Option (String × List Char) :=
  match text with
  | '.' :: text =>
    let digits := text.takeWhile Text.isDigit
    let significant := ((digits.take 9).reverse.dropWhile (· = '0')).reverse
    if digits.isEmpty then none
    else some (if significant.isEmpty then "" else "." ++ String.ofList significant,
      text.drop digits.length)
  | _ => some ("", text)

private def time? (text : List Char) : Option (String × List Char) := do
  let (hour, text) ← twoDigits? text
  let (minute, text) ← twoDigits? (← mark? ':' text)
  let (second, text) ← twoDigits? (← mark? ':' text)
  if 24 < hour ∨ 59 < minute ∨ 60 < second then none
  let (fraction, text) ← fraction? text
  return (Text.paddedNumeral 2 hour ++ ":" ++ Text.paddedNumeral 2 minute ++ ":" ++
    Text.paddedNumeral 2 second ++ fraction, text)

private def offset? (text : List Char) : Option (String × List Char) := do
  match text with
  | [] => return ("", [])
  | sign :: text =>
    if sign = 'Z' ∨ sign = 'z' then return ("Z", text)
    if sign ≠ '+' ∧ sign ≠ '-' then none
    let (hours, text) ← twoDigits? text
    let (minutes, text) ← twoDigits? (← mark? ':' text)
    let sign := if sign = '-' ∧ 0 < hours then "-" else "+"
    return (sign ++ Text.paddedNumeral 2 hours ++ ":" ++ Text.paddedNumeral 2 minutes, text)

/-- A date, a time, or both with an offset if there is one, in their regular form. -/
def timestamp? (text : List Char) : Option String := do
  if (text.drop 2).head? = some ':' then
    let (time, rest) ← time? text
    if rest.isEmpty then return time else none
  else
    let (date, rest) ← date? text
    match rest with
    | [] => return date
    | mark :: rest =>
      if mark ≠ 'T' ∧ mark ≠ 't' ∧ mark ≠ ' ' then none
      let (time, rest) ← time? rest
      let (offset, rest) ← offset? rest
      if rest.isEmpty then return date ++ "T" ++ time ++ offset else none

end ModelVault.Toml
