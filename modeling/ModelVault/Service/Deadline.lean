import ModelVault.Bytes
import ModelVault.Number.Word
import ModelVault.Text.Decimal
import ModelVault.Time.Moment

/-! How long a request may wait: the time its client grants, and a cap of the server. -/

namespace ModelVault

/-- The units of time that a header can name. -/
inductive TimeUnit where
  | hours
  | minutes
  | seconds
  | milliseconds
  | microseconds
  | nanoseconds

namespace TimeUnit

/-- The letter that stands for a unit. -/
def letter : TimeUnit → Char
  | hours => 'H'
  | minutes => 'M'
  | seconds => 'S'
  | milliseconds => 'm'
  | microseconds => 'u'
  | nanoseconds => 'n'

/-- The unit that a letter stands for. -/
def ofLetter? (letter : Char) : Option TimeUnit :=
  if letter = 'H' then some hours
  else if letter = 'M' then some minutes
  else if letter = 'S' then some seconds
  else if letter = 'm' then some milliseconds
  else if letter = 'u' then some microseconds
  else if letter = 'n' then some nanoseconds
  else none

def nanos : TimeUnit → Nat
  | hours => 60 * 60 * nanosPerSecond
  | minutes => 60 * nanosPerSecond
  | seconds => nanosPerSecond
  | milliseconds => 1000000
  | microseconds => 1000
  | nanoseconds => 1

end TimeUnit

/-- A length of time in machine words: whole seconds, and the nanoseconds past them. -/
structure Span where
  seconds : UInt64
  nanos : UInt32

namespace Span

/-- The nanoseconds of a length of time. -/
def nanoseconds (span : Span) : Nat :=
  span.seconds.toNat * nanosPerSecond + span.nanos.toNat

/-- Units that make up seconds: so many to a second, each of so many nanoseconds. -/
def ofParts (amount perSecond : UInt64) (nanos : UInt32) : Span :=
  ⟨amount / perSecond, (amount % perSecond).toUInt32 * nanos⟩

/-- So many of a unit, unless the seconds in them are no word. -/
def ofUnit? (amount : UInt64) : TimeUnit → Option Span
  | .hours => (Word.product? amount 3600).map (⟨·, 0⟩)
  | .minutes => (Word.product? amount 60).map (⟨·, 0⟩)
  | .seconds => some ⟨amount, 0⟩
  | .milliseconds => some (ofParts amount 1000 1000000)
  | .microseconds => some (ofParts amount 1000000 1000)
  | .nanoseconds => some (ofParts amount 1000000000 1)

end Span

namespace Deadline

/-- The nanoseconds of one to eight digits and a unit. -/
def parse? (text : String) : Option Nat :=
  let digits := text.toList.dropLast
  if digits.length < 1 ∨ 8 < digits.length ∨ !digits.all Text.isDigit then none
  else do
    let unit ← text.toList.getLast? >>= TimeUnit.ofLetter?
    let span ← Span.ofUnit? (.ofNat (Text.ofDigits digits)) unit
    return span.nanoseconds

/-- An octet that a header may hold: no control but the tab. -/
def isHeaderOctet (octet : UInt8) : Bool :=
  octet = 9 || (32 ≤ octet && octet ≠ 127)

/-- An octet of visible ASCII, or the tab. -/
def isVisible (octet : UInt8) : Bool :=
  octet = 9 || (32 ≤ octet && octet < 127)

/-- The time that the value of a header grants. -/
def ofHeader? (value : Bytes) : Option Nat :=
  if value.all isVisible then value.text? >>= parse? else none

/-- The time that the first header grants. -/
def granted? (headers : List Bytes) : Option Nat :=
  headers.head?.bind ofHeader?

/-- The longest wait: what the first header grants, but no more than the cap. -/
def timeout? (headers : List Bytes) (cap : Option Nat) : Option Nat :=
  match granted? headers, cap with
  | some granted, some cap => some (min granted cap)
  | some granted, none => some granted
  | none, cap => cap

/-- The seconds of a reading of the clock, in nanoseconds, are so many as a clock can count. -/
def InClock (reading : Nat) : Prop :=
  ((reading / nanosPerSecond : Nat) : Int) ≤ maxInt64
deriving Decidable

/-- The deadline of a wait that begins at a reading of the clock, unless no clock comes to it. -/
def deadline? (now : Nat) (timeout : Option Nat) : Option Nat :=
  (timeout.map (now + ·)).filter (InClock ·)

/-- The time left until the deadline of a wait that begins now. There is none beyond the seconds that
a clock can count. -/
def left? (timeout : Option Nat) : Option Nat :=
  timeout.filter (InClock ·)

/-- Whole milliseconds, the grain of timers, that a wait takes. -/
def ticks (nanos : Nat) : Nat :=
  (nanos + 999999) / 1000000

end Deadline

end ModelVault
