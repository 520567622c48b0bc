import ModelVault.Config.Basic
import ModelVault.Proofs.Text.ByteOrder
import ModelVault.Proofs.Text.Numerals
import ModelVault.Service.Promise

/-!
How long requests may wait. What a header grants is written in one exact form, and whatever else it holds grants
nothing; the cap of the server bounds every wait in either case.
-/

namespace ModelVault

namespace Span

/-- What is left of a second stays below a second, so that its product does not wrap around. -/
theorem nanoseconds_ofParts (amount : UInt64) {perSecond : UInt64} {nanos : UInt32}
    (second : perSecond.toNat * nanos.toNat = nanosPerSecond) :
    (ofParts amount perSecond nanos).nanoseconds = amount.toNat * nanos.toNat := by
  have parts : 0 < perSecond.toNat := Nat.pos_of_ne_zero fun none => by
    rw [none, Nat.zero_mul] at second
    cases second
  have filled : 0 < nanos.toNat := Nat.pos_of_ne_zero fun none => by
    rw [none, Nat.mul_zero] at second
    cases second
  have below : amount.toNat % perSecond.toNat * nanos.toNat < nanosPerSecond := by
    rw [← second]
    exact Nat.mul_lt_mul_of_pos_right (Nat.mod_lt _ parts) filled
  have few : amount.toNat % perSecond.toNat < 2 ^ 32 :=
    Nat.lt_of_le_of_lt (Nat.le_mul_of_pos_right _ filled) (Nat.lt_trans below (by decide))
  have rest : ((amount % perSecond).toUInt32 * nanos).toNat = amount.toNat % perSecond.toNat * nanos.toNat := by
    rw [UInt32.toNat_mul, UInt64.toNat_toUInt32, UInt64.toNat_mod, Nat.mod_eq_of_lt few]
    exact Nat.mod_eq_of_lt (Nat.lt_trans below (by decide))
  calc (ofParts amount perSecond nanos).nanoseconds
    _ = amount.toNat / perSecond.toNat * (perSecond.toNat * nanos.toNat) +
          amount.toNat % perSecond.toNat * nanos.toNat := by
        rw [nanoseconds, ofParts, rest, UInt64.toNat_div, second]
    _ = amount.toNat * nanos.toNat := by
        rw [← Nat.mul_assoc, ← Nat.add_mul, Nat.mul_comm _ perSecond.toNat, Nat.div_add_mod]

private theorem exists_seconds {amount factor : UInt64} (few : amount.toNat < 100000000)
    (small : factor.toNat ≤ 3600) : ∃ span : Span, (Word.product? amount factor).map (⟨·, 0⟩) = some span ∧
      span.nanoseconds = amount.toNat * (factor.toNat * nanosPerSecond) := by
  have size : UInt64.size = 18446744073709551616 := rfl
  have bounded : amount.toNat * factor.toNat ≤ 99999999 * 3600 := Nat.mul_le_mul (by omega) small
  refine ⟨_, by rw [Word.product?_eq (by omega), Option.map_some], ?_⟩
  rw [nanoseconds, UInt64.toNat_ofNat_of_lt' (by omega), Nat.mul_assoc]
  exact Nat.add_zero _

theorem exists_ofUnit? {amount : UInt64} (few : amount.toNat < 100000000) (unit : TimeUnit) :
    ∃ span, ofUnit? amount unit = some span ∧ span.nanoseconds = amount.toNat * unit.nanos := by
  cases unit with
  | hours => exact exists_seconds few (Nat.le_refl 3600)
  | minutes => exact exists_seconds few (by decide : (60 : UInt64).toNat ≤ 3600)
  | seconds => exact ⟨_, rfl, Nat.add_zero _⟩
  | milliseconds => exact ⟨_, rfl, nanoseconds_ofParts amount rfl⟩
  | microseconds => exact ⟨_, rfl, nanoseconds_ofParts amount rfl⟩
  | nanoseconds => exact ⟨_, rfl, nanoseconds_ofParts amount rfl⟩

end Span

theorem Bytes.eq_ofText {bytes : Bytes} {text : String} (read : bytes.text? = some text) : bytes = ofText text := by
  rw [text?, String.fromUTF8?] at read
  split at read
  · cases read
    rfl
  · cases read

namespace Deadline

/-- One to eight digits and the letter of a unit. -/
structure Written (digits : List Char) (unit : TimeUnit) (text : String) : Prop where
  parts : text.toList = digits ++ [unit.letter]
  decimal : ∀ c ∈ digits, Text.isDigit c = true
  present : 1 ≤ digits.length
  few : digits.length ≤ 8

theorem ofLetter?_eq_some {letter : Char} {unit : TimeUnit} :
    TimeUnit.ofLetter? letter = some unit ↔ unit.letter = letter := by
  constructor
  · intro known
    unfold TimeUnit.ofLetter? at known
    repeat' split at known
    all_goals
      cases known
      try subst letter
    all_goals rfl
  · rintro rfl
    cases unit <;> rfl

theorem Written.exists_span {digits : List Char} {unit : TimeUnit} {text : String}
    (written : Written digits unit text) :
    ∃ span, Span.ofUnit? (.ofNat (Text.ofDigits digits)) unit = some span ∧
      span.nanoseconds = Text.ofDigits digits * unit.nanos := by
  have small : Text.ofDigits digits < 100000000 :=
    Nat.lt_of_lt_of_le (Text.ofDigits_lt written.decimal) (Nat.pow_le_pow_right (by omega) written.few)
  have amount : (UInt64.ofNat (Text.ofDigits digits)).toNat = Text.ofDigits digits :=
    UInt64.toNat_ofNat_of_lt' (Nat.lt_trans small (by decide))
  have spans := Span.exists_ofUnit? (amount.symm ▸ small) unit
  rwa [amount] at spans

/-- Times are read in this form and in no other. -/
theorem parse?_eq_some {text : String} {nanos : Nat} :
    parse? text = some nanos ↔ ∃ digits unit, Written digits unit text ∧ nanos = Text.ofDigits digits * unit.nanos := by
  constructor
  · intro read
    rw [parse?] at read
    split at read
    · cases read
    · next form =>
      obtain ⟨unit, named, read⟩ := Option.bind_eq_some_iff.mp read
      obtain ⟨letter, last, known⟩ := Option.bind_eq_some_iff.mp named
      obtain ⟨digits, parts⟩ := List.getLast?_eq_some_iff.mp last
      obtain rfl := ofLetter?_eq_some.mp known
      rw [parts, List.dropLast_concat] at form read
      simp only [not_or, Bool.not_eq_true', Bool.not_eq_false, Nat.not_lt] at form
      obtain ⟨present, few, decimal⟩ := form
      have written : Written digits unit text := ⟨parts, List.all_eq_true.mp decimal, present, few⟩
      obtain ⟨span, spans, amount⟩ := written.exists_span
      rw [spans] at read
      exact ⟨digits, unit, written, (Option.some.inj read).symm.trans amount⟩
  · rintro ⟨digits, unit, written, rfl⟩
    obtain ⟨span, spans, amount⟩ := written.exists_span
    obtain ⟨parts, decimal, present, few⟩ := written
    have known : TimeUnit.ofLetter? unit.letter = some unit := ofLetter?_eq_some.mpr rfl
    have form : ¬(digits.length < 1 ∨ 8 < digits.length ∨ !digits.all Text.isDigit) := by
      rw [List.all_eq_true.mpr decimal]
      rintro (none | many | strange)
      · omega
      · omega
      · cases strange
    simp only [parse?, parts, List.dropLast_concat, List.getLast?_concat, if_neg form, Option.bind_eq_bind,
      Option.bind_some, known, spans, ← amount, Option.pure_def]

private theorem visible_of_isDigit {c : Char} (digit : Text.isDigit c = true) :
    (String.utf8EncodeChar c).all isVisible = true := by
  obtain ⟨low, high⟩ := of_decide_eq_true digit
  have low : 48 ≤ c.toNat := low
  have high : c.toNat ≤ 57 := high
  have single : String.utf8EncodeChar c = [UInt8.ofNat c.toNat] := by
    rw [String.utf8EncodeChar]
    exact if_pos (Nat.le_trans high (by decide))
  have octet : (UInt8.ofNat c.toNat).toNat = c.toNat :=
    UInt8.toNat_ofNat_of_lt' (Nat.lt_of_le_of_lt high (by decide))
  have above : (32 : UInt8) ≤ UInt8.ofNat c.toNat := by
    rw [UInt8.le_iff_toNat_le, octet]
    exact Nat.le_trans (by decide) low
  have below : UInt8.ofNat c.toNat < 127 := by
    rw [UInt8.lt_iff_toNat_lt, octet]
    exact Nat.lt_of_le_of_lt high (by decide)
  simp [single, isVisible, above, below]

theorem Written.visible {digits : List Char} {unit : TimeUnit} {text : String} (written : Written digits unit text) :
    (Bytes.ofText text).all isVisible = true := by
  have letter : (String.utf8EncodeChar unit.letter).all isVisible = true := by cases unit <;> decide
  rw [Bytes.ofText_eq_flatMap, written.parts, List.flatMap_append, List.all_append, List.flatMap_singleton, letter,
    Bool.and_true, List.all_flatMap, List.all_eq_true]
  exact fun c member => visible_of_isDigit (written.decimal c member)

theorem ofHeader?_eq_some {value : Bytes} {nanos : Nat} :
    ofHeader? value = some nanos ↔ ∃ text digits unit, value = Bytes.ofText text ∧ Written digits unit text ∧
      nanos = Text.ofDigits digits * unit.nanos := by
  constructor
  · intro granted
    rw [ofHeader?] at granted
    split at granted
    · obtain ⟨text, octets, read⟩ := Option.bind_eq_some_iff.mp granted
      obtain ⟨digits, unit, written, amount⟩ := parse?_eq_some.mp read
      exact ⟨text, digits, unit, Bytes.eq_ofText octets, written, amount⟩
    · cases granted
  · rintro ⟨text, digits, unit, rfl, written, amount⟩
    rw [ofHeader?, if_pos written.visible, Bytes.text?_ofText]
    exact parse?_eq_some.mpr ⟨digits, unit, written, amount⟩

/-- At the beginning of time, the time left until the deadline is the deadline. -/
theorem deadline?_zero (timeout : Option Nat) : deadline? 0 timeout = left? timeout := by
  cases timeout with
  | none => rfl
  | some nanos =>
    rw [deadline?, Option.map_some, Nat.zero_add]
    rfl

theorem deadline?_eq_some {now due : Nat} {timeout : Option Nat} :
    deadline? now timeout = some due ↔ ∃ nanos, timeout = some nanos ∧ due = now + nanos ∧ InClock due := by
  rw [deadline?, Option.filter_eq_some_iff, Option.map_eq_some_iff, decide_eq_true_eq]
  constructor
  · rintro ⟨⟨nanos, rfl, rfl⟩, inside⟩
    exact ⟨nanos, rfl, rfl, inside⟩
  · rintro ⟨nanos, rfl, rfl, inside⟩
    exact ⟨⟨nanos, rfl, rfl⟩, inside⟩

theorem deadline?_eq_none {now : Nat} {timeout : Option Nat} :
    deadline? now timeout = none ↔ timeout = none ∨ ∃ nanos, timeout = some nanos ∧ ¬InClock (now + nanos) := by
  cases timeout with
  | none => simp [deadline?]
  | some nanos => simp [deadline?, Option.filter_eq_none_iff]

theorem timeout?_eq_min? (headers : List Bytes) (cap : Option Nat) :
    timeout? headers cap = ((granted? headers).toList ++ cap.toList).min? := by
  unfold timeout?
  cases granted? headers <;> cases cap <;> rfl

theorem timeout?_eq_none {headers : List Bytes} {cap : Option Nat} :
    timeout? headers cap = none ↔ granted? headers = none ∧ cap = none := by
  rw [timeout?_eq_min?, List.min?_eq_none_iff, List.append_eq_nil_iff, Option.toList_eq_nil_iff,
    Option.toList_eq_nil_iff]

/-- No header makes a wait longer than the cap. -/
theorem exists_timeout?_le (headers : List Bytes) (cap : Nat) :
    ∃ nanos, timeout? headers (some cap) = some nanos ∧ nanos ≤ cap := by
  rw [timeout?_eq_min?]
  cases granted? headers with
  | none => exact ⟨cap, rfl, Nat.le_refl cap⟩
  | some nanos => exact ⟨min nanos cap, rfl, Nat.min_le_right ..⟩

/-- What the headers of a request and the cap of a server come to. -/
structure Bounded (headers : List Bytes) (cap : Option Nat) : Prop where
  /-- What the first header grants and the cap, if they are there, bound the wait; the smaller one counts. -/
  least : timeout? headers cap = ((granted? headers).toList ++ cap.toList).min?
  /-- It is due so much later than it begins. -/
  due : ∀ now due, deadline? now (timeout? headers cap) = some due ↔
    ∃ nanos, timeout? headers cap = some nanos ∧ due = now + nanos ∧ InClock due
  /-- It is never due only if there is neither of the two, or if no clock comes to that time; -/
  undue : ∀ now, deadline? now (timeout? headers cap) = none ↔ (granted? headers = none ∧ cap = none) ∨
    ∃ nanos, timeout? headers cap = some nanos ∧ ¬InClock (now + nanos)
  /-- but every clock comes to the end of a cap in milliseconds, before it has counted nine million million million
  seconds at least, and the wait is due by then. -/
  capped : ∀ milliseconds : UInt64, cap = some (milliseconds.toNat * 1000000) →
    ∀ now, now / nanosPerSecond ≤ 9000000000000000000 →
      ∃ due, deadline? now (timeout? headers cap) = some due ∧ now ≤ due ∧ due ≤ now + milliseconds.toNat * 1000000

theorem bounded (headers : List Bytes) (cap : Option Nat) : Bounded headers cap where
  least := timeout?_eq_min? headers cap
  due _ _ := deadline?_eq_some
  undue now := by rw [deadline?_eq_none, timeout?_eq_none]
  capped milliseconds capped now early := by
    obtain ⟨nanos, known, small⟩ := exists_timeout?_le headers (milliseconds.toNat * 1000000)
    have bound := milliseconds.toNat_lt
    rw [capped, known]
    refine ⟨now + nanos, deadline?_eq_some.mpr ⟨nanos, rfl, rfl, ?_⟩, by omega, by omega⟩
    simp only [InClock, maxInt64, nanosPerSecond] at early ⊢
    omega

/-- The deadline that a promise gives to a wait is no later than the cap, counted in its milliseconds. -/
theorem exists_deadline?_le {α : Type} (promise : Promise α) (headers : List Bytes) {config : Config}
    {milliseconds : UInt64} (capped : config.backendWait = some milliseconds) :
    ∃ due, promise.deadline? (timeout? headers config.waitCap) = some due ∧
      due ≤ promise.clock + milliseconds.toNat := by
  obtain ⟨nanos, known, small⟩ := exists_timeout?_le headers (milliseconds.toNat * 1000000)
  have bound := milliseconds.toNat_lt
  have inside : InClock nanos := by
    simp only [InClock, maxInt64, nanosPerSecond]
    omega
  have counted : left? (some nanos) = some nanos := by
    rw [← deadline?_zero]
    exact deadline?_eq_some.mpr ⟨nanos, rfl, (Nat.zero_add nanos).symm, inside⟩
  refine ⟨promise.clock + ticks nanos, ?_, ?_⟩
  · rw [Config.waitCap, capped, Option.map_some, known, Promise.deadline?, counted]
    rfl
  · rw [ticks]
    omega

/-- What headers grant, and that no header removes or extends the bound of a cap. A header grants a time if it
writes one in the one form that there is, and the products that this takes are machine words; the first header
counts, and the smaller of what it grants and of the cap bounds the wait. -/
theorem waits_bounded :
    (∀ text nanos, parse? text = some nanos ↔
      ∃ digits unit, Written digits unit text ∧ nanos = Text.ofDigits digits * unit.nanos) ∧
    (∀ value nanos, ofHeader? value = some nanos ↔ ∃ text digits unit, value = Bytes.ofText text ∧
      Written digits unit text ∧ nanos = Text.ofDigits digits * unit.nanos) ∧
    (∀ digits unit text, Written digits unit text →
      ∃ span, Span.ofUnit? (.ofNat (Text.ofDigits digits)) unit = some span ∧
        span.nanoseconds = Text.ofDigits digits * unit.nanos) ∧
    (∀ headers cap, Bounded headers cap) ∧
    ∀ (config : Config) milliseconds, config.backendWait = some milliseconds →
      ∀ headers (promise : Promise Unit), ∃ due, promise.deadline? (timeout? headers config.waitCap) = some due ∧
        due ≤ promise.clock + milliseconds.toNat :=
  ⟨fun _ _ => parse?_eq_some, fun _ _ => ofHeader?_eq_some, fun _ _ _ written => written.exists_span, bounded,
    fun _ _ capped headers promise => exists_deadline?_le promise headers capped⟩

/-- A client that grants an hour does not get it where the cap is a quarter of a second. -/
theorem waits_bounded_quarter_second :
    Written ['1'] .hours "1H" ∧ ofHeader? (Bytes.ofText "1H") = some 3600000000000 ∧
      ∃ due, deadline? 5000000000 (timeout? [Bytes.ofText "1H"] (some 250000000)) = some due ∧
        5000000000 ≤ due ∧ due ≤ 5250000000 := by
  have written : Written ['1'] .hours "1H" :=
    ⟨by decide, List.forall_mem_singleton.mpr (by decide), by decide, by decide⟩
  obtain ⟨-, headers, -, bounds, -⟩ := waits_bounded
  exact ⟨written, (headers _ _).mpr ⟨"1H", ['1'], .hours, rfl, written, by decide⟩,
    (bounds [Bytes.ofText "1H"] (some 250000000)).capped 250 rfl 5000000000 (by decide)⟩

end Deadline

end ModelVault
