import ModelVault.Number.Signed

/-!
Points in time and the two integer forms they take: a signed 64-bit count of nanoseconds in stored
rows, and an unsigned one on the wire, where zero stands for "no time given".
-/

namespace ModelVault

def nanosPerSecond : Nat := 1000000000

/-- Whole seconds since 1970 and nanoseconds past them. Within a leap second, which only follows the
59th second of a minute, the nanoseconds go on past the first thousand million. -/
structure Moment where
  seconds : Int
  nanos : Nat
  deriving DecidableEq, Repr

namespace Moment

/-- Nanoseconds since 1970, a leap second counting into the second after it. -/
def nanoseconds (moment : Moment) : Int :=
  moment.seconds * nanosPerSecond + moment.nanos

/-- The point this many nanoseconds after 1970. -/
def ofNanoseconds (count : Int) : Moment where
  seconds := count / nanosPerSecond
  nanos := (count % nanosPerSecond).toNat

/-- The nanoseconds of a point that a signed 64-bit integer can hold. -/
def nanoseconds? (moment : Moment) : Option Int :=
  if IsInt64 moment.nanoseconds then some moment.nanoseconds else none

/-- The nanoseconds end within the second, or within a leap second after the 59th second of a minute. -/
def WellFormed (moment : Moment) : Prop :=
  moment.nanos < nanosPerSecond ∨ (moment.nanos < 2 * nanosPerSecond ∧ moment.seconds % 60 = 59)

/-- The nanoseconds of whole seconds and of a rest, where neither the product nor the sum may leave the signed 64-bit
integers. -/
def countFrom? (seconds rest : Int) : Option Int := do
  let whole ← int64? (seconds * nanosPerSecond)
  int64? (whole + rest)

/-- The nanoseconds of a point, counted in signed 64-bit integers. Before 1970 they are counted back from the end of
the second, whose beginning can be too early to be counted when the point itself is not. -/
def countInWords? (moment : Moment) : Option Int :=
  if moment.seconds < 0 then countFrom? (moment.seconds + 1) (moment.nanos - nanosPerSecond)
  else countFrom? moment.seconds moment.nanos

/-- The point a wire timestamp stands for: `now` when it is zero, and never later than the last
nanosecond that a signed 64-bit integer counts. -/
def ofWire (now : Moment) (timestamp : UInt64) : Moment :=
  if timestamp = 0 then now else ofNanoseconds (min timestamp.toNat maxInt64)

/-- The wire timestamp of a point, zero before 1970 and beyond the signed 64-bit range. -/
def toWire (moment : Moment) : UInt64 :=
  match moment.nanoseconds? with
  | some count => UInt64.ofNat count.toNat
  | none => 0

@[simp] theorem nanoseconds_ofNanoseconds (count : Int) : (ofNanoseconds count).nanoseconds = count := by
  have positive : (0 : Int) < nanosPerSecond := by decide
  have rest := Int.emod_nonneg count (Int.ne_of_gt positive)
  have total := Int.mul_ediv_add_emod count nanosPerSecond
  simp only [ofNanoseconds, nanoseconds, Int.toNat_of_nonneg rest]
  rw [Int.mul_comm]
  exact total

/-- A point whose nanoseconds end within its second is the one of its count. -/
theorem ofNanoseconds_nanoseconds {moment : Moment} (within : moment.nanos < nanosPerSecond) :
    ofNanoseconds moment.nanoseconds = moment := by
  obtain ⟨seconds, nanos⟩ := moment
  simp only [nanosPerSecond] at within
  simp only [ofNanoseconds, nanoseconds, nanosPerSecond, mk.injEq]
  omega

theorem nanoseconds?_eq_some {moment : Moment} {count : Int} :
    moment.nanoseconds? = some count ↔ IsInt64 moment.nanoseconds ∧ moment.nanoseconds = count := by
  rw [nanoseconds?, Option.ite_none_right_eq_some, Option.some.injEq]

theorem nanoseconds?_eq_none {moment : Moment} : moment.nanoseconds? = none ↔ ¬IsInt64 moment.nanoseconds := by
  rw [nanoseconds?, ite_eq_right_iff]
  exact ⟨fun none inside => Option.some_ne_none _ (none inside), fun outside inside => absurd inside outside⟩

theorem toWire_congr {moment other : Moment} (same : moment.nanoseconds = other.nanoseconds) :
    moment.toWire = other.toWire := by
  rw [toWire, toWire, nanoseconds?, nanoseconds?, same]

/-- The start of 1970, and all before it, looks on the wire like no time. -/
theorem toWire_eq_zero {moment : Moment} (early : moment.nanoseconds ≤ 0) : moment.toWire = 0 := by
  rw [toWire]
  split
  · next counted =>
    obtain ⟨-, rfl⟩ := nanoseconds?_eq_some.mp counted
    rw [Int.toNat_of_nonpos early]
    rfl
  · rfl

theorem toNat_toWire {moment : Moment} (late : 0 ≤ moment.nanoseconds) (fits : moment.nanoseconds ≤ maxInt64) :
    (moment.toWire.toNat : Int) = moment.nanoseconds := by
  have inside : IsInt64 moment.nanoseconds := by
    simp only [IsInt64, maxInt64] at fits ⊢
    omega
  have small : moment.nanoseconds.toNat < UInt64.size := by
    simp only [maxInt64, UInt64.size] at fits ⊢
    omega
  rw [toWire, nanoseconds?_eq_some.mpr ⟨inside, rfl⟩]
  exact (congrArg Int.ofNat (UInt64.toNat_ofNat_of_lt' small)).trans (Int.toNat_of_nonneg late)

/-- A time after 1970 comes over the wire as the one of its count. -/
theorem ofWire_toWire {moment : Moment} (now : Moment) (late : 0 < moment.nanoseconds)
    (fits : moment.nanoseconds ≤ maxInt64) : ofWire now moment.toWire = ofNanoseconds moment.nanoseconds := by
  have counted := toNat_toWire (Int.le_of_lt late) fits
  have present : moment.toWire ≠ 0 := by
    intro absent
    rw [absent] at counted
    exact absurd counted (Int.ne_of_lt late)
  rw [ofWire, if_neg present, counted]
  exact congrArg ofNanoseconds (Int.min_eq_left fits)

/-- A time after 1970 comes over the wire as it is, to the nanosecond. -/
theorem nanoseconds_ofWire_toWire {moment : Moment} (now : Moment) (late : 0 < moment.nanoseconds)
    (fits : moment.nanoseconds ≤ maxInt64) : (ofWire now moment.toWire).nanoseconds = moment.nanoseconds := by
  rw [ofWire_toWire now late fits, nanoseconds_ofNanoseconds]

end Moment

end ModelVault
