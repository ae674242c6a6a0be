/-!
# Seconds with six places

A span of time is printed in seconds with six places. The span is first turned into a
double-precision number (whole seconds, plus the quotient of the nanoseconds), each step
rounded to nearest with ties to even; the places are then rounded from the exact value
of that number, again with ties to even. All of it is done here in natural numbers: a
double in this range is a whole multiple of the fixed unit `2 ^ -unitBits`.
-/

namespace ArenaPaths

/-- A span of time: whole seconds, and nanoseconds below one second. -/
structure Duration where
  seconds : Nat := 0
  nanoseconds : Nat := 0
  deriving DecidableEq, Repr

namespace Duration

/-- Nanoseconds in a second. -/
def nanosecondsPerSecond : Nat := 1000000000

/-- The span of the given seconds and nanoseconds, where a billion nanoseconds make a
further second. -/
def of (seconds nanoseconds : Nat) : Duration :=
  ⟨seconds + nanoseconds / nanosecondsPerSecond, nanoseconds % nanosecondsPerSecond⟩

/-- The span between two clock readings in nanoseconds. -/
def between (start stop : Nat) : Duration :=
  of 0 (stop - start)

end Duration

namespace Text.Seconds

/-- The whole number nearest to a quotient; of two equally near ones the even one. -/
def roundDiv (num den : Nat) : Nat :=
  let quotient := num / den
  let twice := 2 * (num % den)
  if twice < den then quotient
  else if den < twice then quotient + 1
  else quotient + quotient % 2

/-- Bits of precision of a double. -/
def precision : Nat := 53

/-- Doubles are kept here as multiples of `2 ^ -unitBits`, which is fine enough for a
nanosecond to full precision. -/
def unitBits : Nat := 96

/-- The double nearest to the quotient, in units. The quantum is the power of two that
leaves the value with as many binary digits as a double has. -/
def nearestDouble (num den : Nat) : Nat :=
  let scaled := num <<< unitBits
  let quantum := 1 <<< (Nat.log2 (scaled / den) + 1 - precision)
  roundDiv scaled (den * quantum) * quantum

/-- The span as a double number of seconds, in units. -/
def asDouble (span : Duration) : Nat :=
  let whole := nearestDouble span.seconds 1
  let part := nearestDouble span.nanoseconds Duration.nanosecondsPerSecond
  nearestDouble (whole + part) (1 <<< unitBits)

/-- Decimal digits of a number, padded with zeros to the given width. -/
def padded (width n : Nat) : String :=
  let digits := Nat.toDigits 10 n
  String.ofList (List.replicate (width - digits.length) '0' ++ digits)

/-- The span in seconds with six places. -/
def render (span : Duration) : String :=
  let micros := roundDiv (asDouble span * 1000000) (1 <<< unitBits)
  s!"{micros / 1000000}." ++ padded 6 (micros % 1000000)

end Text.Seconds

end ArenaPaths
