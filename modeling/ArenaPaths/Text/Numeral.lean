/-!
# Numerals

Reading unsigned numerals in a given radix below a given limit. Digits are taken from
left to right, and the first thing wrong decides the fault; at one and the same
character a bad digit comes before a value that grew too large.
-/

namespace ArenaPaths.Text

/-- What is wrong with a numeral. -/
inductive NumeralFault where
  /-- There is no character at all. -/
  | empty
  /-- A character is no digit of the radix, or the text is a lone sign. -/
  | invalidDigit
  /-- The value reaches the limit. -/
  | tooLarge
  deriving DecidableEq, Repr

/-- Wording of a numeral fault. -/
def NumeralFault.message : NumeralFault → String
  | .empty => "cannot parse integer from empty string"
  | .invalidDigit => "invalid digit found in string"
  | .tooLarge => "number too large to fit in target type"

namespace Numeral

/-- Value of a digit, letters of either case standing for ten and up. -/
def digit? (radix : Nat) (c : Char) : Option Nat :=
  let value? : Option Nat :=
    if '0' ≤ c ∧ c ≤ '9' then some (c.toNat - '0'.toNat)
    else if 'a' ≤ c ∧ c ≤ 'z' then some (c.toNat - 'a'.toNat + 10)
    else if 'A' ≤ c ∧ c ≤ 'Z' then some (c.toNat - 'A'.toNat + 10)
    else none
  value?.filter (· < radix)

/-- Continue the numeral whose digits so far have the given value. -/
def readDigits (radix limit value : Nat) : List Char → Except NumeralFault Nat
  | [] => .ok value
  | c :: rest =>
    match digit? radix c with
    | none => .error .invalidDigit
    | some digit =>
      if value * radix + digit < limit then
        readDigits radix limit (value * radix + digit) rest
      else .error .tooLarge

/-- Read an optional plus sign and digits. A sign needs a digit after it. -/
def readChars (radix limit : Nat) : List Char → Except NumeralFault Nat
  | [] => .error .empty
  | ['+'] => .error .invalidDigit
  | '+' :: digits => readDigits radix limit 0 digits
  | digits => readDigits radix limit 0 digits

/-- Read an unsigned numeral whose value is below `limit`. -/
def read (radix limit : Nat) (text : String) : Except NumeralFault Nat :=
  readChars radix limit text.toList

/-- Read a decimal numeral that fits 32 bits. -/
def word32 (text : String) : Except NumeralFault UInt32 :=
  (read 10 UInt32.size text).map Nat.toUInt32

/-- Read a decimal numeral that fits 64 bits. -/
def decimal64 (text : String) : Except NumeralFault Nat :=
  read 10 UInt64.size text

/-- Read a hexadecimal numeral that fits 64 bits. -/
def hexadecimal64 (text : String) : Except NumeralFault Nat :=
  read 16 UInt64.size text

/-- A digit is below the radix. -/
theorem digit?_lt {radix digit : Nat} {c : Char} (found : digit? radix c = some digit) :
    digit < radix := by
  simp only [digit?, Option.filter_eq_some_iff, decide_eq_true_eq] at found
  exact found.2

end Numeral

end ArenaPaths.Text
