/-!
# Hexadecimal texts

How addresses and sizes are written in messages, and bytes in pairs of digits.
-/

namespace ArenaPaths.Text

/-- Lower-case hexadecimal digits of a number, without leading zeros. -/
def hexDigits (n : Nat) : String :=
  String.ofList (Nat.toDigits 16 n)

/-- A size: `0x` and its digits. -/
def hexSize (n : Nat) : String :=
  "0x" ++ hexDigits n

/-- An address: `0x` and its digits, padded with zeros to eight of them; a larger one
shows more. -/
def hexAddress (n : Nat) : String :=
  let digits := Nat.toDigits 16 n
  "0x" ++ String.ofList (List.replicate (8 - digits.length) '0' ++ digits)

/-- The two lower-case digits of a byte. -/
def hexByte (b : UInt8) : List Char :=
  [Nat.digitChar (b.toNat / 16), Nat.digitChar (b.toNat % 16)]

/-- Bytes as pairs of digits, first byte first. -/
def hexBytes (bytes : List UInt8) : String :=
  String.ofList (bytes.flatMap hexByte)

end ArenaPaths.Text
