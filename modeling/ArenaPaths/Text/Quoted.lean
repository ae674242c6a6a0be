import ArenaPaths.Text.ExtendingMark
import ArenaPaths.Text.Hexadecimal
import ArenaPaths.Text.Unassigned

/-!
# Quoted texts

A text that came from outside is shown between double quotes, so that a reader sees
where it begins and ends and which characters it holds. Five characters and the two
delimiters have short escapes; a character without a shape of its own is shown by its
code point.
-/

namespace ArenaPaths.Text

/-- Characters that leave no ink: controls, format characters, spaces other than the
plain one, separators of lines and paragraphs, the letters that only fill a place, and
those of private use, whose shape is unknown. -/
def inklessRanges : List (Nat × Nat) :=
  [(0x0, 0x1F), (0x7F, 0xA0), (0xAD, 0xAD), (0x600, 0x605), (0x61C, 0x61C),
   (0x6DD, 0x6DD), (0x70F, 0x70F), (0x890, 0x891), (0x8E2, 0x8E2), (0x115F, 0x1160),
   (0x1680, 0x1680), (0x180E, 0x180E), (0x2000, 0x200F), (0x2028, 0x202F),
   (0x205F, 0x2064), (0x2066, 0x206F), (0x3000, 0x3000), (0x3164, 0x3164),
   (0xE000, 0xF8FF), (0xFEFF, 0xFEFF), (0xFFA0, 0xFFA0), (0xFFF9, 0xFFFB),
   (0x110BD, 0x110BD), (0x110CD, 0x110CD), (0x13430, 0x1343F), (0x1BCA0, 0x1BCA3),
   (0x1D173, 0x1D17A), (0xE0001, 0xE0001), (0xE0020, 0xE007F), (0xF0000, 0xFFFFD),
   (0x100000, 0x10FFFD)]

/-- Whether a character can be shown as it is. -/
def isPrinted (c : Char) : Bool :=
  !(inRanges inklessRanges c.toNat || isExtendingMark c || isUnassigned c)

/-- One character as it stands in a quoted text. -/
def quoteChar (c : Char) : String :=
  match c with
  | '"' => "\\\""
  | '\\' => "\\\\"
  | '\t' => "\\t"
  | '\r' => "\\r"
  | '\n' => "\\n"
  | '\x00' => "\\0"
  | c => if isPrinted c then c.toString else "\\u\x7b" ++ hexDigits c.toNat ++ "\x7d"

/-- A text between double quotes, with its special characters escaped. -/
def quote (text : String) : String :=
  "\"" ++ String.join (text.toList.map quoteChar) ++ "\""

end ArenaPaths.Text
