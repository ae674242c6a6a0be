import ArenaPaths.Text.Ranges

/-!
# Blank characters

Which characters count as white space, and the two readings of a text that go by them:
its fields, which are the longest runs without a blank, and its trimmed form.
-/

namespace ArenaPaths.Text

/-- Ranges of the property `White_Space`. -/
def blankRanges : List (Nat × Nat) :=
  [(0x9, 0xD), (0x20, 0x20), (0x85, 0x85), (0xA0, 0xA0), (0x1680, 0x1680),
   (0x2000, 0x200A), (0x2028, 0x2029), (0x202F, 0x202F), (0x205F, 0x205F),
   (0x3000, 0x3000)]

/-- A blank is a character with the property `White_Space`. -/
def isBlank (c : Char) : Bool :=
  inRanges blankRanges c.toNat

/-- Fields of the characters still to read, where `current` is the field being read,
last character first. -/
def fieldsFrom (current : List Char) : List Char → List (List Char)
  | [] => if current.isEmpty then [] else [current.reverse]
  | c :: rest =>
    if isBlank c then
      if current.isEmpty then fieldsFrom [] rest
      else current.reverse :: fieldsFrom [] rest
    else
      fieldsFrom (c :: current) rest

/-- The fields of a text, left to right: its longest runs of characters that are not
blank. -/
def fields (text : String) : List String :=
  (fieldsFrom [] text.toList).map String.ofList

/-- The characters without the blanks at both ends. -/
def trimChars (chars : List Char) : List Char :=
  ((chars.dropWhile isBlank).reverse.dropWhile isBlank).reverse

/-- A text without the blanks at both ends. -/
def trim (text : String) : String :=
  String.ofList (trimChars text.toList)

end ArenaPaths.Text
