import ArenaPaths.Files

/-!
# Lines

A text is read as lines. A line ends at a line feed, and one carriage return right
before the line feed belongs to the end; a last line need not end, and then it keeps its
carriage return. Each line is checked on its own, so a line that cannot be read does not
spoil the ones before it.
-/

namespace ArenaPaths.Text

/-- A line of a text, or the failure met in its place. -/
inductive Line where
  | text (content : String)
  | unreadable (cause : IoFault)
  deriving DecidableEq, Repr

namespace Line

/-- The line of the given bytes. -/
def ofBytes (bytes : List UInt8) : Line :=
  match String.fromUTF8? ⟨bytes.toArray⟩ with
  | some content => .text content
  | none => .unreadable .invalidText

end Line

/-- The byte of a line feed. -/
def lineFeed : UInt8 := 10

/-- The byte of a carriage return. -/
def carriageReturn : UInt8 := 13

/-- The bytes of a line that a line feed ended, given last byte first: without the
carriage return at its end. -/
def endedLine : List UInt8 → List UInt8
  | [] => []
  | last :: rest =>
    if last = carriageReturn then rest.reverse else (last :: rest).reverse

/-- The lines that end among the bytes still to read, and the bytes of the line that
does not. That line, and `current`, the line being read, are given last byte first. -/
def splitLines (current : List UInt8) : List UInt8 → List Line × List UInt8
  | [] => ([], current)
  | byte :: rest =>
    if byte = lineFeed then
      let (ended, unended) := splitLines [] rest
      (Line.ofBytes (endedLine current) :: ended, unended)
    else
      splitLines (byte :: current) rest

/-- The last line of a text, given last byte first; there is none where the text ends
with the end of a line. -/
def lastLine (unended : List UInt8) : List Line :=
  if unended.isEmpty then [] else [Line.ofBytes unended.reverse]

/-- The lines of the given bytes. -/
def linesOfBytes (bytes : List UInt8) : List Line :=
  let (ended, unended) := splitLines [] bytes
  ended ++ lastLine unended

end ArenaPaths.Text
