import ArenaPaths.Graph.Basic
import ArenaPaths.Text.Lines

/-!
# Graphs as text

Two line formats. In the plain one a line of two fields is the header, with the node and
edge bounds, and a line of three is an edge: source, target, cost. In the tagged one the
first field says what a line is: `c` a comment, `p sp` the header and `a` an edge. Which
format a text has is settled by the first field of its first line that is not blank.

Reading stops at the first line that is wrong.
-/

namespace ArenaPaths

open Text

namespace GraphText

/-- The two formats. -/
inductive Format where
  | plain
  | tagged
  deriving DecidableEq, Repr

/-- The format of a text, by the first field in it. -/
def Format.ofField (field : String) : Format :=
  if field = "c" ∨ field = "p" then .tagged else .plain

/-- What a line says, by its fields; the numbers are still texts. -/
inductive Statement where
  | comment
  | header (nodes edges : String)
  | edge (source target cost : String)
  | malformed (reason : LineFault)
  deriving DecidableEq, Repr

/-- What a line of a format says, given its text and its fields. -/
def Format.statement (format : Format) (text : String)
    (fields : List String) : Statement :=
  match format with
  | .plain =>
    match fields with
    | [nodes, edges] => .header nodes edges
    | [source, target, cost] => .edge source target cost
    | _ => .malformed (.fieldCount fields.length)
  | .tagged =>
    match fields with
    | "c" :: _ => .comment
    | ["p", "sp", nodes, edges] => .header nodes edges
    | ["a", source, target, cost] => .edge source target cost
    | _ => .malformed (.unrecognised text)

/-- A number in a line. -/
def number (line : Nat) (quantity : Quantity) (token : String) : Except Fault UInt32 :=
  match Numeral.word32 token with
  | .ok value => .ok value
  | .error cause => .error (.line line (.numeral quantity token cause))

/-- How far a text has been read: the lines taken in, its format once it is known, and
the graph once there was a header. -/
structure Progress where
  lines : Nat := 0
  format : Option Format := none
  graph : Option Graph := none

/-- Take in a header. -/
def takeHeader (arena : Arena) (strategy : Strategy) (line : Nat) (nodes edges : String)
    (progress : Progress) :
    Except Fault Progress := do
  if progress.graph.isSome then throw (.line line .secondHeader)
  let nodeBound ← number line .nodeCount nodes
  let edgeBound ← number line .edgeCount edges
  let graph ← Graph.create arena ⟨nodeBound.toNat, edgeBound.toNat, strategy⟩
  return { progress with graph := some graph }

/-- Take in an edge. -/
def takeEdge (line : Nat) (source target cost : String) (progress : Progress) :
    Except Fault Progress := do
  match progress.graph with
  | none => throw (.line line .edgeBeforeHeader)
  | some graph =>
    let source ← number line .sourceId source
    let target ← number line .targetId target
    let cost ← number line .cost cost
    match Graph.addEdge source target cost graph with
    | .ok _ graph => return { progress with graph := some graph }
    | .error fault _ => throw fault

/-- Take in the next line. A blank one says nothing. -/
def takeLine (arena : Arena) (strategy : Strategy) (content : Line)
    (progress : Progress) : Except Fault Progress :=
  let line := progress.lines + 1
  let progress := { progress with lines := line }
  match content with
  | .unreadable cause => .error (.io cause)
  | .text text =>
    match fields text with
    | [] => .ok progress
    | first :: rest =>
      let format := progress.format.getD (Format.ofField first)
      let progress := { progress with format := some format }
      match format.statement text (first :: rest) with
      | .comment => .ok progress
      | .header nodes edges => takeHeader arena strategy line nodes edges progress
      | .edge source target cost => takeEdge line source target cost progress
      | .malformed reason => .error (.line line reason)

/-- Take in lines. -/
def takeLines (arena : Arena) (strategy : Strategy) (progress : Progress) :
    List Line → Except Fault Progress
  | [] => .ok progress
  | content :: rest =>
    match takeLine arena strategy content progress with
    | .ok progress => takeLines arena strategy progress rest
    | .error fault => .error fault

/-- The graph of a text that has been read to its end. -/
def Progress.finish (progress : Progress) : Except Fault Graph :=
  match progress.graph with
  | some graph => .ok graph
  | none => .error (.line progress.lines .missingHeader)

/-- Read a graph from lines into an arena. -/
def read (arena : Arena) (strategy : Strategy) (lines : List Line) :
    Except Fault Graph := do
  (← takeLines arena strategy {} lines).finish

/-! ## Reading a file -/

/-- The backing of the arena as it is once a text has been read so far. -/
def Progress.backing (progress : Progress) (arena : Arena) : Backing :=
  match progress.graph with
  | some graph => graph.arena.backing
  | none => arena.backing

/-- Take in the blocks of the file at a path that start at the given places, where
`unended` is the line being read, last byte first. A block is read when the lines that
end before it have been taken in, and not earlier: if the arena lies over the same file,
what they left there is read. -/
def takeBlocks (arena : Arena) (strategy : Strategy) (files : Files) (path : String)
    (unended : List UInt8) (progress : Progress) : List Nat → Except Fault Progress
  | [] => takeLines arena strategy progress (lastLine unended)
  | start :: rest =>
    match (progress.backing arena).fileContent files path start File.blockSize with
    | .error cause => .error (.io cause)
    | .ok block =>
      let (ended, unended) := splitLines unended block
      match takeLines arena strategy progress ended with
      | .ok progress => takeBlocks arena strategy files path unended progress rest
      | .error fault => .error fault

/-- Read a graph from the file at a path into an arena. -/
def readPath (files : Files) (path : String) (arena : Arena) (strategy : Strategy) :
    Except Fault Graph :=
  match files.file path with
  | .error cause => .error (.io cause)
  | .ok file => do
      (← takeBlocks arena strategy files path [] {} file.blockStarts).finish

end GraphText

end ArenaPaths
