import ArenaPaths.Files

/-!
# Mapped files

A mapping shares a run of a file's bytes with the program: what the program stores is in
the file at once, and what is written to the file is seen by the program's next load.
The program works on a memory of its own, whose position zero is the first mapped byte;
`publish` and `refresh` carry the shared bytes over whenever the file is looked at or
written. Bytes past the end of the file read as zero.
-/

namespace ArenaPaths

/-- A run of `size` bytes of the file at `path`, from `offset` on. -/
structure Mapping where
  path : String
  offset : Nat
  size : Nat
  deriving DecidableEq, Repr

namespace Mapping

/-- Mappings start on a page of this many bytes. -/
def pageSize : Nat := 4096

/-- A size rounded up to whole pages. -/
def roundToPage (size : Nat) : Nat :=
  (size + (pageSize - 1)) / pageSize * pageSize

/-- Address space of a process. -/
def addressSpace : Nat := 0x7FFFFFFFF000

/-- The longest free stretch of the address space. The program itself lies two thirds
up, and a mapping has to fit below it. -/
def longestFree : Nat := addressSpace / 3 * 2

/-- What the system says to a request to map bytes. A start that is not on a page is
refused before the size is, and the size before the place in the file. -/
def refusal? (size offset : Nat) : Option IoFault :=
  if offset % pageSize ≠ 0 then some .invalidArgument
  else if longestFree < roundToPage size then some .outOfMemory
  else if File.sizeLimit < offset + roundToPage size then some .valueTooLarge
  else none

/-- Map `size` bytes of the file at a path from `offset` on. -/
def make (files : Files) (path : String) (size offset : Nat) :
    Except Fault (Mapping × Memory) :=
  if size = 0 then .error (.mapping (.zeroSized path))
  else if !files.contains path then .error (.deviceNotFound path)
  else
    match files.file path with
    | .error cause => .error (.mapping (.cannotOpen path cause))
    | .ok file =>
      match refusal? size offset with
      | some cause => .error (.mapping (.cannotMap path cause))
      | none => .ok (⟨path, offset, size⟩, file.bytes.slice offset size)

/-- Bring a range of the mapping up to date on both sides. The bytes are shared, so only
the range is checked. -/
def sync (mapping : Mapping) (offset length : Nat) : Except Fault Unit :=
  match Word.add64? offset length with
  | none => .error (.mapping (.syncBeyondMapping offset length mapping.size))
  | some stop =>
    if mapping.size < stop then
      .error (.mapping (.syncBeyondMapping offset length mapping.size))
    else .ok ()

/-- Whether the mapped file is the one at a path. -/
def isOver (mapping : Mapping) (files : Files) (path : String) : Bool :=
  match files.resolve mapping.path, files.resolve path with
  | .ok mapped, .ok location => mapped == location
  | _, _ => false

/-- The content of the mapped file from `start` on, at most `length` bytes of it, with
the mapped bytes as the program's memory has them. -/
def content (mapping : Mapping) (shared : Memory) (file : File) (start length : Nat) :
    List UInt8 :=
  (List.range' start (min length (file.length - start))).map fun position =>
    if mapping.offset ≤ position ∧ position < mapping.offset + mapping.size then
      shared.get (position - mapping.offset)
    else file.bytes.get position

/-- The files, with the mapped bytes as the program's memory has them. -/
def publish (mapping : Mapping) (shared : Memory) (files : Files) : Files :=
  match files.file mapping.path with
  | .error _ => files
  | .ok file =>
    let mapped : File :=
      { file with bytes := file.bytes.splice mapping.offset mapping.size shared }
    match files.put mapping.path mapped with
    | .ok after => after
    | .error _ => files

/-- The program's memory, with the mapped bytes as the files have them. -/
def refresh (mapping : Mapping) (shared : Memory) (files : Files) : Memory :=
  match files.file mapping.path with
  | .error _ => shared
  | .ok file => file.bytes.slice mapping.offset mapping.size

end Mapping

end ArenaPaths
