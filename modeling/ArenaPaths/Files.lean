import ArenaPaths.Action
import ArenaPaths.Memory

/-!
# Files

The files that the program can see, as a value: regular files with their bytes, and
directories. A path is resolved component by component, so that a missing directory, a
file in the place of a directory and a directory in the place of a file are told apart
as a file system tells them.
-/

namespace ArenaPaths

/-- A regular file. Its bytes may go on past its length in memory, but only the first
`length` are its content. -/
structure File where
  length : Nat
  bytes : Memory

namespace File

/-- The file with the given content. -/
def ofBytes (content : List UInt8) : File :=
  ⟨content.length, Memory.zeros.setBytes 0 content⟩

/-- The content from `start` on, at most `length` bytes of it. -/
def content (file : File) (start length : Nat) : List UInt8 :=
  file.bytes.bytes start (min length (file.length - start))

/-- A file holds at most this many bytes. -/
def sizeLimit : Nat := 0x7FFFFFFFFFFFFFFF

/-- Bytes that are read from a file at a time. -/
def blockSize : Nat := 8192

/-- Where the blocks of a file start. -/
def blockStarts (file : File) : List Nat :=
  (List.range ((file.length + (blockSize - 1)) / blockSize)).map (· * blockSize)

/-- The file with bytes put over its content from `start` on; it grows if they reach
past its end. Without bytes nothing happens, wherever `start` is. -/
def overwrite (file : File) (start : Nat) (bytes : List UInt8) : File :=
  if bytes.isEmpty then file
  else ⟨max file.length (start + bytes.length), file.bytes.setBytes start bytes⟩

end File

/-- What a path can lead to. -/
inductive Inode where
  | directory
  | file (file : File)

/-- Where the components of a location are counted from. -/
inductive Origin where
  | root
  /-- The directory so many levels above the working directory; the working directory
  itself is `above 0`. -/
  | above (levels : Nat)
  deriving DecidableEq, Repr

namespace Origin

/-- The directory that a path starts from. -/
def ofPath (path : String) : Origin :=
  if path.startsWith "/" then .root else .above 0

/-- The directory that holds this one. The root holds itself. -/
def parent : Origin → Origin
  | .root => .root
  | .above levels => .above (levels + 1)

end Origin

/-- A resolved path: where it starts, and its components without `.` and `..`. -/
structure Location where
  origin : Origin
  components : List String
  deriving DecidableEq, Repr

namespace Location

/-- The directory that holds what is at a location. -/
def parent (location : Location) : Location :=
  if location.components.isEmpty then { location with origin := location.origin.parent }
  else { location with components := location.components.dropLast }

/-- The location that a component of a path leads to from a directory. -/
def follow (location : Location) (component : String) : Location :=
  if component.isEmpty || component == "." then location
  else if component == ".." then location.parent
  else { location with components := location.components ++ [component] }

/-- The location that a path leads to if nothing stands in its way. -/
def ofPath (path : String) : Location :=
  (path.splitOn "/").foldl follow ⟨.ofPath path, []⟩

end Location

/-- Files and directories by location. A directory above something listed need not be
listed itself, and neither need the working directory and those above it. -/
structure Files where
  inodes : List (Location × Inode) := []

namespace Files

/-- A path has fewer bytes than this. -/
def pathLimit : Nat := 4096

/-- A component of a path has at most this many bytes. -/
def nameLimit : Nat := 255

/-- A path and what is joined to it: an absolute path stands alone, and an empty one
only closes the first. -/
def join (path part : String) : String :=
  if part.startsWith "/" then part
  else if path.isEmpty || path.endsWith "/" then path ++ part
  else path ++ "/" ++ part

/-- What is at a location, if anything. -/
def inode? (files : Files) (location : Location) : Option Inode :=
  match files.inodes.find? (·.1 == location) with
  | some (_, inode) => some inode
  | none =>
    let above := files.inodes.any fun (listed, _) =>
      listed.origin == location.origin &&
        location.components.isPrefixOf listed.components
    if location.components.isEmpty || above then some .directory else none

/-- Follow the components of a path from a directory on. -/
def walk (files : Files) (location : Location) : List String → Except IoFault Location
  | [] => .ok location
  | component :: rest =>
    match files.inode? location with
    | none => .error .notFound
    | some (.file _) => .error .notDirectory
    | some .directory =>
      if nameLimit < component.utf8ByteSize then .error .nameTooLong
      else files.walk (location.follow component) rest

/-- The location that a path leads to. The empty path leads nowhere. -/
def resolve (files : Files) (path : String) : Except IoFault Location :=
  if path.contains '\x00' then .error .nulInName
  else if path.isEmpty then .error .notFound
  else if pathLimit ≤ path.utf8ByteSize then .error .nameTooLong
  else files.walk ⟨.ofPath path, []⟩ (path.splitOn "/")

/-- What a path leads to. -/
def lookup (files : Files) (path : String) : Except IoFault Inode := do
  let location ← files.resolve path
  match files.inode? location with
  | some inode => .ok inode
  | none => .error .notFound

/-- Whether a path leads to anything. -/
def contains (files : Files) (path : String) : Bool :=
  match files.lookup path with
  | .ok _ => true
  | .error _ => false

/-- The regular file at a path. -/
def file (files : Files) (path : String) : Except IoFault File := do
  match ← files.lookup path with
  | .file file => .ok file
  | .directory => .error .isDirectory

/-- The whole content of the file at a path. -/
def readBytes (files : Files) (path : String) : Except IoFault (List UInt8) := do
  let file ← files.file path
  return file.content 0 file.length

/-- The whole content of the file at a path, which has to be text. -/
def readText (files : Files) (path : String) : Except IoFault String := do
  let content ← files.readBytes path
  match String.fromUTF8? ⟨content.toArray⟩ with
  | some text => .ok text
  | none => .error .invalidText

/-- Files with an inode put at a location. -/
def insert (files : Files) (location : Location) (inode : Inode) : Files :=
  ⟨(location, inode) :: files.inodes.filter (·.1 != location)⟩

/-- Put a file at a path, in place of one that is there. Its directory has to exist. -/
def put (files : Files) (path : String) (file : File) : Except IoFault Files := do
  let location ← files.resolve path
  match files.inode? location with
  | some .directory => .error .isDirectory
  | some (.file _) => .ok (files.insert location (.file file))
  | none =>
    match files.inode? location.parent with
    | some .directory => .ok (files.insert location (.file file))
    | some (.file _) => .error .notDirectory
    | none => .error .notFound

/-- Put bytes over the content of the file at a path. They have to end within what a
file can hold. -/
def overwrite (files : Files) (path : String) (start : Nat) (bytes : List UInt8) :
    Except IoFault Files := do
  let file ← files.file path
  if !bytes.isEmpty && File.sizeLimit < start + bytes.length then throw .invalidArgument
  files.put path (file.overwrite start bytes)

/-- Files with one more, where its path leads; the directories above it come with it. -/
def add (files : Files) (path : String) (inode : Inode) : Files :=
  files.insert (.ofPath path) inode

end Files

end ArenaPaths
