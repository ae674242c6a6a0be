import ArenaPaths.Backing.Basic
import ArenaPaths.Text.Blank

/-!
# Backings of devices

Buffers of the udmabuf driver and maps of UIO devices are described by attribute files
in a class directory, and their bytes are reached by mapping a device file. What a
caller asks for is a `BackingRequest`.
-/

namespace ArenaPaths

open Text

namespace Attribute

/-- The trimmed content of an attribute file. -/
def read (files : Files) (path : String) : Except Fault String :=
  if !files.contains path then .error (.deviceNotFound path)
  else
    match files.readText path with
    | .error cause => .error (.io cause)
    | .ok text => .ok (trim text)

/-- A text without `0x` or `0X` in front. -/
def stripMark (text : String) : String :=
  match text.toList with
  | '0' :: 'x' :: digits => String.ofList digits
  | '0' :: 'X' :: digits => String.ofList digits
  | _ => text

/-- The numeral in a hexadecimal attribute text. -/
def parseHexadecimal (text : String) : Except NumeralFault Nat :=
  Numeral.hexadecimal64 (stripMark text)

/-- Read an attribute with a numeral of the given kind. -/
def readNumeral (parse : String → Except NumeralFault Nat) (files : Files)
    (path : String) : Except Fault Nat := do
  let text ← read files path
  match parse text with
  | .ok value => .ok value
  | .error cause => .error (.attribute path (.numeral text cause))

/-- Read a hexadecimal attribute. -/
def hexadecimal : Files → String → Except Fault Nat :=
  readNumeral parseHexadecimal

/-- Read a decimal attribute. -/
def decimal : Files → String → Except Fault Nat :=
  readNumeral Numeral.decimal64

/-- A size read from an attribute, which must not be zero. -/
def checkSize (path : String) (size : Nat) : Except Fault Nat :=
  if size = 0 then .error (.attribute path (.unusableSize size)) else .ok size

end Attribute

/-- Where the attribute files of a kind of device and the device files themselves
stand. -/
structure DeviceRoots where
  classDirectory : String
  deviceDirectory : String
  deriving DecidableEq, Repr

/-- The files of one device: its attribute directory, the attributes in it, and the
device itself. -/
structure DevicePaths where
  attributes : String
  base : String
  size : String
  device : String
  deriving DecidableEq, Repr

namespace DevicePaths

/-- The attribute that takes the mode of a buffer. -/
def mode (paths : DevicePaths) : String := Files.join paths.attributes "sync_mode"

/-- All files of a device. -/
def all (paths : DevicePaths) : List String :=
  [paths.attributes, paths.base, paths.size, paths.mode, paths.device]

end DevicePaths

namespace DeviceRoots

/-- Where the udmabuf driver puts its attributes. -/
def udmabufClass : String := "/sys/class/udmabuf"

/-- Where UIO devices have their attributes. -/
def uioClass : String := "/sys/class/uio"

/-- Directories of the running system for udmabuf. -/
def udmabuf : DeviceRoots := ⟨udmabufClass, "/dev"⟩

/-- Directories of the running system for UIO. -/
def uio : DeviceRoots := ⟨uioClass, "/dev"⟩

/-- The files of a buffer. -/
def bufferPaths (roots : DeviceRoots) (name : String) : DevicePaths :=
  let attributes := Files.join roots.classDirectory name
  { attributes
    base := Files.join attributes "phys_addr"
    size := Files.join attributes "size"
    device := Files.join roots.deviceDirectory name }

/-- The files of a map of the UIO device with the given number. -/
def mapPaths (roots : DeviceRoots) (index map : Nat) : DevicePaths :=
  let device := s!"uio{index}"
  let attributes :=
    Files.join (Files.join (Files.join roots.classDirectory device) "maps") s!"map{map}"
  { attributes
    base := Files.join attributes "addr"
    size := Files.join attributes "size"
    device := Files.join roots.deviceDirectory device }

end DeviceRoots

namespace Backing

/-- Open the buffer of the given name: its attributes are read, its mode is set, and
then its bytes are mapped. -/
def openUdmabuf (roots : DeviceRoots) (name : String) (mode : Coherency) :
    Action Files Backing := do
  let paths := roots.bufferPaths name
  if !(← get).contains paths.attributes then throw (.deviceNotFound paths.attributes)
  let base ← Attribute.hexadecimal (← get) paths.base
  let size ← Attribute.checkSize paths.size (← Attribute.decimal (← get) paths.size)
  match (← get).put paths.mode
    (File.ofBytes (toString mode.toNumber).toUTF8.toList) with
  | .error cause => throw (.attribute paths.mode (.cannotSetMode cause))
  | .ok files => set files
  let (mapping, memory) ← Mapping.make (← get) paths.device size 0
  return ⟨.udmabuf mode mapping, base, size, memory⟩

/-- Open a map of the UIO device with the given number. The map's bytes are those of its
own page of the device file. -/
def openUio (roots : DeviceRoots) (index map : Nat) : Action Files Backing := do
  let paths := roots.mapPaths index map
  if !(← get).contains paths.attributes then throw (.deviceNotFound paths.attributes)
  let base ← Attribute.hexadecimal (← get) paths.base
  let size ← Attribute.checkSize paths.size (← Attribute.hexadecimal (← get) paths.size)
  let (mapping, memory) ← Mapping.make (← get) paths.device size
    (map * Mapping.pageSize)
  return ⟨.uio mapping, base, size, memory⟩

end Backing

/-- Which backing an arena is to be opened on. -/
inductive BackingRequest where
  | heap (capacity base : Nat)
  | udmabuf (name : String) (mode : Coherency)
  | uio (index map : Nat)
  deriving DecidableEq, Repr

namespace BackingRequest

/-- Capacity of a heap backing when none is asked for: 64 MiB. -/
def defaultCapacity : Nat := 64 * 1024 * 1024

/-- Physical address reported for a heap backing when none is asked for. -/
def defaultBase : Nat := 0x10000000

/-- Name of the buffer when none is asked for. -/
def defaultBufferName : String := "udmabuf0"

/-- The backing that is opened when none is asked for. -/
def default : BackingRequest := .heap defaultCapacity defaultBase

/-- The buffer with the given mode, named by a setting of the environment if there is
one. -/
def buffer (name? : Option String) (mode : Coherency) : BackingRequest :=
  .udmabuf (name?.getD defaultBufferName) mode

/-- How a request is shown. -/
def render : BackingRequest → String
  | .heap capacity base =>
    "Heap \x7b capacity: " ++ toString capacity ++ ", physical_base: " ++ toString base
      ++ " \x7d"
  | .udmabuf name mode =>
    "Udmabuf \x7b name: " ++ quote name ++ ", mode: " ++ mode.label ++ " \x7d"
  | .uio index map =>
    "Uio \x7b index: " ++ toString index ++ ", map: " ++ toString map ++ " \x7d"

/-- Open the backing that is asked for on the running system. -/
def fulfil : BackingRequest → Action Files Backing
  | .heap capacity base => Backing.heap capacity base
  | .udmabuf name mode => Backing.openUdmabuf .udmabuf name mode
  | .uio index map => Backing.openUio .uio index map

/-- Files that opening the backing may touch on the running system. -/
def paths : BackingRequest → List String
  | .heap _ _ => []
  | .udmabuf name _ => (DeviceRoots.udmabuf.bufferPaths name).all
  | .uio index map => (DeviceRoots.uio.mapPaths index map).all

end BackingRequest

end ArenaPaths
