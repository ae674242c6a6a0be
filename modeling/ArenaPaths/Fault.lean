import ArenaPaths.Text.Numeral
import ArenaPaths.Text.Hexadecimal
import ArenaPaths.Text.Quoted

/-!
# Faults

Every way in which a step of the program can fail, as a cause, and the wording of each.
A cause carries the data that its message shows. Reasons that a caller states in its own
words are `other`.

An `Abort` is a fault of a second kind: the program stops there and then, as when a
machine word overflows.
-/

namespace ArenaPaths

open Text

/-- A failure reported by the file system. -/
inductive IoFault where
  | notFound
  | outOfMemory
  | notDirectory
  | isDirectory
  | invalidArgument
  | nameTooLong
  /-- A place in a file lies beyond what a file can hold. -/
  | valueTooLarge
  /-- A path holds a NUL character. -/
  | nulInName
  /-- Bytes that were to be text are not valid UTF-8. -/
  | invalidText
  | other (text : String)
  deriving DecidableEq, Repr

/-- Wording of a file system failure. -/
def IoFault.message : IoFault → String
  | .notFound => "No such file or directory (os error 2)"
  | .outOfMemory => "Cannot allocate memory (os error 12)"
  | .notDirectory => "Not a directory (os error 20)"
  | .isDirectory => "Is a directory (os error 21)"
  | .invalidArgument => "Invalid argument (os error 22)"
  | .nameTooLong => "File name too long (os error 36)"
  | .valueTooLarge => "Value too large for defined data type (os error 75)"
  | .nulInName => "file name contained an unexpected NUL byte"
  | .invalidText => "stream did not contain valid UTF-8"
  | .other text => text

/-- Why a region could not be reserved, mapped or synchronised. -/
inductive MappingFault where
  | zeroCapacity
  /-- The capacity cannot be rounded up to a page. -/
  | capacityOverflow (capacity : Nat)
  /-- The rounded size is beyond what an allocation may ask for. -/
  | sizeBeyondLayout
  | reservationRefused (size : Nat)
  | badGranule (granule : Nat)
  | backingTooSmall (capacity granule : Nat)
  | zeroSized (path : String)
  | cannotOpen (path : String) (cause : IoFault)
  | cannotMap (path : String) (cause : IoFault)
  | syncBeyondMapping (offset length size : Nat)
  | other (text : String)
  deriving DecidableEq, Repr

/-- Wording of a mapping failure. -/
def MappingFault.message : MappingFault → String
  | .zeroCapacity => "heap backing needs a non-zero capacity"
  | .capacityOverflow capacity => s!"capacity {capacity} overflows"
  | .sizeBeyondLayout =>
    "Invalid heap layout: invalid parameters to Layout::from_size_align"
  | .reservationRefused size => s!"Failed to reserve {size} bytes"
  | .badGranule granule => s!"granule {granule} must be a power of two of at least 4"
  | .backingTooSmall capacity granule =>
    s!"backing of {capacity} bytes is too small for granule {granule}"
  | .zeroSized path => s!"{path}: refusing zero-sized mapping"
  | .cannotOpen path cause => s!"Cannot open {path}: {cause.message}"
  | .cannotMap path cause => s!"mmap {path} failed: {cause.message}"
  | .syncBeyondMapping offset length size =>
    s!"sync range {hexSize offset}+{hexSize length} exceeds mapping of {hexSize size}"
  | .other text => text

/-- What is wrong with an attribute file. -/
inductive AttributeFault where
  /-- The trimmed content is no numeral. -/
  | numeral (text : String) (cause : NumeralFault)
  | unusableSize (size : Nat)
  | cannotSetMode (cause : IoFault)
  | other (text : String)
  deriving DecidableEq, Repr

/-- Wording of an attribute fault. -/
def AttributeFault.message : AttributeFault → String
  | .numeral text cause => s!"{quote text}: {cause.message}"
  | .unusableSize size => s!"unusable size {size}"
  | .cannotSetMode cause => s!"cannot set sync_mode: {cause.message}"
  | .other text => text

/-- How the exchange of request and response words was broken. -/
inductive ProtocolFault where
  | writeWhilePending
  | readWithoutResponse
  | nullStart
  | nullGoal
  /-- The search behind the exchange failed, in the words of its own fault. -/
  | other (text : String)
  deriving DecidableEq, Repr

/-- Wording of a protocol fault. -/
def ProtocolFault.message : ProtocolFault → String
  | .writeWhilePending => "request word written while a response is pending"
  | .readWithoutResponse => "read with no response pending"
  | .nullStart => "request names a null start node"
  | .nullGoal => "request names a null goal node"
  | .other text => text

/-- What a number in a line of a graph text stands for. -/
inductive Quantity where
  | nodeCount
  | edgeCount
  | sourceId
  | targetId
  | cost
  deriving DecidableEq, Repr

/-- Name of a quantity. -/
def Quantity.name : Quantity → String
  | .nodeCount => "node count"
  | .edgeCount => "edge count"
  | .sourceId => "source id"
  | .targetId => "target id"
  | .cost => "cost"

/-- What is wrong with a line of a graph text. -/
inductive LineFault where
  | secondHeader
  | edgeBeforeHeader
  | missingHeader
  | numeral (quantity : Quantity) (token : String) (cause : NumeralFault)
  /-- A line of the plain format with the given number of fields, neither two nor
  three. -/
  | fieldCount (count : Nat)
  /-- A line that the tagged format does not know. -/
  | unrecognised (text : String)
  | other (text : String)
  deriving DecidableEq, Repr

/-- Wording of a line fault. -/
def LineFault.message : LineFault → String
  | .secondHeader => "second header"
  | .edgeBeforeHeader => "edge before header"
  | .missingHeader => "missing header"
  | .numeral quantity token cause =>
    s!"bad {quantity.name} {quote token}: {cause.message}"
  | .fieldCount count => s!"expected `from to cost`, found {count} fields"
  | .unrecognised text => s!"unrecognised line {quote text}"
  | .other text => text

/-- How a stored record contradicts the layout. -/
inductive Corruption where
  | endlessIndexChain
  | endlessPageChain
  | emptySlot
  | nodeAtZero
  | pageAtZero
  | notNodeSlot
  | edgeWithoutTarget
  | overfullPage (count : Nat)
  | brokenRoute
  | endlessRoute
  | other (text : String)
  deriving DecidableEq, Repr

/-- Wording of a corruption. -/
def Corruption.message : Corruption → String
  | .endlessIndexChain => "index chain does not terminate"
  | .endlessPageChain => "page chain does not terminate"
  | .emptySlot => "heap slot holds no node"
  | .nodeAtZero => "node slab at address 0"
  | .pageAtZero => "page at address 0"
  | .notNodeSlot => "not a node slot"
  | .edgeWithoutTarget => "edge without target"
  | .overfullPage count => s!"page claims {count} edges"
  | .brokenRoute => "route breaks before start"
  | .endlessRoute => "parent chain does not reach start"
  | .other text => text

/-- A configuration that can never work. -/
inductive ConfigurationFault where
  | zeroNodeBound
  | zeroBuckets
  | missingChannel
  | other (text : String)
  deriving DecidableEq, Repr

/-- Wording of a configuration fault. -/
def ConfigurationFault.message : ConfigurationFault → String
  | .zeroNodeBound => "node bound must be at least 1"
  | .zeroBuckets => "hash index needs at least one bucket"
  | .missingChannel => "delegated run needs an accelerator channel"
  | .other text => text

/-- Why the program stops on the spot. -/
inductive Abort where
  | addOverflow
  | multiplyOverflow
  | remainderByZero
  | offsetBeyondCapacity
  | registerOutOfBounds
  /-- A span of time has more seconds than a machine word can count. -/
  | spanOverflow
  /-- A walk through memory that comes to no end. -/
  | endlessWalk
  deriving DecidableEq, Repr

/-- Wording of an abort. -/
def Abort.message : Abort → String
  | .addOverflow => "attempt to add with overflow"
  | .multiplyOverflow => "attempt to multiply with overflow"
  | .remainderByZero => "attempt to calculate the remainder with a divisor of zero"
  | .offsetBeyondCapacity => "assertion failed: offset <= self.capacity()"
  | .registerOutOfBounds => "Register offset out of bounds"
  | .spanOverflow => "overflow in Duration::new"
  | .endlessWalk => "walk through memory does not end"

/-- Why a step failed. -/
inductive Fault where
  | deviceNotFound (path : String)
  | io (source : IoFault)
  | mapping (reason : MappingFault)
  | attribute (path : String) (reason : AttributeFault)
  | addressOutside (address : Nat)
  | timeout (operation : String) (polls : Nat)
  | protocol (reason : ProtocolFault)
  | arenaExhausted (requested remaining : Nat)
  | boundExceeded (what : String) (limit : Nat)
  | line (number : Nat) (reason : LineFault)
  | frontierFull (capacity : Nat)
  | idBeyondTable (id limit : Nat)
  | corrupt (address : Nat) (reason : Corruption)
  | configuration (reason : ConfigurationFault)
  | abort (cause : Abort)
  deriving DecidableEq, Repr

namespace Fault

/-- Wording of a fault. -/
def message : Fault → String
  | .deviceNotFound path => s!"Device not found: {path}"
  | .io source => s!"I/O error: {source.message}"
  | .mapping reason => s!"Mapping failed: {reason.message}"
  | .attribute path reason => s!"Invalid attribute {path}: {reason.message}"
  | .addressOutside address => s!"Address {hexAddress address} outside arena"
  | .timeout operation polls => s!"{operation} timed out after {polls} polls"
  | .protocol reason => s!"Protocol violation: {reason.message}"
  | .arenaExhausted requested remaining =>
    s!"Arena exhausted: {requested} bytes requested, {remaining} remaining"
  | .boundExceeded what limit => s!"Too many {what}: limit is {limit}"
  | .line number reason => s!"Line {number}: {reason.message}"
  | .frontierFull capacity => s!"Frontier queue full at {capacity} entries"
  | .idBeyondTable id limit => s!"Node id {id} exceeds dense table limit {limit}"
  | .corrupt address reason =>
    s!"Corrupt record at {hexAddress address}: {reason.message}"
  | .configuration reason => s!"Invalid configuration: {reason.message}"
  | .abort cause => cause.message

/-- A fault and what lies behind it, outermost first: a file system failure stands
behind its own wrapping. -/
def chain (fault : Fault) : List String :=
  match fault with
  | .io source => [fault.message, source.message]
  | _ => [fault.message]

/-- Whether the program stops on the spot. -/
def isAbort : Fault → Bool
  | .abort _ => true
  | _ => false

end Fault

end ArenaPaths
