import ArenaPaths.Channel.Settings
import ArenaPaths.Directory
import ArenaPaths.Query.Basic

/-!
# Requests

What a command line can ask for: to answer a query on a graph, to load a graph and
report its size, or to open the arena and report what was found. Each comes with options
for the arena, and a query with options for the channel.
-/

namespace ArenaPaths.Command

/-- A kind of backing, by the name it is asked for. -/
inductive BackingKind where
  | heap
  | udmabuf
  | uio
  deriving DecidableEq, Repr

/-- The kind of backing with a name. -/
def BackingKind.parse? : String → Option BackingKind
  | "heap" => some .heap
  | "udmabuf" => some .udmabuf
  | "uio" => some .uio
  | _ => none

/-- Options for the arena and for the directory of ids. -/
structure ArenaOptions where
  backing : Option BackingKind := none
  bufferName : Option String := none
  coherency : Coherency := .sync
  uioIndex : UInt32 := 0
  uioMap : UInt32 := 0
  heapMebibytes : Nat := 64
  granule : Nat := Arena.defaultGranule
  greatestId : Option UInt32 := none
  buckets : UInt32 := Strategy.defaultBuckets
  deriving DecidableEq, Repr

namespace ArenaOptions

/-- The kind of backing: the one asked for, else one that a device shares if that is
needed. -/
def kind (options : ArenaOptions) (needsDevice : Bool) : BackingKind :=
  options.backing.getD (if needsDevice then .udmabuf else .heap)

/-- Bytes of a heap backing; a number of mebibytes that has too many stops the
program. -/
def heapBytes (options : ArenaOptions) : Except Fault Nat := do
  let kibibytes ← Word.mul UInt64.size options.heapMebibytes 1024
  Word.mul UInt64.size kibibytes 1024

/-- The backing that the options ask for. The name of a buffer comes from the options,
else from the environment. -/
def backingRequest (options : ArenaOptions) (environment : Environment)
    (needsDevice : Bool) :
    Except Fault BackingRequest := do
  match options.kind needsDevice with
  | .heap => return .heap (← options.heapBytes) BackingRequest.defaultBase
  | .udmabuf =>
    return .buffer (options.bufferName <|> environment.bufferName) options.coherency
  | .uio => return .uio options.uioIndex.toNat options.uioMap.toNat

/-- How ids are to be found: a greatest id asks for the dense directory. -/
def strategy (options : ArenaOptions) : Strategy :=
  match options.greatestId with
  | some greatest => .dense greatest
  | none => .hashed options.buckets

end ArenaOptions

/-- Options for the channel of a delegated query. -/
structure ChannelOptions where
  device : Option String := none
  unguarded : Bool := false
  pollLimit : Option String := none
  replay : Bool := false
  deriving DecidableEq, Repr

/-- Settings of the channel: the environment's, except for what the options say. A limit
that cannot be read is given back. -/
def ChannelOptions.settings (options : ChannelOptions) (environment : Environment) :
    Except String ChannelSettings :=
  let fromEnvironment := ChannelSettings.ofEnvironment environment
  let settings :=
    { fromEnvironment with
      device := options.device.getD fromEnvironment.device
      guard := if options.unguarded then .unguarded else fromEnvironment.guard }
  match options.pollLimit with
  | none => .ok settings
  | some text =>
    match parsePollLimit text with
    | some limit => .ok (settings.withLimit limit)
    | none => .error text

/-- What a command line asks for. -/
inductive Request where
  | run (graph : String) (query : Query) (arena : ArenaOptions)
      (channel : ChannelOptions)
  | check (graph : String) (arena : ArenaOptions)
  | info (arena : ArenaOptions)
  deriving DecidableEq, Repr

namespace Request

/-- Files that a backing asked for by options may touch. -/
def arenaPaths (options : ArenaOptions) (environment : Environment)
    (needsDevice : Bool) : List String :=
  match options.backingRequest environment needsDevice with
  | .ok request => request.paths
  | .error _ => []

/-- Files that a request may touch. -/
def paths (environment : Environment) : Request → List String
  | .run graph query arena channel =>
    let device :=
      match channel.settings environment with
      | .ok settings =>
        if query.mode = .delegated ∧ !channel.replay then [settings.device] else []
      | .error _ => []
    arenaPaths arena environment query.mode.needsDevice ++ [graph] ++ device
  | .check graph arena => arenaPaths arena environment false ++ [graph]
  | .info arena => arenaPaths arena environment false

end Request

end ArenaPaths.Command
