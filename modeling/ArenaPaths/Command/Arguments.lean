import ArenaPaths.Command.Request

/-!
# Command lines

A command line is a verb with options and, for two of the verbs, the path of a graph, in
any order. An option has its value in the same argument, after `=`, or in the next one,
which must not look like an option then. No option may come twice. Arguments are read
from left to right and the first thing that ends the reading decides: a misuse, or a
request for help or for the version.
-/

namespace ArenaPaths.Command

open Text

/-- What a single argument looks like. -/
inductive Token where
  /-- `--`, after which nothing is an option. -/
  | escape
  /-- `--name` or `--name=value` -/
  | long (name : String) (value? : Option String)
  /-- `-abc` -/
  | short (letters : List Char)
  | plain (text : String)
  deriving DecidableEq, Repr

/-- What an argument looks like. A single `-` is plain. -/
def Token.ofString (argument : String) : Token :=
  match argument.toList with
  | ['-', '-'] => .escape
  | '-' :: '-' :: rest =>
    let name := String.ofList (rest.takeWhile (· != '='))
    match rest.dropWhile (· != '=') with
    | _ :: value => .long name (some (String.ofList value))
    | [] => .long name none
  | '-' :: letter :: rest => .short (letter :: rest)
  | _ => .plain argument

/-- Options with a value. -/
inductive Setting where
  | start
  | goal
  | mode
  | backing
  | udmabuf
  | syncMode
  | uioIndex
  | uioMap
  | heapMb
  | granule
  | denseMaxId
  | buckets
  | channelDevice
  | pollLimit
  deriving DecidableEq, Repr

namespace Setting

/-- The name of an option. -/
def name : Setting → String
  | .start => "start"
  | .goal => "goal"
  | .mode => "mode"
  | .backing => "backing"
  | .udmabuf => "udmabuf"
  | .syncMode => "sync-mode"
  | .uioIndex => "uio-index"
  | .uioMap => "uio-map"
  | .heapMb => "heap-mb"
  | .granule => "granule"
  | .denseMaxId => "dense-max-id"
  | .buckets => "buckets"
  | .channelDevice => "channel-device"
  | .pollLimit => "poll-limit"

/-- Options for the arena. -/
def ofArena : List Setting :=
  [.backing, .udmabuf, .syncMode, .uioIndex, .uioMap, .heapMb, .granule, .denseMaxId,
    .buckets]

/-- Options for a query and its channel. -/
def ofQuery : List Setting :=
  [.start, .goal, .mode, .channelDevice, .pollLimit]

end Setting

/-- Options without a value. -/
inductive Switch where
  | verbose
  | help
  | unguarded
  | replay
  deriving DecidableEq, Repr

namespace Switch

/-- The name of a switch. -/
def name : Switch → String
  | .verbose => "verbose"
  | .help => "help"
  | .unguarded => "unguarded"
  | .replay => "replay"

/-- The switch with a letter. -/
def ofLetter? : Char → Option Switch
  | 'v' => some .verbose
  | 'h' => some .help
  | _ => none

end Switch

/-- What to do. -/
inductive Verb where
  | run
  | check
  | info
  deriving DecidableEq, Repr

namespace Verb

/-- The verb with a name. -/
def ofName? : String → Option Verb
  | "run" => some .run
  | "check" => some .check
  | "info" => some .info
  | _ => none

/-- Options that a verb takes. -/
def settings : Verb → List Setting
  | .run => Setting.ofQuery ++ Setting.ofArena
  | .check | .info => Setting.ofArena

/-- Switches that a verb takes. -/
def switches : Verb → List Switch
  | .run => [.verbose, .help, .unguarded, .replay]
  | .check | .info => [.verbose, .help]

/-- Whether a verb takes the path of a graph. -/
def takesGraph : Verb → Bool
  | .run | .check => true
  | .info => false

end Verb

/-- Why a command line asks for no work. -/
inductive Halt where
  | misuse
  | help
  | version
  deriving DecidableEq, Repr

/-- The arguments of a verb as far as they have been read. -/
structure Draft where
  graph : Option String := none
  start : Option UInt32 := none
  goal : Option UInt32 := none
  mode : Option Mode := none
  backing : Option BackingKind := none
  udmabuf : Option String := none
  syncMode : Option Coherency := none
  uioIndex : Option UInt32 := none
  uioMap : Option UInt32 := none
  heapMb : Option Nat := none
  granule : Option Nat := none
  denseMaxId : Option UInt32 := none
  buckets : Option UInt32 := none
  channelDevice : Option String := none
  pollLimit : Option String := none
  verbose : Bool := false
  unguarded : Bool := false
  replay : Bool := false
  deriving DecidableEq, Repr

/-! ## Values -/

/-- A 32-bit value. A zero may have a minus sign. -/
def word32? (text : String) : Option UInt32 :=
  match text.toList with
  | '-' :: digits => if !digits.isEmpty && digits.all (· == '0') then some 0 else none
  | _ => (Numeral.word32 text).toOption

/-- A 64-bit value. -/
def size64? (text : String) : Option Nat :=
  (Numeral.decimal64 text).toOption

/-- A path, which must not be empty. -/
def path? (text : String) : Option String :=
  if text.isEmpty then none else some text

namespace Draft

/-- Fill a place that has to be empty still. -/
def fill {α : Type} (place value? : Option α) : Except Halt (Option α) :=
  match place, value? with
  | none, some value => .ok (some value)
  | _, _ => .error .misuse

/-- Take the value of an option. -/
def set (draft : Draft) (setting : Setting) (text : String) : Except Halt Draft := do
  match setting with
  | .start => return { draft with start := ← fill draft.start (word32? text) }
  | .goal => return { draft with goal := ← fill draft.goal (word32? text) }
  | .mode => return { draft with mode := ← fill draft.mode (Mode.parse text).toOption }
  | .backing =>
    return { draft with backing := ← fill draft.backing (BackingKind.parse? text) }
  | .udmabuf => return { draft with udmabuf := ← fill draft.udmabuf (some text) }
  | .syncMode => return { draft with
      syncMode := ← fill draft.syncMode (Coherency.parse text).toOption }
  | .uioIndex => return { draft with uioIndex := ← fill draft.uioIndex (word32? text) }
  | .uioMap => return { draft with uioMap := ← fill draft.uioMap (word32? text) }
  | .heapMb => return { draft with heapMb := ← fill draft.heapMb (size64? text) }
  | .granule => return { draft with granule := ← fill draft.granule (size64? text) }
  | .denseMaxId =>
    return { draft with denseMaxId := ← fill draft.denseMaxId (word32? text) }
  | .buckets => return { draft with buckets := ← fill draft.buckets (word32? text) }
  | .channelDevice =>
    return { draft with channelDevice := ← fill draft.channelDevice (path? text) }
  | .pollLimit => return { draft with pollLimit := ← fill draft.pollLimit (some text) }

/-- Throw a switch that has to be off still. -/
def throwSwitch (draft : Draft) (switch : Switch) : Except Halt Draft :=
  match switch with
  | .help => .error .help
  | .verbose =>
    if draft.verbose then .error .misuse else .ok { draft with verbose := true }
  | .unguarded =>
    if draft.unguarded then .error .misuse else .ok { draft with unguarded := true }
  | .replay =>
    if draft.replay then .error .misuse else .ok { draft with replay := true }

/-- Take the path of a graph. -/
def setGraph (draft : Draft) (text : String) : Except Halt Draft := do
  return { draft with graph := ← fill draft.graph (path? text) }

/-- Options for the arena, where nothing is asked for by default. -/
def arenaOptions (draft : Draft) : ArenaOptions :=
  let absent : ArenaOptions := {}
  { backing := draft.backing
    bufferName := draft.udmabuf
    coherency := draft.syncMode.getD absent.coherency
    uioIndex := draft.uioIndex.getD absent.uioIndex
    uioMap := draft.uioMap.getD absent.uioMap
    heapMebibytes := draft.heapMb.getD absent.heapMebibytes
    granule := draft.granule.getD absent.granule
    greatestId := draft.denseMaxId
    buckets := draft.buckets.getD absent.buckets }

/-- Options for the channel. -/
def channelOptions (draft : Draft) : ChannelOptions :=
  ⟨draft.channelDevice, draft.unguarded, draft.pollLimit, draft.replay⟩

/-- The request of a verb with all its arguments, if none is missing. -/
def request? (draft : Draft) : Verb → Option Request
  | .run => do
    let query : Query := ⟨← draft.start, ← draft.goal, draft.mode.getD .software⟩
    return .run (← draft.graph) query draft.arenaOptions draft.channelOptions
  | .check => do return .check (← draft.graph) draft.arenaOptions
  | .info => some (.info draft.arenaOptions)

end Draft

/-! ## Reading -/

namespace Verb

/-- Take an argument that is no option. -/
def takePlain (verb : Verb) (draft : Draft) (text : String) : Except Halt Draft :=
  if verb.takesGraph then draft.setGraph text else .error .misuse

/-- Take one letter of a short argument. -/
def takeLetter (draft : Draft) (letter : Char) : Except Halt Draft :=
  match Switch.ofLetter? letter with
  | some switch => draft.throwSwitch switch
  | none => .error .misuse

/-- The option of a verb that has a name. -/
def setting (verb : Verb) (name : String) : Except Halt Setting :=
  match verb.settings.find? (·.name == name) with
  | some setting => .ok setting
  | none => .error .misuse

/-- Read the arguments of a verb. -/
def read (verb : Verb) (draft : Draft) : List String → Except Halt Draft
  | [] => .ok draft
  | argument :: rest =>
    match Token.ofString argument with
    | .escape => rest.foldlM verb.takePlain draft
    | .plain text => do verb.read (← verb.takePlain draft text) rest
    | .short letters => do verb.read (← letters.foldlM takeLetter draft) rest
    | .long name (some value) => do
        verb.read (← draft.set (← verb.setting name) value) rest
    | .long name none =>
      match verb.switches.find? (·.name == name) with
      | some switch => do verb.read (← draft.throwSwitch switch) rest
      | none =>
        match verb.setting name, rest with
        | .ok setting, value :: rest =>
          match Token.ofString value with
          | .plain text => do verb.read (← draft.set setting text) rest
          | _ => .error .misuse
        | _, _ => .error .misuse

/-- The request that a verb and its arguments make. -/
def request (verb : Verb) (arguments : List String) : Except Halt Request := do
  match (← verb.read {} arguments).request? verb with
  | some request => .ok request
  | none => .error .misuse

end Verb

/-- What comes of a request for help about the given topics. -/
def helpOn : List String → Halt
  | [] => .help
  | [topic] => if topic = "help" ∨ (Verb.ofName? topic).isSome then .help else .misuse
  | _ => .misuse

/-- Take one letter of a short argument in front of the verb; the state is whether the
program is verbose. -/
def takeTopLetter (verbose : Bool) : Char → Except Halt Bool
  | 'v' => if verbose then .error .misuse else .ok true
  | 'h' => .error .help
  | 'V' => .error .version
  | _ => .error .misuse

/-- Read a command line from the part in front of the verb on. -/
def readFrom (verbose : Bool) : List String → Except Halt Request
  | [] => .error .misuse
  | argument :: rest =>
    match Token.ofString argument with
    | .escape => .error .misuse
    | .plain text =>
      match Verb.ofName? text with
      | some verb => verb.request rest
      | none => .error (if text = "help" then helpOn rest else .misuse)
    | .short letters => do readFrom (← letters.foldlM takeTopLetter verbose) rest
    | .long name value? =>
      match name, value? with
      | "verbose", none => if verbose then .error .misuse else readFrom true rest
      | "help", none => .error .help
      | "version", none => .error .version
      | _, _ => .error .misuse

/-- Read a command line. -/
def read (arguments : List String) : Except Halt Request :=
  readFrom false arguments

end ArenaPaths.Command
