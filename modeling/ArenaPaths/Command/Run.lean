import ArenaPaths.Channel.Replay
import ArenaPaths.Command.Arguments
import ArenaPaths.Graph.Text
import ArenaPaths.Query.Run

/-!
# Running commands

A command works on the files and prints as it goes, so what it printed before it failed
stays printed. A failure says what was being done and lists the causes. The time that a
search took is known only to whoever runs the command, so it is put in when the output
is turned into lines.
-/

namespace ArenaPaths.Command

open Text

/-- Why a command failed. -/
inductive Failure where
  /-- A fault while something was done. -/
  | during (context : String) (fault : Fault)
  /-- A limit of polls that cannot be read. -/
  | badPollLimit (text : String)
  deriving DecidableEq, Repr

namespace Failure

/-- A cause under a mark; the lines after its first are moved as far to the right. -/
def indent (mark : String) (cause : String) : String :=
  let margin := "\n" ++ String.ofList (List.replicate mark.length ' ')
  mark ++ margin.intercalate (cause.splitOn "\n")

/-- Causes, one below the other; several are numbered from zero. -/
def causes : List String → List String
  | [cause] => [indent "    " cause]
  | several => several.zipIdx.map fun (cause, index) => indent s!"    {index}: " cause

/-- What is printed about a failure. -/
def message : Failure → String
  | .during context fault =>
    "\n".intercalate ([s!"Error: {context}", "", "Caused by:"] ++ causes fault.chain)
      ++ "\n"
  | .badPollLimit text => s!"Error: invalid --poll-limit {quote text}\n"

/-- The exit code of a failure. -/
def exit : Failure → Nat
  | .during _ fault => if fault.isAbort then 101 else 1
  | .badPollLimit _ => 1

end Failure

/-- A part of what is printed. -/
inductive Passage where
  | line (text : String)
  | answer (given : Answer)
  deriving DecidableEq, Repr

/-- The lines of a passage, where a search took the given time. -/
def Passage.lines (elapsed : Duration) : Passage → List String
  | .line text => [text]
  | .answer given => given.lines elapsed

/-- What a command leaves: its exit code and what it printed on either side. -/
structure Output where
  exit : Nat
  printed : List Passage := []
  complaint : String := ""
  deriving DecidableEq, Repr

/-- The lines on standard output, where a search took the given time. -/
def Output.lines (output : Output) (elapsed : Duration) : List String :=
  output.printed.flatMap (Passage.lines elapsed)

/-- What a command works on: the files, and what it has printed. -/
structure Console where
  files : Files
  printed : List Passage := []

/-- A step of a command. -/
abbrev Task := EStateM Failure Console

namespace Task

variable {α κ : Type}

/-- Print a passage. -/
def print (passage : Passage) : Task Unit :=
  modify fun console => { console with printed := console.printed ++ [passage] }

/-- Change the files. -/
def onFiles (change : Files → Files) : Task Unit :=
  modify fun console => { console with files := change console.files }

/-- A step on the files; its fault is reported in a context. -/
def inContext (context : String) (step : Action Files α) : Task α := fun console =>
  match step console.files with
  | .ok value files => .ok value { console with files }
  | .error fault files => .error (.during context fault) { console with files }

/-- Open the arena that options ask for. -/
def openArena (options : ArenaOptions) (environment : Environment)
    (needsDevice : Bool) : Task Arena := do
  match options.backingRequest environment needsDevice with
  | .error fault => throw (.during "" fault)
  | .ok request =>
    inContext s!"opening arena {request.render}"
      (Arena.ofRequest request options.granule)

/-- Open the arena and load a graph into it. -/
def load (path : String) (options : ArenaOptions) (environment : Environment)
    (needsDevice : Bool) : Task Graph := do
  let arena ← openArena options environment needsDevice
  let files := (← get).files
  let graph ← inContext s!"loading graph {path}"
    (GraphText.readPath files path arena options.strategy)
  onFiles graph.arena.backing.publish
  return graph

/-- Run a query on a graph over a channel, and leave in the files what was written to
mapped memory. -/
def ask (query : Query) (graph : Graph) (channel? : Option (Channel (κ × Memory)))
    (device : κ) (publish : κ → Files → Files) : Task Answer := do
  let (result, after, device) := (query.run channel?).outcome (graph, device)
  onFiles fun files => publish device (after.arena.backing.publish files)
  match result with
  | .ok answer => return answer
  | .error fault => throw (.during s!"query {query.start} -> {query.goal}" fault)

/-- Run a query on a graph over the channel that options ask for, if the query is
delegated. -/
def askOver (query : Query) (graph : Graph) (options : ChannelOptions)
    (environment : Environment) : Task Answer := do
  match query.mode with
  | .software | .softwareOnDevice => ask query graph none () fun _ files => files
  | .delegated =>
    if options.replay then
      ask query graph (some Replay.channel) (Replay.ofGraph graph) fun _ files => files
    else
      match options.settings environment with
      | .error text => throw (.badPollLimit text)
      | .ok settings =>
        let files := (← get).files
        let window ← inContext s!"opening channel {settings.device}"
          (RegisterWindow.make files settings.device)
        let channel := RegisterWindow.bank.channel settings.guard settings.polling
        ask query graph (some channel.onFirst) window RegisterWindow.publish

/-- Answer a query. -/
def run (path : String) (query : Query) (arena : ArenaOptions)
    (channel : ChannelOptions) (environment : Environment) :
    Task Unit := do
  let graph ← load path arena environment query.mode.needsDevice
  print (.line s!"num_nodes:{graph.nodeCount} num_edges:{graph.edgeCount}")
  print (.answer (← askOver query graph channel environment))

/-- Report the size of a graph. -/
def check (path : String) (arena : ArenaOptions) (environment : Environment) :
    Task Unit := do
  let graph ← load path arena environment false
  print (.line s!"Nodes        : {graph.nodeCount} (bound {graph.config.nodeBound})")
  print (.line s!"Edges        : {graph.edgeCount} (bound {graph.config.edgeBound})")
  print (.line s!"Edge pages   : {graph.pageCount}")
  print (.line s!"Index        : {graph.config.strategy.render}")
  let base := graph.frontier.base.toNat
  print (.line
    s!"Frontier     : {graph.frontier.capacity} slots @ {hexAddress base}")
  print (.line s!"Arena        : {graph.arena.usage}")

/-- Report what was found when the arena was opened. -/
def info (options : ArenaOptions) (environment : Environment) : Task Unit := do
  let arena ← openArena options environment false
  let source := arena.backing.source
  print (.line s!"Backing      : {source.render}")
  print (.line s!"Physical base: {hexAddress arena.base.toNat}")
  print (.line s!"Capacity     : {arena.capacity} bytes")
  print (.line
    s!"Coherency    : {source.coherency.render} ({source.coherency.toNumber})")
  print (.line s!"Granule      : {arena.granule} bytes")

/-- Do what a request asks for. -/
def ofRequest (environment : Environment) : Request → Task Unit
  | .run path query arena channel => run path query arena channel environment
  | .check path arena => check path arena environment
  | .info arena => info arena environment

end Task

/-- How the program is called. -/
def usage : List String :=
  ["Usage: sssp [--verbose] run <graph> --start <id> --goal <id> [--mode <mode>]"
      ++ " [options]",
   "       sssp [--verbose] check <graph> [options]",
   "       sssp [--verbose] info [options]", "",
   "Modes:   software, software-on-device, delegated",
   "Arena:   --backing <heap|udmabuf|uio> --udmabuf <name> --sync-mode <mode>"
      ++ " --uio-index <n> --uio-map <n>",
   "         --heap-mb <n> --granule <bytes> --dense-max-id <id> --buckets <n>",
   "Channel: --channel-device <path> --unguarded --poll-limit <n> --replay"]

/-- What is printed when a command line asks for no work. -/
def Halt.output : Halt → Output
  | .misuse => { exit := 2, complaint := "\n".intercalate usage ++ "\n" }
  | .help => { exit := 0, printed := usage.map .line }
  | .version => { exit := 0, printed := [.line "sssp 0.1.0"] }

/-- Do what a request asks for: the output, and the files as they are left. -/
def perform (environment : Environment) (request : Request) (files : Files) :
    Output × Files :=
  match Task.ofRequest environment request { files } with
  | .ok () console => ({ exit := 0, printed := console.printed }, console.files)
  | .error failure console =>
    ({ exit := failure.exit, printed := console.printed, complaint := failure.message },
      console.files)

/-- Run a command line: the output, and the files as they are left. -/
def execute (environment : Environment) (arguments : List String) (files : Files) :
    Output × Files :=
  match read arguments with
  | .ok request => perform environment request files
  | .error halt => (halt.output, files)

end ArenaPaths.Command
