import ArenaPaths.Channel.Basic
import ArenaPaths.Graph.Basic

/-!
# Replay

A model of the accelerator that shares nothing with the host but the bytes of the arena.
It collects the words of a request, searches through the device's window, and holds the
response until it is read.
-/

namespace ArenaPaths

/-- The model: what it reaches, the entries its frontier may have, the words in either
direction, and the requests it has answered, which it counts in a word. -/
structure Replay where
  window : Window
  capacity : Nat
  request : List UInt32 := []
  response : List UInt32 := []
  queries : Nat := 0
  deriving DecidableEq, Repr

namespace Replay

/-- The model for a graph, with as large a frontier as the graph's. -/
def ofGraph (graph : Graph) : Replay :=
  { window := graph.arena.deviceWindow, capacity := graph.frontier.capacity }

/-- The fault of a search as the host sees it: only faults of access come through as
they are. -/
def seenFault (fault : Fault) : Fault :=
  match fault with
  | .arenaExhausted .. | .boundExceeded .. | .line .. | .frontierFull ..
  | .idBeyondTable .. | .corrupt ..
  | .configuration .. => .protocol (.other fault.message)
  | .deviceNotFound .. | .io .. | .mapping .. | .attribute .. | .addressOutside ..
  | .timeout .. | .protocol ..
  | .abort .. => fault

/-- Search for a request: between two nodes, with an empty frontier at the given
base. -/
def searchFor (window : Window) (capacity : Nat) (base start goal : UInt32) :
    Action Memory SearchReport :=
  fun memory =>
    match NodeRef.ofWord? start, NodeRef.ofWord? goal with
    | none, _ => .error (.protocol .nullStart) memory
    | some _, none => .error (.protocol .nullGoal) memory
    | some start, some goal =>
      match Search.run window start goal ⟨⟨base, capacity, 0⟩, memory⟩ with
      | .ok report rest => .ok report rest.memory
      | .error fault rest => .error (seenFault fault) rest.memory

/-- The words that answer a request. A count of steps that fits no word is given as the
greatest one. -/
def answer (report : SearchReport) : List UInt32 :=
  [report.outcome.cost?.getD unreached, (min report.steps (UInt32.size - 1)).toUInt32]

/-- Take a word. The third one of a request is answered at once; a request is over
whether its search fails or not. An answer is there to be read before it is counted. -/
def send (word : UInt32) : Action (Replay × Memory) Unit := do
  let (replay, _) ← get
  if !replay.response.isEmpty then throw (.protocol .writeWhilePending)
  match replay.request ++ [word] with
  | [base, start, goal] =>
    let replay := { replay with request := [] }
    Action.onFirst (set replay)
    let report ← Action.onSecond
      (searchFor replay.window replay.capacity base start goal)
    let replay := { replay with response := answer report }
    Action.onFirst (set replay)
    let queries ← Word.add UInt32.size replay.queries 1
    Action.onFirst (set { replay with queries })
  | request => Action.onFirst (set { replay with request })

/-- Give a word of the response. -/
def receive : Action (Replay × Memory) UInt32 := do
  let (replay, _) ← get
  match replay.response with
  | [] => throw (.protocol .readWithoutResponse)
  | word :: rest =>
    Action.onFirst (set { replay with response := rest })
    return word

/-- The model as a channel. -/
def channel : Channel (Replay × Memory) where
  kind := .replay
  send := send
  receive := receive

end Replay

end ArenaPaths
