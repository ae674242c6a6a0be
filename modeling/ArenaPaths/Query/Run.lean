import ArenaPaths.Channel.Basic
import ArenaPaths.Graph.Basic
import ArenaPaths.Query.Basic

/-!
# Running queries

Every run starts from a graph whose search state has been reset, so an answer does not
depend on the runs before it. The host either searches by itself or hands three
addresses to an accelerator and believes what that answers. Either way the route is read
back from the parents that the search left in the node records.

A run works on the graph and on the state `κ` of whatever is behind the channel; the
accelerator shares the graph's bytes, so a channel for a run works on `κ` and those.
-/

namespace ArenaPaths

variable {κ α : Type}

namespace Graph

/-- Walk from a node to the start along the parents, putting what comes first on the
walk last, over at most the given number of nodes. -/
def routeFrom (start goal : NodeRef) :
    Nat → NodeRef → List RouteStep → Action Graph (List RouteStep)
  | 0, _, _ => throw (.corrupt goal.address.toNat .endlessRoute)
  | remaining + 1, current, route => do
    let record ← nodeRecord current
    let id ← idOf current
    let route := ⟨id, record.cost⟩ :: route
    if current = start then return route
    else
      match NodeRef.ofWord? record.parent with
      | none => throw (.corrupt current.address.toNat .brokenRoute)
      | some parent => routeFrom start goal remaining parent route

/-- The route from start to goal. No route has more nodes than the graph, so a longer
walk is corrupt. -/
def route (start goal : NodeRef) : Action Graph (List RouteStep) := do
  routeFrom start goal ((← get).nodeCount + 1) goal []

/-- The route if the goal was found. -/
def routeOf (start goal : NodeRef) : Outcome → Action Graph (List RouteStep)
  | .found _ => route start goal
  | .exhausted => return []

/-- Run a step of what is behind a channel, which shares the graph's bytes. -/
def onDevice (step : Action (κ × Memory) α) : Action (Graph × κ) α :=
  Action.focus (fun (graph, device) => (device, graph.arena.memory))
    (fun (graph, _) (device, memory) =>
      ({ graph with arena := graph.arena.withMemory memory }, device))
    step

/-- How an engine that runs queries on the graph over a channel is shown. -/
def describeEngine (graph : Graph) (channel? : Option ChannelKind) : String :=
  let channel :=
    match channel? with
    | some kind => "Some(" ++ kind.label ++ ")"
    | none => "None"
  "PathEngine \x7b nodes: " ++ toString graph.nodeCount ++ ", edges: "
    ++ toString graph.edgeCount
    ++ ", channel: " ++ channel ++ " \x7d"

end Graph

namespace Query

/-- Let the host search between two nodes. -/
def runLocal (query : Query) (start goal : NodeRef) : Action Graph Answer := do
  let report ← Graph.search start goal
  let route ← Graph.routeOf start goal report.outcome
  return { query, outcome := report.outcome, route, steps := some report.steps }

/-- Let the accelerator behind a channel search between two nodes. -/
def runDelegated (query : Query) (channel? : Option (Channel (κ × Memory)))
    (start goal : NodeRef) :
    Action (Graph × κ) Answer := do
  match channel? with
  | none => throw (.configuration .missingChannel)
  | some channel =>
    let (graph, _) ← get
    graph.arena.syncAll .toDevice
    let (cost, cycles) ←
      Graph.onDevice (channel.exchange graph.frontier.base start.address goal.address)
    graph.arena.syncAll .fromDevice
    let outcome : Outcome := if cost = unreached then .exhausted else .found cost
    let route ← Action.onFirst (Graph.routeOf start goal outcome)
    return { query, outcome, route, cycles := some cycles }

/-- Answer a query. An id that was never added cannot be reached, and then nothing is
touched. -/
def run (query : Query) (channel? : Option (Channel (κ × Memory))) :
    Action (Graph × κ) Answer := do
  let start? ← Action.onFirst (Graph.find query.start)
  let goal? ← Action.onFirst (Graph.find query.goal)
  match start?, goal? with
  | some start, some goal =>
    Action.onFirst Graph.resetSearch
    match query.mode with
    | .software | .softwareOnDevice => Action.onFirst (query.runLocal start goal)
    | .delegated => query.runDelegated channel? start goal
  | _, _ => return { query, outcome := .exhausted }

/-- Answer a query without a channel. -/
def runAlone (query : Query) : Action Graph Answer :=
  Action.focus (fun graph => (graph, ())) (fun _ (graph, ()) => graph) (query.run none)

end Query

end ArenaPaths
