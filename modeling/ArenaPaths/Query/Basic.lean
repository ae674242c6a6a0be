import ArenaPaths.Search
import ArenaPaths.Text.Lowercase
import ArenaPaths.Text.Seconds

/-!
# Queries and answers

A query asks for a shortest path between two ids and says who searches. An answer says
how the search ended, lists the route, and is shown line by line.
-/

namespace ArenaPaths

/-- Who searches, and where the graph has to be. -/
inductive Mode where
  /-- The host, in memory of its own. -/
  | software
  /-- The host, in memory that a device shares. -/
  | softwareOnDevice
  /-- The accelerator, in memory that it shares. -/
  | delegated
  deriving DecidableEq, Repr

namespace Mode

/-- Whether the graph has to be in memory that a device shares. -/
def needsDevice (mode : Mode) : Bool := mode != .software

/-- How a mode is shown. -/
def render : Mode → String
  | .software => "software"
  | .softwareOnDevice => "software-on-device"
  | .delegated => "delegated"

/-- The mode that a text asks for, in any case; the fault of a text that asks for none
names it lowered. -/
def parse (text : String) : Except String Mode :=
  match Text.lower text with
  | "software" | "sw" | "0" => .ok .software
  | "software-on-device" | "device" | "timed" | "1" => .ok .softwareOnDevice
  | "delegated" | "hardware" | "hw" | "2" => .ok .delegated
  | other => .error s!"unknown execution mode: {other}"

end Mode

/-- A question for a shortest path. -/
structure Query where
  start : UInt32
  goal : UInt32
  mode : Mode := .software
  deriving DecidableEq, Repr

/-- A node on a route, and the cost of getting there from the start. -/
structure RouteStep where
  id : UInt32
  cost : UInt32
  deriving DecidableEq, Repr

/-- The answer to a query. -/
structure Answer where
  query : Query
  outcome : Outcome
  /-- The nodes from start to goal; none unless the goal was found. -/
  route : List RouteStep := []
  /-- Cycles that the accelerator counted. -/
  cycles : Option UInt32 := none
  /-- Nodes that the host settled. -/
  steps : Option Nat := none
  deriving DecidableEq, Repr

/-- The span of the given seconds and nanoseconds; it stops the program if its seconds
do not fit a machine word. -/
def Duration.make (seconds nanoseconds : Nat) : Except Fault Duration :=
  let span := Duration.of seconds nanoseconds
  if span.seconds < UInt64.size then .ok span else .error (.abort .spanOverflow)

namespace Answer

/-- Cost of the goal, or the unreached cost. -/
def cost (answer : Answer) : UInt32 := answer.outcome.cost?.getD unreached

/-- Whether the goal was found. -/
def isFound (answer : Answer) : Bool := answer.outcome.cost?.isSome

/-- The lines that say how the search ended. -/
def outcomeLines (answer : Answer) : List String :=
  match answer.outcome with
  | .found cost =>
    ["route:"] ++ answer.route.map (fun step => s!"{step.id} {step.cost}")
      ++ [s!"cost: {cost}"]
  | .exhausted => ["cost: unreachable"]

/-- The lines of an answer whose search took the given time. -/
def lines (answer : Answer) (elapsed : Duration) : List String :=
  [s!"start:{answer.query.start} goal:{answer.query.goal}"]
    ++ answer.outcomeLines
    ++ (answer.cycles.map (fun cycles => s!"cycles: {cycles}")).toList
    ++ [s!"execution time: {Text.Seconds.render elapsed} s"]

/-- An answer as text. -/
def render (answer : Answer) (elapsed : Duration) : String :=
  "\n".intercalate (answer.lines elapsed)

end Answer

end ArenaPaths
