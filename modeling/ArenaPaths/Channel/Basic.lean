import ArenaPaths.Action

/-!
# Channels

A channel carries words between the host and an accelerator, one at a time in either
direction. A request is three words: the base of the frontier, the start and the goal,
all of them physical addresses. The response is two: the cost of the goal and a count of
cycles.

What is behind a channel is a state of its own, so a channel is a pair of steps on that
state.
-/

namespace ArenaPaths

/-- What is behind a channel. -/
inductive ChannelKind where
  /-- The registers of a device. -/
  | registers
  /-- A model of the accelerator that answers from memory. -/
  | replay
  deriving DecidableEq, Repr

namespace ChannelKind

/-- How a kind of channel is shown. -/
def render : ChannelKind → String
  | .registers => "MMIO"
  | .replay => "Replay"

/-- How a kind of channel is shown inside a description of an engine. -/
def label : ChannelKind → String
  | .registers => "Mmio"
  | .replay => "Replay"

end ChannelKind

/-- A way to exchange words with an accelerator, whose state is `σ`. -/
structure Channel (σ : Type) where
  kind : ChannelKind
  send : UInt32 → Action σ Unit
  receive : Action σ UInt32

namespace Channel

/-- Words of a request. -/
def requestWords : Nat := 3

/-- Words of a response. -/
def responseWords : Nat := 2

/-- The channel seen from a larger state, of which its own is the first half. -/
def onFirst {σ τ : Type} (channel : Channel σ) : Channel (σ × τ) where
  kind := channel.kind
  send word := Action.onFirst (channel.send word)
  receive := Action.onFirst channel.receive

/-- Send a request and wait for the response. -/
def exchange {σ : Type} (channel : Channel σ) (frontier start goal : UInt32) :
    Action σ (UInt32 × UInt32) := do
  channel.send frontier
  channel.send start
  channel.send goal
  let cost ← channel.receive
  let cycles ← channel.receive
  return (cost, cycles)

end Channel

end ArenaPaths
