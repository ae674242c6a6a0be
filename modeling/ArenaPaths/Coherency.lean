import ArenaPaths.Text.Lowercase
import ArenaPaths.Text.Numeral

/-!
# Coherency modes

How the host's mapping of a shared buffer is cached. The modes have numbers, by which
they are handed to the buffer's driver, and names, by which they are asked for.
-/

namespace ArenaPaths

/-- Cache behaviour of the host's mapping. -/
inductive Coherency where
  /-- Cached: the host has to flush and invalidate. -/
  | cacheEnabled
  | sync
  | syncWriteCombine
  | syncDmaCoherent
  deriving DecidableEq, Repr

namespace Coherency

/-- The mode with a number; every number above three means the last mode. -/
def ofNumber : Nat → Coherency
  | 0 => .cacheEnabled
  | 1 => .sync
  | 2 => .syncWriteCombine
  | _ => .syncDmaCoherent

/-- The number of a mode. -/
def toNumber : Coherency → Nat
  | .cacheEnabled => 0
  | .sync => 1
  | .syncWriteCombine => 2
  | .syncDmaCoherent => 3

@[simp] theorem ofNumber_toNumber (mode : Coherency) :
    ofNumber mode.toNumber = mode := by
  cases mode <;> rfl

/-- Whether host stores need explicit cache maintenance. -/
def isCached (mode : Coherency) : Bool := mode == .cacheEnabled

/-- How a mode is shown. -/
def render : Coherency → String
  | .cacheEnabled => "cache-enabled"
  | .sync => "sync"
  | .syncWriteCombine => "sync-write-combine"
  | .syncDmaCoherent => "sync-dma-coherent"

/-- How a mode is shown inside a description of a backing. -/
def label : Coherency → String
  | .cacheEnabled => "CacheEnabled"
  | .sync => "Sync"
  | .syncWriteCombine => "SyncWriteCombine"
  | .syncDmaCoherent => "SyncDmaCoherent"

/-- The mode that a text asks for, by number or by name in any case; a text that asks
for none is given back in the fault, lowered. -/
def parse (text : String) : Except String Coherency :=
  match Text.Numeral.word32 text with
  | .ok number => .ok (ofNumber number.toNat)
  | .error _ =>
    match Text.lower text with
    | "cache-enabled" | "cached" => .ok .cacheEnabled
    | "sync" | "uncached" => .ok .sync
    | "sync-write-combine" | "wc" => .ok .syncWriteCombine
    | "sync-dma-coherent" | "coherent" => .ok .syncDmaCoherent
    | other => .error s!"unknown coherency mode: {other}"

end Coherency

end ArenaPaths
