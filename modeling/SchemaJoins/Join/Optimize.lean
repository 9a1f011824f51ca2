import SchemaJoins.Adapter.Capabilities
import SchemaJoins.Join.Config

/-! # Fitting joins to an adapter

Two independent passes over join configurations: one assigns the loading
strategy, the other replaces a kind that the adapter cannot execute by the
nearest one that it can, and notes the kind that was replaced.
-/

namespace SchemaJoins

structure Optimizer where
  strategy : LoadStrategy
  capabilities : Adapter.Capabilities
  deriving Repr, Inhabited

namespace Optimizer

def create (strategy : LoadStrategy) (adapter : String) (version : Option String) :
    Logged Optimizer := do
  return { strategy, capabilities := ← Adapter.Capabilities.get adapter version }

/-- The parent of a row is usually wanted; all else is loaded on demand. -/
def strategyFor : Option Cardinality → LoadStrategy
  | some (.direct .belongsTo) => .eager
  | _ => .lazy

def assign (o : Optimizer) (c : JoinConfig) : Except Fault JoinConfig :=
  match o.strategy with
  | .optimized => do return { c with strategy := strategyFor (← c.cardinality) }
  | fixed => .ok { c with strategy := fixed }

def adjust (o : Optimizer) (c : JoinConfig) : JoinConfig :=
  if o.capabilities.supports c.kind then c
  else { c with
    kind := o.capabilities.fallbackFor c.kind
    metadata := JoinConfig.putMetadata "original_kind" (.text c.kind.name) c.metadata }

def optimize (o : Optimizer) (c : JoinConfig) : Except Fault JoinConfig := do
  return o.adjust (← o.assign c)

def optimizeAll (o : Optimizer) (joins : List JoinConfig) : Except Fault (List JoinConfig) :=
  joins.mapM o.optimize

end Optimizer

end SchemaJoins
