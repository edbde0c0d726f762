import DirectorySchema.Registry.Basic

/-!
# Deferred comparators

A deferred comparator compares through whatever comparator is registered under
its identifier. A stand-in keeps the comparator it has found, drops it when it
is bound anew, and keeps its identifier alone when it is stored and read back.
-/

set_option autoImplicit false

namespace DirectorySchema

/-- Follows deferred comparators to one that compares by itself. More steps than
there are comparators mean that they go round in a circle. -/
def Registry.followDeferred (r : Registry Comparator) :
    Nat → Comparator → Except Failure (Value → Value → Except Failure Ordering)
  | _, .order o => .ok o.compare
  | _, .foreign c => .ok c.compare
  | 0, .deferred _ _ => .error .endlessDeferral
  | steps + 1, .deferred oid bound =>
    if !bound then .error (.unboundDeferral oid)
    else match r.lookup oid with
      | .ok c => r.followDeferred steps c
      | .error e => .error (.refused e)

def Registry.compareBy (r : Registry Comparator) (c : Comparator) (v w : Value) :
    Except Failure Ordering := do
  (← r.followDeferred (r.catalog.entries.length + r.runtime.entries.length + 1) c) v w

structure StandIn where
  oid : Text
  bound : Bool
  resolved : Option Comparator

namespace StandIn

def make (oid : Text) (bound : Bool) : StandIn := ⟨oid, bound, none⟩

def bind (s : StandIn) (bound : Bool) : StandIn := { s with bound := bound, resolved := none }

def stored (s : StandIn) : StandIn := make s.oid false

def resolve (s : StandIn) (r : Registry Comparator) : Except Failure Comparator × StandIn :=
  match s.resolved with
  | some c => (.ok c, s)
  | none =>
    if !s.bound then (.error (.unboundDeferral s.oid), s)
    else match r.lookup s.oid with
      | .ok c => (.ok c, { s with resolved := some c })
      | .error e => (.error (.refused e), s)

def compare (s : StandIn) (r : Registry Comparator) (v w : Value) :
    Except Failure Ordering × StandIn :=
  match s.resolve r with
  | (.ok c, s) => (r.compareBy c v w, s)
  | (.error e, s) => (.error e, s)

def shown (s : StandIn) : Text := (Comparator.deferred s.oid s.bound).shown

end StandIn

end DirectorySchema
