import Interdomain.Change
import Interdomain.Fault
import Interdomain.Gateway

/-!
# Gateway tables

The gateways of an AS, in the order in which they were put in. A table has room for so many, and
two gateways on one host use six different ports. Ports are checked before room is, and everything
is checked before the table is changed.
-/

namespace Interdomain

structure GatewayTable where
  /-- How many there may be. -/
  limit : Nat
  /-- The gateways in the order of insertion. -/
  gateways : List Gateway

namespace GatewayTable

/-- The table without gateways. -/
def withLimit (limit : Nat) : GatewayTable := ⟨limit, []⟩

/-- The table of an AS has room for one gateway. -/
def standard : GatewayTable := withLimit 1

/-- The first port that comes a second time. -/
def repeatedPort? : List Nat → List Nat → Option Nat
  | _, [] => none
  | before, p :: rest => if p ∈ before then some p else repeatedPort? (before ++ [p]) rest

/-- The first port of a gateway that a gateway of the table uses on the same host. Earlier gateways
of the table are asked first. -/
def takenPort? (t : GatewayTable) (g : Gateway) : Option Nat :=
  (t.gateways.filter (·.host = g.host)).findSome? fun other ↦
    g.ports.find? (· ∈ other.ports)

/-- Refuse a gateway whose ports collide, or for which the table of an AS has no place. -/
def check (t : GatewayTable) (asn : Asn) (g : Gateway) : Except Fault Unit :=
  match repeatedPort? [] g.ports with
  | some port => .error (.portConflict g.host port)
  | none =>
    match t.takenPort? g with
    | some port => .error (.portConflict g.host port)
    | none =>
      if t.limit ≤ t.gateways.length ∨ g.name ∈ t.gateways.map (·.name) then
        .error (.capacity asn t.limit)
      else .ok ()

/-- Put a gateway into the table of an AS. -/
def insert (asn : Asn) (g : Gateway) : Change GatewayTable Fault Unit := do
  Change.look (·.check asn g)
  Change.write fun t ↦ { t with gateways := t.gateways ++ [g] }

def get (t : GatewayTable) (name : String) : Except Fault Gateway :=
  match t.gateways.find? (·.name = name) with
  | some g => .ok g
  | none => .error (.gatewayNotFound name)

end GatewayTable

end Interdomain
