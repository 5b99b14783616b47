import Interdomain.AutonomousSystem

/-!
# Emulations

The whole network: the isolation domains, the ASes in the order of their numbers, the internet
exchanges and the networks of the cross-connects. ASes, routers and networks are found by number
and name, and every change goes through one of the operations here.
-/

namespace Interdomain

/-- The whole network. -/
structure Emulation where
  /-- The isolation domains. -/
  isds : SortedSet Isd := ∅
  /-- The ASes by number. -/
  ases : SortedMap Asn AutonomousSystem := ∅
  /-- The networks of the internet exchanges. -/
  exchanges : Roster ExchangeId Network := ∅
  /-- The networks of the cross-connects. -/
  crossConnectNetworks : Roster String Network := ∅

namespace Emulation

def empty : Emulation := {}

/-! ## Look-up -/

def as? (e : Emulation) (asn : Asn) : Option AutonomousSystem := e.ases.get? asn

/-- The routers of an AS, by name and in the order of their creation. -/
def routers (e : Emulation) (asn : Asn) : List (String × Router) :=
  match e.as? asn with
  | some a => a.routers.entries
  | none => []

def router? (e : Emulation) (asn : Asn) (name : String) : Option Router := do
  (← e.as? asn).routers.get? name

def networks (e : Emulation) : Scope → List Network
  | .inside asn =>
    match e.as? asn with
    | some a => a.networks.values
    | none => []
  | .exchange => e.exchanges.values
  | .crossConnect => e.crossConnectNetworks.values

/-- A network of a scope. Among the exchanges the first network of the name counts. -/
def network? (e : Emulation) (scope : Scope) (name : String) : Option Network :=
  match scope with
  | .inside asn => do (← e.as? asn).networks.get? name
  | .exchange => e.exchanges.values.find? (·.name = name)
  | .crossConnect => e.crossConnectNetworks.get? name

def isCore (e : Emulation) (ia : IsdAsn) : Bool :=
  match e.as? ia.asn with
  | some a => a.isCore ia.isd
  | none => false

def freeInterfaceIds (e : Emulation) (asn : Asn) : Nat :=
  match e.as? asn with
  | some a => a.interfaceIds.free
  | none => 0

def freePorts (e : Emulation) (asn : Asn) (router : String) : Nat :=
  match e.router? asn router with
  | some r => r.ports.free
  | none => 0

/-! ## Building -/

def addIsd (e : Emulation) (isd : Isd) : Emulation := { e with isds := e.isds.insert isd () }

/-- Add an AS, unless there is one of its number. -/
def addAs? (e : Emulation) (a : AutonomousSystem) : Option Emulation :=
  if e.ases.contains a.asn then none else some { e with ases := e.ases.insert a.asn a }

def setExchange (e : Emulation) (id : ExchangeId) (n : Network) : Emulation :=
  { e with exchanges := e.exchanges.insert id n }

def setCrossConnectNetwork (e : Emulation) (n : Network) : Emulation :=
  { e with crossConnectNetworks := e.crossConnectNetworks.insert n.name n }

/-- Replace an AS that is there. -/
def setAs (e : Emulation) (asn : Asn) (a : AutonomousSystem) : Emulation :=
  { e with ases := e.ases.modify asn fun _ ↦ a }

/-! ## Allocation -/

def findAs (e : Emulation) (asn : Asn) : Except Fault AutonomousSystem :=
  match e.as? asn with
  | some a => .ok a
  | none => .error (.unknownAs asn)

def onAs {α : Type} (asn : Asn) (c : Change AutonomousSystem Fault α) : Change Emulation Fault α :=
  .part (·.findAs asn) (·.setAs asn) c

/-- Take an interface id from an AS. -/
def allocateInterfaceId (asn : Asn) : Change Emulation Fault Nat :=
  onAs asn AutonomousSystem.takeInterfaceId

/-- Take an underlay port from a router. -/
def allocatePort (asn : Asn) (router : String) : Change Emulation Fault Nat :=
  onAs asn (AutonomousSystem.onRouter router (Router.takePort (.portsExhausted asn router)))

/-- Attach the descriptor of a link to a router. -/
def attach (asn : Asn) (router : String) (id : Nat) (d : Descriptor) :
    Change Emulation Fault Unit :=
  onAs asn (AutonomousSystem.onRouter router (Change.write (·.attach id d)))

end Emulation

end Interdomain
