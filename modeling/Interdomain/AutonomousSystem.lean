import Interdomain.Beaconing
import Interdomain.Change
import Interdomain.Gateway.Table
import Interdomain.MasterKeys
import Interdomain.Router

/-!
# Autonomous systems

An AS owns networks, routers, hosts and control services; the last three share one space of names.
It is a member of isolation domains, with attributes in each, and it hands out the interface ids of
the links that end on it. Configuration happens once: it settles the size of the largest packet, as
the least of the networks, and draws the master keys.

An operation that can fail is a change of the AS. It looks first and writes afterwards, so one that
is refused changes nothing.
-/

namespace Interdomain

structure AutonomousSystem where
  /-- The number. -/
  asn : Asn
  /-- The networks by name. -/
  networks : Roster String Network := ∅
  /-- The border routers by name. -/
  routers : Roster String Router := ∅
  /-- The hosts by name. -/
  hosts : Roster String Node := ∅
  /-- The control services by name. -/
  controlServices : Roster String Node := ∅
  /-- The attributes in each isolation domain; a domain without attributes counts too. -/
  attributes : SortedMap Isd (SortedSet String) := ∅
  /-- The size of the largest packet inside the AS, once it is settled. -/
  mtu : Option UInt32 := none
  /-- The master keys, once they are drawn. -/
  keys : Option MasterKeys := none
  intervals : Intervals := {}
  policies : SortedMap PolicyKind Value := ∅
  interfaceIds : Counter := ⟨1⟩
  gateways : GatewayTable := .standard
  /-- A remark. -/
  note : Option String := none
  /-- Whether static information about its links is wanted. -/
  staticInfo : Bool := false

namespace AutonomousSystem

/-! ## Membership -/

def isds (a : AutonomousSystem) : List Isd := a.attributes.keys

/-- The identifier in the first isolation domain, or in domain zero where there is none. -/
def ia (a : AutonomousSystem) : IsdAsn := ⟨a.isds.head?.getD 0, a.asn⟩

/-- The attributes that core ASes have unless others are declared. -/
def coreAttributes : List String := ["authoritative", "core", "issuing", "voting"]

/-- Make the AS a member of a domain with some attributes, in place of earlier ones. -/
def setAttributes (a : AutonomousSystem) (isd : Isd) (attributes : List String) :
    AutonomousSystem :=
  { a with attributes := a.attributes.insert isd (.ofList attributes) }

/-- The attributes in a domain, in order. -/
def attributesIn (a : AutonomousSystem) (isd : Isd) : List String :=
  match a.attributes.get? isd with
  | some attributes => attributes.keys
  | none => []

/-- Whether the AS is a core AS of a domain. -/
def isCore (a : AutonomousSystem) (isd : Isd) : Bool := (a.attributesIn isd).contains "core"

/-! ## Networks and nodes -/

/-- The names of all routers, hosts and control services. -/
def nodeNames (a : AutonomousSystem) : List String :=
  a.routers.keys ++ a.hosts.keys ++ a.controlServices.keys

/-- Refuse the name of a network that is there. -/
def checkNetwork (a : AutonomousSystem) (name : String) : Except Fault Unit :=
  if a.networks.contains name then .error (.duplicateNode a.asn name) else .ok ()

def addNetwork (n : Network) : Change AutonomousSystem Fault Unit := do
  Change.look (·.checkNetwork n.name)
  Change.write fun a ↦ { a with networks := a.networks.insert n.name n }

/-- Refuse a name that a node has. -/
def checkName (a : AutonomousSystem) (name : String) : Except Fault Unit :=
  if a.nodeNames.contains name then .error (.duplicateNode a.asn name) else .ok ()

def addRouter (name : String) (r : Router) : Change AutonomousSystem Fault Unit := do
  Change.look (·.checkName name)
  Change.write fun a ↦ { a with routers := a.routers.insert name r }

def addHost (name : String) (n : Node) : Change AutonomousSystem Fault Unit := do
  Change.look (·.checkName name)
  Change.write fun a ↦ { a with hosts := a.hosts.insert name n }

def addControlService (name : String) (n : Node) : Change AutonomousSystem Fault Unit := do
  Change.look (·.checkName name)
  Change.write fun a ↦ { a with controlServices := a.controlServices.insert name n }

def modifyRouter (a : AutonomousSystem) (name : String) (f : Router → Router) : AutonomousSystem :=
  { a with routers := a.routers.modify name f }

/-- The router of a name. -/
def findRouter (a : AutonomousSystem) (name : String) : Except Fault Router :=
  match a.routers.get? name with
  | some r => .ok r
  | none => .error (.unknownRouter a.ia name)

def onRouter {α : Type} (name : String) (c : Change Router Fault α) :
    Change AutonomousSystem Fault α :=
  .part (·.findRouter name) (fun a r ↦ a.modifyRouter name fun _ ↦ r) c

/-! ## Policies and gateways -/

/-- Set the beacon policy of a kind, or clear it. -/
def setPolicy (a : AutonomousSystem) (kind : PolicyKind) (policy : Option Value) :
    AutonomousSystem :=
  match policy with
  | some policy => { a with policies := a.policies.insert kind policy }
  | none => { a with policies := a.policies.erase kind }

/-- Refuse a host that is not there. -/
def checkHost (a : AutonomousSystem) (name : String) : Except Fault Unit :=
  if a.hosts.contains name then .ok () else .error (.unknownHost a.asn name)

/-- Put a gateway on one of the hosts. -/
def addGateway (g : Gateway) : Change AutonomousSystem Fault Unit := do
  Change.look (·.checkHost g.host)
  let asn ← Change.look (.ok ·.asn)
  Change.part (.ok ·.gateways) (fun a gateways ↦ { a with gateways }) (GatewayTable.insert asn g)

/-! ## Configuration -/

/-- The size of the largest packet that configuration settles, where it has not yet happened. -/
def pendingMtu (a : AutonomousSystem) : Except Fault UInt32 :=
  if a.mtu.isSome then .error (.alreadyConfigured a.asn)
  else match (a.networks.values.map (·.mtu)).min? with
    | some mtu => .ok mtu
    | none => .error (.noInternalNetworks a.asn)

/-- Settle the size of the largest packet and draw the keys from a source, once. -/
def configure {σ : Type} [WordSource σ] : Change (AutonomousSystem × σ) Fault Unit := do
  let mtu ← Change.look (·.1.pendingMtu)
  Change.write fun (a, source) ↦ ({ a with mtu := some mtu }, source)
  Change.write fun (a, source) ↦
    let (keys, source) := MasterKeys.generate source
    ({ a with keys := some keys }, source)

/-- Something that is there once configuration has happened. -/
def settled {α : Type} (a : AutonomousSystem) : Option α → Except Fault α
  | some x => .ok x
  | none => .error (.notConfigured a.asn)

/-- The next interface id, and the counter behind it. -/
def nextInterfaceId (a : AutonomousSystem) : Except Fault (Nat × Counter) :=
  match a.interfaceIds.take? with
  | some r => .ok r
  | none => .error (.interfaceIdsExhausted a.asn)

def takeInterfaceId : Change AutonomousSystem Fault Nat := do
  let (id, interfaceIds) ← Change.look nextInterfaceId
  Change.write fun a ↦ { a with interfaceIds }
  return id

end AutonomousSystem

end Interdomain
