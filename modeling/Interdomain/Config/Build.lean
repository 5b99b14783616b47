import Interdomain.Addressing
import Interdomain.Config.Validation
import Interdomain.Emulation
import Interdomain.Link.Registry

/-!
# Building networks from configurations

`Config.build` makes the domains, the exchanges and then the ASes in the order of their declaration,
and `Config.declareLinks` declares the links. Both work on any configuration, checked or not, and
stop at the first fault.

A network between two routers is added the first time its name is used, so its addresses and packet
size are those of the first connection that names it.
-/

namespace Interdomain

inductive BuildFault where
  /-- A part is refused by the part that should hold it. -/
  | part (f : Fault)
  /-- An AS is declared twice. -/
  | duplicateAs (asn : Asn)
  /-- There are no default addresses. -/
  | addressTemplate (subject : Subject)
  /-- A node cannot be attached to a network. -/
  | address (f : AddressFault)
  /-- Two routers have one address on an exchange. -/
  | addressConflict (network : String) (address : Ipv4.Address)
  /-- A link is malformed. -/
  | invalidLink (index : Nat) (reason : LinkDefect)
  deriving DecidableEq

def AddressFault.message : AddressFault → String
  | exhausted network => "no free address left in network " ++ network
  | unknownNetwork asn node network =>
    "node " ++ node ++ " of AS " ++ asnText asn ++ " joins unknown network " ++ network

def BuildFault.message : BuildFault → String
  | part f => f.message
  | duplicateAs asn => "AS " ++ asnText asn ++ " is declared more than once"
  | addressTemplate subject => "cannot derive a default prefix for " ++ subject.text
  | address f => f.message
  | addressConflict network taken =>
    "address " ++ taken.text ++ " in network " ++ network ++ " is already taken"
  | invalidLink index reason =>
    "invalid link " ++ Decimal.text index ++ ": " ++ reason.message

/-- The outcome of a step of building. -/
abbrev Building := Except BuildFault

namespace Building

/-- A step that a part may refuse. -/
def ofPart {α : Type} (x : Except Fault α) : Building α := x.mapError .part

/-- A step of addressing. -/
def ofAddressing {α : Type} (x : Except AddressFault α) : Building α := x.mapError .address

end Building

/-- The addresses that are declared, or else those of the template. -/
def subnetOf (declared : Option Ipv4.Subnet) (second third : Nat) (subject : Subject) :
    Building Ipv4.Subnet :=
  match declared with
  | some subnet => .ok subnet
  | none =>
    match defaultSubnet? second third with
    | some subnet => .ok subnet
    | none => .error (.addressTemplate subject)

/-! ## Exchanges -/

/-- The network of an exchange. -/
def ExchangeDecl.build (x : ExchangeDecl) : Building Network := do
  let subnet ← subnetOf x.subnet x.id.toNat 0 (.exchange x.id)
  return ⟨exchangeNetworkName x.id, .exchange, subnet, x.mtu.getD defaultMtu⟩

def addExchange (e : Emulation) (x : ExchangeDecl) : Building Emulation := do
  return e.setExchange x.id (← x.build)

/-! ## Autonomous systems -/

/-- The attributes of a membership: those declared, or else those that `core` implies. -/
def MembershipDecl.attributesOrDefault (m : MembershipDecl) : List String :=
  m.attributes.getD (if m.core then AutonomousSystem.coreAttributes else [])

/-- Add the networks of an AS, from a place in their list on. -/
def addNetworks (a : AutonomousSystem) (index : Nat) :
    List NetworkDecl → Building AutonomousSystem
  | [] => .ok a
  | n :: rest => do
    let subnet ← subnetOf n.subnet a.asn.toNat index (.network n.name a.asn)
    let network : Network := ⟨n.name, .inside a.asn, subnet, n.mtu.getD defaultMtu⟩
    let a ← Building.ofPart ((AutonomousSystem.addNetwork network).after a)
    addNetworks a (index + 1) rest

/-- An AS while its nodes are added. -/
structure Site where
  /-- The AS so far. -/
  system : AutonomousSystem
  /-- The state of address allocation. -/
  addressing : Addressing
  /-- The number of loopback addresses that are taken in the whole network. -/
  loopbacks : Nat
  /-- The networks of its connections, in order. -/
  connections : List Network := []

namespace Site

/-- Attach a node and add it. -/
def addNode (add : String → Node → Change AutonomousSystem Fault Unit) (s : Site)
    (n : NodeDecl) : Building Site := do
  let (interfaces, addressing) ←
    Building.ofAddressing ((n.networks.mapM (Addressing.attachHost n.name)).outcome s.addressing)
  let system ← Building.ofPart ((add n.name ⟨interfaces⟩).after s.system)
  return { s with system, addressing }

/-- The name of the network of a connection: the one that is declared, or the one that both sides
derive. -/
def connectionName (asn : Asn) (router : String) (x : CrossConnectDecl) : String :=
  x.network.getD (crossConnectNetworkName (asn, router) (x.peerAsn, x.peerRouter))

/-- The network of a connection as this side declares it. -/
def connectionNetwork (asn : Asn) (router : String) (x : CrossConnectDecl) : Network :=
  ⟨connectionName asn router x, .crossConnect, x.address.truncate, x.mtu.getD defaultMtu⟩

/-- Record a connection on a router. -/
def addConnection (asn : Asn) (name : String) (r : Router) (x : CrossConnectDecl) : Router :=
  r.connect (x.peerAsn, x.peerRouter) ⟨x.address, connectionName asn name x⟩

/-- Attach a router, record its connections and add it. -/
def addRouter (s : Site) (r : RouterDecl) : Building Site := do
  let asn := s.system.asn
  let (interfaces, addressing) ←
    Building.ofAddressing ((r.networks.mapM (Addressing.attachRouter r.name)).outcome s.addressing)
  let router := r.crossConnects.foldl (addConnection asn r.name)
    { loopback := loopback s.loopbacks, interfaces }
  let system ← Building.ofPart ((AutonomousSystem.addRouter r.name router).after s.system)
  return {
    system, addressing
    loopbacks := s.loopbacks + 1
    connections := s.connections ++ r.crossConnects.map (connectionNetwork asn r.name) }

end Site

/-- The settings of an AS that need no addresses. -/
def AsDecl.applySettings (d : AsDecl) (a : AutonomousSystem) : AutonomousSystem :=
  let beaconing := d.beaconing.getD {}
  { a with
    intervals := beaconing.intervals
    policies := beaconing.policies
    note := d.note
    staticInfo := d.staticInfo }

/-- Build an AS, after so many routers elsewhere. -/
def AsDecl.build (d : AsDecl) (exchanges : Roster String Network) (loopbacks : Nat) :
    Building Site := do
  let bare : AutonomousSystem := { asn := d.asn }
  let member := d.isds.foldl (fun a m ↦ a.setAttributes m.isd m.attributesOrDefault) bare
  let system ← addNetworks member 0 d.networks
  let networks := system.networks.values.foldl
    (fun ns n ↦ ns.insert n.name (n, Offsets.ofSubnet n.subnet)) ∅
  let site : Site := { system, addressing := ⟨d.asn, networks, exchanges⟩, loopbacks }
  let site ← d.controlServices.foldlM (Site.addNode AutonomousSystem.addControlService) site
  let site ← d.hosts.foldlM (Site.addNode AutonomousSystem.addHost) site
  let site ← d.routers.foldlM Site.addRouter site
  let settled := d.applySettings site.system
  let system ← Building.ofPart ((d.gateways.forM AutonomousSystem.addGateway).after settled)
  return { site with system }

/-! ## The whole network -/

/-- The network while ASes are added. -/
structure Construction where
  /-- The network so far. -/
  emulation : Emulation
  /-- The number of loopback addresses that are taken. -/
  loopbacks : Nat := 0
  /-- The addresses that are taken on exchanges. -/
  taken : List (String × Ipv4.Address) := []

namespace Construction

/-- The attachments of the routers of an AS to exchanges. -/
def exchangeAddresses (a : AutonomousSystem) : List (String × Ipv4.Address) :=
  a.routers.values.flatMap fun r ↦
    (r.interfaces.filter (·.scope = .exchange)).map fun i ↦ (i.network, i.address)

/-- Take addresses on exchanges, each once. -/
def claim (taken : List (String × Ipv4.Address)) :
    List (String × Ipv4.Address) → Building (List (String × Ipv4.Address))
  | [] => .ok taken
  | x :: rest => if x ∈ taken then .error (.addressConflict x.1 x.2) else claim (x :: taken) rest

/-- Add the network of a connection, unless there is one of its name. -/
def addConnectionNetwork (e : Emulation) (n : Network) : Emulation :=
  if (e.crossConnectNetworks.get? n.name).isSome then e else e.setCrossConnectNetwork n

def addAs (exchanges : Roster String Network) (c : Construction) (d : AsDecl) :
    Building Construction := do
  let site ← d.build exchanges c.loopbacks
  let taken ← claim c.taken (exchangeAddresses site.system)
  match c.emulation.addAs? site.system with
  | none => .error (.duplicateAs d.asn)
  | some e =>
    return {
      emulation := site.connections.foldl addConnectionNetwork e
      loopbacks := site.loopbacks
      taken }

end Construction

namespace Config

/-- Build the network of a configuration, without its links. -/
def build (c : Config) : Building Emulation := do
  let withIsds := c.isds.foldl Emulation.addIsd .empty
  let withExchanges ← c.exchanges.foldlM addExchange withIsds
  let exchanges := withExchanges.exchanges.values.foldl (fun ns n ↦ ns.insert n.name n) ∅
  let construction ← c.ases.foldlM (Construction.addAs exchanges) { emulation := withExchanges }
  return construction.emulation

/-! ## Links -/

def mediumOf (index : Nat) (l : LinkDecl) : Building Medium :=
  match l.kind, l.exchange with
  | .crossConnect, none => .ok .crossConnect
  | .exchange, some id => .ok (.exchange id)
  | .crossConnect, some _ => .error (.invalidLink index .strayExchange)
  | .exchange, none => .error (.invalidLink index .missingExchange)

def endsOf (l : LinkDecl) : LinkEnds :=
  .named l.a l.b l.linkType (l.aRouter.getD "") (l.bRouter.getD "")

/-- Declare links, from a place in their list on. -/
def declareFrom (r : LinkRegistry) (index : Nat) : List LinkDecl → Building LinkRegistry
  | [] => .ok r
  | l :: rest => do
    let medium ← mediumOf index l
    let r ← Building.ofPart ((LinkRegistry.add ⟨medium, endsOf l⟩ l.count).after r)
    declareFrom r (index + 1) rest

def declareLinks (c : Config) : Building LinkRegistry := declareFrom .empty 0 c.links

end Config

end Interdomain
