import Interdomain.Beaconing
import Interdomain.Gateway
import Interdomain.LinkType
import Interdomain.Network

/-!
# Configurations

A configuration declares the isolation domains, the internet exchanges, every AS with its networks,
nodes and settings, and the links between ASes. This file holds what is declared; reading, checking
and building are files of their own.
-/

namespace Interdomain

structure GeneralDecl where
  /-- How much is logged. -/
  logLevel : Option String := none
  /-- Whether peering links tell the id of the far interface. -/
  peerRemoteIds : Option Bool := none

structure ExchangeDecl where
  /-- The number; the network is named after it. -/
  id : ExchangeId
  /-- The addresses, if they are declared. -/
  subnet : Option Ipv4.Subnet := none
  /-- The size of the largest packet, if it is declared. -/
  mtu : Option UInt32 := none

structure MembershipDecl where
  /-- The domain. -/
  isd : Isd
  /-- Whether the AS is a core AS. -/
  core : Bool := false
  /-- The attributes, where they are not those that `core` implies. -/
  attributes : Option (List String) := none

structure NetworkDecl where
  name : String
  /-- The addresses, if they are declared. -/
  subnet : Option Ipv4.Subnet := none
  /-- The size of the largest packet, if it is declared. -/
  mtu : Option UInt32 := none

/-- A host or a control service. -/
structure NodeDecl where
  name : String
  /-- The networks that it joins. -/
  networks : List String := []

/-- One side of a connection between two routers. -/
structure CrossConnectDecl where
  /-- The AS at the other side. -/
  peerAsn : Asn
  /-- The router at the other side. -/
  peerRouter : String
  /-- The address on this side, with the mask of the network between. -/
  address : Ipv4.Subnet
  /-- The name of the network between, if it is declared. -/
  network : Option String := none
  /-- The size of the largest packet, if it is declared. -/
  mtu : Option UInt32 := none

structure RouterDecl where
  name : String
  /-- The networks that it joins, of its AS or of exchanges. -/
  networks : List String := []
  /-- Its connections. -/
  crossConnects : List CrossConnectDecl := []

structure BeaconingDecl where
  intervals : Intervals := {}
  /-- The policies by kind. -/
  policies : SortedMap PolicyKind Value := ∅

structure AsDecl where
  /-- The number. -/
  asn : Asn
  /-- Its memberships. -/
  isds : List MembershipDecl
  /-- Its networks. -/
  networks : List NetworkDecl := []
  /-- Its control services. -/
  controlServices : List NodeDecl := []
  /-- Its hosts. -/
  hosts : List NodeDecl := []
  /-- Its border routers. -/
  routers : List RouterDecl := []
  /-- Its beaconing settings. -/
  beaconing : Option BeaconingDecl := none
  /-- A remark. -/
  note : Option String := none
  /-- Its gateways. -/
  gateways : List Gateway := []
  /-- Whether static information about its links is wanted. -/
  staticInfo : Bool := false

/-- What a declared link runs over. -/
inductive MediumKind where
  | crossConnect
  | exchange
  deriving DecidableEq

/-- The kinds of medium by name. -/
def MediumKind.names : List (String × MediumKind) :=
  [("cross_connect", crossConnect), ("exchange", exchange)]

def MediumKind.text : MediumKind → String
  | crossConnect => "cross_connect"
  | exchange => "exchange"

/-- A link between two ASes. -/
structure LinkDecl where
  /-- What it runs over. -/
  kind : MediumKind
  /-- The exchange, for a link over one. -/
  exchange : Option ExchangeId := none
  /-- The AS at the first end. -/
  a : IsdAsn
  /-- The AS at the second end. -/
  b : IsdAsn
  /-- The type. -/
  linkType : LinkType
  /-- How often it is repeated. -/
  count : UInt32 := 1
  /-- The router at the first end, if it is named. -/
  aRouter : Option String := none
  /-- The router at the second end, if it is named. -/
  bRouter : Option String := none

structure Config where
  /-- General settings. -/
  general : GeneralDecl := {}
  /-- The isolation domains. -/
  isds : List Isd
  exchanges : List ExchangeDecl := []
  /-- The autonomous systems. -/
  ases : List AsDecl
  links : List LinkDecl := []

/-- Whether peering links tell the id of the far interface; they do unless it is declared that they
do not. -/
def Config.peerRemoteIds (c : Config) : Bool := c.general.peerRemoteIds.getD true

/-- The names of all nodes of an AS: its routers, hosts and control services. -/
def AsDecl.nodeNames (a : AsDecl) : List String :=
  a.routers.map (·.name) ++ a.hosts.map (·.name) ++ a.controlServices.map (·.name)

/-- The hosts and the control services of an AS. -/
def AsDecl.nodes (a : AsDecl) : List NodeDecl := a.hosts ++ a.controlServices

/-- The networks that the hosts and control services of an AS join, with the names of the nodes. -/
def AsDecl.nodeNetworks (a : AsDecl) : List (String × String) :=
  a.nodes.flatMap fun n ↦ n.networks.map fun network ↦ (n.name, network)

/-- The networks that the routers of an AS join, with the names of the routers. -/
def AsDecl.routerNetworks (a : AsDecl) : List (String × String) :=
  a.routers.flatMap fun r ↦ r.networks.map fun network ↦ (r.name, network)

end Interdomain
