import Interdomain.Config

/-!
# Configurations as values

A configuration is written with its defaults filled in: lists, flags and counts are always there,
and an optional part only where it is set.
-/

namespace Interdomain

open Value (field natural word32)

def GeneralDecl.toValue (g : GeneralDecl) : Value :=
  .object (field "log_level" .text g.logLevel ++
    field "peer_remote_interface_ids" .bool g.peerRemoteIds)

def ExchangeDecl.toValue (x : ExchangeDecl) : Value :=
  .object ([("id", word32 x.id)] ++ field "prefix" (.text ·.text) x.subnet ++
    field "mtu" word32 x.mtu)

def MembershipDecl.toValue (m : MembershipDecl) : Value :=
  .object ([("isd", natural m.isd.toNat), ("core", .bool m.core)] ++
    field "attributes" .texts m.attributes)

def NetworkDecl.toValue (n : NetworkDecl) : Value :=
  .object ([("name", .text n.name)] ++ field "prefix" (.text ·.text) n.subnet ++
    field "mtu" word32 n.mtu)

def NodeDecl.toValue (n : NodeDecl) : Value :=
  .object [("name", .text n.name), ("networks", .texts n.networks)]

def CrossConnectDecl.toValue (c : CrossConnectDecl) : Value :=
  .object ([("peer_asn", word32 c.peerAsn), ("peer_router", .text c.peerRouter),
      ("address", .text c.address.text)] ++
    field "network" .text c.network ++ field "mtu" word32 c.mtu)

def RouterDecl.toValue (r : RouterDecl) : Value :=
  .object [("name", .text r.name), ("networks", .texts r.networks),
    ("cross_connects", .list (r.crossConnects.map CrossConnectDecl.toValue))]

def BeaconingDecl.toValue (b : BeaconingDecl) : Value :=
  .object (b.intervals.fields ++
    [("policies", .object (b.policies.toList.map fun e ↦ (e.1.text, e.2)))])

def AsDecl.toValue (a : AsDecl) : Value :=
  .object ([("asn", word32 a.asn), ("isds", .list (a.isds.map MembershipDecl.toValue)),
      ("networks", .list (a.networks.map NetworkDecl.toValue)),
      ("control_services", .list (a.controlServices.map NodeDecl.toValue)),
      ("hosts", .list (a.hosts.map NodeDecl.toValue)),
      ("routers", .list (a.routers.map RouterDecl.toValue))] ++
    field "beaconing" BeaconingDecl.toValue a.beaconing ++ field "note" .text a.note ++
    [("gateways", .list (a.gateways.map Gateway.toValue)),
      ("generate_static_info_config", .bool a.staticInfo)])

def LinkDecl.toValue (l : LinkDecl) : Value :=
  .object ([("kind", .text l.kind.text)] ++
    field "exchange" word32 l.exchange ++
    [("a", .text l.a.text), ("b", .text l.b.text), ("type", .text l.linkType.text),
      ("count", word32 l.count)] ++
    field "a_router" .text l.aRouter ++ field "b_router" .text l.bRouter)

/-- A configuration as a value. -/
def Config.toValue (c : Config) : Value :=
  .object [("general", c.general.toValue),
    ("isds", .list (c.isds.map fun isd ↦ natural isd.toNat)),
    ("internet_exchanges", .list (c.exchanges.map ExchangeDecl.toValue)),
    ("ases", .list (c.ases.map AsDecl.toValue)), ("links", .list (c.links.map LinkDecl.toValue))]

end Interdomain
