import Interdomain.Config

/-!
# Reading configurations

Each part of a configuration is a record of a document. A part that may be left out has a default;
an optional part may also be the absent value. Keys without a meaning are passed over, except in
beaconing settings, where every entry has to have a value.
-/

namespace Interdomain

open Document (Record text? bool? list? parsed? word16? word32? choice?)

def GeneralDecl.read? (d : Document) : Option GeneralDecl := do
  let r ← d.record? ["log_level", "peer_remote_interface_ids"]
  return {
    logLevel := ← r.optional "log_level" text?
    peerRemoteIds := ← r.optional "peer_remote_interface_ids" bool? }

def ExchangeDecl.read? (d : Document) : Option ExchangeDecl := do
  let r ← d.record? ["id", "prefix", "mtu"]
  return {
    id := ← r.required "id" word32?
    subnet := ← r.optional "prefix" (parsed? Ipv4.Subnet.read?)
    mtu := ← r.optional "mtu" word32? }

def MembershipDecl.read? (d : Document) : Option MembershipDecl := do
  let r ← d.record? ["isd", "core", "attributes"]
  return {
    isd := ← r.required "isd" word16?
    core := ← r.withDefault "core" false bool?
    attributes := ← r.optional "attributes" (list? text?) }

def NetworkDecl.read? (d : Document) : Option NetworkDecl := do
  let r ← d.record? ["name", "prefix", "mtu"]
  return {
    name := ← r.required "name" text?
    subnet := ← r.optional "prefix" (parsed? Ipv4.Subnet.read?)
    mtu := ← r.optional "mtu" word32? }

def NodeDecl.read? (d : Document) : Option NodeDecl := do
  let r ← d.record? ["name", "networks"]
  return {
    name := ← r.required "name" text?
    networks := ← r.withDefault "networks" [] (list? text?) }

def CrossConnectDecl.read? (d : Document) : Option CrossConnectDecl := do
  let r ← d.record? ["peer_asn", "peer_router", "address", "network", "mtu"]
  return {
    peerAsn := ← r.required "peer_asn" word32?
    peerRouter := ← r.required "peer_router" text?
    address := ← r.required "address" (parsed? Ipv4.Subnet.read?)
    network := ← r.optional "network" text?
    mtu := ← r.optional "mtu" word32? }

def RouterDecl.read? (d : Document) : Option RouterDecl := do
  let r ← d.record? ["name", "networks", "cross_connects"]
  return {
    name := ← r.required "name" text?
    networks := ← r.withDefault "networks" [] (list? text?)
    crossConnects := ← r.withDefault "cross_connects" [] (list? CrossConnectDecl.read?) }

/-- How many lists and mappings stand around the beaconing settings and their parts: the
configuration, its list of ASes, the AS, and the settings. -/
def levelsOfBeaconing : Nat := 4

/-- Read the policies by kind. Of two policies of one kind the later stays. -/
def readPolicies? (d : Document) : Option (SortedMap PolicyKind Value) := do
  let levels := Document.deepest - (levelsOfBeaconing + 1)
  let entries ← (← d.entries?).mapM fun e ↦ do
    return (← choice? PolicyKind.names e.1, ← e.2.value? true levels)
  return .ofList entries

/-- Read the beaconing settings. The intervals stand beside the policies, and a value in the place
of an interval has its type before it is asked for. -/
def BeaconingDecl.read? (d : Document) : Option BeaconingDecl := do
  let levels := Document.deepest - levelsOfBeaconing
  let entries ← (← d.entries?).mapM fun e ↦ e.1.text?.map fun name ↦ (name, e.2)
  let typed ← entries.mapM fun (name, d) ↦
    if name = "policies" then some (Document.plain name, d)
    else (d.value? false levels).map fun v ↦ (.plain name, .typed v)
  let r ← (Document.mapping typed).named? ("policies" :: Intervals.names)
  return {
    intervals := ← Intervals.ofRecord? r
    policies := ← r.withDefault "policies" ∅ readPolicies? }

def AsDecl.read? (d : Document) : Option AsDecl := do
  let r ← d.record? ["asn", "isds", "networks", "control_services", "hosts", "routers",
    "beaconing", "note", "gateways", "generate_static_info_config"]
  return {
    asn := ← r.required "asn" word32?
    isds := ← r.required "isds" (list? MembershipDecl.read?)
    networks := ← r.withDefault "networks" [] (list? NetworkDecl.read?)
    controlServices := ← r.withDefault "control_services" [] (list? NodeDecl.read?)
    hosts := ← r.withDefault "hosts" [] (list? NodeDecl.read?)
    routers := ← r.withDefault "routers" [] (list? RouterDecl.read?)
    beaconing := ← r.optional "beaconing" BeaconingDecl.read?
    note := ← r.optional "note" text?
    gateways := ← r.withDefault "gateways" [] (list? Gateway.read?)
    staticInfo := ← r.withDefault "generate_static_info_config" false bool? }

def LinkDecl.read? (d : Document) : Option LinkDecl := do
  let r ← d.record? ["kind", "exchange", "a", "b", "type", "count", "a_router", "b_router"]
  return {
    kind := ← r.required "kind" (choice? MediumKind.names)
    exchange := ← r.optional "exchange" word32?
    a := ← r.required "a" (parsed? IsdAsn.read?)
    b := ← r.required "b" (parsed? IsdAsn.read?)
    linkType := ← r.required "type" (choice? LinkType.names)
    count := ← r.withDefault "count" 1 word32?
    aRouter := ← r.optional "a_router" text?
    bRouter := ← r.optional "b_router" text? }

/-- Read a configuration. -/
def Config.read? (d : Document) : Option Config := do
  let r ← d.record? ["general", "isds", "internet_exchanges", "ases", "links"]
  return {
    general := ← r.withDefault "general" {} GeneralDecl.read?
    isds := ← r.required "isds" (list? word16?)
    exchanges := ← r.withDefault "internet_exchanges" [] (list? ExchangeDecl.read?)
    ases := ← r.required "ases" (list? AsDecl.read?)
    links := ← r.withDefault "links" [] (list? LinkDecl.read?) }

end Interdomain
