import Interdomain.AutonomousSystem
import Interdomain.Json.Printer
import Interdomain.MapEntries

/-!
# Topologies

The topology of an AS in one of its isolation domains is what every daemon of the AS reads: where
the services listen, which border routers there are, and which links end on them. It is made of
what configuration settled, so an AS that is not configured has none.
-/

namespace Interdomain

open Document (Record text? word32? bool? list? parsed?)

structure TopologyRouter where
  /-- The address inside the AS. -/
  internalAddress : String
  /-- The interfaces by id. -/
  interfaces : SortedMap Nat Descriptor

structure TopologyGateway where
  /-- The address of the control protocol. -/
  control : String
  /-- The address of the data. -/
  data : String
  deriving DecidableEq

/-- The topology of an AS in an isolation domain. -/
structure Topology where
  /-- The attributes of the AS in the domain. -/
  attributes : List String
  /-- The AS as a member of the domain. -/
  isdAs : IsdAsn
  /-- The size of the largest packet inside the AS. -/
  mtu : UInt32
  /-- Whether daemons test the dispatcher. -/
  testDispatcher : Bool
  /-- The ports that are dispatched. -/
  dispatchedPorts : String
  /-- The addresses of the control services by name. -/
  controlServices : SortedMap String String
  /-- The addresses of the discovery services by name. -/
  discoveryServices : SortedMap String String
  /-- The border routers by name. -/
  routers : SortedMap String TopologyRouter
  /-- The gateways by name. -/
  gateways : SortedMap String TopologyGateway
  /-- A remark. -/
  note : Option String

namespace Topology

/-! ## The topology of an AS -/

def servicePort : Nat := 30252

/-- The port of a border router inside its AS. -/
def routerPort : Nat := 30042

/-- The ports that are dispatched. -/
def dispatchedRange : String := "30000-32767"

/-- The addresses of the control services that are attached to a network. -/
def services (a : AutonomousSystem) : SortedMap String String :=
  .ofList <| a.controlServices.entries.filterMap fun (name, service) ↦
    service.address?.map fun address ↦ (name, (Ipv4.Endpoint.mk address servicePort).text)

def borderRouters (a : AutonomousSystem) : SortedMap String TopologyRouter :=
  .ofList <| a.routers.entries.map fun (name, r) ↦
    (name, ⟨(Ipv4.Endpoint.mk r.loopback routerPort).text, r.attached⟩)

/-- A gateway at the address of its host. -/
def gatewayEntry (a : AutonomousSystem) (g : Gateway) : Except Fault (String × TopologyGateway) :=
  match (a.hosts.get? g.host).bind (·.address?) with
  | none => .error (.unknownHost a.asn g.host)
  | some address =>
    .ok (g.name, ⟨(Ipv4.Endpoint.mk address g.ctrlPort).text,
      (Ipv4.Endpoint.mk address g.dataPort).text⟩)

end Topology

/-- The topology of an AS in an isolation domain. The AS has to be configured, and the hosts of its
gateways have to be attached to a network. -/
def AutonomousSystem.topology (a : AutonomousSystem) (isd : Isd) : Except Fault Topology := do
  let mtu ← a.settled a.mtu
  let gateways ← a.gateways.gateways.mapM (Topology.gatewayEntry a)
  return {
    attributes := a.attributesIn isd
    isdAs := ⟨isd, a.asn⟩
    mtu
    testDispatcher := true
    dispatchedPorts := Topology.dispatchedRange
    controlServices := Topology.services a
    discoveryServices := Topology.services a
    routers := Topology.borderRouters a
    gateways := .ofList gateways
    note := a.note }

/-! ## Reading and writing -/

def TopologyRouter.read? (d : Document) : Option TopologyRouter := do
  let r ← d.record? ["internal_addr", "interfaces"]
  return {
    internalAddress := ← r.required "internal_addr" text?
    interfaces := ← r.required "interfaces" (readSorted? readIdKey? Descriptor.read?) }

def TopologyRouter.toValue (r : TopologyRouter) : Value :=
  .object [("internal_addr", .text r.internalAddress),
    ("interfaces", numbered Descriptor.toValue r.interfaces)]

def TopologyGateway.read? (d : Document) : Option TopologyGateway := do
  let r ← d.record? ["ctrl_addr", "data_addr"]
  return ⟨← r.required "ctrl_addr" text?, ← r.required "data_addr" text?⟩

def TopologyGateway.toValue (g : TopologyGateway) : Value :=
  .object [("ctrl_addr", .text g.control), ("data_addr", .text g.data)]

namespace Topology

def readServices? : Document → Option (SortedMap String String) :=
  readSorted? text? fun d ↦ do (← d.record? ["addr"]).required "addr" text?

def writeServices : SortedMap String String → Value :=
  namedEntries fun address ↦ .object [("addr", .text address)]

def read? (d : Document) : Option Topology := do
  let r ← d.record? ["attributes", "isd_as", "mtu", "test_dispatcher", "dispatched_ports",
    "control_service", "discovery_service", "border_routers", "colibri_service", "sigs", "note"]
  let topology : Topology := {
    attributes := ← r.required "attributes" (list? text?)
    isdAs := ← r.required "isd_as" (parsed? IsdAsn.read?)
    mtu := ← r.required "mtu" word32?
    testDispatcher := ← r.required "test_dispatcher" bool?
    dispatchedPorts := ← r.required "dispatched_ports" text?
    controlServices := ← r.required "control_service" readServices?
    discoveryServices := ← r.required "discovery_service" readServices?
    routers := ← r.required "border_routers" (readSorted? text? TopologyRouter.read?)
    gateways := ← r.required "sigs" (readSorted? text? TopologyGateway.read?)
    note := ← r.withDefault "note" none (Document.option? text?) }
  let _ ← r.required "colibri_service" (Document.record? [])
  return topology

/-- A topology as a value. The reserved service is always empty. -/
def toValue (t : Topology) : Value :=
  .object ([("attributes", .texts t.attributes), ("isd_as", .text t.isdAs.text),
      ("mtu", .word32 t.mtu), ("test_dispatcher", .bool t.testDispatcher),
      ("dispatched_ports", .text t.dispatchedPorts),
      ("control_service", writeServices t.controlServices),
      ("discovery_service", writeServices t.discoveryServices),
      ("border_routers", namedEntries TopologyRouter.toValue t.routers),
      ("colibri_service", .object []),
      ("sigs", namedEntries TopologyGateway.toValue t.gateways)] ++
    Value.field "note" .text t.note)

def text (t : Topology) : String := Json.pretty t.toValue

end Topology

end Interdomain
