import Interdomain.Document
import Interdomain.Identifier
import Interdomain.Ipv4
import Interdomain.MapEntries

/-!
# Gateways

A gateway connects a legacy network of an AS with the networks behind the gateways of other ASes.
Its traffic policy lists those networks by the identifier of their AS: the identifiers in the order
of their texts, and the networks of each in the order in which they were given.
-/

namespace Interdomain

open Document (Record)

/-! ## Declarations -/

/-- A network behind a gateway of another AS. -/
structure Remote where
  /-- The other AS. -/
  ia : IsdAsn
  /-- The network. -/
  net : Ipv4.Subnet
  deriving DecidableEq

/-- A gateway as it is declared. -/
structure Gateway where
  name : String
  /-- The host that runs it. -/
  host : String
  /-- The network that it serves. -/
  localNet : Ipv4.Subnet
  /-- The networks behind other gateways. -/
  remotes : List Remote := []
  /-- The port of the control protocol. -/
  ctrlPort : Nat := 30256
  /-- The port of the data. -/
  dataPort : Nat := 30056
  /-- The port of the probes. -/
  probePort : Nat := 30856
  /-- How much it logs. -/
  debugLevel : String := "debug"
  deriving DecidableEq

def Remote.read? (d : Document) : Option Remote := do
  let r ← d.record? ["ia", "net"]
  return {
    ia := ← r.required "ia" (Document.parsed? IsdAsn.read?)
    net := ← r.required "net" (Document.parsed? Ipv4.Subnet.read?) }

def Remote.toValue (r : Remote) : Value :=
  .object [("ia", .text r.ia.text), ("net", .text r.net.text)]

namespace Gateway

/-- The three ports of a gateway. -/
def ports (g : Gateway) : List Nat := [g.ctrlPort, g.dataPort, g.probePort]

def read? (d : Document) : Option Gateway := do
  let r ← d.record? ["name", "host", "local_net", "remotes", "ctrl_port", "data_port",
    "probe_port", "debug_level"]
  let port (name : String) (default : Nat) : Option Nat :=
    r.withDefault name default (Document.natural? 65535)
  return {
    name := ← r.required "name" Document.text?
    host := ← r.required "host" Document.text?
    localNet := ← r.required "local_net" (Document.parsed? Ipv4.Subnet.read?)
    remotes := ← r.withDefault "remotes" [] (Document.list? Remote.read?)
    ctrlPort := ← port "ctrl_port" 30256
    dataPort := ← port "data_port" 30056
    probePort := ← port "probe_port" 30856
    debugLevel := ← r.withDefault "debug_level" "debug" Document.text? }

def toValue (g : Gateway) : Value :=
  .object [("name", .text g.name), ("host", .text g.host), ("local_net", .text g.localNet.text),
    ("remotes", .list (g.remotes.map Remote.toValue)), ("ctrl_port", .natural g.ctrlPort),
    ("data_port", .natural g.dataPort), ("probe_port", .natural g.probePort),
    ("debug_level", .text g.debugLevel)]

end Gateway

/-! ## Traffic policies -/

/-- The networks that a gateway reaches, by the text of the identifier of their AS. -/
structure TrafficPolicy where
  /-- The networks of each AS. -/
  ases : SortedMap String (List Ipv4.Subnet)
  /-- The version that the policy is stamped with. -/
  version : UInt32

namespace TrafficPolicy

/-- The version of the policies that are made here. -/
def currentVersion : UInt32 := 9001

/-- Add a remote network after the others of its AS. -/
def add (ases : SortedMap String (List Ipv4.Subnet)) (r : Remote) :
    SortedMap String (List Ipv4.Subnet) :=
  ases.insert r.ia.text ((ases.get? r.ia.text).getD [] ++ [r.net])

/-- Read the networks behind the gateways of an AS. -/
def readNets? (d : Document) : Option (List Ipv4.Subnet) := do
  let r ← d.record? ["Nets"]
  r.required "Nets" (Document.list? (Document.parsed? Ipv4.Subnet.read?))

/-- The networks behind the gateways of an AS as a value. -/
def writeNets (nets : List Ipv4.Subnet) : Value := .object [("Nets", .texts (nets.map (·.text)))]

def read? (d : Document) : Option TrafficPolicy := do
  let r ← d.record? ["ASes", "ConfigVersion"]
  return {
    ases := ← r.required "ASes" (readSorted? Document.text? readNets?)
    version := ← r.required "ConfigVersion" Document.word32? }

def toValue (p : TrafficPolicy) : Value :=
  .object [("ASes", namedEntries writeNets p.ases), ("ConfigVersion", .word32 p.version)]

end TrafficPolicy

/-- The traffic policy of a gateway. -/
def Gateway.trafficPolicy (g : Gateway) : TrafficPolicy where
  ases := g.remotes.foldl TrafficPolicy.add .empty
  version := TrafficPolicy.currentVersion

end Interdomain
