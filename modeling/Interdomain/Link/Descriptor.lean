import Interdomain.Document
import Interdomain.Identifier
import Interdomain.Ipv4
import Interdomain.LinkType

/-!
# Interface descriptors

What the topology of an AS says about one end of a link: the addresses on both sides, the AS at the
far end and what it is to this one. The id of the interface at the far end is only given on peering
links.
-/

namespace Interdomain

open Document (Record)

structure Underlay where
  /-- The address of this end. -/
  near : Ipv4.Endpoint
  /-- The address of the far end. -/
  far : Ipv4.Endpoint
  deriving DecidableEq

structure Descriptor where
  /-- The addresses. -/
  underlay : Underlay
  /-- The AS at the far end. -/
  isdAs : IsdAsn
  /-- What the far end is to this one. -/
  linkTo : Relationship
  /-- The size of the largest packet. -/
  mtu : UInt32
  /-- The id of the interface at the far end. -/
  remoteInterfaceId : Option Nat
  deriving DecidableEq

def Underlay.read? (d : Document) : Option Underlay := do
  let r ← d.record? ["public", "remote"]
  return ⟨← r.required "public" (Document.parsed? Ipv4.Endpoint.read?),
    ← r.required "remote" (Document.parsed? Ipv4.Endpoint.read?)⟩

namespace Descriptor

def read? (d : Document) : Option Descriptor := do
  let r ← d.record? ["underlay", "isd_as", "link_to", "mtu", "remote_interface_id"]
  return {
    underlay := ← r.required "underlay" Underlay.read?
    isdAs := ← r.required "isd_as" (Document.parsed? IsdAsn.read?)
    linkTo := ← r.required "link_to" (Document.choice? Relationship.names)
    mtu := ← r.required "mtu" Document.word32?
    remoteInterfaceId := ← r.withDefault "remote_interface_id" none
      (Document.option? (Document.natural? 65535)) }

def toValue (d : Descriptor) : Value :=
  .object <|
    [("underlay", .object
        [("public", .text d.underlay.near.text), ("remote", .text d.underlay.far.text)]),
      ("isd_as", .text d.isdAs.text), ("link_to", .text d.linkTo.text), ("mtu", .word32 d.mtu)] ++
    Value.field "remote_interface_id" Value.natural d.remoteInterfaceId

end Descriptor

end Interdomain
