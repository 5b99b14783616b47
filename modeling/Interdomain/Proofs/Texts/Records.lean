import Interdomain.Proofs.Texts.Addresses
import Interdomain.Proofs.Texts.Documents
import Interdomain.Proofs.Texts.Identifiers
import Interdomain.StaticInfo

/-!
# Records that are read back

A topology, the static information and a traffic policy are written as values and then as text.
Reading the text gives the value, and reading the value gives the record: nothing of a record is
lost in its file. The numbers of a topology have to be those that the readers accept, 16 bits for
ports and interface ids.
-/

namespace Interdomain

open Document (record?_object required_recordOf withDefault_field)
open Json (Legible)

theorem Relationship.read_text (r : Relationship) :
    (Document.typed (.text r.text)).choice? Relationship.names = some r := by cases r <;> rfl

theorem LineType.read_text (t : LineType) :
    (Document.typed (.text t.text)).choice? LineType.names = some t := by cases t <;> rfl

/-! ## Descriptors -/

/-- The numbers of a descriptor have 16 bits. -/
structure Descriptor.Fits (d : Descriptor) : Prop where
  near : d.underlay.near.port ≤ 65535
  far : d.underlay.far.port ≤ 65535
  remoteId : ∀ id ∈ d.remoteInterfaceId, id ≤ 65535

theorem Underlay.read?_toValue {u : Underlay} (hnear : u.near.port ≤ 65535)
    (hfar : u.far.port ≤ 65535) :
    Underlay.read? (.typed (.object
      [("public", .text u.near.text), ("remote", .text u.far.text)])) = some u := by
  have hread : ∀ {e : Ipv4.Endpoint}, e.port ≤ 65535 →
      (Document.typed (.text e.text)).parsed? Ipv4.Endpoint.read? = some e :=
    Ipv4.Endpoint.read?_text
  rw [Underlay.read?, record?_object (by simp) (by simp)]
  simp only [Option.bind_eq_bind, Option.bind_some]
  rw [required_recordOf rfl (hread hnear), required_recordOf rfl (hread hfar)]
  rfl

theorem Descriptor.read?_toValue {d : Descriptor} (h : d.Fits) :
    Descriptor.read? (.typed d.toValue) = some d := by
  have hremote : ∀ id ∈ d.remoteInterfaceId, (Document.typed (.natural id)).isAbsent = false ∧
      (Document.typed (.natural id)).natural? 65535 = some id :=
    fun id hid ↦ ⟨rfl, Document.natural?_natural (h.remoteId id hid)⟩
  rw [Descriptor.read?, toValue,
    record?_object (by cases d.remoteInterfaceId <;> simp [Value.field])
      (by cases d.remoteInterfaceId <;> simp [Value.field])]
  simp only [Option.bind_eq_bind, Option.bind_some]
  rw [required_recordOf rfl (Underlay.read?_toValue h.near h.far),
    required_recordOf rfl (d.isdAs.read?_text), required_recordOf rfl d.linkTo.read_text,
    required_recordOf rfl (Document.word32?_word32 d.mtu), withDefault_field rfl hremote]
  rfl

theorem Descriptor.legible_toValue {d : Descriptor} (h : d.Fits) : Legible d.toValue := by
  have hunderlay : Legible (.object
      [("public", .text d.underlay.near.text), ("remote", .text d.underlay.far.text)]) :=
    Json.legible_object (by simp) (by simp [Legible])
  have hremote : ∀ id ∈ d.remoteInterfaceId, Legible (.natural id) := fun id hid ↦
    Json.legible_natural (Nat.lt_of_le_of_lt (h.remoteId id hid) (by decide))
  refine Json.legible_object (by cases d.remoteInterfaceId <;> simp [Value.field])
    (Json.legible_append_field ?_ hremote)
  simp [hunderlay, Legible, Json.legible_word32]

/-! ## Topologies -/

/-- The numbers of the interfaces of a router have 16 bits. -/
def TopologyRouter.Fits (r : TopologyRouter) : Prop :=
  ∀ id d, r.interfaces.get? id = some d → id ≤ 65535 ∧ d.Fits

theorem TopologyRouter.read?_toValue {r : TopologyRouter} (h : r.Fits) :
    TopologyRouter.read? (.typed r.toValue) = some r := by
  have hinterfaces : readSorted? readIdKey? Descriptor.read?
      (.typed (numbered Descriptor.toValue r.interfaces)) = some r.interfaces := by
    refine readSorted?_numbered (fun id hid ↦ ?_) fun d hd ↦ ?_
    · obtain ⟨d, hd⟩ := r.interfaces.mem_keys_iff.1 hid
      exact (h id d hd).1
    · obtain ⟨id, hid⟩ := r.interfaces.mem_values_iff.1 hd
      exact Descriptor.read?_toValue (h id d hid).2
  have haddress : (Document.typed (.text r.internalAddress)).text? = some r.internalAddress := rfl
  rw [TopologyRouter.read?, toValue, record?_object (by simp) (by simp)]
  simp only [Option.bind_eq_bind, Option.bind_some]
  rw [required_recordOf rfl haddress, required_recordOf rfl hinterfaces]
  rfl

theorem TopologyRouter.legible_toValue {r : TopologyRouter} (h : r.Fits) : Legible r.toValue := by
  have hinterfaces : Legible (numbered Descriptor.toValue r.interfaces) := by
    refine legible_numbered fun d hd ↦ ?_
    obtain ⟨id, hid⟩ := r.interfaces.mem_values_iff.1 hd
    exact Descriptor.legible_toValue (h id d hid).2
  exact Json.legible_object (by simp) (by simp [hinterfaces, Legible])

theorem TopologyGateway.read?_toValue (g : TopologyGateway) :
    TopologyGateway.read? (.typed g.toValue) = some g := by
  have htext : ∀ s, (Document.typed (.text s)).text? = some s := fun _ ↦ rfl
  rw [TopologyGateway.read?, toValue, record?_object (by simp) (by simp)]
  simp only [Option.bind_eq_bind, Option.bind_some]
  rw [required_recordOf rfl (htext g.control), required_recordOf rfl (htext g.data)]
  rfl

namespace Topology

/-- The numbers of all interfaces have 16 bits. -/
def Fits (t : Topology) : Prop := ∀ name r, t.routers.get? name = some r → r.Fits

theorem readServices?_writeServices (services : SortedMap String String) :
    readServices? (.typed (writeServices services)) = some services := by
  refine readSorted?_namedEntries fun address _ ↦ ?_
  rw [record?_object (by simp) (by simp)]
  rfl

/-- **Topologies are read back.** -/
theorem read?_toValue {t : Topology} (h : t.Fits) : read? (.typed t.toValue) = some t := by
  have hrouters : readSorted? Document.text? TopologyRouter.read?
      (.typed (namedEntries TopologyRouter.toValue t.routers)) = some t.routers := by
    refine readSorted?_namedEntries fun r hr ↦ ?_
    obtain ⟨name, hname⟩ := t.routers.mem_values_iff.1 hr
    exact TopologyRouter.read?_toValue (h name r hname)
  have hgateways : readSorted? Document.text? TopologyGateway.read?
      (.typed (namedEntries TopologyGateway.toValue t.gateways)) = some t.gateways :=
    readSorted?_namedEntries fun g _ ↦ g.read?_toValue
  have hcolibri : (Document.typed (.object [])).record? [] = some (Document.recordOf []) :=
    record?_object (by simp) (by simp)
  have htext : (Document.typed (.text t.dispatchedPorts)).text? = some t.dispatchedPorts := rfl
  have hbool : (Document.typed (.bool t.testDispatcher)).bool? = some t.testDispatcher := rfl
  rw [read?, toValue, record?_object (by cases t.note <;> simp [Value.field])
    (by cases t.note <;> simp [Value.field])]
  simp only [Option.bind_eq_bind, Option.bind_some]
  rw [required_recordOf rfl (Document.list?_texts t.attributes),
    required_recordOf rfl t.isdAs.read?_text, required_recordOf rfl (Document.word32?_word32 t.mtu),
    required_recordOf rfl hbool, required_recordOf rfl htext,
    required_recordOf rfl (readServices?_writeServices t.controlServices),
    required_recordOf rfl (readServices?_writeServices t.discoveryServices),
    required_recordOf rfl hrouters, required_recordOf rfl hcolibri,
    required_recordOf rfl hgateways, withDefault_field rfl fun _ _ ↦ ⟨rfl, rfl⟩]
  rfl

theorem legible_toValue {t : Topology} (h : t.Fits) : Legible t.toValue := by
  have hservices : ∀ m, Legible (writeServices m) := fun m ↦
    legible_namedEntries fun address _ ↦ Json.legible_object (by simp) (by simp [Legible])
  have hrouters : Legible (namedEntries TopologyRouter.toValue t.routers) := by
    refine legible_namedEntries fun r hr ↦ ?_
    obtain ⟨name, hname⟩ := t.routers.mem_values_iff.1 hr
    exact TopologyRouter.legible_toValue (h name r hname)
  have hgateways : Legible (namedEntries TopologyGateway.toValue t.gateways) :=
    legible_namedEntries fun g _ ↦ Json.legible_object (by simp) (by simp [Legible])
  have hcolibri : Legible (.object []) := Json.legible_object (by simp) (by simp)
  refine Json.legible_object (by cases t.note <;> simp [Value.field])
    (Json.legible_append_field ?_ fun note _ ↦ trivial)
  simp [hservices, hrouters, hgateways, hcolibri, Legible, Json.legible_word32,
    Json.legible_texts]

/-- The file of a topology is read back as its value. -/
theorem read?_text {t : Topology} (h : t.Fits) : Json.read? (t.text ++ "\n") = some t.toValue :=
  Json.read?_pretty (legible_toValue h)

theorem at?_isdAs (t : Topology) : t.toValue.at? ["isd_as"] = some (.text t.isdAs.text) := rfl

theorem at?_mtu (t : Topology) : t.toValue.at? ["mtu"] = some (.word32 t.mtu) := rfl

theorem at?_routers (t : Topology) (path : List String) :
    t.toValue.at? ("border_routers" :: path)
      = (namedEntries TopologyRouter.toValue t.routers).at? path := rfl

theorem namesAt?_routers (t : Topology) :
    t.toValue.namesAt? ["border_routers"] = some t.routers.keys :=
  names?_namedEntries TopologyRouter.toValue t.routers

theorem at?_interfaces {t : Topology} {name : String} {r : TopologyRouter}
    (h : t.routers.get? name = some r) (path : List String) :
    t.toValue.at? ("border_routers" :: name :: "interfaces" :: path)
      = (numbered Descriptor.toValue r.interfaces).at? path := by
  rw [at?_routers, Value.at?_cons, get?_namedEntries, h]
  rfl

theorem namesAt?_interfaces {t : Topology} {name : String} {r : TopologyRouter}
    (h : t.routers.get? name = some r) :
    t.toValue.namesAt? ["border_routers", name, "interfaces"]
      = some (r.interfaces.keys.map Decimal.text) := by
  rw [Value.namesAt?, at?_interfaces h]
  exact names?_numbered Descriptor.toValue r.interfaces

/-- The packet sizes of the interfaces are in the entries of their ids, and nowhere else. -/
theorem at?_interfaceMtu_eq_some_iff {t : Topology} {name id : String} {w : Value} :
    t.toValue.at? ["border_routers", name, "interfaces", id, "mtu"] = some w ↔
      ∃ r n d, t.routers.get? name = some r ∧ r.interfaces.get? n = some d ∧
        Decimal.text n = id ∧ .word32 d.mtu = w := by
  have hmtu : ∀ d : Descriptor, d.toValue.at? ["mtu"] = some (.word32 d.mtu) := fun _ ↦ rfl
  constructor
  · intro h
    rw [at?_routers, Value.at?_cons, get?_namedEntries] at h
    obtain ⟨_, hrouter, h⟩ := Option.bind_eq_some_iff.1 h
    obtain ⟨r, hr, rfl⟩ := Option.map_eq_some_iff.1 hrouter
    have hinterfaces : (numbered Descriptor.toValue r.interfaces).at? [id, "mtu"] = some w := h
    obtain ⟨_, hentry, h⟩ := Option.bind_eq_some_iff.1 (Value.at?_cons .. ▸ hinterfaces)
    obtain ⟨n, d, hd, hid, rfl⟩ := get?_numbered_eq_some_iff.1 hentry
    exact ⟨r, n, d, hr, hd, hid, Option.some.inj ((hmtu d).symm.trans h)⟩
  · rintro ⟨r, n, d, hr, hd, rfl, rfl⟩
    rw [at?_interfaces hr, Value.at?_cons, get?_numbered, hd]
    exact hmtu d

end Topology

/-! ## Static information -/

namespace StaticInfo

/-- The ids of all interfaces have 16 bits. -/
def Fits (info : StaticInfo) : Prop := ∀ id ∈ info.lineTypes.keys, id ≤ 65535

/-- **Static information is read back.** -/
theorem read?_toValue {info : StaticInfo} (h : info.Fits) :
    read? (.typed info.toValue) = some info := by
  have hlines : readSorted? readIdKey? (Document.choice? LineType.names)
      (.typed (numbered (fun t ↦ .text t.text) info.lineTypes)) = some info.lineTypes :=
    readSorted?_numbered h fun t _ ↦ t.read_text
  rw [read?, toValue, record?_object (by cases info.note <;> simp [Value.field])
    (by cases info.note <;> simp [Value.field])]
  simp only [Option.bind_eq_bind, Option.bind_some]
  rw [required_recordOf rfl hlines, withDefault_field rfl fun _ _ ↦ ⟨rfl, rfl⟩]
  rfl

theorem legible_toValue (info : StaticInfo) : Legible info.toValue := by
  have hlines : Legible (numbered (fun t : LineType ↦ .text t.text) info.lineTypes) :=
    legible_numbered fun _ _ ↦ trivial
  exact Json.legible_object (by cases info.note <;> simp [Value.field])
    (Json.legible_append_field (by simp [hlines]) fun _ _ ↦ trivial)

/-- The file of the static information is read back as its value. -/
theorem read?_text (info : StaticInfo) : Json.read? (info.text ++ "\n") = some info.toValue :=
  Json.read?_pretty info.legible_toValue

theorem namesAt?_lineTypes (info : StaticInfo) :
    info.toValue.namesAt? ["LinkType"] = some (info.lineTypes.keys.map Decimal.text) :=
  names?_numbered (fun t : LineType ↦ .text t.text) info.lineTypes

theorem at?_lineType {info : StaticInfo} {id : Nat} {t : LineType}
    (h : info.lineTypes.get? id = some t) :
    info.toValue.at? ["LinkType", Decimal.text id] = some (.text t.text) := by
  have hlines : info.toValue.get? "LinkType"
      = some (numbered (fun t ↦ .text t.text) info.lineTypes) := rfl
  rw [Value.at?_cons, hlines, Option.bind_some, Value.at?_cons, get?_numbered, h]
  rfl

end StaticInfo

/-! ## Traffic policies -/

namespace TrafficPolicy

theorem readNets?_writeNets (nets : List Ipv4.Subnet) :
    readNets? (.typed (writeNets nets)) = some nets := by
  have hnets : (Document.typed (.texts (nets.map fun n ↦ n.text))).list?
      (Document.parsed? Ipv4.Subnet.read?) = some nets := by
    rw [Value.texts, List.map_map]
    exact Document.list?_typed fun n _ ↦ n.read?_text
  rw [readNets?, writeNets, record?_object (by simp) (by simp), Option.bind_eq_bind,
    Option.bind_some]
  exact required_recordOf rfl hnets

/-- **Traffic policies are read back.** -/
theorem read?_toValue (p : TrafficPolicy) : read? (.typed p.toValue) = some p := by
  have hases : readSorted? Document.text? readNets? (.typed (namedEntries writeNets p.ases))
      = some p.ases :=
    readSorted?_namedEntries fun nets _ ↦ readNets?_writeNets nets
  rw [read?, toValue, record?_object (by simp) (by simp)]
  simp only [Option.bind_eq_bind, Option.bind_some]
  rw [required_recordOf rfl hases, required_recordOf rfl (Document.word32?_word32 p.version)]
  rfl

theorem legible_toValue (p : TrafficPolicy) : Legible p.toValue := by
  have hases : Legible (namedEntries writeNets p.ases) := legible_namedEntries fun nets _ ↦
    Json.legible_object (by simp) (by simp [Json.legible_texts])
  exact Json.legible_object (by simp) (by simp [hases, Json.legible_word32])

/-- The file of a traffic policy is read back as its value. -/
theorem read?_text (p : TrafficPolicy) :
    Json.read? (Json.pretty p.toValue ++ "\n") = some p.toValue :=
  Json.read?_pretty p.legible_toValue

theorem at?_nets {p : TrafficPolicy} {name : String} {nets : List Ipv4.Subnet}
    (h : p.ases.get? name = some nets) :
    p.toValue.at? ["ASes", name, "Nets"] = some (.texts (nets.map (·.text))) := by
  have hases : p.toValue.get? "ASes" = some (namedEntries writeNets p.ases) := rfl
  rw [Value.at?_cons, hases, Option.bind_some, Value.at?_cons, get?_namedEntries, h]
  rfl

end TrafficPolicy

end Interdomain
