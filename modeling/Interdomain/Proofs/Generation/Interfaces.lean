import Interdomain.Proofs.Generation.Linked
import Mathlib.Data.List.Sort

/-!
# Interfaces in topologies

A topology lists the interfaces of each router, and the resolved links have ends on the routers. The
two lists agree: a router has an interface for each end that lies on it, under the id of the end and
in the order of the links, so an AS has one interface for each of its links.
-/

namespace Interdomain

open Resolution (endsOf)

/-! ## The routers of a topology -/

theorem routers_of_topology {a : AutonomousSystem} {isd : Isd} {t : Topology}
    (h : a.topology isd = .ok t) :
    t.isdAs = ⟨isd, a.asn⟩ ∧ t.routers = Topology.borderRouters a := by
  obtain ⟨mtu, -, h⟩ := bind_eq_ok_iff.1 h
  obtain ⟨gateways, -, h⟩ := bind_eq_ok_iff.1 h
  obtain rfl := Except.ok.inj h
  exact ⟨rfl, rfl⟩

namespace Topology

theorem nodup_borderRouters (a : AutonomousSystem) :
    ((a.routers.entries.map fun (name, r) ↦ (name, (⟨(Ipv4.Endpoint.mk r.loopback routerPort).text,
      r.attached⟩ : TopologyRouter))).map (·.1)).Nodup := by
  rw [List.map_map]
  exact a.routers.nodup

theorem get?_borderRouters {a : AutonomousSystem} {name : String} {entry : TopologyRouter} :
    (borderRouters a).get? name = some entry ↔
      ∃ r, a.routers.get? name = some r ∧
        entry = ⟨(Ipv4.Endpoint.mk r.loopback routerPort).text, r.attached⟩ := by
  rw [borderRouters, SortedMap.get?_ofList (nodup_borderRouters a), List.mem_map]
  constructor
  · rintro ⟨⟨_, r⟩, hr, heq⟩
    obtain ⟨rfl, rfl⟩ := Prod.mk.inj heq
    exact ⟨r, a.routers.get?_eq_some_iff.2 hr, rfl⟩
  · rintro ⟨r, hr, rfl⟩
    exact ⟨(name, r), a.routers.get?_eq_some_iff.1 hr, rfl⟩

theorem keys_borderRouters_perm (a : AutonomousSystem) :
    (borderRouters a).keys.Perm a.routers.keys := by
  have hnodup : a.routers.keys.Nodup := a.routers.nodup
  rw [List.perm_ext_iff_of_nodup (SortedMap.nodup_keys _) hnodup]
  intro name
  rw [borderRouters, SortedMap.mem_keys_ofList (nodup_borderRouters a), List.map_map]
  rfl

/-- All interface ids of a topology, router by router. -/
def interfaceIds (t : Topology) : List Nat := t.routers.toList.flatMap (·.2.interfaces.keys)

theorem mem_interfaceIds_iff {t : Topology} {id : Nat} :
    id ∈ t.interfaceIds ↔
      ∃ name entry, t.routers.get? name = some entry ∧ id ∈ entry.interfaces.keys := by
  simp only [interfaceIds, List.mem_flatMap, SortedMap.mem_toList_iff, Prod.exists]

end Topology

/-! ## The ends on an AS -/

/-- The ends of a link that lie on an AS. -/
def ResolvedLink.endsOn (l : ResolvedLink) (asn : Asn) : List ResolvedEnd :=
  l.ends.filter (·.ia.asn = asn)

theorem flatMap_endsOn (ls : List ResolvedLink) (asn : Asn) :
    (ls.flatMap fun l ↦ (l.endsOn asn).map (·.id))
      = ((endsOf ls).filter (·.ia.asn = asn)).map (·.id) := by
  rw [endsOf, List.filter_flatMap, List.map_flatMap]
  rfl

theorem ResolvedLink.endsOn_eq_singleton {l : ResolvedLink} (h : l.a.ia.asn ≠ l.b.ia.asn)
    {x : ResolvedEnd} (hx : x ∈ l.ends) : l.endsOn x.ia.asn = [x] := by
  rw [endsOn, ends]
  rcases List.mem_cons.1 hx with rfl | hx
  · rw [List.filter_cons_of_pos (by simp), List.filter_cons_of_neg (by simpa using Ne.symm h),
      List.filter_nil]
  · obtain rfl := List.mem_singleton.1 hx
    rw [List.filter_cons_of_neg (by simpa using h), List.filter_cons_of_pos (by simp),
      List.filter_nil]

namespace Generation.Linked

variable {c : Config} {g : Generation}

theorem mem_attached_iff (h : g.Linked c) {p : Port} {r : Router}
    (hr : g.emulation.routerAt p = some r) {id : Nat} :
    id ∈ r.attached.keys ↔ ∃ x ∈ endsOf g.resolved, x.port = p ∧ x.id = id := by
  have hat : g.emulation.descriptorAt (p, id) = r.attached.get? id := by
    rw [Emulation.descriptorAt, hr, Option.bind_some]
  rw [SortedMap.mem_keys_iff]
  constructor
  · rintro ⟨d, hd⟩
    obtain ⟨l, hl, s, hs, heq, -⟩ := (h.descriptors (p, id) d.isdAs).1 ⟨d, hat.trans hd, rfl⟩
    obtain ⟨rfl, rfl⟩ := Prod.mk.inj heq
    exact ⟨s.1, Resolution.mem_endsOf_iff.2 ⟨l, hl, s, hs, rfl⟩, rfl, rfl⟩
  · rintro ⟨x, hx, rfl, rfl⟩
    obtain ⟨l, hl, s, hs, rfl⟩ := Resolution.mem_endsOf_iff.1 hx
    obtain ⟨d, hd, -⟩ := (h.descriptors _ s.2.ia).2 ⟨l, hl, s, hs, rfl, rfl⟩
    exact ⟨d, hat.symm.trans hd⟩

/-- The ids attached to a router are those of its ends, in the order of the links. -/
theorem keys_attached (h : g.Linked c) {p : Port} {r : Router}
    (hr : g.emulation.routerAt p = some r) :
    r.attached.keys = ((endsOf g.resolved).filter (·.port = p)).map (·.id) := by
  have hkeys : r.attached.keys.Pairwise (· < ·) :=
    r.attached.pairwise_keys.imp fun hlt ↦ Nat.compare_eq_lt.1 hlt
  have hends : (((endsOf g.resolved).filter (·.port = p)).map (·.id)).Pairwise (· < ·) := by
    -- The ends on a router are some of those on its AS.
    have hsplit : (endsOf g.resolved).filter (·.port = p)
        = ((endsOf g.resolved).filter (·.ia.asn = p.1)).filter (·.router = p.2) := by
      rw [List.filter_filter]
      refine List.filter_congr fun x _ ↦ ?_
      simp only [ResolvedEnd.port, Prod.ext_iff, Bool.decide_and, Bool.and_comm]
    rw [hsplit]
    exact (h.ascending p.1).sublist (List.filter_sublist.map _)
  refine hkeys.eq_of_mem_iff hends fun id ↦ ?_
  rw [h.mem_attached_iff hr]
  simp only [List.mem_map, List.mem_filter, decide_eq_true_eq, and_assoc]

theorem nodup_ids (h : g.Linked c) (asn : Asn) :
    (((endsOf g.resolved).filter (·.ia.asn = asn)).map (·.id)).Nodup :=
  (h.ascending asn).imp fun hlt ↦ Nat.ne_of_lt hlt

theorem end_unique (h : g.Linked c) {x y : ResolvedEnd} (hx : x ∈ endsOf g.resolved)
    (hy : y ∈ endsOf g.resolved) (hasn : x.ia.asn = y.ia.asn) (hid : x.id = y.id) : x = y := by
  have hx' : x ∈ (endsOf g.resolved).filter (·.ia.asn = y.ia.asn) :=
    List.mem_filter.2 ⟨hx, by simpa using hasn⟩
  have hy' : y ∈ (endsOf g.resolved).filter (·.ia.asn = y.ia.asn) :=
    List.mem_filter.2 ⟨hy, by simp⟩
  exact List.inj_on_of_nodup_map (h.nodup_ids y.ia.asn) hx' hy' hid

/-- No two routers of an AS have an id in common: it would be that of one end, and an end is on one
router. -/
theorem port_unique (h : g.Linked c) {p p' : Port} {r r' : Router}
    (hr : g.emulation.routerAt p = some r) (hr' : g.emulation.routerAt p' = some r')
    (hasn : p.1 = p'.1) {id : Nat} (hid : id ∈ r.attached.keys) (hid' : id ∈ r'.attached.keys) :
    p = p' := by
  obtain ⟨x, hx, rfl, hxid⟩ := (h.mem_attached_iff hr).1 hid
  obtain ⟨y, hy, rfl, hyid⟩ := (h.mem_attached_iff hr').1 hid'
  rw [h.end_unique hx hy hasn (hxid.trans hyid.symm)]

end Generation.Linked

/-! ## Topologies and links -/

/-- What the document of a topology lists: some border routers of an AS, and in the entry of each
router the ends of the links on it. -/
structure Value.Lists (v : Value) (ia : IsdAsn) (names : List String)
    (links : List ResolvedLink) : Prop where
  isdAs : v.at? ["isd_as"] = some (.text ia.text)
  routers : ∃ keys, v.namesAt? ["border_routers"] = some keys ∧ keys.Perm names
  interfaces : ∀ name ∈ names, v.namesAt? ["border_routers", name, "interfaces"]
    = some (((endsOf links).filter (·.port = (ia.asn, name))).map fun x ↦ Decimal.text x.id)

/-- The interfaces of the topology of an AS with some routers are those of the links on it. -/
structure Topology.Covers (t : Topology) (ia : IsdAsn) (routers : List String)
    (links : List ResolvedLink) : Prop where
  isdAs : t.isdAs = ia
  routers : t.routers.keys.Perm routers
  interfaces : ∀ name entry, t.routers.get? name = some entry →
    entry.interfaces.keys = ((endsOf links).filter (·.port = (ia.asn, name))).map (·.id)
  /-- No id comes twice, on one router or on two. -/
  distinct : t.interfaceIds.Nodup
  /-- Each link gives the ids of its ends on the AS. -/
  contributions : t.interfaceIds.Perm (links.flatMap fun l ↦ (l.endsOn ia.asn).map (·.id))

theorem Topology.Covers.lists {t : Topology} {ia : IsdAsn} {routers : List String}
    {links : List ResolvedLink} (h : t.Covers ia routers links) :
    t.toValue.Lists ia routers links where
  isdAs := by rw [at?_isdAs, h.isdAs]
  routers := ⟨_, t.namesAt?_routers, h.routers⟩
  interfaces name hname := by
    obtain ⟨entry, hentry⟩ := t.routers.mem_keys_iff.1 (h.routers.mem_iff.2 hname)
    rw [namesAt?_interfaces hentry, h.interfaces name entry hentry, List.map_map]
    rfl

namespace Generation.Linked

variable {c : Config} {g : Generation} {asn : Asn} {a : AutonomousSystem} {isd : Isd}
  {t : Topology} {name : String} {entry : TopologyRouter}

/-- The routers of a topology are those of the AS, each with what is attached to it. -/
theorem get?_routers (ha : g.emulation.as? asn = some a) (ht : a.topology isd = .ok t) :
    t.routers.get? name = some entry ↔
      ∃ r, g.emulation.routerAt (asn, name) = some r ∧
        entry = ⟨(Ipv4.Endpoint.mk r.loopback Topology.routerPort).text, r.attached⟩ := by
  rw [(routers_of_topology ht).2, Topology.get?_borderRouters, Emulation.routerAt,
    Emulation.router?_eq, ha, Option.bind_some]

theorem topology_fits (h : g.Linked c) (ha : g.emulation.as? asn = some a)
    (ht : a.topology isd = .ok t) : t.Fits := by
  intro name entry hentry id d hd
  obtain ⟨r, hr, rfl⟩ := (get?_routers ha ht).1 hentry
  refine h.fits ((asn, name), id) d ?_
  rw [Emulation.descriptorAt, hr, Option.bind_some]
  exact hd

theorem keys_interfaces (h : g.Linked c) (ha : g.emulation.as? asn = some a)
    (ht : a.topology isd = .ok t) (hentry : t.routers.get? name = some entry) :
    entry.interfaces.keys
      = ((endsOf g.resolved).filter (·.port = (asn, name))).map (·.id) := by
  obtain ⟨r, hr, rfl⟩ := (get?_routers ha ht).1 hentry
  exact h.keys_attached hr

theorem mem_interfaces_iff (h : g.Linked c) (ha : g.emulation.as? asn = some a)
    (ht : a.topology isd = .ok t) (hentry : t.routers.get? name = some entry) {id : Nat} :
    id ∈ entry.interfaces.keys ↔ ∃ x ∈ endsOf g.resolved, x.port = (asn, name) ∧ x.id = id := by
  rw [h.keys_interfaces ha ht hentry]
  simp only [List.mem_map, List.mem_filter, decide_eq_true_eq, and_assoc]

theorem mem_interfaceIds_iff (h : g.Linked c) (ha : g.emulation.as? asn = some a)
    (ht : a.topology isd = .ok t) {id : Nat} :
    id ∈ t.interfaceIds ↔ ∃ x ∈ endsOf g.resolved, x.ia.asn = asn ∧ x.id = id := by
  rw [Topology.mem_interfaceIds_iff]
  constructor
  · rintro ⟨name, entry, hentry, hid⟩
    obtain ⟨x, hx, hport, hxid⟩ := (h.mem_interfaces_iff ha ht hentry).1 hid
    exact ⟨x, hx, congrArg Prod.fst hport, hxid⟩
  · rintro ⟨x, hx, rfl, hxid⟩
    obtain ⟨r, hr⟩ := h.found x hx
    have hentry := (get?_routers ha ht).2 ⟨r, hr, rfl⟩
    exact ⟨x.router, _, hentry, (h.mem_interfaces_iff ha ht hentry).2 ⟨x, hx, rfl, hxid⟩⟩

/-- No two routers of a topology have an id in common, and none has it twice. -/
theorem nodup_interfaceIds (h : g.Linked c) (ha : g.emulation.as? asn = some a)
    (ht : a.topology isd = .ok t) : t.interfaceIds.Nodup := by
  rw [Topology.interfaceIds, List.nodup_flatMap]
  constructor
  · intro e _
    exact e.2.interfaces.nodup_keys
  · have hnames : t.routers.toList.Pairwise fun e e' ↦ e.1 ≠ e'.1 :=
      List.pairwise_map.1 t.routers.nodup_keys
    refine hnames.imp_of_mem fun {e e'} he he' hne ↦ ?_
    intro id (hid : id ∈ e.2.interfaces.keys) (hid' : id ∈ e'.2.interfaces.keys)
    obtain ⟨r, hr, heq⟩ := (get?_routers ha ht).1 ((SortedMap.mem_toList_iff _).1 he)
    obtain ⟨r', hr', heq'⟩ := (get?_routers ha ht).1 ((SortedMap.mem_toList_iff _).1 he')
    rw [heq] at hid
    rw [heq'] at hid'
    exact hne (congrArg Prod.snd (h.port_unique hr hr' rfl hid hid'))

theorem covers (h : g.Linked c) {d : AsDecl} (hd : d.Outlines a)
    (ha : g.emulation.as? d.asn = some a) (ht : a.topology isd = .ok t) :
    t.Covers ⟨isd, d.asn⟩ (d.routers.map (·.name)) g.resolved := by
  obtain ⟨hisdAs, hrouters⟩ := routers_of_topology ht
  refine ⟨hd.asn ▸ hisdAs, ?_, fun name entry ↦ h.keys_interfaces ha ht,
    h.nodup_interfaceIds ha ht, ?_⟩
  · rw [hrouters, ← hd.routers]
    exact Topology.keys_borderRouters_perm a
  · rw [flatMap_endsOn,
      List.perm_ext_iff_of_nodup (h.nodup_interfaceIds ha ht) (h.nodup_ids d.asn)]
    intro id
    rw [h.mem_interfaceIds_iff ha ht]
    simp only [List.mem_map, List.mem_filter, decide_eq_true_eq, and_assoc]

end Generation.Linked

/-- **No interface is lost, duplicated or invented.** Generation that succeeds renders a topology
for every AS in each of its domains and for no other, its routers are the declared ones, and its
interfaces are the ends of the resolved links on the AS. The file is read back as a document that
lists the same, and as the topology itself. A link has one end on each of its two ASes, and these
are declared ASes. -/
theorem generate_covers {σ : Type} [WordSource σ] {c : Config} {options : ResolverOptions}
    {source : σ} {g : Generation} (h : generate c options source = .ok g) :
    (∀ a isd, (a, isd) ∈ g.emulation.memberships ↔
      ∃ d ∈ c.ases, ∃ m ∈ d.isds, g.emulation.as? d.asn = some a ∧ m.isd = isd) ∧
    (∀ d ∈ c.ases, ∀ m ∈ d.isds, ∃ a t v, g.emulation.as? d.asn = some a ∧
      a.topology m.isd = .ok t ∧
      ⟨topologyPath ⟨m.isd, d.asn⟩, t.text ++ "\n"⟩ ∈ g.artifacts ∧
      t.Covers ⟨m.isd, d.asn⟩ (d.routers.map (·.name)) g.resolved ∧
      Json.read? (t.text ++ "\n") = some v ∧ Topology.read? (.typed v) = some t ∧
      v.Lists ⟨m.isd, d.asn⟩ (d.routers.map (·.name)) g.resolved) ∧
    ∀ l ∈ g.resolved, ∀ x ∈ l.ends, l.endsOn x.ia.asn = [x] ∧
      ∃ d ∈ c.ases, d.asn = x.ia.asn ∧ x.router ∈ d.routers.map (·.name) := by
  have hlinked := Generation.linked_of_generate h
  obtain ⟨-, -, -, -, -, -, hrender⟩ := phases_of_generate h
  refine ⟨fun _ _ ↦ hlinked.mem_memberships_iff, fun d hd m hm ↦ ?_, fun l hl x hx ↦ ?_⟩
  · obtain ⟨a, ha, houtlines⟩ := hlinked.declared d hd
    have hmember : (a, m.isd) ∈ g.emulation.memberships :=
      hlinked.mem_memberships_iff.2 ⟨d, hd, m, hm, ha, rfl⟩
    obtain ⟨t, ht, hfile⟩ := exists_topology_of_render hrender hmember
    rw [houtlines.asn] at hfile
    have hfits := hlinked.topology_fits ha ht
    have hcovers := hlinked.covers houtlines ha ht
    exact ⟨a, t, t.toValue, ha, ht, hfile, hcovers, Topology.read?_text hfits,
      Topology.read?_toValue hfits, hcovers.lists⟩
  · refine ⟨ResolvedLink.endsOn_eq_singleton (hlinked.apart l hl) hx, ?_⟩
    obtain ⟨r, hr⟩ := hlinked.found x (List.mem_flatMap.2 ⟨l, hl, hx⟩)
    obtain ⟨a, ha, hr⟩ := Option.bind_eq_some_iff.1 hr
    obtain ⟨d, hd, hasn, houtlines⟩ := hlinked.only _ a ha
    refine ⟨d, hd, hasn, ?_⟩
    rw [← houtlines.routers, ← Roster.get?_isSome_iff]
    exact Option.isSome_iff_exists.2 ⟨r, hr⟩

/-! ### Two ASes with three links -/

/-- An AS of two domains with two routers, and another of one domain with one router; they are
connected with each other and meet at an exchange. -/
def crossroads : Config where
  isds := [1, 2]
  exchanges := [{ id := 7 }]
  ases := [
    { asn := 1
      isds := [{ isd := 1 }, { isd := 2 }]
      networks := [{ name := "net0" }]
      routers := [
        { name := "br1"
          crossConnects := [{
            peerAsn := 2, peerRouter := "br1", address := .ofOctets 10 3 0 1 29 }] },
        { name := "br2", networks := ["ix7"] }] },
    { asn := 2
      isds := [{ isd := 1 }]
      networks := [{ name := "net0" }]
      routers := [
        { name := "br1"
          networks := ["ix7"]
          crossConnects := [{
            peerAsn := 1, peerRouter := "br1",
            address := .ofOctets 10 3 0 2 29 }] }] }]
  links := [
    { kind := .exchange, exchange := some 7, a := ⟨2, 1⟩, b := ⟨1, 2⟩, linkType := .core },
    { kind := .crossConnect, a := ⟨1, 1⟩, b := ⟨1, 2⟩, linkType := .peer, count := 2 }]

theorem exists_generate_crossroads :
    ∃ g, generate crossroads {} (⟨0, 1⟩ : Stepper) = .ok g ∧
      (endsOf g.resolved).map (fun x ↦ (x.port, x.id))
        = [((1, "br1"), 1), ((2, "br1"), 1), ((1, "br1"), 2), ((2, "br1"), 2), ((1, "br2"), 3),
          ((2, "br1"), 3)] :=
  exists_eq_ok_of_map_toOption (by decide +kernel)

/-- The second AS has the interfaces of all three links on its one router, and its file says so. -/
theorem crossroads_covers :
    ∃ g, generate crossroads {} (⟨0, 1⟩ : Stepper) = .ok g ∧
      ∃ a t v, g.emulation.as? 2 = some a ∧ a.topology 1 = .ok t ∧
        ⟨topologyPath ⟨1, 2⟩, t.text ++ "\n"⟩ ∈ g.artifacts ∧
        t.Covers ⟨1, 2⟩ ["br1"] g.resolved ∧
        Json.read? (t.text ++ "\n") = some v ∧ Topology.read? (.typed v) = some t ∧
        v.at? ["isd_as"] = some (.text "1-2") ∧
        v.namesAt? ["border_routers", "br1", "interfaces"] = some ["1", "2", "3"] := by
  obtain ⟨g, hg, hends⟩ := exists_generate_crossroads
  obtain ⟨-, htopologies, -⟩ := generate_covers hg
  obtain ⟨a, t, v, ha, ht, hfile, hcovers, hv, hread, hlists⟩ :=
    htopologies _ (List.mem_cons_of_mem _ List.mem_cons_self) _ List.mem_cons_self
  have hids : ((endsOf g.resolved).filter (·.port = (2, "br1"))).map (fun x ↦ Decimal.text x.id)
      = (((endsOf g.resolved).map fun x ↦ (x.port, x.id)).filter (·.1 = (2, "br1"))).map
        (Decimal.text ·.2) := by
    rw [List.filter_map, List.map_map]
    rfl
  have hisdAs : IsdAsn.text ⟨1, 2⟩ = "1-2" := by decide +kernel
  refine ⟨g, hg, a, t, v, ha, ht, hfile, hcovers, hv, hread, ?_, ?_⟩
  · rw [← hisdAs]
    exact hlists.isdAs
  · have hinterfaces := hlists.interfaces "br1" List.mem_cons_self
    rw [hids, hends] at hinterfaces
    rw [hinterfaces]
    decide +kernel

end Interdomain
