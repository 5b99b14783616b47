import Interdomain.Proofs.Building.Exchanges
import Interdomain.Proofs.Generation.Configured
import Interdomain.Proofs.Generation.Neighbours
import Interdomain.Proofs.Generation.CrossConnects
import Interdomain.Proofs.Resolution.Reversal
import Mathlib.Order.Bounds.Basic

/-!
# Packet sizes

The sizes that a generation writes down come from three places of the configuration. An AS takes the
least of its networks, a link over an exchange takes that of the exchange, and a link over a
connection takes that of the first connection that names its network, whichever side declares it. A
declared size is checked where it is declared, and the default is not zero.
-/

namespace Interdomain

theorem one_le_getD {mtu : Option UInt32} (h : mtu ≠ some 0) : 1 ≤ mtu.getD 1500 := by
  cases mtu with
  | none => exact (by decide : 1 ≤ (1500 : UInt32))
  | some mtu =>
    have hpos : mtu.toNat ≠ 0 := fun hzero ↦ h (congrArg some (UInt32.toNat_inj.1 hzero))
    exact UInt32.le_iff_toNat_le.2 (Nat.one_le_iff_ne_zero.2 hpos)

/-! ## Sizes of links -/

namespace Resolution

variable {options : ResolverOptions} {links : LinkRegistry} {e e' : Emulation}
  {rs : List ResolvedLink} {r : ResolvedLink}

/-- The descriptors at both ends of a link have the size that was planned. -/
theorem exists_planned_of_resolve (h : (resolve options links).on e = (.ok rs, e')) (hr : r ∈ rs) :
    ∃ d l, planLink e d = .ok l ∧ l.Carries r ∧
      ∀ s ∈ r.sides, ∃ x, e'.descriptorAt (s.1.port, s.1.id) = some x ∧ x.mtu = l.mtu := by
  obtain ⟨p, hplan, hcommitted⟩ := plan_of_resolve h
  obtain ⟨l, hmem, hcarries⟩ := exists_mem_zip_of_carried hcommitted.carried hr
  obtain ⟨planned, hplanned, hrepeated⟩ :=
    List.mem_flatMap.1 (List.of_mem_zip hmem).1
  obtain rfl := (List.mem_replicate.1 hrepeated).2
  obtain ⟨d, -, hd⟩ :=
    exists_of_mem_of_forall₂ (mapM_eq_ok_iff.1 (plan_eq_ok_iff.1 hplan).1).flip hplanned
  refine ⟨d, l, hd, hcarries, fun s hs ↦ ?_⟩
  rcases List.mem_pair.1 hs with rfl | rfl
  · exact ⟨_, hcommitted.descriptorAt_of_mem hmem List.mem_cons_self, rfl⟩
  · exact ⟨_, hcommitted.descriptorAt_of_mem hmem (List.mem_cons_of_mem _ List.mem_cons_self), rfl⟩

theorem mtu_of_planLink_exchange {d : LinkKey × UInt32} {l : PlannedLink} {id : ExchangeId}
    (h : planLink e d = .ok l) (hmedium : l.medium = .exchange id) :
    ∃ n, e.network? .exchange (exchangeNetworkName id) = some n ∧ l.mtu = n.mtu := by
  obtain ⟨⟨medium, ends⟩, count⟩ := d
  obtain rfl : medium = .exchange id := (planLink_realizes h).medium.symm.trans hmedium
  obtain ⟨-, -, a, b, n, -, -, hn, rfl⟩ := planExchangeLink_eq_ok_iff.1 h
  exact ⟨n, hn, rfl⟩

end Resolution

/-! ## Sizes in topologies -/

theorem mtu_of_topology {a : AutonomousSystem} {isd : Isd} {t : Topology}
    (h : a.topology isd = .ok t) : a.mtu = some t.mtu := by
  obtain ⟨mtu, hmtu, h⟩ := bind_eq_ok_iff.1 h
  obtain ⟨gateways, -, h⟩ := bind_eq_ok_iff.1 h
  obtain rfl := Except.ok.inj h
  exact AutonomousSystem.settled_eq_ok_iff.1 hmtu

namespace Generation

/-- The topology of an AS in a domain is among the files, and is read there as a document. -/
def Renders (g : Generation) (ia : IsdAsn) (t : Topology) (v : Value) : Prop :=
  ∃ a, g.emulation.as? ia.asn = some a ∧ ia.isd ∈ a.isds ∧ a.topology ia.isd = .ok t ∧
    ⟨topologyPath ia, t.text ++ "\n"⟩ ∈ g.artifacts ∧ Json.read? (t.text ++ "\n") = some v

/-- An end of a link has a packet size, and every topology of its AS says so. -/
def HasSize (g : Generation) (x : ResolvedEnd) (size : UInt32) : Prop :=
  ∃ d, g.emulation.descriptorAt (x.port, x.id) = some d ∧ d.mtu = size ∧
    ∀ isd t v, g.Renders ⟨isd, x.ia.asn⟩ t v →
      (∃ entry, t.routers.get? x.router = some entry ∧ entry.interfaces.get? x.id = some d) ∧
      v.at? ["border_routers", x.router, "interfaces", Decimal.text x.id, "mtu"]
        = some (.word32 size)

variable {g : Generation} {c : Config} {x : ResolvedEnd} {l : ResolvedLink} {ia : IsdAsn}
  {t : Topology} {v : Value}

theorem Renders.eq_toValue (h : g.Renders ia t v) (hlinked : g.Linked c) : v = t.toValue := by
  obtain ⟨a, ha, -, ht, -, hv⟩ := h
  have htext := Topology.read?_text (hlinked.topology_fits ha ht)
  exact Option.some.inj (hv.symm.trans htext)

theorem hasSize_of_descriptorAt (hlinked : g.Linked c) {d : Descriptor}
    (h : g.emulation.descriptorAt (x.port, x.id) = some d) : g.HasSize x d.mtu := by
  refine ⟨d, h, rfl, fun isd t v ht ↦ ?_⟩
  obtain rfl := ht.eq_toValue hlinked
  obtain ⟨a, ha, -, ht, -⟩ := ht
  obtain ⟨r, hr, hd⟩ := Option.bind_eq_some_iff.1 h
  have hentry := (Linked.get?_routers ha ht).2 ⟨r, hr, rfl⟩
  exact ⟨⟨_, hentry, hd⟩,
    Topology.at?_interfaceMtu_eq_some_iff.2 ⟨_, x.id, d, hentry, hd, rfl, rfl⟩⟩

theorem Renders.descriptorAt (h : g.Renders ia t v) {name : String}
    {entry : TopologyRouter} (hentry : t.routers.get? name = some entry) {id : Nat} {d : Descriptor}
    (hd : entry.interfaces.get? id = some d) :
    g.emulation.descriptorAt ((ia.asn, name), id) = some d := by
  obtain ⟨a, ha, -, ht, -⟩ := h
  obtain ⟨r, hr, rfl⟩ := (Linked.get?_routers ha ht).1 hentry
  rw [Emulation.descriptorAt, hr, Option.bind_some]
  exact hd

/-- The size that is declared for a resolved link, 1500 where none is: that of its exchange, or that
of the first connection whose network both of its routers report. -/
inductive DeclaresSize (g : Generation) (c : Config) (l : ResolvedLink) : UInt32 → Prop
  | exchange {x : ExchangeDecl} (declared : x ∈ c.exchanges) (medium : l.medium = .exchange x.id) :
    DeclaresSize g c l (x.mtu.getD 1500)
  | connection {name : String} {y : Port × CrossConnectDecl} (medium : l.medium = .crossConnect)
      (reported : ∀ s ∈ l.sides,
        g.emulation.Reports name s.1.port s.2.port s.1.underlay.address)
      (first : c.connections.find? (fun y ↦ (connectionNetworkOf y).name = name) = some y) :
    DeclaresSize g c l (y.2.mtu.getD 1500)

/-- No two exchanges have one number, and a router reports one network toward another. -/
theorem DeclaresSize.unique (hdistinct : (c.exchanges.map (·.id)).Nodup) {size size' : UInt32}
    (h : g.DeclaresSize c l size) (h' : g.DeclaresSize c l size') : size = size' := by
  cases h with
  | @exchange x declared medium =>
    cases h' with
    | @exchange x' declared' medium' =>
      have hid := Medium.exchange.inj (medium.symm.trans medium')
      rw [List.inj_on_of_nodup_map hdistinct declared declared' hid]
    | connection medium' => exact absurd (medium.symm.trans medium') (by simp)
  | @connection name y medium reported first =>
    cases h' with
    | exchange _ medium' => exact absurd (medium.symm.trans medium') (by simp)
    | @connection name' y' _ reported' first' =>
      obtain ⟨side, hside, rfl, -⟩ := reported (l.a, l.b) List.mem_cons_self
      obtain ⟨side', hside', rfl, -⟩ := reported' (l.a, l.b) List.mem_cons_self
      obtain rfl := Option.some.inj (hside.symm.trans hside')
      obtain rfl := Option.some.inj (first.symm.trans first')
      rfl

variable {σ : Type} [WordSource σ] {options : ResolverOptions} {source : σ}

theorem exists_first_connection {name : String} {n : Network}
    (h : c.connectionNetwork? name = some n) :
    ∃ y, c.connections.find? (fun y ↦ (connectionNetworkOf y).name = name) = some y ∧
      n.mtu = y.2.mtu.getD 1500 := by
  rw [Config.connectionNetwork?, List.find?_map] at h
  obtain ⟨y, hy, rfl⟩ := Option.map_eq_some_iff.1 h
  exact ⟨y, hy, rfl⟩

/-- Both ends of a resolved link have the size that is declared for it. -/
theorem exists_declaresSize (h : generate c options source = .ok g) (hl : l ∈ g.resolved) :
    ∃ size, g.DeclaresSize c l size ∧ ∀ s ∈ l.sides, g.HasSize s.1 size := by
  obtain ⟨built, settled, hbuild, -, ⟨_, hsettled⟩, hresolve, -⟩ := phases_of_generate h
  obtain ⟨d, p, hplan, hcarries, hsizes⟩ := Resolution.exists_planned_of_resolve hresolve hl
  have hends : ∀ s ∈ l.sides, g.HasSize s.1 p.mtu := by
    intro s hs
    obtain ⟨x, hx, hmtu⟩ := hsizes s hs
    rw [← hmtu]
    exact hasSize_of_descriptorAt (linked_of_generate h) hx
  refine ⟨p.mtu, ?_, hends⟩
  cases hmedium : l.medium with
  | exchange id =>
    obtain ⟨n, hn, hmtu⟩ :=
      Resolution.mtu_of_planLink_exchange hplan (hcarries.medium.symm.trans hmedium)
    have hexchanges : settled.exchanges = built.exchanges :=
      congrArg (·.exchanges) hsettled.unsettled
    rw [Emulation.network?, hexchanges] at hn
    have hn' := (Config.namesExchanges_of_build hbuild).network?_eq_some_iff.1 hn
    obtain ⟨-, -, x, hx, rfl, hbuilt⟩ := Config.exists_build_of_exchange hbuild hn'
    obtain ⟨-, -, hsize⟩ := ExchangeDecl.build_eq_ok hbuilt
    rw [hmtu, hsize]
    exact .exchange hx hmedium
  | crossConnect =>
    obtain ⟨name, n, hn, hmtu, ha, hb⟩ :=
      Resolution.planLink_reports hplan (hcarries.medium.symm.trans hmedium)
    have hnetwork : built.network? .crossConnect name = some n :=
      (congrArg (·.crossConnectNetworks.get? name) hsettled.unsettled).symm.trans hn
    obtain ⟨y, hy, hsize⟩ := exists_first_connection
      ((Config.get?_crossConnectNetworks_of_build hbuild name).symm.trans hnetwork)
    obtain ⟨_, -, hcommitted⟩ := Resolution.plan_of_resolve hresolve
    rw [hmtu, hsize]
    refine .connection hmedium (fun s hs ↦ ?_) hy
    rw [Emulation.Reports, Emulation.crossConnect?_of_bare_eq hcommitted.bare]
    rw [← hcarries.a, ← hcarries.b] at ha hb
    rcases List.mem_pair.1 hs with rfl | rfl
    · exact ha
    · exact hb

/-! ## Sizes of a validated configuration -/

theorem DeclaresSize.one_le (hvalid : c.validate = .ok ()) {size : UInt32}
    (h : g.DeclaresSize c l size) : 1 ≤ size := by
  obtain ⟨-, hexchanges, hases, -⟩ := Config.validate_eq_ok_iff.1 hvalid
  cases h with
  | @exchange x declared _ =>
    exact one_le_getD ((Config.checkExchanges_eq_ok_iff.1 hexchanges).2.2 x declared)
  | @connection name y _ _ first =>
    obtain ⟨d, hd, r, hr, -, hy⟩ :=
      Config.mem_connections_iff.1 (List.mem_of_find?_eq_some first)
    have hsound := (Config.checkAses_eq_ok_iff.1 hases).2 d hd
    exact one_le_getD (hsound.connectionPackets r hr y.2 hy)

/-- Every AS has its topologies, and they say the least size of its networks. -/
theorem topologySizes_of_generate (h : generate c options source = .ok g) {d : AsDecl}
    (hd : d ∈ c.ases) :
    (∀ m ∈ d.isds, ∃ t v, g.Renders ⟨m.isd, d.asn⟩ t v) ∧
      ∀ isd t v, g.Renders ⟨isd, d.asn⟩ t v → v.at? ["mtu"] = some (.word32 t.mtu) ∧
        IsLeast {size | size ∈ d.networks.map (·.mtu.getD 1500)} t.mtu := by
  have hlinked := linked_of_generate h
  obtain ⟨built, settled, hbuild, -, ⟨_, hsettled⟩, hresolve, hrender⟩ := phases_of_generate h
  have hconfigures := Config.configures_of_resolve hbuild hsettled hresolve
  obtain ⟨a, ha, hdeclared⟩ := hconfigures.declared d hd
  constructor
  · intro m hm
    have hisd : m.isd ∈ a.isds := (hdeclared.outlines.isds m.isd).2 (List.mem_map_of_mem hm)
    have hmember := Emulation.mem_memberships_iff.2 ⟨⟨d.asn, ha⟩, hisd⟩
    obtain ⟨t, ht, hfile⟩ := exists_topology_of_render hrender hmember
    rw [hdeclared.outlines.asn] at hfile
    exact ⟨t, t.toValue, a, ha, hisd, ht, hfile,
      Topology.read?_text (hlinked.topology_fits ha ht)⟩
  · intro isd t v hrenders
    obtain rfl := hrenders.eq_toValue hlinked
    obtain ⟨a', ha', -, ht, -⟩ := hrenders
    obtain rfl := Option.some.inj (ha.symm.trans ha')
    obtain ⟨mtu, keys, hmtu, -, hleast⟩ := hdeclared.settled
    obtain rfl := Option.some.inj (hmtu.symm.trans (mtu_of_topology ht))
    exact ⟨t.at?_mtu, hleast⟩

theorem Renders.one_le_mtu (ht : g.Renders ia t v) (hvalid : c.validate = .ok ())
    (h : generate c options source = .ok g) : 1 ≤ t.mtu := by
  obtain ⟨-, -, hases, -⟩ := Config.validate_eq_ok_iff.1 hvalid
  obtain ⟨a, ha, -⟩ := id ht
  obtain ⟨d, hd, hasn, -⟩ := (linked_of_generate h).only ia.asn a ha
  have ht' : g.Renders ⟨ia.isd, d.asn⟩ t v := hasn ▸ ht
  obtain ⟨-, hsome, -⟩ := (topologySizes_of_generate h hd).2 ia.isd t v ht'
  obtain ⟨n, hn, hsize⟩ := List.mem_map.1 hsome
  rw [← hsize]
  exact one_le_getD (((Config.checkAses_eq_ok_iff.1 hases).2 d hd).packets n hn)

/-- The size of an interface was checked where its link has it from. -/
theorem Renders.one_le_interfaceMtu (ht : g.Renders ia t v) (hvalid : c.validate = .ok ())
    (h : generate c options source = .ok g) {name : String} {entry : TopologyRouter}
    (hentry : t.routers.get? name = some entry) {id : Nat} {x : Descriptor}
    (hx : entry.interfaces.get? id = some x) : 1 ≤ x.mtu := by
  have hat := ht.descriptorAt hentry hx
  obtain ⟨l, hl, s, hs, heq, -⟩ := ((linked_of_generate h).descriptors _ x.isdAs).1 ⟨x, hat, rfl⟩
  obtain ⟨size, hdeclares, hends⟩ := exists_declaresSize h hl
  obtain ⟨x', hx', rfl, -⟩ := hends s hs
  rw [heq] at hat
  obtain rfl := Option.some.inj (hat.symm.trans hx')
  exact hdeclares.one_le hvalid

/-- **Packet sizes.** Every topology of an AS says the least of the sizes that are declared for its
networks, 1500 for those without. For each resolved link one size is declared, by its exchange or by
the first connection that names the network between its routers, and the topologies at both ends say
it. None of the sizes that are written is zero. -/
theorem packetSizes_declared (hvalid : c.validate = .ok ())
    (h : generate c options source = .ok g) :
    (∀ d ∈ c.ases, (∀ m ∈ d.isds, ∃ t v, g.Renders ⟨m.isd, d.asn⟩ t v) ∧
      ∀ isd t v, g.Renders ⟨isd, d.asn⟩ t v → v.at? ["mtu"] = some (.word32 t.mtu) ∧
        IsLeast {size | size ∈ d.networks.map (·.mtu.getD 1500)} t.mtu) ∧
    (∀ l ∈ g.resolved, ∃ size, g.DeclaresSize c l size ∧
      (∀ size', g.DeclaresSize c l size' → size' = size) ∧ ∀ s ∈ l.sides, g.HasSize s.1 size) ∧
    ∀ ia t v, g.Renders ia t v → 1 ≤ t.mtu ∧
      (∀ name entry id x, t.routers.get? name = some entry → entry.interfaces.get? id = some x →
        1 ≤ x.mtu) ∧
      ∀ name id w, v.at? ["border_routers", name, "interfaces", id, "mtu"] = some w →
        ∃ size : UInt32, w = .word32 size ∧ 1 ≤ size := by
  have hlinked := linked_of_generate h
  obtain ⟨-, hexchanges, -, -⟩ := Config.validate_eq_ok_iff.1 hvalid
  refine ⟨fun d hd ↦ topologySizes_of_generate h hd, fun l hl ↦ ?_, fun ia t v ht ↦ ?_⟩
  · obtain ⟨size, hdeclares, hends⟩ := exists_declaresSize h hl
    refine ⟨size, hdeclares, fun size' hsize' ↦ ?_, hends⟩
    exact hsize'.unique (Config.checkExchanges_eq_ok_iff.1 hexchanges).1 hdeclares
  · refine ⟨ht.one_le_mtu hvalid h, fun name entry id x hentry hx ↦ ?_, fun name id w hw ↦ ?_⟩
    · exact ht.one_le_interfaceMtu hvalid h hentry hx
    · obtain rfl := ht.eq_toValue hlinked
      obtain ⟨entry, n, x, hentry, hx, -, rfl⟩ := Topology.at?_interfaceMtu_eq_some_iff.1 hw
      exact ⟨x.mtu, rfl, ht.one_le_interfaceMtu hvalid h hentry hx⟩

/-! ### A narrow connection -/

/-- Two ASes with a connection that its two sides declare with different sizes. They also meet at an
exchange, and the first AS has two networks. -/
def bottleneck : Config where
  isds := [1]
  exchanges := [{ id := 7, mtu := some 1280 }]
  ases := [
    { asn := 1
      isds := [{ isd := 1 }]
      networks := [{ name := "net0" }, { name := "net1", mtu := some 1400 }]
      routers := [{
        name := "br1"
        networks := ["ix7"]
        crossConnects := [{
          peerAsn := 2
          peerRouter := "br1"
          address := .ofOctets 10 3 0 1 29
          mtu := some 1300 }] }] },
    { asn := 2
      isds := [{ isd := 1 }]
      networks := [{ name := "net0", mtu := some 9000 }]
      routers := [{
        name := "br1"
        networks := ["ix7"]
        crossConnects := [{
          peerAsn := 1
          peerRouter := "br1"
          address := .ofOctets 10 3 0 2 29
          mtu := some 9000 }] }] }]
  links := [
    { kind := .exchange, exchange := some 7, a := ⟨1, 1⟩, b := ⟨1, 2⟩, linkType := .core },
    { kind := .crossConnect, a := ⟨1, 1⟩, b := ⟨1, 2⟩, linkType := .core }]

theorem exists_generate_bottleneck :
    ∃ g, generate bottleneck {} (⟨0, 1⟩ : Stepper) = .ok g ∧
      g.resolved.map (·.medium) = [.crossConnect, .exchange 7] :=
  exists_eq_ok_of_map_toOption (by decide +kernel)

theorem size_of_bottleneck {size : UInt32} (h : g.DeclaresSize bottleneck l size) :
    size = if l.medium = .crossConnect then 1300 else 1280 := by
  cases h with
  | @exchange x declared medium =>
    rw [if_neg (by rw [medium]; simp)]
    exact (by decide : ∀ x ∈ bottleneck.exchanges, x.mtu.getD 1500 = 1280) x declared
  | @connection name y medium _ first =>
    rw [if_pos medium]
    -- Both sides name the network alike.
    have hname : (connectionNetworkOf y).name = name := by simpa using List.find?_some first
    have hnames : ∀ y ∈ bottleneck.connections,
        (connectionNetworkOf y).name = "xc_1_br1_2_br1" := by
      decide +kernel
    rw [← hname, hnames y (List.mem_of_find?_eq_some first)] at first
    have hfirst : (bottleneck.connections.find? fun y ↦
        (connectionNetworkOf y).name = "xc_1_br1_2_br1").map (·.2.mtu.getD 1500) = some 1300 := by
      decide +kernel
    rw [first] at hfirst
    exact Option.some.inj hfirst

/-- The first AS takes the smaller size of its networks. The connection has the size that its first
side declares, at both ends, and the exchange its own. -/
theorem bottleneck_packetSizes :
    bottleneck.validate = .ok () ∧
      ∃ g, generate bottleneck {} (⟨0, 1⟩ : Stepper) = .ok g ∧
        (∃ t v, g.Renders ⟨1, 1⟩ t v ∧ v.at? ["mtu"] = some (.word32 1400)) ∧
        g.resolved.map (·.medium) = [.crossConnect, .exchange 7] ∧
        ∀ l ∈ g.resolved, ∀ s ∈ l.sides,
          g.HasSize s.1 (if l.medium = .crossConnect then 1300 else 1280) := by
  have hvalid : bottleneck.validate = .ok () := by decide +kernel
  obtain ⟨g, hg, hmedia⟩ := exists_generate_bottleneck
  obtain ⟨htopologies, hlinks, -⟩ := packetSizes_declared hvalid hg
  obtain ⟨hrendered, hleast⟩ := htopologies _ List.mem_cons_self
  obtain ⟨t, v, ht⟩ := hrendered _ List.mem_cons_self
  obtain ⟨hv, hsome, hbound⟩ := hleast 1 t v ht
  have hsize : t.mtu = 1400 := by
    refine UInt32.le_antisymm (hbound (List.mem_cons_of_mem _ List.mem_cons_self)) ?_
    rcases List.mem_pair.1 hsome with hsome | hsome <;> rw [hsome] <;> decide
  refine ⟨hvalid, g, hg, ⟨t, v, ht, hsize ▸ hv⟩, hmedia, fun l hl s hs ↦ ?_⟩
  obtain ⟨size, hdeclares, -, hends⟩ := hlinks l hl
  rw [← size_of_bottleneck hdeclares]
  exact hends s hs

end Generation

end Interdomain
