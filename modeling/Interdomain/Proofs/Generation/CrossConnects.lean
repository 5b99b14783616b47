import Interdomain.Proofs.Building.Connections
import Interdomain.Proofs.Generation.Interfaces

/-!
# Networks under links

The two routers of a link over a connection record each other over one network, and this network is
there. That is all that resolution asks for: it compares the names of the networks and reads no
address. The prefix of the network comes from the first connection that names it, and the address of
each end from its own side, so the ends sit on the network as far as the connections that the two
routers declare toward each other agree with it.
-/

namespace Interdomain

namespace Emulation

/-- A router records the router at another port over a network, with an address on its own side. -/
def Reports (e : Emulation) (network : String) (near far : Port) (address : Ipv4.Address) : Prop :=
  ∃ side, e.crossConnect? near far = some side ∧ side.network = network ∧
    side.address.address = address

variable {e e' : Emulation}

theorem crossConnect?_of_unsettled_eq (h : e'.unsettled = e.unsettled) (near far : Port) :
    e'.crossConnect? near far = e.crossConnect? near far := by
  rw [crossConnect?, crossConnect?, ← e'.routerAt_unsettled, h, e.routerAt_unsettled]

theorem crossConnect?_bare (e : Emulation) (near far : Port) :
    e.bare.crossConnect? near far = e.crossConnect? near far := by
  rw [crossConnect?, crossConnect?, routerAt_bare, Option.bind_map]
  rfl

theorem crossConnect?_of_bare_eq (h : e'.bare = e.bare) (near far : Port) :
    e'.crossConnect? near far = e.crossConnect? near far := by
  rw [← crossConnect?_bare, h, crossConnect?_bare]

end Emulation

/-! ## Planned links -/

namespace Resolution

variable {e : Emulation} {l : PlannedLink}

/-- The routers of a planned link record each other over a network that is there, and its packet
size is that of the link. -/
theorem planCrossConnect_reports {ends : LinkEnds} {count : UInt32}
    (h : planCrossConnect e ends count = .ok l) :
    ∃ name n, e.network? .crossConnect name = some n ∧ l.mtu = n.mtu ∧
      e.Reports name l.a.port l.b.port l.a.address ∧
      e.Reports name l.b.port l.a.port l.b.address := by
  obtain ⟨a, b, aSide, bSide, n, hrouters, haSide, hbSide, hsame, hn, rfl⟩ :=
    planCrossConnect_eq_ok h
  obtain ⟨⟨ha, -⟩, hb, -⟩ := crossConnectRouters_eq_ok hrouters
  refine ⟨aSide.network, n, hn, rfl, ⟨aSide, ?_, rfl, rfl⟩, bSide, ?_, hsame.symm, rfl⟩
  · rw [Emulation.crossConnect?, Emulation.routerAt, PlannedEnd.port, ha, Option.bind_some]
    exact haSide
  · rw [Emulation.crossConnect?, Emulation.routerAt, PlannedEnd.port, hb, Option.bind_some]
    exact hbSide

theorem planLink_reports {d : LinkKey × UInt32} (h : planLink e d = .ok l)
    (hmedium : l.medium = .crossConnect) :
    ∃ name n, e.network? .crossConnect name = some n ∧ l.mtu = n.mtu ∧
      e.Reports name l.a.port l.b.port l.a.address ∧
      e.Reports name l.b.port l.a.port l.b.address := by
  obtain ⟨⟨medium, ends⟩, count⟩ := d
  cases medium with
  | crossConnect => exact planCrossConnect_reports h
  | exchange id =>
    have hkept := (planLink_realizes h).medium
    rw [hmedium] at hkept
    exact absurd hkept (by simp)

/-- Resolution has found every link over a connection on routers that record each other. -/
theorem reports_of_resolve {options : ResolverOptions} {links : LinkRegistry} {e' : Emulation}
    {rs : List ResolvedLink} (h : (resolve options links).on e = (.ok rs, e')) {r : ResolvedLink}
    (hr : r ∈ rs) (hmedium : r.medium = .crossConnect) :
    ∃ name n, e.network? .crossConnect name = some n ∧
      ∀ s ∈ r.sides, e.Reports name s.1.port s.2.port s.1.underlay.address := by
  obtain ⟨p, hplan, hcommitted⟩ := plan_of_resolve h
  obtain ⟨l, hl, hcarries⟩ := exists_of_mem_of_forall₂ hcommitted.carried.flip hr
  obtain ⟨l', hl', hrepeat⟩ := List.mem_flatMap.1 hl
  obtain rfl := List.eq_of_mem_replicate hrepeat
  obtain ⟨d, -, hplanned⟩ :=
    exists_of_mem_of_forall₂ (mapM_eq_ok_iff.1 (plan_eq_ok_iff.1 hplan).1).flip hl'
  obtain ⟨name, n, hn, -, ha, hb⟩ :=
    planLink_reports hplanned (hcarries.medium.symm.trans hmedium)
  refine ⟨name, n, hn, fun s hs ↦ ?_⟩
  rw [← hcarries.a, ← hcarries.b] at ha hb
  rcases List.mem_pair.1 hs with rfl | rfl
  · exact ha
  · exact hb

end Resolution

/-! ## Declared connections -/

namespace Config

variable {c : Config} {e : Emulation} {near far : Port} {network : String}

/-- The connections that the router at a port declares toward another port over a network. -/
def connectionsBetween (c : Config) (near far : Port) (network : String) :
    List (Port × CrossConnectDecl) :=
  c.connections.filter fun y ↦
    y.1 = near ∧ y.2.peer = far ∧ (connectionNetworkOf y).name = network

theorem exists_connection_of_reports (h : c.build = .ok e) {address : Ipv4.Address}
    (hreports : e.Reports network near far address) :
    ∃ y ∈ c.connectionsBetween near far network, y.2.address.address = address := by
  obtain ⟨side, hside, rfl, rfl⟩ := hreports
  obtain ⟨x, hx, hpeer, rfl⟩ := exists_connection_of_crossConnect? h hside
  refine ⟨(near, x), List.mem_filter.2 ⟨hx, ?_⟩, rfl⟩
  rw [decide_eq_true_eq]
  exact ⟨rfl, hpeer, rfl⟩

end Config

/-! ## Resolved links -/

namespace Generation

variable {σ : Type} [WordSource σ] {c : Config} {options : ResolverOptions} {source : σ}
  {g : Generation} {l : ResolvedLink}

/-- The routers of a link over a connection record each other over one network, and this is as the
first connection that names it declares it. -/
theorem exists_network_of_generate (h : generate c options source = .ok g) (hl : l ∈ g.resolved)
    (hmedium : l.medium = .crossConnect) :
    ∃ name n, g.emulation.network? .crossConnect name = some n ∧
      c.connectionNetwork? name = some n ∧
      ∀ s ∈ l.sides,
        g.emulation.Reports name s.1.port s.2.port s.1.underlay.address ∧
          ∃ y ∈ c.connectionsBetween s.1.port s.2.port name,
            y.2.address.address = s.1.underlay.address := by
  obtain ⟨built, settled, hbuild, -, ⟨_, hsettled⟩, hresolve, -⟩ := phases_of_generate h
  obtain ⟨p, -, hcommitted⟩ := Resolution.plan_of_resolve hresolve
  obtain ⟨name, n, hn, hsides⟩ := Resolution.reports_of_resolve hresolve hl hmedium
  -- Neither the settings nor the links have changed what the build recorded.
  have hnetworks : g.emulation.network? .crossConnect name = settled.network? .crossConnect name :=
    congrArg (·.crossConnectNetworks.get? name) hcommitted.bare
  have hnetworks' : settled.network? .crossConnect name = built.network? .crossConnect name :=
    congrArg (·.crossConnectNetworks.get? name) hsettled.unsettled
  refine ⟨name, n, hnetworks.trans hn, ?_, fun s hs ↦ ⟨?_, ?_⟩⟩
  · rw [← Config.get?_crossConnectNetworks_of_build hbuild]
    exact hnetworks'.symm.trans hn
  · rw [Emulation.Reports, Emulation.crossConnect?_of_bare_eq hcommitted.bare]
    exact hsides s hs
  · have hreports := hsides s hs
    rw [Emulation.Reports, Emulation.crossConnect?_of_unsettled_eq hsettled.unsettled] at hreports
    exact Config.exists_connection_of_reports hbuild hreports

/-- **Networks under links.** The routers of a link over a connection report one network, which is
there with the prefix of the first connection that names it, and each end has an address that its
router declares toward the other over this network. An end lies inside the prefix if the connections
that its router declares so have it, and the ends differ if no connection of the one router has the
address of a connection of the other. -/
theorem sides_on_network (h : generate c options source = .ok g) (hl : l ∈ g.resolved)
    (hmedium : l.medium = .crossConnect) :
    ∃ name n, g.emulation.network? .crossConnect name = some n ∧
      c.connectionNetwork? name = some n ∧
      (∀ s ∈ l.sides,
        g.emulation.Reports name s.1.port s.2.port s.1.underlay.address ∧
          (∃ y ∈ c.connectionsBetween s.1.port s.2.port name,
            y.2.address.address = s.1.underlay.address) ∧
          ((∀ y ∈ c.connectionsBetween s.1.port s.2.port name, y.2.address.truncate = n.subnet) →
            n.subnet.Contains s.1.underlay.address)) ∧
      ((∀ x ∈ c.connectionsBetween l.a.port l.b.port name,
          ∀ y ∈ c.connectionsBetween l.b.port l.a.port name,
            x.2.address.address ≠ y.2.address.address) →
        l.a.underlay.address ≠ l.b.underlay.address) := by
  obtain ⟨name, n, hn, hfirst, hsides⟩ := exists_network_of_generate h hl hmedium
  refine ⟨name, n, hn, hfirst, fun s hs ↦ ?_, fun hdifferent ↦ ?_⟩
  · obtain ⟨hreports, y, hy, haddress⟩ := hsides s hs
    refine ⟨hreports, ⟨y, hy, haddress⟩, fun hprefix ↦ ?_⟩
    rw [← hprefix y hy, Ipv4.Subnet.contains_truncate, ← haddress]
    exact y.2.address.contains_address
  · obtain ⟨-, x, hx, hxa⟩ := hsides (l.a, l.b) List.mem_cons_self
    obtain ⟨-, y, hy, hyb⟩ := hsides (l.b, l.a) (List.mem_cons_of_mem _ List.mem_cons_self)
    rw [← hxa, ← hyb]
    exact hdifferent x hx y hy

/-! ### Two routers and one connection -/

/-- Two routers with a connection, each side with its own address. -/
def connected (a b : Ipv4.Subnet) : Config where
  isds := [1]
  ases := [
    { asn := 1
      isds := [{ isd := 1 }]
      networks := [{ name := "net0" }]
      routers := [{
        name := "br1"
        crossConnects := [{ peerAsn := 2, peerRouter := "br1", address := a }] }] },
    { asn := 2
      isds := [{ isd := 1 }]
      networks := [{ name := "net0" }]
      routers := [{
        name := "br1"
        crossConnects := [{ peerAsn := 1, peerRouter := "br1", address := b }] }] }]
  links := [{ kind := .crossConnect, a := ⟨1, 1⟩, b := ⟨1, 2⟩, linkType := .core }]

/-- The sides are in different subnets. -/
def mismatch : Config := connected (.ofOctets 10 3 0 1 29) (.ofOctets 10 4 0 2 29)

/-- The sides have one address. -/
def namesakes : Config := connected (.ofOctets 10 3 0 1 29) (.ofOctets 10 3 0 1 29)

theorem exists_generate_mismatch :
    ∃ g, generate mismatch {} (⟨0, 1⟩ : Stepper) = .ok g ∧
      g.resolved.map (fun l ↦ (l.medium, l.a.underlay.address, l.b.underlay.address))
        = [(.crossConnect, .ofOctets 10 3 0 1, .ofOctets 10 4 0 2)] :=
  exists_eq_ok_of_map_toOption (by decide +kernel)

theorem exists_generate_namesakes :
    ∃ g, generate namesakes {} (⟨0, 1⟩ : Stepper) = .ok g ∧
      g.resolved.map (fun l ↦ (l.medium, l.a.underlay.address, l.b.underlay.address))
        = [(.crossConnect, .ofOctets 10 3 0 1, .ofOctets 10 3 0 1)] :=
  exists_eq_ok_of_map_toOption (by decide +kernel)

/-- The second end of a link can be outside the network that both routers report, and the ends of a
link can have one address. -/
theorem mismatch_outside :
    (mismatch.validate = .ok () ∧
      ∃ g l name n, generate mismatch {} (⟨0, 1⟩ : Stepper) = .ok g ∧ l ∈ g.resolved ∧
        l.medium = .crossConnect ∧ g.emulation.network? .crossConnect name = some n ∧
        g.emulation.Reports name l.a.port l.b.port l.a.underlay.address ∧
        g.emulation.Reports name l.b.port l.a.port l.b.underlay.address ∧
        ¬(n.subnet.Contains l.a.underlay.address ∧ n.subnet.Contains l.b.underlay.address)) ∧
      namesakes.validate = .ok () ∧
        ∃ g l, generate namesakes {} (⟨0, 1⟩ : Stepper) = .ok g ∧ l ∈ g.resolved ∧
          l.medium = .crossConnect ∧ l.a.underlay.address = l.b.underlay.address := by
  refine ⟨⟨rfl, ?_⟩, rfl, ?_⟩
  · obtain ⟨g, hg, hresolved⟩ := exists_generate_mismatch
    obtain ⟨l, hl, hends⟩ := List.map_eq_singleton_iff.1 hresolved
    simp only [Prod.mk.injEq] at hends
    obtain ⟨hmedium, ha, hb⟩ := hends
    have hmem : l ∈ g.resolved := hl ▸ List.mem_singleton_self l
    obtain ⟨name, n, hn, hfirst, hsides⟩ := exists_network_of_generate hg hmem hmedium
    refine ⟨g, l, name, n, hg, hmem, hmedium, hn, (hsides _ List.mem_cons_self).1,
      (hsides _ (List.mem_cons_of_mem _ List.mem_cons_self)).1, ?_⟩
    rw [ha, hb]
    have hnone : ∀ n ∈ mismatch.connections.map connectionNetworkOf,
        ¬(n.subnet.Contains (.ofOctets 10 3 0 1) ∧ n.subnet.Contains (.ofOctets 10 4 0 2)) := by
      decide
    exact hnone n (List.mem_of_find?_eq_some hfirst)
  · obtain ⟨g, hg, hresolved⟩ := exists_generate_namesakes
    obtain ⟨l, hl, hends⟩ := List.map_eq_singleton_iff.1 hresolved
    simp only [Prod.mk.injEq] at hends
    exact ⟨g, l, hg, hl ▸ List.mem_singleton_self l, hends.1, hends.2.1.trans hends.2.2.symm⟩

/-- The connected routers at the crossroads are on one network, with different addresses. -/
theorem crossroads_on_network :
    ∃ g l n, generate crossroads {} (⟨0, 1⟩ : Stepper) = .ok g ∧ l ∈ g.resolved ∧
      l.medium = .crossConnect ∧ n ∈ g.emulation.networks .crossConnect ∧
      n.subnet.Contains l.a.underlay.address ∧ n.subnet.Contains l.b.underlay.address ∧
      l.a.underlay.address ≠ l.b.underlay.address := by
  obtain ⟨g, hg, hhead⟩ : ∃ g, generate crossroads {} (⟨0, 1⟩ : Stepper) = .ok g ∧
      g.resolved.head?.map (fun l ↦ (l.medium, l.a.port, l.b.port))
        = some (.crossConnect, (1, "br1"), (2, "br1")) :=
    exists_eq_ok_of_map_toOption (by decide +kernel)
  obtain ⟨l, hl, hends⟩ := Option.map_eq_some_iff.1 hhead
  simp only [Prod.mk.injEq] at hends
  obtain ⟨hmedium, ha, hb⟩ := hends
  have hmem : l ∈ g.resolved := List.mem_of_mem_head? hl
  obtain ⟨name, n, hn, hfirst, hsides, hdifferent⟩ := sides_on_network hg hmem hmedium
  obtain ⟨-, -, hinside⟩ := hsides (l.a, l.b) List.mem_cons_self
  obtain ⟨-, -, hinside'⟩ := hsides (l.b, l.a) (List.mem_cons_of_mem _ List.mem_cons_self)
  have hprefix : ∀ m ∈ crossroads.connections.map connectionNetworkOf,
      ∀ y ∈ crossroads.connections, y.2.address.truncate = m.subnet := by
    decide
  have hapart : ∀ x ∈ crossroads.connections, ∀ y ∈ crossroads.connections,
      x.1 = (1, "br1") → y.1 = (2, "br1") → x.2.address.address ≠ y.2.address.address := by
    decide
  have hnetwork := hprefix n (List.mem_of_find?_eq_some hfirst)
  refine ⟨g, l, n, hg, hmem, hmedium, (Roster.mem_values_iff ..).2 ⟨name, hn⟩,
    hinside fun y hy ↦ hnetwork y (List.mem_filter.1 hy).1,
    hinside' fun y hy ↦ hnetwork y (List.mem_filter.1 hy).1, hdifferent fun x hx y hy ↦ ?_⟩
  obtain ⟨hx, hxport⟩ := List.mem_filter.1 hx
  obtain ⟨hy, hyport⟩ := List.mem_filter.1 hy
  exact hapart x hx y hy ((of_decide_eq_true hxport).1.trans ha)
    ((of_decide_eq_true hyport).1.trans hb)

end Generation

end Interdomain
