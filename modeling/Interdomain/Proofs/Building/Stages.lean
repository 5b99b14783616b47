import Interdomain.Proofs.Allocation
import Interdomain.Proofs.Building.Emulation

/-!
# The stages of a build

A build that succeeds has passed all its stages, and this file says what each of them has done. An
AS comes from its memberships and networks, its control services, hosts and routers, and its
gateways; the network comes from its exchanges and from one site for each AS. What is known of every
site is then known of every AS in the network.
-/

namespace Interdomain

/-! ## One part of an AS -/

namespace AutonomousSystem

variable {a a' : AutonomousSystem} {name : String}

theorem addControlService_eq_ok {n : Node} (h : (addControlService name n).after a = .ok a') :
    name ∉ a.controlServices.keys ∧
      a' = { a with controlServices := a.controlServices.insert name n } := by
  rw [addControlService, Change.after_look_bind] at h
  obtain ⟨hnew, h⟩ := seq_eq_ok_iff.1 h
  have hname := (a.checkName_yields name).good_of_ok hnew
  exact ⟨fun hmem ↦ hname (List.mem_append_right _ hmem), (Except.ok.inj h).symm⟩

theorem addHost_eq_ok {n : Node} (h : (addHost name n).after a = .ok a') :
    name ∉ a.hosts.keys ∧ a' = { a with hosts := a.hosts.insert name n } := by
  rw [addHost, Change.after_look_bind] at h
  obtain ⟨hnew, h⟩ := seq_eq_ok_iff.1 h
  have hname := (a.checkName_yields name).good_of_ok hnew
  exact ⟨fun hmem ↦ hname (List.mem_append_left _ (List.mem_append_right _ hmem)),
    (Except.ok.inj h).symm⟩

theorem addRouter_eq_ok {r : Router} (h : (addRouter name r).after a = .ok a') :
    name ∉ a.routers.keys ∧ a' = { a with routers := a.routers.insert name r } := by
  rw [addRouter, Change.after_look_bind] at h
  obtain ⟨hnew, h⟩ := seq_eq_ok_iff.1 h
  have hname := (a.checkName_yields name).good_of_ok hnew
  exact ⟨fun hmem ↦ hname (List.mem_append_left _ (List.mem_append_left _ hmem)),
    (Except.ok.inj h).symm⟩

theorem exists_gateways_of_forM {gs : List Gateway}
    (h : (gs.forM addGateway).after a = .ok a') : ∃ gateways, a' = { a with gateways } := by
  rw [Change.after_forM] at h
  refine foldlM_induction (fun _ b ↦ ∃ gateways, b = { a with gateways }) ⟨a.gateways, rfl⟩ ?_ h
  rintro before g _ b' ⟨gateways, rfl⟩ hstep
  rw [after_addGateway, bind_eq_ok_iff] at hstep
  obtain ⟨-, -, hstep⟩ := hstep
  obtain ⟨gateways', -, rfl⟩ := map_eq_ok_iff.1 hstep
  exact ⟨gateways', rfl⟩

end AutonomousSystem

namespace Site

variable {s s' : Site}

theorem addNode_eq_ok {add : String → Node → Change AutonomousSystem Fault Unit}
    {n : NodeDecl} (h : s.addNode add n = .ok s') :
    ∃ interfaces addressing system,
      (n.networks.mapM (Addressing.attachHost n.name)).outcome s.addressing
        = .ok (interfaces, addressing) ∧
      (add n.name ⟨interfaces⟩).after s.system = .ok system ∧
      s' = { s with system, addressing } := by
  obtain ⟨⟨interfaces, addressing⟩, hattach, h⟩ := bind_eq_ok_iff.1 h
  obtain ⟨system, hadd, h⟩ := bind_eq_ok_iff.1 h
  exact ⟨interfaces, addressing, system, mapError_eq_ok_iff.1 hattach, mapError_eq_ok_iff.1 hadd,
    (Except.ok.inj h).symm⟩

/-- A router as it is added, with its attachments and its connections. -/
def routerOf (s : Site) (r : RouterDecl) (interfaces : List Interface) : Router :=
  r.crossConnects.foldl (addConnection s.system.asn r.name)
    { loopback := loopback s.loopbacks, interfaces }

theorem addRouter_eq_ok {r : RouterDecl} (h : s.addRouter r = .ok s') :
    ∃ interfaces addressing,
      (r.networks.mapM (Addressing.attachRouter r.name)).outcome s.addressing
        = .ok (interfaces, addressing) ∧
      r.name ∉ s.system.routers.keys ∧
      s' = {
        system := { s.system with
          routers := s.system.routers.insert r.name (s.routerOf r interfaces) }
        addressing
        loopbacks := s.loopbacks + 1
        connections :=
          s.connections ++ r.crossConnects.map (connectionNetwork s.system.asn r.name) } := by
  obtain ⟨⟨interfaces, addressing⟩, hattach, h⟩ := bind_eq_ok_iff.1 h
  obtain ⟨system, hadd, h⟩ := bind_eq_ok_iff.1 h
  obtain ⟨hnew, rfl⟩ := AutonomousSystem.addRouter_eq_ok (mapError_eq_ok_iff.1 hadd)
  exact ⟨interfaces, addressing, mapError_eq_ok_iff.1 hattach, hnew, (Except.ok.inj h).symm⟩

end Site

/-! ## One AS -/

namespace AsDecl

/-- A network of an AS comes from the declaration at some place in the list. -/
structure HasNetwork (d : AsDecl) (n : Network) : Prop where
  scope : n.scope = .inside d.asn
  declared : ∃ index, ∃ x : NetworkDecl, d.networks[index]? = some x ∧ n.name = x.name ∧
    x.subnet.or (defaultSubnet? d.asn.toNat index) = some n.subnet

variable {d : AsDecl} {exchanges : Roster String Network} {loopbacks : Nat} {s : Site}

theorem addNetworks_eq_ok {index : Nat} {l : List NetworkDecl} {a a' : AutonomousSystem}
    (hdrop : d.networks.drop index = l) (hasn : a.asn = d.asn)
    (hbefore : ∀ name n, (name, n) ∈ a.networks.entries → n.name = name ∧ d.HasNetwork n)
    (h : addNetworks a index l = .ok a') :
    ∃ networks, a' = { a with networks } ∧
      ∀ name n, (name, n) ∈ networks.entries → n.name = name ∧ d.HasNetwork n := by
  induction l generalizing index a with
  | nil => exact ⟨a.networks, (Except.ok.inj h).symm, hbefore⟩
  | cons x l ih =>
    obtain ⟨subnet, hsubnet, h⟩ := bind_eq_ok_iff.1 h
    obtain ⟨a₁, hadd, h⟩ := bind_eq_ok_iff.1 h
    obtain ⟨networks, rfl, hentries⟩ :=
      (a.addNetwork_yields _).good_of_ok (mapError_eq_ok_iff.1 hadd)
    have hsubnet := (subnetOf_yields ..).good_of_ok hsubnet
    have hx : d.networks[index]? = some x := by
      rw [← List.head?_drop, hdrop, List.head?_cons]
    have hrest : d.networks.drop (index + 1) = l := by
      rw [← List.tail_drop, hdrop, List.tail_cons]
    refine ih (a := { a with networks }) hrest hasn (fun name n hmem ↦ ?_) h
    rw [hentries, List.mem_append, List.mem_singleton] at hmem
    rcases hmem with hmem | heq
    · exact hbefore name n hmem
    · obtain ⟨rfl, rfl⟩ := Prod.mk.inj heq
      rw [hasn] at hsubnet
      exact ⟨rfl, congrArg Scope.inside hasn, index, x, hx, rfl, hsubnet⟩

/-- The site of an AS before it has nodes. -/
def start (system : AutonomousSystem) (exchanges : Roster String Network) (loopbacks : Nat) :
    Site where
  system
  addressing := ⟨system.asn, system.networks.values.foldl
    (fun ns n ↦ ns.insert n.name (n, Offsets.ofSubnet n.subnet)) ∅, exchanges⟩
  loopbacks

theorem passes_of_build (h : d.build exchanges loopbacks = .ok s) :
    ∃ attributes networks s₁ s₂ s₃ system,
      addNetworks { asn := d.asn, attributes } 0 d.networks
        = .ok { asn := d.asn, attributes, networks } ∧
      d.controlServices.foldlM (Site.addNode AutonomousSystem.addControlService)
        (start { asn := d.asn, attributes, networks } exchanges loopbacks) = .ok s₁ ∧
      d.hosts.foldlM (Site.addNode AutonomousSystem.addHost) s₁ = .ok s₂ ∧
      d.routers.foldlM Site.addRouter s₂ = .ok s₃ ∧
      (d.gateways.forM AutonomousSystem.addGateway).after (d.applySettings s₃.system)
        = .ok system ∧
      s = { s₃ with system } := by
  rw [build] at h
  obtain ⟨attributes, hmember, -⟩ :=
    AutonomousSystem.exists_attributes_of_foldl d.isds { asn := d.asn }
  rw [hmember] at h
  obtain ⟨system, hnetworks, h⟩ := bind_eq_ok_iff.1 h
  obtain ⟨networks, rfl, -⟩ := addNetworks_eq_ok (d := d) List.drop_zero rfl
    (fun _ _ hmem ↦ absurd hmem List.not_mem_nil) hnetworks
  obtain ⟨s₁, hservices, h⟩ := bind_eq_ok_iff.1 h
  obtain ⟨s₂, hhosts, h⟩ := bind_eq_ok_iff.1 h
  obtain ⟨s₃, hrouters, h⟩ := bind_eq_ok_iff.1 h
  obtain ⟨system, hgateways, h⟩ := bind_eq_ok_iff.1 h
  exact ⟨attributes, networks, s₁, s₂, s₃, system, hnetworks, hservices, hhosts, hrouters,
    mapError_eq_ok_iff.1 hgateways, (Except.ok.inj h).symm⟩

/-- The networks come from their declarations, and the gateways change nothing else. -/
theorem stages_of_build (h : d.build exchanges loopbacks = .ok s) :
    ∃ attributes networks s₁ s₂ s₃ gateways,
      (∀ name n, (name, n) ∈ networks.entries → n.name = name ∧ d.HasNetwork n) ∧
      d.controlServices.foldlM (Site.addNode AutonomousSystem.addControlService)
        (start { asn := d.asn, attributes, networks } exchanges loopbacks) = .ok s₁ ∧
      d.hosts.foldlM (Site.addNode AutonomousSystem.addHost) s₁ = .ok s₂ ∧
      d.routers.foldlM Site.addRouter s₂ = .ok s₃ ∧
      s = { s₃ with system := { d.applySettings s₃.system with gateways } } := by
  obtain ⟨attributes, networks, s₁, s₂, s₃, system, hnetworks, hservices, hhosts, hrouters,
    hgateways, rfl⟩ := passes_of_build h
  obtain ⟨_, heq, hall⟩ := addNetworks_eq_ok (d := d) List.drop_zero rfl
    (fun _ _ hmem ↦ absurd hmem List.not_mem_nil) hnetworks
  obtain rfl : networks = _ := congrArg AutonomousSystem.networks heq
  obtain ⟨gateways, rfl⟩ := AutonomousSystem.exists_gateways_of_forM hgateways
  exact ⟨attributes, networks, s₁, s₂, s₃, gateways, hall, hservices, hhosts, hrouters, rfl⟩

end AsDecl

/-! ## The whole network -/

namespace Construction

theorem claim_eq_ok {taken l taken' : List (String × Ipv4.Address)}
    (h : claim taken l = .ok taken') :
    l.Nodup ∧ taken.Disjoint l ∧ ∀ x, x ∈ taken' ↔ x ∈ taken ∨ x ∈ l := by
  induction l generalizing taken with
  | nil =>
    obtain rfl := Except.ok.inj h
    exact ⟨.nil, List.disjoint_nil_right taken, fun x ↦ by simp⟩
  | cons x l ih =>
    rw [claim] at h
    split at h
    case isTrue => exact absurd h (by simp)
    case isFalse hfree =>
      obtain ⟨hnodup, hdisjoint, hmem⟩ := ih h
      rw [List.disjoint_cons_left] at hdisjoint
      refine ⟨List.nodup_cons.2 ⟨hdisjoint.1, hnodup⟩, ?_, fun y ↦ ?_⟩
      · rw [List.disjoint_cons_right]
        exact ⟨hfree, hdisjoint.2⟩
      · rw [hmem, List.mem_cons, List.mem_cons, or_assoc, or_left_comm]

/-- The first network of a name stays. -/
theorem get?_foldl_addConnectionNetwork (l : List Network) (e : Emulation) (name : String) :
    (l.foldl addConnectionNetwork e).crossConnectNetworks.get? name
      = (e.crossConnectNetworks.get? name).or (l.find? (·.name = name)) := by
  induction l generalizing e with
  | nil => rw [List.foldl_nil, List.find?_nil, Option.or_none]
  | cons n l ih =>
    rw [List.foldl_cons, ih, addConnectionNetwork]
    split
    case isTrue hthere =>
      by_cases hn : n.name = name
      · obtain ⟨m, hm⟩ := Option.isSome_iff_exists.1 hthere
        rw [← hn, hm, Option.some_or, Option.some_or]
      · rw [List.find?_cons_of_neg (by simpa using hn)]
    case isFalse hnone =>
      rw [Emulation.setCrossConnectNetwork, Roster.get?_insert]
      by_cases hn : n.name = name
      · rw [hn, Option.not_isSome_iff_eq_none] at hnone
        rw [if_pos hn.symm, hnone, List.find?_cons_of_pos (by simpa using hn), Option.some_or,
          Option.none_or]
      · rw [if_neg (Ne.symm hn), List.find?_cons_of_neg (by simpa using hn)]

theorem exchanges_foldl_addConnectionNetwork (l : List Network) (e : Emulation) :
    (l.foldl addConnectionNetwork e).exchanges = e.exchanges := by
  induction l generalizing e with
  | nil => rfl
  | cons n l ih =>
    rw [List.foldl_cons, ih, addConnectionNetwork]
    split
    case isTrue => rfl
    case isFalse => rfl

theorem addAs_eq_ok {exchanges : Roster String Network} {k k' : Construction} {d : AsDecl}
    (h : k.addAs exchanges d = .ok k') :
    ∃ site taken, d.build exchanges k.loopbacks = .ok site ∧
      claim k.taken (exchangeAddresses site.system) = .ok taken ∧
      k.emulation.as? site.system.asn = none ∧
      k' = {
        emulation := site.connections.foldl addConnectionNetwork
          { k.emulation with ases := k.emulation.ases.insert site.system.asn site.system }
        loopbacks := site.loopbacks
        taken } := by
  obtain ⟨site, hbuild, h⟩ := bind_eq_ok_iff.1 h
  obtain ⟨taken, hclaim, h⟩ := bind_eq_ok_iff.1 h
  rw [Emulation.addAs?] at h
  split at h
  case h_1 => exact absurd h (by simp)
  case h_2 e hadd =>
    split at hadd
    case isTrue => exact absurd hadd (by simp)
    case isFalse hnew =>
      obtain rfl := Option.some.inj hadd
      exact ⟨site, taken, hbuild, hclaim, Option.not_isSome_iff_eq_none.1 hnew,
        (Except.ok.inj h).symm⟩

end Construction

/-- The networks of the exchanges by their names, in which the routers look them up. -/
def Emulation.exchangesByName (e : Emulation) : Roster String Network :=
  e.exchanges.values.foldl (fun ns n ↦ ns.insert n.name n) ∅

namespace Config

/-- The names of exchanges lead to declared exchanges. -/
def KnowsExchanges (c : Config) (exchanges : Roster String Network) : Prop :=
  ∀ name n, exchanges.get? name = some n → n.name = name ∧ ∃ x ∈ c.exchanges, x.build = .ok n

/-- A network was put together from the sites of its ASes. -/
structure Assembled (c : Config) (exchanges : Roster String Network) (sites : List Site)
    (e : Emulation) : Prop where
  built : List.Forall₂ (fun d s ↦ ∃ loopbacks, d.build exchanges loopbacks = .ok s) c.ases sites
  found : ∀ asn a, e.as? asn = some a ↔ ∃ s ∈ sites, s.system.asn = asn ∧ s.system = a
  distinct : (sites.map (·.system.asn)).Nodup
  /-- A network between routers is the one that comes first under its name. -/
  connections : ∀ name, e.crossConnectNetworks.get? name
    = (sites.flatMap (·.connections)).find? (·.name = name)
  /-- No address on an exchange was claimed twice. -/
  claimed : (sites.flatMap fun s ↦ Construction.exchangeAddresses s.system).Nodup

variable {c : Config} {exchanges : Roster String Network} {sites : List Site} {e : Emulation}

theorem Assembled.asn_ne (h : c.Assembled exchanges sites e) {asn : Asn} (hnew : e.as? asn = none)
    {s : Site} (hs : s ∈ sites) : s.system.asn ≠ asn := by
  intro heq
  have hfound := (h.found asn s.system).2 ⟨s, hs, heq, rfl⟩
  rw [hnew] at hfound
  exact absurd hfound (by simp)

theorem Assembled.found_insert (h : c.Assembled exchanges sites e) {site : Site}
    (hnew : e.as? site.system.asn = none) {e' : Emulation}
    (he' : e'.ases = e.ases.insert site.system.asn site.system) (asn : Asn)
    (a : AutonomousSystem) :
    e'.as? asn = some a ↔ ∃ s ∈ sites ++ [site], s.system.asn = asn ∧ s.system = a := by
  have hfound := h.found asn a
  rw [Emulation.as?] at hfound
  rw [Emulation.as?, he', SortedMap.get?_insert]
  split
  case isTrue hasn =>
    rw [Option.some_inj]
    constructor
    · rintro rfl
      exact ⟨site, List.mem_append_right _ (List.mem_singleton_self site), hasn.symm, rfl⟩
    · rintro ⟨s, hs, hsasn, rfl⟩
      rcases List.mem_append.1 hs with hs | hs
      · exact absurd (hsasn.trans hasn) (h.asn_ne hnew hs)
      · rw [List.mem_singleton.1 hs]
  case isFalse hasn =>
    rw [hfound]
    constructor
    · rintro ⟨s, hs, hs'⟩
      exact ⟨s, List.mem_append_left _ hs, hs'⟩
    · rintro ⟨s, hs, hsasn, hs'⟩
      rcases List.mem_append.1 hs with hs | hs
      · exact ⟨s, hs, hsasn, hs'⟩
      · obtain rfl := List.mem_singleton.1 hs
        exact absurd hsasn.symm hasn

theorem Assembled.add {before : List AsDecl} {k k' : Construction} {d : AsDecl}
    (h : ({ c with ases := before } : Config).Assembled exchanges sites k.emulation)
    (htaken : ∀ x, x ∈ k.taken ↔
      x ∈ sites.flatMap fun s ↦ Construction.exchangeAddresses s.system)
    (hadd : k.addAs exchanges d = .ok k') :
    ∃ site, ({ c with ases := before ++ [d] } : Config).Assembled exchanges (sites ++ [site])
        k'.emulation ∧
      ∀ x, x ∈ k'.taken ↔
        x ∈ (sites ++ [site]).flatMap fun s ↦ Construction.exchangeAddresses s.system := by
  obtain ⟨site, taken, hbuild, hclaim, hnew, rfl⟩ := Construction.addAs_eq_ok hadd
  obtain ⟨hnodup, hdisjoint, hmem⟩ := Construction.claim_eq_ok hclaim
  refine ⟨site, ⟨List.rel_append h.built (.cons ⟨_, hbuild⟩ .nil),
    h.found_insert hnew (ases_foldl_addConnectionNetwork ..), ?_, fun name ↦ ?_, ?_⟩, fun x ↦ ?_⟩
  · rw [List.map_append, List.map_singleton, ← List.concat_eq_append, List.nodup_concat]
    refine ⟨fun hmem ↦ ?_, h.distinct⟩
    obtain ⟨s, hs, heq⟩ := List.mem_map.1 hmem
    exact h.asn_ne hnew hs heq
  · rw [Construction.get?_foldl_addConnectionNetwork, h.connections, List.flatMap_append,
      List.find?_append, List.flatMap_singleton]
  · rw [List.flatMap_append, List.flatMap_singleton, List.nodup_append']
    exact ⟨h.claimed, hnodup, fun x hx ↦ hdisjoint ((htaken x).2 hx)⟩
  · rw [hmem, htaken, List.flatMap_append, List.flatMap_singleton, List.mem_append]

theorem exists_isds_of_foldl (l : List Isd) (e : Emulation) :
    ∃ isds, l.foldl Emulation.addIsd e = { e with isds } := by
  induction l generalizing e with
  | nil => exact ⟨e.isds, rfl⟩
  | cons isd l ih => exact ih (e.addIsd isd)

theorem addExchanges_eq_ok (h : c.exchanges.foldlM addExchange
      (c.isds.foldl Emulation.addIsd .empty) = .ok e) :
    e.ases = ∅ ∧ e.crossConnectNetworks = ∅ ∧ ∀ id n, e.exchanges.get? id = some n →
      ∃ x ∈ c.exchanges, x.id = id ∧ x.build = .ok n := by
  obtain ⟨isds, hisds⟩ := exists_isds_of_foldl c.isds .empty
  rw [hisds] at h
  have hempty : ∀ id, (∅ : Roster ExchangeId Network).get? id = none := fun _ ↦ rfl
  refine foldlM_induction (fun before e ↦ e.ases = ∅ ∧ e.crossConnectNetworks = ∅ ∧
    ∀ id n, e.exchanges.get? id = some n → ∃ x ∈ before, x.id = id ∧ x.build = .ok n)
    ⟨rfl, rfl, fun id n hn ↦ absurd ((hempty id).symm.trans hn) (by simp)⟩ ?_ h
  rintro before x e e' ⟨hases, hconnections, he⟩ hadd
  obtain ⟨m, hm, hadd⟩ := bind_eq_ok_iff.1 hadd
  obtain rfl := Except.ok.inj hadd
  refine ⟨hases, hconnections, fun id n hn ↦ ?_⟩
  rw [Emulation.setExchange, Roster.get?_insert] at hn
  split at hn
  case isTrue hid =>
    obtain rfl := Option.some.inj hn
    exact ⟨x, List.mem_append_right _ (List.mem_singleton_self x), hid.symm, hm⟩
  case isFalse =>
    obtain ⟨y, hy, hbuild⟩ := he id n hn
    exact ⟨y, List.mem_append_left _ hy, hbuild⟩

theorem knowsExchanges_of_exchanges
    (h : ∀ id n, e.exchanges.get? id = some n → ∃ x ∈ c.exchanges, x.id = id ∧ x.build = .ok n) :
    c.KnowsExchanges e.exchangesByName := by
  intro name n hn
  obtain ⟨m, hm, hname, rfl⟩ := Roster.exists_of_get?_foldl_insert hn
  obtain ⟨id, hid⟩ := (Roster.mem_values_iff ..).1 hm
  obtain ⟨x, hx, -, hbuild⟩ := h id m hid
  exact ⟨hname, x, hx, hbuild⟩

/-- The sites of the ASes that were added, and the addresses that these have taken. -/
theorem exists_assembled_of_foldlM {k : Construction} (hases : e.ases = ∅)
    (hconnections : e.crossConnectNetworks = ∅)
    (h : c.ases.foldlM (Construction.addAs exchanges) { emulation := e } = .ok k) :
    ∃ sites, c.Assembled exchanges sites k.emulation ∧
      ∀ x, x ∈ k.taken ↔ x ∈ sites.flatMap fun s ↦ Construction.exchangeAddresses s.system := by
  have hstart : ({ c with ases := [] } : Config).Assembled exchanges [] e := by
    refine ⟨.nil, fun asn a ↦ ?_, .nil, fun name ↦ ?_, .nil⟩
    · rw [Emulation.as?, hases]
      have hempty : (∅ : SortedMap Asn AutonomousSystem).get? asn = none := rfl
      rw [hempty]
      refine iff_of_false (by simp) ?_
      rintro ⟨s, hs, -⟩
      exact absurd hs List.not_mem_nil
    · rw [hconnections]
      rfl
  refine foldlM_induction (fun before (k : Construction) ↦ ∃ sites,
    ({ c with ases := before } : Config).Assembled exchanges sites k.emulation ∧
      ∀ x, x ∈ k.taken ↔ x ∈ sites.flatMap fun s ↦ Construction.exchangeAddresses s.system)
    ⟨[], hstart, fun x ↦ Iff.rfl⟩ ?_ h
  rintro before d k k' ⟨sites, hsites, htaken⟩ hadd
  obtain ⟨site, hsites', htaken'⟩ := hsites.add htaken hadd
  exact ⟨sites ++ [site], hsites', htaken'⟩

theorem exchanges_of_addAses {exchanges : Roster String Network} {k k' : Construction}
    {ds : List AsDecl} (h : ds.foldlM (Construction.addAs exchanges) k = .ok k') :
    k'.emulation.exchanges = k.emulation.exchanges := by
  refine foldlM_induction
    (fun _ (k' : Construction) ↦ k'.emulation.exchanges = k.emulation.exchanges) rfl ?_ h
  intro before d k₁ k₂ hk hadd
  obtain ⟨site, taken, -, -, -, rfl⟩ := Construction.addAs_eq_ok hadd
  exact (Construction.exchanges_foldl_addConnectionNetwork ..).trans hk

/-- A network that was built has its exchanges from their declarations, and it was put together from
its sites, which know these exchanges by their names. -/
theorem sites_of_build (h : c.build = .ok e) :
    (∀ id n, e.exchanges.get? id = some n → ∃ x ∈ c.exchanges, x.id = id ∧ x.build = .ok n) ∧
      ∃ sites, c.Assembled e.exchangesByName sites e := by
  obtain ⟨e₀, hexchanges, h⟩ := bind_eq_ok_iff.1 h
  obtain ⟨k, hases, h⟩ := bind_eq_ok_iff.1 h
  obtain rfl := Except.ok.inj h
  obtain ⟨hnoAses, hnoConnections, hdeclared⟩ := addExchanges_eq_ok hexchanges
  obtain ⟨sites, hsites, -⟩ := exists_assembled_of_foldlM hnoAses hnoConnections hases
  rw [Emulation.exchangesByName, exchanges_of_addAses hases]
  exact ⟨hdeclared, sites, hsites⟩

theorem exists_assembled_of_build (h : c.build = .ok e) :
    ∃ exchanges sites, c.KnowsExchanges exchanges ∧ c.Assembled exchanges sites e := by
  obtain ⟨hdeclared, sites, hsites⟩ := sites_of_build h
  exact ⟨e.exchangesByName, sites, knowsExchanges_of_exchanges hdeclared, hsites⟩

/-! ## What is found in a network that was built -/

section Found

variable (h : c.build = .ok e) {d : AsDecl}

include h

theorem exists_decl_of_as? {n : Asn} {a : AutonomousSystem} (ha : e.as? n = some a) :
    ∃ d ∈ c.ases, d.asn = n ∧
      ∃ loopbacks s, d.build e.exchangesByName loopbacks = .ok s ∧ s.system = a := by
  obtain ⟨-, sites, hassembled⟩ := sites_of_build h
  obtain ⟨s, hs, hasn, hsystem⟩ := (hassembled.found n a).1 ha
  obtain ⟨d, hd, loopbacks, hbuild⟩ := exists_of_mem_of_forall₂ hassembled.built.flip hs
  have hdescribes := (d.build_yields e.exchangesByName loopbacks).good_of_ok hbuild
  exact ⟨d, hd, hdescribes.asn.symm.trans hasn, loopbacks, s, hbuild, hsystem⟩

theorem exists_as?_of_decl (hd : d ∈ c.ases) :
    ∃ loopbacks s, d.build e.exchangesByName loopbacks = .ok s ∧ e.as? d.asn = some s.system := by
  obtain ⟨-, sites, hassembled⟩ := sites_of_build h
  obtain ⟨s, hs, loopbacks, hbuild⟩ := exists_of_mem_of_forall₂ hassembled.built hd
  have hdescribes := (d.build_yields e.exchangesByName loopbacks).good_of_ok hbuild
  exact ⟨loopbacks, s, hbuild, (hassembled.found _ _).2 ⟨s, hs, hdescribes.asn, rfl⟩⟩

/-! What is known of the routers of one AS, declaration by declaration, is known of all. -/

variable {good : AsDecl → RouterDecl → String × Router → Prop}
  (hname : ∀ d r x, good d r x → x.1 = r.name)
  (hgood : ∀ d loopbacks s, d.build e.exchangesByName loopbacks = .ok s →
    List.Forall₂ (good d) d.routers s.system.routers.entries)

include hname hgood

theorem exists_decl_of_routerAt {p : Port} {router : Router} (hp : e.routerAt p = some router) :
    ∃ d ∈ c.ases, ∃ r ∈ d.routers, p = (d.asn, r.name) ∧ good d r (r.name, router) := by
  obtain ⟨a, ha, hrouter⟩ := Option.bind_eq_some_iff.1 hp
  obtain ⟨d, hd, hasn, loopbacks, s, hbuild, rfl⟩ := exists_decl_of_as? h ha
  have hentry := (Roster.get?_eq_some_iff _).1 hrouter
  obtain ⟨r, hr, hrouter⟩ := exists_of_mem_of_forall₂ (hgood d loopbacks s hbuild).flip hentry
  have hr' : p.2 = r.name := hname d r _ hrouter
  exact ⟨d, hd, r, hr, Prod.ext hasn.symm hr', hr' ▸ hrouter⟩

theorem exists_routerAt_of_decl (hd : d ∈ c.ases) {r : RouterDecl} (hr : r ∈ d.routers) :
    ∃ router, e.routerAt (d.asn, r.name) = some router ∧ good d r (r.name, router) := by
  obtain ⟨loopbacks, s, hbuild, hsystem⟩ := exists_as?_of_decl h hd
  obtain ⟨⟨name, router⟩, hentry, hrouter⟩ :=
    exists_of_mem_of_forall₂ (hgood d loopbacks s hbuild) hr
  obtain rfl : name = r.name := hname d r _ hrouter
  refine ⟨router, ?_, hrouter⟩
  rw [Emulation.routerAt, Emulation.router?_eq, hsystem, Option.bind_some, Roster.get?_eq_some_iff]
  exact hentry

end Found

end Config

end Interdomain
