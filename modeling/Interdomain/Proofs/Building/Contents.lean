import Interdomain.Proofs.Building.Stages
import Interdomain.Proofs.Systems.Gateways

/-!
# What is inside a built AS

The build takes over what the declaration of an AS says of its insides: the packet sizes of its
networks, its control services, its hosts with one interface for each network that they join, its
gateways and its policies. Each of these comes in one stage, and the stages after it leave it as it
is.
-/

namespace Interdomain

/-- The packet size of a network: the declared one, or else the default. -/
def NetworkDecl.packetSize (n : NetworkDecl) : UInt32 := n.mtu.getD defaultMtu

/-- The packet size of an exchange: the declared one, or else the default. -/
def ExchangeDecl.packetSize (x : ExchangeDecl) : UInt32 := x.mtu.getD defaultMtu

def AsDecl.policies (d : AsDecl) : SortedMap PolicyKind Value := (d.beaconing.getD {}).policies

/-- A node with one interface for each network that it joins. -/
structure NodeDecl.Attaches (n : NodeDecl) (e : String × Node) : Prop where
  name : e.1 = n.name
  interfaces : e.2.interfaces.length = n.networks.length

/-- The insides of an AS as they were declared. -/
structure AsDecl.Fills (d : AsDecl) (a : AutonomousSystem) : Prop where
  packetSizes : a.networks.values.map (·.mtu) = d.networks.map (·.packetSize)
  controlServices : a.controlServices.keys = d.controlServices.map (·.name)
  hosts : List.Forall₂ NodeDecl.Attaches d.hosts a.hosts.entries
  gateways : a.gateways.gateways = d.gateways
  /-- No two gateways have one name. -/
  gatewayNames : (d.gateways.map (·.name)).Nodup
  /-- A gateway is on a host of its AS. -/
  hosted : ∀ g ∈ d.gateways, g.host ∈ a.hosts.keys
  policies : a.policies = d.policies

/-! ## Stages -/

theorem Addressing.length_mapM_attach {attach : String → Change Addressing AddressFault Interface}
    {s s' : Addressing} {networks : List String} {is : List Interface}
    (h : (networks.mapM attach).outcome s = .ok (is, s')) : is.length = networks.length := by
  induction networks generalizing s s' is with
  | nil =>
    obtain ⟨rfl, -⟩ := Prod.mk.inj (Except.ok.inj h)
    rfl
  | cons network networks ih =>
    rw [Change.outcome_mapM_cons] at h
    obtain ⟨⟨i, s₁⟩, -, h⟩ := bind_eq_ok_iff.1 h
    obtain ⟨⟨rest, s₂⟩, hrest, h⟩ := bind_eq_ok_iff.1 h
    obtain ⟨rfl, -⟩ := Prod.mk.inj (Except.ok.inj h)
    rw [List.length_cons, List.length_cons, ih hrest]

theorem packetSizes_of_addNetworks {index : Nat} {l : List NetworkDecl} {a a' : AutonomousSystem}
    (h : addNetworks a index l = .ok a') :
    a'.networks.values.map (·.mtu) = a.networks.values.map (·.mtu) ++ l.map (·.packetSize) := by
  induction l generalizing index a with
  | nil => rw [Except.ok.inj h, List.map_nil, List.append_nil]
  | cons n l ih =>
    obtain ⟨subnet, -, h⟩ := bind_eq_ok_iff.1 h
    obtain ⟨a₁, hadd, h⟩ := bind_eq_ok_iff.1 h
    obtain ⟨networks, rfl, hentries⟩ :=
      (a.addNetwork_yields _).good_of_ok (mapError_eq_ok_iff.1 hadd)
    rw [ih h, Roster.values, hentries, List.map_append, List.map_append, List.append_assoc]
    rfl

/-- The gateways come one after another, each on a host and each with a name of its own. -/
theorem AutonomousSystem.gateways_of_forM {gs : List Gateway} {a a' : AutonomousSystem}
    (hstart : a.gateways.gateways = []) (h : (gs.forM addGateway).after a = .ok a') :
    a'.gateways.gateways = gs ∧ (gs.map (·.name)).Nodup ∧ ∀ g ∈ gs, g.host ∈ a.hosts.keys := by
  rw [Change.after_forM] at h
  have hall := foldlM_induction (fun before b ↦
    (∃ gateways, b = { a with gateways }) ∧ b.gateways.gateways = before ∧
      (before.map (·.name)).Nodup ∧ ∀ g ∈ before, g.host ∈ a.hosts.keys)
    ⟨⟨a.gateways, rfl⟩, hstart, .nil, fun g hg ↦ absurd hg List.not_mem_nil⟩ ?_ h
  · exact hall.2
  · rintro before g _ b' ⟨⟨gateways, rfl⟩, hgateways, hdistinct, hhosted⟩ hstep
    rw [after_addGateway, bind_eq_ok_iff] at hstep
    obtain ⟨⟨⟩, hhost, hstep⟩ := hstep
    obtain ⟨t, hinsert, rfl⟩ := map_eq_ok_iff.1 hstep
    obtain ⟨-, hroom, rfl⟩ := GatewayTable.insert_eq_ok_iff.1 hinsert
    refine ⟨⟨_, rfl⟩, congrArg (· ++ [g]) hgateways, ?_, fun g' hg' ↦ ?_⟩
    · rw [List.map_append, List.map_singleton, ← List.concat_eq_append]
      refine (List.nodup_concat ..).2 ⟨fun hmem ↦ hroom (.inr ?_), hdistinct⟩
      change g.name ∈ gateways.gateways.map (·.name)
      rwa [hgateways]
    · rcases List.mem_append.1 hg' with hg' | hg'
      · exact hhosted g' hg'
      · obtain rfl := List.mem_singleton.1 hg'
        exact checkHost_eq_ok_iff.1 hhost

namespace AsDecl

variable {d : AsDecl} {exchanges : Roster String Network} {loopbacks : Nat} {s : Site}

/-- A site with some networks, with no gateways so far and with hosts for a list of nodes. -/
structure Furnished (networks : Roster String Network) (hosts : List NodeDecl) (s : Site) :
    Prop where
  networks : s.system.networks = networks
  gateways : s.system.gateways.gateways = []
  hosts : List.Forall₂ NodeDecl.Attaches hosts s.system.hosts.entries

/-- **The insides of one AS.** An AS that was built has what its declaration says. -/
theorem fills_of_build (h : d.build exchanges loopbacks = .ok s) : d.Fills s.system := by
  have hdescribes := (d.build_yields exchanges loopbacks).good_of_ok h
  obtain ⟨attributes, networks, s₁, s₂, s₃, system, hnetworks, hservices, hhosts, hrouters,
    hgateways, rfl⟩ := passes_of_build h
  have hstart : Furnished networks []
      (start { asn := d.asn, attributes, networks } exchanges loopbacks) := ⟨rfl, rfl, .nil⟩
  have h₁ : Furnished networks [] s₁ := by
    refine foldlM_induction (fun _ ↦ Furnished networks []) hstart ?_ hservices
    rintro - n s s' hs hstep
    obtain ⟨interfaces, addressing, system, -, hadd, rfl⟩ := Site.addNode_eq_ok hstep
    obtain ⟨-, rfl⟩ := AutonomousSystem.addControlService_eq_ok hadd
    exact ⟨hs.networks, hs.gateways, hs.hosts⟩
  have h₂ : Furnished networks d.hosts s₂ := by
    refine foldlM_induction (fun before ↦ Furnished networks before) h₁ ?_ hhosts
    rintro before n s s' hs hstep
    obtain ⟨interfaces, addressing, system, hattach, hadd, rfl⟩ := Site.addNode_eq_ok hstep
    obtain ⟨hnew, rfl⟩ := AutonomousSystem.addHost_eq_ok hadd
    refine ⟨hs.networks, hs.gateways, ?_⟩
    rw [Roster.entries_insert_of_not_mem _ _ hnew]
    exact List.rel_append hs.hosts (.cons ⟨rfl, Addressing.length_mapM_attach hattach⟩ .nil)
  have h₃ : Furnished networks d.hosts s₃ := by
    refine foldlM_induction (fun _ ↦ Furnished networks d.hosts) h₂ ?_ hrouters
    rintro - r s s' hs hstep
    obtain ⟨interfaces, addressing, -, -, rfl⟩ := Site.addRouter_eq_ok hstep
    exact ⟨hs.networks, hs.gateways, hs.hosts⟩
  have hnone : (d.applySettings s₃.system).gateways.gateways = [] := h₃.gateways
  obtain ⟨hlist, hdistinct, hhosted⟩ := AutonomousSystem.gateways_of_forM hnone hgateways
  obtain ⟨gateways, rfl⟩ := AutonomousSystem.exists_gateways_of_forM hgateways
  have hsizes := packetSizes_of_addNetworks hnetworks
  refine ⟨?_, hdescribes.controlServices, h₃.hosts, hlist, hdistinct, hhosted, rfl⟩
  change s₃.system.networks.values.map (·.mtu) = _
  rw [h₃.networks]
  exact hsizes

end AsDecl

/-! ## The whole network -/

namespace Config

variable {c : Config} {e : Emulation}

theorem exists_fills_of_build (h : c.build = .ok e) {n : Asn} {a : AutonomousSystem}
    (ha : e.as? n = some a) : ∃ d ∈ c.ases, d.asn = n ∧ d.Describes a ∧ d.Fills a := by
  obtain ⟨d, hd, hasn, loopbacks, s, hbuild, rfl⟩ := exists_decl_of_as? h ha
  have hdescribes := (d.build_yields e.exchangesByName loopbacks).good_of_ok hbuild
  exact ⟨d, hd, hasn, hdescribes, AsDecl.fills_of_build hbuild⟩

end Config

end Interdomain
