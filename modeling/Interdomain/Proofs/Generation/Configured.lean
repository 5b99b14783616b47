import Interdomain.Proofs.Building.Contents
import Interdomain.Proofs.Generation.Linked

/-!
# The configured network

When the links are resolved, every AS is as it was declared, inside and outside, and it is settled
with the least of the declared packet sizes. Rendering reads this network and no other.
-/

namespace Interdomain

theorem AsDecl.Fills.of_outline_eq {d : AsDecl} {a a' : AutonomousSystem} (h : d.Fills a)
    (ha : a'.outline = a.outline) : d.Fills a' := by
  have hnetworks : a'.networks = a.networks := congrArg (·.networks) ha
  have hservices : a'.controlServices = a.controlServices := congrArg (·.controlServices) ha
  have hhosts : a'.hosts = a.hosts := congrArg (·.hosts) ha
  have hgateways : a'.gateways = a.gateways := congrArg (·.gateways) ha
  have hpolicies : a'.policies = a.policies := congrArg (·.policies) ha
  exact ⟨hnetworks ▸ h.packetSizes, hservices ▸ h.controlServices, hhosts ▸ h.hosts,
    hgateways ▸ h.gateways, h.gatewayNames, hhosts ▸ h.hosted, hpolicies.trans h.policies⟩

/-- An AS as it was declared, settled with the least packet size of its networks. -/
structure AsDecl.Configures (d : AsDecl) (a : AutonomousSystem) : Prop where
  outlines : d.Outlines a
  fills : d.Fills a
  settled : ∃ mtu keys, a.mtu = some mtu ∧ a.keys = some keys ∧
    IsLeast {size | size ∈ d.networks.map (·.packetSize)} mtu

/-- The ASes of a network are the declared ones, and all of them are configured. -/
structure Config.Configures (c : Config) (e : Emulation) : Prop where
  declared : ∀ d ∈ c.ases, ∃ a, e.as? d.asn = some a ∧ d.Configures a
  only : ∀ n a, e.as? n = some a → ∃ d ∈ c.ases, d.asn = n ∧ d.Configures a

namespace Config

variable {σ : Type} [WordSource σ] {c : Config} {built settled e : Emulation} {source source' : σ}
  {options : ResolverOptions} {links : LinkRegistry} {rs : List ResolvedLink}

theorem exists_configures (hbuild : c.build = .ok built)
    (hsettled : built.Settled built.ases.keys source source' settled)
    (hbare : e.bare = settled.bare) {n : Asn} {a : AutonomousSystem} (ha : e.as? n = some a) :
    ∃ d ∈ c.ases, d.asn = n ∧ d.Configures a := by
  have houtline := (Emulation.map_outline_as? hsettled.unsettled hbare n).symm
  obtain ⟨a₀, ha₀, heq⟩ := Emulation.exists_as?_of_map_eq houtline ha
  obtain ⟨d, hd, hasn, hdescribes, hfills⟩ := exists_fills_of_build hbuild ha₀
  -- Resolution leaves the settings as the first part of the phase has made them.
  obtain ⟨_, mtu, hfound, -, hmtu, hafter⟩ :=
    hsettled.settled n (built.ases.mem_keys_iff.2 ⟨a₀, ha₀⟩)
  obtain rfl := Option.some.inj (ha₀.symm.trans hfound)
  have hbare' := congrArg (·.as? n) hbare
  simp only [Emulation.as?_bare, ha, hafter, Option.map_some, Option.some_inj] at hbare'
  refine ⟨d, hd, hasn, hdescribes.outlines heq.symm, hfills.of_outline_eq heq.symm, _, _,
    congrArg AutonomousSystem.mtu hbare', congrArg AutonomousSystem.keys hbare', ?_⟩
  rw [← hfills.packetSizes]
  exact AutonomousSystem.leastMtu?_eq_some_iff.1 hmtu

/-- **The configured network.** Its ASes are the declared ones, each with its settings. -/
theorem configures_of_resolve (hbuild : c.build = .ok built)
    (hsettled : built.Settled built.ases.keys source source' settled)
    (hresolve : (Resolution.resolve options links).on settled = (.ok rs, e)) : c.Configures e := by
  obtain ⟨p, -, hcommitted⟩ := Resolution.plan_of_resolve hresolve
  refine ⟨fun d hd ↦ ?_, fun n a ↦ exists_configures hbuild hsettled hcommitted.bare⟩
  have hbuilt := c.build_yields.good_of_ok hbuild
  obtain ⟨a₀, ha₀, -⟩ := hbuilt.declared d hd
  have houtline := Emulation.map_outline_as? hsettled.unsettled hcommitted.bare d.asn
  obtain ⟨a, ha, -⟩ := Emulation.exists_as?_of_map_eq houtline ha₀
  obtain ⟨d', hd', hasn, hconfigures⟩ := exists_configures hbuild hsettled hcommitted.bare ha
  -- No two ASes are declared with one number.
  obtain rfl := List.inj_on_of_nodup_map hbuilt.distinct hd' hd hasn
  exact ⟨a, ha, hconfigures⟩

end Config

theorem exists_site_of_generate {σ : Type} [WordSource σ] {c : Config} {options : ResolverOptions}
    {source : σ} {g : Generation} (h : generate c options source = .ok g) {d : AsDecl}
    (hd : d ∈ c.ases) {a : AutonomousSystem} (ha : g.emulation.as? d.asn = some a) :
    ∃ exchanges loopbacks s, d.build exchanges loopbacks = .ok s ∧
      s.system.outline = a.outline := by
  obtain ⟨built, settled, hbuild, -, ⟨_, hsettled⟩, hresolve, -⟩ := phases_of_generate h
  obtain ⟨p, -, hcommitted⟩ := Resolution.plan_of_resolve hresolve
  have houtline := Emulation.map_outline_as? hsettled.unsettled hcommitted.bare d.asn
  obtain ⟨a₀, ha₀, heq⟩ := Emulation.exists_as?_of_map_eq houtline.symm ha
  obtain ⟨d', hd', hasn, loopbacks, s, hsite, rfl⟩ := Config.exists_decl_of_as? hbuild ha₀
  -- No two ASes are declared with one number.
  obtain rfl := List.inj_on_of_nodup_map (c.build_yields.good_of_ok hbuild).distinct hd' hd hasn
  exact ⟨_, loopbacks, s, hsite, heq⟩

end Interdomain
