import Interdomain.Proofs.Generation.Configured
import Interdomain.Proofs.Generation.Neighbours

/-!
# Why rendering fails

Of all that rendering asks for, configuration has settled everything but one: the topology of an AS
needs the address of the host of each gateway, and a host that joins no network has none. So this is
the one cause of a fault, as far as the policies can be written. The ASes are rendered in the order
of their numbers and each of them domain by domain, so the fault is that of the first such AS.
-/

namespace Interdomain

/-! ## Gateways on hosts -/

namespace AsDecl

/-- A gateway is on a host that joins no network. -/
def Detaches (d : AsDecl) (g : Gateway) : Prop := ∃ h ∈ d.hosts, h.name = g.host ∧ h.networks = []

instance (d : AsDecl) (g : Gateway) : Decidable (d.Detaches g) :=
  inferInstanceAs (Decidable (∃ h ∈ d.hosts, _))

/-- The first gateway that is on a host without networks. -/
def detached? (d : AsDecl) : Option Gateway := d.gateways.find? (d.Detaches ·)

variable {d : AsDecl} {a : AutonomousSystem} {g : Gateway} {isd : Isd}

theorem exists_detached?_iff : (∃ g, d.detached? = some g) ↔ ∃ g ∈ d.gateways, d.Detaches g := by
  rw [← Option.isSome_iff_exists, detached?, List.find?_isSome]
  simp only [decide_eq_true_eq]

theorem Fills.detaches_iff (h : d.Fills a) {node : Node} (hnode : a.hosts.get? g.host = some node) :
    d.Detaches g ↔ node.interfaces = [] := by
  have hentry := a.hosts.get?_eq_some_iff.1 hnode
  constructor
  · rintro ⟨n, hn, hname, hnone⟩
    obtain ⟨⟨_, node'⟩, hentry', hattaches⟩ := exists_of_mem_of_forall₂ h.hosts hn
    obtain rfl := hattaches.name.trans hname
    -- The AS has one node of this name.
    obtain rfl := Option.some.inj (hnode.symm.trans (a.hosts.get?_eq_some_iff.2 hentry'))
    rw [← List.length_eq_zero_iff, hattaches.interfaces, hnone, List.length_nil]
  · intro hnone
    obtain ⟨n, hn, hattaches⟩ := exists_of_mem_of_forall₂ h.hosts.flip hentry
    refine ⟨n, hn, hattaches.name.symm, ?_⟩
    rw [← List.length_eq_zero_iff, ← hattaches.interfaces, List.length_eq_zero_iff]
    exact hnone

/-- A gateway has an entry in the topology unless its host joins no network. -/
theorem Configures.gatewayEntry_cases (h : d.Configures a) (hg : g ∈ d.gateways) :
    (d.Detaches g ∧ Topology.gatewayEntry a g = .error (.unknownHost d.asn g.host)) ∨
      (¬d.Detaches g ∧ ∃ entry, Topology.gatewayEntry a g = .ok entry) := by
  obtain ⟨node, hnode⟩ :=
    Option.isSome_iff_exists.1 ((a.hosts.get?_isSome_iff g.host).2 (h.fills.hosted g hg))
  rw [h.fills.detaches_iff hnode, Topology.gatewayEntry, hnode, Option.bind_some, Node.address?,
    h.outlines.asn]
  cases node.interfaces with
  | nil => exact .inl ⟨rfl, rfl⟩
  | cons i rest => exact .inr ⟨List.cons_ne_nil i rest, _, rfl⟩

/-! ## Topologies and files -/

/-- The topology of a configured AS fails at its first gateway on a host without networks. -/
theorem Configures.topology_eq_error_iff (h : d.Configures a) {f : Fault} :
    a.topology isd = .error f ↔ ∃ g, d.detached? = some g ∧ f = .unknownHost d.asn g.host := by
  obtain ⟨mtu, keys, hmtu, -⟩ := h.settled
  have htopology : a.topology isd = .error f ↔
      a.gateways.gateways.mapM (Topology.gatewayEntry a) = .error f := by
    rw [AutonomousSystem.topology, AutonomousSystem.settled_eq_ok_iff.2 hmtu]
    cases a.gateways.gateways.mapM (Topology.gatewayEntry a) with
    | error f' =>
      exact ⟨fun hf ↦ congrArg Except.error (Except.error.inj hf),
        fun hf ↦ congrArg Except.error (Except.error.inj hf)⟩
    | ok entries => exact iff_of_false nofun nofun
  rw [htopology, h.fills.gateways]
  exact mapM_eq_error_iff_find? fun g hg ↦ h.gatewayEntry_cases hg

def PoliciesWritable (d : AsDecl) : Prop :=
  ∀ entry ∈ d.policies.toList, (Yaml.text? entry.2).isSome = true

theorem Configures.exists_policyFiles (h : d.Configures a) (hpolicies : d.PoliciesWritable) :
    ∃ files, a.policyFiles = .ok files := by
  rw [AutonomousSystem.policyFiles, h.fills.policies]
  refine exists_mapM_eq_ok fun entry hentry ↦ ?_
  obtain ⟨text, htext⟩ := Option.isSome_iff_exists.1 (hpolicies entry hentry)
  exact ⟨_, by rw [htext]⟩

/-- The files of a configured AS with writable policies fail exactly as its topology does. -/
theorem Configures.renderMember_eq_error_iff (h : d.Configures a) (hpolicies : d.PoliciesWritable)
    {links : List ResolvedLink} {f : GenerationFault} :
    renderMember links (a, isd) = .error f ↔
      ∃ g, d.detached? = some g ∧
        f = .phase (.topology ⟨isd, d.asn⟩) (.part (.unknownHost d.asn g.host)) := by
  obtain ⟨mtu, keys, -, hkeys, -⟩ := h.settled
  obtain ⟨policies, hpolicies⟩ := h.exists_policyFiles hpolicies
  have hfiles : renderMember links (a, isd) = .error f ↔
      ∃ f', a.topology isd = .error f' ∧ .phase (.topology ⟨isd, a.asn⟩) (.part f') = f := by
    rw [← mapError_eq_error_iff, renderMember, AutonomousSystem.files, hpolicies,
      AutonomousSystem.settled_eq_ok_iff.2 hkeys]
    dsimp only
    cases a.topology isd with
    | error f' =>
      exact ⟨fun hf ↦ congrArg Except.error (Except.error.inj hf),
        fun hf ↦ congrArg Except.error (Except.error.inj hf)⟩
    | ok t =>
      have hne : ∀ files : List Artifact, Except.ok files ≠ Except.error f := by simp
      exact iff_of_false (hne _) (by simp [Except.mapError])
  rw [hfiles]
  constructor
  · rintro ⟨f', hf', rfl⟩
    obtain ⟨g, hg, rfl⟩ := h.topology_eq_error_iff.1 hf'
    exact ⟨g, hg, by rw [h.outlines.asn]⟩
  · rintro ⟨g, hg, rfl⟩
    exact ⟨_, h.topology_eq_error_iff.2 ⟨g, hg, rfl⟩, by rw [h.outlines.asn]⟩

theorem Configures.exists_renderMember_eq_error (h : d.Configures a)
    (hpolicies : d.PoliciesWritable) (hdetaches : ∃ g ∈ d.gateways, d.Detaches g)
    (links : List ResolvedLink) (isd : Isd) : ∃ f, renderMember links (a, isd) = .error f := by
  obtain ⟨g, hg⟩ := exists_detached?_iff.2 hdetaches
  exact ⟨_, (h.renderMember_eq_error_iff hpolicies).2 ⟨g, hg, rfl⟩⟩

end AsDecl

/-! ## The order of rendering -/

namespace Config

variable {c : Config} {e : Emulation}

theorem Configures.asn_eq (h : c.Configures e) {n : Asn} {a : AutonomousSystem}
    (ha : e.as? n = some a) : a.asn = n := by
  obtain ⟨d, -, hasn, hconfigures⟩ := h.only n a ha
  exact hconfigures.outlines.asn.trans hasn

/-- The ASes are rendered in the order of their numbers, and the domains of each in their order. -/
theorem Configures.pairwise_memberships (h : c.Configures e) :
    e.memberships.Pairwise fun x y ↦ x.1.asn < y.1.asn ∨ (x.1.asn = y.1.asn ∧ x.2 < y.2) := by
  rw [Emulation.memberships, List.pairwise_flatMap]
  constructor
  · intro a _
    exact List.pairwise_map.2 <|
      a.attributes.pairwise_keys.imp fun hlt ↦ .inr ⟨rfl, Std.compare_eq_lt.1 hlt⟩
  · rw [SortedMap.values, List.pairwise_map]
    have hnumbers := List.pairwise_map.1 e.pairwise_numbers
    refine hnumbers.imp_of_mem fun {x y} hx hy hlt ↦ ?_
    have hx := h.asn_eq ((SortedMap.mem_toList_iff _).1 hx)
    have hy := h.asn_eq ((SortedMap.mem_toList_iff _).1 hy)
    rintro _ hmem _ hmem'
    obtain ⟨isd, -, rfl⟩ := List.mem_map.1 hmem
    obtain ⟨isd', -, rfl⟩ := List.mem_map.1 hmem'
    exact .inl (by rwa [hx, hy])

theorem Configures.nodup_memberships (h : c.Configures e) :
    (e.memberships.map fun x ↦ IsdAsn.mk x.2 x.1.asn).Nodup := by
  refine List.pairwise_map.2 (h.pairwise_memberships.imp fun hlt heq ↦ ?_)
  obtain ⟨hisd, hasn⟩ := IsdAsn.mk.inj heq
  rcases hlt with hlt | ⟨-, hlt⟩
  · exact UInt32.lt_irrefl _ (hasn ▸ hlt)
  · exact UInt16.lt_irrefl _ (hisd ▸ hlt)

def PoliciesWritable (c : Config) : Prop := ∀ d ∈ c.ases, d.PoliciesWritable

theorem Configures.exists_of_mem_memberships (h : c.Configures e) {x : AutonomousSystem × Isd}
    (hx : x ∈ e.memberships) :
    ∃ d ∈ c.ases, d.Configures x.1 ∧ ∃ m ∈ d.isds, m.isd = x.2 := by
  obtain ⟨⟨n, ha⟩, hisd⟩ := Emulation.mem_memberships_iff.1 hx
  obtain ⟨d, hd, -, hconfigures⟩ := h.only n x.1 ha
  obtain ⟨m, hm, hm'⟩ := List.mem_map.1 ((hconfigures.outlines.isds x.2).1 hisd)
  exact ⟨d, hd, hconfigures, m, hm, hm'⟩

theorem Configures.exists_membership (h : c.Configures e) {d : AsDecl} (hd : d ∈ c.ases)
    {m : MembershipDecl} (hm : m ∈ d.isds) :
    ∃ a, (a, m.isd) ∈ e.memberships ∧ d.Configures a := by
  obtain ⟨a, ha, hconfigures⟩ := h.declared d hd
  exact ⟨a, Emulation.mem_memberships_iff.2
    ⟨⟨d.asn, ha⟩, (hconfigures.outlines.isds m.isd).2 (List.mem_map_of_mem hm)⟩, hconfigures⟩

/-- An AS that cannot be rendered: the first one, in its first domain, by its first gateway on a
host without networks. -/
structure Obstructs (c : Config) (d : AsDecl) (m : MembershipDecl) (g : Gateway) : Prop where
  declared : d ∈ c.ases
  member : m ∈ d.isds
  gateway : d.detached? = some g
  firstAs : ∀ d' ∈ c.ases, (∃ g' ∈ d'.gateways, d'.Detaches g') → d.asn ≤ d'.asn
  firstDomain : ∀ m' ∈ d.isds, m.isd ≤ m'.isd

variable {links : LinkRegistry} {resolved : List ResolvedLink} {f : GenerationFault}

theorem render_eq_error_iff :
    render e links resolved = .error f ↔
      ∃ before x after, e.memberships = before ++ x :: after ∧
        (∀ y ∈ before, ∃ files, renderMember resolved y = .ok files) ∧
        renderMember resolved x = .error f := by
  rw [render, bind_eq_error_iff, or_iff_left (fun ⟨_, _, h⟩ ↦ nomatch h), mapM_eq_error_iff]

/-- Rendering that fails fails for the first obstructed AS. -/
theorem Configures.obstructs_of_render (h : c.Configures e)
    (hmember : ∀ d ∈ c.ases, d.isds ≠ []) (hpolicies : c.PoliciesWritable)
    (hrender : render e links resolved = .error f) :
    ∃ d m g, c.Obstructs d m g ∧
      f = .phase (.topology ⟨m.isd, d.asn⟩) (.part (.unknownHost d.asn g.host)) := by
  obtain ⟨before, x, after, hsplit, hbefore, hx⟩ := render_eq_error_iff.1 hrender
  have hxmem : x ∈ e.memberships := hsplit ▸ List.mem_append_right _ List.mem_cons_self
  obtain ⟨d, hd, hconfigures, m, hm, hisd⟩ := h.exists_of_mem_memberships hxmem
  obtain ⟨g, hg, rfl⟩ := (hconfigures.renderMember_eq_error_iff (hpolicies d hd)).1 hx
  -- What cannot be rendered either is not among those before.
  have hfirst : ∀ d' ∈ c.ases, (∃ g' ∈ d'.gateways, d'.Detaches g') → ∀ m' ∈ d'.isds,
      d.asn < d'.asn ∨ (d.asn = d'.asn ∧ x.2 ≤ m'.isd) := by
    intro d' hd' hdetaches m' hm'
    obtain ⟨a', hmember', hconfigures'⟩ := h.exists_membership hd' hm'
    obtain ⟨f, hfails⟩ :=
      hconfigures'.exists_renderMember_eq_error (hpolicies d' hd') hdetaches resolved m'.isd
    have hordered := h.pairwise_memberships
    rw [hsplit, List.pairwise_append, List.pairwise_cons] at hordered
    rw [hsplit, List.mem_append, List.mem_cons] at hmember'
    rw [← hconfigures.outlines.asn, ← hconfigures'.outlines.asn]
    rcases hmember' with hmem | rfl | hmem
    · obtain ⟨files, hfiles⟩ := hbefore _ hmem
      exact absurd (hfiles.symm.trans hfails) (by simp)
    · exact .inr ⟨rfl, UInt16.le_refl _⟩
    · exact (hordered.2.1.1 _ hmem).imp_right fun hlt ↦ ⟨hlt.1, UInt16.le_of_lt hlt.2⟩
  refine ⟨d, m, g, ⟨hd, hm, hg, fun d' hd' hdetaches ↦ ?_, fun m' hm' ↦ ?_⟩, by rw [hisd]⟩
  · obtain ⟨m', hm'⟩ := List.exists_mem_of_ne_nil _ (hmember d' hd')
    rcases hfirst d' hd' hdetaches m' hm' with hlt | ⟨heq, -⟩
    · exact UInt32.le_of_lt hlt
    · exact heq ▸ UInt32.le_refl _
  · rw [hisd]
    rcases hfirst d hd (AsDecl.exists_detached?_iff.1 ⟨g, hg⟩) m' hm' with hlt | ⟨-, hle⟩
    · exact absurd hlt (UInt32.lt_irrefl _)
    · exact hle

/-- An AS with a gateway on a host without networks obstructs rendering. -/
theorem Configures.exists_render_eq_error (h : c.Configures e)
    (hmember : ∀ d ∈ c.ases, d.isds ≠ []) (hpolicies : c.PoliciesWritable) {d : AsDecl}
    (hd : d ∈ c.ases) (hdetaches : ∃ g ∈ d.gateways, d.Detaches g) :
    ∃ f, render e links resolved = .error f := by
  obtain ⟨m, hm⟩ := List.exists_mem_of_ne_nil _ (hmember d hd)
  obtain ⟨a, hmem, hconfigures⟩ := h.exists_membership hd hm
  cases hrender : render e links resolved with
  | error f => exact ⟨f, rfl⟩
  | ok artifacts =>
    obtain ⟨files, hfiles, -⟩ := bind_eq_ok_iff.1 hrender
    obtain ⟨fs, -, hok⟩ := exists_of_mem_of_forall₂ (mapM_eq_ok_iff.1 hfiles) hmem
    obtain ⟨f, hfails⟩ :=
      hconfigures.exists_renderMember_eq_error (hpolicies d hd) hdetaches resolved m.isd
    exact absurd (hok.symm.trans hfails) (by simp)

/-- **Why rendering fails.** Once the network is configured, whatever links it has, rendering fails
exactly if some AS has a gateway on a host that joins no network. The fault then tells the AS of the
smallest number among these, in its first domain, and the host of its first such gateway; it never
tells that an AS is not configured. -/
theorem render_fails_iff {σ : Type} [WordSource σ] {built : Emulation} {options : ResolverOptions}
    {source : σ} (hvalid : c.validate = .ok ()) (hbuild : c.build = .ok built)
    (hconfigure : (built.configure links options source).result = .ok resolved)
    (hpolicies : c.PoliciesWritable) :
    let rendered := render (built.configure links options source).emulation links resolved
    ((∃ f, rendered = .error f) ↔ ∃ d ∈ c.ases, ∃ g ∈ d.gateways, d.Detaches g) ∧
      ∀ f, rendered = .error f →
        (∃ d m g, c.Obstructs d m g ∧
          f = .phase (.topology ⟨m.isd, d.asn⟩) (.part (.unknownHost d.asn g.host))) ∧
        ∀ p n, f ≠ .phase p (.part (.notConfigured n)) := by
  obtain ⟨settled, ⟨_, hsettled⟩, hresolve⟩ := Emulation.exists_settled_of_configure hconfigure
  have hconfigures := configures_of_resolve hbuild hsettled hresolve
  have hmember := member_of_validate hvalid
  refine ⟨⟨?_, ?_⟩, fun f hf ↦ ?_⟩
  · rintro ⟨f, hf⟩
    obtain ⟨d, m, g, hobstructs, -⟩ := hconfigures.obstructs_of_render hmember hpolicies hf
    exact ⟨d, hobstructs.declared, AsDecl.exists_detached?_iff.1 ⟨g, hobstructs.gateway⟩⟩
  · rintro ⟨d, hd, hdetaches⟩
    exact hconfigures.exists_render_eq_error hmember hpolicies hd hdetaches
  · obtain ⟨d, m, g, hobstructs, rfl⟩ := hconfigures.obstructs_of_render hmember hpolicies hf
    exact ⟨⟨d, m, g, hobstructs, rfl⟩, fun p n h ↦ nomatch h⟩

/-! ### Hosts without networks -/

/-- An AS of some domains with a gateway on a host that joins some networks. -/
def gatewaySite (asn : Asn) (isds : List Isd) (networks : List String) : AsDecl where
  asn
  isds := isds.map fun isd ↦ { isd }
  networks := [{ name := "net0" }]
  hosts := [{ name := "h1", networks }]
  gateways := [{ name := "sig", host := "h1", localNet := .ofOctets 172 16 0 0 24 }]

/-- Three ASes with gateways; only the host in the last one joins a network. -/
def idleHosts : Config where
  isds := [1, 2]
  ases := [gatewaySite 5 [1] [], gatewaySite 3 [2, 1] [], gatewaySite 2 [1] ["net0"]]

theorem exists_configure_idleHosts :
    ∃ built, idleHosts.build = .ok built ∧
      (built.configure .empty {} (⟨0, 1⟩ : Stepper)).result.toOption = some [] :=
  exists_eq_ok_of_map_toOption (by decide +kernel)

theorem fault_of_obstructs_idleHosts {d : AsDecl} {m : MembershipDecl} {g : Gateway}
    (h : idleHosts.Obstructs d m g) : d.asn = 3 ∧ m.isd = 1 ∧ g.host = "h1" := by
  have hle : d.asn ≤ 3 := h.firstAs (gatewaySite 3 [2, 1] []) (by simp [idleHosts]) (by decide)
  have hases := h.declared
  simp only [idleHosts, List.mem_cons, List.not_mem_nil, or_false] at hases
  rcases hases with rfl | rfl | rfl
  · exact absurd hle (by decide)
  · have hone : m.isd ≤ 1 := h.firstDomain { isd := 1 } (by simp [gatewaySite])
    have hdomains : ∀ m ∈ (gatewaySite 3 [2, 1] []).isds, m.isd ≤ 1 → m.isd = 1 := by decide
    have hhost : (gatewaySite 3 [2, 1] []).detached?.map (·.host) = some "h1" := by decide
    rw [h.gateway] at hhost
    exact ⟨rfl, hdomains m h.member hone, Option.some.inj hhost⟩
  · have hnone : (gatewaySite 2 [1] ["net0"]).detached?.isNone = true := by decide
    rw [h.gateway] at hnone
    exact absurd hnone (by simp)

/-- The fault tells of the second AS, whose number is smaller, in the smaller of its domains. -/
theorem idleHosts_render_fails :
    idleHosts.validate = .ok () ∧
      ∃ built, idleHosts.build = .ok built ∧
        (built.configure .empty {} (⟨0, 1⟩ : Stepper)).result = .ok [] ∧
        render (built.configure .empty {} (⟨0, 1⟩ : Stepper)).emulation .empty []
          = .error (.phase (.topology ⟨1, 3⟩) (.part (.unknownHost 3 "h1"))) := by
  have hvalid : idleHosts.validate = .ok () := by decide +kernel
  have hpolicies : idleHosts.PoliciesWritable := by
    have hnone : ∀ d ∈ idleHosts.ases, d.policies.toList.length = 0 := by decide
    intro d hd entry hentry
    rw [List.length_eq_zero_iff.1 (hnone d hd)] at hentry
    exact absurd hentry List.not_mem_nil
  obtain ⟨built, hbuild, hresult⟩ := exists_configure_idleHosts
  have hconfigure := toOption_eq_some_iff.1 hresult
  obtain ⟨hfails, hfault⟩ := render_fails_iff hvalid hbuild hconfigure hpolicies
  obtain ⟨f, hf⟩ := hfails.2 ⟨gatewaySite 5 [1] [], by simp [idleHosts], by decide⟩
  obtain ⟨⟨d, m, g, hobstructs, rfl⟩, -⟩ := hfault f hf
  obtain ⟨hasn, hisd, hhost⟩ := fault_of_obstructs_idleHosts hobstructs
  rw [hasn, hisd, hhost] at hf
  exact ⟨hvalid, built, hbuild, hconfigure, hf⟩

end Config

end Interdomain
