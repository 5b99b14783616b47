import Interdomain.Proofs.Generation.Interfaces
import Interdomain.Proofs.Validation

/-!
# Neighbours in topologies

Every interface of a topology names the AS at the far end of its link, by domain and number. The
number is always that of a declared AS. The domain is the one that the link was declared with, and
nothing on the way asks whether the AS is a member of it, so the neighbours have topologies of their
own exactly when the links name their ends by memberships.
-/

namespace Interdomain

open Resolution (endsOf)

/-- A configuration declares an AS as a member of a domain. -/
def Config.HasMember (c : Config) (ia : IsdAsn) : Prop :=
  ∃ d ∈ c.ases, d.asn = ia.asn ∧ ia.isd ∈ d.isds.map (·.isd)

instance (c : Config) (ia : IsdAsn) : Decidable (c.HasMember ia) :=
  inferInstanceAs (Decidable (∃ d ∈ c.ases, _))

namespace Generation

/-- An interface in one of the topologies names an AS. -/
def Names (g : Generation) (ia : IsdAsn) : Prop :=
  ∃ a isd t name entry id d, (a, isd) ∈ g.emulation.memberships ∧ a.topology isd = .ok t ∧
    t.routers.get? name = some entry ∧ entry.interfaces.get? id = some d ∧ d.isdAs = ia

/-- An AS is a member of a domain, and its topology there is among the files. -/
def HasTopology (g : Generation) (ia : IsdAsn) : Prop :=
  ∃ a t, g.emulation.as? ia.asn = some a ∧ ia.isd ∈ a.isds ∧ a.topology ia.isd = .ok t ∧
    ⟨topologyPath ia, t.text ++ "\n"⟩ ∈ g.artifacts

variable {c : Config} {g : Generation} {ia : IsdAsn}

theorem Linked.exists_side_of_names (h : g.Linked c) (hia : g.Names ia) :
    ∃ l ∈ g.resolved, ∃ s ∈ l.sides, ia = s.2.ia := by
  obtain ⟨a, isd, t, name, entry, id, d, hmember, ht, hentry, hd, rfl⟩ := hia
  obtain ⟨home, -, _, -, ha, -⟩ := h.mem_memberships_iff.1 hmember
  obtain ⟨r, hr, rfl⟩ := (Linked.get?_routers ha ht).1 hentry
  have hat : g.emulation.descriptorAt ((home.asn, name), id) = some d := by
    rw [Emulation.descriptorAt, hr, Option.bind_some]
    exact hd
  obtain ⟨l, hl, s, hs, -, hisdAs⟩ := (h.descriptors _ d.isdAs).1 ⟨d, hat, rfl⟩
  exact ⟨l, hl, s, hs, hisdAs⟩

/-- An AS with a membership has a topology that names the far ends of its links. -/
theorem Linked.names_of_side (h : g.Linked c)
    (hrender : render g.emulation g.links g.resolved = .ok g.artifacts)
    (hmember : ∀ d ∈ c.ases, d.isds ≠ []) {l : ResolvedLink} (hl : l ∈ g.resolved)
    {s : ResolvedEnd × ResolvedEnd} (hs : s ∈ l.sides) : g.Names s.2.ia := by
  obtain ⟨r, hr⟩ := h.found s.1 (Resolution.mem_endsOf_iff.2 ⟨l, hl, s, hs, rfl⟩)
  obtain ⟨a, ha, -⟩ := Option.bind_eq_some_iff.1 hr
  obtain ⟨d, hd, hasn, -⟩ := h.only _ a ha
  obtain ⟨m, hm⟩ := List.exists_mem_of_ne_nil _ (hmember d hd)
  rw [← hasn] at ha
  have hmembership := h.mem_memberships_iff.2 ⟨d, hd, m, hm, ha, rfl⟩
  obtain ⟨t, ht, -⟩ := exists_topology_of_render hrender hmembership
  have hport : (d.asn, s.1.router) = s.1.port := by rw [hasn]; rfl
  have hentry := (Linked.get?_routers ha ht).2 ⟨r, hport ▸ hr, rfl⟩
  obtain ⟨x, hx, hia⟩ := (h.descriptors _ s.2.ia).2 ⟨l, hl, s, hs, rfl, rfl⟩
  rw [Emulation.descriptorAt, hr, Option.bind_some] at hx
  exact ⟨a, m.isd, t, s.1.router, _, s.1.id, x, hmembership, ht, hentry, hx, hia⟩

theorem Linked.names_iff (h : g.Linked c)
    (hrender : render g.emulation g.links g.resolved = .ok g.artifacts)
    (hmember : ∀ d ∈ c.ases, d.isds ≠ []) :
    g.Names ia ↔ ∃ x ∈ c.links, ia = x.a ∨ ia = x.b := by
  constructor
  · intro hia
    obtain ⟨l, hl, s, hs, rfl⟩ := h.exists_side_of_names hia
    obtain ⟨x, hx, ha, hb⟩ := h.origin l hl
    rcases List.mem_cons.1 hs with rfl | hs
    · exact ⟨x, hx, .inr hb⟩
    · obtain rfl := List.mem_singleton.1 hs
      exact ⟨x, hx, .inl ha⟩
  · rintro ⟨x, hx, hia⟩
    obtain ⟨l, hl, ha, hb⟩ := h.repeated x hx
    rcases hia with rfl | rfl
    · rw [← ha]
      exact h.names_of_side hrender hmember hl (List.mem_cons_of_mem _ List.mem_cons_self)
    · rw [← hb]
      exact h.names_of_side hrender hmember hl List.mem_cons_self

theorem Linked.hasMember_iff (h : g.Linked c) :
    c.HasMember ia ↔ ∃ a, g.emulation.as? ia.asn = some a ∧ ia.isd ∈ a.isds := by
  constructor
  · rintro ⟨d, hd, hasn, hisd⟩
    obtain ⟨a, ha, houtlines⟩ := h.declared d hd
    exact ⟨a, hasn ▸ ha, (houtlines.isds _).2 hisd⟩
  · rintro ⟨a, ha, hisd⟩
    obtain ⟨d, hd, hasn, houtlines⟩ := h.only _ a ha
    exact ⟨d, hd, hasn, (houtlines.isds _).1 hisd⟩

theorem Linked.hasTopology_iff (h : g.Linked c)
    (hrender : render g.emulation g.links g.resolved = .ok g.artifacts) :
    g.HasTopology ia ↔ c.HasMember ia := by
  rw [h.hasMember_iff]
  constructor
  · rintro ⟨a, t, ha, hisd, -, -⟩
    exact ⟨a, ha, hisd⟩
  · rintro ⟨a, ha, hisd⟩
    obtain ⟨hmember, hasn⟩ := h.mem_memberships_iff_as?.2 ⟨ha, hisd⟩
    obtain ⟨t, ht, hfile⟩ := exists_topology_of_render hrender hmember
    rw [hasn] at hfile
    exact ⟨a, t, ha, hisd, ht, hfile⟩

end Generation

theorem member_of_validate {c : Config} (hvalid : c.validate = .ok ()) :
    ∀ d ∈ c.ases, d.isds ≠ [] := by
  obtain ⟨-, -, hases, -⟩ := Config.validate_eq_ok_iff.1 hvalid
  exact fun d hd ↦ ((Config.checkAses_eq_ok_iff.1 hases).2 d hd).member

/-- **The neighbours of a topology.** Each has the number of a declared AS. All of them have
topologies of their own exactly when both ends of every link are declared memberships. -/
theorem neighbours_exist_iff {σ : Type} [WordSource σ] {c : Config} {options : ResolverOptions}
    {source : σ} {g : Generation} (hvalid : c.validate = .ok ())
    (h : generate c options source = .ok g) :
    (∀ ia, g.Names ia → ∃ d ∈ c.ases, d.asn = ia.asn) ∧
      ((∀ ia, g.Names ia → g.HasTopology ia) ↔
        ∀ x ∈ c.links, c.HasMember x.a ∧ c.HasMember x.b) := by
  have hlinked := Generation.linked_of_generate h
  obtain ⟨-, -, -, -, -, -, hrender⟩ := phases_of_generate h
  have hmember := member_of_validate hvalid
  constructor
  · intro ia hia
    obtain ⟨l, hl, s, hs, rfl⟩ := hlinked.exists_side_of_names hia
    have hend : s.2 ∈ endsOf g.resolved :=
      Resolution.mem_endsOf_iff.2 ⟨l, hl, s.swap, ResolvedLink.swap_mem_sides hs, rfl⟩
    obtain ⟨r, hr⟩ := hlinked.found s.2 hend
    obtain ⟨a, ha, -⟩ := Option.bind_eq_some_iff.1 hr
    obtain ⟨d, hd, hasn, -⟩ := hlinked.only _ a ha
    exact ⟨d, hd, hasn⟩
  · constructor
    · intro hall x hx
      have hmemberOf : ∀ ia, ia = x.a ∨ ia = x.b → c.HasMember ia := by
        intro ia hia
        have hnames := (hlinked.names_iff hrender hmember).2 ⟨x, hx, hia⟩
        exact (hlinked.hasTopology_iff hrender).1 (hall ia hnames)
      exact ⟨hmemberOf x.a (.inl rfl), hmemberOf x.b (.inr rfl)⟩
    · intro hlinks ia hia
      obtain ⟨x, hx, rfl | rfl⟩ := (hlinked.names_iff hrender hmember).1 hia
      · exact (hlinked.hasTopology_iff hrender).2 (hlinks x hx).1
      · exact (hlinked.hasTopology_iff hrender).2 (hlinks x hx).2

/-- The links of an AS of two domains name it by either, and both topologies are there. -/
theorem crossroads_neighbours :
    crossroads.validate = .ok () ∧
      ∃ g, generate crossroads {} (⟨0, 1⟩ : Stepper) = .ok g ∧
        ∀ ia, g.Names ia → g.HasTopology ia := by
  have hvalid : crossroads.validate = .ok () := by decide
  obtain ⟨g, hg, -⟩ := exists_generate_crossroads
  exact ⟨hvalid, g, hg, (neighbours_exist_iff hvalid hg).2.2 (by decide)⟩

/-! ### A link into another domain -/

/-- Two ASes of domain 1. The link between them names the second in domain 9. -/
def strayDomain : Config where
  isds := [1]
  ases := [
    { asn := 1
      isds := [{ isd := 1 }]
      networks := [{ name := "net0" }]
      routers := [{
        name := "br1"
        crossConnects := [{
          peerAsn := 2, peerRouter := "br1", address := .ofOctets 10 3 0 1 29 }] }] },
    { asn := 2
      isds := [{ isd := 1 }]
      networks := [{ name := "net0" }]
      routers := [{
        name := "br1"
        crossConnects := [{
          peerAsn := 1, peerRouter := "br1", address := .ofOctets 10 3 0 2 29 }] }] }]
  links := [{ kind := .crossConnect, a := ⟨1, 1⟩, b := ⟨9, 2⟩, linkType := .core }]

theorem exists_generate_strayDomain :
    ∃ g, generate strayDomain {} (⟨0, 1⟩ : Stepper) = .ok g ∧ g.resolved.length = 1 :=
  exists_eq_ok_of_map_toOption (by decide +kernel)

/-- The configuration is validated and generated, and a topology names an AS of domain 9, for which
there is none. -/
theorem strayDomain_neighbour :
    strayDomain.validate = .ok () ∧
      ∃ g, generate strayDomain {} (⟨0, 1⟩ : Stepper) = .ok g ∧
        g.Names ⟨9, 2⟩ ∧ ¬g.HasTopology ⟨9, 2⟩ := by
  have hvalid : strayDomain.validate = .ok () := by decide
  obtain ⟨g, hg, -⟩ := exists_generate_strayDomain
  have hlinked := Generation.linked_of_generate hg
  obtain ⟨-, -, -, -, -, -, hrender⟩ := phases_of_generate hg
  refine ⟨hvalid, g, hg, ?_, fun htopology ↦ ?_⟩
  · exact (hlinked.names_iff hrender (member_of_validate hvalid)).2
      ⟨_, List.mem_cons_self, .inr rfl⟩
  · have hdeclared := (hlinked.hasTopology_iff hrender).1 htopology
    exact absurd hdeclared (by decide)

end Interdomain
