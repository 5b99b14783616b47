import Interdomain.Proofs.Building.Emulation
import Interdomain.Proofs.Declaration
import Interdomain.Proofs.Generation.Files
import Interdomain.Proofs.Resolution.Descriptors
import Interdomain.Proofs.Resolution.Numbering
import Interdomain.Proofs.Texts.Records

/-!
# The generated network

The network of a generation is that of its configuration, with the descriptors of the resolved links
and nothing else attached to the routers. The links are those of the configuration, each repeated as
often as it says, and an AS numbers its ends upward.
-/

namespace Interdomain

/-- The two ends of a link, each with the one it faces. -/
def ResolvedLink.sides (l : ResolvedLink) : List (ResolvedEnd × ResolvedEnd) :=
  [(l.a, l.b), (l.b, l.a)]

theorem ResolvedLink.swap_mem_sides {l : ResolvedLink} {s : ResolvedEnd × ResolvedEnd}
    (h : s ∈ l.sides) : s.swap ∈ l.sides := by
  rcases List.mem_cons.1 h with rfl | h
  · exact List.mem_cons_of_mem _ List.mem_cons_self
  · obtain rfl := List.mem_singleton.1 h
    exact List.mem_cons_self

open Resolution (endsOf)

/-! ## What is declared -/

/-- An AS without what comes to it after it was built. -/
def AutonomousSystem.outline (a : AutonomousSystem) : AutonomousSystem := a.bare.unsettled

/-- An AS as it was declared, whatever has come to it since. -/
structure AsDecl.Outlines (d : AsDecl) (a : AutonomousSystem) : Prop where
  asn : a.asn = d.asn
  isds : ∀ isd, isd ∈ a.isds ↔ isd ∈ d.isds.map (·.isd)
  routers : a.routers.keys = d.routers.map (·.name)

theorem AsDecl.Describes.outlines {d : AsDecl} {a a' : AutonomousSystem} (h : d.Describes a)
    (ha : a'.outline = a.outline) : d.Outlines a' := by
  have hasn : a'.outline.asn = a.outline.asn := congrArg (·.asn) ha
  have hisds : a'.outline.isds = a.outline.isds := congrArg (·.isds) ha
  have hrouters : a'.outline.routers.keys = a.outline.routers.keys :=
    congrArg (·.routers.keys) ha
  refine ⟨hasn.trans h.asn, fun isd ↦ ?_, ?_⟩
  · rw [← h.isds isd]
    exact iff_of_eq (congrArg (isd ∈ ·) hisds)
  · rw [← h.routerNames, ← a.routers.keys_map Router.bare, ← a'.routers.keys_map Router.bare]
    exact hrouters

namespace Emulation

variable {e e₁ e' : Emulation}

/-- Settings and links change no AS in its outline. -/
theorem map_outline_as? (hsettled : e₁.unsettled = e.unsettled) (hbare : e'.bare = e₁.bare)
    (n : Asn) :
    (e'.as? n).map AutonomousSystem.outline = (e.as? n).map AutonomousSystem.outline := by
  have hbare' := congrArg (·.as? n) hbare
  have hsettled' := congrArg (·.as? n) hsettled
  simp only [as?_bare, as?_unsettled] at hbare' hsettled'
  -- The settings and the rest of an AS are set apart in either order.
  have hcomm : AutonomousSystem.outline = AutonomousSystem.bare ∘ AutonomousSystem.unsettled := rfl
  calc (e'.as? n).map AutonomousSystem.outline
      = ((e'.as? n).map AutonomousSystem.bare).map AutonomousSystem.unsettled := by
        rw [Option.map_map]; rfl
    _ = ((e₁.as? n).map AutonomousSystem.unsettled).map AutonomousSystem.bare := by
        rw [hbare', Option.map_map, Option.map_map]; rfl
    _ = (e.as? n).map AutonomousSystem.outline := by rw [hsettled', Option.map_map, hcomm]

theorem exists_as?_of_map_eq {ν : Type} {f : AutonomousSystem → ν} {n : Asn}
    (h : (e'.as? n).map f = (e.as? n).map f) {a : AutonomousSystem} (ha : e.as? n = some a) :
    ∃ a', e'.as? n = some a' ∧ f a' = f a := by
  rw [ha, Option.map_some] at h
  exact Option.map_eq_some_iff.1 h

end Emulation

theorem Emulation.descriptorAt_of_unsettled_eq {e e' : Emulation} (h : e'.unsettled = e.unsettled)
    (x : Port × Nat) : e'.descriptorAt x = e.descriptorAt x := by
  rw [descriptorAt, descriptorAt, ← e'.routerAt_unsettled, h, e.routerAt_unsettled]

theorem Config.Describes.descriptorAt {c : Config} {e : Emulation} (h : c.Describes e)
    (x : Port × Nat) : e.descriptorAt x = none := by
  rw [Emulation.descriptorAt, Option.bind_eq_none_iff]
  intro r hr
  obtain ⟨a, ha, hr⟩ := Option.bind_eq_some_iff.1 hr
  obtain ⟨d, -, -, hdescribes⟩ := h.only x.1.1 a ha
  obtain ⟨_, -, hrouter⟩ := exists_of_mem_of_forall₂ hdescribes.routers.flip
    ((a.routers.get?_eq_some_iff).1 hr)
  rw [hrouter.unlinked]
  rfl

/-! ## What is linked -/

namespace Resolution

variable {options : ResolverOptions} {ls : List PlannedLink} {e e' : Emulation}
  {rs : List ResolvedLink}

theorem mem_endsOf_iff {x : ResolvedEnd} : x ∈ endsOf rs ↔ ∃ l ∈ rs, ∃ s ∈ l.sides, x = s.1 := by
  simp [endsOf, ResolvedLink.ends, ResolvedLink.sides]

namespace Committed

theorem exists_descriptor (h : Committed options ls e rs e') {l : ResolvedLink} (hl : l ∈ rs)
    {s : ResolvedEnd × ResolvedEnd} (hs : s ∈ l.sides) :
    ∃ p role, e'.descriptorAt (s.1.port, s.1.id)
      = some (descriptor p role s.1 s.2 options.peerRemoteIds) := by
  obtain ⟨p, hmem, -⟩ := exists_mem_zip_of_carried h.carried hl
  rcases List.mem_pair.1 hs with rfl | rfl
  · exact ⟨p, .first, h.descriptorAt_of_mem hmem List.mem_cons_self⟩
  · exact ⟨p, .second, h.descriptorAt_of_mem hmem (List.mem_cons_of_mem _ List.mem_cons_self)⟩

theorem exists_descriptorAt (h : Committed options ls e rs e') {l : ResolvedLink} (hl : l ∈ rs)
    {s : ResolvedEnd × ResolvedEnd} (hs : s ∈ l.sides) :
    ∃ d, e'.descriptorAt (s.1.port, s.1.id) = some d ∧ d.isdAs = s.2.ia := by
  obtain ⟨_, _, hd⟩ := h.exists_descriptor hl hs
  exact ⟨_, hd, rfl⟩

/-- The numbers in the descriptors of links were taken from the counters. -/
theorem fits (h : Committed options ls e rs e') {x : Port × Nat} (hx : e.descriptorAt x = none)
    {d : Descriptor} (hd : e'.descriptorAt x = some d) : x.2 ≤ 65535 ∧ d.Fits := by
  have hsmall := h.numbered.small
  by_cases hmem : x ∈ (endsOf rs).map fun y ↦ (y.port, y.id)
  · obtain ⟨y, hy, rfl⟩ := List.mem_map.1 hmem
    obtain ⟨l, hl, s, hs, rfl⟩ := mem_endsOf_iff.1 hy
    obtain ⟨p, role, hdescriptor⟩ := h.exists_descriptor hl hs
    obtain rfl := Option.some.inj (hdescriptor.symm.trans hd)
    obtain ⟨hid, hport⟩ := hsmall s.1 hy
    obtain ⟨hremoteId, hremotePort⟩ :=
      hsmall s.2 (mem_endsOf_iff.2 ⟨l, hl, s.swap, l.swap_mem_sides hs, rfl⟩)
    refine ⟨hid, hport, hremotePort, fun id hid' ↦ ?_⟩
    rw [descriptor] at hid'
    split at hid'
    · exact Option.some.inj hid' ▸ hremoteId
    · exact absurd hid' (by simp)
  · rw [h.descriptorAt_of_not_mem hmem, hx] at hd
    exact absurd hd (by simp)

/-- Where nothing was attached before, the descriptors are those of the links. -/
theorem descriptorAt_iff (h : Committed options ls e rs e') {x : Port × Nat}
    (hx : e.descriptorAt x = none) (ia : IsdAsn) :
    (∃ d, e'.descriptorAt x = some d ∧ d.isdAs = ia) ↔
      ∃ l ∈ rs, ∃ s ∈ l.sides, x = (s.1.port, s.1.id) ∧ ia = s.2.ia := by
  constructor
  · rintro ⟨d, hd, rfl⟩
    by_cases hmem : x ∈ (endsOf rs).map fun y ↦ (y.port, y.id)
    · obtain ⟨y, hy, rfl⟩ := List.mem_map.1 hmem
      obtain ⟨l, hl, s, hs, rfl⟩ := mem_endsOf_iff.1 hy
      obtain ⟨d', hd', hia⟩ := h.exists_descriptorAt hl hs
      obtain rfl := Option.some.inj (hd'.symm.trans hd)
      exact ⟨l, hl, s, hs, rfl, hia⟩
    · rw [h.descriptorAt_of_not_mem hmem, hx] at hd
      exact absurd hd (by simp)
  · rintro ⟨l, hl, s, hs, rfl, rfl⟩
    exact h.exists_descriptorAt hl hs

theorem pairwise_ids (h : Committed options ls e rs e') (n : Asn) :
    (((endsOf rs).filter (·.ia.asn = n)).map (·.id)).Pairwise (· < ·) := by
  cases hc : e.idCounters n with
  | some c =>
    rw [(h.ids.numbers_of_map hc).1]
    exact List.pairwise_lt_range'
  | none =>
    -- An AS without a counter has no ends.
    have hnil : (endsOf rs).filter (·.ia.asn = n) = [] := by
      rw [List.filter_eq_nil_iff]
      intro x hx hn
      have hsome := h.ids.isSome_of_mem (List.mem_map_of_mem hx)
      rw [of_decide_eq_true hn, hc] at hsome
      exact absurd hsome (by simp)
    rw [hnil]
    exact .nil

theorem exists_routerAt (h : Committed options ls e rs e') {x : ResolvedEnd} (hx : x ∈ endsOf rs) :
    ∃ r, e'.routerAt x.port = some r := by
  have hsome := h.ports.isSome_of_mem (List.mem_map_of_mem hx)
  rw [← h.ports.isSome_eq, Emulation.portCounters, Option.isSome_map] at hsome
  exact Option.isSome_iff_exists.1 hsome

end Committed

theorem mem_repeated_iff {links : LinkRegistry} (h : links.Declared) {d : LinkKey × UInt32} :
    d ∈ repeated links.declarations ↔ d ∈ links.declarations := by
  simp only [repeated, List.mem_flatMap, List.mem_replicate]
  constructor
  · rintro ⟨d', hd', -, rfl⟩
    exact hd'
  · intro hd
    have hcount : d.2.toNat ≠ 0 := fun hzero ↦
      h.count_ne_zero hd (UInt32.toNat_inj.1 hzero)
    exact ⟨d, hd, hcount, rfl⟩

theorem forall₂_repeated {links : LinkRegistry} {p : List PlannedLink}
    (hplan : plan e links = .ok p)
    (hcommitted : Committed options (repetitions p) e rs e') :
    List.Forall₂ (fun d l ↦ l.a.ia = d.1.ends.a ∧ l.b.ia = d.1.ends.b)
      (repeated links.declarations) rs := by
  have hplanned := forall₂_repetitions (mapM_eq_ok_iff.1 (plan_eq_ok_iff.1 hplan).1)
  exact (forall₂_repeats hplanned hcommitted.carried).imp fun _ _ h ↦ ⟨h.a, h.b⟩

end Resolution

namespace Generation

/-- A generated network and its links, seen from the configuration. -/
structure Linked (c : Config) (g : Generation) : Prop where
  declared : ∀ d ∈ c.ases, ∃ a, g.emulation.as? d.asn = some a ∧ d.Outlines a
  only : ∀ n a, g.emulation.as? n = some a → ∃ d ∈ c.ases, d.asn = n ∧ d.Outlines a
  descriptors : ∀ x ia, (∃ d, g.emulation.descriptorAt x = some d ∧ d.isdAs = ia) ↔
    ∃ l ∈ g.resolved, ∃ s ∈ l.sides, x = (s.1.port, s.1.id) ∧ ia = s.2.ia
  /-- The numbers of an interface have 16 bits. -/
  fits : ∀ x d, g.emulation.descriptorAt x = some d → x.2 ≤ 65535 ∧ d.Fits
  ascending : ∀ n, (((endsOf g.resolved).filter (·.ia.asn = n)).map (·.id)).Pairwise (· < ·)
  found : ∀ x ∈ endsOf g.resolved, ∃ r, g.emulation.routerAt x.port = some r
  /-- A resolved link is one of the configuration. -/
  origin : ∀ l ∈ g.resolved, ∃ x ∈ c.links, l.a.ia = x.a ∧ l.b.ia = x.b
  /-- A link of the configuration has been resolved. -/
  repeated : ∀ x ∈ c.links, ∃ l ∈ g.resolved, l.a.ia = x.a ∧ l.b.ia = x.b
  apart : ∀ l ∈ g.resolved, l.a.ia.asn ≠ l.b.ia.asn

theorem linked_of_generate {σ : Type} [WordSource σ] {c : Config} {options : ResolverOptions}
    {source : σ} {g : Generation} (h : generate c options source = .ok g) : g.Linked c := by
  obtain ⟨built, settled, hbuild, hlinks, ⟨_, hsettled⟩, hresolve, -⟩ := phases_of_generate h
  have hbuilt := c.build_yields.good_of_ok hbuild
  have hdeclares := c.declareLinks_yields.good_of_ok hlinks
  obtain ⟨p, hplan, hcommitted⟩ := Resolution.plan_of_resolve hresolve
  have houtline := Emulation.map_outline_as? hsettled.unsettled hcommitted.bare
  have hnothing : ∀ x, settled.descriptorAt x = none := fun x ↦
    (Emulation.descriptorAt_of_unsettled_eq hsettled.unsettled x).trans (hbuilt.descriptorAt x)
  have hends := Resolution.forall₂_repeated hplan hcommitted
  -- A resolved link repeats a declaration, and the declaration is a link of the configuration.
  have horigin : ∀ l ∈ g.resolved, ∃ d ∈ g.links.declarations,
      l.a.ia = d.1.ends.a ∧ l.b.ia = d.1.ends.b := by
    intro l hl
    obtain ⟨d, hd, hrepeats⟩ := exists_of_mem_of_forall₂ hends.flip hl
    exact ⟨d, (Resolution.mem_repeated_iff hdeclares.declared).1 hd, hrepeats⟩
  refine {
    declared := fun d hd ↦ ?_
    only := fun n a ha ↦ ?_
    descriptors := fun x ia ↦ hcommitted.descriptorAt_iff (hnothing x) ia
    fits := fun x d ↦ hcommitted.fits (hnothing x)
    ascending := hcommitted.pairwise_ids
    found := fun x hx ↦ hcommitted.exists_routerAt hx
    origin := fun l hl ↦ ?_
    repeated := fun x hx ↦ ?_
    apart := fun l hl ↦ ?_ }
  · obtain ⟨a, ha, hdescribes⟩ := hbuilt.declared d hd
    obtain ⟨a', ha', heq⟩ := Emulation.exists_as?_of_map_eq (houtline d.asn) ha
    exact ⟨a', ha', hdescribes.outlines heq⟩
  · obtain ⟨a', ha', heq⟩ := Emulation.exists_as?_of_map_eq (houtline n).symm ha
    obtain ⟨d, hd, hasn, hdescribes⟩ := hbuilt.only n a' ha'
    exact ⟨d, hd, hasn, hdescribes.outlines heq.symm⟩
  · obtain ⟨d, hd, ha, hb⟩ := horigin l hl
    obtain ⟨x, hx, hdeclaration⟩ := ((hdeclares.links d).1 hd).resolve_left List.not_mem_nil
    obtain ⟨hxa, hxb⟩ := LinkDecl.ends_of_declaration? hdeclaration
    exact ⟨x, hx, ha.trans hxa, hb.trans hxb⟩
  · obtain ⟨d, hdeclaration⟩ := hdeclares.wellFormed x hx
    obtain ⟨hxa, hxb⟩ := LinkDecl.ends_of_declaration? hdeclaration
    have hd := (hdeclares.links d).2 (.inr ⟨x, hx, hdeclaration⟩)
    obtain ⟨l, hl, ha, hb⟩ := exists_of_mem_of_forall₂ hends
      ((Resolution.mem_repeated_iff hdeclares.declared).2 hd)
    exact ⟨l, hl, ha.trans hxa, hb.trans hxb⟩
  · obtain ⟨d, hd, ha, hb⟩ := horigin l hl
    rw [ha, hb]
    exact hdeclares.declared.asn_ne hd

theorem Linked.mem_memberships_iff {c : Config} {g : Generation} (h : g.Linked c)
    {a : AutonomousSystem} {isd : Isd} :
    (a, isd) ∈ g.emulation.memberships ↔
      ∃ d ∈ c.ases, ∃ m ∈ d.isds, g.emulation.as? d.asn = some a ∧ m.isd = isd := by
  rw [Emulation.mem_memberships_iff]
  constructor
  · rintro ⟨⟨n, ha⟩, hisd⟩
    obtain ⟨d, hd, rfl, houtlines⟩ := h.only n a ha
    obtain ⟨m, hm, rfl⟩ := List.mem_map.1 ((houtlines.isds isd).1 hisd)
    exact ⟨d, hd, m, hm, ha, rfl⟩
  · rintro ⟨d, hd, m, hm, ha, rfl⟩
    obtain ⟨a', ha', houtlines⟩ := h.declared d hd
    obtain rfl := Option.some.inj (ha.symm.trans ha')
    exact ⟨⟨d.asn, ha⟩, (houtlines.isds m.isd).2 (List.mem_map_of_mem hm)⟩

theorem Linked.mem_memberships_iff_as? {c : Config} {g : Generation} (h : g.Linked c)
    {ia : IsdAsn} {a : AutonomousSystem} :
    (a, ia.isd) ∈ g.emulation.memberships ∧ a.asn = ia.asn ↔
      g.emulation.as? ia.asn = some a ∧ ia.isd ∈ a.isds := by
  rw [Emulation.mem_memberships_iff]
  constructor
  · rintro ⟨⟨⟨n, ha⟩, hisd⟩, hasn⟩
    obtain ⟨d, -, hn, houtlines⟩ := h.only n a ha
    exact ⟨(hn.symm.trans (houtlines.asn.symm.trans hasn)) ▸ ha, hisd⟩
  · rintro ⟨ha, hisd⟩
    obtain ⟨d, -, hn, houtlines⟩ := h.only _ a ha
    exact ⟨⟨⟨_, ha⟩, hisd⟩, houtlines.asn.trans hn⟩

end Generation

end Interdomain
