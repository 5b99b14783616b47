import Interdomain.Proofs.Resolution.Atomicity
import Interdomain.Proofs.Resolution.Planning

/-!
# The numbers of resolved links

Resolution lists the links over cross-connects before those over exchanges, each as often as it was
declared. An AS numbers its ends in the order of this list, on whichever of its routers and in
whichever of its domains they are declared, and so does a router with its ports. Nothing else of the
network changes.
-/

namespace Interdomain

namespace Resolution

variable {options : ResolverOptions} {links : LinkRegistry} {e e' : Emulation}
  {ls : List PlannedLink} {rs : List ResolvedLink} {ds : List (LinkKey × UInt32)}

/-! ## The order of the links -/

/-- The declarations, each one repeated as often as it says. -/
def repeated (ds : List (LinkKey × UInt32)) : List (LinkKey × UInt32) :=
  ds.flatMap fun d ↦ List.replicate d.2.toNat d

/-- A resolved link is a declared one as it was planned. -/
structure Repeats (e : Emulation) (d : LinkKey × UInt32) (r : ResolvedLink) : Prop where
  medium : r.medium = d.1.medium
  linkType : r.linkType = d.1.ends.linkType
  a : r.a.ia = d.1.ends.a
  b : r.b.ia = d.1.ends.b
  aNamed : ∀ name ∈ d.1.ends.aRouter, r.a.router = name
  bNamed : ∀ name ∈ d.1.ends.bRouter, r.b.router = name
  planned : ∃ l, planLink e d = .ok l ∧ l.Carries r

theorem repeats_of_carries {d : LinkKey × UInt32} {l : PlannedLink} {r : ResolvedLink}
    (hl : planLink e d = .ok l) (hr : l.Carries r) : Repeats e d r := by
  have hd := planLink_realizes hl
  have haRouter : r.a.router = l.a.router := congrArg PlannedEnd.router hr.a
  have hbRouter : r.b.router = l.b.router := congrArg PlannedEnd.router hr.b
  exact {
    medium := hr.medium.trans hd.medium
    linkType := hr.linkType.trans hd.linkType
    a := (congrArg PlannedEnd.ia hr.a).trans hd.a
    b := (congrArg PlannedEnd.ia hr.b).trans hd.b
    aNamed := fun name hname ↦ haRouter.trans (hd.aNamed name hname)
    bNamed := fun name hname ↦ hbRouter.trans (hd.bNamed name hname)
    planned := ⟨l, hl, hr⟩ }

theorem length_repeated (ds : List (LinkKey × UInt32)) :
    (repeated ds).length = (ds.map (·.2.toNat)).sum := by
  rw [repeated, List.length_flatMap]
  simp only [List.length_replicate]

theorem forall₂_repetitions (h : List.Forall₂ (planLink e · = .ok ·) ds ls) :
    List.Forall₂ (planLink e · = .ok ·) (repeated ds) (repetitions ls) := by
  induction h with
  | nil => exact .nil
  | @cons d l ds ls hd hrest ih =>
    have hlink : List.Forall₂ (planLink e · = .ok ·) (List.replicate d.2.toNat d)
        (List.replicate l.count.toNat l) := by
      rw [(planLink_realizes hd).count, List.forall₂_iff_get]
      refine ⟨by rw [List.length_replicate, List.length_replicate], fun i _ _ ↦ ?_⟩
      simpa using hd
    exact List.rel_append hlink ih

theorem forall₂_repeats (h : List.Forall₂ (planLink e · = .ok ·) ds ls)
    (hrs : List.Forall₂ PlannedLink.Carries ls rs) : List.Forall₂ (Repeats e) ds rs := by
  induction h generalizing rs with
  | nil =>
    rw [List.forall₂_nil_left_iff.1 hrs]
    exact .nil
  | cons hd _ ih =>
    obtain ⟨r, rs', hr, hrs', rfl⟩ := List.forall₂_cons_left_iff.1 hrs
    exact .cons (repeats_of_carries hd hr) (ih hrs')

/-! ## The numbers of the ends -/

/-- The ends of the resolved links are numbered in their order, for each AS and for each router, and
apart from the counters and what is attached at these ends the network is the same. -/
structure Numbered (e : Emulation) (rs : List ResolvedLink) (e' : Emulation) : Prop where
  /-- An end has the id that its place among the ends of its AS tells. -/
  ids : ∀ n i x, ((endsOf rs).filter (·.ia.asn = n))[i]? = some x →
    ∃ a, e.as? n = some a ∧ x.id = a.interfaceIds.next + i
  /-- An end has the port that its place among the ends of its router tells. -/
  ports : ∀ p i x, ((endsOf rs).filter (·.port = p))[i]? = some x →
    ∃ r, e.router? p.1 p.2 = some r ∧ x.underlay.port = r.ports.next + i
  /-- All numbers have 16 bits. -/
  small : ∀ x ∈ endsOf rs, x.id ≤ 65535 ∧ x.underlay.port ≤ 65535
  /-- No AS gives an id twice. -/
  idsDistinct : ((endsOf rs).map fun x ↦ (x.ia.asn, x.id)).Nodup
  /-- No router gives a port twice. -/
  portsDistinct : ((endsOf rs).map fun x ↦ (x.port, x.underlay.port)).Nodup
  /-- The next id of an AS has moved on by the number of its ends. -/
  nextIds : ∀ n a, e.as? n = some a → ∃ a', e'.as? n = some a' ∧
    a'.interfaceIds.next = a.interfaceIds.next + (endsOf rs).countP (·.ia.asn = n)
  /-- The next port of a router has moved on by the number of its ends. -/
  nextPorts : ∀ p r, e.router? p.1 p.2 = some r → ∃ r', e'.router? p.1 p.2 = some r' ∧
    r'.ports.next = r.ports.next + (endsOf rs).countP (·.port = p)
  /-- Descriptors have come to the ends only. -/
  attached : ∀ x ∉ (endsOf rs).map (fun y ↦ (y.port, y.id)),
    e'.descriptorAt x = e.descriptorAt x
  /-- Nothing else has changed. -/
  bare : e'.bare = e.bare

theorem Committed.numbered (h : Committed options ls e rs e') : Numbered e rs e' where
  ids n i x hx := by
    obtain ⟨c, hc, hid⟩ := h.ids.exists_of_getElem? hx
    obtain ⟨a, ha, rfl⟩ := Option.map_eq_some_iff.1 hc
    exact ⟨a, ha, hid⟩
  ports p i x hx := by
    obtain ⟨c, hc, hport⟩ := h.ports.exists_of_getElem? hx
    obtain ⟨r, hr, rfl⟩ := Option.map_eq_some_iff.1 hc
    exact ⟨r, hr, hport⟩
  small x hx :=
    ⟨h.ids.le_last (List.mem_map_of_mem hx), h.ports.le_last (List.mem_map_of_mem hx)⟩
  idsDistinct := h.ids.nodup
  portsDistinct := h.ports.nodup
  nextIds n a ha := by
    have hc : e.idCounters n = some a.interfaceIds := by rw [Emulation.idCounters, ha]; rfl
    obtain ⟨a', ha', heq⟩ := Option.map_eq_some_iff.1 (h.ids.numbers_of_map hc).2
    exact ⟨a', ha', congrArg Counter.next heq⟩
  nextPorts p r hr := by
    have hc : e.portCounters p = some r.ports := by
      rw [Emulation.portCounters, Emulation.routerAt, hr]
      rfl
    obtain ⟨r', hr', heq⟩ := Option.map_eq_some_iff.1 (h.ports.numbers_of_map hc).2
    exact ⟨r', hr', congrArg Counter.next heq⟩
  attached _ hx := h.descriptorAt_of_not_mem hx
  bare := h.bare

/-- **Exact numbering.** A resolution that succeeds gives the declared links in order and as often
as they were declared, with the numbers that follow from this order, and changes nothing but the
counters and the descriptors at the ends. -/
theorem resolve_numbered (h : (resolve options links).on e = (.ok rs, e')) :
    List.Forall₂ (Repeats e)
        (repeated (links.crossConnectDeclarations ++ links.exchangeDeclarations)) rs ∧
      rs.length
        = ((links.crossConnectDeclarations ++ links.exchangeDeclarations).map (·.2.toNat)).sum ∧
      Numbered e rs e' := by
  obtain ⟨p, hplan, hcommitted⟩ := plan_of_resolve h
  have hplanned := forall₂_repetitions (mapM_eq_ok_iff.1 (plan_eq_ok_iff.1 hplan).1)
  have hrepeats := forall₂_repeats hplanned hcommitted.carried
  exact ⟨hrepeats, hrepeats.length_eq.symm.trans (length_repeated _), hcommitted.numbered⟩

/-- The two links between two neighbours have the last two ids of each. -/
theorem resolve_peering_numbered :
    ∃ rs e', (resolve {} (peering 2)).on neighbours = (.ok rs, e') ∧ rs.length = 2 ∧
      (endsOf rs).map (·.id) = [65534, 65534, 65535, 65535] ∧ Numbered neighbours rs e' := by
  obtain ⟨rs, e', hok, hids⟩ := exists_resolve_peering
  obtain ⟨-, hlength, hnumbered⟩ := resolve_numbered hok
  exact ⟨rs, e', hok, hlength, hids, hnumbered⟩

end Resolution

end Interdomain
