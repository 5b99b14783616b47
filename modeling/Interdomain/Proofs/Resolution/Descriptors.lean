import Interdomain.Proofs.Resolution.Atomicity

/-!
# Descriptors of resolved links

A commit attaches the two descriptors of its link, and attaching replaces whatever is there under
the same id. No later commit gets to replace them, because no AS hands out an id twice. For the same
reason the descriptors that were there before are kept, as long as their ids are behind the counters
of their ASes, and resolution leaves all ids behind the counters.
-/

namespace Interdomain

namespace Resolution

variable {options : ResolverOptions} {links : LinkRegistry} {e e' : Emulation}
  {ls : List PlannedLink} {rs : List ResolvedLink}

/-! ## Mirrored descriptors -/

/-- What a descriptor at one end of a link says of the link. -/
structure Describes (options : ResolverOptions) (linkType : LinkType) (role : End)
    (near far : ResolvedEnd) (d : Descriptor) : Prop where
  nearAddress : d.underlay.near = near.underlay
  farAddress : d.underlay.far = far.underlay
  isdAs : d.isdAs = far.ia
  linkTo : d.linkTo = linkType.relationship role
  remoteId : d.remoteInterfaceId
    = if options.peerRemoteIds = true ∧ linkType = .peer then some far.id else none

/-- The network holds a descriptor at each end of a link, and the two mirror each other. -/
def Mirrored (options : ResolverOptions) (e : Emulation) (l : ResolvedLink) : Prop :=
  ∃ a b : Descriptor,
    e.descriptorAt (l.a.port, l.a.id) = some a ∧ e.descriptorAt (l.b.port, l.b.id) = some b ∧
    Describes options l.linkType .first l.a l.b a ∧
    Describes options l.linkType .second l.b l.a b ∧ a.mtu = b.mtu

theorem describes_descriptor {l : PlannedLink} {linkType : LinkType} (h : linkType = l.linkType)
    (role : End) (near far : ResolvedEnd) :
    Describes options linkType role near far (descriptor l role near far options.peerRemoteIds) := by
  subst h
  exact ⟨rfl, rfl, rfl, rfl, rfl⟩

/-! ## Descriptors stay where they are -/

theorem exists_mem_zip_of_carried (h : List.Forall₂ PlannedLink.Carries ls rs) {r : ResolvedLink}
    (hr : r ∈ rs) : ∃ l, (l, r) ∈ ls.zip rs ∧ l.Carries r := by
  induction h with
  | nil => exact absurd hr List.not_mem_nil
  | @cons l r' ls rs hcarries hrest ih =>
    rcases List.mem_cons.1 hr with rfl | hr
    · exact ⟨l, List.mem_cons_self, hcarries⟩
    · obtain ⟨l', hmem, hcarries'⟩ := ih hr
      exact ⟨l', List.mem_cons_of_mem _ hmem, hcarries'⟩

namespace Committed

theorem nodup_attachments (h : Committed options ls e rs e') :
    (((ls.zip rs).flatMap fun x ↦ attachments options x.1 x.2).map (·.1)).Nodup := by
  rw [map_fst_attachments h.carried]
  -- The ids alone are distinct within an AS, whatever the routers.
  refine List.Nodup.of_map (fun x : Port × Nat ↦ (x.1.1, x.2)) ?_
  rw [List.map_map]
  exact h.ids.nodup

theorem descriptorAt_of_mem (h : Committed options ls e rs e') {l : PlannedLink} {r : ResolvedLink}
    (hmem : (l, r) ∈ ls.zip rs) {x : Port × Nat} {d : Descriptor}
    (hx : (x, d) ∈ attachments options l r) : e'.descriptorAt x = some d := by
  rw [h.descriptors]
  exact written_of_mem h.nodup_attachments (List.mem_flatMap.2 ⟨(l, r), hmem, hx⟩)

end Committed

/-- **Mirrored descriptors.** When a resolution is over, the network holds mirrored descriptors at
the ends of every link it has resolved. -/
theorem resolve_mirrored (h : (resolve options links).on e = (.ok rs, e')) :
    ∀ l ∈ rs, Mirrored options e' l := by
  intro r hr
  obtain ⟨p, -, hcommitted⟩ := plan_of_resolve h
  obtain ⟨l, hmem, hcarries⟩ := exists_mem_zip_of_carried hcommitted.carried hr
  have ha : e'.descriptorAt (r.a.port, r.a.id)
      = some (descriptor l .first r.a r.b options.peerRemoteIds) :=
    hcommitted.descriptorAt_of_mem hmem List.mem_cons_self
  have hb : e'.descriptorAt (r.b.port, r.b.id)
      = some (descriptor l .second r.b r.a options.peerRemoteIds) :=
    hcommitted.descriptorAt_of_mem hmem (List.mem_cons_of_mem _ List.mem_cons_self)
  exact ⟨_, _, ha, hb, describes_descriptor hcarries.linkType .first r.a r.b,
    describes_descriptor hcarries.linkType .second r.b r.a, rfl⟩

/-- Both links between two neighbours have their descriptors. -/
theorem resolve_peering_mirrored :
    ∃ rs e', (resolve {} (peering 2)).on neighbours = (.ok rs, e') ∧
      (endsOf rs).map (·.id) = [65534, 65534, 65535, 65535] ∧ ∀ l ∈ rs, Mirrored {} e' l := by
  obtain ⟨rs, e', hok, hids⟩ := exists_resolve_peering
  exact ⟨rs, e', hok, hids, resolve_mirrored hok⟩

/-! ## Descriptors that were there before -/

/-- Every id under which a descriptor is attached is below the next one of its AS. -/
def IdsTaken (e : Emulation) : Prop :=
  ∀ p id d c, e.descriptorAt (p, id) = some d → e.idCounters p.1 = some c → id < c.next

/-- Resolution attaches nothing over a descriptor, and leaves no attached id to be handed out. -/
theorem resolve_keeps (h : (resolve options links).on e = (.ok rs, e')) (he : IdsTaken e) :
    IdsTaken e' ∧ ∀ x d, e.descriptorAt x = some d → e'.descriptorAt x = some d := by
  obtain ⟨p, -, hcommitted⟩ := plan_of_resolve h
  have hids := hcommitted.ids
  have hissued : ∀ {x : Port × Nat}, x ∈ (endsOf rs).map (fun y ↦ (y.port, y.id)) →
      (x.1.1, x.2) ∈ (endsOf rs).map fun y ↦ (y.ia.asn, y.id) := by
    intro x hx
    obtain ⟨y, hy, rfl⟩ := List.mem_map.1 hx
    exact List.mem_map.2 ⟨y, hy, rfl⟩
  constructor
  · intro q id d c' hd hc'
    -- A descriptor that is there now was attached by this resolution or was there before.
    by_cases hmem : (q, id) ∈ (endsOf rs).map fun y ↦ (y.port, y.id)
    · exact hids.lt_next hc' (hissued hmem)
    · rw [hcommitted.descriptorAt_of_not_mem hmem] at hd
      have hsome : (e.idCounters q.1).isSome = true := by
        rw [← hids.isSome_eq, hc', Option.isSome_some]
      obtain ⟨c, hc⟩ := Option.isSome_iff_exists.1 hsome
      exact Nat.lt_of_lt_of_le (he q id d c hd hc) (hids.next_le_next hc hc')
  · intro x d hd
    by_cases hmem : x ∈ (endsOf rs).map fun y ↦ (y.port, y.id)
    · obtain ⟨c, hc⟩ := Option.isSome_iff_exists.1 (hids.isSome_of_mem (hissued hmem))
      have hlt : x.2 < c.next := he x.1 x.2 d c hd hc
      exact absurd (hids.next_le hc (hissued hmem)) (Nat.not_le.2 hlt)
    · rw [hcommitted.descriptorAt_of_not_mem hmem, hd]

end Resolution

end Interdomain
