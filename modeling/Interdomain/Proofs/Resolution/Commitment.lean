import Interdomain.Link.Resolution
import Interdomain.Proofs.Allocation

/-!
# Commitment of links

One commit makes six calls: two for ids, two for ports and two that attach the descriptors.
`Committed` describes what a whole run of commits has done to the network, in the four views of it:
the ids and ports it took, in the order of the ends, the descriptors it wrote, and that nothing else
changed. A run succeeds when the counters can afford all of its ends, since every commit leaves
enough for the commits after it.
-/

namespace Interdomain

/-! ## Ends -/

namespace ResolvedEnd

def port (x : ResolvedEnd) : Port := (x.ia.asn, x.router)

/-- The end as it was planned, without its numbers. -/
def planned (x : ResolvedEnd) : PlannedEnd := ⟨x.ia, x.router, x.underlay.address⟩

theorem eq_of_planned {x y : ResolvedEnd} (hplanned : x.planned = y.planned)
    (hid : x.id = y.id) (hport : x.underlay.port = y.underlay.port) : x = y := by
  obtain ⟨ia, router, id, address, port⟩ := x
  obtain ⟨ia', router', id', address', port'⟩ := y
  obtain ⟨rfl, rfl, rfl⟩ := PlannedEnd.mk.inj hplanned
  obtain rfl : id = id' := hid
  obtain rfl : port = port' := hport
  rfl

end ResolvedEnd

def ResolvedLink.ends (r : ResolvedLink) : List ResolvedEnd := [r.a, r.b]

/-- A resolved link is one repetition of a planned one. -/
structure PlannedLink.Carries (l : PlannedLink) (r : ResolvedLink) : Prop where
  medium : r.medium = l.medium
  linkType : r.linkType = l.linkType
  a : r.a.planned = l.a
  b : r.b.planned = l.b

namespace Resolution

/-- All ends of some links, link by link. -/
def endsOf (rs : List ResolvedLink) : List ResolvedEnd := rs.flatMap (·.ends)

/-! ## One commit -/

/-- The descriptors of a link, each at the router and under the id where it is attached. -/
def attachments (options : ResolverOptions) (l : PlannedLink) (r : ResolvedLink) :
    List ((Port × Nat) × Descriptor) :=
  [((r.a.port, r.a.id), descriptor l .first r.a r.b options.peerRemoteIds),
    ((r.b.port, r.b.id), descriptor l .second r.b r.a options.peerRemoteIds)]

/-- The six calls of a commit, each of them granted. -/
def Granted (options : ResolverOptions) (l : PlannedLink) (e : Emulation) (r : ResolvedLink)
    (e' : Emulation) : Prop :=
  ∃ e₁ e₂ e₃ e₄ e₅ : Emulation,
    (Emulation.allocateInterfaceId l.a.ia.asn).outcome e = .ok (r.a.id, e₁) ∧
    (Emulation.allocateInterfaceId l.b.ia.asn).outcome e₁ = .ok (r.b.id, e₂) ∧
    (Emulation.allocatePort l.a.ia.asn l.a.router).outcome e₂ = .ok (r.a.underlay.port, e₃) ∧
    (Emulation.allocatePort l.b.ia.asn l.b.router).outcome e₃ = .ok (r.b.underlay.port, e₄) ∧
    (Emulation.attach l.a.ia.asn l.a.router r.a.id
      (descriptor l .first r.a r.b options.peerRemoteIds)).outcome e₄ = .ok ((), e₅) ∧
    (Emulation.attach l.b.ia.asn l.b.router r.b.id
      (descriptor l .second r.b r.a options.peerRemoteIds)).outcome e₅ = .ok ((), e')

theorem commit_eq_ok_iff {options : ResolverOptions} {l : PlannedLink} {e e' : Emulation}
    {r : ResolvedLink} :
    (commit options l).on e = (.ok r, e') ↔ l.Carries r ∧ Granted options l e r e' := by
  rw [← Change.outcome_eq_ok_iff, commit]
  simp only [Change.outcome_bind, bind_eq_ok_iff, Change.outcome_pure, Prod.exists]
  constructor
  · rintro ⟨aId, e₁, h₁, bId, e₂, h₂, aPort, e₃, h₃, bPort, e₄, h₄, _, e₅, h₅, _, e₆, h₆, h⟩
    obtain ⟨rfl, rfl⟩ := Prod.mk.inj (Except.ok.inj h)
    exact ⟨⟨rfl, rfl, rfl, rfl⟩, e₁, e₂, e₃, e₄, e₅, h₁, h₂, h₃, h₄, h₅, h₆⟩
  · rintro ⟨hcarries, e₁, e₂, e₃, e₄, e₅, h₁, h₂, h₃, h₄, h₅, h₆⟩
    obtain ⟨medium, linkType, a, b, mtu, count⟩ := l
    obtain ⟨rfl, rfl, rfl, rfl⟩ := hcarries
    exact ⟨_, e₁, h₁, _, e₂, h₂, _, e₃, h₃, _, e₄, h₄, _, e₅, h₅, _, e', h₆, rfl⟩

/-- What a run of commits has done to the network. -/
structure Committed (options : ResolverOptions) (ls : List PlannedLink) (e : Emulation)
    (rs : List ResolvedLink) (e' : Emulation) : Prop where
  /-- There is one resolved link for each planned one. -/
  carried : List.Forall₂ PlannedLink.Carries ls rs
  /-- The ids were taken in the order of the ends. -/
  ids : Issues e.idCounters ((endsOf rs).map fun x ↦ (x.ia.asn, x.id)) e'.idCounters
  /-- The ports were taken in the order of the ends. -/
  ports : Issues e.portCounters ((endsOf rs).map fun x ↦ (x.port, x.underlay.port)) e'.portCounters
  /-- The descriptors were written link by link. -/
  descriptors : e'.descriptorAt
    = written e.descriptorAt ((ls.zip rs).flatMap fun x ↦ attachments options x.1 x.2)
  /-- Nothing else has changed. -/
  bare : e'.bare = e.bare

variable {options : ResolverOptions} {l : PlannedLink} {ls : List PlannedLink}
  {e e₁ e' : Emulation} {r : ResolvedLink} {rs : List ResolvedLink}

theorem Committed.nil (e : Emulation) : Committed options [] e [] e :=
  ⟨.nil, .nil _, .nil _, rfl, rfl⟩

/-- One commit is a run of commits. -/
theorem committed_of_commit (h : (commit options l).on e = (.ok r, e')) :
    Committed options [l] e [r] e' := by
  obtain ⟨hcarries, e₁, e₂, e₃, e₄, e₅, h₁, h₂, h₃, h₄, h₅, h₆⟩ := commit_eq_ok_iff.1 h
  obtain ⟨medium, linkType, a, b, mtu, count⟩ := l
  obtain ⟨rfl, rfl, rfl, rfl⟩ := id hcarries
  obtain ⟨ids₁, ports₁, descriptors₁, bare₁⟩ := Emulation.allocateInterfaceId_effect h₁
  obtain ⟨ids₂, ports₂, descriptors₂, bare₂⟩ := Emulation.allocateInterfaceId_effect h₂
  obtain ⟨ports₃, ids₃, descriptors₃, bare₃⟩ := Emulation.allocatePort_effect h₃
  obtain ⟨ports₄, ids₄, descriptors₄, bare₄⟩ := Emulation.allocatePort_effect h₄
  obtain ⟨descriptors₅, ids₅, ports₅, bare₅⟩ := Emulation.attach_effect h₅
  obtain ⟨descriptors₆, ids₆, ports₆, bare₆⟩ := Emulation.attach_effect h₆
  -- Each view is moved by two of the six calls and left alone by the other four.
  refine ⟨.cons hcarries .nil, ?_, ?_, ?_, ?_⟩
  · rw [ids₆, ids₅, ids₄, ids₃]
    exact ids₁.append ids₂
  · rw [ports₂, ports₁] at ports₃
    rw [ports₆, ports₅]
    exact ports₃.append ports₄
  · rw [descriptors₆, descriptors₅, descriptors₄, descriptors₃, descriptors₂, descriptors₁]
    rfl
  · rw [bare₆, bare₅, bare₄, bare₃, bare₂, bare₁]

theorem Committed.cons (h : Committed options [l] e [r] e₁) (hs : Committed options ls e₁ rs e') :
    Committed options (l :: ls) e (r :: rs) e' := by
  have hcarries : l.Carries r := (List.forall₂_cons.1 h.carried).1
  refine ⟨.cons hcarries hs.carried, h.ids.append hs.ids, h.ports.append hs.ports, ?_,
    hs.bare.trans h.bare⟩
  rw [hs.descriptors, h.descriptors]
  rfl

theorem committed_of_mapM (h : (ls.mapM (commit options)).on e = (.ok rs, e')) :
    Committed options ls e rs e' := by
  induction ls generalizing e rs with
  | nil =>
    rw [List.mapM_nil, Change.on_pure] at h
    obtain ⟨hrs, rfl⟩ := Prod.mk.inj h
    obtain rfl := Except.ok.inj hrs
    exact .nil _
  | cons l ls ih =>
    rw [List.mapM_cons, Change.on_bind_eq_ok_iff] at h
    obtain ⟨r, e₁, hr, h⟩ := h
    obtain ⟨rs', e₂, hrs, h⟩ := Change.on_bind_eq_ok_iff.1 h
    rw [Change.on_pure] at h
    obtain ⟨hlist, rfl⟩ := Prod.mk.inj h
    obtain rfl := Except.ok.inj hlist
    exact (committed_of_commit hr).cons (ih hrs)

theorem map_fst_attachments (h : List.Forall₂ PlannedLink.Carries ls rs) :
    ((ls.zip rs).flatMap fun x ↦ attachments options x.1 x.2).map (·.1)
      = (endsOf rs).map fun x ↦ (x.port, x.id) := by
  induction h with
  | nil => rfl
  | cons _ _ ih =>
    rw [List.zip_cons_cons, List.flatMap_cons, List.map_append, ih]
    rfl

/-- A run of commits attaches nothing anywhere else. -/
theorem Committed.descriptorAt_of_not_mem (h : Committed options ls e rs e') {x : Port × Nat}
    (hx : x ∉ (endsOf rs).map fun y ↦ (y.port, y.id)) : e'.descriptorAt x = e.descriptorAt x := by
  rw [← map_fst_attachments h.carried] at hx
  rw [h.descriptors, written_of_not_mem hx]

/-! ## Commits that cannot fail -/

/-- What the ends of planned links have at a key, such as their AS or their router, end by end. -/
def keys {κ : Type} (key : PlannedEnd → κ) (ls : List PlannedLink) : List κ :=
  ls.flatMap fun l ↦ l.ends.map key

/-- Counters that can afford a link let its commit pass, and can afford the rest afterwards. -/
theorem exists_commit {ids : List Asn} {ports : List Port}
    (hids : Affords e.idCounters (l.a.ia.asn :: l.b.ia.asn :: ids))
    (hports : Affords e.portCounters (l.a.port :: l.b.port :: ports)) :
    ∃ r e', (commit options l).on e = (.ok r, e') ∧ Affords e'.idCounters ids ∧
      Affords e'.portCounters ports := by
  obtain ⟨aId, e₁, h₁, hids₁⟩ := Emulation.exists_allocateInterfaceId hids
  obtain ⟨-, ports₁, -, -⟩ := Emulation.allocateInterfaceId_effect h₁
  obtain ⟨bId, e₂, h₂, hids₂⟩ := Emulation.exists_allocateInterfaceId hids₁
  obtain ⟨-, ports₂, -, -⟩ := Emulation.allocateInterfaceId_effect h₂
  rw [← ports₁, ← ports₂] at hports
  obtain ⟨aPort, e₃, h₃, hports₃⟩ := Emulation.exists_allocatePort hports
  obtain ⟨issues₃, ids₃, -, -⟩ := Emulation.allocatePort_effect h₃
  obtain ⟨bPort, e₄, h₄, hports₄⟩ := Emulation.exists_allocatePort hports₃
  obtain ⟨issues₄, ids₄, -, -⟩ := Emulation.allocatePort_effect h₄
  let a : ResolvedEnd := ⟨l.a.ia, l.a.router, aId, ⟨l.a.address, aPort⟩⟩
  let b : ResolvedEnd := ⟨l.b.ia, l.b.router, bId, ⟨l.b.address, bPort⟩⟩
  -- Both routers gave a port, so both are there.
  have ha : (e₄.portCounters l.a.port).isSome = true := by
    rw [issues₄.isSome_eq]
    exact issues₃.isSome_of_single
  obtain ⟨e₅, h₅⟩ := Emulation.exists_attach ha aId (descriptor l .first a b options.peerRemoteIds)
  obtain ⟨-, ids₅, ports₅, -⟩ := Emulation.attach_effect h₅
  have hb : (e₅.portCounters l.b.port).isSome = true := by
    rw [ports₅]
    exact issues₄.isSome_of_single
  obtain ⟨e₆, h₆⟩ := Emulation.exists_attach hb bId (descriptor l .second b a options.peerRemoteIds)
  obtain ⟨-, ids₆, ports₆, -⟩ := Emulation.attach_effect h₆
  refine ⟨⟨l.medium, l.linkType, a, b⟩, e₆, ?_, ?_, ?_⟩
  · exact commit_eq_ok_iff.2
      ⟨⟨rfl, rfl, rfl, rfl⟩, e₁, e₂, e₃, e₄, e₅, h₁, h₂, h₃, h₄, h₅, h₆⟩
  · rwa [ids₆, ids₅, ids₄, ids₃]
  · rwa [ports₆, ports₅]

/-- Counters that can afford a list of links let all its commits pass, and can afford the rest
afterwards. -/
theorem exists_mapM_commit {ids : List Asn} {ports : List Port}
    (hids : Affords e.idCounters (keys (·.ia.asn) ls ++ ids))
    (hports : Affords e.portCounters (keys PlannedEnd.port ls ++ ports)) :
    ∃ rs e', (ls.mapM (commit options)).on e = (.ok rs, e') ∧ Affords e'.idCounters ids ∧
      Affords e'.portCounters ports := by
  induction ls generalizing e with
  | nil => exact ⟨[], e, rfl, hids, hports⟩
  | cons l ls ih =>
    obtain ⟨r, e₁, hr, hids₁, hports₁⟩ := exists_commit hids hports
    obtain ⟨rs, e', hrs, hids', hports'⟩ := ih hids₁ hports₁
    refine ⟨r :: rs, e', ?_, hids', hports'⟩
    rw [List.mapM_cons]
    exact Change.on_bind_eq_ok_iff.2
      ⟨r, e₁, hr, Change.on_bind_eq_ok_iff.2 ⟨rs, e', hrs, Change.on_pure _ _⟩⟩

end Resolution

end Interdomain
