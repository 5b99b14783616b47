import Interdomain.Proofs.Resolution.Numbering
import Interdomain.Proofs.Views

/-!
# Links without a direction

A core link or a peering link looks the same from both its ends, so it should not matter from which
end it is declared. The code is not symmetric: it plans, checks and serves the first end before the
second. What makes the order irrelevant is that the two ends are in different ASes. The ids and
ports of a commit then come from different counters and its descriptors go to different routers, so
that a commit with the ends exchanged leads to the same network, and a whole run with it.

A link over a cross-connect has to name both its routers. With a router left open, the search starts
from the first end and may come to another pair of routers from the second.
-/

namespace Interdomain

/-! ## Links turned round -/

def LinkKey.swap (k : LinkKey) : LinkKey := { k with ends := k.ends.swap }

def PlannedLink.swap (l : PlannedLink) : PlannedLink := { l with a := l.b, b := l.a }

def ResolvedLink.swap (r : ResolvedLink) : ResolvedLink := { r with a := r.b, b := r.a }

/-- Core links and peering links. -/
def LinkType.Undirected (t : LinkType) : Prop := t = .core ∨ t = .peer

theorem LinkType.Undirected.relationship_eq {t : LinkType} (h : t.Undirected) (role role' : End) :
    t.relationship role = t.relationship role' := by
  rcases h with rfl | rfl <;> rfl

/-- A declared link that may be turned round: it has no direction, and over a cross-connect it names
both routers. -/
structure LinkKey.Reversible (k : LinkKey) : Prop where
  undirected : k.ends.linkType.Undirected
  named : k.medium = .crossConnect → (∃ a, k.ends.aRouter = some a) ∧ ∃ b, k.ends.bRouter = some b

theorem LinkKey.Reversible.swap {k : LinkKey} (h : k.Reversible) : k.swap.Reversible :=
  ⟨h.undirected, fun hmedium ↦ (h.named hmedium).symm⟩

/-- A planned link that may be turned round. -/
structure PlannedLink.Reversible (l : PlannedLink) : Prop where
  undirected : l.linkType.Undirected
  asn_ne : l.a.ia.asn ≠ l.b.ia.asn

/-- The declared link, from the other end if it is one of those to turn. -/
def LinkKey.turn (turned : LinkKey → Bool) (k : LinkKey) : LinkKey :=
  { k with ends := if turned k then k.ends.swap else k.ends }

/-- The registry with some of its links declared from the other end. -/
def LinkRegistry.turn (turned : LinkKey → Bool) (r : LinkRegistry) : LinkRegistry where
  crossConnects := r.crossConnects.map fun (ends, count) ↦
    ((LinkKey.turn turned ⟨.crossConnect, ends⟩).ends, count)
  exchangeLinks := r.exchangeLinks.map fun (id, ends, count) ↦
    (id, (LinkKey.turn turned ⟨.exchange id, ends⟩).ends, count)

namespace Resolution

/-- What belongs to the declarations of a list, with the ends exchanged where the declaration is one
of those to turn. -/
def turnAlong {α : Type} (turned : LinkKey → Bool) (swap : α → α) (ds : List (LinkKey × UInt32))
    (xs : List α) : List α :=
  List.zipWith (fun d x ↦ if turned d.1 then swap x else x) ds xs

variable {turned : LinkKey → Bool} {e e' : Emulation} {options : ResolverOptions}
  {d : LinkKey × UInt32} {ds : List (LinkKey × UInt32)} {l : PlannedLink} {ls : List PlannedLink}
  {r : ResolvedLink} {rs : List ResolvedLink}

theorem turnAlong_cons {α : Type} (swap : α → α) (x : α) (xs : List α) :
    turnAlong turned swap (d :: ds) (x :: xs)
      = (if turned d.1 then swap x else x) :: turnAlong turned swap ds xs := rfl

theorem turnAlong_append {α : Type} (swap : α → α) {ds₁ ds₂ : List (LinkKey × UInt32)}
    {xs₁ xs₂ : List α} (h : ds₁.length = xs₁.length) :
    turnAlong turned swap (ds₁ ++ ds₂) (xs₁ ++ xs₂)
      = turnAlong turned swap ds₁ xs₁ ++ turnAlong turned swap ds₂ xs₂ :=
  List.zipWith_append h

theorem turnAlong_replicate {α : Type} (swap : α → α) (n : Nat) (x : α) :
    turnAlong turned swap (List.replicate n d) (List.replicate n x)
      = List.replicate n (if turned d.1 then swap x else x) := by
  rw [turnAlong, List.zipWith_replicate, Nat.min_self]

theorem declarations_turn (turned : LinkKey → Bool) (links : LinkRegistry) :
    (links.turn turned).declarations
      = links.declarations.map fun d ↦ (d.1.turn turned, d.2) := by
  simp only [LinkRegistry.declarations, LinkRegistry.crossConnectDeclarations,
    LinkRegistry.exchangeDeclarations, LinkRegistry.turn, List.map_append, List.map_map]
  rfl

/-! ## Planning -/

theorem planCrossConnect_eq_ok_iff {ends : LinkEnds} {count : UInt32} {a b : String}
    (ha : ends.aRouter = some a) (hb : ends.bRouter = some b) :
    planCrossConnect e ends count = .ok l ↔
      ∃ aSide bSide n, e.crossConnect? (ends.a.asn, a) (ends.b.asn, b) = some aSide ∧
        e.crossConnect? (ends.b.asn, b) (ends.a.asn, a) = some bSide ∧
        aSide.network = bSide.network ∧ e.network? .crossConnect aSide.network = some n ∧
        l = {
          medium := .crossConnect
          linkType := ends.linkType
          a := ⟨ends.a, a, aSide.address.address⟩
          b := ⟨ends.b, b, bSide.address.address⟩
          mtu := n.mtu
          count } := by
  constructor
  · intro h
    obtain ⟨x, y, aSide, bSide, n, hrouters, haSide, hbSide, hsame, hn, rfl⟩ :=
      planCrossConnect_eq_ok h
    obtain ⟨⟨hx, hxName⟩, hy, hyName⟩ := crossConnectRouters_eq_ok hrouters
    obtain rfl : x.1 = a := admits_iff.1 hxName a ha
    obtain rfl : y.1 = b := admits_iff.1 hyName b hb
    refine ⟨aSide, bSide, n, ?_, ?_, hsame, hn, rfl⟩
    · rw [Emulation.crossConnect?_of_router? hx, haSide]
    · rw [Emulation.crossConnect?_of_router? hy, hbSide]
  · rintro ⟨aSide, bSide, n, haSide, hbSide, hsame, hn, rfl⟩
    obtain ⟨x, hx, hxSide⟩ := Option.bind_eq_some_iff.1 haSide
    obtain ⟨y, hy, hySide⟩ := Option.bind_eq_some_iff.1 hbSide
    obtain ⟨s, hs, -⟩ := Option.bind_eq_some_iff.1 hx
    obtain ⟨t, ht, -⟩ := Option.bind_eq_some_iff.1 hy
    have hrouters : crossConnectRouters e ends = .ok ((a, x), (b, y)) := by
      rw [Emulation.routerAt] at hx hy
      simp only [crossConnectRouters, ha, hb, namedRouter, hx, hy]
      rfl
    have hasA : checkAs e ends.a = .ok () := checkAs_eq_ok ⟨s, hs⟩
    have hasB : checkAs e ends.b = .ok () := checkAs_eq_ok ⟨t, ht⟩
    have haConnection : connection ends (a, x) b ends.b = .ok aSide := by
      simp only [connection, hxSide]
    have hbConnection : connection ends (b, y) a ends.a = .ok bSide := by
      simp only [connection, hySide]
    simp only [planCrossConnect, hasA, hasB, hrouters, haConnection, hbConnection, hsame, bind,
      Except.bind, ne_eq, not_true_eq_false, if_false]
    rw [← hsame, hn]
    rfl

theorem planCrossConnect_swap {ends : LinkEnds} {count : UInt32} {a b : String}
    (ha : ends.aRouter = some a) (hb : ends.bRouter = some b)
    (h : planCrossConnect e ends count = .ok l) :
    planCrossConnect e ends.swap count = .ok l.swap := by
  obtain ⟨aSide, bSide, n, haSide, hbSide, hsame, hn, rfl⟩ :=
    (planCrossConnect_eq_ok_iff ha hb).1 h
  rw [hsame] at hn
  exact (planCrossConnect_eq_ok_iff hb ha).2
    ⟨bSide, aSide, n, hbSide, haSide, hsame.symm, hn, rfl⟩

theorem planExchangeLink_swap {id : ExchangeId} {ends : LinkEnds} {count : UInt32}
    (h : planExchangeLink e id ends count = .ok l) :
    planExchangeLink e id ends.swap count = .ok l.swap := by
  obtain ⟨hasA, hasB, a, b, n, ha, hb, hn, rfl⟩ := planExchangeLink_eq_ok_iff.1 h
  exact planExchangeLink_eq_ok_iff.2 ⟨hasB, hasA, b, a, n, hb, ha, hn, rfl⟩

/-- A link that may be turned round is planned from its other end with the ends exchanged. -/
theorem planLink_swap (hd : d.1.Reversible) (h : planLink e d = .ok l) :
    planLink e (d.1.swap, d.2) = .ok l.swap := by
  obtain ⟨⟨medium, ends⟩, count⟩ := d
  cases medium with
  | crossConnect =>
    obtain ⟨⟨a, ha⟩, b, hb⟩ := hd.named rfl
    exact planCrossConnect_swap ha hb h
  | exchange id => exact planExchangeLink_swap h

theorem planLink_turn (hd : turned d.1 = true → d.1.Reversible) (h : planLink e d = .ok l) :
    planLink e (d.1.turn turned, d.2) = .ok (if turned d.1 then l.swap else l) := by
  rw [LinkKey.turn]
  split
  case isTrue ht => exact planLink_swap (hd ht) h
  case isFalse => exact h

/-- A declaration that can be planned from the other end can be planned as it is. -/
theorem exists_planLink_of_turn (hd : turned d.1 = true → d.1.Reversible)
    (h : planLink e (d.1.turn turned, d.2) = .ok l) : ∃ l', planLink e d = .ok l' := by
  rw [LinkKey.turn] at h
  split at h
  case isTrue ht =>
    have htwice : planLink e (d.1.swap.swap, d.2) = .ok l.swap :=
      planLink_swap (d := (d.1.swap, d.2)) (hd ht).swap h
    exact ⟨l.swap, htwice⟩
  case isFalse => exact ⟨l, h⟩

section Plans

variable (hds : ∀ d ∈ ds, turned d.1 = true → d.1.Reversible)

include hds

theorem forall₂_planLink_turn (h : List.Forall₂ (planLink e · = .ok ·) ds ls) :
    List.Forall₂ (planLink e · = .ok ·) (ds.map fun d ↦ (d.1.turn turned, d.2))
      (turnAlong turned PlannedLink.swap ds ls) := by
  induction h with
  | nil => exact .nil
  | @cons d l ds ls hd _ ih =>
    rw [List.map_cons, turnAlong_cons]
    exact .cons (planLink_turn (hds d List.mem_cons_self) hd)
      (ih fun d' hd' ↦ hds d' (List.mem_cons_of_mem d hd'))

theorem exists_plan_of_turn
    (h : List.Forall₂ (planLink e · = .ok ·) (ds.map fun d ↦ (d.1.turn turned, d.2)) ls) :
    ∃ ls', List.Forall₂ (planLink e · = .ok ·) ds ls' := by
  have hplan : ∀ d ∈ ds, ∃ l, planLink e d = .ok l := by
    intro d hd
    obtain ⟨l, -, hl⟩ := exists_of_mem_of_forall₂ h (List.mem_map_of_mem hd)
    exact exists_planLink_of_turn (hds d hd) hl
  obtain ⟨ls', hls'⟩ := exists_mapM_eq_ok hplan
  exact ⟨ls', mapM_eq_ok_iff.1 hls'⟩

end Plans

/-! ## Capacity -/

theorem demands_turnAlong (h : ds.length = ls.length) :
    (demands (turnAlong turned PlannedLink.swap ds ls)).Perm (demands ls) := by
  induction ds generalizing ls with
  | nil =>
    obtain rfl := List.eq_nil_of_length_eq_zero h.symm
    exact .refl _
  | cons d ds ih =>
    cases ls with
    | nil => exact absurd h (by simp)
    | cons l ls =>
      rw [turnAlong_cons, demands, demands, List.flatMap_cons, List.flatMap_cons]
      refine .append ?_ (ih (Nat.succ.inj h))
      split
      case isTrue => exact .swap _ _ []
      case isFalse => exact .refl _

theorem total_perm {κ : Type} [DecidableEq κ] (key : PlannedEnd → κ) (k : κ) {xs ys : List Demand}
    (h : xs.Perm ys) : total key k xs = total key k ys :=
  ((h.filter _).map _).sum_nat

theorem Within.perm {xs ys : List Demand} (h : Within e xs) (hperm : xs.Perm ys) : Within e ys := by
  refine ⟨fun n ↦ ?_, fun p ↦ ?_⟩
  · rw [← total_perm _ _ hperm]
    exact h.ids n
  · rw [← total_perm _ _ hperm]
    exact h.ports p

/-! ## Commitment -/

theorem attachments_swap (h : l.linkType.Undirected) :
    attachments options l.swap r.swap = (attachments options l r).reverse := by
  have hdescriptor : ∀ (role role' : End) (near far : ResolvedEnd),
      descriptor l.swap role near far options.peerRemoteIds
        = descriptor l role' near far options.peerRemoteIds := by
    intro role role' near far
    rw [descriptor, descriptor, PlannedLink.swap, h.relationship_eq role role']
  rw [attachments, hdescriptor .first .second, hdescriptor .second .first]
  rfl

/-- A commit of a planned link, one view after the other. -/
theorem Committed.single_iff :
    Committed options [l] e [r] e' ↔ l.Carries r ∧
      Issues e.idCounters [(r.a.ia.asn, r.a.id), (r.b.ia.asn, r.b.id)] e'.idCounters ∧
      Issues e.portCounters [(r.a.port, r.a.underlay.port), (r.b.port, r.b.underlay.port)]
        e'.portCounters ∧
      e'.descriptorAt = written e.descriptorAt (attachments options l r) ∧ e'.bare = e.bare := by
  constructor
  · intro h
    exact ⟨(List.forall₂_cons.1 h.carried).1, h.ids, h.ports, h.descriptors, h.bare⟩
  · rintro ⟨hcarries, hids, hports, hdescriptors, hbare⟩
    exact ⟨.cons hcarries .nil, hids, hports, hdescriptors, hbare⟩

/-- What a commit does to the network, a commit with the ends exchanged does as well. -/
theorem Committed.swap (hl : l.Reversible) (h : Committed options [l] e [r] e') :
    Committed options [l.swap] e [r.swap] e' := by
  obtain ⟨hcarries, hids, hports, hdescriptors, hbare⟩ := single_iff.1 h
  have hasn : r.a.ia.asn ≠ r.b.ia.asn := by
    have ha : r.a.ia = l.a.ia := congrArg PlannedEnd.ia hcarries.a
    have hb : r.b.ia = l.b.ia := congrArg PlannedEnd.ia hcarries.b
    rw [ha, hb]
    exact hl.asn_ne
  have hport : r.a.port ≠ r.b.port := fun heq ↦ hasn (Prod.ext_iff.1 heq).1
  have hkey : (r.a.port, r.a.id) ≠ (r.b.port, r.b.id) := fun heq ↦ hport (Prod.ext_iff.1 heq).1
  -- All keys of the first end differ from those of the second, so the second may come first.
  refine single_iff.2 ⟨⟨hcarries.medium, hcarries.linkType, hcarries.b, hcarries.a⟩,
    hids.swap hasn, hports.swap hport, ?_, hbare⟩
  rw [attachments_swap hl.undirected, hdescriptors]
  exact written_swap _ hkey []

theorem Committed.unique {r' : ResolvedLink} {e'' : Emulation} (h : Committed options [l] e [r] e')
    (h' : Committed options [l] e [r'] e'') : r = r' ∧ e' = e'' := by
  obtain ⟨hcarries, hids, hports, hdescriptors, hbare⟩ := single_iff.1 h
  obtain ⟨hcarries', hids', hports', hdescriptors', hbare'⟩ := single_iff.1 h'
  have ha : r.a.planned = r'.a.planned := hcarries.a.trans hcarries'.a.symm
  have hb : r.b.planned = r'.b.planned := hcarries.b.trans hcarries'.b.symm
  have haIa : r.a.ia = r'.a.ia := congrArg PlannedEnd.ia ha
  have hbIa : r.b.ia = r'.b.ia := congrArg PlannedEnd.ia hb
  have haPort : r.a.port = r'.a.port := congrArg PlannedEnd.port ha
  have hbPort : r.b.port = r'.b.port := congrArg PlannedEnd.port hb
  obtain ⟨hidList, hidCounters⟩ := hids.unique hids' (by simp [haIa, hbIa])
  obtain ⟨hportList, hportCounters⟩ := hports.unique hports' (by simp [haPort, hbPort])
  simp only [List.cons.injEq, Prod.mk.injEq, and_true] at hidList hportList
  obtain rfl : r = r' := by
    obtain ⟨medium, linkType, a, b⟩ := r
    obtain ⟨medium', linkType', a', b'⟩ := r'
    obtain rfl : a = a' := ResolvedEnd.eq_of_planned ha hidList.1.2 hportList.1.2
    obtain rfl : b = b' := ResolvedEnd.eq_of_planned hb hidList.2.2 hportList.2.2
    rw [ResolvedLink.mk.injEq]
    exact ⟨hcarries.medium.trans hcarries'.medium.symm,
      hcarries.linkType.trans hcarries'.linkType.symm, rfl, rfl⟩
  refine ⟨rfl, Emulation.ext_views (hbare.trans hbare'.symm) hidCounters hportCounters ?_⟩
  rw [hdescriptors, hdescriptors']

/-- **One commit.** With its ends exchanged it takes the same numbers and leads to the same network.
-/
theorem commit_swap (hl : l.Reversible) (h : (commit options l).on e = (.ok r, e')) :
    (commit options l.swap).on e = (.ok r.swap, e') := by
  have hswap := (committed_of_commit h).swap hl
  obtain ⟨⟨-, -, ha, hb⟩, hids, hports, -, -⟩ := Committed.single_iff.1 hswap
  -- The numbers are there, whichever end is served first.
  have haffords : Affords e.idCounters [l.swap.a.ia.asn, l.swap.b.ia.asn] := by
    rw [← ha, ← hb]
    exact hids.affords
  have haffords' : Affords e.portCounters [l.swap.a.port, l.swap.b.port] := by
    rw [← ha, ← hb]
    exact hports.affords
  obtain ⟨r', e'', h', -, -⟩ : ∃ r' e'', (commit options l.swap).on e = (.ok r', e'') ∧
      Affords e''.idCounters [] ∧ Affords e''.portCounters [] := exists_commit haffords haffords'
  obtain ⟨rfl, rfl⟩ := hswap.unique (committed_of_commit h')
  exact h'

/-- **A run of commits.** It leads to the same network whichever ends are exchanged. -/
theorem mapM_commit_turnAlong
    (hls : List.Forall₂ (fun d l ↦ turned d.1 = true → l.Reversible) ds ls)
    (h : (ls.mapM (commit options)).on e = (.ok rs, e')) :
    ((turnAlong turned PlannedLink.swap ds ls).mapM (commit options)).on e
      = (.ok (turnAlong turned ResolvedLink.swap ds rs), e') := by
  induction hls generalizing e rs with
  | nil =>
    rw [List.mapM_nil, Change.on_pure] at h
    obtain ⟨hrs, rfl⟩ := Prod.mk.inj h
    obtain rfl := Except.ok.inj hrs
    rfl
  | @cons d l ds ls hl _ ih =>
    rw [List.mapM_cons, Change.on_bind_eq_ok_iff] at h
    obtain ⟨r, e₁, hr, h⟩ := h
    obtain ⟨rs', e₂, hrs, h⟩ := Change.on_bind_eq_ok_iff.1 h
    rw [Change.on_pure] at h
    obtain ⟨hlist, rfl⟩ := Prod.mk.inj h
    obtain rfl := Except.ok.inj hlist
    have hstep : (commit options (if turned d.1 then l.swap else l)).on e
        = (.ok (if turned d.1 then r.swap else r), e₁) := by
      split
      case isTrue ht => exact commit_swap (hl ht) hr
      case isFalse => exact hr
    rw [turnAlong_cons, turnAlong_cons, List.mapM_cons, Change.on_bind_eq_ok_iff]
    exact ⟨_, e₁, hstep, Change.on_bind_eq_ok_iff.2 ⟨_, e₂, ih hrs, Change.on_pure _ _⟩⟩

/-! ## The whole resolution -/

theorem repetitions_turnAlong (h : List.Forall₂ (planLink e · = .ok ·) ds ls) :
    repetitions (turnAlong turned PlannedLink.swap ds ls)
      = turnAlong turned PlannedLink.swap (repeated ds) (repetitions ls) := by
  induction h with
  | nil => rfl
  | @cons d l ds ls hd hrest ih =>
    have hcount : (if turned d.1 then l.swap else l).count = d.2 := by
      rw [← (planLink_realizes hd).count]
      split
      case isTrue => rfl
      case isFalse => rfl
    rw [turnAlong_cons, repetitions, repetitions, List.flatMap_cons, List.flatMap_cons, repeated,
      List.flatMap_cons, hcount, (planLink_realizes hd).count, turnAlong_append _ (by simp),
      turnAlong_replicate]
    exact congrArg _ ih

theorem reversible_of_planLink (hd : d.1.Reversible) (hasn : d.1.ends.a.asn ≠ d.1.ends.b.asn)
    (h : planLink e d = .ok l) : l.Reversible := by
  have hrealizes := planLink_realizes h
  refine ⟨hrealizes.linkType ▸ hd.undirected, ?_⟩
  rw [hrealizes.a, hrealizes.b]
  exact hasn

theorem mem_of_mem_repeated (h : d ∈ repeated ds) : d ∈ ds := by
  obtain ⟨d', hd', hrepeat⟩ := List.mem_flatMap.1 h
  rw [List.eq_of_mem_replicate hrepeat]
  exact hd'

theorem forall₂_reversible (hasn : ∀ d ∈ ds, d.1.ends.a.asn ≠ d.1.ends.b.asn)
    (hds : ∀ d ∈ ds, turned d.1 = true → d.1.Reversible)
    (h : List.Forall₂ (planLink e · = .ok ·) ds ls) :
    List.Forall₂ (fun d l ↦ turned d.1 = true → l.Reversible) ds ls := by
  induction h with
  | nil => exact .nil
  | @cons d l ds ls hd _ ih =>
    rw [List.forall_mem_cons] at hasn hds
    exact .cons (fun ht ↦ reversible_of_planLink (hds.1 ht) hasn.1 hd) (ih hasn.2 hds.2)

/-- A resolution that succeeds does the same with some links declared from the other end. -/
theorem resolve_turn_of_ok {links : LinkRegistry} (hlinks : links.Declared)
    (hturned : ∀ d ∈ links.declarations, turned d.1 = true → d.1.Reversible)
    (h : (resolve options links).on e = (.ok rs, e')) :
    (resolve options (links.turn turned)).on e
      = (.ok (turnAlong turned ResolvedLink.swap (repeated links.declarations) rs), e') := by
  cases hplan : plan e links with
  | error f =>
    rw [resolve_of_plan_eq_error options hplan] at h
    exact absurd (Prod.ext_iff.1 h).1 (by simp)
  | ok p =>
    obtain ⟨hls, hwithin⟩ := plan_eq_ok_iff.1 hplan
    have hplanned := mapM_eq_ok_iff.1 hls
    have hturn : plan e (links.turn turned)
        = .ok (turnAlong turned PlannedLink.swap links.declarations p) := by
      rw [plan_eq_ok_iff, declarations_turn, mapM_eq_ok_iff]
      exact ⟨forall₂_planLink_turn hturned hplanned,
        hwithin.perm (demands_turnAlong hplanned.length_eq).symm⟩
    rw [resolve_of_plan_eq_ok options hplan] at h
    rw [resolve_of_plan_eq_ok options hturn, repetitions_turnAlong hplanned]
    refine mapM_commit_turnAlong (forall₂_reversible ?_ ?_ (forall₂_repetitions hplanned)) h
    · exact fun d hd ↦ hlinks.asn_ne (mem_of_mem_repeated hd)
    · exact fun d hd ↦ hturned d (mem_of_mem_repeated hd)

theorem exists_resolve_of_turn {links : LinkRegistry}
    (hturned : ∀ d ∈ links.declarations, turned d.1 = true → d.1.Reversible)
    (h : (resolve options (links.turn turned)).on e = (.ok rs, e')) :
    ∃ rs' e'', (resolve options links).on e = (.ok rs', e'') := by
  obtain ⟨p', hplan', -⟩ := plan_of_resolve h
  obtain ⟨hls', hwithin'⟩ := plan_eq_ok_iff.1 hplan'
  have hplanned' := mapM_eq_ok_iff.1 hls'
  rw [declarations_turn] at hplanned'
  obtain ⟨p, hplanned⟩ := exists_plan_of_turn hturned hplanned'
  -- The plan of the turned links is the plan of the others with ends exchanged.
  obtain rfl := forall₂_unique (forall₂_planLink_turn hturned hplanned) hplanned'
  have hwithin := hwithin'.perm (demands_turnAlong hplanned.length_eq)
  exact exists_resolve_of_plan options (plan_eq_ok_iff.2 ⟨mapM_eq_ok_iff.2 hplanned, hwithin⟩)

/-- **Links without a direction.** Let some of the declared core and peering links be declared from
the other end, each of them over an exchange or with both routers named. Then resolution succeeds as
before or fails as before. It leaves the same network behind, and its results are the same links in
the same order, with the ends of the turned ones exchanged. -/
theorem resolve_turn (options : ResolverOptions) {links : LinkRegistry} (hlinks : links.Declared)
    (turned : LinkKey → Bool)
    (hturned : ∀ d ∈ links.declarations, turned d.1 = true → d.1.Reversible) (e : Emulation) :
    ((∃ rs e', (resolve options (links.turn turned)).on e = (.ok rs, e')) ↔
        ∃ rs e', (resolve options links).on e = (.ok rs, e')) ∧
      ((resolve options (links.turn turned)).on e).2 = ((resolve options links).on e).2 ∧
        ∀ rs e', (resolve options links).on e = (.ok rs, e') →
          rs.length = (repeated links.declarations).length ∧
            (resolve options (links.turn turned)).on e
              = (.ok (List.zipWith (fun d r ↦ if turned d.1 then ResolvedLink.swap r else r)
                  (repeated links.declarations) rs), e') := by
  have hiff : (∃ rs e', (resolve options (links.turn turned)).on e = (.ok rs, e')) ↔
      ∃ rs e', (resolve options links).on e = (.ok rs, e') := by
    constructor
    · rintro ⟨rs, e', h⟩
      exact exists_resolve_of_turn hturned h
    · rintro ⟨rs, e', h⟩
      exact ⟨_, e', resolve_turn_of_ok hlinks hturned h⟩
  refine ⟨hiff, ?_, fun rs e' h ↦ ⟨?_, resolve_turn_of_ok hlinks hturned h⟩⟩
  · obtain ⟨rs, e', hok⟩ | ⟨f, herror⟩ := resolve_ok_or_error options links e
    · rw [hok, resolve_turn_of_ok hlinks hturned hok]
    · obtain ⟨rs, e', hok⟩ | ⟨f', herror'⟩ := resolve_ok_or_error options (links.turn turned) e
      · obtain ⟨rs', e'', hok'⟩ := hiff.1 ⟨rs, e', hok⟩
        rw [herror] at hok'
        exact absurd (Prod.ext_iff.1 hok').1 (by simp)
      · rw [herror, herror']
  · obtain ⟨p, hplan, hcommitted⟩ := plan_of_resolve h
    have hplanned := forall₂_repetitions (mapM_eq_ok_iff.1 (plan_eq_ok_iff.1 hplan).1)
    exact hcommitted.carried.length_eq.symm.trans hplanned.length_eq.symm

/-- The two neighbours with both routers named. -/
def namedPeering : LinkRegistry where
  crossConnects := [(⟨⟨1, 110⟩, ⟨1, 120⟩, some "br1", some "br1", .peer⟩, 2)]

/-- Declared from the other end, the two links between them have the same ids, in the other order.
-/
theorem resolve_namedPeering_turn :
    namedPeering.Declared ∧
      (namedPeering.turn fun _ ↦ true).crossConnects
        = [(⟨⟨1, 120⟩, ⟨1, 110⟩, some "br1", some "br1", .peer⟩, 2)] ∧
      ∃ rs e', (resolve {} namedPeering).on neighbours = (.ok rs, e') ∧
        rs.map (fun r ↦ (r.a.ia.asn, r.a.id)) = [(110, 65534), (110, 65535)] ∧
        (resolve {} (namedPeering.turn fun _ ↦ true)).on neighbours
          = (.ok (rs.map ResolvedLink.swap), e') := by
  have hdeclared : namedPeering.Declared := by
    have hadd : (LinkRegistry.add
        ⟨.crossConnect, ⟨1, 110⟩, ⟨1, 120⟩, some "br1", some "br1", .peer⟩ 2).after .empty
          = .ok namedPeering :=
      LinkRegistry.add_eq_ok_iff.2 ⟨by decide, by decide, rfl, rfl⟩
    exact .add .empty hadd
  obtain ⟨rs, e', hok, hids⟩ : ∃ rs e', (resolve {} namedPeering).on neighbours = (.ok rs, e') ∧
      rs.map (fun r ↦ (r.a.ia.asn, r.a.id)) = [(110, 65534), (110, 65535)] := ⟨_, _, rfl, rfl⟩
  have hreversible : ∀ d ∈ namedPeering.declarations, true = true → d.1.Reversible := by
    intro d hd _
    obtain rfl := List.mem_singleton.1 hd
    exact ⟨.inr rfl, fun _ ↦ ⟨⟨_, rfl⟩, _, rfl⟩⟩
  obtain ⟨-, -, hturn⟩ := resolve_turn {} hdeclared (fun _ ↦ true) hreversible neighbours
  obtain ⟨hlength, hturned⟩ := hturn rs e' hok
  obtain ⟨r, r', rfl⟩ := List.length_eq_two.1 hlength
  exact ⟨hdeclared, rfl, [r, r'], e', hok, hids, hturned⟩

end Resolution

end Interdomain
