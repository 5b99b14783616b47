import Interdomain.Link.Resolution
import Interdomain.Proofs.Allocation

/-!
# Planned links

Planning only adds to a declaration what the declaration leaves open. A planned link keeps the
medium, the type, the two ASes and the count, it keeps the routers where they are named, and the
routers it chooses are routers of these ASes.
-/

namespace Interdomain

namespace Resolution

/-- A planned link is the declared one with routers of the two ASes. -/
structure Realizes (e : Emulation) (d : LinkKey × UInt32) (l : PlannedLink) : Prop where
  medium : l.medium = d.1.medium
  linkType : l.linkType = d.1.ends.linkType
  count : l.count = d.2
  a : l.a.ia = d.1.ends.a
  b : l.b.ia = d.1.ends.b
  aNamed : ∀ name ∈ d.1.ends.aRouter, l.a.router = name
  bNamed : ∀ name ∈ d.1.ends.bRouter, l.b.router = name
  aFound : ∃ r, e.routerAt l.a.port = some r
  bFound : ∃ r, e.routerAt l.b.port = some r

variable {e : Emulation}

theorem router?_of_mem_routers {n : Asn} {x : String × Router} (h : x ∈ e.routers n) :
    e.router? n x.1 = some x.2 := by
  rw [Emulation.routers] at h
  split at h
  case h_1 a ha => rw [Emulation.router?_eq, ha, Option.bind_some, a.routers.get?_eq_some_iff.2 h]
  case h_2 => exact absurd h List.not_mem_nil

theorem checkAs_eq_ok {ia : IsdAsn} (h : ∃ s, e.as? ia.asn = some s) : checkAs e ia = .ok () := by
  obtain ⟨s, hs⟩ := h
  rw [checkAs, hs, Option.isSome_some, if_pos rfl]

theorem namedRouter_eq_ok_iff {ia : IsdAsn} {name : String} {x : String × Router} :
    namedRouter e ia name = .ok x ↔ x.1 = name ∧ e.router? ia.asn name = some x.2 := by
  rw [namedRouter]
  cases e.router? ia.asn name with
  | none => simp
  | some r => simp [Prod.ext_iff, eq_comm]

theorem admits_iff {name : Option String} {router : String} :
    admits name router = true ↔ ∀ s ∈ name, router = s := by
  cases name <;> simp [admits, eq_comm]

/-! ## Cross-connects -/

/-- The routers that are found are routers of the two ASes that the names admit. -/
theorem discover?_eq_some {ends : LinkEnds} {a b : String × Router}
    (h : discover? e ends = some (a, b)) :
    (e.router? ends.a.asn a.1 = some a.2 ∧ admits ends.aRouter a.1 = true) ∧
      e.router? ends.b.asn b.1 = some b.2 ∧ admits ends.bRouter b.1 = true := by
  obtain ⟨x, hx, h⟩ := List.exists_of_findSome?_eq_some h
  split at h
  case isFalse => exact absurd h (by simp)
  case isTrue hadmits =>
    obtain ⟨⟨asn, name⟩, -, h⟩ := List.exists_of_findSome?_eq_some h
    dsimp only at h
    split at h
    case isFalse => exact absurd h (by simp)
    case isTrue hpeer =>
      obtain ⟨r, hr, heq⟩ := Option.map_eq_some_iff.1 h
      obtain ⟨rfl, rfl⟩ := Prod.mk.inj heq
      exact ⟨⟨router?_of_mem_routers hx, hadmits⟩, hpeer.1 ▸ hr, hpeer.2⟩

theorem crossConnectRouters_eq_ok {ends : LinkEnds} {a b : String × Router}
    (h : crossConnectRouters e ends = .ok (a, b)) :
    (e.router? ends.a.asn a.1 = some a.2 ∧ admits ends.aRouter a.1 = true) ∧
      e.router? ends.b.asn b.1 = some b.2 ∧ admits ends.bRouter b.1 = true := by
  rw [crossConnectRouters] at h
  split at h
  case h_1 aName bName haName hbName =>
    obtain ⟨x, hx, h⟩ := bind_eq_ok_iff.1 h
    obtain ⟨y, hy, h⟩ := bind_eq_ok_iff.1 h
    obtain ⟨rfl, rfl⟩ := Prod.mk.inj (Except.ok.inj h)
    obtain ⟨rfl, hx⟩ := namedRouter_eq_ok_iff.1 hx
    obtain ⟨rfl, hy⟩ := namedRouter_eq_ok_iff.1 hy
    rw [admits_iff, admits_iff, haName, hbName]
    exact ⟨⟨hx, fun s hs ↦ Option.some.inj hs⟩, hy, fun s hs ↦ Option.some.inj hs⟩
  case h_2 =>
    obtain ⟨-, -, h⟩ := bind_eq_ok_iff.1 h
    obtain ⟨-, -, h⟩ := bind_eq_ok_iff.1 h
    split at h
    case h_1 pair hpair =>
      obtain rfl := Except.ok.inj h
      exact discover?_eq_some hpair
    case h_2 => exact absurd h (by simp)

theorem connection_eq_ok {ends : LinkEnds} {own : String × Router} {peer : String} {ia : IsdAsn}
    {side : CrossConnect} (h : connection ends own peer ia = .ok side) :
    own.2.crossConnects.get? (ia.asn, peer) = some side := by
  rw [connection] at h
  split at h
  case h_1 _ hside => rw [hside, Except.ok.inj h]
  case h_2 => exact absurd h (by simp)

theorem planCrossConnect_eq_ok {ends : LinkEnds} {count : UInt32} {l : PlannedLink}
    (h : planCrossConnect e ends count = .ok l) :
    ∃ a b aSide bSide n, crossConnectRouters e ends = .ok (a, b) ∧
      a.2.crossConnects.get? (ends.b.asn, b.1) = some aSide ∧
      b.2.crossConnects.get? (ends.a.asn, a.1) = some bSide ∧
      aSide.network = bSide.network ∧ e.network? .crossConnect aSide.network = some n ∧
      l = {
        medium := .crossConnect
        linkType := ends.linkType
        a := ⟨ends.a, a.1, aSide.address.address⟩
        b := ⟨ends.b, b.1, bSide.address.address⟩
        mtu := n.mtu
        count } := by
  obtain ⟨-, -, h⟩ := bind_eq_ok_iff.1 h
  obtain ⟨-, -, h⟩ := bind_eq_ok_iff.1 h
  obtain ⟨⟨a, b⟩, hrouters, h⟩ := bind_eq_ok_iff.1 h
  obtain ⟨aSide, haSide, h⟩ := bind_eq_ok_iff.1 h
  obtain ⟨bSide, hbSide, h⟩ := bind_eq_ok_iff.1 h
  split at h
  case isTrue => exact absurd h (by simp)
  case isFalse hsame =>
    split at h
    case h_1 => exact absurd h (by simp)
    case h_2 n hn =>
      exact ⟨a, b, aSide, bSide, n, hrouters, connection_eq_ok haSide, connection_eq_ok hbSide,
        not_not.1 hsame, hn, (Except.ok.inj h).symm⟩

theorem planCrossConnect_realizes {ends : LinkEnds} {count : UInt32} {l : PlannedLink}
    (h : planCrossConnect e ends count = .ok l) : Realizes e (⟨.crossConnect, ends⟩, count) l := by
  obtain ⟨a, b, aSide, bSide, n, hrouters, -, -, -, -, rfl⟩ := planCrossConnect_eq_ok h
  obtain ⟨⟨ha, haName⟩, hb, hbName⟩ := crossConnectRouters_eq_ok hrouters
  exact ⟨rfl, rfl, rfl, rfl, rfl, admits_iff.1 haName, admits_iff.1 hbName, ⟨a.2, ha⟩, ⟨b.2, hb⟩⟩

/-! ## Exchanges -/

theorem candidates_eq_ok {ia : IsdAsn} {router : Option String} {xs : List (String × Router)}
    (h : candidates e ia router = .ok xs) {x : String × Router} (hx : x ∈ xs) :
    admits router x.1 = true ∧ e.router? ia.asn x.1 = some x.2 := by
  cases router with
  | none =>
    obtain rfl := Except.ok.inj h
    exact ⟨rfl, router?_of_mem_routers hx⟩
  | some name =>
    obtain ⟨y, hy, h⟩ := bind_eq_ok_iff.1 h
    obtain rfl := Except.ok.inj h
    obtain rfl : x = y := List.mem_singleton.1 hx
    obtain ⟨rfl, hr⟩ := namedRouter_eq_ok_iff.1 hy
    exact ⟨admits_iff.2 fun s hs ↦ Option.some.inj hs, hr⟩

theorem exchangeEnd_eq_ok_iff {ia : IsdAsn} {router : Option String} {id : ExchangeId}
    {x : PlannedEnd} :
    exchangeEnd e ia router id = .ok x ↔
      ∃ n xs, e.network? .exchange (exchangeNetworkName id) = some n ∧
        candidates e ia router = .ok xs ∧ xs.findSome? (attachedEnd? ia n) = some x := by
  constructor
  · intro h
    rw [exchangeEnd] at h
    split at h
    case h_1 => exact absurd h (by simp)
    case h_2 n hn =>
      obtain ⟨xs, hxs, h⟩ := bind_eq_ok_iff.1 h
      split at h
      case h_2 => exact absurd h (by simp)
      case h_1 planned hplanned =>
        obtain rfl := Except.ok.inj h
        exact ⟨n, xs, hn, hxs, hplanned⟩
  · rintro ⟨n, xs, hn, hxs, hplanned⟩
    simp only [exchangeEnd, hn, hxs, bind, Except.bind, hplanned]
    rfl

/-- The end at an exchange is a router of the AS that the name admits, with the address of an
interface that is attached to the network of the exchange. -/
theorem exchangeEnd_eq_ok {ia : IsdAsn} {router : Option String} {id : ExchangeId}
    {x : PlannedEnd} (h : exchangeEnd e ia router id = .ok x) :
    x.ia = ia ∧ admits router x.router = true ∧ ∃ n r i,
      e.network? .exchange (exchangeNetworkName id) = some n ∧ e.routerAt x.port = some r ∧
        i ∈ r.interfaces ∧ i.AttachesTo n ∧ i.address = x.address := by
  obtain ⟨n, xs, hn, hxs, hplanned⟩ := exchangeEnd_eq_ok_iff.1 h
  obtain ⟨y, hy, hfound⟩ := List.exists_of_findSome?_eq_some hplanned
  obtain ⟨i, hi, rfl⟩ := Option.map_eq_some_iff.1 hfound
  obtain ⟨hadmits, hr⟩ := candidates_eq_ok hxs hy
  have hattached : i.AttachesTo n := by simpa using List.find?_some hi
  exact ⟨rfl, hadmits, n, y.2, i, hn, hr, List.mem_of_find?_eq_some hi, hattached, rfl⟩

theorem planExchangeLink_eq_ok_iff {id : ExchangeId} {ends : LinkEnds} {count : UInt32}
    {l : PlannedLink} :
    planExchangeLink e id ends count = .ok l ↔
      checkAs e ends.a = .ok () ∧ checkAs e ends.b = .ok () ∧
        ∃ a b n, exchangeEnd e ends.a ends.aRouter id = .ok a ∧
          exchangeEnd e ends.b ends.bRouter id = .ok b ∧
          e.network? .exchange (exchangeNetworkName id) = some n ∧
          l = { medium := .exchange id, linkType := ends.linkType, a, b, mtu := n.mtu, count } := by
  rw [planExchangeLink, seq_eq_ok_iff, seq_eq_ok_iff]
  refine and_congr_right fun _ ↦ and_congr_right fun _ ↦ ?_
  rw [bind_eq_ok_iff]
  refine exists_congr fun a ↦ ?_
  rw [bind_eq_ok_iff]
  constructor
  · rintro ⟨ha, b, hb, h⟩
    split at h
    case h_1 => exact absurd h (by simp)
    case h_2 n hn => exact ⟨b, n, ha, hb, hn, (Except.ok.inj h).symm⟩
  · rintro ⟨b, n, ha, hb, hn, rfl⟩
    refine ⟨ha, b, hb, ?_⟩
    rw [hn]
    rfl

theorem planExchangeLink_realizes {id : ExchangeId} {ends : LinkEnds} {count : UInt32}
    {l : PlannedLink} (h : planExchangeLink e id ends count = .ok l) :
    Realizes e (⟨.exchange id, ends⟩, count) l := by
  obtain ⟨-, -, a, b, n, ha, hb, -, rfl⟩ := planExchangeLink_eq_ok_iff.1 h
  obtain ⟨haIa, haName, -, r, -, -, hr, -⟩ := exchangeEnd_eq_ok ha
  obtain ⟨hbIa, hbName, -, s, -, -, hs, -⟩ := exchangeEnd_eq_ok hb
  exact ⟨rfl, rfl, rfl, haIa, hbIa, admits_iff.1 haName, admits_iff.1 hbName, ⟨r, hr⟩, ⟨s, hs⟩⟩

/-! ## All declarations -/

theorem planLink_realizes {d : LinkKey × UInt32} {l : PlannedLink} (h : planLink e d = .ok l) :
    Realizes e d l := by
  obtain ⟨⟨medium, ends⟩, count⟩ := d
  cases medium with
  | crossConnect => exact planCrossConnect_realizes h
  | exchange id => exact planExchangeLink_realizes h

end Resolution

end Interdomain
