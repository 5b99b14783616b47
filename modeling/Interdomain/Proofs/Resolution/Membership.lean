import Interdomain.Proofs.Building.Exchanges
import Interdomain.Proofs.Resolution.Planning

/-!
# Links at exchanges

A link over an exchange needs one thing of each of its two ASes: a router that is attached to the
network of the exchange. Planning looks for it among the interfaces, by the scope and the name of the
network, so a network of the AS that has the name of the exchange does not count. In a network that
was built there is at most one router to find, and its address is the one at the number of the AS.
So it does not matter in which order the routers are searched, and the ends of a link can be told
from the configuration: the addresses differ because the two ASes do, and both are proper addresses
of hosts.
-/

namespace Interdomain

namespace Resolution

/-- An AS is a member of an exchange: it has a router there, and the named one where one is named. -/
def IsMember (e : Emulation) (id : ExchangeId) (ia : IsdAsn) (router : Option String) : Prop :=
  ∃ name address, (∀ s ∈ router, name = s) ∧ e.AtExchange id (ia.asn, name) address

/-- An AS is declared to be a member of an exchange: one of its routers joins the network of the
exchange, the named one where one is named. -/
def DeclaresMember (c : Config) (id : ExchangeId) (asn : Asn) (router : Option String) : Prop :=
  ∃ d ∈ c.ases, d.asn = asn ∧
    ∃ r ∈ d.routers, (∀ s ∈ router, r.name = s) ∧ d.JoinsExchange r id

instance (c : Config) (id : ExchangeId) (asn : Asn) (router : Option String) :
    Decidable (DeclaresMember c id asn router) :=
  inferInstanceAs (Decidable (∃ d ∈ c.ases, d.asn = asn ∧
    ∃ r ∈ d.routers, (∀ s ∈ router, r.name = s) ∧ d.JoinsExchange r id))

variable {c : Config} {e : Emulation} {id : ExchangeId} {ia : IsdAsn} {router : Option String}
  {x : PlannedEnd}

theorem isMember_iff_declares (h : c.build = .ok e) :
    IsMember e id ia router ↔ DeclaresMember c id ia.asn router := by
  constructor
  · rintro ⟨name, address, hnamed, hat⟩
    obtain ⟨d, hd, r, hr, hport, hjoins, -⟩ := (Config.atExchange_iff_of_build h).1 hat
    obtain ⟨hasn, rfl⟩ := Prod.mk.inj hport
    exact ⟨d, hd, hasn.symm, r, hr, hnamed, hjoins⟩
  · rintro ⟨d, hd, hasn, r, hr, hnamed, hjoins⟩
    obtain ⟨address, hat⟩ := Config.exists_atExchange_of_build h hd hr hjoins
    exact ⟨r.name, address, hnamed, hasn ▸ hat⟩

/-! ## Finding the router -/

theorem exists_candidates (h : IsMember e id ia router) :
    ∃ xs y, candidates e ia router = .ok xs ∧ y ∈ xs ∧
      ∃ address, ⟨.exchange, exchangeNetworkName id, address⟩ ∈ y.2.interfaces := by
  obtain ⟨name, address, hnamed, r, hr, hi⟩ := h
  cases router with
  | none =>
    refine ⟨_, (name, r), rfl, ?_, address, hi⟩
    obtain ⟨s, hs, hr⟩ := Option.bind_eq_some_iff.1 hr
    rw [Emulation.routers, hs]
    exact (Roster.get?_eq_some_iff _).1 hr
  | some s =>
    obtain rfl : name = s := hnamed s rfl
    have hfound : namedRouter e ia name = .ok (name, r) := namedRouter_eq_ok_iff.2 ⟨rfl, hr⟩
    refine ⟨[(name, r)], (name, r), ?_, List.mem_cons_self, address, hi⟩
    rw [candidates, hfound]
    rfl

theorem attachesTo_iff {n : Network} (hscope : n.scope = .exchange)
    (hname : n.name = exchangeNetworkName id) {i : Interface} :
    i.AttachesTo n ↔ i = ⟨.exchange, exchangeNetworkName id, i.address⟩ := by
  rw [Interface.AttachesTo, hscope, hname]
  constructor
  · rintro ⟨hi, hn⟩
    rw [← hi, ← hn]
  · intro hi
    rw [hi]
    exact ⟨rfl, rfl⟩

theorem as?_of_isMember (h : IsMember e id ia router) : ∃ s, e.as? ia.asn = some s := by
  obtain ⟨name, address, -, r, hr, -⟩ := h
  obtain ⟨s, hs, -⟩ := Option.bind_eq_some_iff.1 hr
  exact ⟨s, hs⟩

section Built

variable (h : c.build = .ok e)

include h

theorem atExchange_of_exchangeEnd (hx : exchangeEnd e ia router id = .ok x) :
    x.ia = ia ∧ (∀ s ∈ router, x.router = s) ∧ e.AtExchange id x.port x.address := by
  obtain ⟨hia, hadmits, n, r, i, hn, hr, hi, hattached, haddress⟩ := exchangeEnd_eq_ok hx
  rw [(Config.namesExchanges_of_build h).network?_eq_some_iff] at hn
  obtain ⟨hscope, hname, -⟩ := Config.exists_build_of_exchange h hn
  refine ⟨hia, admits_iff.1 hadmits, r, hr, ?_⟩
  rw [← haddress, ← (attachesTo_iff hscope hname).1 hattached]
  exact hi

theorem exchange_of_isMember (hmember : IsMember e id ia router) :
    ∃ n, e.exchanges.get? id = some n := by
  obtain ⟨name, address, -, hat⟩ := hmember
  obtain ⟨-, -, -, -, -, -, n, hn, -⟩ := (Config.atExchange_iff_of_build h).1 hat
  exact ⟨n, hn⟩

theorem exists_exchangeEnd (hmember : IsMember e id ia router) :
    ∃ x, exchangeEnd e ia router id = .ok x := by
  obtain ⟨n, hn⟩ := exchange_of_isMember h hmember
  obtain ⟨hscope, hname, -⟩ := Config.exists_build_of_exchange h hn
  obtain ⟨xs, y, hxs, hy, address, hi⟩ := exists_candidates hmember
  have hattached : (y.2.interfaces.find? (·.AttachesTo n)).isSome = true :=
    List.find?_isSome.2 ⟨_, hi, decide_eq_true ((attachesTo_iff hscope hname).2 rfl)⟩
  have hfound : (xs.findSome? (attachedEnd? ia n)).isSome = true := by
    refine List.findSome?_isSome_iff.2 ⟨y, hy, ?_⟩
    rw [attachedEnd?, Option.isSome_map]
    exact hattached
  obtain ⟨x, hx⟩ := Option.isSome_iff_exists.1 hfound
  rw [← (Config.namesExchanges_of_build h).network?_eq_some_iff] at hn
  exact ⟨x, exchangeEnd_eq_ok_iff.2 ⟨n, xs, hn, hxs, hx⟩⟩

theorem exists_exchangeEnd_iff :
    (∃ x, exchangeEnd e ia router id = .ok x) ↔ IsMember e id ia router := by
  constructor
  · rintro ⟨x, hx⟩
    obtain ⟨rfl, hnamed, hat⟩ := atExchange_of_exchangeEnd h hx
    exact ⟨x.router, x.address, hnamed, hat⟩
  · exact exists_exchangeEnd h

end Built

/-! ## Planning -/

/-- An end of a link sits at the only router that its AS has at the exchange, and its address is the
one at the number of the AS, between the first and the last one of the network. -/
structure Seated (e : Emulation) (id : ExchangeId) (n : Network) (x : PlannedEnd) : Prop where
  attached : e.AtExchange id x.port x.address
  only : ∀ name address, e.AtExchange id (x.ia.asn, name) address →
    name = x.router ∧ address = x.address
  value : x.address.value = n.subnet.base.value + x.ia.asn.toNat
  above : n.subnet.base.value < x.address.value
  below : x.address.value < n.subnet.broadcast.value

theorem seated_of_exchangeEnd (h : c.build = .ok e) (hx : exchangeEnd e ia router id = .ok x)
    {n : Network} (hn : e.exchanges.get? id = some n) : Seated e id n x := by
  obtain ⟨-, -, hat⟩ := atExchange_of_exchangeEnd h hx
  obtain ⟨d, -, r, -, hport, -, m, hm, haddress⟩ := (Config.atExchange_iff_of_build h).1 hat
  obtain rfl := Option.some.inj (hm.symm.trans hn)
  have hasn : d.asn = x.ia.asn := (congrArg Prod.fst hport).symm
  rw [hasn] at haddress
  obtain ⟨habove, hbelow⟩ := Ipv4.Subnet.between_of_hostAddress? haddress
  refine ⟨hat, ?_, Ipv4.Subnet.value_of_hostAddress? haddress, habove, hbelow⟩
  intro name address hother
  exact Config.atExchange_unique_of_build h hother hat

theorem exists_planLink_exchange_iff (h : c.build = .ok e) {k : LinkKey} {count : UInt32}
    (hmedium : k.medium = .exchange id) :
    (∃ l, planLink e (k, count) = .ok l) ↔
      IsMember e id k.ends.a k.ends.aRouter ∧ IsMember e id k.ends.b k.ends.bRouter := by
  obtain ⟨medium, ends⟩ := k
  obtain rfl : medium = .exchange id := hmedium
  constructor
  · rintro ⟨l, hl⟩
    obtain ⟨-, -, a, b, n, ha, hb, -, -⟩ := planExchangeLink_eq_ok_iff.1 hl
    exact ⟨(exists_exchangeEnd_iff h).1 ⟨a, ha⟩, (exists_exchangeEnd_iff h).1 ⟨b, hb⟩⟩
  · rintro ⟨hmemberA, hmemberB⟩
    obtain ⟨a, ha⟩ := exists_exchangeEnd h hmemberA
    obtain ⟨b, hb⟩ := exists_exchangeEnd h hmemberB
    obtain ⟨n, hn⟩ := exchange_of_isMember h hmemberA
    rw [← (Config.namesExchanges_of_build h).network?_eq_some_iff] at hn
    have hasA := checkAs_eq_ok (as?_of_isMember hmemberA)
    have hasB := checkAs_eq_ok (as?_of_isMember hmemberB)
    exact ⟨_, planExchangeLink_eq_ok_iff.2 ⟨hasA, hasB, a, b, n, ha, hb, hn, rfl⟩⟩

/-- **Links between members.** A declared link over an exchange can be planned exactly if its two
ASes are members, with the named routers where they are named, and members are told from the
configuration: a network of the AS that only has the name of the exchange does not make it one. The
ends of the planned link sit at the only routers of their ASes there, and their addresses differ. -/
theorem planLink_exchange_iff_members {links : LinkRegistry} (h : c.build = .ok e)
    (hlinks : links.Declared) {k : LinkKey} {count : UInt32}
    (hd : (k, count) ∈ links.declarations) (hmedium : k.medium = .exchange id) :
    ((∃ l, planLink e (k, count) = .ok l) ↔
      IsMember e id k.ends.a k.ends.aRouter ∧ IsMember e id k.ends.b k.ends.bRouter) ∧
    (∀ ia router, IsMember e id ia router ↔ DeclaresMember c id ia.asn router) ∧
    ∀ l, planLink e (k, count) = .ok l → Realizes e (k, count) l ∧ l.a.address ≠ l.b.address ∧
      ∃ n, e.exchanges.get? id = some n ∧ (∃ x ∈ c.exchanges, x.id = id ∧ x.build = .ok n) ∧
        Seated e id n l.a ∧ Seated e id n l.b := by
  refine ⟨exists_planLink_exchange_iff h hmedium, fun _ _ ↦ isMember_iff_declares h, ?_⟩
  intro l hl
  have hrealizes := planLink_realizes hl
  have hasn : l.a.ia.asn ≠ l.b.ia.asn := by
    rw [hrealizes.a, hrealizes.b]
    exact hlinks.asn_ne hd
  obtain ⟨medium, ends⟩ := k
  obtain rfl : medium = .exchange id := hmedium
  obtain ⟨-, -, a, b, n, ha, hb, hn, rfl⟩ := planExchangeLink_eq_ok_iff.1 hl
  rw [(Config.namesExchanges_of_build h).network?_eq_some_iff] at hn
  obtain ⟨-, -, hdeclared⟩ := Config.exists_build_of_exchange h hn
  have hseatA := seated_of_exchangeEnd h ha hn
  have hseatB := seated_of_exchangeEnd h hb hn
  refine ⟨hrealizes, ?_, n, hn, hdeclared, hseatA, hseatB⟩
  intro haddress
  have hvalue := congrArg Ipv4.Address.value haddress
  rw [hseatA.value, hseatB.value] at hvalue
  exact hasn (UInt32.toNat_inj.1 (Nat.add_left_cancel hvalue))

/-! ### A network in the place of an exchange -/

/-- Three ASes and an exchange with room for six routers. The last two ASes join it, and the first
one has a network of its name. -/
def eclipse : Config where
  isds := [1]
  exchanges := [{ id := 7, subnet := some (.ofOctets 10 7 0 3 29) }]
  ases := [
    { asn := 1
      isds := [{ isd := 1 }]
      networks := [{ name := "ix7" }]
      routers := [{ name := "br1", networks := ["ix7"] }] },
    { asn := 5
      isds := [{ isd := 1 }]
      networks := [{ name := "net0" }]
      routers := [
        { name := "br1", networks := ["net0"] },
        { name := "br2", networks := ["net0", "ix7"] }] },
    { asn := 6
      isds := [{ isd := 1 }]
      routers := [{ name := "br1", networks := ["ix7"] }] }]

/-- A link between the two ASes that join the exchange. -/
def eclipseLink : LinkKey := ⟨.exchange 7, ⟨1, 5⟩, ⟨1, 6⟩, none, some "br1", .core⟩

/-- A link to the AS that does not. -/
def eclipsedLink : LinkKey := ⟨.exchange 7, ⟨1, 1⟩, ⟨1, 6⟩, none, none, .core⟩

/-- Both links. -/
def eclipseLinks : LinkRegistry := (LinkRegistry.empty.push eclipseLink 2).push eclipsedLink 1

theorem declared_eclipseLinks : eclipseLinks.Declared := by
  have hfirst : (LinkRegistry.add eclipseLink 2).after .empty
      = .ok (LinkRegistry.empty.push eclipseLink 2) :=
    LinkRegistry.add_eq_ok_iff.2 ⟨by decide, by decide, by decide, rfl⟩
  have hsecond : (LinkRegistry.add eclipsedLink 1).after (LinkRegistry.empty.push eclipseLink 2)
      = .ok eclipseLinks :=
    LinkRegistry.add_eq_ok_iff.2 ⟨by decide, by decide, by decide, rfl⟩
  exact .add (.add .empty hfirst) hsecond

/-- The first link leads from the second router of its AS to the last address of the exchange. The
second link cannot be planned. -/
theorem eclipse_members :
    eclipse.validate = .ok () ∧ eclipseLinks.Declared ∧
      ∃ e, eclipse.build = .ok e ∧
        (∃ l, planLink e (eclipseLink, 2) = .ok l ∧ l.a.router = "br2" ∧
          l.a.address = .ofOctets 10 7 0 5 ∧ l.b.address = .ofOctets 10 7 0 6) ∧
        ¬∃ l, planLink e (eclipsedLink, 1) = .ok l := by
  obtain ⟨e, he, -⟩ : ∃ e, eclipse.build = .ok e ∧ () = () :=
    exists_eq_ok_of_map_toOption (by decide +kernel)
  obtain ⟨hplanned, hmember, hends⟩ := planLink_exchange_iff_members he declared_eclipseLinks
    List.mem_cons_self rfl
  obtain ⟨hplanned', -, -⟩ := planLink_exchange_iff_members he declared_eclipseLinks
    (List.mem_cons_of_mem _ List.mem_cons_self) rfl
  refine ⟨by decide +kernel, declared_eclipseLinks, e, he, ?_, ?_⟩
  · have hmemberA : DeclaresMember eclipse 7 5 none := by decide +kernel
    have hmemberB : DeclaresMember eclipse 7 6 (some "br1") := by decide +kernel
    obtain ⟨l, hl⟩ := hplanned.2 ⟨(hmember _ _).2 hmemberA, (hmember _ _).2 hmemberB⟩
    obtain ⟨hrealizes, -, n, -, ⟨x, hx, -, hbuild⟩, hseatA, hseatB⟩ := hends l hl
    obtain rfl := List.mem_singleton.1 hx
    obtain rfl := Except.ok.inj hbuild
    have hrouter : IsMember e 7 ⟨1, 5⟩ (some "br2") := (hmember _ _).2 (by decide +kernel)
    obtain ⟨name, address, hname, hat⟩ := hrouter
    obtain rfl := hname "br2" rfl
    have ha : l.a.ia = ⟨1, 5⟩ := hrealizes.a
    have hb : l.b.ia = ⟨1, 6⟩ := hrealizes.b
    refine ⟨l, hl, (hseatA.only _ _ (ha ▸ hat)).1.symm, ?_, ?_⟩
    · refine Ipv4.Address.ext ?_
      rw [hseatA.value, ha]
      decide
    · refine Ipv4.Address.ext ?_
      rw [hseatB.value, hb]
      decide
  · intro hexists
    obtain ⟨hmemberA, -⟩ := hplanned'.1 hexists
    have hmissing : ¬DeclaresMember eclipse 7 1 none := by decide +kernel
    exact hmissing ((hmember _ _).1 hmemberA)

end Resolution

end Interdomain
