import Interdomain.Proofs.Building.Addresses
import Interdomain.Proofs.Building.Contents
import Mathlib.Data.List.Pairwise

/-!
# Routers at exchanges

A router joins networks by their names, and a name leads to a network of its own AS before it leads
to an exchange. So a router is attached to the network of an exchange exactly if it is declared to
join a network of this name and no network of its AS has it. The address that it has there is the
one at the number of the AS. A second router of the AS would have the same address, which the check
for conflicts refuses, so the network of an exchange has one router of each AS at most.
-/

namespace Interdomain

theorem exchangeNetworkName_inj {id id' : ExchangeId} :
    exchangeNetworkName id = exchangeNetworkName id' ↔ id = id' := by
  refine ⟨fun h ↦ ?_, congrArg exchangeNetworkName⟩
  rw [exchangeNetworkName, exchangeNetworkName, String.append_right_inj] at h
  exact UInt32.toNat_inj.1 (Decimal.text_inj h)

/-- An element with a part that comes only once in a list of parts is the only one with it. -/
theorem eq_of_mem_of_nodup_flatMap {α β : Type} {l : List α} {f : α → List β}
    (h : (l.flatMap f).Nodup) {x y : α} (hx : x ∈ l) (hy : y ∈ l) {b : β} (hxb : b ∈ f x)
    (hyb : b ∈ f y) : x = y := by
  by_contra hne
  have : Std.Symm (Function.onFun List.Disjoint f) := ⟨fun _ _ ↦ List.disjoint_symm⟩
  exact (List.nodup_flatMap.1 h).2.forall hx hy hne hxb hyb

theorem find?_eq_some_iff_of_nodup {α : Type} {l : List α} {f : α → String}
    (h : (l.map f).Nodup) {name : String} {x : α} :
    l.find? (f · = name) = some x ↔ x ∈ l ∧ f x = name := by
  constructor
  · intro hx
    exact ⟨List.mem_of_find?_eq_some hx, by simpa using List.find?_some hx⟩
  · rintro ⟨hx, rfl⟩
    have hsome : (l.find? (f · = f x)).isSome = true :=
      List.find?_isSome.2 ⟨x, hx, decide_eq_true rfl⟩
    obtain ⟨y, hy⟩ := Option.isSome_iff_exists.1 hsome
    have hname : f y = f x := by simpa using List.find?_some hy
    rw [hy, List.inj_on_of_nodup_map h (List.mem_of_find?_eq_some hy) hx hname]

/-! ## Attaching one router -/

namespace AsDecl

/-- An interface that a router of an AS has under a name: to a network of the AS, or else to the
exchange of this name, at the number of the AS. -/
structure Attaches (d : AsDecl) (exchanges : Roster String Network) (name : String)
    (i : Interface) : Prop where
  network : i.network = name
  outside : i.scope = .exchange ↔ name ∉ d.networks.map (·.name)
  address : i.scope = .exchange →
    ∃ n, exchanges.get? name = some n ∧ n.subnet.hostAddress? d.asn.toNat = some i.address

/-- A state of allocation has the networks of an AS beside those of some exchanges. -/
structure Serves (d : AsDecl) (exchanges : Roster String Network) (s : Addressing) : Prop where
  asn : s.asn = d.asn
  inside : ∀ name, name ∈ s.networks.keys ↔ name ∈ d.networks.map (·.name)
  own : ∀ name n o, s.networks.get? name = some (n, o) → n.name = name ∧ n.scope ≠ .exchange
  exchanges : s.exchanges = exchanges

namespace Serves

variable {d : AsDecl} {exchanges : Roster String Network} {s s' : Addressing} {i : Interface}
  {node name : String}

theorem attachInside (h : d.Serves exchanges s) {n : Network} {o : Offsets}
    (hn : s.networks.get? name = some (n, o)) {take? : Offsets → Option (Nat × Offsets)}
    (hok : (Addressing.attachInside n o take?).outcome s = .ok (i, s')) :
    d.Attaches exchanges name i ∧ d.Serves exchanges s' := by
  obtain ⟨rfl, hscope⟩ := h.own name n o hn
  obtain ⟨k, o', -, -, hi, hnetwork, rfl⟩ := Addressing.attachInside_eq_ok hok
  have hinside : n.name ∈ d.networks.map (·.name) := by
    rw [← h.inside, ← Roster.get?_isSome_iff, hn, Option.isSome_some]
  rw [← hi] at hscope
  refine ⟨⟨hnetwork, iff_of_false hscope (not_not.2 hinside), fun hout ↦ absurd hout hscope⟩,
    h.asn, fun name ↦ ?_, fun name m p hm ↦ ?_, h.exchanges⟩
  · rw [Roster.keys_modify, h.inside]
  · rw [Addressing.get?_modify_network hn] at hm
    split at hm
    case isTrue heq =>
      obtain ⟨rfl, -⟩ := Prod.mk.inj (Option.some.inj hm)
      exact ⟨heq.symm, (h.own _ _ _ hn).2⟩
    case isFalse => exact h.own name m p hm

theorem attachHost (h : d.Serves exchanges s)
    (hok : (Addressing.attachHost node name).outcome s = .ok (i, s')) :
    d.Attaches exchanges name i ∧ d.Serves exchanges s' := by
  rw [Addressing.outcome_attachHost] at hok
  split at hok
  case h_1 n o hn => exact h.attachInside hn hok
  case h_2 => exact absurd hok (by simp)

theorem attachRouter (h : d.Serves exchanges s)
    (hnames : ∀ name n, exchanges.get? name = some n → n.name = name)
    (hok : (Addressing.attachRouter node name).outcome s = .ok (i, s')) :
    d.Attaches exchanges name i ∧ d.Serves exchanges s' := by
  rw [Addressing.outcome_attachRouter] at hok
  split at hok
  case h_1 n o hn => exact h.attachInside hn hok
  case h_2 hinside =>
    split at hok
    case h_1 => exact absurd hok (by simp)
    case h_2 n hn =>
      split at hok
      case h_1 => exact absurd hok (by simp)
      case h_2 address haddress =>
        obtain ⟨rfl, rfl⟩ := Prod.mk.inj (Except.ok.inj hok)
        rw [h.exchanges] at hn
        rw [h.asn] at haddress
        have houtside : name ∉ d.networks.map (·.name) := by
          rw [← h.inside, ← Roster.get?_isSome_iff, hinside]
          exact Bool.false_ne_true
        exact ⟨⟨hnames name n hn, iff_of_true rfl houtside, fun _ ↦ ⟨n, hn, haddress⟩⟩, h⟩

end Serves

end AsDecl

/-- What one attachment yields under its name, several yield under theirs. -/
theorem Addressing.forall₂_mapM_attach
    {attach : String → Change Addressing AddressFault Interface} {inv : Addressing → Prop}
    {yields : String → Interface → Prop}
    (step : ∀ s name i s', inv s → (attach name).outcome s = .ok (i, s') → yields name i ∧ inv s')
    {s s' : Addressing} {names : List String} {is : List Interface} (hs : inv s)
    (h : (names.mapM attach).outcome s = .ok (is, s')) : List.Forall₂ yields names is ∧ inv s' := by
  induction names generalizing s is with
  | nil =>
    obtain ⟨rfl, rfl⟩ := Prod.mk.inj (Except.ok.inj h)
    exact ⟨.nil, hs⟩
  | cons name names ih =>
    rw [Change.outcome_mapM_cons] at h
    obtain ⟨⟨i, s₁⟩, hfirst, h⟩ := bind_eq_ok_iff.1 h
    obtain ⟨⟨rest, s₂⟩, hrest, h⟩ := bind_eq_ok_iff.1 h
    obtain ⟨rfl, rfl⟩ := Prod.mk.inj (Except.ok.inj h)
    obtain ⟨hi, hs₁⟩ := step s name i s₁ hs hfirst
    obtain ⟨his, hs₂⟩ := ih hs₁ hrest
    exact ⟨.cons hi his, hs₂⟩

/-! ## Building one AS -/

/-- A router that is attached as it was declared. -/
structure RouterDecl.Attached (d : AsDecl) (exchanges : Roster String Network) (r : RouterDecl)
    (x : String × Router) : Prop where
  name : x.1 = r.name
  interfaces : List.Forall₂ (d.Attaches exchanges) r.networks x.2.interfaces

namespace Site

/-- A site has come as far as the routers of a list, and each of them is attached. -/
structure HasAttachments (d : AsDecl) (exchanges : Roster String Network) (l : List RouterDecl)
    (s : Site) : Prop where
  serves : d.Serves exchanges s.addressing
  routers : List.Forall₂ (RouterDecl.Attached d exchanges) l s.system.routers.entries

variable {d : AsDecl} {exchanges : Roster String Network} {l : List RouterDecl} {s s' : Site}

theorem HasAttachments.addNode
    {add : String → Node → Change AutonomousSystem Fault Unit} {n : NodeDecl}
    (hadd : ∀ a name node a', (add name node).after a = .ok a' → a'.routers = a.routers)
    (h : s.HasAttachments d exchanges l) (hstep : s.addNode add n = .ok s') :
    s'.HasAttachments d exchanges l := by
  obtain ⟨interfaces, addressing, system, hattach, hsystem, rfl⟩ := addNode_eq_ok hstep
  obtain ⟨-, hserves⟩ := Addressing.forall₂_mapM_attach
    (fun _ _ _ _ hs hok ↦ hs.attachHost hok) h.serves hattach
  refine ⟨hserves, ?_⟩
  rw [hadd _ _ _ _ hsystem]
  exact h.routers

theorem HasAttachments.addRouter {r : RouterDecl} (h : s.HasAttachments d exchanges l)
    (hnames : ∀ name n, exchanges.get? name = some n → n.name = name)
    (hstep : s.addRouter r = .ok s') : s'.HasAttachments d exchanges (l ++ [r]) := by
  obtain ⟨interfaces, addressing, hattach, hnew, rfl⟩ := addRouter_eq_ok hstep
  obtain ⟨hinterfaces, hserves⟩ := Addressing.forall₂_mapM_attach
    (fun _ _ _ _ hs hok ↦ hs.attachRouter hnames hok) h.serves hattach
  refine ⟨hserves, ?_⟩
  rw [Roster.entries_insert_of_not_mem _ _ hnew]
  refine List.rel_append h.routers (.cons ⟨rfl, ?_⟩ .nil)
  obtain ⟨crossConnects, hfold⟩ := exists_crossConnects_of_foldl s.system.asn r.name
    r.crossConnects { loopback := loopback s.loopbacks, interfaces }
  rw [routerOf, hfold]
  exact hinterfaces

end Site

namespace AsDecl

variable {d : AsDecl} {exchanges : Roster String Network} {loopbacks : Nat} {s : Site}

theorem serves_start {attributes : SortedMap Isd (SortedSet String)}
    {networks : Roster String Network} (loopbacks : Nat)
    (h : addNetworks { asn := d.asn, attributes } 0 d.networks
      = .ok { asn := d.asn, attributes, networks }) :
    d.Serves exchanges
      (start { asn := d.asn, attributes, networks } exchanges loopbacks).addressing := by
  obtain ⟨_, heq, hall⟩ := addNetworks_eq_ok (d := d) List.drop_zero rfl
    (fun _ _ hmem ↦ absurd hmem List.not_mem_nil) h
  obtain rfl : networks = _ := congrArg AutonomousSystem.networks heq
  obtain ⟨_, heq', -, hnames⟩ := (addNetworks_yields exchanges.keys
    (List.nil_append d.networks).symm (a := { asn := d.asn, attributes }) rfl rfl rfl).good_of_ok h
  obtain rfl : networks = _ := congrArg AutonomousSystem.networks heq'
  refine ⟨rfl, fun name ↦ ?_, fun name n o hn ↦ ?_, rfl⟩
  · exact (Roster.mem_keys_foldl_insert ..).trans (hnames ▸ or_iff_right List.not_mem_nil)
  · obtain ⟨m, hm, rfl, heq⟩ := Roster.exists_of_get?_foldl_insert hn
    obtain ⟨rfl, -⟩ := Prod.mk.inj heq
    obtain ⟨⟨key, _⟩, hentry, rfl⟩ := List.mem_map.1 hm
    refine ⟨rfl, ?_⟩
    rw [(hall key _ hentry).2.scope]
    exact nofun

/-- **The routers of one AS.** All of them are attached when the AS is built. -/
theorem attached_of_build (hnames : ∀ name n, exchanges.get? name = some n → n.name = name)
    (h : d.build exchanges loopbacks = .ok s) :
    List.Forall₂ (RouterDecl.Attached d exchanges) d.routers s.system.routers.entries := by
  obtain ⟨attributes, networks, s₁, s₂, s₃, system, hnetworks, hservices, hhosts, hrouters,
    hgateways, rfl⟩ := passes_of_build h
  obtain ⟨gateways, rfl⟩ := AutonomousSystem.exists_gateways_of_forM hgateways
  have hstart : (start { asn := d.asn, attributes, networks } exchanges loopbacks).HasAttachments d
      exchanges [] := ⟨serves_start loopbacks hnetworks, .nil⟩
  have h₁ := foldlM_induction (fun _ ↦ Site.HasAttachments d exchanges []) hstart
    (fun before n s s' hs hstep ↦ hs.addNode
      (fun a name node a' hadd ↦ (AutonomousSystem.nodeInterfaces_of_addControlService hadd).2)
      hstep) hservices
  have h₂ := foldlM_induction (fun _ ↦ Site.HasAttachments d exchanges []) h₁
    (fun before n s s' hs hstep ↦ hs.addNode
      (fun a name node a' hadd ↦ (AutonomousSystem.nodeInterfaces_of_addHost hadd).2) hstep) hhosts
  have h₃ := foldlM_induction (Site.HasAttachments d exchanges) h₂
    (fun before r s s' hs hstep ↦ hs.addRouter hnames hstep) hrouters
  exact h₃.routers

/-- A router of an AS is declared to join the network of an exchange, and no network of the AS has
its name. -/
def JoinsExchange (d : AsDecl) (r : RouterDecl) (id : ExchangeId) : Prop :=
  exchangeNetworkName id ∈ r.networks ∧ exchangeNetworkName id ∉ d.networks.map (·.name)

instance (d : AsDecl) (r : RouterDecl) (id : ExchangeId) : Decidable (d.JoinsExchange r id) :=
  inferInstanceAs (Decidable (_ ∧ _))

end AsDecl

namespace RouterDecl.Attached

variable {d : AsDecl} {exchanges : Roster String Network} {r : RouterDecl} {x : String × Router}
  {id : ExchangeId}

theorem exists_interface (h : r.Attached d exchanges x) (hjoins : d.JoinsExchange r id) :
    ∃ n address, exchanges.get? (exchangeNetworkName id) = some n ∧
      n.subnet.hostAddress? d.asn.toNat = some address ∧
      ⟨.exchange, exchangeNetworkName id, address⟩ ∈ x.2.interfaces := by
  obtain ⟨hname, houtside⟩ := hjoins
  obtain ⟨⟨scope, network, address⟩, hi, hattaches⟩ := exists_of_mem_of_forall₂ h.interfaces hname
  obtain rfl : scope = .exchange := hattaches.outside.2 houtside
  obtain rfl : network = exchangeNetworkName id := hattaches.network
  obtain ⟨n, hn, haddress⟩ := hattaches.address rfl
  exact ⟨n, address, hn, haddress, hi⟩

/-- An attached router is at an exchange if it was declared to join its network, and then at the
address of its AS. -/
theorem mem_interfaces_iff (h : r.Attached d exchanges x) {address : Ipv4.Address} :
    ⟨.exchange, exchangeNetworkName id, address⟩ ∈ x.2.interfaces ↔
      d.JoinsExchange r id ∧ ∃ n, exchanges.get? (exchangeNetworkName id) = some n ∧
        n.subnet.hostAddress? d.asn.toNat = some address := by
  constructor
  · intro hi
    obtain ⟨name, hname, hattaches⟩ := exists_of_mem_of_forall₂ h.interfaces.flip hi
    obtain rfl : exchangeNetworkName id = name := hattaches.network
    exact ⟨⟨hname, hattaches.outside.1 rfl⟩, hattaches.address rfl⟩
  · rintro ⟨hjoins, n, hn, haddress⟩
    obtain ⟨m, other, hm, hother, hi⟩ := h.exists_interface hjoins
    obtain rfl := Option.some.inj (hm.symm.trans hn)
    obtain rfl := Option.some.inj (hother.symm.trans haddress)
    exact hi

end RouterDecl.Attached

/-! ## Building the whole network -/

theorem ExchangeDecl.build_eq_ok {x : ExchangeDecl} {n : Network} (h : x.build = .ok n) :
    n.scope = .exchange ∧ n.name = exchangeNetworkName x.id ∧ n.mtu = x.packetSize := by
  obtain ⟨subnet, -, h⟩ := bind_eq_ok_iff.1 h
  obtain rfl := Except.ok.inj h
  exact ⟨rfl, rfl, rfl⟩

/-- A router is attached to the network of an exchange under an address. -/
def Emulation.AtExchange (e : Emulation) (id : ExchangeId) (p : Port) (address : Ipv4.Address) :
    Prop :=
  ∃ r, e.routerAt p = some r ∧ ⟨.exchange, exchangeNetworkName id, address⟩ ∈ r.interfaces

/-- The networks of the exchanges have the names that belong to them. -/
def Emulation.NamesExchanges (e : Emulation) : Prop :=
  ∀ id n, e.exchanges.get? id = some n → n.name = exchangeNetworkName id

namespace Emulation.NamesExchanges

variable {e : Emulation}

theorem nodup_names (he : e.NamesExchanges) : (e.exchanges.values.map (·.name)).Nodup := by
  have hnames : e.exchanges.values.map (·.name) = e.exchanges.keys.map exchangeNetworkName := by
    rw [Roster.values, Roster.keys, List.map_map, List.map_map]
    refine List.map_congr_left fun x hx ↦ ?_
    exact he x.1 x.2 ((Roster.get?_eq_some_iff _).2 hx)
  have hkeys : e.exchanges.keys.Nodup := e.exchanges.nodup
  rw [hnames]
  exact hkeys.map fun _ _ h ↦ exchangeNetworkName_inj.1 h

theorem network?_eq_some_iff (he : e.NamesExchanges) {id : ExchangeId} {n : Network} :
    e.network? .exchange (exchangeNetworkName id) = some n ↔ e.exchanges.get? id = some n := by
  rw [network?, find?_eq_some_iff_of_nodup he.nodup_names]
  constructor
  · rintro ⟨hn, hname⟩
    obtain ⟨⟨id', n⟩, hentry, rfl⟩ := List.mem_map.1 hn
    have hfound := (Roster.get?_eq_some_iff _).2 hentry
    obtain rfl := exchangeNetworkName_inj.1 ((he _ _ hfound).symm.trans hname)
    exact hfound
  · intro hfound
    exact ⟨List.mem_map_of_mem ((Roster.get?_eq_some_iff _).1 hfound), he _ _ hfound⟩

theorem get?_exchangesByName (he : e.NamesExchanges) (name : String) :
    e.exchangesByName.get? name = e.network? .exchange name := by
  have hempty : (∅ : Roster String Network).get? name = none := rfl
  have hreverse : (e.exchanges.values.reverse.map (·.name)).Nodup := by
    rw [List.map_reverse, List.nodup_reverse]
    exact he.nodup_names
  rw [network?, exchangesByName, Roster.get?_foldl_insert, hempty, Option.or_none, Option.map_id']
  -- The last one of a name and the first one are the same.
  ext n
  rw [find?_eq_some_iff_of_nodup he.nodup_names, find?_eq_some_iff_of_nodup hreverse,
    List.mem_reverse]

end Emulation.NamesExchanges

namespace Config

variable {c : Config} {e : Emulation}

theorem exists_build_of_exchange (h : c.build = .ok e) {id : ExchangeId} {n : Network}
    (hn : e.exchanges.get? id = some n) :
    n.scope = .exchange ∧ n.name = exchangeNetworkName id ∧
      ∃ x ∈ c.exchanges, x.id = id ∧ x.build = .ok n := by
  obtain ⟨hdeclared, -⟩ := sites_of_build h
  obtain ⟨x, hx, rfl, hbuild⟩ := hdeclared id n hn
  obtain ⟨hscope, hname, -⟩ := ExchangeDecl.build_eq_ok hbuild
  exact ⟨hscope, hname, x, hx, rfl, hbuild⟩

theorem namesExchanges_of_build (h : c.build = .ok e) : e.NamesExchanges := by
  intro id n hn
  obtain ⟨-, hname, -⟩ := exists_build_of_exchange h hn
  exact hname

theorem attached_of_sites (h : c.build = .ok e) (d : AsDecl) (loopbacks : Nat) (s : Site)
    (hbuild : d.build e.exchangesByName loopbacks = .ok s) :
    List.Forall₂ (RouterDecl.Attached d e.exchangesByName) d.routers s.system.routers.entries := by
  obtain ⟨hdeclared, -⟩ := sites_of_build h
  exact AsDecl.attached_of_build
    (fun name n hn ↦ (knowsExchanges_of_exchanges hdeclared name n hn).1) hbuild

/-- **Routers at exchanges.** A router is attached to the network of an exchange exactly if it was
declared to join it, with the address that the number of its AS has there. -/
theorem atExchange_iff_of_build (h : c.build = .ok e) {id : ExchangeId} {p : Port}
    {address : Ipv4.Address} :
    e.AtExchange id p address ↔
      ∃ d ∈ c.ases, ∃ r ∈ d.routers, p = (d.asn, r.name) ∧ d.JoinsExchange r id ∧
        ∃ n, e.exchanges.get? id = some n ∧
          n.subnet.hostAddress? d.asn.toNat = some address := by
  have hnames := namesExchanges_of_build h
  simp only [← hnames.network?_eq_some_iff, ← hnames.get?_exchangesByName]
  constructor
  · rintro ⟨router, hrouter, hi⟩
    obtain ⟨d, hd, r, hr, hport, hattached⟩ := exists_decl_of_routerAt h
      (fun _ _ _ hx ↦ RouterDecl.Attached.name hx) (attached_of_sites h) hrouter
    exact ⟨d, hd, r, hr, hport, hattached.mem_interfaces_iff.1 hi⟩
  · rintro ⟨d, hd, r, hr, rfl, hjoins⟩
    obtain ⟨router, hrouter, hattached⟩ := exists_routerAt_of_decl h
      (fun _ _ _ hx ↦ RouterDecl.Attached.name hx) (attached_of_sites h) hd hr
    exact ⟨router, hrouter, hattached.mem_interfaces_iff.2 hjoins⟩

/-- A router that was declared to join the network of an exchange has an address there. -/
theorem exists_atExchange_of_build (h : c.build = .ok e) {d : AsDecl} (hd : d ∈ c.ases)
    {r : RouterDecl} (hr : r ∈ d.routers) {id : ExchangeId} (hjoins : d.JoinsExchange r id) :
    ∃ address, e.AtExchange id (d.asn, r.name) address := by
  obtain ⟨router, hrouter, hattached⟩ := exists_routerAt_of_decl h
    (fun _ _ _ hx ↦ RouterDecl.Attached.name hx) (attached_of_sites h) hd hr
  obtain ⟨-, address, -, -, hi⟩ := hattached.exists_interface hjoins
  exact ⟨address, router, hrouter, hi⟩

/-- **One router of an AS.** The network of an exchange has at most one router of each AS. -/
theorem atExchange_unique_of_build (h : c.build = .ok e) {id : ExchangeId} {asn : Asn}
    {name name' : String} {address address' : Ipv4.Address}
    (hname : e.AtExchange id (asn, name) address) (hname' : e.AtExchange id (asn, name') address') :
    name = name' ∧ address = address' := by
  have haddress : address = address' := by
    obtain ⟨d, -, r, -, hport, -, n, hn, haddress⟩ := (atExchange_iff_of_build h).1 hname
    obtain ⟨d', -, r', -, hport', -, n', hn', haddress'⟩ := (atExchange_iff_of_build h).1 hname'
    obtain rfl := Option.some.inj (hn.symm.trans hn')
    have hasn : d.asn = d'.asn := (congrArg Prod.fst hport).symm.trans (congrArg Prod.fst hport')
    rw [hasn] at haddress
    exact Option.some.inj (haddress.symm.trans haddress')
  refine ⟨?_, haddress⟩
  obtain ⟨router, hrouter, hi⟩ := hname
  obtain ⟨router', hrouter', hi'⟩ := hname'
  obtain ⟨a, ha, hrouter⟩ := Option.bind_eq_some_iff.1 hrouter
  obtain ⟨a', ha', hrouter'⟩ := Option.bind_eq_some_iff.1 hrouter'
  obtain rfl := Option.some.inj (ha.symm.trans ha')
  obtain ⟨-, sites, hassembled⟩ := sites_of_build h
  obtain ⟨s, hs, -, rfl⟩ := (hassembled.found _ _).1 ha
  -- The address would have been claimed for both routers.
  have hclaimed := (List.nodup_flatMap.1 hassembled.claimed).1 s hs
  have hvalues : Construction.exchangeAddresses s.system
      = s.system.routers.entries.flatMap fun x ↦
        (x.2.interfaces.filter (·.scope = .exchange)).map fun i ↦ (i.network, i.address) := by
    rw [Construction.exchangeAddresses, Roster.values, List.flatMap_map]
  rw [hvalues] at hclaimed
  have hmem : ∀ {r : Router} {address : Ipv4.Address},
      ⟨.exchange, exchangeNetworkName id, address⟩ ∈ r.interfaces →
        (exchangeNetworkName id, address) ∈
          (r.interfaces.filter (·.scope = .exchange)).map fun i ↦ (i.network, i.address) :=
    fun hi ↦ List.mem_map_of_mem (List.mem_filter.2 ⟨hi, decide_eq_true rfl⟩)
  have hentry := eq_of_mem_of_nodup_flatMap hclaimed ((Roster.get?_eq_some_iff _).1 hrouter)
    ((Roster.get?_eq_some_iff _).1 hrouter') (hmem hi) (haddress ▸ hmem hi')
  exact congrArg Prod.fst hentry

end Config

end Interdomain
