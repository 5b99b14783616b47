import Interdomain.Proofs.Building.Ledger

/-!
# Addresses in the whole network

No two interfaces agree in scope, network and address: inside the ASes the ledgers see to it, and on
the exchanges the check for conflicts. Whether the addresses alone differ is a matter of the
subnets. The template gives AS `n` the block `10.n.i.0/24` for its network in place `i`, and
exchange `n` the block `10.n.0.0/24`. The blocks of different networks differ, except that the first
network of AS `n` shares its block with exchange `n`.
-/

namespace Interdomain

def Emulation.interfaces (e : Emulation) : List Interface := e.ases.values.flatMap (·.interfaces)

/-- The network of a configuration that an interface is on, and the offset of its address. -/
inductive Config.Places (c : Config) (i : Interface) : Prop
  | inside {d : AsDecl} {n : Network} {k : Nat} (declared : d ∈ c.ases) (network : d.HasNetwork n)
      (scope : i.scope = .inside d.asn) (name : i.network = n.name)
      (address : n.subnet.hostAddress? k = some i.address)
  | exchange {d : AsDecl} {x : ExchangeDecl} {n : Network} (declared : d ∈ c.ases)
      (exchange : x ∈ c.exchanges) (built : x.build = .ok n) (scope : i.scope = .exchange)
      (name : i.network = n.name) (address : n.subnet.hostAddress? d.asn.toNat = some i.address)

/-! ## One site -/

theorem exchangeAddresses_eq {a : AutonomousSystem}
    (h : ∀ i ∈ a.nodeInterfaces, i.scope ≠ .exchange) :
    Construction.exchangeAddresses a
      = (a.interfaces.filter (·.scope = .exchange)).map fun i ↦ (i.network, i.address) := by
  have hnodes : a.nodeInterfaces.filter (·.scope = .exchange) = [] := by
    rw [List.filter_eq_nil_iff]
    intro i hi
    simpa using h i hi
  rw [AutonomousSystem.interfaces, List.filter_append, hnodes, List.nil_append,
    List.filter_flatMap, List.map_flatMap, Construction.exchangeAddresses]

namespace Site.Accounts

variable {c : Config} {d : AsDecl} {exchanges : Roster String Network} {s : Site} {i : Interface}

theorem scope_eq (h : s.Accounts d exchanges) (hi : i ∈ s.system.interfaces)
    (hscope : i.scope ≠ .exchange) : i.scope = .inside d.asn := by
  cases h.ledger.gave i hi with
  | inside _ scope _ _ => rw [scope, h.ledger.asn]
  | exchange _ scope _ => exact absurd scope hscope

theorem places (h : s.Accounts d exchanges) (hd : d ∈ c.ases)
    (hknown : c.KnowsExchanges exchanges) (hi : i ∈ s.system.interfaces) : c.Places i := by
  cases h.ledger.gave i hi with
  | inside network scope address _ =>
    obtain ⟨hname, hnetwork⟩ := h.ledger.networks _ _ _ network
    exact .inside hd hnetwork (h.ledger.asn ▸ scope) hname.symm address
  | exchange network scope address =>
    rw [h.ledger.exchanges] at network
    obtain ⟨hname, x, hx, hbuilt⟩ := hknown _ _ network
    exact .exchange hd hx hbuilt scope hname.symm (h.ledger.asn ▸ address)

end Site.Accounts

/-! ## All sites -/

namespace Config.Assembled

variable {c : Config} {exchanges : Roster String Network} {sites : List Site} {e : Emulation}

theorem perm_values (h : c.Assembled exchanges sites e) :
    e.ases.values.Perm (sites.map (·.system)) := by
  have hkeys : e.ases.values.map (·.asn) = e.ases.keys := by
    rw [SortedMap.values, SortedMap.keys, List.map_map]
    refine List.map_congr_left fun entry hentry ↦ ?_
    obtain ⟨s, -, hasn, hsystem⟩ :=
      (h.found entry.1 entry.2).1 ((SortedMap.mem_toList_iff _).1 hentry)
    rw [Function.comp_apply, ← hsystem, hasn]
  have hvalues : e.ases.values.Nodup := .of_map (·.asn) (hkeys ▸ SortedMap.nodup_keys _)
  have hsites : (sites.map (·.system)).Nodup := by
    refine .of_map (·.asn) ?_
    rw [List.map_map]
    exact h.distinct
  rw [List.perm_ext_iff_of_nodup hvalues hsites]
  intro a
  rw [SortedMap.mem_values_iff, List.mem_map]
  constructor
  · rintro ⟨asn, ha⟩
    obtain ⟨s, hs, -, hsystem⟩ := (h.found asn a).1 ha
    exact ⟨s, hs, hsystem⟩
  · rintro ⟨s, hs, hsystem⟩
    exact ⟨s.system.asn, (h.found _ a).2 ⟨s, hs, rfl, hsystem⟩⟩

theorem perm_interfaces (h : c.Assembled exchanges sites e) :
    e.interfaces.Perm (sites.flatMap (·.system.interfaces)) := by
  have hperm := h.perm_values.flatMap_right AutonomousSystem.interfaces
  rwa [List.flatMap_map] at hperm

theorem exists_accounts (h : c.Assembled exchanges sites e) (hknown : c.KnowsExchanges exchanges)
    {s : Site} (hs : s ∈ sites) :
    ∃ d ∈ c.ases, s.system.asn = d.asn ∧ s.Accounts d exchanges := by
  obtain ⟨d, hd, loopbacks, hbuild⟩ := exists_of_mem_of_forall₂ h.built.flip hs
  exact ⟨d, hd, ((d.build_yields exchanges loopbacks).good_of_ok hbuild).asn,
    AsDecl.accounts_of_build (fun name n hn ↦ (hknown name n hn).1) hbuild⟩

theorem nodup_exchange (h : c.Assembled exchanges sites e) (hknown : c.KnowsExchanges exchanges) :
    ((sites.flatMap (·.system.interfaces)).filter (·.scope = .exchange)).Nodup := by
  have hclaimed : (sites.flatMap fun s ↦ Construction.exchangeAddresses s.system)
      = ((sites.flatMap (·.system.interfaces)).filter (·.scope = .exchange)).map
        fun i ↦ (i.network, i.address) := by
    rw [List.filter_flatMap, List.map_flatMap]
    refine List.flatMap_congr fun s hs ↦ ?_
    obtain ⟨d, -, -, haccounts⟩ := h.exists_accounts hknown hs
    exact exchangeAddresses_eq haccounts.inside
  exact .of_map _ (hclaimed ▸ h.claimed)

theorem nodup_inside (h : c.Assembled exchanges sites e) (hknown : c.KnowsExchanges exchanges) :
    ((sites.flatMap (·.system.interfaces)).filter (·.scope ≠ .exchange)).Nodup := by
  rw [List.filter_flatMap, List.nodup_flatMap]
  constructor
  · intro s hs
    obtain ⟨d, -, -, haccounts⟩ := h.exists_accounts hknown hs
    exact haccounts.ledger.distinct
  · refine (List.pairwise_map.1 h.distinct).imp_of_mem fun {s s'} hs hs' hne ↦ ?_
    obtain ⟨d, -, hasn, haccounts⟩ := h.exists_accounts hknown hs
    obtain ⟨d', -, hasn', haccounts'⟩ := h.exists_accounts hknown hs'
    intro i hi hi'
    obtain ⟨hi, hscope⟩ := List.mem_filter.1 hi
    obtain ⟨hi', -⟩ := List.mem_filter.1 hi'
    have hinside := of_decide_eq_true hscope
    have heq := (haccounts.scope_eq hi hinside).symm.trans (haccounts'.scope_eq hi' hinside)
    rw [← hasn, ← hasn'] at heq
    exact hne (Scope.inside.inj heq)

theorem nodup_interfaces (h : c.Assembled exchanges sites e)
    (hknown : c.KnowsExchanges exchanges) : e.interfaces.Nodup := by
  rw [h.perm_interfaces.nodup_iff,
    ← (List.filter_append_perm (·.scope = .exchange) _).nodup_iff, List.nodup_append']
  refine ⟨h.nodup_exchange hknown, by simpa using h.nodup_inside hknown, fun i hi hi' ↦ ?_⟩
  have hexchange := (List.mem_filter.1 hi).2
  have hinside := (List.mem_filter.1 hi').2
  rw [hexchange] at hinside
  exact absurd hinside (by simp)

end Config.Assembled

namespace Config

variable {c : Config} {e : Emulation} {i j : Interface}

/-- **No interface twice.** Whatever addresses are declared, the interfaces of a network that was
built differ from each other, and each has a host address of the network it is on. -/
theorem interfaces_of_build (h : c.build = .ok e) :
    e.interfaces.Nodup ∧ ∀ i ∈ e.interfaces, c.Places i := by
  obtain ⟨exchanges, sites, hknown, hassembled⟩ := exists_assembled_of_build h
  refine ⟨hassembled.nodup_interfaces hknown, fun i hi ↦ ?_⟩
  obtain ⟨s, hs, hi⟩ := List.mem_flatMap.1 (hassembled.perm_interfaces.mem_iff.1 hi)
  obtain ⟨d, hd, -, haccounts⟩ := hassembled.exists_accounts hknown hs
  exact haccounts.places hd hknown hi

/-! ## The template -/

/-- No network and no exchange has addresses of its own. -/
structure UsesTemplate (c : Config) : Prop where
  networks : ∀ d ∈ c.ases, ∀ n ∈ d.networks, n.subnet = none
  exchanges : ∀ x ∈ c.exchanges, x.subnet = none

/-- An interface whose network has the addresses `10.<second>.<third>.0/24` by the template. -/
inductive InBlock (c : Config) (i : Interface) : Nat → Nat → Prop
  | inside {d : AsDecl} {n : NetworkDecl} {index : Nat} (declared : d ∈ c.ases)
      (network : d.networks[index]? = some n) (scope : i.scope = .inside d.asn)
      (name : i.network = n.name) : InBlock c i d.asn.toNat index
  | exchange {x : ExchangeDecl} (declared : x ∈ c.exchanges) (scope : i.scope = .exchange)
      (name : i.network = exchangeNetworkName x.id) : InBlock c i x.id.toNat 0

/-- One interface is on the first network of an AS and the other on the exchange of its number. -/
def SharesBlock (c : Config) (i j : Interface) : Prop :=
  ∃ d ∈ c.ases, ∃ n ∈ d.networks.head?, ∃ x ∈ c.exchanges, x.id = d.asn ∧
    i.scope = .inside d.asn ∧ i.network = n.name ∧
    j.scope = .exchange ∧ j.network = exchangeNetworkName x.id

/-- An address of a default subnet tells the two numbers of the template. -/
theorem octets_of_defaultSubnet? {second third k : Nat} {n : Ipv4.Subnet} {a : Ipv4.Address}
    (hn : defaultSubnet? second third = some n) (ha : n.hostAddress? k = some a) :
    a.value / 0x10000 = 0xa00 + second ∧ a.value / 0x100 % 0x100 = third := by
  rw [defaultSubnet?] at hn
  split at hn
  case isFalse => exact absurd hn (by simp)
  case isTrue hoctets =>
    obtain rfl := Option.some.inj hn
    obtain ⟨hvalue, -, hbelow⟩ := Ipv4.Subnet.hostAddress?_eq_some_iff.1 ha
    have hsecond : (UInt8.ofNat second).toNat = second :=
      Nat.mod_eq_of_lt (Nat.lt_succ_of_le hoctets.1)
    have hthird : (UInt8.ofNat third).toNat = third :=
      Nat.mod_eq_of_lt (Nat.lt_succ_of_le hoctets.2)
    simp only [Ipv4.Subnet.broadcast, Ipv4.Subnet.base, Ipv4.Subnet.size, Ipv4.Address.ofOctets,
      hsecond, hthird] at hvalue hbelow
    have hten : UInt8.toNat 10 = 10 := rfl
    have hzero : UInt8.toNat 0 = 0 := rfl
    have hsize : Nat.pow 2 (32 - 24) = 256 := rfl
    rw [hten, hzero, hsize] at hvalue hbelow
    omega

theorem exists_inBlock (hc : c.UsesTemplate) (h : c.Places i) :
    ∃ second third, c.InBlock i second third ∧
      i.address.value / 0x10000 = 0xa00 + second ∧ i.address.value / 0x100 % 0x100 = third := by
  cases h with
  | @inside d n k declared network scope name address =>
    obtain ⟨index, x, hx, hname, hsubnet⟩ := network.declared
    rw [hc.networks d declared x (List.mem_of_getElem? hx), Option.none_or] at hsubnet
    exact ⟨_, _, .inside declared hx scope (name.trans hname),
      octets_of_defaultSubnet? hsubnet address⟩
  | @exchange d x n declared exchange built scope name address =>
    obtain ⟨subnet, hsubnet, hn⟩ := bind_eq_ok_iff.1 built
    obtain rfl := Except.ok.inj hn
    have hsubnet := (subnetOf_yields ..).good_of_ok hsubnet
    rw [hc.exchanges x exchange, Option.none_or] at hsubnet
    exact ⟨_, _, .exchange exchange scope name, octets_of_defaultSubnet? hsubnet address⟩

/-- One block is for one network, or for an AS and an exchange of one number. -/
theorem InBlock.network_eq_or {second third : Nat} (hdistinct : (c.ases.map (·.asn)).Nodup)
    (hi : c.InBlock i second third) (hj : c.InBlock j second third) :
    (i.scope = j.scope ∧ i.network = j.network) ∨ c.SharesBlock i j ∨ c.SharesBlock j i := by
  cases hi with
  | @inside d n _ declared network scope name =>
    generalize hsecond : d.asn.toNat = second at hj
    cases hj with
    | @inside d' n' _ declared' network' scope' name' =>
      have hasn : d.asn = d'.asn := UInt32.toNat_inj.1 hsecond
      obtain rfl := List.inj_on_of_nodup_map hdistinct declared declared' hasn
      obtain rfl := Option.some.inj (network.symm.trans network')
      exact .inl ⟨scope.trans scope'.symm, name.trans name'.symm⟩
    | @exchange x declared' scope' name' =>
      rw [← List.head?_eq_getElem?] at network
      exact .inr (.inl ⟨d, declared, n, network, x, declared', UInt32.toNat_inj.1 hsecond.symm,
        scope, name, scope', name'⟩)
  | @exchange x declared scope name =>
    generalize hsecond : x.id.toNat = second at hj
    generalize hthird : 0 = third at hj
    cases hj with
    | @inside d n _ declared' network scope' name' =>
      rw [← hthird, ← List.head?_eq_getElem?] at network
      exact .inr (.inr ⟨d, declared', n, network, x, declared, UInt32.toNat_inj.1 hsecond,
        scope', name', scope, name⟩)
    | @exchange x' declared' scope' name' =>
      have hid : x.id = x'.id := UInt32.toNat_inj.1 hsecond
      exact .inl ⟨scope.trans scope'.symm, name.trans (hid ▸ name'.symm)⟩

/-- **Default addresses.** Where all addresses come from the template, two interfaces of a network
that was built have one address only if one of them is on the first network of an AS and the other
on the exchange of its number. So all addresses differ if no exchange has the number of an AS with
networks. -/
theorem default_addresses_distinct (hc : c.UsesTemplate) (h : c.build = .ok e) :
    e.interfaces.Pairwise
        (fun i j ↦ i.address = j.address → c.SharesBlock i j ∨ c.SharesBlock j i) ∧
      ((∀ d ∈ c.ases, d.networks ≠ [] → d.asn ∉ c.exchanges.map (·.id)) →
        (e.interfaces.map (·.address)).Nodup) := by
  obtain ⟨hnodup, hplaces⟩ := interfaces_of_build h
  have hdistinct := (c.build_yields.good_of_ok h).distinct
  have hpairs : e.interfaces.Pairwise
      fun i j ↦ i.address = j.address → c.SharesBlock i j ∨ c.SharesBlock j i := by
    refine hnodup.imp_of_mem fun {i j} hi hj hne haddress ↦ ?_
    obtain ⟨second, third, hblock, hsecond, hthird⟩ := exists_inBlock hc (hplaces i hi)
    obtain ⟨second', third', hblock', hsecond', hthird'⟩ := exists_inBlock hc (hplaces j hj)
    -- The two numbers of the template are read off the address.
    rw [← haddress] at hsecond' hthird'
    obtain rfl : second = second' := by omega
    obtain rfl : third = third' := hthird.symm.trans hthird'
    rcases hblock.network_eq_or hdistinct hblock' with ⟨hscope, hnetwork⟩ | hshares
    · refine absurd ?_ hne
      obtain ⟨scope, network, address⟩ := i
      cases hscope
      cases hnetwork
      cases haddress
      rfl
    · exact hshares
  refine ⟨hpairs, fun hapart ↦ List.pairwise_map.2 (hpairs.imp fun {i j} hshares heq ↦ ?_)⟩
  have hnone : ∀ i j, ¬c.SharesBlock i j := by
    rintro i j ⟨d, hd, n, hn, x, hx, hid, -⟩
    refine hapart d hd ?_ (hid ▸ List.mem_map_of_mem hx)
    exact List.ne_nil_of_mem (List.mem_of_mem_head? hn)
  exact (hshares heq).elim (hnone i j) (hnone j i)

/-! ### An exchange beside some ASes -/

/-- An AS with a host in its network and a router at the exchange of the same number. -/
def namesake : Config where
  isds := [1]
  exchanges := [{ id := 71 }]
  ases := [{
    asn := 71
    isds := [{ isd := 1 }]
    networks := [{ name := "net0" }]
    hosts := [{ name := "h1", networks := ["net0"] }]
    routers := [{ name := "br1", networks := ["ix71"] }] }]

/-- The host and the router have one address. -/
theorem namesake_shares :
    namesake.validate = .ok () ∧ namesake.UsesTemplate ∧
      ∃ e, namesake.build = .ok e ∧
        e.interfaces.map (·.address) = [.ofOctets 10 71 0 71, .ofOctets 10 71 0 71] ∧
        ¬(e.interfaces.map (·.address)).Nodup := by
  obtain ⟨e, he, haddresses⟩ : ∃ e, namesake.build = .ok e ∧
      e.interfaces.map (·.address) = [.ofOctets 10 71 0 71, .ofOctets 10 71 0 71] :=
    exists_eq_ok_of_map_toOption (by decide +kernel)
  refine ⟨rfl, ⟨by decide, by decide⟩, e, he, haddresses, ?_⟩
  rw [haddresses]
  decide

/-- Two ASes that meet at an exchange, one of them with two networks and nodes of all kinds. -/
def campus : Config where
  isds := [1]
  exchanges := [{ id := 7 }]
  ases := [
    { asn := 1
      isds := [{ isd := 1 }]
      networks := [{ name := "net0" }, { name := "net1" }]
      hosts := [{ name := "h1", networks := ["net0", "net1"] }]
      controlServices := [{ name := "cs1", networks := ["net0"] }]
      routers := [
        { name := "br1", networks := ["net0", "ix7"] },
        { name := "br2", networks := ["net0", "net1"] }] },
    { asn := 2
      isds := [{ isd := 1 }]
      networks := [{ name := "net0" }]
      routers := [{ name := "br1", networks := ["ix7", "net0"] }] }]

theorem campus_addresses_distinct :
    campus.UsesTemplate ∧
      ∃ e, campus.build = .ok e ∧ e.interfaces.length = 9 ∧
        (e.interfaces.map (·.address)).Nodup := by
  have hc : campus.UsesTemplate := ⟨by decide, by decide⟩
  obtain ⟨e, he, hlength⟩ : ∃ e, campus.build = .ok e ∧ e.interfaces.length = 9 :=
    exists_eq_ok_of_map_toOption (by decide +kernel)
  obtain ⟨-, hdistinct⟩ := default_addresses_distinct hc he
  exact ⟨hc, e, he, hlength, hdistinct (by decide)⟩

end Config

end Interdomain
