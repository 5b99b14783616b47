import Interdomain.Proofs.Validation

/-!
# Well-formed configurations

What a well-formed configuration is can be said without an order of checks: which things are
distinct, which names and numbers refer to something declared, and where the template of the
default addresses has to serve. Validation passes exactly the well-formed configurations.
-/

namespace Interdomain

/-- A network has addresses: its own, or those of the template, which serves numbers of one
octet. -/
def NetworkDecl.HasAddresses (n : NetworkDecl) (asn : Asn) (index : Nat) : Prop :=
  n.subnet ≠ none ∨ asn.toNat ≤ 255 ∧ index ≤ 255

structure ExchangeDecl.WellFormed (x : ExchangeDecl) : Prop where
  addresses : x.subnet ≠ none ∨ x.id.toNat ≤ 255
  packets : x.mtu ≠ some 0

/-- An AS as it has to be beside the domains and exchanges of a configuration. -/
structure AsDecl.WellFormed (c : Config) (a : AsDecl) : Prop where
  member : a.isds ≠ []
  domains : ∀ m ∈ a.isds, m.isd ∈ c.isds
  domainsDistinct : (a.isds.map (·.isd)).Nodup
  networksDistinct : (a.networks.map (·.name)).Nodup
  addresses : ∀ index (n : NetworkDecl), a.networks[index]? = some n → n.HasAddresses a.asn index
  packets : ∀ n ∈ a.networks, n.mtu ≠ some 0
  nodesDistinct :
    (a.routers.map (·.name) ++ a.hosts.map (·.name) ++ a.controlServices.map (·.name)).Nodup
  hosts : ∀ h ∈ a.hosts, ∀ name ∈ h.networks, ∃ n ∈ a.networks, n.name = name
  controlServices : ∀ s ∈ a.controlServices, ∀ name ∈ s.networks, ∃ n ∈ a.networks, n.name = name
  /-- Routers join exchanges too, under names from which the number of the exchange is read. -/
  routers : ∀ r ∈ a.routers, ∀ name ∈ r.networks,
    (∃ n ∈ a.networks, n.name = name) ∨ ∃ x ∈ c.exchanges, exchangeOfName? name = some x.id
  connections : ∀ r ∈ a.routers, ∀ x ∈ r.crossConnects, x.mtu ≠ some 0

/-- A link as it has to be beside the exchanges of a configuration. -/
structure LinkDecl.WellFormed (c : Config) (l : LinkDecl) : Prop where
  repeated : 1 ≤ l.count.toNat
  medium : (l.kind = .exchange ∧ ∃ x ∈ c.exchanges, l.exchange = some x.id) ∨
    (l.kind = .crossConnect ∧ l.exchange = none)

/-- A configuration as it has to be. -/
structure Config.WellFormed (c : Config) : Prop where
  isdsDistinct : c.isds.Nodup
  exchangesDistinct : (c.exchanges.map (·.id)).Nodup
  asesDistinct : (c.ases.map (·.asn)).Nodup
  exchanges : ∀ x ∈ c.exchanges, x.WellFormed
  ases : ∀ a ∈ c.ases, a.WellFormed c
  links : ∀ l ∈ c.links, l.WellFormed c

/-! ## Networks by their place -/

section Lists

variable {α : Type} {l : List α}

theorem forall_split_iff_forall_index {P : Nat → α → Prop} :
    (∀ before x after, l = before ++ x :: after → P before.length x) ↔
      ∀ index x, l[index]? = some x → P index x := by
  constructor
  · intro h index x hx
    obtain ⟨hlt, rfl⟩ := List.getElem?_eq_some_iff.1 hx
    have hsplit : l = l.take index ++ l[index] :: l.drop (index + 1) := by
      rw [← List.drop_eq_getElem_cons hlt, List.take_append_drop]
    have hP := h _ _ _ hsplit
    rwa [List.length_take, Nat.min_eq_left (Nat.le_of_lt hlt)] at hP
  · rintro h before x after rfl
    refine h before.length x ?_
    rw [List.getElem?_append_right (Nat.le_refl _), Nat.sub_self, List.getElem?_cons_zero]

end Lists

namespace Config

variable {c : Config}

theorem namesExchange_iff {name : String} :
    c.namesExchange name ↔ ∃ x ∈ c.exchanges, exchangeOfName? name = some x.id := by
  constructor
  · rintro ⟨id, hid, hmem⟩
    obtain ⟨x, hx, rfl⟩ := List.mem_map.1 hmem
    exact ⟨x, hx, hid⟩
  · rintro ⟨x, hx, hid⟩
    exact ⟨x.id, hid, List.mem_map_of_mem hx⟩

/-! ## The parts of a configuration -/

theorem checkIsds_eq_ok_iff {l : List Isd} : checkEach checkIsd [] l = .ok () ↔ l.Nodup := by
  have hdistinct := @nodup_map_iff_not_mem_before Isd Isd id l
  simp only [List.map_id, id] at hdistinct
  simp only [checkEach_eq_ok_iff, List.nil_append, checkIsd, require_eq_ok_iff, hdistinct]

/-- What validation finds of an AS, said without the order of its checks. -/
theorem sound_iff_wellFormed {a : AsDecl} : a.Sound c ↔ a.WellFormed c := by
  have haddresses := @forall_split_iff_forall_index _ a.networks fun index n ↦
    n.subnet.isSome = true ∨ a.asn.toNat ≤ lastTemplateNumber ∧ index ≤ lastTemplateNumber
  simp only [← Option.ne_none_iff_isSome] at haddresses
  constructor
  · intro h
    have hnode : ∀ n ∈ a.nodes, ∀ name ∈ n.networks, ∃ m ∈ a.networks, m.name = name := by
      intro n hn name hname
      have hjoined : (n.name, name) ∈ a.nodeNetworks :=
        List.mem_flatMap.2 ⟨n, hn, List.mem_map_of_mem hname⟩
      exact List.mem_map.1 (h.nodeNetworks _ hjoined)
    refine {
      member := h.member
      domains := h.domains
      domainsDistinct := h.domainsDistinct
      networksDistinct := h.networksDistinct
      addresses := haddresses.1 (by simpa only [Option.ne_none_iff_isSome] using h.addresses)
      packets := h.packets
      nodesDistinct := h.nodesDistinct
      hosts := fun n hn ↦ hnode n (List.mem_append_left _ hn)
      controlServices := fun n hn ↦ hnode n (List.mem_append_right _ hn)
      routers := fun r hr name hname ↦ ?_
      connections := h.connectionPackets }
    have hjoined : (r.name, name) ∈ a.routerNetworks :=
      List.mem_flatMap.2 ⟨r, hr, List.mem_map_of_mem hname⟩
    exact (h.routerNetworks _ hjoined).imp List.mem_map.1 namesExchange_iff.1
  · intro h
    refine {
      member := h.member
      domains := h.domains
      domainsDistinct := h.domainsDistinct
      networksDistinct := h.networksDistinct
      addresses := by simpa only [Option.ne_none_iff_isSome] using haddresses.2 h.addresses
      packets := h.packets
      nodesDistinct := h.nodesDistinct
      nodeNetworks := fun joined hjoined ↦ ?_
      routerNetworks := fun joined hjoined ↦ ?_
      connectionPackets := h.connections }
    · obtain ⟨n, hn, hjoined⟩ := List.mem_flatMap.1 hjoined
      obtain ⟨name, hname, rfl⟩ := List.mem_map.1 hjoined
      rcases List.mem_append.1 hn with hn | hn
      · exact List.mem_map.2 (h.hosts n hn name hname)
      · exact List.mem_map.2 (h.controlServices n hn name hname)
    · obtain ⟨r, hr, hjoined⟩ := List.mem_flatMap.1 hjoined
      obtain ⟨name, hname, rfl⟩ := List.mem_map.1 hjoined
      exact (h.routers r hr name hname).imp List.mem_map.2 namesExchange_iff.2

theorem linkDefect?_eq_none_iff {l : LinkDecl} : c.linkDefect? l = none ↔ l.WellFormed c := by
  have hcount : l.count ≠ 0 ↔ 1 ≤ l.count.toNat := by
    rw [Nat.one_le_iff_ne_zero, ne_eq, ne_eq, ← UInt32.toNat_inj]
    rfl
  rw [linkDefect?]
  split
  case isTrue hzero =>
    refine iff_of_false (by simp) fun h ↦ hcount.2 h.repeated hzero
  case isFalse hnonzero =>
    -- Of the four kinds of medium two can be well-formed, one of them beside a declared exchange.
    have hrepeated := hcount.1 hnonzero
    split
    case h_1 hkind hnone =>
      refine iff_of_false (by simp) fun h ↦ ?_
      rcases h.medium with ⟨-, x, -, hx⟩ | ⟨hkind', -⟩
      · exact absurd (hnone.symm.trans hx) (by simp)
      · exact absurd (hkind.symm.trans hkind') (by simp)
    case h_2 id hkind hid =>
      split
      case isTrue hdeclared =>
        obtain ⟨x, hx, rfl⟩ := List.mem_map.1 hdeclared
        exact iff_of_true rfl ⟨hrepeated, .inl ⟨hkind, x, hx, hid⟩⟩
      case isFalse hundeclared =>
        refine iff_of_false (by simp) fun h ↦ ?_
        rcases h.medium with ⟨-, x, hx, hid'⟩ | ⟨hkind', -⟩
        · have heq : id = x.id := Option.some.inj (hid.symm.trans hid')
          exact hundeclared (heq ▸ List.mem_map_of_mem hx)
        · exact absurd (hkind.symm.trans hkind') (by simp)
    case h_3 hkind hsome =>
      refine iff_of_false (by simp) fun h ↦ ?_
      rcases h.medium with ⟨hkind', -⟩ | ⟨-, hnone⟩
      · exact absurd (hkind.symm.trans hkind') (by simp)
      · exact absurd (hsome.symm.trans hnone) (by simp)
    case h_4 hkind hnone => exact iff_of_true rfl ⟨hrepeated, .inr ⟨hkind, hnone⟩⟩

/-- **Validation is exact.** It passes the well-formed configurations and no other. -/
theorem validate_eq_ok_iff_wellFormed (c : Config) : c.validate = .ok () ↔ c.WellFormed := by
  simp only [validate_eq_ok_iff, checkIsds_eq_ok_iff, checkExchanges_eq_ok_iff,
    checkAses_eq_ok_iff, checkLinks_eq_ok_iff, sound_iff_wellFormed, linkDefect?_eq_none_iff,
    ← Option.ne_none_iff_isSome]
  constructor
  · rintro ⟨hisds, ⟨hexchanges, haddresses, hpackets⟩, ⟨hases, hwellFormed⟩, hlinks⟩
    exact ⟨hisds, hexchanges, hases, fun x hx ↦ ⟨haddresses x hx, hpackets x hx⟩, hwellFormed,
      hlinks⟩
  · intro h
    exact ⟨h.isdsDistinct,
      ⟨h.exchangesDistinct, fun x hx ↦ (h.exchanges x hx).addresses,
        fun x hx ↦ (h.exchanges x hx).packets⟩,
      ⟨h.asesDistinct, h.ases⟩, h.links⟩

end Config

end Interdomain
