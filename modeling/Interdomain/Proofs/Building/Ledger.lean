import Interdomain.Proofs.Building.Stages
import Interdomain.Proofs.Subnets

/-!
# The addresses of one AS

Every address inside an AS comes from an offset that was free and is free no longer, so no two
interfaces on one network have the same. The invariant is a ledger: all interfaces so far, each with
the offset it has used up, beside the offsets that are left. An attachment to an exchange takes no
offset, since there the number of the AS decides.
-/

namespace Interdomain

/-! ## Offsets -/

namespace Offsets

def Free (o : Offsets) (k : Nat) : Prop := o.low ≤ k ∧ k ≤ o.high

/-- A way to take offsets takes one that is free, and leaves the others as they are. -/
def TakesOne (take? : Offsets → Option (Nat × Offsets)) : Prop :=
  ∀ ⦃o k o'⦄, take? o = some (k, o') → o.Free k ∧ ∀ m, o'.Free m ↔ o.Free m ∧ m ≠ k

theorem takesOne_takeLow? : TakesOne takeLow? := by
  intro o k o' h
  rw [takeLow?] at h
  split at h
  case isTrue => exact absurd h (by simp)
  case isFalse hsome =>
    obtain ⟨rfl, rfl⟩ := Prod.mk.inj (Option.some.inj h)
    refine ⟨⟨Nat.le_refl _, Nat.not_lt.1 hsome⟩, fun m ↦ ?_⟩
    simp only [Free]
    omega

theorem takesOne_takeHigh? : TakesOne takeHigh? := by
  intro o k o' h
  rw [takeHigh?] at h
  split at h
  case isTrue => exact absurd h (by simp)
  case isFalse hsome =>
    obtain ⟨rfl, rfl⟩ := Prod.mk.inj (Option.some.inj h)
    -- The last offset is not zero, so it is one less afterwards.
    obtain ⟨hlow, hpos⟩ := not_or.1 hsome
    refine ⟨⟨Nat.not_lt.1 hlow, Nat.le_refl _⟩, fun m ↦ ?_⟩
    simp only [Free]
    omega

end Offsets

/-! ## The ledger -/

/-- Where the address of an interface has come from. -/
inductive Addressing.Gave (s : Addressing) (i : Interface) : Prop
  | inside {n : Network} {o : Offsets} {k : Nat} (network : s.networks.get? i.network = some (n, o))
      (scope : i.scope = .inside s.asn) (address : n.subnet.hostAddress? k = some i.address)
      (taken : ¬o.Free k)
  | exchange {n : Network} (network : s.exchanges.get? i.network = some n)
      (scope : i.scope = .exchange) (address : n.subnet.hostAddress? s.asn.toNat = some i.address)

/-- The interfaces of a list are those of an AS beside some exchanges. -/
structure AsDecl.Ledger (d : AsDecl) (exchanges : Roster String Network) (s : Addressing)
    (is : List Interface) : Prop where
  asn : s.asn = d.asn
  exchanges : s.exchanges = exchanges
  networks : ∀ name n o, s.networks.get? name = some (n, o) → n.name = name ∧ d.HasNetwork n
  gave : ∀ i ∈ is, s.Gave i
  /-- No interface inside the AS comes twice. -/
  distinct : (is.filter (·.scope ≠ .exchange)).Nodup

namespace Addressing

variable {s s' : Addressing} {n : Network} {o : Offsets}
  {take? : Offsets → Option (Nat × Offsets)} {i j : Interface}

theorem attachInside_eq_ok (h : (attachInside n o take?).outcome s = .ok (i, s')) :
    ∃ k o', take? o = some (k, o') ∧ n.subnet.hostAddress? k = some i.address ∧
      i.scope = n.scope ∧ i.network = n.name ∧
      s' = { s with networks := s.networks.modify n.name fun _ ↦ (n, o') } := by
  rw [outcome_attachInside] at h
  split at h
  case h_1 => exact absurd h (by simp)
  case h_2 k o' htake =>
    split at h
    case h_1 => exact absurd h (by simp)
    case h_2 address haddress =>
      obtain ⟨rfl, rfl⟩ := Prod.mk.inj (Except.ok.inj h)
      exact ⟨k, o', htake, haddress, rfl, rfl, rfl⟩

theorem get?_modify_network (hn : s.networks.get? n.name = some (n, o)) (o' : Offsets)
    (name : String) :
    (s.networks.modify n.name fun _ ↦ (n, o')).get? name
      = if name = n.name then some (n, o') else s.networks.get? name := by
  rw [Roster.get?_modify]
  split
  case isTrue heq => rw [heq, hn, Option.map_some]
  case isFalse => rfl

/-- What an address has used up stays so while other offsets are taken. -/
theorem Gave.modify {o' : Offsets} (h : s.Gave i) (hn : s.networks.get? n.name = some (n, o))
    (hless : ∀ k, o'.Free k → o.Free k) :
    ({ s with networks := s.networks.modify n.name fun _ ↦ (n, o') } : Addressing).Gave i := by
  cases h with
  | exchange network scope address => exact .exchange network scope address
  | @inside m p k network scope address taken =>
    have hlookup := get?_modify_network hn o' i.network
    by_cases heq : i.network = n.name
    · rw [if_pos heq] at hlookup
      rw [heq, hn] at network
      obtain ⟨rfl, rfl⟩ := Prod.mk.inj (Option.some.inj network)
      exact .inside hlookup scope address fun hfree ↦ taken (hless k hfree)
    · rw [if_neg heq, network] at hlookup
      exact .inside hlookup scope address taken

/-- An address at a free offset is not among those that were given. -/
theorem Gave.free_ne {k : Nat} (h : s.Gave j) (hn : s.networks.get? j.network = some (n, o))
    (hj : j.scope ≠ .exchange) (hfree : o.Free k) :
    n.subnet.hostAddress? k ≠ some j.address := by
  intro haddress
  cases h with
  | exchange _ scope _ => exact hj scope
  | inside network _ address taken =>
    rw [hn] at network
    obtain ⟨rfl, rfl⟩ := Prod.mk.inj (Option.some.inj network)
    obtain rfl := Ipv4.Subnet.hostAddress?_inj haddress address
    exact taken hfree

end Addressing

namespace AsDecl.Ledger

variable {d : AsDecl} {exchanges : Roster String Network} {s s' : Addressing}
  {is is' : List Interface} {i : Interface}

theorem perm (h : d.Ledger exchanges s is) (hperm : is.Perm is') : d.Ledger exchanges s is' :=
  { h with
    gave := fun i hi ↦ h.gave i (hperm.mem_iff.2 hi)
    distinct := (hperm.filter _).nodup_iff.1 h.distinct }

theorem attachInside (h : d.Ledger exchanges s is) {name : String} {n : Network} {o : Offsets}
    (hn : s.networks.get? name = some (n, o)) {take? : Offsets → Option (Nat × Offsets)}
    (htakes : Offsets.TakesOne take?)
    (hok : (Addressing.attachInside n o take?).outcome s = .ok (i, s')) :
    i.scope ≠ .exchange ∧ d.Ledger exchanges s' (i :: is) := by
  obtain ⟨rfl, hnetwork⟩ := h.networks name n o hn
  obtain ⟨k, o', htake, haddress, hscope, hname, rfl⟩ := Addressing.attachInside_eq_ok hok
  obtain ⟨hfree, hrest⟩ := htakes htake
  have hinside : i.scope ≠ .exchange := by
    rw [hscope, hnetwork.scope]
    exact nofun
  have hnew : i ∉ is := fun hmem ↦
    (h.gave i hmem).free_ne (hname ▸ hn) hinside hfree haddress
  refine ⟨hinside, h.asn, h.exchanges, fun name m p hm ↦ ?_, fun j hj ↦ ?_, ?_⟩
  · rw [Addressing.get?_modify_network hn] at hm
    split at hm
    case isTrue heq =>
      obtain ⟨rfl, -⟩ := Prod.mk.inj (Option.some.inj hm)
      exact ⟨heq.symm, hnetwork⟩
    case isFalse => exact h.networks name m p hm
  · rcases List.mem_cons.1 hj with rfl | hj
    · have hlookup := Addressing.get?_modify_network hn o' j.network
      rw [if_pos hname] at hlookup
      refine .inside hlookup ?_ haddress fun hstill ↦ ((hrest k).1 hstill).2 rfl
      rw [hscope, hnetwork.scope, h.asn]
    · exact (h.gave j hj).modify hn fun k hk ↦ ((hrest k).1 hk).1
  · rw [List.filter_cons_of_pos (by simpa using hinside), List.nodup_cons]
    exact ⟨fun hmem ↦ hnew (List.mem_filter.1 hmem).1, h.distinct⟩

theorem attachHost (h : d.Ledger exchanges s is) {node network : String}
    (hok : (Addressing.attachHost node network).outcome s = .ok (i, s')) :
    i.scope ≠ .exchange ∧ d.Ledger exchanges s' (i :: is) := by
  rw [Addressing.outcome_attachHost] at hok
  split at hok
  case h_1 n o hn => exact h.attachInside hn Offsets.takesOne_takeLow? hok
  case h_2 => exact absurd hok (by simp)

theorem attachRouter (h : d.Ledger exchanges s is) {router network : String}
    (hnames : ∀ name n, exchanges.get? name = some n → n.name = name)
    (hok : (Addressing.attachRouter router network).outcome s = .ok (i, s')) :
    d.Ledger exchanges s' (i :: is) := by
  rw [Addressing.outcome_attachRouter] at hok
  split at hok
  case h_1 n o hn => exact (h.attachInside hn Offsets.takesOne_takeHigh? hok).2
  case h_2 =>
    split at hok
    case h_1 => exact absurd hok (by simp)
    case h_2 n hn =>
      split at hok
      case h_1 => exact absurd hok (by simp)
      case h_2 address haddress =>
        obtain ⟨rfl, rfl⟩ := Prod.mk.inj (Except.ok.inj hok)
        have hname : n.name = network := hnames network n (h.exchanges ▸ hn)
        refine { h with gave := fun j hj ↦ ?_, distinct := ?_ }
        · rcases List.mem_cons.1 hj with rfl | hj
          · exact .exchange (hname.symm ▸ hn) rfl haddress
          · exact h.gave j hj
        · rw [List.filter_cons_of_neg (by simp)]
          exact h.distinct

end AsDecl.Ledger

theorem Addressing.mapM_attach_induction
    {attach : String → Change Addressing AddressFault Interface}
    (inv : Addressing → List Interface → Prop)
    (step : ∀ s is i s' network, inv s is → (attach network).outcome s = .ok (i, s') →
      inv s' (i :: is))
    {s s' : Addressing} {is js : List Interface} {networks : List String} (start : inv s is)
    (h : (networks.mapM attach).outcome s = .ok (js, s')) : inv s' (js.reverse ++ is) := by
  induction networks generalizing s is js with
  | nil =>
    obtain ⟨rfl, rfl⟩ := Prod.mk.inj (Except.ok.inj h)
    exact start
  | cons network networks ih =>
    rw [Change.outcome_mapM_cons] at h
    obtain ⟨⟨i, s₁⟩, hfirst, h⟩ := bind_eq_ok_iff.1 h
    obtain ⟨⟨rest, s₂⟩, hrest, h⟩ := bind_eq_ok_iff.1 h
    obtain ⟨rfl, rfl⟩ := Prod.mk.inj (Except.ok.inj h)
    rw [List.reverse_cons, List.append_assoc]
    exact ih (step s is i s₁ network start hfirst) hrest

/-! ## The interfaces of an AS -/

namespace AutonomousSystem

/-- The interfaces of the control services and hosts. -/
def nodeInterfaces (a : AutonomousSystem) : List Interface :=
  (a.controlServices.values ++ a.hosts.values).flatMap (·.interfaces)

def interfaces (a : AutonomousSystem) : List Interface :=
  a.nodeInterfaces ++ a.routers.values.flatMap (·.interfaces)

variable {a a' : AutonomousSystem} {name : String} {n : Node}

theorem nodeInterfaces_of_addControlService (h : (addControlService name n).after a = .ok a') :
    a'.nodeInterfaces.Perm (n.interfaces ++ a.nodeInterfaces) ∧ a'.routers = a.routers := by
  obtain ⟨hnew, rfl⟩ := addControlService_eq_ok h
  have hvalues : ((a.controlServices.insert name n).values ++ a.hosts.values).Perm
      (n :: (a.controlServices.values ++ a.hosts.values)) := by
    rw [Roster.values_insert_of_not_mem _ _ hnew, List.append_assoc]
    exact List.perm_middle
  exact ⟨hvalues.flatMap_right _, rfl⟩

theorem nodeInterfaces_of_addHost (h : (addHost name n).after a = .ok a') :
    a'.nodeInterfaces.Perm (n.interfaces ++ a.nodeInterfaces) ∧ a'.routers = a.routers := by
  obtain ⟨hnew, rfl⟩ := addHost_eq_ok h
  have hvalues : (a.controlServices.values ++ (a.hosts.insert name n).values).Perm
      (n :: (a.controlServices.values ++ a.hosts.values)) := by
    rw [Roster.values_insert_of_not_mem _ _ hnew, ← List.append_assoc]
    exact List.perm_append_singleton n _
  exact ⟨hvalues.flatMap_right _, rfl⟩

theorem interfaces_insert_router {r : Router} (hnew : name ∉ a.routers.keys) :
    ({ a with routers := a.routers.insert name r } : AutonomousSystem).interfaces.Perm
      (r.interfaces ++ a.interfaces) := by
  have hvalues : ((a.routers.insert name r).values).flatMap (·.interfaces)
      = a.routers.values.flatMap (·.interfaces) ++ r.interfaces := by
    rw [Roster.values_insert_of_not_mem _ _ hnew, List.flatMap_append, List.flatMap_singleton]
  rw [interfaces, interfaces, hvalues, ← List.append_assoc]
  exact List.perm_append_comm

end AutonomousSystem

namespace Site

variable {d : AsDecl} {exchanges : Roster String Network} {s s' : Site}

/-- The ledger of a site accounts for all its interfaces, and those on exchanges are of routers. -/
structure Accounts (d : AsDecl) (exchanges : Roster String Network) (s : Site) : Prop where
  ledger : d.Ledger exchanges s.addressing s.system.interfaces
  inside : ∀ i ∈ s.system.nodeInterfaces, i.scope ≠ .exchange

theorem Accounts.addNode
    {add : String → Node → Change AutonomousSystem Fault Unit} {n : NodeDecl}
    (hadd : ∀ a name node a', (add name node).after a = .ok a' →
      a'.nodeInterfaces.Perm (node.interfaces ++ a.nodeInterfaces) ∧ a'.routers = a.routers)
    (h : s.Accounts d exchanges) (hstep : s.addNode add n = .ok s') :
    s'.Accounts d exchanges := by
  obtain ⟨interfaces, addressing, system, hattach, hsystem, rfl⟩ := addNode_eq_ok hstep
  obtain ⟨hperm, hrouters⟩ := hadd _ _ _ _ hsystem
  obtain ⟨hledger, hinside⟩ := Addressing.mapM_attach_induction
    (fun a is ↦ d.Ledger exchanges a (is ++ s.system.interfaces) ∧ ∀ i ∈ is, i.scope ≠ .exchange)
    (fun a is i a' network ⟨hledger, hinside⟩ hok ↦
      ⟨(hledger.attachHost hok).2, List.forall_mem_cons.2 ⟨(hledger.attachHost hok).1, hinside⟩⟩)
    ⟨h.ledger, fun i hi ↦ absurd hi List.not_mem_nil⟩ hattach
  rw [List.append_nil] at hledger hinside
  refine ⟨hledger.perm ?_, fun i hi ↦ ?_⟩
  · rw [AutonomousSystem.interfaces, AutonomousSystem.interfaces, hrouters, ← List.append_assoc]
    exact (((List.reverse_perm _).append_right _).trans hperm.symm).append_right _
  · rcases List.mem_append.1 (hperm.mem_iff.1 hi) with hi | hi
    · exact hinside i (List.mem_reverse.2 hi)
    · exact h.inside i hi

theorem Accounts.addRouter {r : RouterDecl} (h : s.Accounts d exchanges)
    (hnames : ∀ name n, exchanges.get? name = some n → n.name = name)
    (hstep : s.addRouter r = .ok s') : s'.Accounts d exchanges := by
  obtain ⟨interfaces, addressing, hattach, hnew, rfl⟩ := addRouter_eq_ok hstep
  have hledger := Addressing.mapM_attach_induction (d.Ledger exchanges)
    (fun a is i a' network hledger hok ↦ hledger.attachRouter hnames hok) h.ledger hattach
  have hrouter : (s.routerOf r interfaces).interfaces = interfaces := by
    obtain ⟨crossConnects, hfold⟩ := exists_crossConnects_of_foldl s.system.asn r.name
      r.crossConnects { loopback := loopback s.loopbacks, interfaces }
    rw [routerOf, hfold]
  have hperm := AutonomousSystem.interfaces_insert_router (r := s.routerOf r interfaces) hnew
  rw [hrouter] at hperm
  exact ⟨hledger.perm (((List.reverse_perm interfaces).append_right _).trans hperm.symm), h.inside⟩

end Site

namespace AsDecl

variable {d : AsDecl} {exchanges : Roster String Network} {loopbacks : Nat} {s : Site}

/-- **The interfaces of one AS.** All of them are accounted for when the AS is built. -/
theorem accounts_of_build (hnames : ∀ name n, exchanges.get? name = some n → n.name = name)
    (h : d.build exchanges loopbacks = .ok s) : s.Accounts d exchanges := by
  obtain ⟨attributes, networks, s₁, s₂, s₃, gateways, hnetworks, hservices, hhosts, hrouters,
    rfl⟩ := stages_of_build h
  have hstart : (start { asn := d.asn, attributes, networks } exchanges loopbacks).Accounts d
      exchanges := by
    refine ⟨⟨rfl, rfl, fun name n o hn ↦ ?_, fun i hi ↦ absurd hi List.not_mem_nil, .nil⟩,
      fun i hi ↦ absurd hi List.not_mem_nil⟩
    obtain ⟨m, hm, rfl, heq⟩ := Roster.exists_of_get?_foldl_insert hn
    obtain ⟨rfl, -⟩ := Prod.mk.inj heq
    obtain ⟨⟨key, _⟩, hentry, rfl⟩ := List.mem_map.1 hm
    exact ⟨rfl, (hnetworks key _ hentry).2⟩
  have h₁ := foldlM_induction (fun _ ↦ Site.Accounts d exchanges) hstart
    (fun before n s s' hs hstep ↦ hs.addNode
      (fun a name node a' ↦ AutonomousSystem.nodeInterfaces_of_addControlService) hstep) hservices
  have h₂ := foldlM_induction (fun _ ↦ Site.Accounts d exchanges) h₁
    (fun before n s s' hs hstep ↦ hs.addNode
      (fun a name node a' ↦ AutonomousSystem.nodeInterfaces_of_addHost) hstep) hhosts
  have h₃ := foldlM_induction (fun _ ↦ Site.Accounts d exchanges) h₂
    (fun before r s s' hs hstep ↦ hs.addRouter hnames hstep) hrouters
  exact ⟨h₃.ledger, h₃.inside⟩

end AsDecl

end Interdomain
