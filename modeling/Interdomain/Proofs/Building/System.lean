import Interdomain.Proofs.Building.Attachment
import Interdomain.Proofs.Validation
import Mathlib.Data.List.Nodup

/-!
# Building one AS

An AS is built part by part: its memberships and networks first, then its control services, hosts
and routers, and its gateways at the end. Every prefix of this order is itself a declaration, with
fewer nodes, and the AS is at each moment the one that this shorter declaration describes. A part
that cannot be added shows a flaw of the whole declaration.
-/

namespace Interdomain

/-! ## What is built and what goes wrong -/

/-- A router as it was declared, before any link comes to it. -/
structure RouterDecl.Describes (d : RouterDecl) (e : String × Router) : Prop where
  name : e.1 = d.name
  unlinked : e.2.attached = ∅

namespace AsDecl

structure Describes (d : AsDecl) (a : AutonomousSystem) : Prop where
  asn : a.asn = d.asn
  isds : ∀ isd, isd ∈ a.isds ↔ isd ∈ d.isds.map (·.isd)
  networks : a.networks.keys = d.networks.map (·.name)
  controlServices : a.controlServices.keys = d.controlServices.map (·.name)
  hosts : a.hosts.keys = d.hosts.map (·.name)
  routers : List.Forall₂ RouterDecl.Describes d.routers a.routers.entries

inductive RefusesGateway (d : AsDecl) : Fault → Prop
  | capacity (limit : Nat) : RefusesGateway d (.capacity d.asn limit)
  | portConflict (host : String) (port : Nat) : RefusesGateway d (.portConflict host port)
  | unknownHost {g : Gateway} (declared : g ∈ d.gateways)
      (missing : g.host ∉ d.hosts.map (·.name)) : RefusesGateway d (.unknownHost d.asn g.host)

/-- What makes it impossible to build an AS beside exchanges of some names. -/
inductive Flaw (d : AsDecl) (exchanges : List String) : BuildFault → Prop
  /-- A network without addresses is not one that the template serves. -/
  | addresses {before after : List NetworkDecl} {n : NetworkDecl}
      (split : d.networks = before ++ n :: after) (undeclared : n.subnet = none)
      (outside : defaultSubnet? d.asn.toNat before.length = none) :
      Flaw d exchanges (.addressTemplate (.network n.name d.asn))
  | networkTwice (name : String) (twice : ¬(d.networks.map (·.name)).Nodup) :
      Flaw d exchanges (.part (.duplicateNode d.asn name))
  | nodeTwice (name : String) (twice : ¬d.nodeNames.Nodup) :
      Flaw d exchanges (.part (.duplicateNode d.asn name))
  | node {n : NodeDecl} {f : AddressFault} (declared : n ∈ d.nodes)
      (unattached : Unattached d.asn n.name n.networks (· ∈ d.networks.map (·.name)) f) :
      Flaw d exchanges (.address f)
  | router {r : RouterDecl} {f : AddressFault} (declared : r ∈ d.routers)
      (unattached : Unattached d.asn r.name r.networks
        (fun name ↦ name ∈ d.networks.map (·.name) ∨ name ∈ exchanges) f) :
      Flaw d exchanges (.address f)
  | gateway {f : Fault} (refused : d.RefusesGateway f) : Flaw d exchanges (.part f)

theorem Flaw.mono {d : AsDecl} {exchanges exchanges' : List String} {f : BuildFault}
    (h : d.Flaw exchanges f) (hsub : exchanges' ⊆ exchanges) : d.Flaw exchanges' f := by
  cases h with
  | addresses split undeclared outside => exact .addresses split undeclared outside
  | networkTwice name twice => exact .networkTwice name twice
  | nodeTwice name twice => exact .nodeTwice name twice
  | node declared unattached => exact .node declared unattached
  | router declared unattached =>
    exact .router declared <|
      unattached.mono (List.Subset.refl _) fun _ hname ↦ hname.imp_right fun h ↦ hsub h
  | gateway refused => exact .gateway refused

theorem Describes.routerNames {d : AsDecl} {a : AutonomousSystem} (h : d.Describes a) :
    a.routers.keys = d.routers.map (·.name) := by
  have hnames : List.Forall₂ (fun e r ↦ e.1 = r.name) a.routers.entries d.routers :=
    h.routers.flip.imp fun _ _ hr ↦ hr.name
  rwa [← List.forall₂_map_right_iff, ← List.forall₂_map_left_iff, List.forall₂_eq_eq_eq] at hnames

theorem Describes.nodeNames {d : AsDecl} {a : AutonomousSystem} (h : d.Describes a) :
    a.nodeNames = d.nodeNames := by
  rw [AutonomousSystem.nodeNames, AsDecl.nodeNames, h.routerNames, h.hosts, h.controlServices]

end AsDecl

/-! ## Memberships and networks -/

theorem subnetOf_yields (declared : Option Ipv4.Subnet) (second third : Nat) (subject : Subject) :
    Yields (subnetOf declared second third subject)
      (fun subnet ↦ declared.or (defaultSubnet? second third) = some subnet)
      fun f ↦ declared = none ∧ defaultSubnet? second third = none ∧
        f = .addressTemplate subject := by
  rw [subnetOf.eq_def]
  split
  case h_1 => exact rfl
  case h_2 =>
    split
    case h_1 subnet hdefault => exact hdefault
    case h_2 hdefault => exact ⟨rfl, hdefault, rfl⟩

namespace AutonomousSystem

variable {a : AutonomousSystem}

/-- Memberships change nothing but the attributes, and they are those of the list. -/
theorem exists_attributes_of_foldl (l : List MembershipDecl) (a : AutonomousSystem) :
    ∃ attributes, l.foldl (fun a m ↦ a.setAttributes m.isd m.attributesOrDefault) a
        = { a with attributes } ∧
      ∀ isd, isd ∈ attributes.keys ↔ isd ∈ a.attributes.keys ∨ isd ∈ l.map (·.isd) := by
  induction l generalizing a with
  | nil => exact ⟨a.attributes, rfl, fun isd ↦ by simp⟩
  | cons m l ih =>
    obtain ⟨attributes, hfold, hkeys⟩ := ih (a.setAttributes m.isd m.attributesOrDefault)
    refine ⟨attributes, hfold, fun isd ↦ ?_⟩
    rw [hkeys, setAttributes, SortedMap.mem_keys_insert, List.map_cons, List.mem_cons, or_assoc]

theorem checkName_yields (a : AutonomousSystem) (name : String) :
    Yields (a.checkName name) (fun _ ↦ name ∉ a.nodeNames)
      fun f ↦ name ∈ a.nodeNames ∧ f = .duplicateNode a.asn name := by
  rw [checkName]
  split
  case isTrue h => exact ⟨List.contains_iff_mem.1 h, rfl⟩
  case isFalse h => exact fun hmem ↦ h (List.contains_iff_mem.2 hmem)

theorem addNetwork_yields (a : AutonomousSystem) (n : Network) :
    Yields ((addNetwork n).after a)
      (fun a' ↦ ∃ networks, a' = { a with networks } ∧
        networks.entries = a.networks.entries ++ [(n.name, n)])
      fun f ↦ n.name ∈ a.networks.keys ∧ f = .duplicateNode a.asn n.name := by
  rw [addNetwork, Change.after_look_bind, checkNetwork]
  split
  case isTrue h => exact ⟨(Roster.contains_iff ..).1 h, rfl⟩
  case isFalse h =>
    have hnew : n.name ∉ a.networks.keys := fun hmem ↦ h ((Roster.contains_iff ..).2 hmem)
    exact ⟨_, rfl, Roster.entries_insert_of_not_mem _ n hnew⟩

theorem checkHost_eq_ok_iff {name : String} : a.checkHost name = .ok () ↔ name ∈ a.hosts.keys := by
  rw [checkHost, ← Roster.contains_iff]
  split <;> simp_all

theorem after_addGateway (a : AutonomousSystem) (g : Gateway) :
    (addGateway g).after a = a.checkHost g.host >>= fun _ ↦
      ((GatewayTable.insert a.asn g).after a.gateways).map fun gateways ↦ { a with gateways } := by
  rw [addGateway, Change.after_look_bind]
  cases a.checkHost g.host with
  | error f => rfl
  | ok _ =>
    rw [ok_bind, ok_bind, Change.after_look_bind, ok_bind, Change.after_part, ok_bind]

end AutonomousSystem

variable {d : AsDecl} {exchanges : Roster String Network}

theorem addNetworks_yields (exchanges : List String) {before l : List NetworkDecl}
    (hsplit : d.networks = before ++ l) {a : AutonomousSystem} (hasn : a.asn = d.asn)
    (hkeys : a.networks.keys = before.map (·.name))
    (hnames : a.networks.values.map (·.name) = before.map (·.name)) :
    Yields (addNetworks a before.length l)
      (fun a' ↦ ∃ networks, a' = { a with networks } ∧
        networks.keys = d.networks.map (·.name) ∧
        networks.values.map (·.name) = d.networks.map (·.name))
      (d.Flaw exchanges) := by
  induction l generalizing before a with
  | nil =>
    rw [List.append_nil] at hsplit
    exact ⟨a.networks, rfl, hsplit ▸ hkeys, hsplit ▸ hnames⟩
  | cons n l ih =>
    rw [addNetworks]
    refine ((subnetOf_yields ..).imp_cause ?_).bind fun subnet _ ↦ ?_
    · rintro _ ⟨hundeclared, houtside, rfl⟩
      rw [hasn] at houtside ⊢
      exact .addresses hsplit hundeclared houtside
    · refine ((a.addNetwork_yields _).mapError ?_).bind ?_
      · rintro _ ⟨htaken, rfl⟩
        rw [hkeys] at htaken
        rw [hasn]
        refine .networkTwice n.name fun hnodup ↦ ?_
        rw [nodup_map_iff_not_mem_before] at hnodup
        exact hnodup before n l hsplit htaken
      · rintro _ ⟨networks, rfl, hentries⟩
        have hlength : before.length + 1 = (before ++ [n]).length := by
          rw [List.length_append, List.length_singleton]
        rw [hlength]
        refine ih (by rw [hsplit, List.append_assoc, List.singleton_append]) hasn ?_ ?_
        · rw [Roster.keys, hentries, List.map_append, List.map_append, ← hkeys]
          rfl
        · rw [Roster.values, hentries, List.map_append, List.map_append, List.map_append, ← hnames]
          rfl

/-! ## Nodes -/

namespace AsDecl

/-- A site has come as far as a declaration goes. -/
structure Begun (d : AsDecl) (exchanges : Roster String Network) (s : Site) : Prop where
  system : d.Describes s.system
  asn : s.addressing.asn = d.asn
  inside : ∀ name, name ∈ s.addressing.networks.keys ↔ name ∈ d.networks.map (·.name)
  exchanges : s.addressing.exchanges = exchanges

/-- A node cannot be added: it is not attached to its networks, or its name is taken. -/
inductive Bars (d : AsDecl) (name : String) (networks : List String) (known : String → Prop) :
    BuildFault → Prop
  | unattached {f : AddressFault} (h : Unattached d.asn name networks known f) :
    Bars d name networks known (.address f)
  | taken (h : name ∈ d.nodeNames) : Bars d name networks known (.part (.duplicateNode d.asn name))

/-- What bars a node shows a flaw of a declaration that has its name once more. -/
theorem Bars.flaw {d' : AsDecl} {name : String} {networks exchanges : List String}
    {known : String → Prop} {f : BuildFault} (h : d'.Bars name networks known f)
    (hasn : d'.asn = d.asn) (hmore : d'.nodeNames.count name < d.nodeNames.count name)
    (hunattached : ∀ f, Unattached d.asn name networks known f → d.Flaw exchanges (.address f)) :
    d.Flaw exchanges f := by
  cases h with
  | unattached h =>
    rw [hasn] at h
    exact hunattached _ h
  | taken h =>
    rw [hasn]
    refine .nodeTwice name fun hnodup ↦ ?_
    have hone := List.nodup_iff_count_le_one.1 hnodup name
    have hpos := List.count_pos_iff.2 h
    omega

namespace Describes

variable {a : AutonomousSystem}

theorem checkName_yields (h : d.Describes a) (name : String) :
    Yields (a.checkName name) (fun _ ↦ name ∉ d.nodeNames)
      fun f ↦ name ∈ d.nodeNames ∧ f = .duplicateNode d.asn name := by
  rw [← h.nodeNames, ← h.asn]
  exact a.checkName_yields name

theorem addControlService_yields (h : d.Describes a) (n : NodeDecl) (node : Node) :
    Yields ((AutonomousSystem.addControlService n.name node).after a)
      ({ d with controlServices := d.controlServices ++ [n] } : AsDecl).Describes
      fun f ↦ n.name ∈ d.nodeNames ∧ f = .duplicateNode d.asn n.name := by
  rw [AutonomousSystem.addControlService, Change.after_look_bind]
  refine (h.checkName_yields n.name).bind fun _ hnew ↦ ?_
  have hkey : n.name ∉ a.controlServices.keys := by
    rw [h.controlServices]
    exact fun hmem ↦ hnew (List.mem_append_right _ hmem)
  refine { h with controlServices := ?_ }
  rw [Roster.keys_insert_of_not_mem _ _ hkey, h.controlServices, List.map_append,
    List.map_singleton]

theorem addHost_yields (h : d.Describes a) (n : NodeDecl) (node : Node) :
    Yields ((AutonomousSystem.addHost n.name node).after a)
      ({ d with hosts := d.hosts ++ [n] } : AsDecl).Describes
      fun f ↦ n.name ∈ d.nodeNames ∧ f = .duplicateNode d.asn n.name := by
  rw [AutonomousSystem.addHost, Change.after_look_bind]
  refine (h.checkName_yields n.name).bind fun _ hnew ↦ ?_
  have hkey : n.name ∉ a.hosts.keys := by
    rw [h.hosts]
    exact fun hmem ↦ hnew (List.mem_append_left _ (List.mem_append_right _ hmem))
  refine { h with hosts := ?_ }
  rw [Roster.keys_insert_of_not_mem _ _ hkey, h.hosts, List.map_append, List.map_singleton]

theorem addRouter_yields (h : d.Describes a) {r : RouterDecl} {router : Router}
    (hr : router.attached = ∅) :
    Yields ((AutonomousSystem.addRouter r.name router).after a)
      ({ d with routers := d.routers ++ [r] } : AsDecl).Describes
      fun f ↦ r.name ∈ d.nodeNames ∧ f = .duplicateNode d.asn r.name := by
  rw [AutonomousSystem.addRouter, Change.after_look_bind]
  refine (h.checkName_yields r.name).bind fun _ hnew ↦ ?_
  have hkey : r.name ∉ a.routers.keys := by
    rw [h.routerNames]
    exact fun hmem ↦ hnew (List.mem_append_left _ (List.mem_append_left _ hmem))
  refine { h with routers := ?_ }
  rw [Roster.entries_insert_of_not_mem _ _ hkey]
  exact List.rel_append h.routers (.cons ⟨rfl, hr⟩ .nil)

end Describes

end AsDecl

namespace Site

variable {s : Site}

theorem exists_crossConnects_of_foldl (asn : Asn) (name : String) (l : List CrossConnectDecl)
    (r : Router) :
    ∃ crossConnects, l.foldl (addConnection asn name) r = { r with crossConnects } := by
  induction l generalizing r with
  | nil => exact ⟨r.crossConnects, rfl⟩
  | cons x l ih => exact ih (addConnection asn name r x)

theorem addNode_yields {d' : AsDecl} (hs : d.Begun exchanges s) {n : NodeDecl}
    {add : String → Node → Change AutonomousSystem Fault Unit}
    (hadd : ∀ node, Yields ((add n.name node).after s.system) d'.Describes
      fun f ↦ n.name ∈ d.nodeNames ∧ f = .duplicateNode d.asn n.name)
    (hasn : d'.asn = d.asn) (hnetworks : d'.networks = d.networks) :
    Yields (s.addNode add n) (d'.Begun exchanges)
      (d.Bars n.name n.networks (· ∈ d.networks.map (·.name))) := by
  have hattach : Yields ((n.networks.mapM (Addressing.attachHost n.name)).outcome s.addressing)
      (fun r ↦ s.addressing.SameNames r.2)
      (Unattached d.asn n.name n.networks (· ∈ d.networks.map (·.name))) := by
    refine Addressing.mapM_attach_yields fun s' network hs' ↦ ?_
    have hhost := s'.attachHost_yields n.name network
    rw [hs'.asn, hs.asn, hs'.inside] at hhost
    simpa only [hs.inside] using hhost
  refine (hattach.mapError fun _ hf ↦ .unattached hf).bind fun r hr ↦ ?_
  refine ((hadd ⟨r.1⟩).mapError ?_).bind fun system hsystem ↦ ?_
  · rintro _ ⟨htaken, rfl⟩
    exact .taken htaken
  · refine ⟨hsystem, ?_, fun name ↦ ?_, hr.exchanges.trans hs.exchanges⟩
    · rw [hr.asn, hs.asn, hasn]
    · rw [hr.inside, hs.inside, hnetworks]

theorem addRouter_yields (hs : d.Begun exchanges s) (r : RouterDecl) :
    Yields (s.addRouter r) (({ d with routers := d.routers ++ [r] } : AsDecl).Begun exchanges)
      (d.Bars r.name r.networks
        fun name ↦ name ∈ d.networks.map (·.name) ∨ name ∈ exchanges.keys) := by
  have hattach : Yields ((r.networks.mapM (Addressing.attachRouter r.name)).outcome s.addressing)
      (fun r ↦ s.addressing.SameNames r.2)
      (Unattached d.asn r.name r.networks
        fun name ↦ name ∈ d.networks.map (·.name) ∨ name ∈ exchanges.keys) := by
    refine Addressing.mapM_attach_yields fun s' network hs' ↦ ?_
    have hrouter := s'.attachRouter_yields r.name network
    rw [hs'.asn, hs.asn, hs'.inside, hs'.exchanges, hs.exchanges] at hrouter
    simpa only [hs.inside] using hrouter
  refine (hattach.mapError fun _ hf ↦ .unattached hf).bind fun x hx ↦ ?_
  obtain ⟨crossConnects, hrouter⟩ := exists_crossConnects_of_foldl s.system.asn r.name
    r.crossConnects { loopback := loopback s.loopbacks, interfaces := x.1 }
  refine ((hs.system.addRouter_yields (congrArg Router.attached hrouter)).mapError ?_).bind
    fun system hsystem ↦ ?_
  · rintro _ ⟨htaken, rfl⟩
    exact .taken htaken
  · refine ⟨hsystem, hx.asn.trans hs.asn, fun name ↦ ?_, hx.exchanges.trans hs.exchanges⟩
    rw [hx.inside, hs.inside]

end Site

namespace AsDecl

/-! ## The whole AS -/

theorem addControlServices_yields {s : Site}
    (hs : ({ d with controlServices := [], hosts := [], routers := [] } : AsDecl).Begun
      exchanges s) :
    Yields (d.controlServices.foldlM (Site.addNode AutonomousSystem.addControlService) s)
      (({ d with hosts := [], routers := [] } : AsDecl).Begun exchanges)
      (d.Flaw exchanges.keys) := by
  -- The services before one are those of the declaration up to it.
  refine Yields.foldlM (fun before ↦
    ({ d with controlServices := before, hosts := [], routers := [] } : AsDecl).Begun exchanges)
    hs fun before n after s hsplit hs ↦ ?_
  have hmem : n ∈ d.controlServices := hsplit ▸ List.mem_append_right _ List.mem_cons_self
  have hadd := hs.system.addControlService_yields n
  refine (Site.addNode_yields hs hadd rfl rfl).imp_cause fun _ hf ↦
    hf.flaw rfl ?_ fun _ h ↦ .node (List.mem_append_right _ hmem) h
  simp only [nodeNames, hsplit, List.map_append, List.map_cons, List.map_nil, List.count_append,
    List.count_cons_self, List.count_nil]
  omega

theorem addHosts_yields {s : Site}
    (hs : ({ d with hosts := [], routers := [] } : AsDecl).Begun exchanges s) :
    Yields (d.hosts.foldlM (Site.addNode AutonomousSystem.addHost) s)
      (({ d with routers := [] } : AsDecl).Begun exchanges) (d.Flaw exchanges.keys) := by
  refine Yields.foldlM (fun before ↦
    ({ d with hosts := before, routers := [] } : AsDecl).Begun exchanges)
    hs fun before n after s hsplit hs ↦ ?_
  have hmem : n ∈ d.hosts := hsplit ▸ List.mem_append_right _ List.mem_cons_self
  have hadd := hs.system.addHost_yields n
  refine (Site.addNode_yields hs hadd rfl rfl).imp_cause fun _ hf ↦
    hf.flaw rfl ?_ fun _ h ↦ .node (List.mem_append_left _ hmem) h
  simp only [nodeNames, hsplit, List.map_append, List.map_cons, List.map_nil, List.count_append,
    List.count_cons_self, List.count_nil]
  omega

theorem addRouters_yields {s : Site} (hs : ({ d with routers := [] } : AsDecl).Begun exchanges s) :
    Yields (d.routers.foldlM Site.addRouter s) (d.Begun exchanges) (d.Flaw exchanges.keys) := by
  refine Yields.foldlM (fun before ↦ ({ d with routers := before } : AsDecl).Begun exchanges)
    hs fun before r after s hsplit hs ↦ ?_
  have hmem : r ∈ d.routers := hsplit ▸ List.mem_append_right _ List.mem_cons_self
  refine (Site.addRouter_yields hs r).imp_cause fun _ hf ↦
    hf.flaw rfl ?_ fun _ h ↦ .router hmem h
  simp only [nodeNames, hsplit, List.map_append, List.map_cons, List.count_append,
    List.count_cons_self]
  omega

theorem insertGateway_yields {asn : Asn} (hasn : asn = d.asn) (t : GatewayTable) (g : Gateway) :
    Yields ((GatewayTable.insert asn g).after t) (fun _ ↦ True) d.RefusesGateway := by
  rw [GatewayTable.insert, Change.after_look_bind, GatewayTable.check, hasn]
  split
  case h_1 port _ => exact .portConflict g.host port
  case h_2 =>
    split
    case h_1 port _ => exact .portConflict g.host port
    case h_2 =>
      split
      case isTrue => exact .capacity t.limit
      case isFalse => exact trivial

theorem addGateways_yields {a : AutonomousSystem} (h : d.Describes a) :
    Yields ((d.gateways.forM AutonomousSystem.addGateway).after a) d.Describes
      d.RefusesGateway := by
  rw [Change.after_forM]
  refine Yields.foldlM (fun _ ↦ d.Describes) h fun before g after a hsplit h ↦ ?_
  have hmem : g ∈ d.gateways := hsplit ▸ List.mem_append_right _ List.mem_cons_self
  rw [AutonomousSystem.after_addGateway, AutonomousSystem.checkHost]
  split
  case isTrue =>
    exact (insertGateway_yields h.asn a.gateways g).map fun gateways _ ↦ { h with }
  case isFalse hmissing =>
    rw [Roster.contains_iff, h.hosts] at hmissing
    rw [h.asn]
    exact .unknownHost hmem hmissing

/-- **Building one AS.** A build that succeeds gives the declared AS, and one that fails shows a
flaw of the declaration. -/
theorem build_yields (d : AsDecl) (exchanges : Roster String Network) (loopbacks : Nat) :
    Yields (d.build exchanges loopbacks) (fun s ↦ d.Describes s.system)
      (d.Flaw exchanges.keys) := by
  rw [build]
  obtain ⟨attributes, hmember, hattributes⟩ :=
    AutonomousSystem.exists_attributes_of_foldl d.isds { asn := d.asn }
  rw [hmember]
  have hnetworks := addNetworks_yields exchanges.keys (List.nil_append d.networks).symm
    (a := { asn := d.asn, attributes }) rfl rfl rfl
  refine hnetworks.bind ?_
  rintro _ ⟨networks, rfl, hkeys, hnames⟩
  refine (addControlServices_yields
    ⟨⟨rfl, ?_, hkeys, rfl, rfl, .nil⟩, rfl, fun name ↦ ?_, rfl⟩).bind fun s hs ↦ ?_
  · intro isd
    exact (hattributes isd).trans (or_iff_right List.not_mem_nil)
  · exact (Roster.mem_keys_foldl_insert ..).trans (hnames ▸ or_iff_right List.not_mem_nil)
  refine (addHosts_yields hs).bind fun s hs ↦ ?_
  refine (addRouters_yields hs).bind fun s hs ↦ ?_
  have hsettings : d.Describes (d.applySettings s.system) := { hs.system with }
  exact ((addGateways_yields hsettings).mapError fun _ hf ↦ .gateway hf).bind fun _ h ↦ h

end AsDecl

end Interdomain
