import Interdomain.Proofs.Building.Stages
import Mathlib.Data.List.Dedup

/-!
# Connections between routers

A router records its connections under the ports at their other sides, one after another, and a
later connection toward the same port takes the place of an earlier one. The networks between
routers go by their names, and there the first one stays. So a router has all of its declared
connections exactly when they lead to different ports.
-/

namespace Interdomain

/-! ## What is declared -/

def CrossConnectDecl.peer (x : CrossConnectDecl) : Port := (x.peerAsn, x.peerRouter)

/-- What a router of an AS records of a connection. -/
def CrossConnectDecl.record (asn : Asn) (router : String) (x : CrossConnectDecl) : CrossConnect :=
  ⟨x.address, Site.connectionName asn router x⟩

/-- The connections that a router of an AS records. -/
def RouterDecl.records (asn : Asn) (r : RouterDecl) : Roster Port CrossConnect :=
  r.crossConnects.foldl (fun cs x ↦ cs.insert x.peer (x.record asn r.name)) ∅

/-- The connections of an AS in order, each with the port on its own side. -/
def AsDecl.connections (d : AsDecl) : List (Port × CrossConnectDecl) :=
  d.routers.flatMap fun r ↦ r.crossConnects.map fun x ↦ ((d.asn, r.name), x)

def Config.connections (c : Config) : List (Port × CrossConnectDecl) :=
  c.ases.flatMap (·.connections)

/-- The network of a connection as its own side declares it. -/
def connectionNetworkOf (y : Port × CrossConnectDecl) : Network :=
  Site.connectionNetwork y.1.1 y.1.2 y.2

/-- The network of a name between routers, as the first connection that names it declares it. -/
def Config.connectionNetwork? (c : Config) (name : String) : Option Network :=
  (c.connections.map connectionNetworkOf).find? (·.name = name)

/-- A router has every connection that was declared for it, with its own address and network, and
as many as were declared. -/
def Router.Keeps (router : Router) (asn : Asn) (r : RouterDecl) : Prop :=
  (∀ x ∈ r.crossConnects, router.crossConnects.get? x.peer = some (x.record asn r.name)) ∧
    router.crossConnects.entries.length = r.crossConnects.length

theorem Config.mem_connections_iff {c : Config} {y : Port × CrossConnectDecl} :
    y ∈ c.connections ↔
      ∃ d ∈ c.ases, ∃ r ∈ d.routers, y.1 = (d.asn, r.name) ∧ y.2 ∈ r.crossConnects := by
  rw [connections, List.mem_flatMap]
  constructor
  · rintro ⟨d, hd, hy⟩
    obtain ⟨r, hr, hy⟩ := List.mem_flatMap.1 hy
    obtain ⟨x, hx, rfl⟩ := List.mem_map.1 hy
    exact ⟨d, hd, r, hr, rfl, hx⟩
  · rintro ⟨d, hd, r, hr, hport, hx⟩
    exact ⟨d, hd, List.mem_flatMap.2 ⟨r, hr, List.mem_map.2 ⟨y.2, hx, Prod.ext hport.symm rfl⟩⟩⟩

/-! ## What a router records -/

namespace RouterDecl

variable {asn : Asn} {r : RouterDecl} {peer : Port}

/-- Toward each port the last connection counts. -/
theorem get?_records :
    (r.records asn).get? peer
      = (r.crossConnects.reverse.find? (·.peer = peer)).map (·.record asn r.name) := by
  rw [records, Roster.get?_foldl_insert]
  exact Option.or_none

theorem exists_of_get?_records {x : CrossConnect} (h : (r.records asn).get? peer = some x) :
    ∃ y ∈ r.crossConnects, y.peer = peer ∧ y.record asn r.name = x :=
  Roster.exists_of_get?_foldl_insert h

theorem length_records (asn : Asn) (r : RouterDecl) :
    (r.records asn).entries.length = (r.crossConnects.map (·.peer)).dedup.length := by
  have hperm : (r.records asn).keys.Perm (r.crossConnects.map (·.peer)).dedup := by
    have hnodup : (r.records asn).keys.Nodup := (r.records asn).nodup
    rw [List.perm_ext_iff_of_nodup hnodup (List.nodup_dedup _)]
    intro peer
    rw [records, Roster.mem_keys_foldl_insert, List.mem_dedup]
    exact or_iff_right List.not_mem_nil
  rw [← hperm.length_eq, Roster.keys, List.length_map]

theorem keeps_iff {router : Router} (h : router.crossConnects = r.records asn) :
    router.Keeps asn r ↔ (r.crossConnects.map (·.peer)).Nodup := by
  rw [Router.Keeps, h, length_records]
  constructor
  · rintro ⟨-, hlength⟩
    have hpeers : (r.crossConnects.map (·.peer)).length = r.crossConnects.length :=
      List.length_map _
    exact List.dedup_eq_self.1 ((List.dedup_sublist _).eq_of_length (hlength.trans hpeers.symm))
  · intro hdistinct
    refine ⟨fun x hx ↦ ?_, by rw [List.dedup_eq_self.2 hdistinct, List.length_map]⟩
    have hsome : (r.crossConnects.reverse.find? (·.peer = x.peer)).isSome = true := by
      rw [List.find?_isSome]
      exact ⟨x, List.mem_reverse.2 hx, by simp⟩
    obtain ⟨y, hy⟩ := Option.isSome_iff_exists.1 hsome
    have hpeer : y.peer = x.peer := by simpa using List.find?_some hy
    have hmem := List.mem_reverse.1 (List.mem_of_find?_eq_some hy)
    obtain rfl := List.inj_on_of_nodup_map hdistinct hmem hx hpeer
    rw [get?_records, hy, Option.map_some]

end RouterDecl

/-! ## Building one AS -/

/-- A router of an AS with its name and its connections. -/
structure RouterDecl.Connects (asn : Asn) (r : RouterDecl) (e : String × Router) : Prop where
  name : e.1 = r.name
  records : e.2.crossConnects = r.records asn

namespace Site

theorem crossConnects_foldl_addConnection (asn : Asn) (name : String) (l : List CrossConnectDecl)
    (router : Router) :
    (l.foldl (addConnection asn name) router).crossConnects
      = l.foldl (fun cs x ↦ cs.insert x.peer (x.record asn name)) router.crossConnects := by
  induction l generalizing router with
  | nil => rfl
  | cons x l ih => rw [List.foldl_cons, List.foldl_cons, ih]; rfl

/-- A site has come as far as the routers of a list. -/
structure HasConnections (d : AsDecl) (s : Site) : Prop where
  asn : s.system.asn = d.asn
  routers : List.Forall₂ (RouterDecl.Connects d.asn) d.routers s.system.routers.entries
  connections : s.connections = d.connections.map connectionNetworkOf

variable {d : AsDecl} {s s' : Site}

theorem HasConnections.addNode
    {add : String → Node → Change AutonomousSystem Fault Unit} {n : NodeDecl}
    (hadd : ∀ a name node a', (add name node).after a = .ok a' →
      a'.asn = a.asn ∧ a'.routers = a.routers)
    (h : s.HasConnections d) (hstep : s.addNode add n = .ok s') : s'.HasConnections d := by
  obtain ⟨interfaces, addressing, system, -, hsystem, rfl⟩ := addNode_eq_ok hstep
  obtain ⟨hasn, hrouters⟩ := hadd _ _ _ _ hsystem
  refine ⟨hasn.trans h.asn, ?_, h.connections⟩
  rw [hrouters]
  exact h.routers

theorem HasConnections.addRouter {before : List RouterDecl} {r : RouterDecl}
    (h : s.HasConnections { d with routers := before }) (hstep : s.addRouter r = .ok s') :
    s'.HasConnections { d with routers := before ++ [r] } := by
  obtain ⟨interfaces, addressing, -, hnew, rfl⟩ := addRouter_eq_ok hstep
  refine ⟨h.asn, ?_, ?_⟩
  · rw [Roster.entries_insert_of_not_mem _ _ hnew]
    refine List.rel_append h.routers (.cons ⟨rfl, ?_⟩ .nil)
    rw [routerOf, crossConnects_foldl_addConnection, h.asn]
    rfl
  · rw [h.connections, h.asn, AsDecl.connections, AsDecl.connections, List.flatMap_append,
      List.flatMap_singleton, List.map_append, List.map_map]
    rfl

end Site

theorem AsDecl.hasConnections_of_build {d : AsDecl} {exchanges : Roster String Network}
    {loopbacks : Nat} {s : Site} (h : d.build exchanges loopbacks = .ok s) :
    s.HasConnections d := by
  obtain ⟨attributes, networks, s₁, s₂, s₃, gateways, -, hservices, hhosts, hrouters, rfl⟩ :=
    stages_of_build h
  have hstart : (start { asn := d.asn, attributes, networks } exchanges loopbacks).HasConnections
      { d with routers := [] } := ⟨rfl, .nil, rfl⟩
  have h₁ : s₁.HasConnections { d with routers := [] } := by
    refine foldlM_induction (fun _ (s : Site) ↦ s.HasConnections { d with routers := [] }) hstart
      ?_ hservices
    intro before n s s' hs hstep
    refine hs.addNode (fun a name node a' hadd ↦ ?_) hstep
    obtain ⟨-, rfl⟩ := AutonomousSystem.addControlService_eq_ok hadd
    exact ⟨rfl, rfl⟩
  have h₂ : s₂.HasConnections { d with routers := [] } := by
    refine foldlM_induction (fun _ (s : Site) ↦ s.HasConnections { d with routers := [] }) h₁
      ?_ hhosts
    intro before n s s' hs hstep
    refine hs.addNode (fun a name node a' hadd ↦ ?_) hstep
    obtain ⟨-, rfl⟩ := AutonomousSystem.addHost_eq_ok hadd
    exact ⟨rfl, rfl⟩
  have h₃ : s₃.HasConnections d :=
    foldlM_induction (fun before s ↦ s.HasConnections { d with routers := before }) h₂
      (fun before r s s' hs hstep ↦ hs.addRouter hstep) hrouters
  exact ⟨h₃.asn, h₃.routers, h₃.connections⟩

/-! ## Building the whole network -/

namespace Config

variable {c : Config} {e : Emulation}

theorem exists_routerAt_of_build (h : c.build = .ok e) {d : AsDecl} (hd : d ∈ c.ases)
    {r : RouterDecl} (hr : r ∈ d.routers) :
    ∃ router, e.routerAt (d.asn, r.name) = some router ∧
      router.crossConnects = r.records d.asn := by
  obtain ⟨router, hrouter, hconnects⟩ := exists_routerAt_of_decl h
    (fun _ _ _ hx ↦ RouterDecl.Connects.name hx)
    (fun _ _ _ hbuild ↦ (AsDecl.hasConnections_of_build hbuild).routers) hd hr
  exact ⟨router, hrouter, hconnects.records⟩

theorem records_of_routerAt (h : c.build = .ok e) {p : Port} {router : Router}
    (hp : e.routerAt p = some router) :
    ∃ d ∈ c.ases, ∃ r ∈ d.routers, p = (d.asn, r.name) ∧
      router.crossConnects = r.records d.asn := by
  obtain ⟨d, hd, r, hr, hport, hconnects⟩ := exists_decl_of_routerAt h
    (fun _ _ _ hx ↦ RouterDecl.Connects.name hx)
    (fun _ _ _ hbuild ↦ (AsDecl.hasConnections_of_build hbuild).routers) hp
  exact ⟨d, hd, r, hr, hport, hconnects.records⟩

theorem exists_connection_of_crossConnect? (h : c.build = .ok e) {near far : Port}
    {side : CrossConnect} (hside : e.crossConnect? near far = some side) :
    ∃ x, (near, x) ∈ c.connections ∧ x.peer = far ∧ side = x.record near.1 near.2 := by
  obtain ⟨router, hrouter, hrecord⟩ := Option.bind_eq_some_iff.1 hside
  obtain ⟨d, hd, r, hr, rfl, hrecords⟩ := records_of_routerAt h hrouter
  rw [hrecords] at hrecord
  obtain ⟨x, hx, hpeer, rfl⟩ := RouterDecl.exists_of_get?_records hrecord
  exact ⟨x, mem_connections_iff.2 ⟨d, hd, r, hr, rfl, hx⟩, hpeer, rfl⟩

theorem connections_of_sites {exchanges : Roster String Network} {ds : List AsDecl}
    {sites : List Site}
    (h : List.Forall₂ (fun d s ↦ ∃ loopbacks, d.build exchanges loopbacks = .ok s) ds sites) :
    sites.flatMap (·.connections)
      = (ds.flatMap (·.connections)).map connectionNetworkOf := by
  induction h with
  | nil => rfl
  | cons hbuild _ ih =>
    obtain ⟨loopbacks, hbuild⟩ := hbuild
    rw [List.flatMap_cons, List.flatMap_cons, List.map_append, ih,
      (AsDecl.hasConnections_of_build hbuild).connections]

/-- A network between routers is as the first connection of its name declares it. -/
theorem get?_crossConnectNetworks_of_build (h : c.build = .ok e) (name : String) :
    e.crossConnectNetworks.get? name = c.connectionNetwork? name := by
  obtain ⟨exchanges, sites, -, hassembled⟩ := exists_assembled_of_build h
  rw [hassembled.connections, connections_of_sites hassembled.built]
  rfl

theorem exists_network_of_crossConnect? (h : c.build = .ok e) {near far : Port}
    {side : CrossConnect} (hside : e.crossConnect? near far = some side) :
    ∃ n, e.network? .crossConnect side.network = some n ∧
      c.connectionNetwork? side.network = some n := by
  obtain ⟨x, hx, -, rfl⟩ := exists_connection_of_crossConnect? h hside
  -- The connection itself declares a network of this name.
  have hsome : (c.connectionNetwork? (x.record near.1 near.2).network).isSome = true := by
    rw [connectionNetwork?, List.find?_isSome]
    exact ⟨connectionNetworkOf (near, x), List.mem_map_of_mem hx, decide_eq_true rfl⟩
  obtain ⟨n, hn⟩ := Option.isSome_iff_exists.1 hsome
  exact ⟨n, (get?_crossConnectNetworks_of_build h _).trans hn, hn⟩

/-- **Recorded connections.** Toward each port a router has the last connection that is declared
there, so it has as many as it has peers, and it keeps all declared ones exactly when no two of them
have one peer. -/
theorem keeps_iff_peers_distinct (h : c.build = .ok e) {d : AsDecl} (hd : d ∈ c.ases)
    {r : RouterDecl} (hr : r ∈ d.routers) :
    ∃ router, e.router? d.asn r.name = some router ∧
      (∀ peer, router.crossConnects.get? peer
        = (r.crossConnects.reverse.find? (·.peer = peer)).map (·.record d.asn r.name)) ∧
      router.crossConnects.entries.length = (r.crossConnects.map (·.peer)).dedup.length ∧
      (router.Keeps d.asn r ↔ (r.crossConnects.map (·.peer)).Nodup) := by
  obtain ⟨router, hrouter, hrecords⟩ := exists_routerAt_of_build h hd hr
  refine ⟨router, hrouter, fun peer ↦ ?_, ?_, RouterDecl.keeps_iff hrecords⟩
  · rw [hrecords, RouterDecl.get?_records]
  · rw [hrecords, RouterDecl.length_records]

/-! ### One router with two connections -/

/-- A router with two connections to one router elsewhere, over different networks. -/
def parallelLines : Config where
  isds := [1]
  ases := [{
    asn := 1
    isds := [{ isd := 1 }]
    networks := [{ name := "net0" }]
    routers := [{
      name := "br1"
      crossConnects := [
        { peerAsn := 2
          peerRouter := "br1"
          address := .ofOctets 10 3 0 1 29
          network := some "left" },
        { peerAsn := 2
          peerRouter := "br1"
          address := .ofOctets 10 4 0 1 29
          network := some "right" }] }] }]

/-- Both networks are there, but the router has lost the connection over the first. -/
theorem parallelLines_lost :
    parallelLines.validate = .ok () ∧
      ∃ e router, parallelLines.build = .ok e ∧ e.router? 1 "br1" = some router ∧
        e.crossConnectNetworks.keys = ["left", "right"] ∧
        router.crossConnects.values.map (·.network) = ["right"] ∧
        ∃ d ∈ parallelLines.ases, ∃ r ∈ d.routers, d.asn = 1 ∧ r.name = "br1" ∧
          ¬router.Keeps d.asn r := by
  refine ⟨rfl, ?_⟩
  obtain ⟨e, he, hnetworks⟩ :
      ∃ e, parallelLines.build = .ok e ∧ e.crossConnectNetworks.keys = ["left", "right"] :=
    exists_eq_ok_of_map_toOption (by decide +kernel)
  obtain ⟨router, hrouter, hrecords⟩ :=
    exists_routerAt_of_build he List.mem_cons_self List.mem_cons_self
  refine ⟨e, router, he, hrouter, hnetworks, ?_, _, List.mem_cons_self, _, List.mem_cons_self,
    rfl, rfl, fun hkeeps ↦ ?_⟩
  · rw [hrecords]
    decide
  · have hdistinct := (RouterDecl.keeps_iff hrecords).1 hkeeps
    revert hdistinct
    decide

/-- A router with connections to two routers of one AS. -/
def fork : Config where
  isds := [1]
  ases := [{
    asn := 1
    isds := [{ isd := 1 }]
    networks := [{ name := "net0" }]
    routers := [{
      name := "br1"
      crossConnects := [
        { peerAsn := 2, peerRouter := "br1", address := .ofOctets 10 3 0 1 29 },
        { peerAsn := 2, peerRouter := "br2", address := .ofOctets 10 4 0 1 29 }] }] }]

theorem fork_keeps :
    ∃ e, fork.build = .ok e ∧
      ∃ d ∈ fork.ases, ∃ r ∈ d.routers, ∃ router, e.router? d.asn r.name = some router ∧
        router.crossConnects.entries.length = 2 ∧ router.Keeps d.asn r := by
  obtain ⟨e, he, -⟩ : ∃ e, fork.build = .ok e ∧ e.crossConnectNetworks.keys.length = 2 :=
    exists_eq_ok_of_map_toOption (by decide +kernel)
  obtain ⟨router, hrouter, -, hlength, hkeeps⟩ :=
    keeps_iff_peers_distinct he List.mem_cons_self List.mem_cons_self
  exact ⟨e, he, _, List.mem_cons_self, _, List.mem_cons_self, router, hrouter,
    hlength.trans (by decide), hkeeps.2 (by decide)⟩

end Config

end Interdomain
