import Interdomain.Proofs.Allocation
import Interdomain.Proofs.Maps

/-!
# The views make up the network

A network is known from its four views: the interface ids of its ASes, the ports of its routers,
the descriptors on them, and what is left without these. So two ways to change a network lead to the
same one as soon as they agree on each view.

The bare network keeps the order of the routers, and the other views say what each of them has.
-/

namespace Interdomain

/-! ## Routers and ASes -/

theorem Router.ext_views {r r' : Router} (hbare : r.bare = r'.bare) (hports : r.ports = r'.ports)
    (hattached : ∀ id, r.attached.get? id = r'.attached.get? id) : r = r' := by
  obtain ⟨loopback, interfaces, crossConnects, ports, attached⟩ := r
  obtain ⟨loopback', interfaces', crossConnects', ports', attached'⟩ := r'
  obtain rfl : ports = ports' := hports
  obtain rfl : attached = attached' := SortedMap.ext_get? hattached
  simp only [Router.bare, Router.mk.injEq] at hbare
  obtain ⟨rfl, rfl, rfl, -⟩ := hbare
  rfl

theorem AutonomousSystem.ext_views {a a' : AutonomousSystem} (hbare : a.bare = a'.bare)
    (hids : a.interfaceIds = a'.interfaceIds)
    (hrouters : ∀ name, a.routers.get? name = a'.routers.get? name) : a = a' := by
  have hnames : a.routers.keys = a'.routers.keys := by
    rw [← a.routers.keys_map Router.bare, ← a'.routers.keys_map Router.bare]
    exact congrArg (·.routers.keys) hbare
  have hsame : a.routers = a'.routers := Roster.ext_get? hnames hrouters
  obtain ⟨asn, networks, routers⟩ := a
  obtain ⟨asn', networks', routers'⟩ := a'
  obtain rfl : routers = routers' := hsame
  simp only [AutonomousSystem.bare, AutonomousSystem.mk.injEq] at hbare hids
  simp only [hbare, hids]

/-! ## The network -/

namespace Emulation

variable {e e' : Emulation}

theorem routerAt_eq_of_views (hbare : e.bare = e'.bare) (hports : e.portCounters = e'.portCounters)
    (hdescriptors : e.descriptorAt = e'.descriptorAt) (p : Port) :
    e.routerAt p = e'.routerAt p := by
  have hrouter : (e.routerAt p).map Router.bare = (e'.routerAt p).map Router.bare := by
    rw [← e.routerAt_bare, ← e'.routerAt_bare, hbare]
  have hport := congrFun hports p
  have hdescriptor := fun id ↦ congrFun hdescriptors (p, id)
  simp only [portCounters, descriptorAt] at hport hdescriptor
  cases hr : e.routerAt p with
  | none =>
    rw [hr, Option.map_none, eq_comm, Option.map_eq_none_iff] at hrouter
    exact hrouter.symm
  | some r =>
    rw [hr, Option.map_some, eq_comm, Option.map_eq_some_iff] at hrouter
    obtain ⟨r', hr', hsame⟩ := hrouter
    rw [hr, hr', Option.map_some, Option.map_some, Option.some_inj] at hport
    simp only [hr, hr', Option.bind_some] at hdescriptor
    rw [hr', Router.ext_views hsame.symm hport hdescriptor]

theorem as?_eq_of_views (hbare : e.bare = e'.bare) (hids : e.idCounters = e'.idCounters)
    (hrouters : ∀ p, e.routerAt p = e'.routerAt p) (n : Asn) : e.as? n = e'.as? n := by
  have has : (e.as? n).map AutonomousSystem.bare = (e'.as? n).map AutonomousSystem.bare := by
    rw [← e.as?_bare, ← e'.as?_bare, hbare]
  have hid := congrFun hids n
  have hrouter := fun name ↦ hrouters (n, name)
  simp only [idCounters, routerAt, router?_eq] at hid hrouter
  cases ha : e.as? n with
  | none =>
    rw [ha, Option.map_none, eq_comm, Option.map_eq_none_iff] at has
    exact has.symm
  | some a =>
    rw [ha, Option.map_some, eq_comm, Option.map_eq_some_iff] at has
    obtain ⟨a', ha', hsame⟩ := has
    rw [ha, ha', Option.map_some, Option.map_some, Option.some_inj] at hid
    simp only [ha, ha', Option.bind_some] at hrouter
    rw [ha', AutonomousSystem.ext_views hsame.symm hid hrouter]

/-- **The views make up the network.** -/
theorem ext_views (hbare : e.bare = e'.bare) (hids : e.idCounters = e'.idCounters)
    (hports : e.portCounters = e'.portCounters) (hdescriptors : e.descriptorAt = e'.descriptorAt) :
    e = e' := by
  have hases : e.ases = e'.ases :=
    SortedMap.ext_get? (as?_eq_of_views hbare hids (routerAt_eq_of_views hbare hports hdescriptors))
  obtain ⟨isds, ases, exchanges, crossConnectNetworks⟩ := e
  obtain ⟨isds', ases', exchanges', crossConnectNetworks'⟩ := e'
  obtain rfl : ases = ases' := hases
  simp only [bare, Emulation.mk.injEq] at hbare
  obtain ⟨rfl, -, rfl, rfl⟩ := hbare
  rfl

end Emulation

end Interdomain
