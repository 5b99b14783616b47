import Interdomain.Emulation
import Interdomain.Proofs.Maps
import Interdomain.Proofs.Numbers
import Interdomain.Proofs.Outcome

/-!
# What allocation changes

Links take interface ids and ports from a network and leave descriptors in it. These three are read
off a network as functions of their keys, `Emulation.bare` is the network without them, and each
operation changes one of the four and leaves the others alone.
-/

namespace Interdomain

/-! ## Tables -/

section Tables

variable {κ ν : Type} [DecidableEq κ]

/-- A table after some entries were written into it, one after another. -/
def written (t : κ → Option ν) (entries : List (κ × ν)) : κ → Option ν :=
  entries.foldl (fun t x ↦ Function.update t x.1 (some x.2)) t

theorem written_cons (t : κ → Option ν) (x : κ × ν) (l : List (κ × ν)) :
    written t (x :: l) = written (Function.update t x.1 (some x.2)) l := rfl

theorem written_swap (t : κ → Option ν) {x y : κ × ν} (h : x.1 ≠ y.1) (l : List (κ × ν)) :
    written t (x :: y :: l) = written t (y :: x :: l) := by
  rw [written_cons, written_cons, written_cons, written_cons, Function.update_comm h]

theorem written_of_not_mem {t : κ → Option ν} {l : List (κ × ν)} {k : κ}
    (h : k ∉ l.map (·.1)) : written t l k = t k := by
  induction l generalizing t with
  | nil => rfl
  | cons x l ih =>
    rw [List.map_cons, List.mem_cons, not_or] at h
    rw [written_cons, ih h.2, Function.update_of_ne h.1]

theorem written_of_mem {t : κ → Option ν} {l : List (κ × ν)} (hl : (l.map (·.1)).Nodup)
    {x : κ × ν} (hx : x ∈ l) : written t l x.1 = some x.2 := by
  induction l generalizing t with
  | nil => exact absurd hx List.not_mem_nil
  | cons y l ih =>
    rw [List.map_cons, List.nodup_cons] at hl
    rw [written_cons]
    rcases List.mem_cons.1 hx with rfl | hx
    · rw [written_of_not_mem hl.1, Function.update_self]
    · exact ih hl.2 hx

end Tables

/-! ## Functions of all values -/

/-- Replace every value of a roster by a function of it. -/
def Roster.map {κ ν ν' : Type} (r : Roster κ ν) (f : ν → ν') : Roster κ ν' where
  entries := r.entries.map fun e ↦ (e.1, f e.2)
  nodup := by
    rw [List.map_map]
    exact r.nodup

/-- Replace every value of a map by a function of it. -/
def SortedMap.map {κ ν ν' : Type} [Ord κ] (m : SortedMap κ ν) (f : ν → ν') : SortedMap κ ν' where
  descending := m.descending.map fun e ↦ (e.1, f e.2)
  sorted := by
    rw [Descending, List.pairwise_map]
    exact m.sorted

theorem Roster.keys_map {κ ν ν' : Type} (r : Roster κ ν) (f : ν → ν') :
    (r.map f).keys = r.keys := by
  rw [keys, map, List.map_map]
  rfl

theorem Roster.get?_map {κ ν ν' : Type} [DecidableEq κ] (r : Roster κ ν) (f : ν → ν') (k : κ) :
    (r.map f).get? k = (r.get? k).map f := by
  rw [get?, get?, map, List.find?_map, Option.map_map, Option.map_map]
  rfl

theorem SortedMap.keys_map {κ ν ν' : Type} [Ord κ] (m : SortedMap κ ν) (f : ν → ν') :
    (m.map f).keys = m.keys := by
  rw [keys, keys, toList, toList, map, ← List.map_reverse, List.map_map]
  rfl

theorem SortedMap.get?_map {κ ν ν' : Type} [Ord κ] (m : SortedMap κ ν) (f : ν → ν') (k : κ) :
    (m.map f).get? k = (m.get? k).map f := by
  rw [get?, get?, map, List.find?_map, Option.map_map, Option.map_map]
  rfl

theorem Roster.map_modify {κ ν ν' : Type} [DecidableEq κ] (r : Roster κ ν) {f : ν → ν'} {k : κ}
    {old new : ν} (hold : r.get? k = some old) (hf : f new = f old) :
    (r.modify k fun _ ↦ new).map f = r.map f := by
  apply Roster.ext
  simp only [Roster.map, Roster.modify, List.map_map]
  refine List.map_congr_left fun e he ↦ ?_
  simp only [Function.comp]
  -- The entry at the key is the old value, since the keys of a roster are distinct.
  split
  case isTrue hk =>
    have hval : e.2 = old := by
      rw [r.get?_eq_some_iff.2 (hk ▸ he : (k, e.2) ∈ r.entries)] at hold
      exact Option.some.inj hold
    rw [hf, hval]
  case isFalse => rfl

theorem SortedMap.map_modify {κ ν ν' : Type} [Ord κ] [Std.TransOrd κ] [Std.LawfulEqOrd κ]
    (m : SortedMap κ ν) {f : ν → ν'} {k : κ} {old new : ν} (hold : m.get? k = some old)
    (hf : f new = f old) : (m.modify k fun _ ↦ new).map f = m.map f := by
  apply SortedMap.ext
  simp only [SortedMap.map, SortedMap.modify, List.map_map]
  refine List.map_congr_left fun e he ↦ ?_
  simp only [Function.comp]
  split
  case isTrue hk =>
    have hkey : e.1 = k := Std.LawfulEqCmp.eq_of_compare (eq_of_beq hk)
    have hval : e.2 = old := by
      rw [m.get?_eq_some_iff.2 (hkey ▸ he : (k, e.2) ∈ m.descending)] at hold
      exact Option.some.inj hold
    rw [hf, hval]
  case isFalse => rfl

/-! ## Views of a network -/

/-- A router without its ports and without the descriptors on it. -/
def Router.bare (r : Router) : Router := { r with ports := ⟨0⟩, attached := ∅ }

/-- An AS without its interface ids, and with bare routers. -/
def AutonomousSystem.bare (a : AutonomousSystem) : AutonomousSystem :=
  { a with interfaceIds := ⟨0⟩, routers := a.routers.map Router.bare }

/-! ## Taking a number -/

namespace AutonomousSystem

variable {a a' : AutonomousSystem} {id : Nat}

theorem outcome_takeInterfaceId (a : AutonomousSystem) :
    takeInterfaceId.outcome a =
      match a.interfaceIds.take? with
      | some (id, interfaceIds) => .ok (id, { a with interfaceIds })
      | none => .error (.interfaceIdsExhausted a.asn) := by
  rw [takeInterfaceId, Change.outcome_look_bind, nextInterfaceId]
  cases a.interfaceIds.take? <;> rfl

theorem takeInterfaceId_eq_ok_iff :
    takeInterfaceId.outcome a = .ok (id, a') ↔
      ∃ c, a.interfaceIds.take? = some (id, c) ∧ a' = { a with interfaceIds := c } := by
  rw [outcome_takeInterfaceId]
  cases a.interfaceIds.take? with
  | none => simp
  | some r => simp [Prod.ext_iff, eq_comm]

end AutonomousSystem

namespace Router

variable {ε : Type} {r r' : Router} {port : Nat}

theorem outcome_takePort (none : ε) (r : Router) :
    (takePort none).outcome r =
      match r.ports.take? with
      | some (port, ports) => .ok (port, { r with ports })
      | Option.none => .error none := by
  rw [takePort, Change.outcome_look_bind]
  cases r.ports.take? <;> rfl

theorem takePort_eq_ok_iff {none : ε} :
    (takePort none).outcome r = .ok (port, r') ↔
      ∃ c, r.ports.take? = some (port, c) ∧ r' = { r with ports := c } := by
  rw [outcome_takePort]
  cases r.ports.take? with
  | none => simp
  | some r => simp [Prod.ext_iff, eq_comm]

end Router

namespace Emulation

/-- The network without what links take from it and leave in it. -/
def bare (e : Emulation) : Emulation := { e with ases := e.ases.map AutonomousSystem.bare }

/-- The router at a port. -/
def routerAt (e : Emulation) (p : Port) : Option Router := e.router? p.1 p.2

/-- What a router records of the router at another port. -/
def crossConnect? (e : Emulation) (near far : Port) : Option CrossConnect :=
  (e.routerAt near).bind (·.crossConnects.get? far)

def idCounters (e : Emulation) : Counters Asn := fun n ↦ (e.as? n).map (·.interfaceIds)

def portCounters (e : Emulation) : Counters Port := fun p ↦ (e.routerAt p).map (·.ports)

/-- The descriptor at a router under an interface id. -/
def descriptorAt (e : Emulation) (x : Port × Nat) : Option Descriptor :=
  (e.routerAt x.1).bind (·.attached.get? x.2)

variable {e e' : Emulation}

theorem as?_bare (e : Emulation) (n : Asn) :
    e.bare.as? n = (e.as? n).map AutonomousSystem.bare :=
  SortedMap.get?_map ..

theorem left_idCounters (e : Emulation) (n : Asn) :
    e.idCounters.left n = e.freeInterfaceIds n := by
  rw [Counters.left, idCounters, freeInterfaceIds]
  cases e.as? n <;> rfl

theorem left_portCounters (e : Emulation) (p : Port) :
    e.portCounters.left p = e.freePorts p.1 p.2 := by
  rw [Counters.left, portCounters, freePorts, routerAt]
  cases e.router? p.1 p.2 <;> rfl

theorem freeInterfaceIds_of_as? {n : Asn} {a : AutonomousSystem} (h : e.as? n = some a) :
    e.freeInterfaceIds n = a.interfaceIds.free := by
  rw [freeInterfaceIds, h]

theorem freePorts_of_router? {n : Asn} {name : String} {r : Router}
    (h : e.router? n name = some r) : e.freePorts n name = r.ports.free := by
  rw [freePorts, h]

theorem freeInterfaceIds_le (e : Emulation) (n : Asn) :
    e.freeInterfaceIds n ≤ Counter.last + 1 := by
  rw [← left_idCounters]
  exact Counters.left_le ..

theorem freePorts_le (e : Emulation) (p : Port) : e.freePorts p.1 p.2 ≤ Counter.last + 1 := by
  rw [← left_portCounters]
  exact Counters.left_le ..

/-! ### Look-up after a change -/

theorem as?_setAs {n : Asn} {a b : AutonomousSystem} (h : e.as? n = some a) :
    (e.setAs n b).as? = Function.update e.as? n (some b) := by
  funext m
  by_cases hm : m = n
  · subst hm
    have hself : (e.setAs m b).as? m = (e.as? m).map fun _ ↦ b :=
      SortedMap.get?_modify_self e.ases m _
    rw [hself, h, Function.update_self, Option.map_some]
  · rw [Function.update_of_ne hm]
    exact SortedMap.get?_modify_of_ne e.ases _ (Ne.symm hm)

theorem bare_setAs {n : Asn} {a b : AutonomousSystem} (h : e.as? n = some a)
    (hb : b.bare = a.bare) : (e.setAs n b).bare = e.bare := by
  rw [bare, bare, setAs, SortedMap.map_modify _ h hb]

theorem router?_eq (e : Emulation) (n : Asn) (name : String) :
    e.router? n name = (e.as? n).bind (·.routers.get? name) := rfl

theorem crossConnect?_of_router? {n : Asn} {name : String} {r : Router}
    (h : e.router? n name = some r) (far : Port) :
    e.crossConnect? (n, name) far = r.crossConnects.get? far := by
  rw [crossConnect?, routerAt, h, Option.bind_some]

theorem routerAt_setAs {n : Asn} {a b : AutonomousSystem} (h : e.as? n = some a)
    (hb : b.routers = a.routers) : (e.setAs n b).routerAt = e.routerAt := by
  funext p
  rw [routerAt, routerAt, router?_eq, router?_eq, as?_setAs h]
  by_cases hp : p.1 = n
  · rw [hp, Function.update_self, h, Option.bind_some, Option.bind_some, hb]
  · rw [Function.update_of_ne hp]

theorem routerAt_setAs_modifyRouter {n : Asn} {name : String} {a : AutonomousSystem}
    {r r' : Router} (h : e.as? n = some a) (hr : a.routers.get? name = some r) :
    (e.setAs n (a.modifyRouter name fun _ ↦ r')).routerAt
      = Function.update e.routerAt (n, name) (some r') := by
  funext p
  obtain ⟨m, s⟩ := p
  rw [routerAt, router?_eq, as?_setAs h]
  by_cases hm : m = n
  · subst hm
    rw [Function.update_self, Option.bind_some, AutonomousSystem.modifyRouter,
      Roster.get?_modify]
    -- Within the AS the name decides which router is the new one.
    by_cases hs : s = name
    · rw [hs, if_pos rfl, hr, Function.update_self, Option.map_some]
    · have hne : (m, s) ≠ (m, name) := fun heq ↦ hs (Prod.ext_iff.1 heq).2
      rw [if_neg hs, Function.update_of_ne hne, routerAt, router?_eq, h, Option.bind_some]
  · have hne : (m, s) ≠ (n, name) := fun heq ↦ hm (Prod.ext_iff.1 heq).1
    rw [Function.update_of_ne hm, Function.update_of_ne hne, routerAt, router?_eq]

theorem bare_setAs_modifyRouter {n : Asn} {name : String} {a : AutonomousSystem} {r r' : Router}
    (h : e.as? n = some a) (hr : a.routers.get? name = some r) (hbare : r'.bare = r.bare) :
    (e.setAs n (a.modifyRouter name fun _ ↦ r')).bare = e.bare := by
  apply bare_setAs h
  rw [AutonomousSystem.bare, AutonomousSystem.bare, AutonomousSystem.modifyRouter,
    Roster.map_modify _ hr hbare]

theorem routerAt_bare (e : Emulation) (p : Port) :
    e.bare.routerAt p = (e.routerAt p).map Router.bare := by
  rw [routerAt, routerAt, router?_eq, router?_eq, as?_bare]
  cases e.as? p.1 with
  | none => rfl
  | some a => exact a.routers.get?_map Router.bare p.2

/-! ### The operations -/

theorem setAs_eq_self {n : Asn} {a : AutonomousSystem} (h : e.as? n = some a) :
    e.setAs n a = e := by
  rw [setAs, SortedMap.modify_eq_self h]

theorem modifyRouter_eq_self {a : AutonomousSystem} {name : String} {r : Router}
    (h : a.routers.get? name = some r) : (a.modifyRouter name fun _ ↦ r) = a := by
  rw [AutonomousSystem.modifyRouter, Roster.modify_eq_self h]

section Parts

variable {α : Type} {n : Asn} {name : String} {x : α}

theorem findAs_eq_ok_iff {a : AutonomousSystem} : e.findAs n = .ok a ↔ e.as? n = some a := by
  rw [findAs]
  cases e.as? n <;> simp

theorem findRouter_eq_ok_iff {a : AutonomousSystem} {r : Router} :
    a.findRouter name = .ok r ↔ a.routers.get? name = some r := by
  rw [AutonomousSystem.findRouter]
  cases a.routers.get? name <;> simp

theorem onAs_eq_ok_iff {c : Change AutonomousSystem Fault α} :
    (onAs n c).outcome e = .ok (x, e') ↔
      ∃ a a', e.as? n = some a ∧ c.outcome a = .ok (x, a') ∧ e' = e.setAs n a' := by
  rw [onAs, Change.outcome_part, bind_eq_ok_iff]
  simp only [findAs_eq_ok_iff, map_eq_ok_iff, Prod.exists, Prod.mk.injEq]
  constructor
  · rintro ⟨a, ha, _, a', hc, rfl, rfl⟩
    exact ⟨a, a', ha, hc, rfl⟩
  · rintro ⟨a, a', ha, hc, rfl⟩
    exact ⟨a, ha, x, a', hc, rfl, rfl⟩

theorem onRouter_eq_ok_iff {c : Change Router Fault α} :
    (onAs n (AutonomousSystem.onRouter name c)).outcome e = .ok (x, e') ↔
      ∃ a r r', e.as? n = some a ∧ a.routers.get? name = some r ∧ c.outcome r = .ok (x, r') ∧
        e' = e.setAs n (a.modifyRouter name fun _ ↦ r') := by
  simp only [onAs_eq_ok_iff, AutonomousSystem.onRouter, Change.outcome_part, bind_eq_ok_iff,
    findRouter_eq_ok_iff, map_eq_ok_iff, Prod.exists, Prod.mk.injEq]
  constructor
  · rintro ⟨a, _, ha, ⟨r, hr, _, r', hc, rfl, rfl⟩, rfl⟩
    exact ⟨a, r, r', ha, hr, hc, rfl⟩
  · rintro ⟨a, r, r', ha, hr, hc, rfl⟩
    exact ⟨a, _, ha, ⟨r, hr, x, r', hc, rfl, rfl⟩, rfl⟩

theorem routerAt_eq_some_iff {r : Router} :
    e.routerAt (n, name) = some r ↔ ∃ a, e.as? n = some a ∧ a.routers.get? name = some r := by
  rw [routerAt, router?_eq, Option.bind_eq_some_iff]

end Parts

/-- Taking an interface id moves the counter of the AS and nothing else. -/
theorem allocateInterfaceId_effect {n : Asn} {id : Nat}
    (h : (allocateInterfaceId n).outcome e = .ok (id, e')) :
    Issues e.idCounters [(n, id)] e'.idCounters ∧ e'.portCounters = e.portCounters ∧
      e'.descriptorAt = e.descriptorAt ∧ e'.bare = e.bare := by
  obtain ⟨a, a', ha, hgranted, rfl⟩ := onAs_eq_ok_iff.1 h
  obtain ⟨c, htake, rfl⟩ := AutonomousSystem.takeInterfaceId_eq_ok_iff.1 hgranted
  have hrouters : (e.setAs n { a with interfaceIds := c }).routerAt = e.routerAt :=
    routerAt_setAs ha rfl
  have hfound : e.idCounters n = some a.interfaceIds := by rw [idCounters, ha, Option.map_some]
  have hafter : (e.setAs n { a with interfaceIds := c }).idCounters
      = Function.update e.idCounters n (some c) := by
    funext m
    rw [idCounters, as?_setAs ha]
    by_cases hm : m = n
    · rw [hm, Function.update_self, Function.update_self, Option.map_some]
    · rw [Function.update_of_ne hm, Function.update_of_ne hm, idCounters]
  refine ⟨hafter ▸ .single hfound htake, ?_, ?_, bare_setAs ha rfl⟩
  · funext p
    rw [portCounters, portCounters, hrouters]
  · funext x
    rw [descriptorAt, descriptorAt, hrouters]

/-- A network that can afford an id gives one, and can afford the others afterwards. -/
theorem exists_allocateInterfaceId {n : Asn} {ids : List Asn}
    (h : Affords e.idCounters (n :: ids)) :
    ∃ id e', (allocateInterfaceId n).outcome e = .ok (id, e') ∧ Affords e'.idCounters ids := by
  obtain ⟨c, id, c', found, taken⟩ := h.exists_take
  obtain ⟨a, ha, rfl⟩ := Option.map_eq_some_iff.1 found
  have hok : (allocateInterfaceId n).outcome e
      = .ok (id, e.setAs n { a with interfaceIds := c' }) :=
    onAs_eq_ok_iff.2
      ⟨a, _, ha, AutonomousSystem.takeInterfaceId_eq_ok_iff.2 ⟨c', taken, rfl⟩, rfl⟩
  exact ⟨id, _, hok, h.of_issues (allocateInterfaceId_effect hok).1⟩

/-- A router with other ports and descriptors takes the place of one that was found. -/
theorem replaceRouter_effect {n : Asn} {name : String} {a : AutonomousSystem} {r : Router}
    (ha : e.as? n = some a) (hr : a.routers.get? name = some r) (r' : Router)
    (hbare : r'.bare = r.bare) :
    let e' := e.setAs n (a.modifyRouter name fun _ ↦ r')
    e'.routerAt = Function.update e.routerAt (n, name) (some r') ∧
      e'.idCounters = e.idCounters ∧ e'.bare = e.bare := by
  refine ⟨routerAt_setAs_modifyRouter ha hr, ?_, bare_setAs_modifyRouter ha hr hbare⟩
  funext m
  rw [idCounters, as?_setAs ha]
  by_cases hm : m = n
  · rw [hm, Function.update_self, idCounters, ha]
    rfl
  · rw [Function.update_of_ne hm, idCounters]

theorem portCounters_of_routerAt {p : Port} {r : Router}
    (h : e'.routerAt = Function.update e.routerAt p (some r)) :
    e'.portCounters = Function.update e.portCounters p (some r.ports) := by
  funext q
  rw [portCounters, h]
  by_cases hq : q = p
  · rw [hq, Function.update_self, Function.update_self, Option.map_some]
  · rw [Function.update_of_ne hq, Function.update_of_ne hq, portCounters]

theorem descriptorAt_of_routerAt {p : Port} {r : Router}
    (h : e'.routerAt = Function.update e.routerAt p (some r)) (x : Port × Nat) :
    e'.descriptorAt x = if x.1 = p then r.attached.get? x.2 else e.descriptorAt x := by
  rw [descriptorAt, h]
  split
  case isTrue hx => rw [hx, Function.update_self, Option.bind_some]
  case isFalse hx => rw [Function.update_of_ne hx, descriptorAt]

theorem allocatePort_effect {n : Asn} {name : String} {port : Nat}
    (h : (allocatePort n name).outcome e = .ok (port, e')) :
    Issues e.portCounters [((n, name), port)] e'.portCounters ∧ e'.idCounters = e.idCounters ∧
      e'.descriptorAt = e.descriptorAt ∧ e'.bare = e.bare := by
  obtain ⟨a, r, r', ha, hr, hgranted, rfl⟩ := onRouter_eq_ok_iff.1 h
  obtain ⟨c, htake, rfl⟩ := Router.takePort_eq_ok_iff.1 hgranted
  have hrouter : e.routerAt (n, name) = some r := routerAt_eq_some_iff.2 ⟨a, ha, hr⟩
  have hfound : e.portCounters (n, name) = some r.ports := by
    rw [portCounters, hrouter, Option.map_some]
  obtain ⟨hrouters, hids, hbare⟩ := replaceRouter_effect ha hr { r with ports := c } rfl
  refine ⟨?_, hids, ?_, hbare⟩
  · rw [portCounters_of_routerAt hrouters]
    exact .single hfound htake
  · funext y
    rw [descriptorAt_of_routerAt hrouters]
    split
    case isTrue hy => rw [descriptorAt, hy, hrouter, Option.bind_some]
    case isFalse => rfl

theorem exists_allocatePort {p : Port} {ports : List Port}
    (h : Affords e.portCounters (p :: ports)) :
    ∃ port e', (allocatePort p.1 p.2).outcome e = .ok (port, e') ∧
      Affords e'.portCounters ports := by
  obtain ⟨c, port, c', found, taken⟩ := h.exists_take
  obtain ⟨r, hrouter, rfl⟩ := Option.map_eq_some_iff.1 found
  obtain ⟨a, ha, hr⟩ := routerAt_eq_some_iff.1 hrouter
  have hok : (allocatePort p.1 p.2).outcome e
      = .ok (port, e.setAs p.1 (a.modifyRouter p.2 fun _ ↦ { r with ports := c' })) :=
    onRouter_eq_ok_iff.2
      ⟨a, r, _, ha, hr, Router.takePort_eq_ok_iff.2 ⟨c', taken, rfl⟩, rfl⟩
  exact ⟨port, _, hok, h.of_issues (allocatePort_effect hok).1⟩

theorem attach_effect {n : Asn} {name : String} {id : Nat} {d : Descriptor}
    (h : (attach n name id d).outcome e = .ok ((), e')) :
    e'.descriptorAt = Function.update e.descriptorAt ((n, name), id) (some d) ∧
      e'.idCounters = e.idCounters ∧ e'.portCounters = e.portCounters ∧ e'.bare = e.bare := by
  obtain ⟨a, r, r', ha, hr, hwrite, rfl⟩ := onRouter_eq_ok_iff.1 h
  obtain rfl : r.attach id d = r' := (Prod.mk.inj (Except.ok.inj hwrite)).2
  have hrouter : e.routerAt (n, name) = some r := routerAt_eq_some_iff.2 ⟨a, ha, hr⟩
  obtain ⟨hrouters, hids, hbare⟩ := replaceRouter_effect ha hr (r.attach id d) rfl
  refine ⟨?_, hids, ?_, hbare⟩
  · funext x
    obtain ⟨p, i⟩ := x
    rw [descriptorAt_of_routerAt hrouters]
    -- At the router itself the ids decide, everywhere else its key already differs.
    split
    case isTrue hp =>
      obtain rfl : p = (n, name) := hp
      rw [Router.attach]
      by_cases hi : i = id
      · rw [hi, SortedMap.get?_insert_self, Function.update_self]
      · have hne : ((n, name), i) ≠ ((n, name), id) := fun heq ↦ hi (Prod.ext_iff.1 heq).2
        rw [SortedMap.get?_insert_of_ne _ _ (Ne.symm hi), Function.update_of_ne hne, descriptorAt,
          hrouter, Option.bind_some]
    case isFalse hp =>
      have hne : (p, i) ≠ ((n, name), id) := fun heq ↦ hp (Prod.ext_iff.1 heq).1
      rw [Function.update_of_ne hne]
  · have hports : e.portCounters (n, name) = some r.ports := by
      rw [portCounters, hrouter, Option.map_some]
    rw [portCounters_of_routerAt hrouters, Router.attach, ← hports, Function.update_eq_self]

theorem exists_attach {p : Port} (h : (e.portCounters p).isSome = true) (id : Nat)
    (d : Descriptor) : ∃ e', (attach p.1 p.2 id d).outcome e = .ok ((), e') := by
  rw [portCounters, Option.isSome_map] at h
  obtain ⟨r, hrouter⟩ := Option.isSome_iff_exists.1 h
  obtain ⟨a, ha, hr⟩ := routerAt_eq_some_iff.1 hrouter
  exact ⟨_, onRouter_eq_ok_iff.2 ⟨a, r, _, ha, hr, rfl, rfl⟩⟩

end Emulation

end Interdomain
