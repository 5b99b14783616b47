import Interdomain.Proofs.Building.Ledger
import Interdomain.Proofs.History

/-!
# A network after any history

Nodes of an AS ask for addresses on its networks in any order. A network serves hosts from below and
routers from above, so the offset that a node gets follows from the number of its kind that were
served before. When the two sides have met, nobody is served any more. Until then every offset that
is taken is one that a host may have, however small or large the network is, and what happens on the
other networks in between makes no difference.
-/

namespace Interdomain

namespace Ipv4.Subnet

/-- The last offset that is given out: that of the last host, as far as routers start there. -/
def lastOffset (n : Subnet) : Nat := min (n.size - 2) Offsets.firstRouter

/-- The number of offsets that are given out. -/
def capacity (n : Subnet) : Nat := n.lastOffset + 1 - Offsets.firstHost

end Ipv4.Subnet

namespace Addressing

/-! ## Calls -/

/-- Who asks for an address. -/
inductive Role where
  /-- A host or a control service. -/
  | host
  | router
  deriving DecidableEq

/-- A node asks to be attached to a network. -/
structure Call where
  role : Role
  node : String
  network : String

def serve (c : Call) : Change Addressing AddressFault Interface :=
  match c.role with
  | .host => attachHost c.node c.network
  | .router => attachRouter c.node c.network

def history (s : Addressing) (calls : List Call) : History Call Addressing AddressFault Interface :=
  .record serve s calls

/-- The nodes of a kind that were served on a network in order, each with its interface. -/
def served (h : History Call Addressing AddressFault Interface) (network : String) (role : Role) :
    List (Call × Interface) :=
  h.granted.filter fun x ↦ x.1.network = network ∧ x.1.role = role

/-- A network of which nothing is given out, among networks that are known by their names. -/
structure Fresh (s : Addressing) (n : Network) : Prop where
  named : ∀ name m o, s.networks.get? name = some (m, o) → m.name = name
  whole : s.networks.get? n.name = some (n, .ofSubnet n.subnet)

/-! ## Offsets -/

namespace Role

/-- How a node takes an offset. -/
def take? : Role → Offsets → Option (Nat × Offsets)
  | host => Offsets.takeLow?
  | router => Offsets.takeHigh?

/-- The offset of a node on a subnet, after so many of its kind. -/
def offset (n : Ipv4.Subnet) : Role → Nat → Nat
  | host, k => Offsets.firstHost + k
  | router, k => n.lastOffset - k

end Role

/-- The offsets that are left of a subnet after so many hosts and routers. -/
structure Left (n : Ipv4.Subnet) (count : Role → Nat) (o : Offsets) : Prop where
  low : o.low = Offsets.firstHost + count .host
  high : o.high + count .router = n.lastOffset
  bounded : count .host + count .router ≤ n.capacity

namespace Left

variable {n : Ipv4.Subnet} {count : Role → Nat} {o : Offsets}

theorem ofSubnet (n : Ipv4.Subnet) : Left n (fun _ ↦ 0) (.ofSubnet n) :=
  ⟨rfl, rfl, Nat.zero_le _⟩

/-- When all offsets are given out nobody gets one, and before that the next one of its side. -/
theorem take?_cases (h : Left n count o) (role : Role) :
    (count .host + count .router = n.capacity ∧ role.take? o = none) ∨
      (count .host + count .router < n.capacity ∧ ∃ o',
        role.take? o = some (role.offset n (count role), o') ∧
          Left n (Function.update count role (count role + 1)) o') := by
  obtain ⟨hlow, hhigh, hbounded⟩ := h
  have hfirst : Offsets.firstHost = 71 := rfl
  have hcapacity : n.capacity = n.lastOffset + 1 - 71 := rfl
  by_cases hfull : o.high < o.low
  · refine .inl ⟨by omega, ?_⟩
    cases role with
    | host => exact if_pos hfull
    | router => exact if_pos (.inl hfull)
  · refine .inr ⟨by omega, ?_⟩
    cases role with
    | host =>
      refine ⟨{ o with low := o.low + 1 }, ?_, ?_, ?_, ?_⟩
      · rw [Role.take?, Offsets.takeLow?, if_neg hfull, hlow, Role.offset]
      · simp only [Function.update_self]
        omega
      · simpa using hhigh
      · simp only [Function.update_self, ne_eq, reduceCtorEq, not_false_eq_true,
          Function.update_of_ne]
        omega
    | router =>
      have hpos : ¬(o.high < o.low ∨ o.high = 0) := by omega
      refine ⟨{ o with high := o.high - 1 }, ?_, ?_, ?_, ?_⟩
      · have hoffset : o.high = n.lastOffset - count .router := by omega
        rw [Role.take?, Offsets.takeHigh?, if_neg hpos, Role.offset, ← hoffset]
      · simpa using hlow
      · simp only [Function.update_self]
        omega
      · simp only [Function.update_self, ne_eq, reduceCtorEq, not_false_eq_true,
          Function.update_of_ne]
        omega

theorem exists_hostAddress? (h : Left n count o) {role : Role} {k : Nat} {o' : Offsets}
    (htake : role.take? o = some (k, o')) :
    Offsets.firstHost ≤ k ∧ ∃ a, n.hostAddress? k = some a := by
  obtain ⟨-, hnone⟩ | ⟨hroom, o'', hsome, -⟩ := h.take?_cases role
  · rw [htake] at hnone
    exact absurd hnone (by simp)
  · rw [htake] at hsome
    obtain ⟨rfl, -⟩ := Prod.mk.inj (Option.some.inj hsome)
    have hcapacity : n.capacity = n.lastOffset + 1 - Offsets.firstHost := rfl
    have hlast : n.lastOffset ≤ n.size - 2 := Nat.min_le_left ..
    have hfirst : Offsets.firstHost = 71 := rfl
    have hk : Offsets.firstHost ≤ role.offset n (count role) ∧
        role.offset n (count role) ≤ n.lastOffset := by
      cases role with
      | host =>
        simp only [Role.offset]
        omega
      | router =>
        simp only [Role.offset]
        omega
    exact ⟨hk.1, Ipv4.Subnet.exists_hostAddress?_iff.2 ⟨by omega, by omega⟩⟩

end Left

/-! ## One call -/

variable {s s' : Addressing} {n : Network} {o : Offsets} {c : Call} {i : Interface}

/-- On a network of the AS both kinds are served in the same way. -/
theorem serve_inside (hn : s.networks.get? c.network = some (n, o)) :
    (serve c).on s = (attachInside n o c.role.take?).on s := by
  obtain ⟨role, node, network⟩ := c
  cases role with
  | host =>
    rw [serve, attachHost, Change.on_look_bind]
    dsimp only at hn ⊢
    rw [hn]
    rfl
  | router =>
    rw [serve, attachRouter, Change.on_look_bind]
    dsimp only at hn ⊢
    rw [hn]
    rfl

theorem serve_outside (hn : s.networks.get? c.network = none) : ((serve c).on s).2 = s := by
  obtain ⟨role, node, network⟩ := c
  cases role with
  | host =>
    rw [serve, attachHost, Change.on_look_bind]
    dsimp only at hn ⊢
    rw [hn]
    rfl
  | router =>
    rw [serve, attachRouter, Change.on_look_bind]
    dsimp only at hn ⊢
    rw [hn]
    rfl

/-- An offset that could be taken is taken, whatever comes of it. -/
theorem state_attachInside (s : Addressing) (n : Network) (o : Offsets)
    (take? : Offsets → Option (Nat × Offsets)) :
    ((attachInside n o take?).on s).2 = match take? o with
      | some (_, o') => { s with networks := s.networks.modify n.name fun _ ↦ (n, o') }
      | none => s := by
  rw [attachInside, Change.on_look_bind]
  cases take? o <;> rfl

/-- A call on another network, or on an exchange, makes no difference to a network, whatever comes
of it. -/
theorem networks_of_serve (hnamed : ∀ name m o, s.networks.get? name = some (m, o) → m.name = name)
    {network : String} (hc : c.network ≠ network) :
    let s' := ((serve c).on s).2
    (∀ name m o, s'.networks.get? name = some (m, o) → m.name = name) ∧
      s'.networks.get? network = s.networks.get? network := by
  intro s'
  cases hlookup : s.networks.get? c.network with
  | none =>
    have hsame : s' = s := serve_outside hlookup
    rw [hsame]
    exact ⟨hnamed, rfl⟩
  | some entry =>
    obtain ⟨m, o⟩ := entry
    have hm := hnamed c.network m o hlookup
    have hstate : s' = match c.role.take? o with
        | some (_, o') => { s with networks := s.networks.modify m.name fun _ ↦ (m, o') }
        | none => s := by
      rw [← state_attachInside, ← serve_inside hlookup]
    cases htake : c.role.take? o with
    | none =>
      rw [htake] at hstate
      rw [hstate]
      exact ⟨hnamed, rfl⟩
    | some r =>
      rw [htake] at hstate
      have hmodify := get?_modify_network (hm.symm ▸ hlookup) r.2
      rw [hstate]
      refine ⟨fun name m' p hm' ↦ ?_, (hmodify network).trans (if_neg ?_)⟩
      · rw [hmodify] at hm'
        split at hm'
        case isTrue hname =>
          obtain ⟨rfl, -⟩ := Prod.mk.inj (Option.some.inj hm')
          exact hname.symm
        case isFalse => exact hnamed name m' p hm'
      · rw [hm]
        exact Ne.symm hc

theorem served_extend {h : History Call Addressing AddressFault Interface}
    (hok : (serve c).outcome h.state = .ok (i, s')) (network : String) (role : Role) :
    served (h.extend serve c) network role
      = if c.network = network ∧ c.role = role then served h network role ++ [(c, i)]
        else served h network role := by
  rw [served, History.granted_extend_of_eq_ok hok, List.filter_append]
  split
  case isTrue hthis => rw [List.filter_cons_of_pos (by simpa using hthis), List.filter_nil, served]
  case isFalse hother =>
    rw [List.filter_cons_of_neg (by simpa using hother), List.filter_nil, List.append_nil, served]

theorem served_extend_of_eq_error {h : History Call Addressing AddressFault Interface}
    {e : AddressFault} (herror : (serve c).outcome h.state = .error e) (network : String)
    (role : Role) :
    served (h.extend serve c) network role = served h network role := by
  rw [served, History.granted_extend_of_eq_error herror, served]

/-! ## All calls -/

/-- What is known of a network after some calls. -/
structure Allotted (n : Network) (h : History Call Addressing AddressFault Interface) : Prop where
  named : ∀ name m o, h.state.networks.get? name = some (m, o) → m.name = name
  left : ∃ o, h.state.networks.get? n.name = some (n, o) ∧
    Left n.subnet (fun role ↦ (served h n.name role).length) o
  /-- Each node is at the offset that the number of its kind before it leads to. -/
  offsets : ∀ role, (served h n.name role).map (fun x ↦ some x.2.address)
    = (List.range (served h n.name role).length).map fun k ↦
        n.subnet.hostAddress? (role.offset n.subnet k)

namespace Allotted

variable {h : History Call Addressing AddressFault Interface}

/-- When the sides have met a call is refused, and before that it is granted the next offset. -/
theorem serve_cases (hn : Allotted n h) (hc : c.network = n.name) :
    ((served h n.name .host).length + (served h n.name .router).length = n.subnet.capacity ∧
      (serve c).on h.state = (.error (.exhausted n.name), h.state)) ∨
    ((served h n.name .host).length + (served h n.name .router).length < n.subnet.capacity ∧
      ∃ o o' a, h.state.networks.get? n.name = some (n, o) ∧
        n.subnet.hostAddress? (c.role.offset n.subnet (served h n.name c.role).length) = some a ∧
        (serve c).outcome h.state = .ok (⟨n.scope, n.name, a⟩,
          { h.state with networks := h.state.networks.modify n.name fun _ ↦ (n, o') }) ∧
        Left n.subnet (Function.update (fun role ↦ (served h n.name role).length) c.role
          ((served h n.name c.role).length + 1)) o') := by
  obtain ⟨o, hlookup, hleft⟩ := hn.left
  have hserve : (serve c).on h.state = (attachInside n o c.role.take?).on h.state :=
    serve_inside (hc.symm ▸ hlookup)
  obtain ⟨hfull, hnone⟩ | ⟨hroom, o', hsome, hleft'⟩ := hleft.take?_cases c.role
  · refine .inl ⟨hfull, ?_⟩
    rw [hserve, attachInside, Change.on_look_bind, hnone]
    rfl
  · obtain ⟨-, a, ha⟩ := hleft.exists_hostAddress? hsome
    refine .inr ⟨hroom, o, o', a, hlookup, ha, ?_, hleft'⟩
    have houtcome : (serve c).outcome h.state
        = (attachInside n o c.role.take?).outcome h.state := by
      rw [Change.outcome, hserve, ← Change.outcome]
    rw [houtcome, outcome_attachInside, hsome]
    simp only [ha]

/-- A call on the network that is refused changes nothing, for then no offset is left to take. -/
theorem refused_here {e : AddressFault} (hn : Allotted n h)
    (herror : (serve c).outcome h.state = .error e) (hc : c.network = n.name) :
    Allotted n (h.extend serve c) := by
  obtain ⟨-, hfull⟩ | ⟨-, _, _, _, -, -, hok, -⟩ := hn.serve_cases hc
  · have hstate : (h.extend serve c).state = h.state := congrArg Prod.snd hfull
    refine ⟨hstate ▸ hn.named, ?_, ?_⟩
    · simp only [hstate, served_extend_of_eq_error herror]
      exact hn.left
    · simp only [served_extend_of_eq_error herror]
      exact hn.offsets
  · rw [herror] at hok
    exact absurd hok (by simp)

theorem granted_here (hn : Allotted n h) (hok : (serve c).outcome h.state = .ok (i, s'))
    (hc : c.network = n.name) : Allotted n (h.extend serve c) := by
  obtain ⟨-, hfull⟩ | ⟨-, o, o', a, hlookup, ha, hserve, hleft⟩ := hn.serve_cases hc
  · have hfault := Change.outcome_eq_error_iff.2 (congrArg Prod.fst hfull)
    rw [hok] at hfault
    exact absurd hfault (by simp)
  rw [hok] at hserve
  obtain ⟨rfl, rfl⟩ := Prod.mk.inj (Except.ok.inj hserve)
  have hserved : ∀ role, served (h.extend serve c) n.name role
      = if c.role = role then served h n.name role ++ [(c, ⟨n.scope, n.name, a⟩)]
        else served h n.name role := by
    intro role
    rw [served_extend hok]
    simp only [hc, true_and]
  have hcount : (fun role ↦ (served (h.extend serve c) n.name role).length)
      = Function.update (fun role ↦ (served h n.name role).length) c.role
          ((served h n.name c.role).length + 1) := by
    funext role
    rw [hserved]
    by_cases hrole : c.role = role
    · obtain rfl := hrole
      simp
    · rw [if_neg hrole, Function.update_of_ne (Ne.symm hrole)]
  have hmodify := get?_modify_network hlookup o'
  refine ⟨fun name m p hm ↦ ?_, ⟨o', ?_, ?_⟩, fun role ↦ ?_⟩
  · rw [History.extend_of_eq_ok hok] at hm
    rw [hmodify] at hm
    split at hm
    case isTrue hname =>
      obtain ⟨rfl, -⟩ := Prod.mk.inj (Option.some.inj hm)
      exact hname.symm
    case isFalse => exact hn.named name m p hm
  · rw [History.extend_of_eq_ok hok]
    exact (hmodify n.name).trans (if_pos rfl)
  · rw [hcount]
    exact hleft
  · rw [hserved]
    split
    case isTrue hrole =>
      subst hrole
      rw [List.map_append, hn.offsets, List.length_append, List.length_singleton,
        List.range_succ, List.map_append, List.map_singleton, List.map_singleton, ha]
    case isFalse => exact hn.offsets role

theorem elsewhere (hn : Allotted n h) (hc : c.network ≠ n.name) :
    Allotted n (h.extend serve c) := by
  obtain ⟨hnamed, hlookup⟩ := networks_of_serve hn.named hc
  have hserved : ∀ role, served (h.extend serve c) n.name role = served h n.name role := by
    intro role
    cases hcall : (serve c).outcome h.state with
    | ok r => rw [served_extend hcall, if_neg fun hthis ↦ hc hthis.1]
    | error e => rw [served_extend_of_eq_error hcall]
  refine ⟨hnamed, ?_, ?_⟩
  · simp only [hserved]
    exact hlookup.symm ▸ hn.left
  · simp only [hserved]
    exact hn.offsets

theorem history (hfresh : s.Fresh n) (calls : List Call) : Allotted n (s.history calls) := by
  refine History.record_induction (fun _ ↦ Allotted n) ?_ ?_ ?_ calls
  · exact ⟨hfresh.named, ⟨_, hfresh.whole, .ofSubnet n.subnet⟩, fun _ ↦ rfl⟩
  · intro _ c h i s' ih hok
    by_cases hc : c.network = n.name
    · exact ih.granted_here hok hc
    · exact ih.elsewhere hc
  · intro _ c h e ih herror
    by_cases hc : c.network = n.name
    · exact ih.refused_here herror hc
    · exact ih.elsewhere hc

theorem length_le (hn : Allotted n h) :
    (served h n.name .host).length + (served h n.name .router).length ≤ n.subnet.capacity := by
  obtain ⟨o, -, hleft⟩ := hn.left
  exact hleft.bounded

theorem hostAddress?_of_getElem? (hn : Allotted n h) {role : Role} {k : Nat}
    {x : Call × Interface} (hx : (served h n.name role)[k]? = some x) :
    k < (served h n.name role).length ∧
      n.subnet.hostAddress? (role.offset n.subnet k) = some x.2.address := by
  obtain ⟨hk, -⟩ := List.getElem?_eq_some_iff.1 hx
  have hentry := congrArg (·[k]?) (hn.offsets role)
  simp only [List.getElem?_map, hx, List.getElem?_range hk, Option.map_some] at hentry
  exact ⟨hk, (Option.some.inj hentry).symm⟩

/-- The offsets from below and those from above differ. -/
theorem offsets_nodup (hn : Allotted n h) :
    ((List.range (served h n.name .host).length).map (Role.host.offset n.subnet) ++
      (List.range (served h n.name .router).length).map (Role.router.offset n.subnet)).Nodup := by
  have hlength := hn.length_le
  have hcapacity : n.subnet.capacity = n.subnet.lastOffset + 1 - 71 := rfl
  have hfirst : Offsets.firstHost = 71 := rfl
  rw [List.nodup_append]
  refine ⟨List.nodup_range.map_on fun k _ k' _ heq ↦ ?_,
    List.nodup_range.map_on fun k hk k' hk' heq ↦ ?_, fun x hx y hy ↦ ?_⟩
  · simp only [Role.offset] at heq
    omega
  · rw [List.mem_range] at hk hk'
    simp only [Role.offset] at heq
    omega
  · obtain ⟨k, hk, rfl⟩ := List.mem_map.1 hx
    obtain ⟨k', hk', rfl⟩ := List.mem_map.1 hy
    rw [List.mem_range] at hk hk'
    simp only [Role.offset]
    omega

theorem values_eq (hn : Allotted n h) (role : Role) :
    (served h n.name role).map (·.2.address.value)
      = ((List.range (served h n.name role).length).map (role.offset n.subnet)).map
          (n.subnet.base.value + ·) := by
  refine List.ext_getElem? fun k ↦ ?_
  simp only [List.getElem?_map]
  cases hx : (served h n.name role)[k]? with
  | none =>
    rw [List.getElem?_eq_none (by simpa using hx)]
    rfl
  | some x =>
    obtain ⟨hk, haddress⟩ := hn.hostAddress?_of_getElem? hx
    rw [List.getElem?_range hk]
    exact congrArg some (Ipv4.Subnet.value_of_hostAddress? haddress)

theorem addresses_nodup (hn : Allotted n h) :
    ((h.granted.filter (·.1.network = n.name)).map (·.2.address)).Nodup := by
  have hperm : (served h n.name .host ++ served h n.name .router).Perm
      (h.granted.filter (·.1.network = n.name)) := by
    have hsplit := List.filter_append_perm (fun x : Call × Interface ↦ x.1.role = .host)
      (h.granted.filter (·.1.network = n.name))
    rw [List.filter_filter, List.filter_filter] at hsplit
    refine .trans (.of_eq (congrArg₂ _ ?_ ?_)) hsplit
    · exact List.filter_congr fun x _ ↦ (Bool.decide_and ..).trans (Bool.and_comm ..)
    · refine List.filter_congr fun x _ ↦ ?_
      cases x.1.role <;> simp
  refine (hperm.map _).nodup_iff.1 (.of_map Ipv4.Address.value ?_)
  rw [List.map_map, List.map_append]
  have hvalues := hn.values_eq
  simp only [Function.comp_def]
  rw [hvalues, hvalues, ← List.map_append]
  exact hn.offsets_nodup.map fun _ _ ↦ Nat.add_left_cancel

/-- Whoever was served on the network is one of its hosts or routers. -/
theorem exists_getElem?_served {x : Call × Interface} {network : String}
    (hx : x ∈ h.granted.filter (·.1.network = network)) :
    ∃ (role : Role) (k : Nat), (served h network role)[k]? = some x := by
  obtain ⟨hgranted, hname⟩ := List.mem_filter.1 hx
  refine ⟨x.1.role, List.mem_iff_getElem?.1 (List.mem_filter.2 ⟨hgranted, ?_⟩)⟩
  simpa using hname

/-- A call is refused exactly when all offsets are given out. -/
theorem serve_eq_error_iff (hn : Allotted n h) (hc : c.network = n.name) :
    ((serve c).outcome h.state = .error (.exhausted n.name) ↔
      (served h n.name .host).length + (served h n.name .router).length = n.subnet.capacity) ∧
    ((served h n.name .host).length + (served h n.name .router).length ≠ n.subnet.capacity →
      ∃ i s', (serve c).outcome h.state = .ok (i, s')) := by
  obtain ⟨hfull, herror⟩ | ⟨hroom, o, o', x, -, -, hok, -⟩ := hn.serve_cases hc
  · have hfault := Change.outcome_eq_error_iff.2 (congrArg Prod.fst herror)
    exact ⟨iff_of_true hfault hfull, fun hne ↦ absurd hfull hne⟩
  · refine ⟨iff_of_false (fun herror ↦ ?_) (Nat.ne_of_lt hroom), fun _ ↦ ⟨_, _, hok⟩⟩
    rw [hok] at herror
    exact absurd herror (by simp)

end Allotted

/-! ## The networks of an AS -/

theorem fresh_start {a : AutonomousSystem} (exchanges : Roster String Network) (loopbacks : Nat)
    (hnames : ∀ name m, (name, m) ∈ a.networks.entries → m.name = name)
    (hn : (n.name, n) ∈ a.networks.entries) :
    (AsDecl.start a exchanges loopbacks).addressing.Fresh n := by
  refine ⟨fun name m o hm ↦ ?_, ?_⟩
  · obtain ⟨m', -, rfl, heq⟩ := Roster.exists_of_get?_foldl_insert hm
    rw [(Prod.mk.inj heq).1]
  · have hkey := (Roster.mem_keys_foldl_insert Network.name
      (fun m ↦ (m, Offsets.ofSubnet m.subnet)) a.networks.values ∅).2
      (.inr (List.mem_map_of_mem (List.mem_map_of_mem hn)))
    obtain ⟨entry, hentry⟩ := Option.isSome_iff_exists.1 ((Roster.get?_isSome_iff ..).2 hkey)
    obtain ⟨m, hm, hname, rfl⟩ := Roster.exists_of_get?_foldl_insert hentry
    obtain ⟨⟨key, _⟩, hmem, rfl⟩ := List.mem_map.1 hm
    obtain rfl := hnames key _ hmem
    -- Two networks at one name are one.
    have hsame := (Roster.get?_eq_some_iff _).2 hmem
    rw [hname, (Roster.get?_eq_some_iff _).2 hn] at hsame
    obtain rfl := Option.some.inj hsame
    exact hentry

/-- **Addresses on a network of an AS.** Hosts and routers may call in any order, on this network
and on others. The addresses given on the network differ from each other and are strictly between
its base and its broadcast address. Counted from zero, the `k`th host gets offset `71 + k`, and the
`k`th router lies as far below the last offset. A call on the network is refused exactly when all
offsets between the two ends are given out, and then because the network is exhausted. An offset
that is taken always belongs to an address. The networks are listed under their names, as they are
in every AS that is built. -/
theorem addresses_of_network {a : AutonomousSystem} (exchanges : Roster String Network)
    (loopbacks : Nat) (hnames : ∀ name m, (name, m) ∈ a.networks.entries → m.name = name)
    (hn : (n.name, n) ∈ a.networks.entries) (calls : List Call) :
    let h := (AsDecl.start a exchanges loopbacks).addressing.history calls
    let given := h.granted.filter (·.1.network = n.name)
    let hosts := served h n.name .host
    let routers := served h n.name .router
    let last := min (n.subnet.size - 2) 254
    (given.map (·.2.address)).Nodup ∧
    (∀ x ∈ given, n.subnet.base.value < x.2.address.value ∧
      x.2.address.value < n.subnet.broadcast.value) ∧
    (∀ k x, hosts[k]? = some x → x.2.address.value = n.subnet.base.value + (71 + k)) ∧
    (∀ k x, routers[k]? = some x →
      k ≤ last ∧ x.2.address.value = n.subnet.base.value + (last - k)) ∧
    (∀ c : Call, c.network = n.name →
      ((serve c).outcome h.state = .error (.exhausted n.name) ↔
        hosts.length + routers.length = last - 70) ∧
      (hosts.length + routers.length ≠ last - 70 →
        ∃ i s', (serve c).outcome h.state = .ok (i, s'))) ∧
    ∃ o, h.state.networks.get? n.name = some (n, o) ∧ o.low = 71 + hosts.length ∧
      o.high + routers.length = last ∧
      ∀ (role : Role) k o', role.take? o = some (k, o') →
        ∃ x, n.subnet.hostAddress? k = some x := by
  intro h given hosts routers last
  have hall : Allotted n h := .history (fresh_start exchanges loopbacks hnames hn) calls
  have hcapacity : n.subnet.capacity = last - 70 := by
    have : n.subnet.capacity = last + 1 - 71 := rfl
    omega
  refine ⟨hall.addresses_nodup, fun x hx ↦ ?_, fun k x hx ↦ ?_, fun k x hx ↦ ?_,
    fun c hc ↦ hcapacity ▸ hall.serve_eq_error_iff hc, ?_⟩
  · obtain ⟨role, k, hk⟩ := Allotted.exists_getElem?_served hx
    exact Ipv4.Subnet.between_of_hostAddress? (hall.hostAddress?_of_getElem? hk).2
  · obtain ⟨-, haddress⟩ := hall.hostAddress?_of_getElem? hx
    exact (Ipv4.Subnet.hostAddress?_eq_some_iff.1 haddress).1
  · obtain ⟨hk, haddress⟩ := hall.hostAddress?_of_getElem? hx
    have hlength := hall.length_le
    exact ⟨by omega, (Ipv4.Subnet.hostAddress?_eq_some_iff.1 haddress).1⟩
  · obtain ⟨o, hlookup, hleft⟩ := hall.left
    exact ⟨o, hlookup, hleft.low, hleft.high,
      fun role k o' htake ↦ (hleft.exists_hostAddress? htake).2⟩

/-! ### Two small networks -/

/-- A network at the end of all addresses. -/
def lastNetwork : Network := ⟨"net0", .inside 1, .ofOctets 255 255 255 135 25, 1500⟩

/-- A network that is too small to be used. -/
def tinyNetwork : Network := ⟨"net1", .inside 1, .ofOctets 10 1 1 0 26, 1500⟩

/-- An AS with both networks. -/
def smallNetworks : AutonomousSystem where
  asn := 1
  networks := ((∅ : Roster String Network).insert "net0" lastNetwork).insert "net1" tinyNetwork

/-- A host, a router and another host of the first network. In between a router asks for an address
on the second one. -/
def mixedCalls : List Call :=
  [⟨.host, "cs1", "net0"⟩, ⟨.router, "br1", "net0"⟩, ⟨.router, "br1", "net1"⟩,
    ⟨.host, "host1", "net0"⟩]

/-- The second host has offset 72 and the router the last one. The other network is exhausted from
the start. -/
theorem smallNetworks_addresses :
    ∃ h, h = (AsDecl.start smallNetworks ∅ 0).addressing.history mixedCalls ∧
      ((h.granted.filter (·.1.network = "net0")).map (·.2.address)).Nodup ∧
      (∃ x, (served h "net0" .host)[1]? = some x ∧
        x.2.address.value = (Ipv4.Address.ofOctets 255 255 255 200).value) ∧
      (∃ x, (served h "net0" .router)[0]? = some x ∧
        x.2.address.value = (Ipv4.Address.ofOctets 255 255 255 254).value) ∧
      (∃ i s', (serve ⟨.router, "br2", "net0"⟩).outcome h.state = .ok (i, s')) ∧
      (serve ⟨.host, "host2", "net1"⟩).outcome h.state = .error (.exhausted "net1") := by
  have hnames : ∀ name m, (name, m) ∈ smallNetworks.networks.entries → m.name = name := by
    intro name m hmem
    have hall : ∀ x ∈ smallNetworks.networks.entries, x.2.name = x.1 := by decide +kernel
    exact hall (name, m) hmem
  obtain ⟨hdistinct, -, hhosts, hrouters, hcall, -⟩ := addresses_of_network (n := lastNetwork) ∅ 0
    hnames (by decide +kernel) mixedCalls
  obtain ⟨-, -, -, -, hcall', -⟩ := addresses_of_network (n := tinyNetwork) ∅ 0
    hnames (by decide +kernel) mixedCalls
  refine ⟨_, rfl, hdistinct, ⟨_, rfl, hhosts 1 _ rfl⟩, ⟨_, rfl, (hrouters 0 _ rfl).2⟩,
    (hcall ⟨.router, "br2", "net0"⟩ rfl).2 (by decide +kernel),
    (hcall' ⟨.host, "host2", "net1"⟩ rfl).1.2 (by decide +kernel)⟩

end Addressing

end Interdomain
