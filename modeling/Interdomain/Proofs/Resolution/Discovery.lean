import Interdomain.Proofs.Resolution.Planning

/-!
# The routers of a cross-connect

Where an end of a cross-connect names no router, planning looks for one. It goes through the routers
of the first AS in the order of their creation, and for each of them through its records in their
order. This file says which pair it comes to without the search: the first router that has a fitting
record at all, with the first of its fitting records. A record fits if it is of a router of the other
AS that is there; a record of a router that is missing is passed over. Whether the pair will do is
settled afterwards, so that a router further on which would do is never considered.
-/

namespace Interdomain

/-! ## The first element with a property -/

section First

variable {α β : Type} {l : List α} {p : α → Prop} {x y : α}

/-- An element of a list has a property, and none before it has. -/
def FirstWith (l : List α) (p : α → Prop) (x : α) : Prop :=
  ∃ before after, l = before ++ x :: after ∧ p x ∧ ∀ y ∈ before, ¬p y

theorem FirstWith.mem (h : FirstWith l p x) : x ∈ l := by
  obtain ⟨before, after, rfl, -, -⟩ := h
  exact List.mem_append_right before List.mem_cons_self

theorem exists_firstWith_iff : (∃ x, FirstWith l p x) ↔ ∃ x ∈ l, p x := by
  constructor
  · rintro ⟨x, hx⟩
    obtain ⟨-, -, -, hp, -⟩ := id hx
    exact ⟨x, hx.mem, hp⟩
  · rintro ⟨x, hx, hp⟩
    induction l with
    | nil => exact absurd hx List.not_mem_nil
    | cons y l ih =>
      by_cases hy : p y
      · exact ⟨y, [], l, rfl, hy, fun z hz ↦ absurd hz List.not_mem_nil⟩
      · have hne : x ≠ y := fun heq ↦ hy (heq ▸ hp)
        obtain ⟨z, before, after, rfl, hz, hbefore⟩ := ih ((List.mem_cons.1 hx).resolve_left hne)
        exact ⟨z, y :: before, after, rfl, hz, List.forall_mem_cons.2 ⟨hy, hbefore⟩⟩

/-- A search stops at the first element at which there is something to find. -/
theorem findSome?_eq_some_iff_firstWith {f : α → Option β} (hf : ∀ x, f x = none ↔ ¬p x) {b : β} :
    l.findSome? f = some b ↔ ∃ x, FirstWith l p x ∧ f x = some b := by
  have hp : ∀ {x}, f x = some b → p x := by
    intro x hx
    by_contra hnot
    rw [(hf x).2 hnot] at hx
    exact absurd hx (by simp)
  rw [List.findSome?_eq_some_iff]
  constructor
  · rintro ⟨before, x, after, rfl, hx, hbefore⟩
    exact ⟨x, ⟨before, after, rfl, hp hx, fun y hy ↦ (hf y).1 (hbefore y hy)⟩, hx⟩
  · rintro ⟨x, ⟨before, after, rfl, -, hbefore⟩, hx⟩
    exact ⟨before, x, after, rfl, hx, fun y hy ↦ (hf y).2 (hbefore y hy)⟩

theorem findSome?_eq_none_iff_not_exists {f : α → Option β} (hf : ∀ x, f x = none ↔ ¬p x) :
    l.findSome? f = none ↔ ¬∃ x ∈ l, p x := by
  rw [List.findSome?_eq_none_iff, not_exists]
  refine forall_congr' fun x ↦ ?_
  rw [hf, not_and]

end First

namespace Resolution

variable {e : Emulation} {ends : LinkEnds} {a b : String × Router} {l : PlannedLink}

/-! ## Routers that fit -/

/-- A record is of a router of the second AS that is there, of the named one where one is named. -/
structure Fits (e : Emulation) (ends : LinkEnds) (x : Port) : Prop where
  asn : x.1 = ends.b.asn
  named : ∀ name ∈ ends.bRouter, x.2 = name
  found : ∃ r, e.router? ends.b.asn x.2 = some r

/-- A router has a record that fits, and is the named one where one is named. -/
structure Leads (e : Emulation) (ends : LinkEnds) (a : String × Router) : Prop where
  named : ∀ name ∈ ends.aRouter, a.1 = name
  fits : ∃ x ∈ a.2.crossConnects.keys, Fits e ends x

/-- Some router of the first AS leads to the second one. -/
def Connects (e : Emulation) (ends : LinkEnds) : Prop :=
  ∃ a ∈ e.routers ends.a.asn, Leads e ends a

/-- The first router of the first AS that leads to the second one, and the router there of its first
record that fits. -/
structure Discovers (e : Emulation) (ends : LinkEnds) (a b : String × Router) : Prop where
  first : FirstWith (e.routers ends.a.asn) (Leads e ends) a
  record : FirstWith a.2.crossConnects.keys (Fits e ends) (ends.b.asn, b.1)
  found : e.router? ends.b.asn b.1 = some b.2

/-! ## The search -/

/-- The pair that a record of a router gives, if the record fits. -/
def pairAt? (e : Emulation) (ends : LinkEnds) (a : String × Router) (x : Port) :
    Option ((String × Router) × (String × Router)) :=
  if x.1 = ends.b.asn ∧ admits ends.bRouter x.2 then
    (e.router? x.1 x.2).map fun r ↦ (a, (x.2, r))
  else none

/-- The pair of the first record of a router that fits. -/
def pairOf? (e : Emulation) (ends : LinkEnds) (a : String × Router) :
    Option ((String × Router) × (String × Router)) :=
  if admits ends.aRouter a.1 then a.2.crossConnects.keys.findSome? (pairAt? e ends a) else none

theorem discover?_eq (e : Emulation) (ends : LinkEnds) :
    discover? e ends = (e.routers ends.a.asn).findSome? (pairOf? e ends) := rfl

theorem pairAt?_eq_some_iff {x : Port} {pair : (String × Router) × (String × Router)} :
    pairAt? e ends a x = some pair ↔ pair.1 = a ∧ x = (ends.b.asn, pair.2.1) ∧
      (∀ name ∈ ends.bRouter, x.2 = name) ∧ e.router? ends.b.asn pair.2.1 = some pair.2.2 := by
  obtain ⟨asn, name⟩ := x
  obtain ⟨a', b⟩ := pair
  rw [pairAt?]
  split
  case isTrue h =>
    obtain ⟨rfl, hnamed⟩ := h
    rw [admits_iff] at hnamed
    rw [Option.map_eq_some_iff]
    constructor
    · rintro ⟨r, hr, heq⟩
      obtain ⟨rfl, rfl⟩ := Prod.mk.inj heq
      exact ⟨rfl, rfl, hnamed, hr⟩
    · rintro ⟨rfl, hport, -, hr⟩
      obtain rfl : name = b.1 := congrArg Prod.snd hport
      exact ⟨b.2, hr, rfl⟩
  case isFalse h =>
    refine iff_of_false (by simp) ?_
    rintro ⟨-, hport, hnamed, -⟩
    exact h ⟨congrArg Prod.fst hport, admits_iff.2 hnamed⟩

theorem pairAt?_eq_none_iff (e : Emulation) (ends : LinkEnds) (a : String × Router) (x : Port) :
    pairAt? e ends a x = none ↔ ¬Fits e ends x := by
  rw [← Option.not_isSome_iff_eq_none, not_iff_not, Option.isSome_iff_exists]
  constructor
  · rintro ⟨pair, hpair⟩
    obtain ⟨-, rfl, hnamed, hfound⟩ := pairAt?_eq_some_iff.1 hpair
    exact ⟨rfl, hnamed, _, hfound⟩
  · rintro ⟨hasn, hnamed, r, hr⟩
    exact ⟨(a, (x.2, r)), pairAt?_eq_some_iff.2 ⟨rfl, Prod.ext hasn rfl, hnamed, hr⟩⟩

theorem pairOf?_eq_none_iff (e : Emulation) (ends : LinkEnds) (a : String × Router) :
    pairOf? e ends a = none ↔ ¬Leads e ends a := by
  rw [pairOf?]
  split
  case isTrue hnamed =>
    rw [findSome?_eq_none_iff_not_exists (pairAt?_eq_none_iff e ends a), not_iff_not]
    exact ⟨fun hfits ↦ ⟨admits_iff.1 hnamed, hfits⟩, Leads.fits⟩
  case isFalse hnamed => exact iff_of_true rfl fun h ↦ hnamed (admits_iff.2 h.named)

theorem pairOf?_eq_some_iff {pair : (String × Router) × (String × Router)} :
    pairOf? e ends a = some pair ↔ pair.1 = a ∧ (∀ name ∈ ends.aRouter, a.1 = name) ∧
      FirstWith a.2.crossConnects.keys (Fits e ends) (ends.b.asn, pair.2.1) ∧
        e.router? ends.b.asn pair.2.1 = some pair.2.2 := by
  rw [pairOf?]
  split
  case isTrue hnamed =>
    rw [findSome?_eq_some_iff_firstWith (pairAt?_eq_none_iff e ends a)]
    constructor
    · rintro ⟨x, hfirst, hx⟩
      obtain ⟨ha, rfl, -, hfound⟩ := pairAt?_eq_some_iff.1 hx
      exact ⟨ha, admits_iff.1 hnamed, hfirst, hfound⟩
    · rintro ⟨ha, -, hfirst, hfound⟩
      obtain ⟨-, -, -, hfits, -⟩ := id hfirst
      exact ⟨_, hfirst, pairAt?_eq_some_iff.2 ⟨ha, rfl, hfits.named, hfound⟩⟩
  case isFalse hnamed =>
    refine iff_of_false (by simp) ?_
    rintro ⟨-, hnamed', -⟩
    exact hnamed (admits_iff.2 hnamed')

/-- The search comes to the first pair. -/
theorem discover?_eq_some_iff : discover? e ends = some (a, b) ↔ Discovers e ends a b := by
  rw [discover?_eq, findSome?_eq_some_iff_firstWith (pairOf?_eq_none_iff e ends)]
  constructor
  · rintro ⟨a', hfirst, ha'⟩
    obtain ⟨rfl, -, hrecord, hfound⟩ := pairOf?_eq_some_iff.1 ha'
    exact ⟨hfirst, hrecord, hfound⟩
  · rintro ⟨hfirst, hrecord, hfound⟩
    obtain ⟨-, -, -, hleads, -⟩ := id hfirst
    exact ⟨a, hfirst, pairOf?_eq_some_iff.2 ⟨rfl, hleads.named, hrecord, hfound⟩⟩

theorem discover?_eq_none_iff : discover? e ends = none ↔ ¬Connects e ends := by
  rw [discover?_eq, findSome?_eq_none_iff_not_exists (pairOf?_eq_none_iff e ends)]
  rfl

/-! ## The routers that are considered -/

/-- The two routers that a link between two ASes is planned for. -/
inductive Considers (e : Emulation) (ends : LinkEnds) (a b : String × Router) : Prop
  /-- Both are named. -/
  | named (a_named : ends.aRouter = some a.1) (b_named : ends.bRouter = some b.1)
      (a_found : e.router? ends.a.asn a.1 = some a.2) (b_found : e.router? ends.b.asn b.1 = some b.2)
  /-- At least one of them is not. -/
  | discovered (open_end : ends.aRouter = none ∨ ends.bRouter = none)
      (discovers : Discovers e ends a b)

theorem crossConnectRouters_of_named {aName bName : String} (ha : ends.aRouter = some aName)
    (hb : ends.bRouter = some bName) :
    crossConnectRouters e ends
      = (do return (← namedRouter e ends.a aName, ← namedRouter e ends.b bName)) := by
  simp only [crossConnectRouters, ha, hb]

theorem crossConnectRouters_of_open (h : ends.aRouter = none ∨ ends.bRouter = none) :
    crossConnectRouters e ends = (do
      checkNamed e ends.a ends.aRouter
      checkNamed e ends.b ends.bRouter
      match discover? e ends with
      | some pair => return pair
      | none => .error (.unresolvedLink ends.a ends.b .noRouter)) := by
  rw [crossConnectRouters]
  split
  case h_1 ha hb =>
    rw [ha, hb] at h
    exact absurd h (by simp)
  case h_2 => rfl

theorem checkNamed_eq_ok {ia : IsdAsn} {router : Option String}
    (h : ∀ name ∈ router, ∃ r, e.router? ia.asn name = some r) :
    checkNamed e ia router = .ok () := by
  cases router with
  | none => rfl
  | some name =>
    obtain ⟨r, hr⟩ := h name rfl
    rw [checkNamed, namedRouter, hr]
    rfl

theorem crossConnectRouters_eq_ok_iff :
    crossConnectRouters e ends = .ok (a, b) ↔ Considers e ends a b := by
  by_cases hopen : ends.aRouter = none ∨ ends.bRouter = none
  · rw [crossConnectRouters_of_open hopen]
    constructor
    · intro h
      obtain ⟨-, -, h⟩ := bind_eq_ok_iff.1 h
      obtain ⟨-, -, h⟩ := bind_eq_ok_iff.1 h
      cases hfound : discover? e ends with
      | none =>
        rw [hfound] at h
        exact absurd h (by simp)
      | some pair =>
        rw [hfound] at h
        obtain rfl := Except.ok.inj h
        exact .discovered hopen (discover?_eq_some_iff.1 hfound)
    · rintro (⟨ha, hb, -, -⟩ | ⟨-, hdiscovers⟩)
      · rw [ha, hb] at hopen
        exact absurd hopen (by simp)
      · have hpair := discover?_eq_some_iff.2 hdiscovers
        obtain ⟨⟨ha, haName⟩, hb, hbName⟩ := discover?_eq_some hpair
        -- The routers that were found are those that are named.
        have haNamed : ∀ name ∈ ends.aRouter, ∃ r, e.router? ends.a.asn name = some r :=
          fun name hname ↦ ⟨a.2, admits_iff.1 haName name hname ▸ ha⟩
        have hbNamed : ∀ name ∈ ends.bRouter, ∃ r, e.router? ends.b.asn name = some r :=
          fun name hname ↦ ⟨b.2, admits_iff.1 hbName name hname ▸ hb⟩
        rw [checkNamed_eq_ok haNamed, checkNamed_eq_ok hbNamed, hpair]
        rfl
  · obtain ⟨haSome, hbSome⟩ := not_or.1 hopen
    obtain ⟨aName, haName⟩ := Option.ne_none_iff_exists'.1 haSome
    obtain ⟨bName, hbName⟩ := Option.ne_none_iff_exists'.1 hbSome
    rw [crossConnectRouters_of_named haName hbName, bind_eq_ok_iff]
    constructor
    · rintro ⟨x, hx, h⟩
      obtain ⟨y, hy, h⟩ := bind_eq_ok_iff.1 h
      obtain ⟨rfl, rfl⟩ := Prod.mk.inj (Except.ok.inj h)
      obtain ⟨rfl, hx⟩ := namedRouter_eq_ok_iff.1 hx
      obtain ⟨rfl, hy⟩ := namedRouter_eq_ok_iff.1 hy
      exact .named haName hbName hx hy
    · rintro (⟨ha, hb, haFound, hbFound⟩ | ⟨hopen, -⟩)
      · obtain rfl := Option.some.inj (haName.symm.trans ha)
        obtain rfl := Option.some.inj (hbName.symm.trans hb)
        exact ⟨a, namedRouter_eq_ok_iff.2 ⟨rfl, haFound⟩,
          bind_eq_ok_iff.2 ⟨b, namedRouter_eq_ok_iff.2 ⟨rfl, hbFound⟩, rfl⟩⟩
      · rw [haName, hbName] at hopen
        exact absurd hopen (by simp)

theorem Considers.unique {a' b' : String × Router} (h : Considers e ends a b)
    (h' : Considers e ends a' b') : a = a' ∧ b = b' :=
  Prod.mk.inj (Except.ok.inj
    ((crossConnectRouters_eq_ok_iff.2 h).symm.trans (crossConnectRouters_eq_ok_iff.2 h')))

/-! ## The plan -/

/-- Two routers are joined by the connection that a link is planned for: each records the other, the
records name one network, and this network is there. -/
def Joins (e : Emulation) (ends : LinkEnds) (count : UInt32) (a b : String × Router)
    (l : PlannedLink) : Prop :=
  ∃ aSide bSide n, a.2.crossConnects.get? (ends.b.asn, b.1) = some aSide ∧
    b.2.crossConnects.get? (ends.a.asn, a.1) = some bSide ∧
    aSide.network = bSide.network ∧ e.network? .crossConnect aSide.network = some n ∧
    l = {
      medium := .crossConnect
      linkType := ends.linkType
      a := ⟨ends.a, a.1, aSide.address.address⟩
      b := ⟨ends.b, b.1, bSide.address.address⟩
      mtu := n.mtu
      count }

variable {count : UInt32}

theorem planCrossConnect_iff_joins (hasA : ∃ s, e.as? ends.a.asn = some s)
    (hasB : ∃ s, e.as? ends.b.asn = some s) (h : Considers e ends a b) :
    planCrossConnect e ends count = .ok l ↔ Joins e ends count a b l := by
  have hrouters := crossConnectRouters_eq_ok_iff.2 h
  constructor
  · intro hplan
    obtain ⟨a', b', aSide, bSide, n, hrouters', hplan⟩ := planCrossConnect_eq_ok hplan
    obtain ⟨rfl, rfl⟩ := Prod.mk.inj (Except.ok.inj (hrouters.symm.trans hrouters'))
    exact ⟨aSide, bSide, n, hplan⟩
  · rintro ⟨aSide, bSide, n, haSide, hbSide, hsame, hn, rfl⟩
    have ha : connection ends a b.1 ends.b = .ok aSide := by rw [connection, haSide]
    have hb : connection ends b a.1 ends.a = .ok bSide := by rw [connection, hbSide]
    refine seq_eq_ok_iff.2 ⟨checkAs_eq_ok hasA, seq_eq_ok_iff.2 ⟨checkAs_eq_ok hasB, ?_⟩⟩
    refine bind_eq_ok_iff.2 ⟨_, hrouters, bind_eq_ok_iff.2 ⟨aSide, ha, bind_eq_ok_iff.2
      ⟨bSide, hb, ?_⟩⟩⟩
    rw [if_neg (not_not.2 hsame), hn]
    rfl

section Existing

variable (hasA : ∃ s, e.as? ends.a.asn = some s) (hasB : ∃ s, e.as? ends.b.asn = some s)
  (haNamed : ∀ name ∈ ends.aRouter, ∃ r, e.router? ends.a.asn name = some r)
  (hbNamed : ∀ name ∈ ends.bRouter, ∃ r, e.router? ends.b.asn name = some r)

include haNamed hbNamed

/-- No pair is considered where routers have to be found and there is nothing to find. -/
theorem not_considers_iff :
    (¬∃ a b, Considers e ends a b) ↔
      (ends.aRouter = none ∨ ends.bRouter = none) ∧ ¬Connects e ends := by
  constructor
  · intro hnone
    have hopen : ends.aRouter = none ∨ ends.bRouter = none := by
      by_contra hnamed
      obtain ⟨haSome, hbSome⟩ := not_or.1 hnamed
      obtain ⟨aName, haName⟩ := Option.ne_none_iff_exists'.1 haSome
      obtain ⟨bName, hbName⟩ := Option.ne_none_iff_exists'.1 hbSome
      obtain ⟨r, hr⟩ := haNamed aName haName
      obtain ⟨s, hs⟩ := hbNamed bName hbName
      exact hnone ⟨(aName, r), (bName, s), .named haName hbName hr hs⟩
    refine ⟨hopen, fun hconnects ↦ ?_⟩
    cases hfound : discover? e ends with
    | none => exact discover?_eq_none_iff.1 hfound hconnects
    | some pair => exact hnone ⟨pair.1, pair.2, .discovered hopen (discover?_eq_some_iff.1 hfound)⟩
  · rintro ⟨hopen, hnone⟩ ⟨a, b, ⟨ha, hb, -, -⟩ | ⟨-, hdiscovers⟩⟩
    · rw [ha, hb] at hopen
      exact absurd hopen (by simp)
    · exact hnone (exists_firstWith_iff.1 ⟨a, hdiscovers.first⟩)

include hasA hasB

theorem planCrossConnect_eq_error (h : ¬∃ a b, Considers e ends a b) :
    planCrossConnect e ends count = .error (.unresolvedLink ends.a ends.b .noRouter) := by
  obtain ⟨hopen, hnone⟩ := (not_considers_iff haNamed hbNamed).1 h
  have hrouters : crossConnectRouters e ends
      = .error (.unresolvedLink ends.a ends.b .noRouter) := by
    rw [crossConnectRouters_of_open hopen, checkNamed_eq_ok haNamed, checkNamed_eq_ok hbNamed,
      discover?_eq_none_iff.2 hnone]
    rfl
  rw [planCrossConnect, checkAs_eq_ok hasA, checkAs_eq_ok hasB, hrouters]
  rfl

/-- **The documented pair.** A cross-connect between two ASes that are there, naming no router that
is missing, is planned for one pair of routers at most. Where both ends are named this is the named
pair. Where one of them is open it is the first router of the first AS that leads to the second one,
with the first of its records that fits, and there is none only if no router leads there; then the
link stays unresolved. With a pair, planning succeeds exactly if the pair is joined by a connection,
and the plan has the two routers, their addresses on it and the packet size of its network. -/
theorem planLink_crossConnect_exact (count : UInt32) :
    (∀ a b, Considers e ends a b →
      (∀ a' b', Considers e ends a' b' → a' = a ∧ b' = b) ∧
        ∀ l, planLink e (⟨.crossConnect, ends⟩, count) = .ok l ↔ Joins e ends count a b l) ∧
    ((¬∃ a b, Considers e ends a b) ↔
      (ends.aRouter = none ∨ ends.bRouter = none) ∧ ¬Connects e ends) ∧
    ((¬∃ a b, Considers e ends a b) → planLink e (⟨.crossConnect, ends⟩, count)
      = .error (.unresolvedLink ends.a ends.b .noRouter)) := by
  refine ⟨fun a b h ↦ ⟨fun a' b' h' ↦ h'.unique h, fun l ↦ ?_⟩, not_considers_iff haNamed hbNamed,
    planCrossConnect_eq_error hasA hasB haNamed hbNamed⟩
  exact planCrossConnect_iff_joins hasA hasB h

end Existing

/-! ### A detour -/

/-- A router of the first AS of the detour. -/
def detourRouter (records : List (Port × String)) : Router where
  loopback := .ofOctets 192 168 0 1
  crossConnects := records.foldl (fun r x ↦ r.insert x.1 ⟨.ofOctets 10 3 0 1 29, x.2⟩) ∅

/-- Two ASes. The first router of the first one records a router that is missing and then one that
does not record it, and the second router would do. -/
def detour : Emulation where
  ases := (SortedMap.empty.insert 1
    { asn := 1
      routers := (Roster.empty.insert "br1"
        (detourRouter [((2, "gone"), "old"), ((2, "br1"), "one")])).insert "br2"
        (detourRouter [((2, "br2"), "two")]) }).insert 2
    { asn := 2
      routers := (Roster.empty.insert "br1" (detourRouter [])).insert "br2"
        (detourRouter [((1, "br2"), "two")]) }
  crossConnectNetworks := Roster.empty.insert "two"
    { name := "two", scope := .crossConnect, subnet := .ofOctets 10 3 0 0 29, mtu := 1280 }

/-- A link between the two ASes of the detour. -/
def detourEnds (bRouter : Option String) : LinkEnds := ⟨⟨1, 1⟩, ⟨1, 2⟩, none, bRouter, .peer⟩

theorem exists_crossConnectRouters_detour :
    (∃ a b, crossConnectRouters detour (detourEnds none) = .ok (a, b) ∧ a.1 = "br1" ∧
      b.1 = "br1" ∧ b.2.crossConnects.get? (1, "br1") = none) ∧
      ∃ a b, crossConnectRouters detour (detourEnds (some "br2")) = .ok (a, b) ∧ a.1 = "br2" ∧
        b.1 = "br2" :=
  ⟨⟨_, _, rfl, rfl, rfl, rfl⟩, _, _, rfl, rfl, rfl⟩

/-- Where nothing is named the first routers are considered, which are not joined, and the link
cannot be planned. Naming a router leads to the other pair. -/
theorem detour_exact :
    (∃ a b, Considers detour (detourEnds none) a b ∧ a.1 = "br1" ∧ b.1 = "br1" ∧
      ∀ l, planLink detour (⟨.crossConnect, detourEnds none⟩, 1) ≠ .ok l) ∧
      ∃ a b, Considers detour (detourEnds (some "br2")) a b ∧ a.1 = "br2" ∧ b.1 = "br2" ∧
        ∃ l, planLink detour (⟨.crossConnect, detourEnds (some "br2")⟩, 1) = .ok l ∧
          Joins detour (detourEnds (some "br2")) 1 a b l := by
  obtain ⟨⟨a, b, hopen, ha, hb, hmissing⟩, a', b', hnamed, ha', hb'⟩ :=
    exists_crossConnectRouters_detour
  have hconsidered := crossConnectRouters_eq_ok_iff.1 hopen
  have hconsidered' := crossConnectRouters_eq_ok_iff.1 hnamed
  obtain ⟨hpair, -, -⟩ := @planLink_crossConnect_exact detour (detourEnds none) ⟨_, rfl⟩ ⟨_, rfl⟩
    (by simp [detourEnds]) (by simp [detourEnds]) 1
  obtain ⟨hpair', -, -⟩ := @planLink_crossConnect_exact detour (detourEnds (some "br2")) ⟨_, rfl⟩
    ⟨_, rfl⟩ (by simp [detourEnds]) (fun _ h ↦ Option.some.inj h ▸ ⟨_, rfl⟩) 1
  refine ⟨⟨a, b, hconsidered, ha, hb, fun l hl ↦ ?_⟩, a', b', hconsidered', ha', hb', _, rfl, ?_⟩
  · obtain ⟨aSide, bSide, n, -, hbSide, -⟩ := ((hpair a b hconsidered).2 l).1 hl
    rw [ha] at hbSide
    exact absurd (hmissing.symm.trans hbSide) (by simp)
  · exact ((hpair' a' b' hconsidered').2 _).1 rfl

end Resolution

end Interdomain
