import Interdomain.Proofs.Resolution.Atomicity
import Interdomain.Proofs.Resolution.Planning

/-!
# When resolution succeeds

Where every declaration can be planned for itself, all that can still be in the way is the number of
interface ids and ports. Resolution then succeeds exactly when every AS has as many ids left as the
declarations with an end on it have repetitions, and every router as many ports as the declarations
that are planned with an end on it. A declared link has its ends on two different ASes, so that each
repetition asks for one id of an AS and for one port of a router.
-/

namespace Interdomain

namespace Resolution

/-! ## What the declarations ask for -/

/-- Whether a declared link has an end on an AS. -/
def endsAt (n : Asn) (d : LinkKey × UInt32) : Bool := d.1.ends.a.asn = n ∨ d.1.ends.b.asn = n

/-- Whether a declared link is planned with an end on a router. -/
def plannedAt (e : Emulation) (p : Port) (d : LinkKey × UInt32) : Bool :=
  match planLink e d with
  | .ok l => l.a.port = p ∨ l.b.port = p
  | .error _ => false

/-- How many interface ids the declarations ask of an AS. -/
def idsAsked (links : LinkRegistry) (n : Asn) : Nat :=
  ((links.declarations.filter (endsAt n)).map (·.2.toNat)).sum

/-- How many ports the declarations ask of a router. -/
def portsAsked (e : Emulation) (links : LinkRegistry) (p : Port) : Nat :=
  ((links.declarations.filter (plannedAt e p)).map (·.2.toNat)).sum

/-- Every AS and every router has left what the declarations ask of it. -/
structure Suffices (e : Emulation) (links : LinkRegistry) : Prop where
  ids : ∀ n a, e.as? n = some a → idsAsked links n ≤ a.interfaceIds.free
  ports : ∀ n name r, e.router? n name = some r → portsAsked e links (n, name) ≤ r.ports.free

/-- A fault names an AS or a router of which the declarations ask more than it has left. -/
inductive Lacks (e : Emulation) (links : LinkRegistry) : Fault → Prop
  /-- There are too few interface ids. -/
  | ids (n : Asn) (a : AutonomousSystem) (found : e.as? n = some a)
      (few : a.interfaceIds.free < idsAsked links n) : Lacks e links (.interfaceIdsExhausted n)
  /-- There are too few ports. -/
  | ports (n : Asn) (name : String) (r : Router) (found : e.router? n name = some r)
      (few : r.ports.free < portsAsked e links (n, name)) : Lacks e links (.portsExhausted n name)

/-! ## What their plan needs -/

variable {e : Emulation} {links : LinkRegistry} {ds : List (LinkKey × UInt32)}
  {ls : List PlannedLink}

/-- The need at a key is the sum of the counts of the declarations that have the key at one end, if
none has it at both ends. -/
theorem total_demands {κ : Type} [DecidableEq κ] {key : PlannedEnd → κ} {k : κ}
    {asks : LinkKey × UInt32 → Bool}
    (hasks : ∀ d l, planLink e d = .ok l → (asks d = true ↔ key l.a = k ∨ key l.b = k))
    (hne : ∀ d ∈ ds, ∀ l, planLink e d = .ok l → key l.a ≠ key l.b)
    (h : List.Forall₂ (planLink e · = .ok ·) ds ls) :
    total key k (demands ls) = ((ds.filter asks).map (·.2.toNat)).sum := by
  induction h with
  | nil => rfl
  | @cons d l ds ls hd hrest ih =>
    have hends : demands (l :: ls) = [(l.a, l.count)] ++ ([(l.b, l.count)] ++ demands ls) := rfl
    have hkeys : key l.a ≠ key l.b := hne d List.mem_cons_self l hd
    rw [hends, total_append, total_append, total_singleton, total_singleton,
      ih fun x hx ↦ hne x (List.mem_cons_of_mem d hx), (planLink_realizes hd).count]
    -- At most one end has the key, so the count is added once or not at all.
    by_cases ha : key l.a = k
    · have hb : key l.b ≠ k := fun hb ↦ hkeys (ha.trans hb.symm)
      rw [if_pos ha, if_neg hb, List.filter_cons_of_pos ((hasks d l hd).2 (.inl ha)),
        List.map_cons, List.sum_cons, Nat.zero_add]
    · by_cases hb : key l.b = k
      · rw [if_neg ha, if_pos hb, List.filter_cons_of_pos ((hasks d l hd).2 (.inr hb)),
          List.map_cons, List.sum_cons, Nat.zero_add]
      · have hd' : ¬ asks d = true := fun hd' ↦ ((hasks d l hd).1 hd').elim ha hb
        rw [if_neg ha, if_neg hb, List.filter_cons_of_neg hd', Nat.zero_add, Nat.zero_add]

theorem exists_routerAt_of_mem_demands
    (h : List.Forall₂ (planLink e · = .ok ·) ds ls) {d : Demand} (hd : d ∈ demands ls) :
    ∃ r, e.routerAt d.1.port = some r := by
  induction h with
  | nil => exact absurd hd List.not_mem_nil
  | cons hl hrest ih =>
    rcases List.mem_append.1 hd with hd | hd
    · obtain ⟨x, hx, rfl⟩ := List.mem_map.1 hd
      rcases List.mem_pair.1 hx with rfl | rfl
      · exact (planLink_realizes hl).aFound
      · exact (planLink_realizes hl).bFound
    · exact ih hd

theorem exists_as?_of_total_pos (h : List.Forall₂ (planLink e · = .ok ·) ds ls) {n : Asn}
    (hpos : 0 < total (·.ia.asn) n (demands ls)) : ∃ a, e.as? n = some a := by
  obtain ⟨d, hd, rfl⟩ := exists_of_total_pos hpos
  obtain ⟨r, hr⟩ := exists_routerAt_of_mem_demands h hd
  rw [Emulation.routerAt, Emulation.router?_eq] at hr
  obtain ⟨a, ha, -⟩ := Option.bind_eq_some_iff.1 hr
  exact ⟨a, ha⟩

theorem exists_router?_of_total_pos (h : List.Forall₂ (planLink e · = .ok ·) ds ls) {p : Port}
    (hpos : 0 < total PlannedEnd.port p (demands ls)) : ∃ r, e.router? p.1 p.2 = some r := by
  obtain ⟨d, hd, rfl⟩ := exists_of_total_pos hpos
  exact exists_routerAt_of_mem_demands h hd

section Planned

variable (hlinks : links.Declared)
  (hplan : List.Forall₂ (planLink e · = .ok ·) links.declarations ls)

include hlinks hplan

theorem total_ids_demands (n : Asn) : total (·.ia.asn) n (demands ls) = idsAsked links n := by
  refine total_demands (fun d l hl ↦ ?_) (fun d hd l hl ↦ ?_) hplan
  · rw [endsAt, decide_eq_true_eq, (planLink_realizes hl).a, (planLink_realizes hl).b]
  · rw [(planLink_realizes hl).a, (planLink_realizes hl).b]
    exact hlinks.asn_ne hd

theorem total_ports_demands (p : Port) :
    total PlannedEnd.port p (demands ls) = portsAsked e links p := by
  refine total_demands (fun d l hl ↦ ?_) (fun d hd l hl heq ↦ ?_) hplan
  · rw [plannedAt, hl, decide_eq_true_eq]
  · have hasn : l.a.ia.asn = l.b.ia.asn := (Prod.ext_iff.1 heq).1
    rw [(planLink_realizes hl).a, (planLink_realizes hl).b] at hasn
    exact hlinks.asn_ne hd hasn

theorem within_iff_suffices : Within e (demands ls) ↔ Suffices e links := by
  constructor
  · intro h
    refine ⟨fun n a ha ↦ ?_, fun n name r hr ↦ ?_⟩
    · rw [← total_ids_demands hlinks hplan, ← Emulation.freeInterfaceIds_of_as? ha]
      exact h.ids n
    · rw [← total_ports_demands hlinks hplan, ← Emulation.freePorts_of_router? hr]
      exact h.ports (n, name)
  · intro h
    -- Of an AS or a router that is not there the plan needs nothing.
    refine ⟨fun n ↦ ?_, fun p ↦ ?_⟩
    · rcases Nat.eq_zero_or_pos (total (·.ia.asn) n (demands ls)) with hzero | hpos
      · rw [hzero]
        exact Nat.zero_le _
      · obtain ⟨a, ha⟩ := exists_as?_of_total_pos hplan hpos
        rw [total_ids_demands hlinks hplan, Emulation.freeInterfaceIds_of_as? ha]
        exact h.ids n a ha
    · rcases Nat.eq_zero_or_pos (total PlannedEnd.port p (demands ls)) with hzero | hpos
      · rw [hzero]
        exact Nat.zero_le _
      · obtain ⟨r, hr⟩ := exists_router?_of_total_pos hplan hpos
        rw [total_ports_demands hlinks hplan, Emulation.freePorts_of_router? hr]
        exact h.ports p.1 p.2 r hr

theorem lacks_of_exceeds {f : Fault} (h : Exceeds e (demands ls) f) : Lacks e links f := by
  obtain ⟨n, hlt⟩ | ⟨p, hlt⟩ := h
  · obtain ⟨a, ha⟩ := exists_as?_of_total_pos hplan (Nat.zero_lt_of_lt hlt)
    rw [total_ids_demands hlinks hplan, Emulation.freeInterfaceIds_of_as? ha] at hlt
    exact .ids n a ha hlt
  · obtain ⟨r, hr⟩ := exists_router?_of_total_pos hplan (Nat.zero_lt_of_lt hlt)
    rw [total_ports_demands hlinks hplan, Emulation.freePorts_of_router? hr] at hlt
    exact .ports p.1 p.2 r hr hlt

end Planned

/-! ## The check is exact -/

/-- **Exactness of the capacity check.** Where every declaration can be planned, resolution succeeds
if and only if all ASes and routers have left what is asked of them, and it fails only at one that
has too little. No count, however large, makes a running total overflow. -/
theorem resolve_iff_suffices (options : ResolverOptions) (hlinks : links.Declared)
    (hplan : ∀ d ∈ links.declarations, ∃ l, planLink e d = .ok l) :
    ((∃ rs e', (resolve options links).on e = (.ok rs, e')) ↔ Suffices e links) ∧
      (∀ f e', (resolve options links).on e = (.error f, e') → Lacks e links f) ∧
        ∀ (ds : List Demand) (d : Demand) (needs : Needs),
          ds.foldlM (Needs.serve e) {} = .ok needs →
            (needs.ids.of d.1.ia.asn).toNat + d.2.toNat < 2 ^ 64 ∧
              (needs.ports.of d.1.port).toNat + d.2.toNat < 2 ^ 64 := by
  obtain ⟨ls, hls⟩ := exists_mapM_eq_ok hplan
  have hplanned := mapM_eq_ok_iff.1 hls
  rw [← and_assoc]
  constructor
  · obtain ⟨hwithin, rs, e', hok⟩ | ⟨f, hexceeds, herror⟩ := resolve_cases options hls
    · refine ⟨iff_of_true ⟨rs, e', hok⟩ ((within_iff_suffices hlinks hplanned).1 hwithin), ?_⟩
      intro f e'' h
      rw [hok] at h
      exact absurd (Prod.ext_iff.1 h).1 (by simp)
    · rw [herror]
      refine ⟨iff_of_false ?_ fun hsuffices ↦ ?_, fun f' e' h ↦ ?_⟩
      · rintro ⟨rs, e', h⟩
        exact absurd (Prod.ext_iff.1 h).1 (by simp)
      · exact ((within_iff_suffices hlinks hplanned).2 hsuffices).not_exceeds hexceeds
      · obtain rfl : f = f' := Except.error.inj (Prod.ext_iff.1 h).1
        exact lacks_of_exceeds hlinks hplanned hexceeds
  · intro ds d needs hneeds
    obtain ⟨needs', hok, hserved⟩ | ⟨f, herror, -⟩ := (Served.nil e).foldlM ds
    · obtain rfl : needs' = needs := Except.ok.inj (hok.symm.trans hneeds)
      exact hserved.add_lt d
    · exact absurd (herror.symm.trans hneeds) (by simp)

theorem declared_peering {count : UInt32} (h : count ≠ 0) : (peering count).Declared := by
  have hadd : (LinkRegistry.add ⟨.crossConnect, ⟨1, 110⟩, ⟨1, 120⟩, none, none, .peer⟩ count).after
      .empty = .ok (peering count) :=
    LinkRegistry.add_eq_ok_iff.2 ⟨by decide, h, rfl, rfl⟩
  exact .add .empty hadd

theorem exists_planLink_peering (count : UInt32) :
    ∀ d ∈ (peering count).declarations, ∃ l, planLink neighbours d = .ok l := by
  intro d hd
  obtain rfl := List.mem_singleton.1 hd
  exact ⟨_, rfl⟩

/-- Two neighbours have what two links ask for and lack what three links ask for. -/
theorem resolve_peering_iff_suffices :
    (peering 2).Declared ∧ Suffices neighbours (peering 2) ∧
      (peering 3).Declared ∧ Lacks neighbours (peering 3) (.interfaceIdsExhausted 110) := by
  have htwo : (peering 2).Declared := declared_peering (by decide)
  have hthree : (peering 3).Declared := declared_peering (by decide)
  obtain ⟨hiff, -, -⟩ := resolve_iff_suffices {} htwo (exists_planLink_peering 2)
  obtain ⟨-, hlacks, -⟩ := resolve_iff_suffices {} hthree (exists_planLink_peering 3)
  exact ⟨htwo, hiff.1 ⟨_, _, rfl⟩, hthree, hlacks _ _ rfl⟩

end Resolution

end Interdomain
