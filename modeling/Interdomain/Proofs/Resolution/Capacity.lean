import Interdomain.Proofs.Resolution.Commitment
import Mathlib.Algebra.Ring.Nat

/-!
# The capacity check

The check goes through the ends of a plan, keeps running totals in two tables and stops at the first
total that is too large. It finds what a look at the whole plan would find: it passes exactly when
every AS and every router has what all ends together need of it, and where it stops, the whole need
is too large as well. Totals that have passed are no larger than what one counter can have left,
which is why no further count of 32 bits can overflow them.
-/

namespace Interdomain

namespace Resolution

section Total

variable {κ : Type} [DecidableEq κ]

/-- How much some demands need at one key. -/
def total (key : PlannedEnd → κ) (k : κ) (ds : List Demand) : Nat :=
  ((ds.filter (key ·.1 = k)).map (·.2.toNat)).sum

variable {key : PlannedEnd → κ} {k : κ}

theorem total_append (ds ds' : List Demand) :
    total key k (ds ++ ds') = total key k ds + total key k ds' := by
  rw [total, List.filter_append, List.map_append, List.sum_append, total, total]

theorem total_singleton (d : Demand) :
    total key k [d] = if key d.1 = k then d.2.toNat else 0 := by
  by_cases hk : key d.1 = k
  · rw [total, List.filter_cons_of_pos (by simpa using hk), if_pos hk]
    rfl
  · rw [total, List.filter_cons_of_neg (by simpa using hk), if_neg hk]
    rfl

theorem exists_of_total_pos {ds : List Demand} (h : 0 < total key k ds) :
    ∃ d ∈ ds, key d.1 = k := by
  by_contra hnone
  have hfilter : ds.filter (key ·.1 = k) = [] :=
    List.filter_eq_nil_iff.2 fun d hd hk ↦ hnone ⟨d, hd, of_decide_eq_true hk⟩
  rw [total, hfilter] at h
  exact absurd h (by decide)

/-- The repetitions of a plan have a key as often as the plan needs it. -/
theorem count_keys_repetitions (p : List PlannedLink) :
    (keys key (repetitions p)).count k = total key k (demands p) := by
  induction p with
  | nil => rfl
  | cons l p ih =>
    have hends : total key k (l.ends.map fun x ↦ (x, l.count))
        = l.count.toNat * (l.ends.map key).count k := by
      rw [PlannedLink.ends, List.map_cons, List.map_cons, List.map_nil,
        ← List.singleton_append, total_append, total_singleton, total_singleton, List.map_cons,
        List.map_cons, List.map_nil, List.count_cons, List.count_singleton]
      by_cases ha : key l.a = k <;> by_cases hb : key l.b = k <;> simp [ha, hb, Nat.mul_two]
    have hlink : (keys key (List.replicate l.count.toNat l)).count k
        = l.count.toNat * (l.ends.map key).count k := by
      rw [keys, List.count_flatMap, List.map_replicate, List.sum_replicate_nat]
      rfl
    have hrest : repetitions (l :: p) = List.replicate l.count.toNat l ++ repetitions p := rfl
    have hdemands : demands (l :: p) = (l.ends.map fun x ↦ (x, l.count)) ++ demands p := rfl
    rw [hrest, hdemands, total_append, hends, keys, List.flatMap_append, List.count_append]
    exact congrArg₂ (· + ·) hlink ih

/-! ## Running totals -/

/-- A table holds the totals of the demands so far. -/
def Totals.Sums (t : Totals κ) (key : PlannedEnd → κ) (ds : List Demand) : Prop :=
  ∀ k, (t.of k).toNat = total key k ds

namespace Totals

theorem of_add (t : Totals κ) (k k' : κ) (n : UInt32) :
    (t.add k n).of k' = if k' = k then t.of k + n.toUInt64 else t.of k' := by
  rw [of, add, Roster.get?_insert]
  split
  case isTrue => rfl
  case isFalse => rfl

/-- A total that a counter could have left takes one more count without overflow. -/
theorem toNat_add {x : UInt64} (h : x.toNat ≤ Counter.last + 1) (n : UInt32) :
    x.toNat + n.toNat < 2 ^ 64 ∧ (x + n.toUInt64).toNat = x.toNat + n.toNat := by
  have hn : n.toNat < 2 ^ 32 := n.toNat_lt
  have hsmall : x.toNat + n.toNat < 2 ^ 64 := by
    rw [Counter.last] at h
    omega
  refine ⟨hsmall, ?_⟩
  rw [UInt64.toNat_add, UInt32.toNat_toUInt64, Nat.mod_eq_of_lt hsmall]

theorem Sums.add {t : Totals κ} {ds : List Demand} (h : t.Sums key ds) (d : Demand)
    (hsmall : total key (key d.1) ds ≤ Counter.last + 1) :
    (t.add (key d.1) d.2).Sums key (ds ++ [d]) := by
  intro k
  rw [of_add, total_append, total_singleton]
  split
  case isTrue hk =>
    rw [← h] at hsmall
    rw [(toNat_add hsmall d.2).2, h, hk, if_pos rfl]
  case isFalse hk => rw [if_neg (Ne.symm hk), h, Nat.add_zero]

end Totals

end Total

/-! ## The need of a plan -/

/-- A network has left what some demands need. -/
structure Within (e : Emulation) (ds : List Demand) : Prop where
  ids : ∀ n, total (·.ia.asn) n ds ≤ e.freeInterfaceIds n
  ports : ∀ p, total PlannedEnd.port p ds ≤ e.freePorts p.1 p.2

/-- A fault names an AS or a router of which some demands need more than is left. -/
inductive Exceeds (e : Emulation) (ds : List Demand) : Fault → Prop
  /-- There are too few interface ids. -/
  | ids (n : Asn) (h : e.freeInterfaceIds n < total (·.ia.asn) n ds) :
      Exceeds e ds (.interfaceIdsExhausted n)
  /-- There are too few ports. -/
  | ports (p : Port) (h : e.freePorts p.1 p.2 < total PlannedEnd.port p ds) :
      Exceeds e ds (.portsExhausted p.1 p.2)

variable {e : Emulation} {ds ds' : List Demand} {f : Fault}

theorem Within.nil (e : Emulation) : Within e [] := ⟨fun _ ↦ Nat.zero_le _, fun _ ↦ Nat.zero_le _⟩

theorem Within.not_exceeds (h : Within e ds) : ¬ Exceeds e ds f := by
  rintro (⟨_, hids⟩ | ⟨_, hports⟩)
  · exact absurd (h.ids _) (Nat.not_le.2 hids)
  · exact absurd (h.ports _) (Nat.not_le.2 hports)

theorem Exceeds.append (h : Exceeds e ds f) (ds' : List Demand) : Exceeds e (ds ++ ds') f := by
  obtain ⟨n, h⟩ | ⟨p, h⟩ := h
  · refine .ids n (Nat.lt_of_lt_of_le h ?_)
    rw [total_append]
    exact Nat.le_add_right ..
  · refine .ports p (Nat.lt_of_lt_of_le h ?_)
    rw [total_append]
    exact Nat.le_add_right ..

/-! ## The check -/

/-- The tables after some demands that have all been served. -/
structure Served (e : Emulation) (needs : Needs) (ds : List Demand) : Prop where
  ids : needs.ids.Sums (·.ia.asn) ds
  ports : needs.ports.Sums PlannedEnd.port ds
  within : Within e ds

namespace Served

variable {needs needs' : Needs} {d : Demand}

theorem nil (e : Emulation) : Served e {} [] := ⟨fun _ ↦ rfl, fun _ ↦ rfl, .nil e⟩

theorem add_lt (h : Served e needs ds) (d : Demand) :
    (needs.ids.of d.1.ia.asn).toNat + d.2.toNat < 2 ^ 64 ∧
      (needs.ports.of d.1.port).toNat + d.2.toNat < 2 ^ 64 := by
  have hids := Nat.le_trans (h.within.ids d.1.ia.asn) (e.freeInterfaceIds_le _)
  have hports := Nat.le_trans (h.within.ports d.1.port) (e.freePorts_le _)
  rw [← h.ids] at hids
  rw [← h.ports] at hports
  exact ⟨(Totals.toNat_add hids d.2).1, (Totals.toNat_add hports d.2).1⟩

/-- **One step of the check.** It goes on with the totals of all demands so far, or it stops at an
excess of these. -/
theorem serve (h : Served e needs ds) (d : Demand) :
    (∃ needs', needs.serve e d = .ok needs' ∧ Served e needs' (ds ++ [d])) ∨
      ∃ f, needs.serve e d = .error f ∧ Exceeds e (ds ++ [d]) f := by
  have hids : (needs.ids.add d.1.ia.asn d.2).Sums (·.ia.asn) (ds ++ [d]) :=
    h.ids.add d (Nat.le_trans (h.within.ids _) (e.freeInterfaceIds_le _))
  have hports : (needs.ports.add d.1.port d.2).Sums PlannedEnd.port (ds ++ [d]) :=
    h.ports.add d (Nat.le_trans (h.within.ports _) (e.freePorts_le _))
  simp only [Needs.serve, hids d.1.ia.asn, hports d.1.port]
  split
  case isTrue hlt => exact .inr ⟨_, rfl, .ids _ hlt⟩
  case isFalse hle =>
    split
    case isTrue hlt => exact .inr ⟨_, rfl, .ports d.1.port hlt⟩
    case isFalse hle' =>
      refine .inl ⟨_, rfl, hids, hports, fun n ↦ ?_, fun p ↦ ?_⟩
      -- Only the totals at the two keys of the new demand have grown.
      · by_cases hn : d.1.ia.asn = n
        · exact hn ▸ Nat.not_lt.1 hle
        · rw [total_append, total_singleton, if_neg hn]
          exact h.within.ids n
      · by_cases hp : d.1.port = p
        · exact hp ▸ Nat.not_lt.1 hle'
        · rw [total_append, total_singleton, if_neg hp]
          exact h.within.ports p

/-- The check of further demands ends with the totals of all of them or at an excess of these. -/
theorem foldlM (h : Served e needs ds) (ds' : List Demand) :
    (∃ needs', ds'.foldlM (Needs.serve e) needs = .ok needs' ∧ Served e needs' (ds ++ ds')) ∨
      ∃ f, ds'.foldlM (Needs.serve e) needs = .error f ∧ Exceeds e (ds ++ ds') f := by
  -- The demands that have been served grow by one in each step, and `Served` follows them.
  induction ds' generalizing needs ds with
  | nil =>
    rw [List.append_nil]
    exact .inl ⟨needs, rfl, h⟩
  | cons d ds' ih =>
    rw [List.append_cons, List.foldlM_cons]
    obtain ⟨needs', hok, hserved⟩ | ⟨f, herror, hexceeds⟩ := h.serve d
    · rw [hok]
      exact ih hserved
    · rw [herror]
      exact .inr ⟨f, rfl, hexceeds.append ds'⟩

end Served

/-- **The capacity check is exact.** It passes if the whole plan is within what the network has
left, and otherwise it names an AS or a router of which the whole plan needs too much. -/
theorem checkCapacity_cases (e : Emulation) (plan : List PlannedLink) :
    (checkCapacity e plan = .ok () ∧ Within e (demands plan)) ∨
      ∃ f, checkCapacity e plan = .error f ∧ Exceeds e (demands plan) f := by
  rw [checkCapacity]
  obtain ⟨needs, hok, hserved⟩ | ⟨f, herror, hexceeds⟩ := (Served.nil e).foldlM (demands plan)
  · rw [hok]
    exact .inl ⟨rfl, hserved.within⟩
  · rw [herror]
    exact .inr ⟨f, rfl, hexceeds⟩

theorem checkCapacity_eq_ok_iff {plan : List PlannedLink} :
    checkCapacity e plan = .ok () ↔ Within e (demands plan) := by
  obtain ⟨hok, hwithin⟩ | ⟨f, herror, hexceeds⟩ := checkCapacity_cases e plan
  · exact iff_of_true hok hwithin
  · refine iff_of_false (fun hok ↦ ?_) fun hwithin ↦ hwithin.not_exceeds hexceeds
    rw [herror] at hok
    exact absurd hok (by simp)

theorem Within.affords_ids {plan : List PlannedLink} (h : Within e (demands plan)) :
    Affords e.idCounters (keys (·.ia.asn) (repetitions plan)) := by
  intro n
  rw [count_keys_repetitions, e.left_idCounters]
  exact h.ids n

theorem Within.affords_ports {plan : List PlannedLink} (h : Within e (demands plan)) :
    Affords e.portCounters (keys PlannedEnd.port (repetitions plan)) := by
  intro p
  rw [count_keys_repetitions, e.left_portCounters]
  exact h.ports p

end Resolution

end Interdomain
