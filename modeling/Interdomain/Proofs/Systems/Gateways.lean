import Interdomain.Gateway.Table
import Interdomain.Proofs.History
import Mathlib.Data.List.Nodup

/-!
# Gateway tables after any history

A table refuses a gateway whose ports collide, with each other or with those of a gateway on the
same host, and only then asks whether it has room. So the three outcomes of an insertion exclude
each other (`insert_cases`), an insertion that succeeds keeps the table sound, and from there on it
does not matter how the table came about: every history of insertions leaves a sound table, which
lists the gateways that were granted.
-/

namespace Interdomain

namespace GatewayTable

variable {t t' : GatewayTable} {asn : Asn} {g : Gateway}

/-! ## Collisions -/

/-- The ports of a gateway cannot be used: two of its own are the same, or one of them belongs to a
gateway on the same host, whatever either uses it for. -/
def Collides (t : GatewayTable) (g : Gateway) : Prop :=
  ¬g.ports.Nodup ∨ ∃ other ∈ t.gateways, other.host = g.host ∧ ∃ p ∈ g.ports, p ∈ other.ports

/-- A table has no place for a gateway: it is full, or the name is taken. -/
def Refuses (t : GatewayTable) (g : Gateway) : Prop :=
  t.limit ≤ t.gateways.length ∨ g.name ∈ t.gateways.map (·.name)

instance (t : GatewayTable) (g : Gateway) : Decidable (t.Collides g) :=
  inferInstanceAs (Decidable (_ ∨ ∃ other ∈ t.gateways, _))

instance (t : GatewayTable) (g : Gateway) : Decidable (t.Refuses g) :=
  inferInstanceAs (Decidable (_ ∨ _))

theorem repeatedPort?_eq_none_iff {before l : List Nat} :
    repeatedPort? before l = none ↔ l.Nodup ∧ ∀ p ∈ l, p ∉ before := by
  induction l generalizing before with
  | nil => simp [repeatedPort?]
  | cons p l ih =>
    rw [repeatedPort?, List.nodup_cons, List.forall_mem_cons]
    split
    case isTrue hp => exact iff_of_false (by simp) fun h ↦ h.2.1 hp
    case isFalse hp =>
      -- The rest avoids what was before and the port itself.
      have hrest : (∀ q ∈ l, q ∉ before ++ [p]) ↔ p ∉ l ∧ ∀ q ∈ l, q ∉ before := by
        simp only [List.mem_append, List.mem_singleton, not_or]
        constructor
        · exact fun h ↦ ⟨fun hmem ↦ (h p hmem).2 rfl, fun q hq ↦ (h q hq).1⟩
        · exact fun h q hq ↦ ⟨h.2 q hq, fun heq ↦ h.1 (heq ▸ hq)⟩
      rw [ih, hrest]
      constructor
      · exact fun h ↦ ⟨⟨h.2.1, h.1⟩, hp, h.2.2⟩
      · exact fun h ↦ ⟨h.1.2, h.1.1, h.2.2⟩

theorem mem_of_repeatedPort? {before l : List Nat} {p : Nat} (h : repeatedPort? before l = some p) :
    p ∈ l := by
  induction l generalizing before with
  | nil => exact absurd h (by simp [repeatedPort?])
  | cons q l ih =>
    rw [repeatedPort?] at h
    split at h
    case isTrue => exact Option.some.inj h ▸ List.mem_cons_self
    case isFalse => exact List.mem_cons_of_mem q (ih h)

theorem takenPort?_eq_none_iff :
    t.takenPort? g = none ↔
      ∀ other ∈ t.gateways, other.host = g.host → ∀ p ∈ g.ports, p ∉ other.ports := by
  simp only [takenPort?, List.findSome?_eq_none_iff, List.mem_filter, decide_eq_true_eq, and_imp,
    List.find?_eq_none]

theorem mem_of_takenPort? {p : Nat} (h : t.takenPort? g = some p) : p ∈ g.ports := by
  obtain ⟨other, -, hother⟩ := List.exists_of_findSome?_eq_some h
  exact List.mem_of_find?_eq_some hother

theorem not_collides_iff :
    ¬t.Collides g ↔ repeatedPort? [] g.ports = none ∧ t.takenPort? g = none := by
  rw [repeatedPort?_eq_none_iff, takenPort?_eq_none_iff, Collides, not_or, not_not]
  simp only [List.not_mem_nil, not_false_eq_true, implies_true, and_true, not_exists, not_and]

/-! ## One insertion -/

/-- **One insertion.** It fails for a port if the ports collide, else for want of a place if the
table refuses the gateway, and else the gateway comes after the others. -/
theorem insert_cases (t : GatewayTable) (asn : Asn) (g : Gateway) :
    (t.Collides g ∧ ∃ p ∈ g.ports, (insert asn g).after t = .error (.portConflict g.host p)) ∨
      (¬t.Collides g ∧ t.Refuses g ∧ (insert asn g).after t = .error (.capacity asn t.limit)) ∨
      (¬t.Collides g ∧ ¬t.Refuses g ∧
        (insert asn g).after t = .ok { t with gateways := t.gateways ++ [g] }) := by
  rw [insert, Change.after_look_bind, check]
  cases hrepeated : repeatedPort? [] g.ports with
  | some p =>
    have hcollides : t.Collides g := by
      by_contra hnot
      rw [(not_collides_iff.1 hnot).1] at hrepeated
      exact absurd hrepeated (by simp)
    exact .inl ⟨hcollides, p, mem_of_repeatedPort? hrepeated, rfl⟩
  | none =>
    cases htaken : t.takenPort? g with
    | some p =>
      have hcollides : t.Collides g := by
        by_contra hnot
        rw [(not_collides_iff.1 hnot).2] at htaken
        exact absurd htaken (by simp)
      exact .inl ⟨hcollides, p, mem_of_takenPort? htaken, rfl⟩
    | none =>
      have hfree : ¬t.Collides g := not_collides_iff.2 ⟨hrepeated, htaken⟩
      by_cases hrefuses : t.Refuses g
      · refine .inr (.inl ⟨hfree, hrefuses, ?_⟩)
        exact congrArg (· >>= fun _ ↦ _) (if_pos hrefuses)
      · refine .inr (.inr ⟨hfree, hrefuses, ?_⟩)
        exact congrArg (· >>= fun _ ↦ _) (if_neg hrefuses)

theorem insert_eq_ok_iff :
    (insert asn g).after t = .ok t' ↔
      ¬t.Collides g ∧ ¬t.Refuses g ∧ t' = { t with gateways := t.gateways ++ [g] } := by
  obtain ⟨hcollides, p, -, hinsert⟩ | ⟨-, hrefuses, hinsert⟩ | ⟨hfree, hroom, hinsert⟩ :=
    t.insert_cases asn g <;> rw [hinsert]
  · exact iff_of_false (by simp) fun h ↦ h.1 hcollides
  · exact iff_of_false (by simp) fun h ↦ h.2.1 hrefuses
  · rw [Except.ok.injEq, eq_comm]
    simp only [hfree, hroom, not_false_eq_true, true_and]

theorem exists_portConflict_iff :
    (∃ host p, (insert asn g).after t = .error (.portConflict host p)) ↔ t.Collides g := by
  obtain ⟨hcollides, p, -, hinsert⟩ | ⟨hfree, -, hinsert⟩ | ⟨hfree, -, hinsert⟩ :=
    t.insert_cases asn g <;> rw [hinsert]
  · exact iff_of_true ⟨g.host, p, rfl⟩ hcollides
  · exact iff_of_false (by simp) hfree
  · exact iff_of_false (by simp) hfree

theorem exists_capacity_iff :
    (∃ n limit, (insert asn g).after t = .error (.capacity n limit)) ↔
      ¬t.Collides g ∧ t.Refuses g := by
  obtain ⟨hcollides, p, -, hinsert⟩ | ⟨hfree, hrefuses, hinsert⟩ | ⟨-, hroom, hinsert⟩ :=
    t.insert_cases asn g <;> rw [hinsert]
  · exact iff_of_false (by simp) fun h ↦ h.1 hcollides
  · exact iff_of_true ⟨asn, t.limit, rfl⟩ ⟨hfree, hrefuses⟩
  · exact iff_of_false (by simp) fun h ↦ hroom h.2

/-! ## Sound tables -/

/-- A table as it should be. -/
structure Sound (t : GatewayTable) : Prop where
  bounded : t.gateways.length ≤ t.limit
  /-- No two gateways have one name. -/
  names : (t.gateways.map (·.name)).Nodup
  /-- The gateways on one host use different ports, and so does each of them. -/
  ports : ∀ host, ((t.gateways.filter (·.host = host)).flatMap (·.ports)).Nodup

theorem sound_withLimit (limit : Nat) : (withLimit limit).Sound :=
  ⟨Nat.zero_le limit, .nil, fun _ ↦ .nil⟩

theorem Sound.insert (h : t.Sound) (hinsert : (insert asn g).after t = .ok t') : t'.Sound := by
  obtain ⟨hfree, hroom, rfl⟩ := insert_eq_ok_iff.1 hinsert
  rw [Refuses, not_or] at hroom
  rw [Collides, not_or, not_not] at hfree
  obtain ⟨hown, hothers⟩ := hfree
  refine ⟨?_, ?_, fun host ↦ ?_⟩
  · rw [List.length_append, List.length_singleton]
    exact Nat.lt_of_not_le hroom.1
  · rw [List.map_append, List.map_singleton, ← List.concat_eq_append]
    exact (List.nodup_concat ..).2 ⟨hroom.2, h.names⟩
  · rw [List.filter_append, List.flatMap_append, List.nodup_append']
    by_cases hhost : g.host = host
    · rw [List.filter_cons_of_pos (by simpa using hhost), List.filter_nil, List.flatMap_singleton]
      refine ⟨h.ports host, hown, ?_⟩
      -- A port in common would be one that the new gateway shares with another on its host.
      intro p hold hnew
      obtain ⟨other, hother, hp⟩ := List.mem_flatMap.1 hold
      obtain ⟨hmem, hsame⟩ := List.mem_filter.1 hother
      exact hothers ⟨other, hmem, (of_decide_eq_true hsame).trans hhost.symm, p, hnew, hp⟩
    · rw [List.filter_cons_of_neg (by simpa using hhost), List.filter_nil, List.flatMap_nil]
      exact ⟨h.ports host, .nil, List.disjoint_nil_right _⟩

/-! ## Histories -/

/-- A gateway is offered for an AS. -/
def offer (x : Asn × Gateway) : Change GatewayTable Fault Unit := insert x.1 x.2

/-- An insertion that fails leaves the table as it was, for everything is checked first. -/
theorem atomic_offer (x : Asn × Gateway) : (offer x).Atomic :=
  Change.atomic_look_bind _ fun _ ↦ (Change.total_write _).atomic

/-- The insertions into a table that was empty at first. -/
def history (limit : Nat) (offers : List (Asn × Gateway)) :
    History (Asn × Gateway) GatewayTable Fault Unit :=
  .record offer (withLimit limit) offers

theorem sound_history (limit : Nat) (offers : List (Asn × Gateway)) :
    (history limit offers).state.Sound := by
  have hempty : (history limit []).state.Sound := sound_withLimit limit
  refine History.lasting atomic_offer (fun t x _ t' ht hx ↦ ?_) hempty offers
  exact ht.insert (Change.after_eq_ok_iff.2 hx)

theorem state_history (limit : Nat) (offers : List (Asn × Gateway)) :
    (history limit offers).state
      = ⟨limit, (history limit offers).granted.map fun x ↦ x.1.2⟩ := by
  refine History.record_induction
    (fun _ (h : History (Asn × Gateway) GatewayTable Fault Unit) ↦
      h.state = ⟨limit, h.granted.map fun x ↦ x.1.2⟩) rfl ?_ ?_ offers
  · intro _ x h _ t' ih hx
    obtain ⟨-, -, rfl⟩ := insert_eq_ok_iff.1 (Change.after_eq_ok_iff.2 hx)
    rw [History.granted_extend_of_eq_ok hx, History.extend_of_eq_ok hx, ih, List.map_append]
    rfl
  · intro _ x h f ih hx
    rw [History.granted_extend_of_eq_error hx,
      History.state_extend_of_eq_error (atomic_offer x) hx, ih]

/-- **Gateway tables over whole histories.** Whatever was offered to an empty table, and whatever of
it was refused, the table keeps to its limit, no name and on no host a port comes twice, and the
gateways are those that were granted, in the order of their insertion. The next insertion fails for
a port exactly if the ports collide, and for want of a place exactly if they do not and the table is
full or the name taken; else it succeeds, and if it fails the table stays. -/
theorem history_sound (limit : Nat) (offers : List (Asn × Gateway)) :
    let t := (history limit offers).state
    (history limit offers).answers.map (·.1) = offers ∧
      t = ⟨limit, (history limit offers).granted.map fun x ↦ x.1.2⟩ ∧ t.Sound ∧
      ∀ asn g,
        ((∃ host p, (insert asn g).after t = .error (.portConflict host p)) ↔ t.Collides g) ∧
        ((∃ n l, (insert asn g).after t = .error (.capacity n l)) ↔ ¬t.Collides g ∧ t.Refuses g) ∧
        ((insert asn g).after t = .ok { t with gateways := t.gateways ++ [g] } ↔
          ¬t.Collides g ∧ ¬t.Refuses g) ∧
        ∀ f, (insert asn g).after t = .error f →
          (history limit (offers ++ [(asn, g)])).state = t := by
  refine ⟨History.map_fst_answers_record .., state_history limit offers,
    sound_history limit offers, fun asn g ↦
    ⟨exists_portConflict_iff, exists_capacity_iff, ?_, fun f hf ↦ ?_⟩⟩
  · rw [insert_eq_ok_iff]
    simp only [and_true]
  · exact History.state_record_concat_of_eq_error (atomic_offer (asn, g))
      (Change.after_eq_error_iff.1 hf)

/-! ### Two gateways on one host -/

/-- A gateway that uses three ports in a row. -/
def gatewayAt (name host : String) (port : Nat) : Gateway where
  name
  host
  localNet := .ofOctets 172 16 11 0 24
  ctrlPort := port
  dataPort := port + 1
  probePort := port + 2

/-- The second gateway wants the probe port of the first as its control port, and the third comes
with its name and other ports. -/
def sharedHost : List (Asn × Gateway) :=
  [(150, gatewayAt "sig0" "sig" 30000), (150, gatewayAt "sig1" "sig" 30002),
    (150, gatewayAt "sig1" "sig" 30003)]

/-- The first and the third gateway are in the table. A fourth one that shares a port fails for it
although the table is full, and one on another host fails because it is. -/
theorem sharedHost_sound :
    let t := (history 2 sharedHost).state
    t.gateways.map (·.name) = ["sig0", "sig1"] ∧ t.Sound ∧
      (∃ host p,
        (insert 150 (gatewayAt "sig2" "sig" 30005)).after t = .error (.portConflict host p)) ∧
      (∃ n l, (insert 150 (gatewayAt "sig2" "other" 30005)).after t = .error (.capacity n l)) ∧
      (history 2 (sharedHost ++ [(150, gatewayAt "sig2" "other" 30005)])).state = t := by
  obtain ⟨-, -, hsound, hnext⟩ := history_sound 2 sharedHost
  obtain ⟨hcollides, -, -, -⟩ := hnext 150 (gatewayAt "sig2" "sig" 30005)
  obtain ⟨-, hrefuses, -, hstays⟩ := hnext 150 (gatewayAt "sig2" "other" 30005)
  exact ⟨rfl, hsound, hcollides.2 (by decide), hrefuses.2 (by decide), hstays _ rfl⟩

end GatewayTable

end Interdomain
