import Interdomain.Config.Validation
import Interdomain.Proofs.Outcome
import Mathlib.Data.List.Induction
import Mathlib.Data.List.Nodup

/-!
# What validation finds

Validation passes when every one of its checks does. A check that compares an item with those before
it passes for all items of a list exactly when their keys are distinct, and the other checks look at
one item at a time. The last section reads off what the builder relies on.
-/

namespace Interdomain

/-! ## Checks of lists -/

section Lists

variable {α κ : Type}

theorem require_eq_ok_iff {p : Prop} [Decidable p] {d : Defect} : require p d = .ok () ↔ p := by
  rw [require]
  split
  case isTrue hp => exact iff_of_true rfl hp
  case isFalse hp => exact iff_of_false (by simp) hp

/-- Every item of a list has passed, each against the items before it. -/
theorem checkEach_eq_ok_iff {check : List α → α → Except Defect Unit} {earlier l : List α} :
    checkEach check earlier l = .ok () ↔
      ∀ before x after, l = before ++ x :: after → check (earlier ++ before) x = .ok () := by
  induction l generalizing earlier with
  | nil =>
    refine iff_of_true rfl fun before x after h ↦ ?_
    exact absurd h (by simp)
  | cons y l ih =>
    rw [checkEach, bind_eq_ok_iff]
    constructor
    · rintro ⟨_, hy, hl⟩ before x after h
      -- The first item of the list is the item itself or the first of those before it.
      rcases List.cons_eq_append_iff.1 h with ⟨rfl, hcons⟩ | ⟨before', rfl, hl'⟩
      · obtain ⟨rfl, rfl⟩ := List.cons.inj hcons
        rwa [List.append_nil]
      · have hx := ih.1 hl before' x after hl'
        rwa [List.append_assoc, List.singleton_append] at hx
    · intro h
      have hy := h [] y l rfl
      rw [List.append_nil] at hy
      refine ⟨(), hy, ih.2 fun before x after hl ↦ ?_⟩
      have hx := h (y :: before) x after (by rw [hl, List.cons_append])
      rwa [List.append_assoc, List.singleton_append]

theorem nodup_map_iff_not_mem_before {key : α → κ} {l : List α} :
    (l.map key).Nodup ↔ ∀ before x after, l = before ++ x :: after → key x ∉ before.map key := by
  constructor
  · rintro h before x after rfl hx
    rw [List.map_append, List.map_cons] at h
    exact (List.nodup_append.1 h).2.2 (key x) hx (key x) List.mem_cons_self rfl
  · intro h
    induction l using List.reverseRecOn with
    | nil => exact List.nodup_nil
    | append_singleton l x ih =>
      rw [List.map_append, List.map_singleton, ← List.concat_eq_append, List.nodup_concat]
      refine ⟨h l x [] rfl, ih fun before y after hl ↦ ?_⟩
      exact h before y (after ++ [x]) (by rw [hl, List.append_assoc, List.cons_append])

end Lists

/-- What validation finds of one AS. -/
structure AsDecl.Sound (c : Config) (a : AsDecl) : Prop where
  member : a.isds ≠ []
  domains : ∀ m ∈ a.isds, m.isd ∈ c.isds
  domainsDistinct : (a.isds.map (·.isd)).Nodup
  networksDistinct : (a.networks.map (·.name)).Nodup
  /-- A network without addresses of its own has those of the template. -/
  addresses : ∀ before n after, a.networks = before ++ n :: after →
    n.subnet.isSome = true ∨ a.asn.toNat ≤ lastTemplateNumber ∧ before.length ≤ lastTemplateNumber
  packets : ∀ n ∈ a.networks, n.mtu ≠ some 0
  nodesDistinct : a.nodeNames.Nodup
  nodeNetworks : ∀ joined ∈ a.nodeNetworks, joined.2 ∈ a.networks.map (·.name)
  routerNetworks : ∀ joined ∈ a.routerNetworks,
    joined.2 ∈ a.networks.map (·.name) ∨ c.namesExchange joined.2
  connectionPackets : ∀ r ∈ a.routers, ∀ x ∈ r.crossConnects, x.mtu ≠ some 0

namespace Config

variable {c : Config}

/-! ## The checks of an AS -/

theorem checkMemberships_eq_ok_iff {isds : List Isd} {asn : Asn} {l : List MembershipDecl} :
    checkEach (checkMembership isds asn) [] l = .ok () ↔
      (∀ m ∈ l, m.isd ∈ isds) ∧ (l.map (·.isd)).Nodup := by
  simp only [checkEach_eq_ok_iff, List.nil_append, checkMembership, seq_eq_ok_iff,
    require_eq_ok_iff, nodup_map_iff_not_mem_before]
  constructor
  · intro h
    refine ⟨fun m hm ↦ ?_, fun before m after hl ↦ (h before m after hl).2⟩
    obtain ⟨before, after, hl⟩ := List.append_of_mem hm
    exact (h before m after hl).1
  · rintro ⟨hdeclared, hdistinct⟩ before m after rfl
    have hm : m ∈ before ++ m :: after := List.mem_append_right _ List.mem_cons_self
    exact ⟨hdeclared m hm, hdistinct before m after rfl⟩

theorem checkNetworks_eq_ok_iff {asn : Asn} {l : List NetworkDecl} :
    checkEach (checkNetwork asn) [] l = .ok () ↔
      (l.map (·.name)).Nodup ∧
        (∀ before n after, l = before ++ n :: after →
          n.subnet.isSome = true ∨
            asn.toNat ≤ lastTemplateNumber ∧ before.length ≤ lastTemplateNumber) ∧
        ∀ n ∈ l, n.mtu ≠ some 0 := by
  simp only [checkEach_eq_ok_iff, List.nil_append, checkNetwork, seq_eq_ok_iff,
    require_eq_ok_iff, nodup_map_iff_not_mem_before]
  constructor
  · intro h
    refine ⟨fun before n after hl ↦ (h before n after hl).1,
      fun before n after hl ↦ (h before n after hl).2.1, fun n hn ↦ ?_⟩
    obtain ⟨before, after, hl⟩ := List.append_of_mem hn
    exact (h before n after hl).2.2
  · rintro ⟨hdistinct, haddresses, hpackets⟩ before n after rfl
    have hn : n ∈ before ++ n :: after := List.mem_append_right _ List.mem_cons_self
    exact ⟨hdistinct before n after rfl, haddresses before n after rfl, hpackets n hn⟩

theorem checkNodeNames_eq_ok_iff {asn : Asn} {l : List String} :
    checkEach (checkNodeName asn) [] l = .ok () ↔ l.Nodup := by
  have hdistinct := @nodup_map_iff_not_mem_before String String id l
  simp only [List.map_id, id] at hdistinct
  simp only [checkEach_eq_ok_iff, List.nil_append, checkNodeName, require_eq_ok_iff, hdistinct]

theorem checkAs_eq_ok_iff {before : List AsDecl} {a : AsDecl} :
    c.checkAs before a = .ok () ↔ a.asn ∉ before.map (·.asn) ∧ a.Sound c := by
  simp only [checkAs, seq_eq_ok_iff, require_eq_ok_iff, checkMemberships_eq_ok_iff,
    checkNetworks_eq_ok_iff, checkNodeNames_eq_ok_iff, forM_eq_ok_iff, checkNodeNetwork,
    checkRouterNetwork, checkCrossConnect]
  constructor
  · rintro ⟨hasn, hmember, ⟨hdomains, hdomainsDistinct⟩,
      ⟨hnetworksDistinct, haddresses, hpackets⟩, hnodesDistinct, hnodeNetworks, hrouterNetworks,
      hconnectionPackets⟩
    refine ⟨hasn, ?_, hdomains, hdomainsDistinct, hnetworksDistinct, haddresses, hpackets,
      hnodesDistinct, hnodeNetworks, hrouterNetworks, hconnectionPackets⟩
    simpa using hmember
  · rintro ⟨hasn, h⟩
    refine ⟨hasn, ?_, ⟨h.domains, h.domainsDistinct⟩,
      ⟨h.networksDistinct, h.addresses, h.packets⟩, h.nodesDistinct, h.nodeNetworks,
      h.routerNetworks, h.connectionPackets⟩
    simpa using h.member

/-! ## The parts of a configuration -/

theorem validate_eq_ok_iff :
    c.validate = .ok () ↔
      checkEach checkIsd [] c.isds = .ok () ∧ checkEach checkExchange [] c.exchanges = .ok () ∧
        checkEach c.checkAs [] c.ases = .ok () ∧ checkEach c.checkLink [] c.links = .ok () := by
  simp only [validate, seq_eq_ok_iff]

theorem checkExchanges_eq_ok_iff {l : List ExchangeDecl} :
    checkEach checkExchange [] l = .ok () ↔
      (l.map (·.id)).Nodup ∧ (∀ x ∈ l, x.subnet.isSome = true ∨ x.id.toNat ≤ lastTemplateNumber) ∧
        ∀ x ∈ l, x.mtu ≠ some 0 := by
  simp only [checkEach_eq_ok_iff, List.nil_append, checkExchange, seq_eq_ok_iff,
    require_eq_ok_iff, nodup_map_iff_not_mem_before]
  constructor
  · intro h
    refine ⟨fun before x after hl ↦ (h before x after hl).1, fun x hx ↦ ?_, fun x hx ↦ ?_⟩ <;>
      obtain ⟨before, after, hl⟩ := List.append_of_mem hx
    · exact (h before x after hl).2.1
    · exact (h before x after hl).2.2
  · rintro ⟨hdistinct, haddresses, hpackets⟩ before x after rfl
    have hx : x ∈ before ++ x :: after := List.mem_append_right _ List.mem_cons_self
    exact ⟨hdistinct before x after rfl, haddresses x hx, hpackets x hx⟩

theorem checkAses_eq_ok_iff {l : List AsDecl} :
    checkEach c.checkAs [] l = .ok () ↔ (l.map (·.asn)).Nodup ∧ ∀ a ∈ l, a.Sound c := by
  simp only [checkEach_eq_ok_iff, List.nil_append, checkAs_eq_ok_iff,
    nodup_map_iff_not_mem_before]
  constructor
  · intro h
    refine ⟨fun before a after hl ↦ (h before a after hl).1, fun a ha ↦ ?_⟩
    obtain ⟨before, after, hl⟩ := List.append_of_mem ha
    exact (h before a after hl).2
  · rintro ⟨hdistinct, hsound⟩ before a after rfl
    have ha : a ∈ before ++ a :: after := List.mem_append_right _ List.mem_cons_self
    exact ⟨hdistinct before a after rfl, hsound a ha⟩

theorem checkLinks_eq_ok_iff {l : List LinkDecl} :
    checkEach c.checkLink [] l = .ok () ↔ ∀ x ∈ l, c.linkDefect? x = none := by
  have hlink : ∀ before x, c.checkLink before x = .ok () ↔ c.linkDefect? x = none := by
    intro before x
    rw [checkLink]
    cases c.linkDefect? x <;> simp
  simp only [checkEach_eq_ok_iff, hlink]
  constructor
  · intro h x hx
    obtain ⟨before, after, hl⟩ := List.append_of_mem hx
    exact h before x after hl
  · rintro h before x after rfl
    exact h x (List.mem_append_right _ List.mem_cons_self)

end Config

end Interdomain
