import Interdomain.Config.Build
import Interdomain.Proofs.Outcome

/-!
# Declaring the links of a configuration

The links of a configuration are declared one after another. Those of a registry at the end are the
links of the configuration, and a link that is refused is malformed, joins an AS with itself, is
repeated zero times or is there already.
-/

namespace Interdomain

namespace LinkDecl

def medium? (l : LinkDecl) : Option Medium :=
  match l.kind, l.exchange with
  | .crossConnect, none => some .crossConnect
  | .exchange, some id => some (.exchange id)
  | .crossConnect, some _ => none
  | .exchange, none => none

/-- The link as a registry holds it. -/
def declaration? (l : LinkDecl) : Option (LinkKey × UInt32) :=
  l.medium?.map fun medium ↦ (⟨medium, Config.endsOf l⟩, l.count)

theorem ends_of_declaration? {l : LinkDecl} {d : LinkKey × UInt32}
    (h : l.declaration? = some d) : d.1.ends.a = l.a ∧ d.1.ends.b = l.b := by
  obtain ⟨medium, -, rfl⟩ := Option.map_eq_some_iff.1 h
  exact ⟨rfl, rfl⟩

inductive Refused (l : LinkDecl) : BuildFault → Prop
  | malformed (index : Nat) (reason : LinkDefect) (shapeless : l.medium? = none) :
    Refused l (.invalidLink index reason)
  | selfLink (same : l.a.asn = l.b.asn) : Refused l (.part (.selfLink l.a.asn))
  | zeroCount (k : LinkKey) (zero : l.count = 0) : Refused l (.part (.invalidLinkCount k))
  | duplicate (k : LinkKey) : Refused l (.part (.duplicateLink k))

end LinkDecl

theorem LinkRegistry.add_yields (r : LinkRegistry) (k : LinkKey) (count : UInt32) :
    Yields ((add k count).after r) ((add k count).after r = .ok ·)
      fun f ↦ (k.ends.a.asn = k.ends.b.asn ∧ f = .selfLink k.ends.a.asn) ∨
        (count = 0 ∧ f = .invalidLinkCount k) ∨ (r.contains k = true ∧ f = .duplicateLink k) := by
  cases h : (add k count).after r with
  | ok r' => exact rfl
  | error f =>
    rw [add, Change.after_look_bind, check] at h
    split at h
    case isTrue hself => exact .inl ⟨hself, (Except.error.inj h).symm⟩
    case isFalse =>
      split at h
      case isTrue hzero => exact .inr (.inl ⟨hzero, (Except.error.inj h).symm⟩)
      case isFalse =>
        split at h
        case isTrue hdup => exact .inr (.inr ⟨hdup, (Except.error.inj h).symm⟩)
        case isFalse => exact absurd h (by simp [bind, Except.bind, Change.after_write])

namespace Config

theorem mediumOf_yields (index : Nat) (l : LinkDecl) :
    Yields (mediumOf index l) (l.medium? = some ·)
      fun f ↦ l.medium? = none ∧ ∃ reason, f = .invalidLink index reason := by
  rw [mediumOf.eq_def, LinkDecl.medium?.eq_def]
  cases l.kind with
  | crossConnect =>
    cases l.exchange with
    | none => exact rfl
    | some id => exact ⟨rfl, .strayExchange, rfl⟩
  | exchange =>
    cases l.exchange with
    | none => exact ⟨rfl, .missingExchange, rfl⟩
    | some id => exact rfl

theorem wellFormed_of_linkDefect? {c : Config} {l : LinkDecl} (h : c.linkDefect? l = none) :
    l.count ≠ 0 ∧ l.medium?.isSome = true := by
  rw [linkDefect?] at h
  split at h
  case isTrue => exact absurd h (by simp)
  case isFalse hcount =>
    refine ⟨hcount, ?_⟩
    -- A link over a cross-connect with an exchange and one over none have a defect.
    cases hkind : l.kind with
    | crossConnect =>
      cases hexchange : l.exchange with
      | none => simp [LinkDecl.medium?, hkind, hexchange]
      | some id => exact absurd h (by simp [hkind, hexchange])
    | exchange =>
      cases hexchange : l.exchange with
      | none => exact absurd h (by simp [hkind, hexchange])
      | some id => simp [LinkDecl.medium?, hkind, hexchange]

/-- The declared links of a registry are those it had and those of a list. -/
structure Declares (r : LinkRegistry) (l : List LinkDecl) (r' : LinkRegistry) : Prop where
  declared : r'.Declared
  wellFormed : ∀ x ∈ l, ∃ d, x.declaration? = some d
  links : ∀ d, d ∈ r'.declarations ↔ d ∈ r.declarations ∨ ∃ x ∈ l, x.declaration? = some d

theorem declareFrom_yields {r : LinkRegistry} (hr : r.Declared) (index : Nat)
    (l : List LinkDecl) :
    Yields (declareFrom r index l) (Declares r l) fun f ↦ ∃ x ∈ l, x.Refused f := by
  induction l generalizing r index with
  | nil => exact ⟨hr, by simp, by simp⟩
  | cons x l ih =>
    rw [declareFrom]
    refine ((mediumOf_yields index x).imp_cause ?_).bind fun medium hmedium ↦ ?_
    · rintro _ ⟨hnone, reason, rfl⟩
      exact ⟨x, List.mem_cons_self, .malformed index reason hnone⟩
    refine ((r.add_yields ⟨medium, endsOf x⟩ x.count).mapError ?_).bind fun r' hadd ↦ ?_
    · rintro _ (⟨hself, rfl⟩ | ⟨hzero, rfl⟩ | ⟨-, rfl⟩)
      · exact ⟨x, List.mem_cons_self, .selfLink hself⟩
      · exact ⟨x, List.mem_cons_self, .zeroCount _ hzero⟩
      · exact ⟨x, List.mem_cons_self, .duplicate _⟩
    have hx : x.declaration? = some (⟨medium, endsOf x⟩, x.count) := by
      rw [LinkDecl.declaration?, hmedium, Option.map_some]
    refine (ih (.add hr hadd) (index + 1)).mono (fun r'' h ↦ ?_) ?_
    · refine ⟨h.declared, List.forall_mem_cons.2 ⟨⟨_, hx⟩, h.wellFormed⟩, fun d ↦ ?_⟩
      obtain ⟨-, -, -, rfl⟩ := LinkRegistry.add_eq_ok_iff.1 hadd
      rw [h.links, LinkRegistry.mem_declarations_push, List.exists_mem_cons_iff, hx,
        Option.some_inj, or_assoc, eq_comm (a := d)]
    · rintro f ⟨y, hy, hf⟩
      exact ⟨y, List.mem_cons_of_mem x hy, hf⟩

/-- **Declaring the links.** The registry holds the links of the configuration, or one of them is
refused. -/
theorem declareLinks_yields (c : Config) :
    Yields c.declareLinks (Declares .empty c.links) fun f ↦ ∃ x ∈ c.links, x.Refused f :=
  declareFrom_yields .empty 0 c.links

end Config

/-! ## The registry of a list of links -/

namespace LinkDecl

/-- What tells a well-formed link apart from others. -/
def key? (l : LinkDecl) : Option LinkKey := l.declaration?.map (·.1)

theorem key?_eq_some {l : LinkDecl} {medium : Medium} (h : l.medium? = some medium) :
    l.key? = some ⟨medium, Config.endsOf l⟩ := by
  rw [key?, declaration?, h, Option.map_some, Option.map_some]

/-- A link that can be declared where it is not declared yet. -/
structure Declarable (l : LinkDecl) : Prop where
  wellFormed : l.medium?.isSome = true
  asn_ne : l.a.asn ≠ l.b.asn
  count_ne_zero : l.count ≠ 0

end LinkDecl

namespace LinkRegistry

/-- The registry of some links, those of each kind in their order. -/
def ofDecls (l : List LinkDecl) : LinkRegistry where
  crossConnects := (l.filter (·.kind = .crossConnect)).map fun x ↦ (Config.endsOf x, x.count)
  exchangeLinks := (l.filter (·.kind = .exchange)).filterMap fun x ↦
    x.exchange.map fun id ↦ (id, Config.endsOf x, x.count)

/-- The links of a registry before those of another. -/
def join (r s : LinkRegistry) : LinkRegistry where
  crossConnects := r.crossConnects ++ s.crossConnects
  exchangeLinks := r.exchangeLinks ++ s.exchangeLinks

theorem empty_join (r : LinkRegistry) : empty.join r = r := rfl

theorem join_ofDecls_nil (r : LinkRegistry) : r.join (ofDecls []) = r := by
  rw [join, ofDecls]
  simp

theorem push_join_ofDecls {x : LinkDecl} {medium : Medium} (hx : x.medium? = some medium)
    (r : LinkRegistry) (l : List LinkDecl) :
    (r.push ⟨medium, Config.endsOf x⟩ x.count).join (ofDecls l) = r.join (ofDecls (x :: l)) := by
  rw [LinkDecl.medium?] at hx
  split at hx
  case h_1 hkind _ =>
    obtain rfl := Option.some.inj hx
    simp [push, join, ofDecls, hkind]
  case h_2 id hkind hexchange =>
    obtain rfl := Option.some.inj hx
    simp [push, join, ofDecls, hkind, hexchange]
  case h_3 => exact absurd hx (by simp)
  case h_4 => exact absurd hx (by simp)

theorem contains_eq_false_iff {r : LinkRegistry} {k : LinkKey} :
    r.contains k = false ↔ ∀ d ∈ r.declarations, d.1 ≠ k := by
  rw [← Bool.not_eq_true, contains, List.contains_iff_mem, List.mem_map, not_exists]
  exact forall_congr' fun d ↦ not_and

theorem contains_push_eq_false_iff {r : LinkRegistry} {k k' : LinkKey} {count : UInt32} :
    (r.push k count).contains k' = false ↔ r.contains k' = false ∧ k ≠ k' := by
  rw [contains_eq_false_iff, contains_eq_false_iff]
  constructor
  · intro h
    exact ⟨fun d hd ↦ h d (mem_declarations_push.2 (.inl hd)),
      h (k, count) (mem_declarations_push.2 (.inr rfl))⟩
  · rintro ⟨h, hne⟩ d hd
    rcases mem_declarations_push.1 hd with hd | rfl
    · exact h d hd
    · exact hne

end LinkRegistry

namespace Config

theorem mediumOf_eq_ok_iff {index : Nat} {l : LinkDecl} {medium : Medium} :
    mediumOf index l = .ok medium ↔ l.medium? = some medium := by
  constructor
  · exact (mediumOf_yields index l).good_of_ok
  · intro h
    cases hmedium : mediumOf index l with
    | ok medium' =>
      have hsame : l.medium? = some medium' := (mediumOf_yields index l).good_of_ok hmedium
      rw [Option.some.inj (h.symm.trans hsame)]
    | error f =>
      obtain ⟨hnone, -⟩ := (mediumOf_yields index l).cause_of_error hmedium
      exact absurd (h.symm.trans hnone) (by simp)

theorem declareFrom_cons_eq_ok_iff {r r' : LinkRegistry} {index : Nat} {x : LinkDecl}
    {l : List LinkDecl} :
    declareFrom r index (x :: l) = .ok r' ↔
      ∃ medium, x.medium? = some medium ∧ x.a.asn ≠ x.b.asn ∧ x.count ≠ 0 ∧
        r.contains ⟨medium, endsOf x⟩ = false ∧
        declareFrom (r.push ⟨medium, endsOf x⟩ x.count) (index + 1) l = .ok r' := by
  rw [declareFrom, bind_eq_ok_iff]
  refine exists_congr fun medium ↦ ?_
  rw [mediumOf_eq_ok_iff, bind_eq_ok_iff]
  refine and_congr_right fun _ ↦ ?_
  constructor
  · rintro ⟨r₁, hadd, h⟩
    obtain ⟨hne, hcount, hnew, rfl⟩ := LinkRegistry.add_eq_ok_iff.1 (mapError_eq_ok_iff.1 hadd)
    exact ⟨hne, hcount, hnew, h⟩
  · rintro ⟨hne, hcount, hnew, h⟩
    exact ⟨_, mapError_eq_ok_iff.2 (LinkRegistry.add_eq_ok_iff.2 ⟨hne, hcount, hnew, rfl⟩), h⟩

theorem declareFrom_eq_ok_iff {r r' : LinkRegistry} {index : Nat} {l : List LinkDecl} :
    declareFrom r index l = .ok r' ↔
      (∀ x ∈ l, x.Declarable) ∧ (l.map (·.key?)).Nodup ∧
        (∀ x ∈ l, ∀ k ∈ x.key?, r.contains k = false) ∧ r' = r.join (.ofDecls l) := by
  induction l generalizing r index with
  | nil =>
    rw [declareFrom, LinkRegistry.join_ofDecls_nil, Except.ok.injEq, eq_comm]
    simp
  | cons x l ih =>
    rw [declareFrom_cons_eq_ok_iff]
    constructor
    · rintro ⟨medium, hmedium, hne, hcount, hnew, h⟩
      obtain ⟨hall, hdistinct, hfree, rfl⟩ := ih.1 h
      have hkey := LinkDecl.key?_eq_some hmedium
      refine ⟨List.forall_mem_cons.2 ⟨⟨by rw [hmedium, Option.isSome_some], hne, hcount⟩, hall⟩,
        List.nodup_cons.2 ⟨fun hmem ↦ ?_, hdistinct⟩, List.forall_mem_cons.2 ⟨?_, ?_⟩,
        LinkRegistry.push_join_ofDecls hmedium r l⟩
      · obtain ⟨y, hy, hsame⟩ := List.mem_map.1 hmem
        exact (LinkRegistry.contains_push_eq_false_iff.1
          (hfree y hy _ (hsame.trans hkey))).2 rfl
      · rintro k hk
        rw [hkey] at hk
        exact Option.some.inj hk ▸ hnew
      · intro y hy k hk
        exact (LinkRegistry.contains_push_eq_false_iff.1 (hfree y hy k hk)).1
    · rintro ⟨hall, hdistinct, hfree, rfl⟩
      rw [List.forall_mem_cons] at hall hfree
      rw [List.map_cons, List.nodup_cons] at hdistinct
      obtain ⟨medium, hmedium⟩ := Option.isSome_iff_exists.1 hall.1.wellFormed
      have hkey := LinkDecl.key?_eq_some hmedium
      have hregistry := LinkRegistry.push_join_ofDecls hmedium r l
      refine ⟨medium, hmedium, hall.1.asn_ne, hall.1.count_ne_zero, hfree.1 _ hkey,
        ih.2 ⟨hall.2, hdistinct.2, fun y hy k hk ↦ ?_, hregistry.symm⟩⟩
      refine LinkRegistry.contains_push_eq_false_iff.2 ⟨hfree.2 y hy k hk, ?_⟩
      rintro rfl
      exact hdistinct.1 (List.mem_map.2 ⟨y, hy, Eq.trans hk hkey.symm⟩)

/-- **What can be declared.** The links of a configuration can be declared exactly if each of them
can be declared alone and no two of them are the same, and the registry has them in their order. -/
theorem declareLinks_eq_ok_iff {c : Config} {r : LinkRegistry} :
    c.declareLinks = .ok r ↔
      (∀ x ∈ c.links, x.Declarable) ∧ (c.links.map (·.key?)).Nodup ∧ r = .ofDecls c.links := by
  rw [declareLinks, declareFrom_eq_ok_iff, LinkRegistry.empty_join]
  refine and_congr_right fun _ ↦ and_congr_right fun _ ↦ and_iff_right ?_
  intro x _ k _
  rfl

end Config

end Interdomain
