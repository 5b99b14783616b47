import Interdomain.Proofs.Declaration
import Interdomain.Proofs.History

/-!
# Which links are declared

A registry tells two links apart by what they run over and by their ends, where a router without a
name and one with the empty name are the same. So the links of a configuration can be declared
exactly if none is malformed, none joins an AS with itself and no two of them repeat each other.
The registry then has one entry for each link, in order.

A registry may also be filled by any calls, whatever comes of each of them. What `Declared` keeps
holds after each such history, and the entries are the links that were granted.
-/

namespace Interdomain

/-! ## Links that repeat each other -/

namespace LinkEnds

theorem routerOfName_eq_some_iff {name router : String} :
    routerOfName name = some router ↔ name = router ∧ router ≠ "" := by
  rw [routerOfName]
  split
  case isTrue hempty =>
    refine iff_of_false (by simp) ?_
    rintro ⟨rfl, hne⟩
    exact hne (String.isEmpty_iff.1 hempty)
  case isFalse hempty =>
    rw [Option.some_inj]
    refine ⟨?_, And.left⟩
    rintro rfl
    exact ⟨rfl, fun h ↦ hempty (String.isEmpty_iff.2 h)⟩

theorem routerOfName_getD (name : String) : (routerOfName name).getD "" = name := by
  rw [routerOfName]
  split
  case isTrue hempty => exact (String.isEmpty_iff.1 hempty).symm
  case isFalse => rfl

theorem routerOfName_inj {name name' : String} :
    routerOfName name = routerOfName name' ↔ name = name' := by
  refine ⟨fun h ↦ ?_, congrArg routerOfName⟩
  rw [← routerOfName_getD name, h, routerOfName_getD]

/-- The ends that are kept for a link. The routers are those that it names, unless by the empty
name. -/
structure Of (ends : LinkEnds) (l : LinkDecl) : Prop where
  a : ends.a = l.a
  b : ends.b = l.b
  linkType : ends.linkType = l.linkType
  aRouter : ∀ router, ends.aRouter = some router ↔ l.aRouter = some router ∧ router ≠ ""
  bRouter : ∀ router, ends.bRouter = some router ↔ l.bRouter = some router ∧ router ≠ ""

theorem routerOfName_getD_eq_some_iff {name : Option String} {router : String} :
    routerOfName (name.getD "") = some router ↔ name = some router ∧ router ≠ "" := by
  rw [routerOfName_eq_some_iff]
  refine and_congr_left fun hne ↦ ?_
  cases name with
  | none => exact iff_of_false (fun h ↦ hne h.symm) (by simp)
  | some name => rw [Option.getD_some, Option.some_inj]

theorem endsOf_of (l : LinkDecl) : (Config.endsOf l).Of l :=
  ⟨rfl, rfl, rfl, fun _ ↦ routerOfName_getD_eq_some_iff, fun _ ↦ routerOfName_getD_eq_some_iff⟩

end LinkEnds

namespace LinkDecl

variable {l x y : LinkDecl}

/-- A link that is repeated zero times, or that names an exchange against its kind. -/
def Malformed (l : LinkDecl) : Prop :=
  l.count = 0 ∨ (l.kind = .crossConnect ∧ l.exchange ≠ none) ∨
    (l.kind = .exchange ∧ l.exchange = none)

/-- Two links of one kind with the same ends, type and routers, over the same exchange if they run
over one. -/
structure Repeats (x y : LinkDecl) : Prop where
  kind : x.kind = y.kind
  exchange : x.kind = .exchange → x.exchange = y.exchange
  a : x.a = y.a
  b : x.b = y.b
  linkType : x.linkType = y.linkType
  aRouter : x.aRouter.getD "" = y.aRouter.getD ""
  bRouter : x.bRouter.getD "" = y.bRouter.getD ""

instance (l : LinkDecl) : Decidable l.Malformed := inferInstanceAs (Decidable (_ ∨ _))

instance (x y : LinkDecl) : Decidable (x.Repeats y) :=
  decidable_of_iff
    (x.kind = y.kind ∧ (x.kind = .exchange → x.exchange = y.exchange) ∧ x.a = y.a ∧ x.b = y.b ∧
      x.linkType = y.linkType ∧ x.aRouter.getD "" = y.aRouter.getD "" ∧
      x.bRouter.getD "" = y.bRouter.getD "")
    ⟨fun ⟨hkind, hexchange, ha, hb, htype, haRouter, hbRouter⟩ ↦
        ⟨hkind, hexchange, ha, hb, htype, haRouter, hbRouter⟩,
      fun h ↦ ⟨h.kind, h.exchange, h.a, h.b, h.linkType, h.aRouter, h.bRouter⟩⟩

theorem medium?_eq_crossConnect_iff :
    l.medium? = some .crossConnect ↔ l.kind = .crossConnect ∧ l.exchange = none := by
  rw [medium?]
  cases l.kind <;> cases l.exchange <;> simp

theorem medium?_eq_exchange_iff {id : ExchangeId} :
    l.medium? = some (.exchange id) ↔ l.kind = .exchange ∧ l.exchange = some id := by
  rw [medium?]
  cases l.kind <;> cases l.exchange <;> simp

theorem declarable_iff : l.Declarable ↔ ¬l.Malformed ∧ l.a.asn ≠ l.b.asn := by
  -- A link has a medium if an exchange is named exactly by the kind that needs one.
  have hmedium : l.medium?.isSome = true ↔
      ¬((l.kind = .crossConnect ∧ l.exchange ≠ none) ∨
        (l.kind = .exchange ∧ l.exchange = none)) := by
    rw [medium?]
    cases l.kind <;> cases l.exchange <;> simp
  rw [Malformed, not_or, ← hmedium]
  constructor
  · exact fun h ↦ ⟨⟨h.count_ne_zero, h.wellFormed⟩, h.asn_ne⟩
  · exact fun h ↦ ⟨h.1.2, h.2, h.1.1⟩

theorem endsOf_eq_endsOf_iff :
    Config.endsOf x = Config.endsOf y ↔
      x.a = y.a ∧ x.b = y.b ∧ x.linkType = y.linkType ∧
        x.aRouter.getD "" = y.aRouter.getD "" ∧ x.bRouter.getD "" = y.bRouter.getD "" := by
  simp only [Config.endsOf, LinkEnds.named, LinkEnds.mk.injEq, LinkEnds.routerOfName_inj]
  tauto

/-- What tells well-formed links apart is the same exactly for links that repeat each other. -/
theorem key?_eq_key?_iff (hx : x.Declarable) (hy : y.Declarable) :
    x.key? = y.key? ↔ x.Repeats y := by
  obtain ⟨medium, hmedium⟩ := Option.isSome_iff_exists.1 hx.wellFormed
  obtain ⟨medium', hmedium'⟩ := Option.isSome_iff_exists.1 hy.wellFormed
  rw [key?_eq_some hmedium, key?_eq_some hmedium', Option.some_inj, LinkKey.mk.injEq,
    endsOf_eq_endsOf_iff]
  -- The media are compared kind by kind, and over exchanges by the exchange.
  have hmedia : medium = medium' ↔
      x.kind = y.kind ∧ (x.kind = .exchange → x.exchange = y.exchange) := by
    cases medium with
    | crossConnect =>
      have hkind := (medium?_eq_crossConnect_iff.1 hmedium).1
      cases medium' with
      | crossConnect => simp [hkind, (medium?_eq_crossConnect_iff.1 hmedium').1]
      | exchange id => simp [hkind, (medium?_eq_exchange_iff.1 hmedium').1]
    | exchange id =>
      obtain ⟨hkind, hid⟩ := medium?_eq_exchange_iff.1 hmedium
      cases medium' with
      | crossConnect => simp [hkind, (medium?_eq_crossConnect_iff.1 hmedium').1]
      | exchange id' => simp [hkind, hid, medium?_eq_exchange_iff.1 hmedium']
  rw [hmedia]
  constructor
  · rintro ⟨⟨hkind, hexchange⟩, ha, hb, htype, haRouter, hbRouter⟩
    exact ⟨hkind, hexchange, ha, hb, htype, haRouter, hbRouter⟩
  · intro h
    exact ⟨⟨h.kind, h.exchange⟩, h.a, h.b, h.linkType, h.aRouter, h.bRouter⟩

end LinkDecl

/-! ## The entries of a registry -/

namespace LinkRegistry

variable {r r' : LinkRegistry} {k : LinkKey} {count : UInt32}

/-- What a registry keeps: no link joins an AS with itself, none is repeated zero times, and none is
there twice. -/
structure Sound (r : LinkRegistry) : Prop where
  asn_ne : ∀ d ∈ r.declarations, d.1.ends.a.asn ≠ d.1.ends.b.asn
  count_ne_zero : ∀ d ∈ r.declarations, d.2 ≠ 0
  distinct : (r.declarations.map (·.1)).Nodup

theorem crossConnectDeclarations_push :
    (r.push k count).crossConnectDeclarations
      = r.crossConnectDeclarations ++ [(k, count)].filter (·.1.medium = .crossConnect) := by
  obtain ⟨medium, ends⟩ := k
  cases medium with
  | crossConnect => simp [push, crossConnectDeclarations]
  | exchange id => simp [push, crossConnectDeclarations]

theorem exchangeDeclarations_push :
    (r.push k count).exchangeDeclarations
      = r.exchangeDeclarations ++ [(k, count)].filter (·.1.medium ≠ .crossConnect) := by
  obtain ⟨medium, ends⟩ := k
  cases medium with
  | crossConnect => simp [push, exchangeDeclarations]
  | exchange id => simp [push, exchangeDeclarations]

/-- A new link comes behind the links of its medium, so among all links it may come anywhere. -/
theorem declarations_push_perm :
    ((r.push k count).declarations).Perm ((k, count) :: r.declarations) := by
  obtain ⟨medium, ends⟩ := k
  rw [declarations, declarations, crossConnectDeclarations_push, exchangeDeclarations_push]
  cases medium with
  | crossConnect =>
    simp only [decide_true, List.filter_cons_of_pos, List.filter_nil, ne_eq, not_true_eq_false,
      decide_false, Bool.false_eq_true, not_false_eq_true, List.filter_cons_of_neg,
      List.append_nil, List.append_assoc, List.singleton_append]
    exact List.perm_middle
  | exchange id =>
    simp only [reduceCtorEq, decide_false, Bool.false_eq_true, not_false_eq_true,
      List.filter_cons_of_neg, List.filter_nil, List.append_nil, ne_eq, decide_true,
      List.filter_cons_of_pos, ← List.append_assoc]
    exact List.perm_append_singleton _ _

theorem Declared.sound (h : r.Declared) : r.Sound := by
  refine ⟨fun d ↦ h.asn_ne, fun d ↦ h.count_ne_zero, ?_⟩
  induction h with
  | empty => exact List.nodup_nil
  | @add r r' k count rest added ih =>
    obtain ⟨-, -, hnew, rfl⟩ := add_eq_ok_iff.1 added
    rw [((declarations_push_perm).map (·.1)).nodup_iff, List.map_cons, List.nodup_cons]
    refine ⟨fun hmem ↦ ?_, ih⟩
    obtain ⟨d, hd, hk⟩ := List.mem_map.1 hmem
    exact contains_eq_false_iff.1 hnew d hd hk

/-! ## Histories -/

/-- A link is offered with its repeat count. -/
def offer (d : LinkKey × UInt32) : Change LinkRegistry Fault Unit := add d.1 d.2

/-- A link that is refused leaves the registry as it was, for everything is checked first. -/
theorem atomic_offer (d : LinkKey × UInt32) : (offer d).Atomic :=
  Change.atomic_look_bind _ fun _ ↦ (Change.total_write _).atomic

/-- The links that were offered to a registry without any. -/
def history (offers : List (LinkKey × UInt32)) :
    History (LinkKey × UInt32) LinkRegistry Fault Unit :=
  .record offer empty offers

theorem declared_history (offers : List (LinkKey × UInt32)) : (history offers).state.Declared := by
  have hempty : (history []).state.Declared := .empty
  refine History.lasting atomic_offer (fun r d _ r' hr hd ↦ ?_) hempty offers
  exact .add hr (Change.after_eq_ok_iff.2 hd)

/-- A registry has the links that were granted, those over cross-connects and those over exchanges
each in their order. -/
structure Holds (r : LinkRegistry) (granted : List (LinkKey × UInt32)) : Prop where
  crossConnects : r.crossConnectDeclarations = granted.filter (·.1.medium = .crossConnect)
  exchangeLinks : r.exchangeDeclarations = granted.filter (·.1.medium ≠ .crossConnect)

theorem Holds.push {granted : List (LinkKey × UInt32)} (h : r.Holds granted) :
    (r.push k count).Holds (granted ++ [(k, count)]) := by
  constructor
  · rw [crossConnectDeclarations_push, List.filter_append, h.crossConnects]
  · rw [exchangeDeclarations_push, List.filter_append, h.exchangeLinks]

theorem holds_history (offers : List (LinkKey × UInt32)) :
    (history offers).state.Holds ((history offers).granted.map (·.1)) := by
  refine History.record_induction
    (fun _ (h : History (LinkKey × UInt32) LinkRegistry Fault Unit) ↦
      h.state.Holds (h.granted.map (·.1))) (⟨rfl, rfl⟩ : empty.Holds []) ?_ ?_ offers
  · intro _ d h _ r' ih hd
    obtain ⟨-, -, -, rfl⟩ := add_eq_ok_iff.1 (Change.after_eq_ok_iff.2 hd)
    rw [History.granted_extend_of_eq_ok hd, History.extend_of_eq_ok hd, List.map_append]
    exact ih.push
  · intro _ d h f ih hd
    rwa [History.granted_extend_of_eq_error hd,
      History.state_extend_of_eq_error (atomic_offer d) hd]

end LinkRegistry

/-! ## Declaring all links of a configuration -/

theorem forall₂_filterMap {α β : Type} {R : α → β → Prop} {f : α → Option β} {l : List α}
    (h : ∀ a ∈ l, ∃ b, f a = some b ∧ R a b) : List.Forall₂ R l (l.filterMap f) := by
  induction l with
  | nil => exact .nil
  | cons a l ih =>
    rw [List.forall_mem_cons] at h
    obtain ⟨⟨b, hb, hR⟩, hrest⟩ := h
    rw [List.filterMap_cons_some hb]
    exact .cons hR (ih hrest)

namespace MediumKind

theorem ne_crossConnect_iff {kind : MediumKind} : kind ≠ .crossConnect ↔ kind = .exchange := by
  cases kind <;> decide

end MediumKind

namespace Config

/-- The links can be declared exactly if each of them can be declared alone and no two of them
repeat each other. -/
theorem exists_declareLinks_eq_ok_iff {c : Config} :
    (∃ r, c.declareLinks = .ok r) ↔
      (∀ x ∈ c.links, ¬x.Malformed) ∧ (∀ x ∈ c.links, x.a.asn ≠ x.b.asn) ∧
        c.links.Pairwise fun x y ↦ ¬x.Repeats y := by
  have hdistinct (hall : ∀ x ∈ c.links, x.Declarable) :
      (c.links.map (·.key?)).Nodup ↔ c.links.Pairwise fun x y ↦ ¬x.Repeats y := by
    rw [List.Nodup, List.pairwise_map]
    exact List.Pairwise.iff_of_mem fun hx hy ↦
      not_congr (LinkDecl.key?_eq_key?_iff (hall _ hx) (hall _ hy))
  rw [← and_assoc, ← forall₂_and]
  simp only [← LinkDecl.declarable_iff, declareLinks_eq_ok_iff]
  constructor
  · rintro ⟨-, hall, hkeys, -⟩
    exact ⟨hall, (hdistinct hall).1 hkeys⟩
  · rintro ⟨hall, hpairs⟩
    exact ⟨_, hall, (hdistinct hall).2 hpairs, rfl⟩

/-- The entries of a registry belong to the links of a configuration one by one: first to those
over cross-connects, then to those over exchanges. -/
structure Records (c : Config) (r : LinkRegistry) : Prop where
  crossConnects : List.Forall₂ (fun x d ↦ d.1.Of x ∧ d.2 = x.count)
    (c.links.filter (·.kind = .crossConnect)) r.crossConnects
  exchangeLinks : List.Forall₂ (fun x d ↦ x.exchange = some d.1 ∧ d.2.1.Of x ∧ d.2.2 = x.count)
    (c.links.filter (·.kind = .exchange)) r.exchangeLinks
  size : r.size = c.links.length

theorem records_of_declareLinks {c : Config} {r : LinkRegistry} (h : c.declareLinks = .ok r) :
    c.Records r := by
  obtain ⟨hall, -, rfl⟩ := declareLinks_eq_ok_iff.1 h
  have hcross : List.Forall₂ (fun x (d : LinkEnds × UInt32) ↦ d.1.Of x ∧ d.2 = x.count)
      (c.links.filter (·.kind = .crossConnect)) (LinkRegistry.ofDecls c.links).crossConnects :=
    List.forall₂_map_right_iff.2 (List.forall₂_same.2 fun x _ ↦ ⟨LinkEnds.endsOf_of x, rfl⟩)
  have hexchange : List.Forall₂
      (fun x (d : ExchangeId × LinkEnds × UInt32) ↦
        x.exchange = some d.1 ∧ d.2.1.Of x ∧ d.2.2 = x.count)
      (c.links.filter (·.kind = .exchange)) (LinkRegistry.ofDecls c.links).exchangeLinks := by
    refine forall₂_filterMap fun x hx ↦ ?_
    obtain ⟨hmem, hkind⟩ := List.mem_filter.1 hx
    -- A link over an exchange that can be declared names it.
    obtain ⟨medium, hmedium⟩ := Option.isSome_iff_exists.1 (hall x hmem).wellFormed
    cases medium with
    | crossConnect =>
      exact absurd ((of_decide_eq_true hkind).symm.trans
        (LinkDecl.medium?_eq_crossConnect_iff.1 hmedium).1) (by simp)
    | exchange id =>
      have hid := (LinkDecl.medium?_eq_exchange_iff.1 hmedium).2
      exact ⟨(id, endsOf x, x.count), by rw [hid, Option.map_some], hid, LinkEnds.endsOf_of x, rfl⟩
  refine ⟨hcross, hexchange, ?_⟩
  rw [LinkRegistry.size, ← hcross.length_eq, ← hexchange.length_eq, ← List.countP_eq_length_filter,
    ← List.countP_eq_length_filter, List.length_eq_countP_add_countP (·.kind = .crossConnect)]
  simp only [decide_eq_true_eq, MediumKind.ne_crossConnect_iff]

/-- **Exact declaration.** The links of a configuration can be declared exactly if none of them is
malformed, none joins an AS with itself and no two of them repeat each other; then the registry has
one entry for each link, in order. Whatever links were offered to a registry, it holds those that
were granted, each of them once, and if the next one is refused the registry stays. -/
theorem declareLinks_exact (c : Config) (offers : List (LinkKey × UInt32)) :
    ((∃ r, c.declareLinks = .ok r) ↔
      (∀ x ∈ c.links, ¬x.Malformed) ∧ (∀ x ∈ c.links, x.a.asn ≠ x.b.asn) ∧
        c.links.Pairwise fun x y ↦ ¬x.Repeats y) ∧
    (∀ r, c.declareLinks = .ok r → c.Records r ∧ r.Sound) ∧
    let r := (LinkRegistry.history offers).state
    r.Sound ∧ r.Holds ((LinkRegistry.history offers).granted.map (·.1)) ∧
      ∀ d f, (LinkRegistry.add d.1 d.2).after r = .error f →
        (LinkRegistry.history (offers ++ [d])).state = r := by
  refine ⟨exists_declareLinks_eq_ok_iff, fun r hr ↦ ⟨records_of_declareLinks hr, ?_⟩,
    (LinkRegistry.declared_history offers).sound, LinkRegistry.holds_history offers,
    fun d f hf ↦ ?_⟩
  · exact (c.declareLinks_yields.good_of_ok hr).declared.sound
  · exact History.state_record_concat_of_eq_error (LinkRegistry.atomic_offer d)
      (Change.after_eq_error_iff.1 hf)

/-! ### Parallel links -/

/-- A link over a cross-connect from the AS `1-150` to the AS `1-151`. -/
def parallelLink (aRouter : Option String) : LinkDecl where
  kind := .crossConnect
  a := ⟨1, 150⟩
  b := ⟨1, 151⟩
  linkType := .core
  aRouter := aRouter

/-- The links from two routers do not repeat each other, and neither does one over an exchange. -/
def parallelLinks : Config where
  isds := []
  ases := []
  links := [parallelLink (some ""), parallelLink (some "br0"),
    { parallelLink none with kind := .exchange, exchange := some 100, count := 3 }]

/-- These links are declared, but not two of which one has no router name and the other an empty
one. A link that is offered twice is there once, and so it stays if it is offered not even once. -/
theorem parallelLinks_exact :
    let link : LinkKey := ⟨.crossConnect, endsOf (parallelLink none)⟩
    let offers := [(link, 2), (link, 1)]
    (∃ r, parallelLinks.declareLinks = .ok r ∧ parallelLinks.Records r ∧ r.Sound) ∧
      (¬∃ r, { parallelLinks with
        links := [parallelLink (some ""), parallelLink none] }.declareLinks = .ok r) ∧
      (LinkRegistry.history offers).state.declarations = [(link, 2)] ∧
      (LinkRegistry.history (offers ++ [(link, 0)])).state.declarations = [(link, 2)] := by
  intro link offers
  obtain ⟨hdeclared, hrecords, -, hholds, hstays⟩ := declareLinks_exact parallelLinks offers
  obtain ⟨r, hr⟩ := hdeclared.2 ⟨by decide, by decide, by decide⟩
  have hoffers : (LinkRegistry.history offers).state.declarations = [(link, 2)] := by
    rw [LinkRegistry.declarations, hholds.crossConnects, hholds.exchangeLinks]
    rfl
  refine ⟨⟨r, hr, hrecords r hr⟩, fun h ↦ ?_, hoffers, ?_⟩
  · exact absurd ((declareLinks_exact _ []).1.1 h).2.2 (by decide)
  · rw [hstays (link, 0) (.invalidLinkCount link) rfl, hoffers]

end Config

end Interdomain
