import Interdomain.Graph
import Interdomain.Proofs.Resolution.Exactness
import Interdomain.Proofs.Resolution.Numbering

/-!
# The graph of the resolved links

The graph goes through the declared links on its own, without planning them and without the numbers
that they get. Still it draws the resolved links: one edge for each of them, in their order. A vertex
comes with the first link that ends at it. What comes later finds the vertex there, and since an AS
looks the same at each of its links, and before and after the resolution, the first shape is the
right one.
-/

namespace Interdomain

/-! ## Rosters that take new keys only -/

namespace Roster

variable {α κ ν : Type} [DecidableEq κ] (r : Roster κ ν) {k : κ}

theorem insertNew_of_mem (v : ν) (h : k ∈ r.keys) : r.insertNew k v = r :=
  if_pos ((r.contains_iff k).2 h)

theorem insertNew_of_not_mem (v : ν) (h : k ∉ r.keys) : r.insertNew k v = r.insert k v :=
  if_neg (mt (r.contains_iff k).1 h)

theorem mem_keys_insertNew {k' : κ} (v : ν) :
    k' ∈ (r.insertNew k v).keys ↔ k' ∈ r.keys ∨ k' = k := by
  by_cases h : k ∈ r.keys
  · rw [r.insertNew_of_mem v h, iff_self_or]
    rintro rfl
    exact h
  · rw [r.insertNew_of_not_mem v h, mem_keys_insert]

theorem mem_keys_foldl_insertNew (key : α → κ) (value : α → ν) (l : List α) :
    k ∈ (l.foldl (fun r x ↦ r.insertNew (key x) (value x)) r).keys ↔
      k ∈ r.keys ∨ k ∈ l.map key := by
  induction l generalizing r with
  | nil => simp
  | cons x l ih =>
    rw [List.foldl_cons, ih, mem_keys_insertNew, List.map_cons, List.mem_cons, or_assoc]

theorem foldl_insertNew_of_subset {key : α → κ} (value : α → ν) {l : List α}
    (h : ∀ x ∈ l, key x ∈ r.keys) :
    l.foldl (fun r x ↦ r.insertNew (key x) (value x)) r = r := by
  induction l with
  | nil => rfl
  | cons x l ih =>
    rw [List.foldl_cons, r.insertNew_of_mem _ (h x List.mem_cons_self)]
    exact ih fun y hy ↦ h y (List.mem_cons_of_mem x hy)

/-- What a list adds are the entries of its elements whose keys were not there, each of them where
it first came. -/
theorem entries_foldl_insertNew [DecidableEq α] {key : α → κ} (hkey : Function.Injective key)
    (value : α → ν) (l : List α) :
    (l.foldl (fun r x ↦ r.insertNew (key x) (value x)) r).entries
      = r.entries ++ (l.filter (key · ∉ r.keys)).eraseDups.map fun x ↦ (key x, value x) := by
  induction l generalizing r with
  | nil => exact (List.append_nil _).symm
  | cons x l ih =>
    rw [List.foldl_cons]
    by_cases h : key x ∈ r.keys
    · rw [r.insertNew_of_mem _ h, ih, List.filter_cons_of_neg (by simpa using h)]
    · -- Behind it the key counts as one that is there.
      have hrest : l.filter (key · ∉ r.keys ++ [key x])
          = (l.filter (key · ∉ r.keys)).filter (fun y ↦ !y == x) := by
        rw [List.filter_filter]
        refine List.filter_congr fun y _ ↦ ?_
        simp [hkey.eq_iff, and_comm, beq_eq_decide]
      rw [r.insertNew_of_not_mem _ h, ih, r.entries_insert_of_not_mem _ h,
        r.keys_insert_of_not_mem _ h, hrest, List.filter_cons_of_pos (by simpa using h),
        List.eraseDups_cons, List.map_cons, List.append_assoc, List.singleton_append]

end Roster

namespace Graph

/-! ## Vertices -/

theorem vertexOf_injective : Function.Injective vertexOf := by
  rintro ⟨isd, asn⟩ ⟨isd', asn'⟩ h
  obtain ⟨hgroup, hname⟩ := Vertex.mk.inj h
  have hisd : isd.toNat = isd'.toNat := Decimal.text_inj ((String.append_right_inj _).1 hgroup)
  have hasn : asn.toNat = asn'.toNat := Decimal.text_inj ((String.append_right_inj _).1 hname)
  rw [UInt16.toNat_inj.1 hisd, UInt32.toNat_inj.1 hasn]

theorem shapeOf_eq_doubleCircle_iff {e : Emulation} {ia : IsdAsn} :
    shapeOf e ia = .doubleCircle ↔
      ∃ a, e.as? ia.asn = some a ∧ "core" ∈ a.attributesIn ia.isd := by
  rw [shapeOf, Emulation.isCore]
  cases e.as? ia.asn with
  | none => simp
  | some a => simp [AutonomousSystem.isCore]

@[simp] theorem edgeOf_a (k : LinkKey) : (edgeOf k).a = vertexOf k.ends.a := by
  rw [edgeOf]
  cases k.ends.linkType <;> rfl

@[simp] theorem edgeOf_b (k : LinkKey) : (edgeOf k).b = vertexOf k.ends.b := by
  rw [edgeOf]
  cases k.ends.linkType <;> rfl

@[simp] theorem edgeOf_label (k : LinkKey) : (edgeOf k).label = mediumLabel k.medium := by
  rw [edgeOf]
  cases k.ends.linkType <;> rfl

/-- The ends of the declared links, link by link. -/
def declaredEnds (ds : List (LinkKey × UInt32)) : List IsdAsn :=
  ds.flatMap fun d ↦ [d.1.ends.a, d.1.ends.b]

/-- Add the vertices of ASes in domains. -/
def place (e : Emulation) (vertices : Roster Vertex Shape) (ias : List IsdAsn) :
    Roster Vertex Shape :=
  ias.foldl (fun r ia ↦ r.insertNew (vertexOf ia) (shapeOf e ia)) vertices

variable {e e' : Emulation} {vertices : Roster Vertex Shape} {ds : List (LinkKey × UInt32)}

theorem place_append (ias ias' : List IsdAsn) :
    place e vertices (ias ++ ias') = place e (place e vertices ias) ias' :=
  List.foldl_append

theorem entries_place (e : Emulation) (ias : List IsdAsn) :
    (place e ∅ ias).entries = ias.eraseDups.map fun ia ↦ (vertexOf ia, shapeOf e ia) := by
  have hall : ias.filter (vertexOf · ∉ (∅ : Roster Vertex Shape).keys) = ias :=
    List.filter_eq_self.2 fun ia _ ↦ decide_eq_true List.not_mem_nil
  rw [place, Roster.entries_foldl_insertNew _ vertexOf_injective, hall]
  rfl

theorem place_append_of_subset {ias ias' : List IsdAsn} (h : ias' ⊆ ias) :
    place e vertices (ias ++ ias') = place e vertices ias := by
  rw [place_append]
  refine Roster.foldl_insertNew_of_subset _ _ fun ia hia ↦ ?_
  rw [place, Roster.mem_keys_foldl_insertNew]
  exact .inr (List.mem_map_of_mem (h hia))

theorem place_repeated (hds : ∀ d ∈ ds, d.2 ≠ 0) :
    place e vertices (declaredEnds (Resolution.repeated ds)) = place e vertices (declaredEnds ds) := by
  induction ds generalizing vertices with
  | nil => rfl
  | cons d ds ih =>
    have hcount : d.2.toNat ≠ 0 := fun hzero ↦
      hds d List.mem_cons_self (UInt32.toNat_inj.1 hzero)
    obtain ⟨n, hn⟩ := Nat.exists_eq_succ_of_ne_zero hcount
    have hsubset : declaredEnds (List.replicate n d) ⊆ [d.1.ends.a, d.1.ends.b] := by
      intro ia hia
      obtain ⟨d', hd', hia⟩ := List.mem_flatMap.1 hia
      rwa [List.eq_of_mem_replicate hd'] at hia
    have hends : declaredEnds (Resolution.repeated (d :: ds))
        = [d.1.ends.a, d.1.ends.b] ++ declaredEnds (List.replicate n d)
          ++ declaredEnds (Resolution.repeated ds) := by
      simp [Resolution.repeated, declaredEnds, hn, List.replicate_succ]
    rw [hends, place_append, place_append_of_subset hsubset,
      ih fun d' hd' ↦ hds d' (List.mem_cons_of_mem d hd'), ← place_append]
    rfl

/-! ## The graph of the declarations -/

theorem vertices_foldl_addLink (g : Graph) :
    (ds.foldl (addLink e) g).vertices = place e g.vertices (declaredEnds ds) := by
  induction ds generalizing g with
  | nil => rfl
  | cons d ds ih => exact ih (addLink e g d)

theorem edges_foldl_addLink (g : Graph) :
    (ds.foldl (addLink e) g).edges = g.edges ++ (Resolution.repeated ds).map (edgeOf ·.1) := by
  induction ds generalizing g with
  | nil => exact (List.append_nil _).symm
  | cons d ds ih =>
    rw [List.foldl_cons, ih]
    simp [Resolution.repeated, addLink, addEdges, addVertex]

theorem ofLinks_congr (links : LinkRegistry) (h : ∀ ia, e.isCore ia = e'.isCore ia) :
    ofLinks links e = ofLinks links e' := by
  have hshape : shapeOf e = shapeOf e' := by
    funext ia
    rw [shapeOf, shapeOf, h]
  have hadd : addLink e = addLink e' := by
    funext g d
    rw [addLink, addLink, hshape]
  rw [ofLinks, ofLinks, hadd]

end Graph

theorem Emulation.isCore_bare (e : Emulation) (ia : IsdAsn) : e.bare.isCore ia = e.isCore ia := by
  rw [isCore, isCore, as?_bare]
  cases e.as? ia.asn <;> rfl

/-! ## The graph of the resolution -/

/-- An edge that shows a link. -/
structure Edge.Shows (x : Edge) (l : ResolvedLink) : Prop where
  a : x.a = ⟨"ISD" ++ isdText l.a.ia.isd, "AS" ++ asnText l.a.ia.asn⟩
  b : x.b = ⟨"ISD" ++ isdText l.b.ia.isd, "AS" ++ asnText l.b.ia.asn⟩
  /-- It is labelled with the exchange of the link, if there is one. -/
  label : ∀ text, x.label = some text ↔ ∃ id, l.medium = .exchange id ∧ text = "IX" ++ asnText id
  core : l.linkType = .core → x.style = .bold ∧ x.aLabel = none ∧ x.bLabel = none
  peer : l.linkType = .peer → x.style = .dashed ∧ x.aLabel = none ∧ x.bLabel = none
  transit : l.linkType = .transit →
    x.style = .solid ∧ x.aLabel = some "P" ∧ x.bLabel = some "C"

/-- A graph that shows links between the ASes of a network. -/
structure Graph.Shows (g : Graph) (e : Emulation) (ls : List ResolvedLink) : Prop where
  /-- There is one edge for each link, in order. -/
  edges : List.Forall₂ Edge.Shows g.edges ls
  /-- The vertices are those of the ends, each of them where it first came. -/
  vertices : g.vertices.keys = ((Resolution.endsOf ls).map (·.ia)).eraseDups.map Graph.vertexOf
  nodup : g.vertices.keys.Nodup
  /-- The core ASes are told apart. -/
  shapes : ∀ x ∈ Resolution.endsOf ls, ∃ shape, g.vertices.get? (Graph.vertexOf x.ia) = some shape ∧
    (shape = .doubleCircle ↔ ∃ a, e.as? x.ia.asn = some a ∧ "core" ∈ a.attributesIn x.ia.isd)
  /-- An edge ends at vertices. -/
  ends : ∀ x ∈ g.edges, x.a ∈ g.vertices.keys ∧ x.b ∈ g.vertices.keys

namespace Resolution

open Interdomain.Graph

variable {options : ResolverOptions} {links : LinkRegistry} {e e' : Emulation}
  {ds : List (LinkKey × UInt32)} {rs : List ResolvedLink}

theorem edgeOf_shows {d : LinkKey × UInt32} {l : ResolvedLink} (h : Repeats e d l) :
    (edgeOf d.1).Shows l where
  a := by rw [edgeOf_a, h.a]; rfl
  b := by rw [edgeOf_b, h.b]; rfl
  label text := by
    rw [edgeOf_label, h.medium]
    cases d.1.medium with
    | crossConnect => simp [mediumLabel]
    | exchange id => simp [mediumLabel, eq_comm]
  core hcore := by
    rw [edgeOf, ← h.linkType, hcore]
    exact ⟨rfl, rfl, rfl⟩
  peer hpeer := by
    rw [edgeOf, ← h.linkType, hpeer]
    exact ⟨rfl, rfl, rfl⟩
  transit htransit := by
    rw [edgeOf, ← h.linkType, htransit]
    exact ⟨rfl, rfl, rfl⟩

theorem map_ia_endsOf (h : List.Forall₂ (Repeats e) ds rs) :
    (endsOf rs).map (·.ia) = declaredEnds ds := by
  induction h with
  | nil => rfl
  | cons hd _ ih =>
    rw [declaredEnds, List.flatMap_cons, ← hd.a, ← hd.b, ← declaredEnds, ← ih]
    rfl

/-- The graph shows links that repeat the declarations. -/
theorem ofLinks_shows (hlinks : links.Declared)
    (h : List.Forall₂ (Repeats e) (repeated links.declarations) rs) (e' : Emulation) :
    (ofLinks links e').Shows e' rs := by
  have hedges : (ofLinks links e').edges = (repeated links.declarations).map (edgeOf ·.1) := by
    rw [ofLinks, edges_foldl_addLink, List.nil_append]
  have hvertices : (ofLinks links e').vertices
      = place e' ∅ ((endsOf rs).map (·.ia)) := by
    rw [ofLinks, vertices_foldl_addLink, map_ia_endsOf h,
      place_repeated fun d hd ↦ hlinks.count_ne_zero hd]
  have hentries := entries_place e' ((endsOf rs).map (·.ia))
  -- A vertex is there for every end, with the shape of its AS.
  have hentry : ∀ x ∈ endsOf rs,
      (vertexOf x.ia, shapeOf e' x.ia) ∈ (ofLinks links e').vertices.entries := by
    intro x hx
    rw [hvertices, hentries]
    exact List.mem_map_of_mem (List.mem_eraseDups.2 (List.mem_map_of_mem hx))
  constructor
  case edges =>
    rw [hedges, List.forall₂_map_left_iff]
    exact h.imp fun _ _ ↦ edgeOf_shows
  case vertices =>
    rw [Roster.keys, hvertices, hentries, List.map_map]
    rfl
  case nodup => exact (ofLinks links e').vertices.nodup
  case shapes =>
    intro x hx
    exact ⟨_, Roster.get?_eq_some_iff _ |>.2 (hentry x hx), shapeOf_eq_doubleCircle_iff⟩
  case ends =>
    intro x hx
    rw [hedges] at hx
    obtain ⟨d, hd, rfl⟩ := List.mem_map.1 hx
    obtain ⟨l, hl, hrepeats⟩ := exists_of_mem_of_forall₂ h hd
    rw [edgeOf_a, edgeOf_b, ← hrepeats.a, ← hrepeats.b]
    have ha : l.a ∈ endsOf rs := List.mem_flatMap.2 ⟨l, hl, List.mem_cons_self⟩
    have hb : l.b ∈ endsOf rs :=
      List.mem_flatMap.2 ⟨l, hl, List.mem_cons_of_mem _ List.mem_cons_self⟩
    exact ⟨List.mem_map_of_mem (hentry l.a ha), List.mem_map_of_mem (hentry l.b hb)⟩

/-- **The graph shows the resolution.** The graph of the declared links has an edge for each resolved
link, in the same order and drawn as the link is, and a vertex for each AS in a domain at which such
a link ends, drawn as the AS is. It does not matter whether it is drawn before the links are resolved
or afterwards. -/
theorem ofLinks_of_resolve (hlinks : links.Declared)
    (h : (resolve options links).on e = (.ok rs, e')) :
    (ofLinks links e).Shows e rs ∧ (ofLinks links e').Shows e' rs ∧
      ofLinks links e' = ofLinks links e := by
  obtain ⟨p, hplan, hcommitted⟩ := plan_of_resolve h
  have hplanned := forall₂_repetitions (mapM_eq_ok_iff.1 (plan_eq_ok_iff.1 hplan).1)
  have hrepeats := forall₂_repeats hplanned hcommitted.carried
  refine ⟨ofLinks_shows hlinks hrepeats e, ofLinks_shows hlinks hrepeats e', ?_⟩
  refine ofLinks_congr links fun ia ↦ ?_
  rw [← e'.isCore_bare, hcommitted.bare, e.isCore_bare]

/-- Two peering links between two neighbours are drawn as two edges. -/
theorem ofLinks_peering :
    (peering 2).Declared ∧ ∃ rs e', (resolve {} (peering 2)).on neighbours = (.ok rs, e') ∧
      rs.length = 2 ∧ (ofLinks (peering 2) neighbours).Shows neighbours rs := by
  have hdeclared : (peering 2).Declared := declared_peering (by decide)
  obtain ⟨hshows, -, -⟩ := ofLinks_of_resolve hdeclared
    (show (resolve {} (peering 2)).on neighbours = (.ok _, _) from rfl)
  exact ⟨hdeclared, _, _, rfl, rfl, hshows⟩

end Resolution

end Interdomain
