import Interdomain.Proofs.Resolution.Drawing

/-!
# Reading a graph off its text

The text of a graph is a row of lines. Some of its marks occur in no name of an AS, of a domain or
of an exchange: a line end, a quote, an underscore and a comma. They tell where a line, a name or an
attribute is over, whatever stands behind it, so a text can be cut in one way only. What is lost is
the order in which the vertices of different groups came, since the vertices are written group by
group.
-/

namespace Interdomain

/-! ## Lists in parts -/

section Parts

variable {α : Type} {mark : α} {xs ys zs ws tail : List α} {ps qs : List (List α)}

/-- A part is over where the first mark is. -/
theorem cut_inj (hx : mark ∉ xs) (hy : mark ∉ ys) (h : xs ++ mark :: zs = ys ++ mark :: ws) :
    xs = ys ∧ zs = ws := by
  induction xs generalizing ys with
  | nil =>
    cases ys with
    | nil => exact ⟨rfl, (List.cons.inj h).2⟩
    | cons y ys => exact absurd ((List.cons.inj h).1 ▸ List.mem_cons_self) hy
  | cons x xs ih =>
    cases ys with
    | nil => exact absurd ((List.cons.inj h).1 ▸ List.mem_cons_self) hx
    | cons y ys =>
      obtain ⟨rfl, htail⟩ := List.cons.inj h
      obtain ⟨rfl, hrest⟩ := ih (fun hmem ↦ hx (List.mem_cons_of_mem _ hmem))
        (fun hmem ↦ hy (List.mem_cons_of_mem _ hmem)) htail
      exact ⟨rfl, hrest⟩

/-- Parts that are closed by a mark, and more behind it, are told apart. -/
theorem closed_inj (hp : ∀ p ∈ ps, mark ∉ p) (hq : ∀ q ∈ qs, mark ∉ q)
    (h : ps.flatMap (· ++ mark :: tail) = qs.flatMap (· ++ mark :: tail)) : ps = qs := by
  induction ps generalizing qs with
  | nil =>
    cases qs with
    | nil => rfl
    | cons q qs => exact absurd h.symm (by simp)
  | cons p ps ih =>
    cases qs with
    | nil => exact absurd h (by simp)
    | cons q qs =>
      obtain ⟨hp, hps⟩ := List.forall_mem_cons.1 hp
      obtain ⟨hq, hqs⟩ := List.forall_mem_cons.1 hq
      rw [List.flatMap_cons, List.flatMap_cons, List.append_assoc, List.append_assoc] at h
      obtain ⟨rfl, hrest⟩ := cut_inj hp hq h
      rw [ih hps hqs (List.append_cancel_left hrest)]

theorem intercalate_append (hps : ps ≠ []) :
    tail.intercalate ps ++ tail = ps.flatMap (· ++ tail) := by
  induction ps with
  | nil => exact absurd rfl hps
  | cons p ps ih =>
    cases ps with
    | nil => simp
    | cons q ps =>
      rw [List.intercalate_cons_cons, List.append_assoc, ih (List.cons_ne_nil q ps)]
      rfl

/-- Parts that are separated by a mark, and more behind it, are told apart. -/
theorem intercalate_inj (hp : ∀ p ∈ ps, mark ∉ p) (hq : ∀ q ∈ qs, mark ∉ q) (hps : ps ≠ [])
    (hqs : qs ≠ []) (h : (mark :: tail).intercalate ps = (mark :: tail).intercalate qs) :
    ps = qs := by
  have happend := congrArg (· ++ mark :: tail) h
  rw [intercalate_append hps, intercalate_append hqs] at happend
  exact closed_inj hp hq happend

theorem count_between [DecidableEq α] {x : α} (hx : x ∉ xs) (hy : x ∉ ys) :
    (xs ++ zs ++ ys).count x = zs.count x := by
  rw [List.count_append, List.count_append, List.count_eq_zero.2 hx, List.count_eq_zero.2 hy,
    Nat.zero_add, Nat.add_zero]

theorem nodup_eraseDups [BEq α] [LawfulBEq α] {l : List α} : l.eraseDups.Nodup := by
  induction hlength : l.length using Nat.strong_induction_on generalizing l with
  | _ n ih =>
    cases l with
    | nil => exact .nil
    | cons x xs =>
      rw [List.eraseDups_cons, List.nodup_cons]
      refine ⟨fun hmem ↦ ?_, ih _ ?_ rfl⟩
      · simpa using List.mem_eraseDups.1 hmem
      · rw [← hlength]
        exact Nat.lt_succ_of_le (List.length_filter_le ..)

theorem map_inj_on {β : Type} {f : α → β} (hf : ∀ x ∈ xs, ∀ y ∈ ys, f x = f y → x = y)
    (h : xs.map f = ys.map f) : xs = ys := by
  induction xs generalizing ys with
  | nil => exact (List.map_eq_nil_iff.1 h.symm).symm
  | cons x xs ih =>
    cases ys with
    | nil => exact absurd h (by simp)
    | cons y ys =>
      obtain ⟨hhead, htail⟩ := List.cons.inj h
      rw [hf x List.mem_cons_self y List.mem_cons_self hhead, ih (fun x' hx' y' hy' ↦
        hf x' (List.mem_cons_of_mem x hx') y' (List.mem_cons_of_mem y hy')) htail]

end Parts

/-! ## Lines -/

/-- A text that ends with a line end and has no other. -/
def IsLine (s : String) : Prop := ∃ cs, '\n' ∉ cs ∧ s.toList = cs ++ ['\n']

theorem IsLine.append {s t : String} (hs : '\n' ∉ s.toList) (ht : IsLine t) : IsLine (s ++ t) := by
  obtain ⟨cs, hcs, ht⟩ := ht
  refine ⟨s.toList ++ cs, fun hmem ↦ ?_, ?_⟩
  · exact (List.mem_append.1 hmem).elim hs hcs
  · rw [String.toList_append, ht, List.append_assoc]

theorem join_inj {l l' : List String} (h : ∀ s ∈ l, IsLine s) (h' : ∀ s ∈ l', IsLine s)
    (heq : String.join l = String.join l') : l = l' := by
  have hlines : ∀ l : List String, (∀ s ∈ l, IsLine s) → ∃ ps : List (List Char),
      (∀ p ∈ ps, '\n' ∉ p) ∧ l.map String.toList = ps.map (· ++ ['\n']) := by
    intro l hl
    induction l with
    | nil => exact ⟨[], by simp, rfl⟩
    | cons s l ih =>
      obtain ⟨cs, hcs, hs⟩ := hl s List.mem_cons_self
      obtain ⟨ps, hps, hrest⟩ := ih fun t ht ↦ hl t (List.mem_cons_of_mem s ht)
      exact ⟨cs :: ps, List.forall_mem_cons.2 ⟨hcs, hps⟩, by rw [List.map_cons, hs, hrest]; rfl⟩
  obtain ⟨ps, hps, hl⟩ := hlines l h
  obtain ⟨qs, hqs, hl'⟩ := hlines l' h'
  have htext := String.toList_inj.2 heq
  rw [String.toList_join, String.toList_join, List.flatMap_def, List.flatMap_def, hl, hl',
    ← List.flatMap_def, ← List.flatMap_def] at htext
  rw [closed_inj hps hqs htext, ← hl'] at hl
  exact List.map_injective_iff.2 (fun _ _ ↦ String.toList_inj.1) hl

namespace Graph

/-- A group with its vertices. -/
abbrev Cluster := String × List (Vertex × Shape)

def clusters (g : Graph) : List Cluster :=
  g.groups.map fun group ↦ (group, g.members group)

/-- The lines of the cluster at a place in the list of clusters. -/
def clusterLines (c : Cluster × Nat) : List String :=
  ["    subgraph cluster_" ++ Decimal.text c.2 ++ " \x7b\n",
    "        label=\"" ++ c.1.1 ++ "\";\n"] ++ c.1.2.map vertexLine ++ ["    \x7d\n"]

def lines (g : Graph) : List String :=
  ["graph \"" ++ g.name ++ "\" \x7b\n", "    label=\"" ++ g.name ++ "\";\n",
    "    labelloc=t;\n"] ++ g.clusters.zipIdx.flatMap clusterLines ++ ["\n"] ++
    g.edges.map edgeLine ++ ["\x7d\n"]

theorem join_clusterLines (g : Graph) (group : String × Nat) :
    String.join (clusterLines ((group.1, g.members group.1), group.2)) = g.cluster group := by
  -- The texts are opened as they stand, since it takes long to look for equations between them.
  delta clusterLines cluster
  simp only [String.join_append, String.join_cons, String.join_nil, String.append_empty,
    String.append_assoc]

theorem join_flatMap {α : Type} (f : α → List String) (l : List α) :
    String.join (l.flatMap f) = String.join (l.map fun x ↦ String.join (f x)) := by
  rw [← String.toList_inj, String.toList_join, String.toList_join, List.flatMap_assoc,
    List.flatMap_map]
  simp only [String.toList_join]

theorem join_lines (g : Graph) : String.join g.lines = g.text := by
  have hclusters : String.join (g.clusters.zipIdx.flatMap clusterLines)
      = String.join (g.groups.zipIdx.map g.cluster) := by
    rw [clusters, List.zipIdx_map, List.flatMap_map, join_flatMap]
    exact congrArg String.join (List.map_congr_left fun group _ ↦ g.join_clusterLines group)
  delta lines text
  simp only [String.join_append, String.join_cons, String.join_nil, String.append_empty,
    String.append_assoc, hclusters]

/-! ## Vertices in groups -/

theorem nodup_entries (g : Graph) : g.vertices.entries.Nodup := .of_map _ g.vertices.nodup

/-- Every vertex is in the cluster of its group, and in no other. -/
theorem flatMap_clusters_perm (g : Graph) :
    (g.clusters.flatMap (·.2)).Perm g.vertices.entries := by
  rw [clusters, List.flatMap_map]
  refine (List.perm_ext_iff_of_nodup ?_ g.nodup_entries).2 fun v ↦ ?_
  · rw [List.nodup_flatMap]
    refine ⟨fun group _ ↦ g.nodup_entries.filter _, ?_⟩
    refine nodup_eraseDups.imp fun hne v hv hv' ↦ hne ?_
    have hgroup := (List.mem_filter.1 hv).2
    have hgroup' := (List.mem_filter.1 hv').2
    rw [← of_decide_eq_true hgroup, ← of_decide_eq_true hgroup']
  · rw [List.mem_flatMap]
    constructor
    · rintro ⟨group, -, hv⟩
      exact (List.mem_filter.1 hv).1
    · intro hv
      refine ⟨v.1.group, List.mem_eraseDups.2 ?_, List.mem_filter.2 ⟨hv, by simp⟩⟩
      exact List.mem_map_of_mem (List.mem_map_of_mem hv)

/-! ## Plain texts -/

/-- A text without the marks that tell where something is over. -/
def PlainText (s : String) : Prop := ∀ c ∈ ['\n', '"', '_', ','], c ∉ s.toList

instance (s : String) : Decidable (PlainText s) :=
  List.decidableBAll (· ∉ s.toList) ['\n', '"', '_', ',']

end Graph

/-- A vertex whose names are plain. -/
structure Vertex.Plain (v : Vertex) : Prop where
  group : Graph.PlainText v.group
  name : Graph.PlainText v.name

/-- An edge between such vertices with plain labels. -/
structure Edge.Plain (x : Edge) : Prop where
  a : x.a.Plain
  b : x.b.Plain
  label : ∀ text, x.label = some text → Graph.PlainText text
  aLabel : ∀ text, x.aLabel = some text → Graph.PlainText text
  bLabel : ∀ text, x.bLabel = some text → Graph.PlainText text

theorem Shape.text_inj {s s' : Shape} (h : s.text = s'.text) : s = s' := by
  cases s <;> cases s' <;> first | rfl | exact absurd h (by decide)

namespace Graph

/-! ### Vertices -/

section Lines

variable {v v' : Vertex} {shape shape' : Shape} {x x' : Edge} {s s' : String}

theorem toList_vertexId_append (v : Vertex) (s : String) :
    (vertexId v ++ s).toList
      = '"' :: (v.group.toList ++ '_' :: (v.name.toList ++ '"' :: s.toList)) := by
  rw [vertexId]
  simp

theorem vertexId_append_inj (h : v.Plain) (h' : v'.Plain)
    (heq : vertexId v ++ s = vertexId v' ++ s') : v = v' ∧ s = s' := by
  rw [← String.toList_inj, toList_vertexId_append, toList_vertexId_append] at heq
  obtain ⟨hgroup, htail⟩ :=
    cut_inj (h.group '_' (by decide)) (h'.group '_' (by decide)) (List.cons.inj heq).2
  obtain ⟨hname, hrest⟩ := cut_inj (h.name '"' (by decide)) (h'.name '"' (by decide)) htail
  obtain ⟨group, name⟩ := v
  obtain rfl := String.toList_inj.1 hgroup
  obtain rfl := String.toList_inj.1 hname
  exact ⟨rfl, String.toList_inj.1 hrest⟩

theorem vertexLine_inj (h : v.Plain) (h' : v'.Plain)
    (heq : vertexLine (v, shape) = vertexLine (v', shape')) : v = v' ∧ shape = shape' := by
  simp only [vertexLine, String.append_assoc, String.append_right_inj] at heq
  obtain ⟨rfl, hrest⟩ := vertexId_append_inj h h' heq
  simp only [String.append_right_inj, String.append_left_inj] at hrest
  exact ⟨rfl, Shape.text_inj hrest⟩

theorem not_mem_vertexId (h : v.Plain) : '\n' ∉ (vertexId v).toList := by
  have hgroup := h.group '\n' (by decide)
  have hname := h.name '\n' (by decide)
  simp [vertexId, hgroup, hname]

theorem isLine_vertexLine (h : v.Plain) : IsLine (vertexLine (v, shape)) := by
  have hname := h.name '\n' (by decide)
  have hshape : '\n' ∉ shape.text.toList := by cases shape <;> decide
  refine .append ?_ ⟨"];".toList, by decide, by decide⟩
  simp [not_mem_vertexId h, hname, hshape]

/-! ### Edges -/

/-- The attributes of an edge between brackets, if there are any. -/
def bracketed : List String → String
  | [] => ""
  | list => " [" ++ String.intercalate ", " list ++ "]"

theorem edgeLine_eq (x : Edge) :
    edgeLine x = "    " ++ vertexId x.a ++ " -- " ++ vertexId x.b ++ bracketed (attributes x)
      ++ ";\n" := by
  rfl

/-- Attributes without commas are told apart. -/
theorem bracketed_inj {l l' : List String} (h : ∀ s ∈ l, ',' ∉ s.toList)
    (h' : ∀ s ∈ l', ',' ∉ s.toList) (heq : bracketed l = bracketed l') : l = l' := by
  cases l with
  | nil =>
    cases l' with
    | nil => rfl
    | cons s' l' => exact absurd heq (by simp [bracketed, ← String.toList_inj])
  | cons s l =>
    cases l' with
    | nil => exact absurd heq (by simp [bracketed, ← String.toList_inj])
    | cons s' l' =>
      simp only [bracketed, String.append_left_inj, String.append_right_inj] at heq
      rw [← String.toList_inj, String.toList_intercalate, String.toList_intercalate,
        (by decide : ", ".toList = [',', ' '])] at heq
      have hlists := intercalate_inj (by simpa using h) (by simpa using h') (by simp) (by simp) heq
      exact List.map_injective_iff.2 (fun _ _ ↦ String.toList_inj.1) hlists

theorem not_mem_bracketed {l : List String} (h : ∀ s ∈ l, '\n' ∉ s.toList) :
    '\n' ∉ (bracketed l).toList := by
  cases l with
  | nil => exact List.not_mem_nil
  | cons s l =>
    have hinside : '\n' ∉ (String.intercalate ", " (s :: l)).toList := by
      rw [String.toList_intercalate]
      intro hmem
      have happend := List.mem_append_left ", ".toList hmem
      rw [intercalate_append (by simp), List.mem_flatMap] at happend
      obtain ⟨cs, hcs, hmem⟩ := happend
      obtain ⟨t, ht, rfl⟩ := List.mem_map.1 hcs
      exact (List.mem_append.1 hmem).elim (h t ht) (by decide)
    simp only [bracketed, String.toList_append, List.mem_append, not_or]
    exact ⟨⟨by decide, hinside⟩, by decide⟩

/-- The attributes with a first letter. Those of the four kinds begin differently. -/
def startingWith (c : Char) (l : List String) : List String := l.filter (·.toList.head? = some c)

theorem startingWith_append (c : Char) (l l' : List String) :
    startingWith c (l ++ l') = startingWith c l ++ startingWith c l' := List.filter_append ..

theorem startingWith_textAttribute {c c' : Char} {cs : List Char} {name : String}
    (hname : name.toList = c' :: cs) (value : Option String) :
    startingWith c (textAttribute name value)
      = if c' = c then textAttribute name value else [] := by
  cases value with
  | none =>
    rw [textAttribute, ite_self]
    rfl
  | some text => simp [startingWith, textAttribute, hname, List.filter_cons]

theorem startingWith_styleAttribute (c : Char) (style : EdgeStyle) :
    startingWith c (styleAttribute style) = if 's' = c then styleAttribute style else [] := by
  cases style with
  | solid =>
    rw [styleAttribute, ite_self]
    rfl
  | bold => simp [startingWith, styleAttribute, List.filter_cons]
  | dashed => simp [startingWith, styleAttribute, List.filter_cons]

theorem textAttribute_inj (name : String) {value value' : Option String}
    (h : textAttribute name value = textAttribute name value') : value = value' := by
  cases value <;> cases value' <;> simp_all [textAttribute]

theorem styleAttribute_inj {style style' : EdgeStyle}
    (h : styleAttribute style = styleAttribute style') : style = style' := by
  cases style <;> cases style' <;> first | rfl | exact absurd h (by decide)

theorem attributes_inj (h : attributes x = attributes x') :
    x.label = x'.label ∧ x.aLabel = x'.aLabel ∧ x.bLabel = x'.bLabel ∧ x.style = x'.style := by
  have hlabel : "label".toList = 'l' :: "abel".toList := by decide
  have htail : "taillabel".toList = 't' :: "aillabel".toList := by decide
  have hhead : "headlabel".toList = 'h' :: "eadlabel".toList := by decide
  have hstarting : ∀ c, startingWith c (attributes x) = startingWith c (attributes x') :=
    fun c ↦ congrArg (startingWith c) h
  simp only [attributes, startingWith_append, startingWith_textAttribute hlabel,
    startingWith_textAttribute htail, startingWith_textAttribute hhead,
    startingWith_styleAttribute] at hstarting
  refine ⟨textAttribute_inj "label" ?_, textAttribute_inj "taillabel" ?_,
    textAttribute_inj "headlabel" ?_, styleAttribute_inj ?_⟩
  · simpa using hstarting 'l'
  · simpa using hstarting 't'
  · simpa using hstarting 'h'
  · simpa using hstarting 's'

theorem not_mem_textAttribute {name : String} {value : Option String} {c : Char}
    (hname : c ∉ (name ++ "=\"").toList) (hquote : c ∉ "\"".toList)
    (hvalue : ∀ text, value = some text → c ∉ text.toList) :
    ∀ s ∈ textAttribute name value, c ∉ s.toList := by
  intro s hs
  cases value with
  | none => exact absurd hs List.not_mem_nil
  | some text =>
    obtain rfl := List.mem_singleton.1 hs
    have htext := hvalue text rfl
    simp only [String.toList_append, List.mem_append, not_or] at hname ⊢
    exact ⟨⟨hname, htext⟩, hquote⟩

theorem not_mem_attributes (h : x.Plain) {c : Char} (hc : c ∈ ['\n', ',']) :
    ∀ s ∈ attributes x, c ∉ s.toList := by
  have hcases : c = '\n' ∨ c = ',' := by simpa using hc
  have hmark : c ∈ ['\n', '"', '_', ','] := by
    rcases hcases with rfl | rfl <;> decide
  have hquote : c ∉ "\"".toList := by
    rcases hcases with rfl | rfl <;> decide
  have hnames : ∀ name ∈ ["label", "taillabel", "headlabel"], c ∉ (name ++ "=\"").toList := by
    rcases hcases with rfl | rfl <;> decide
  have hstyle : ∀ s ∈ styleAttribute x.style, c ∉ s.toList := by
    rcases hcases with rfl | rfl <;> cases x.style <;> decide
  simp only [attributes, List.forall_mem_append]
  refine ⟨⟨⟨not_mem_textAttribute (hnames _ (by simp)) hquote fun text htext ↦ ?_,
    not_mem_textAttribute (hnames _ (by simp)) hquote fun text htext ↦ ?_⟩,
    not_mem_textAttribute (hnames _ (by simp)) hquote fun text htext ↦ ?_⟩, hstyle⟩
  · exact h.label text htext c hmark
  · exact h.aLabel text htext c hmark
  · exact h.bLabel text htext c hmark

theorem edgeLine_inj (h : x.Plain) (h' : x'.Plain) (heq : edgeLine x = edgeLine x') : x = x' := by
  simp only [edgeLine_eq, String.append_assoc, String.append_right_inj] at heq
  obtain ⟨ha, heq⟩ := vertexId_append_inj h.a h'.a heq
  rw [String.append_right_inj] at heq
  obtain ⟨hb, heq⟩ := vertexId_append_inj h.b h'.b heq
  have hattributes := bracketed_inj (not_mem_attributes h (by decide))
    (not_mem_attributes h' (by decide)) ((String.append_left_inj _).1 heq)
  obtain ⟨hlabel, haLabel, hbLabel, hstyle⟩ := attributes_inj hattributes
  obtain ⟨a, b, label, aLabel, bLabel, style⟩ := x
  obtain rfl : a = x'.a := ha
  obtain rfl : b = x'.b := hb
  obtain rfl : label = x'.label := hlabel
  obtain rfl : aLabel = x'.aLabel := haLabel
  obtain rfl : bLabel = x'.bLabel := hbLabel
  obtain rfl : style = x'.style := hstyle
  rfl

theorem isLine_edgeLine (h : x.Plain) : IsLine (edgeLine x) := by
  have hattributes := not_mem_bracketed (not_mem_attributes h (by decide))
  rw [edgeLine_eq]
  refine .append ?_ ⟨";".toList, by decide, by decide⟩
  simp [not_mem_vertexId h.a, not_mem_vertexId h.b, hattributes]

end Lines

/-! ### Clusters -/

section Clusters

variable {c c' : Cluster × Nat}

/-- A group with its vertices, and all their names are plain. -/
structure PlainCluster (c : Cluster) : Prop where
  group : PlainText c.1
  vertices : ∀ v ∈ c.2, v.1.Plain

/-- The lines of a cluster before the last one. -/
def clusterBody (c : Cluster × Nat) : List String :=
  ["    subgraph cluster_" ++ Decimal.text c.2 ++ " \x7b\n",
    "        label=\"" ++ c.1.1 ++ "\";\n"] ++ c.1.2.map vertexLine

theorem isLine_clusterLines (h : PlainCluster c.1) : ∀ s ∈ clusterLines c, IsLine s := by
  have hgroup := h.group '\n' (by decide)
  have hnumber : '\n' ∉ Decimal.digits c.2 := fun hmem ↦
    absurd (Decimal.isDigit_of_mem_digits c.2 '\n' hmem) (by decide)
  simp only [clusterLines, List.forall_mem_append, List.forall_mem_cons, List.forall_mem_map]
  refine ⟨⟨⟨.append ?_ ⟨" \x7b".toList, by decide, by decide⟩,
    .append ?_ ⟨"\";".toList, by decide, by decide⟩, by simp⟩,
    fun v hv ↦ isLine_vertexLine (h.vertices v hv)⟩, ⟨"    \x7d".toList, by decide, by decide⟩,
    by simp⟩
  · simp [Decimal.text, hnumber]
  · simp [hgroup]

/-- Only its last line closes a cluster. -/
theorem not_mem_clusterBody (c : Cluster × Nat) :
    "    \x7d\n" ∉ clusterBody c ∧ "\n" ∉ clusterLines c := by
  simp [clusterBody, clusterLines, vertexLine, ← String.toList_inj]

theorem clusterBody_inj (h : PlainCluster c.1) (h' : PlainCluster c'.1)
    (heq : clusterBody c = clusterBody c') : c = c' := by
  obtain ⟨⟨group, vertices⟩, number⟩ := c
  obtain ⟨⟨group', vertices'⟩, number'⟩ := c'
  simp only [clusterBody, List.cons_append, List.nil_append, List.cons.injEq,
    String.append_left_inj, String.append_right_inj] at heq
  obtain ⟨hnumber, rfl, hvertices⟩ := heq
  obtain rfl := Decimal.text_inj hnumber
  rw [map_inj_on (fun v hv v' hv' hline ↦ ?_) hvertices]
  obtain ⟨hvertex, hshape⟩ := vertexLine_inj (h.vertices v hv) (h'.vertices v' hv') hline
  exact Prod.ext hvertex hshape

end Clusters

/-! ## Plain graphs -/

/-- A graph whose names and labels are all plain. -/
structure Plain (g : Graph) : Prop where
  name : PlainText g.name
  vertices : ∀ v ∈ g.vertices.keys, v.Plain
  edges : ∀ x ∈ g.edges, x.Plain

namespace Plain

variable {g g' : Graph}

theorem clusters (h : g.Plain) : ∀ c ∈ g.clusters, PlainCluster c := by
  intro c hc
  obtain ⟨group, hgroup, rfl⟩ := List.mem_map.1 hc
  obtain ⟨v, hv, rfl⟩ := List.mem_map.1 (List.mem_eraseDups.1 hgroup)
  refine ⟨(h.vertices v hv).group, fun v' hv' ↦ h.vertices v'.1 ?_⟩
  exact List.mem_map_of_mem (List.mem_filter.1 hv').1

theorem isLine_lines (h : g.Plain) : ∀ s ∈ g.lines, IsLine s := by
  have hname := h.name '\n' (by decide)
  have hclusters : ∀ s ∈ g.clusters.zipIdx.flatMap clusterLines, IsLine s := by
    intro s hs
    obtain ⟨c, hc, hs⟩ := List.mem_flatMap.1 hs
    exact isLine_clusterLines (h.clusters c.1 (List.fst_mem_of_mem_zipIdx hc)) s hs
  simp only [lines, List.forall_mem_append, List.forall_mem_cons, List.forall_mem_map]
  refine ⟨⟨⟨⟨⟨.append ?_ ⟨"\" \x7b".toList, by decide, by decide⟩,
    .append ?_ ⟨"\";".toList, by decide, by decide⟩,
    ⟨"    labelloc=t;".toList, by decide, by decide⟩, by simp⟩, hclusters⟩,
    ⟨[], by decide, by decide⟩, by simp⟩, fun x hx ↦ isLine_edgeLine (h.edges x hx)⟩,
    ⟨"\x7d".toList, by decide, by decide⟩, by simp⟩
  · simp [hname]
  · simp [hname]

theorem clusters_eq (h : g.Plain) (h' : g'.Plain)
    (hlines : g.clusters.zipIdx.flatMap clusterLines = g'.clusters.zipIdx.flatMap clusterLines) :
    g.clusters = g'.clusters := by
  have hbodies : ∀ l : List (Cluster × Nat), l.flatMap clusterLines
      = (l.map clusterBody).flatMap (· ++ ["    \x7d\n"]) := by
    intro l
    rw [List.flatMap_map]
    rfl
  have hopen : ∀ l : List (Cluster × Nat), ∀ p ∈ l.map clusterBody, "    \x7d\n" ∉ p := fun l ↦
    List.forall_mem_map.2 fun c _ ↦ (not_mem_clusterBody c).1
  rw [hbodies, hbodies] at hlines
  have hnumbered := map_inj_on (fun c hc c' hc' ↦ clusterBody_inj
    (h.clusters c.1 (List.fst_mem_of_mem_zipIdx hc))
    (h'.clusters c'.1 (List.fst_mem_of_mem_zipIdx hc'))) (closed_inj (hopen _) (hopen _) hlines)
  rw [← List.zipIdx_map_fst 0 g.clusters, hnumbered, List.zipIdx_map_fst]

/-- The text of a graph tells its edges, its groups and the vertices in each of them. -/
theorem drawing_of_text_eq (h : g.Plain) (h' : g'.Plain) (hname : g.name = g'.name)
    (htext : g.text = g'.text) : g.edges = g'.edges ∧ g.clusters = g'.clusters := by
  rw [← g.join_lines, ← g'.join_lines] at htext
  have hlines := join_inj h.isLine_lines h'.isLine_lines htext
  -- The first empty line stands behind the clusters.
  have hblank : ∀ g : Graph, "\n" ∉ g.clusters.zipIdx.flatMap clusterLines := by
    intro g hmem
    obtain ⟨c, -, hc⟩ := List.mem_flatMap.1 hmem
    exact (not_mem_clusterBody c).2 hc
  simp only [lines, hname, List.append_assoc] at hlines
  obtain ⟨hclusters, hrest⟩ := cut_inj (hblank g) (hblank g') (List.append_cancel_left hlines)
  exact ⟨map_inj_on (fun x hx y hy ↦ edgeLine_inj (h.edges x hx) (h'.edges y hy))
    (List.append_cancel_right hrest), h.clusters_eq h' hclusters⟩

theorem count_vertexLine (h : g.Plain) {v : Vertex × Shape} (hv : v ∈ g.vertices.entries) :
    g.lines.count (vertexLine v) = 1 := by
  have hplain : ∀ v ∈ g.vertices.entries, v.1.Plain := fun v hv ↦
    h.vertices v.1 (List.mem_map_of_mem hv)
  -- No other line begins like that of a vertex.
  have hcluster : ∀ c : Cluster × Nat, (clusterLines c).count (vertexLine v)
      = (c.1.2.map vertexLine).count (vertexLine v) := by
    intro c
    refine count_between ?_ ?_
    · simp [vertexLine, vertexId, ← String.toList_inj]
    · simp [vertexLine, ← String.toList_inj]
  have hlines : g.lines.count (vertexLine v)
      = (g.clusters.zipIdx.flatMap clusterLines).count (vertexLine v) := by
    rw [lines, List.append_assoc _ ["\n"], List.append_assoc _ (["\n"] ++ _)]
    refine count_between ?_ ?_
    · simp [vertexLine, ← String.toList_inj]
    · simp [vertexLine, edgeLine_eq, vertexId, ← String.toList_inj]
  have hclusters : (g.clusters.zipIdx.flatMap clusterLines).count (vertexLine v)
      = ((g.clusters.flatMap (·.2)).map vertexLine).count (vertexLine v) := by
    rw [List.map_flatMap, List.count_flatMap, List.count_flatMap]
    conv_rhs => rw [← List.zipIdx_map_fst 0 g.clusters]
    rw [List.map_map]
    exact congrArg List.sum (List.map_congr_left fun c _ ↦ hcluster c)
  rw [hlines, hclusters, (g.flatMap_clusters_perm.map vertexLine).count_eq]
  refine List.count_eq_one_of_mem (g.nodup_entries.map_on fun v hv v' hv' heq ↦ ?_)
    (List.mem_map_of_mem hv)
  obtain ⟨hvertex, hshape⟩ := vertexLine_inj (hplain v hv) (hplain v' hv') heq
  exact Prod.ext hvertex hshape

end Plain

/-! ## Graphs of links -/

theorem name_foldl_addLink (e : Emulation) (ds : List (LinkKey × UInt32)) (g : Graph) :
    (ds.foldl (addLink e) g).name = g.name := by
  induction ds generalizing g with
  | nil => rfl
  | cons d ds ih => exact ih (addLink e g d)

theorem plainText_digits {s : String} (hs : PlainText s) (n : Nat) :
    PlainText (s ++ Decimal.text n) := by
  intro c hc hmem
  rw [String.toList_append, List.mem_append] at hmem
  rcases hmem with hmem | hmem
  · exact hs c hc hmem
  · rw [Decimal.text, String.toList_ofList] at hmem
    have hdigit := Decimal.isDigit_of_mem_digits n c hmem
    simp only [List.mem_cons, List.not_mem_nil, or_false] at hc
    rcases hc with rfl | rfl | rfl | rfl <;> exact absurd hdigit (by decide)

theorem plain_vertexOf (ia : IsdAsn) : (vertexOf ia).Plain :=
  ⟨plainText_digits (by decide) _, plainText_digits (by decide) _⟩

theorem plain_edgeOf (k : LinkKey) : (edgeOf k).Plain := by
  have hlabel : ∀ text, (edgeOf k).label = some text → PlainText text := by
    rw [edgeOf_label]
    cases k.medium with
    | crossConnect => exact fun _ htext ↦ absurd htext (by simp [mediumLabel])
    | exchange id =>
      rintro _ ⟨⟩
      exact plainText_digits (by decide) _
  refine ⟨edgeOf_a k ▸ plain_vertexOf _, edgeOf_b k ▸ plain_vertexOf _, hlabel, ?_, ?_⟩
  · rw [edgeOf]
    cases k.ends.linkType <;> rintro _ ⟨⟩
    decide
  · rw [edgeOf]
    cases k.ends.linkType <;> rintro _ ⟨⟩
    decide

theorem plain_ofLinks (links : LinkRegistry) (e : Emulation) : (ofLinks links e).Plain := by
  refine ⟨?_, fun v hv ↦ ?_, fun x hx ↦ ?_⟩
  · rw [ofLinks, name_foldl_addLink]
    decide
  · rw [ofLinks, vertices_foldl_addLink, place, Roster.mem_keys_foldl_insertNew] at hv
    obtain ⟨ia, -, rfl⟩ := List.mem_map.1 (hv.resolve_left List.not_mem_nil)
    exact plain_vertexOf ia
  · rw [ofLinks, edges_foldl_addLink, List.nil_append] at hx
    obtain ⟨d, -, rfl⟩ := List.mem_map.1 hx
    exact plain_edgeOf d.1

/-- **The text of a graph of links determines the graph.** The text consists of lines. Behind the
title there is a cluster for every group, numbered from zero in the order in which the groups first
came, with the vertices of the group in order; so each vertex has one line, in the cluster of its
group. Then there is a line for every edge, in order. Two graphs of links with the same text have
the same edges and the same groups with the same vertices, all in the same order. -/
theorem text_determines_graph (links : LinkRegistry) (e : Emulation) :
    let g := ofLinks links e
    g.text = String.join g.lines ∧ (∀ s ∈ g.lines, IsLine s) ∧
    g.lines = ["graph \"Scion Connections\" \x7b\n", "    label=\"Scion Connections\";\n",
      "    labelloc=t;\n"] ++ g.clusters.zipIdx.flatMap clusterLines ++ ["\n"] ++
      g.edges.map edgeLine ++ ["\x7d\n"] ∧
    g.clusters.map (·.1) = (g.vertices.keys.map (·.group)).eraseDups ∧
    (g.clusters.map (·.1)).Nodup ∧
    (∀ c ∈ g.clusters, c.2 = g.vertices.entries.filter (·.1.group = c.1)) ∧
    (g.clusters.flatMap (·.2)).Perm g.vertices.entries ∧
    (∀ v ∈ g.vertices.entries, g.lines.count (vertexLine v) = 1) ∧
    ∀ links' e', g.text = (ofLinks links' e').text →
      g.edges = (ofLinks links' e').edges ∧ g.clusters = (ofLinks links' e').clusters := by
  intro g
  have hplain : g.Plain := plain_ofLinks links e
  have hname : ∀ links e, (ofLinks links e).name = "Scion Connections" := fun links e ↦
    name_foldl_addLink e links.declarations _
  have hgroups : g.clusters.map (·.1) = g.groups := by
    rw [clusters, List.map_map]
    exact List.map_id g.groups
  refine ⟨g.join_lines.symm, hplain.isLine_lines, ?_, hgroups, ?_, fun c hc ↦ ?_,
    g.flatMap_clusters_perm, fun v hv ↦ hplain.count_vertexLine hv, fun links' e' htext ↦ ?_⟩
  · rw [lines, hname]
    rfl
  · rw [hgroups]
    exact nodup_eraseDups
  · obtain ⟨group, -, rfl⟩ := List.mem_map.1 hc
    rfl
  · exact hplain.drawing_of_text_eq (plain_ofLinks links' e')
      ((hname links e).trans (hname links' e').symm) htext

/-! ### Links of two domains -/

/-- A link between two domains and two more back over an exchange, each of them from a router that
may be named. -/
def throughDomains (router : Option String) : LinkRegistry where
  crossConnects := [(⟨⟨1, 110⟩, ⟨2, 210⟩, router, none, .transit⟩, 1)]
  exchangeLinks := [(7, ⟨⟨2, 210⟩, ⟨1, 120⟩, router, none, .peer⟩, 2)]

/-- The text does not tell whether a router was named, and nor do the edges and the clusters. The
vertices of the first domain are together although one of the second domain came between them. -/
theorem throughDomains_text :
    throughDomains none ≠ throughDomains (some "br1") ∧
      (ofLinks (throughDomains none) {}).edges
        = (ofLinks (throughDomains (some "br1")) {}).edges ∧
      (ofLinks (throughDomains none) {}).clusters
        = (ofLinks (throughDomains (some "br1")) {}).clusters ∧
      (ofLinks (throughDomains none) {}).clusters =
        [("ISD1", [(⟨"ISD1", "AS110"⟩, .circle), (⟨"ISD1", "AS120"⟩, .circle)]),
          ("ISD2", [(⟨"ISD2", "AS210"⟩, .circle)])] ∧
      (ofLinks (throughDomains none) {}).lines.count
        "        \"ISD1_AS120\" [label=\"AS120\", shape=circle];\n" = 1 := by
  obtain ⟨-, -, -, -, -, -, -, hcount, hsame⟩ := text_determines_graph (throughDomains none) {}
  obtain ⟨hedges, hclusters⟩ := hsame (throughDomains (some "br1")) {} rfl
  exact ⟨by decide, hedges, hclusters, by decide +kernel,
    hcount (⟨"ISD1", "AS120"⟩, .circle) (by decide +kernel)⟩

end Graph

end Interdomain
