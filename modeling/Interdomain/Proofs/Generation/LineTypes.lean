import Interdomain.Proofs.Generation.Configured
import Interdomain.Proofs.Generation.Interfaces

/-!
# Lines in the static information

The static information of an AS is put together from the list of the resolved links, by the number
of the AS, while the interfaces are in the maps of its routers. An id that was given to two ends of
the AS would hide one of them here and not there. No AS gives an id twice, whatever its routers,
domains and links are, so the static information has exactly the interfaces of the AS, each with the
kind of line that was declared.
-/

namespace Interdomain

open Resolution (endsOf)

/-! ## What an AS asked for -/

section Asked

variable {σ : Type} [WordSource σ] {c : Config} {options : ResolverOptions} {source : σ}
  {g : Generation} {a : AutonomousSystem}

theorem staticInfo_of_generate (h : generate c options source = .ok g) {d : AsDecl}
    (hd : d ∈ c.ases) (ha : g.emulation.as? d.asn = some a) : a.staticInfo = d.staticInfo := by
  obtain ⟨exchanges, loopbacks, s, hbuild, houtline⟩ := exists_site_of_generate h hd ha
  obtain ⟨_, _, _, _, _, _, -, -, -, -, rfl⟩ := AsDecl.stages_of_build hbuild
  exact (congrArg AutonomousSystem.staticInfo houtline).symm

end Asked

/-! ## Where a link was declared -/

/-- A resolved link repeats a link of a configuration. -/
structure LinkDecl.Declares (y : LinkDecl) (l : ResolvedLink) : Prop where
  a : l.a.ia = y.a
  b : l.b.ia = y.b
  linkType : l.linkType = y.linkType
  medium : y.medium? = some l.medium

theorem exists_declares_of_generate {σ : Type} [WordSource σ] {c : Config}
    {options : ResolverOptions} {source : σ} {g : Generation}
    (h : generate c options source = .ok g) {l : ResolvedLink} (hl : l ∈ g.resolved) :
    ∃ y ∈ c.links, y.Declares l := by
  obtain ⟨-, settled, -, hlinks, -, hresolve, -⟩ := phases_of_generate h
  have hdeclares := c.declareLinks_yields.good_of_ok hlinks
  obtain ⟨p, hplan, hcommitted⟩ := Resolution.plan_of_resolve hresolve
  have hplanned := Resolution.forall₂_repetitions
    (mapM_eq_ok_iff.1 (Resolution.plan_eq_ok_iff.1 hplan).1)
  obtain ⟨d, hd, hrepeats⟩ := exists_of_mem_of_forall₂
    (Resolution.forall₂_repeats hplanned hcommitted.carried).flip hl
  have hd := (Resolution.mem_repeated_iff hdeclares.declared).1 hd
  obtain ⟨y, hy, hdeclaration⟩ := ((hdeclares.links d).1 hd).resolve_left List.not_mem_nil
  obtain ⟨medium, hmedium, rfl⟩ := Option.map_eq_some_iff.1 hdeclaration
  exact ⟨y, hy, hrepeats.a, hrepeats.b, hrepeats.linkType, hmedium.trans (by rw [hrepeats.medium])⟩

/-- The name of the line behind an interface whose link is of a kind. -/
def MediumKind.line : MediumKind → String
  | crossConnect => "direct"
  | exchange => "multihop"

theorem LinkDecl.Declares.line {y : LinkDecl} {l : ResolvedLink} (h : y.Declares l) :
    (LineType.ofMedium l.medium).text = y.kind.line := by
  have hmedium := h.medium
  rw [LinkDecl.medium?] at hmedium
  split at hmedium
  case h_1 hkind _ =>
    rw [hkind, ← Option.some.inj hmedium]
    rfl
  case h_2 hkind _ =>
    rw [hkind, ← Option.some.inj hmedium]
    rfl
  case h_3 => exact absurd hmedium (by simp)
  case h_4 => exact absurd hmedium (by simp)

/-! ## The lines of the ends -/

namespace StaticInfo

theorem map_fst_endsOn (asn : Asn) (ls : List ResolvedLink) :
    (endsOn asn ls).map (·.1) = ((Resolution.endsOf ls).filter (·.ia.asn = asn)).map (·.id) := by
  rw [← flatMap_endsOn, endsOn, List.map_flatMap]
  simp only [List.map_map]
  rfl

theorem mem_endsOn_iff {asn : Asn} {ls : List ResolvedLink} {id : Nat} {t : LineType} :
    (id, t) ∈ endsOn asn ls ↔
      ∃ l ∈ ls, ∃ x ∈ l.ends, x.ia.asn = asn ∧ x.id = id ∧ .ofMedium l.medium = t := by
  simp only [endsOn, List.mem_flatMap, List.mem_map, List.mem_filter, decide_eq_true_eq,
    Prod.mk.injEq, and_assoc]
  rfl

end StaticInfo

namespace Generation.Linked

variable {c : Config} {g : Generation} {asn : Asn} {a : AutonomousSystem}

theorem routerAt_of_mem (ha : g.emulation.as? asn = some a) {x : String × Router}
    (hx : x ∈ a.routers.entries) : g.emulation.routerAt (asn, x.1) = some x.2 := by
  rw [Emulation.routerAt, Emulation.router?_eq, ha, Option.bind_some]
  exact a.routers.get?_eq_some_iff.2 hx

theorem nodup_attached (h : g.Linked c) (ha : g.emulation.as? asn = some a) :
    (a.routers.entries.flatMap (·.2.attached.keys)).Nodup := by
  rw [List.nodup_flatMap]
  constructor
  · intro x _
    exact x.2.attached.nodup_keys
  · have hnames : a.routers.entries.Pairwise fun x y ↦ x.1 ≠ y.1 :=
      List.pairwise_map.1 a.routers.nodup
    refine hnames.imp_of_mem fun {x y} hx hy hne id hid hid' ↦ ?_
    exact hne (congrArg Prod.snd
      (h.port_unique (routerAt_of_mem ha hx) (routerAt_of_mem ha hy) rfl hid hid'))

theorem mem_attached_as_iff (h : g.Linked c) (ha : g.emulation.as? asn = some a) {id : Nat} :
    id ∈ a.routers.entries.flatMap (·.2.attached.keys) ↔
      ∃ x ∈ endsOf g.resolved, x.ia.asn = asn ∧ x.id = id := by
  rw [List.mem_flatMap]
  constructor
  · rintro ⟨y, hy, hid⟩
    obtain ⟨x, hx, hport, hxid⟩ := (h.mem_attached_iff (routerAt_of_mem ha hy)).1 hid
    exact ⟨x, hx, congrArg Prod.fst hport, hxid⟩
  · rintro ⟨x, hx, rfl, hxid⟩
    obtain ⟨r, hr⟩ := h.found x hx
    have hname : a.routers.get? x.router = some r := by
      rwa [Emulation.routerAt, Emulation.router?_eq, ResolvedEnd.port, ha, Option.bind_some] at hr
    exact ⟨(x.router, r), a.routers.get?_eq_some_iff.1 hname,
      (h.mem_attached_iff hr).2 ⟨x, hx, rfl, hxid⟩⟩

end Generation.Linked

/-! ## The static information -/

/-- Static information that has the interfaces of an AS, each with the line of its link. -/
structure StaticInfo.Tells (info : StaticInfo) (c : Config) (g : Generation)
    (a : AutonomousSystem) : Prop where
  /-- Its ids are those that are attached to the routers, each of them once. -/
  keys : info.lineTypes.keys.Perm (a.routers.entries.flatMap (·.2.attached.keys))
  /-- What is attached to a router is the end of a link there. -/
  attached : ∀ name r, a.routers.get? name = some r → ∀ id ∈ r.attached.keys,
    ∃ l ∈ g.resolved, ∃ x ∈ l.ends, x.port = (a.asn, name) ∧ x.id = id
  /-- The line of an end is that of the kind with which its link was declared. -/
  lines : ∀ l ∈ g.resolved, ∀ x ∈ l.ends, x.ia.asn = a.asn →
    ∃ y ∈ c.links, y.Declares l ∧
      (info.lineTypes.get? x.id).map LineType.text = some y.kind.line

/-- What the document of static information tells of an AS. -/
structure Value.TellsLines (v : Value) (c : Config) (g : Generation) (a : AutonomousSystem) :
    Prop where
  /-- Its names are the ids that are attached to the routers, each of them once. -/
  names : ∃ ids : List Nat, v.namesAt? ["LinkType"] = some (ids.map Decimal.text) ∧
    ids.Perm (a.routers.entries.flatMap (·.2.attached.keys))
  /-- The line of an end is that of the kind with which its link was declared. -/
  lines : ∀ l ∈ g.resolved, ∀ x ∈ l.ends, x.ia.asn = a.asn →
    ∃ y ∈ c.links, y.Declares l ∧
      v.at? ["LinkType", Decimal.text x.id] = some (.text y.kind.line)

namespace StaticInfo.Tells

variable {info : StaticInfo} {c : Config} {g : Generation} {a : AutonomousSystem}

theorem tellsLines (h : info.Tells c g a) : info.toValue.TellsLines c g a where
  names := ⟨_, info.namesAt?_lineTypes, h.keys⟩
  lines l hl x hx hasn := by
    obtain ⟨y, hy, hdeclares, hline⟩ := h.lines l hl x hx hasn
    obtain ⟨t, ht, htext⟩ := Option.map_eq_some_iff.1 hline
    exact ⟨y, hy, hdeclares, htext ▸ at?_lineType ht⟩

theorem fits (h : info.Tells c g a) (hlinked : g.Linked c)
    (ha : g.emulation.as? a.asn = some a) : info.Fits := by
  intro id hid
  obtain ⟨e, he, hid⟩ := List.mem_flatMap.1 (h.keys.mem_iff.1 hid)
  obtain ⟨d, hd⟩ := e.2.attached.mem_keys_iff.1 hid
  have hrouter := Generation.Linked.routerAt_of_mem ha he
  refine (hlinked.fits ((a.asn, e.1), id) d ?_).1
  rw [Emulation.descriptorAt, hrouter, Option.bind_some]
  exact hd

end StaticInfo.Tells

section Generated

variable {σ : Type} [WordSource σ] {c : Config} {options : ResolverOptions} {source : σ}
  {g : Generation} {a : AutonomousSystem}

/-- What is put together from the resolved links has the interfaces of the AS. -/
theorem tells_endsOn (h : generate c options source = .ok g) (ha : g.emulation.as? a.asn = some a)
    (note : Option String) :
    StaticInfo.Tells ⟨.ofList (StaticInfo.endsOn a.asn g.resolved), note⟩ c g a := by
  have hlinked := Generation.linked_of_generate h
  have hnodup : ((StaticInfo.endsOn a.asn g.resolved).map (·.1)).Nodup := by
    rw [StaticInfo.map_fst_endsOn]
    exact hlinked.nodup_ids a.asn
  constructor
  case keys =>
    rw [List.perm_ext_iff_of_nodup (SortedMap.nodup_keys _) (hlinked.nodup_attached ha)]
    intro id
    rw [SortedMap.mem_keys_ofList hnodup, StaticInfo.map_fst_endsOn,
      hlinked.mem_attached_as_iff ha]
    simp only [List.mem_map, List.mem_filter, decide_eq_true_eq, and_assoc]
  case attached =>
    intro name r hr id hid
    have hr' := Generation.Linked.routerAt_of_mem ha (a.routers.get?_eq_some_iff.1 hr)
    obtain ⟨x, hx, hport, hxid⟩ := (hlinked.mem_attached_iff hr').1 hid
    obtain ⟨l, hl, hx⟩ := List.mem_flatMap.1 hx
    exact ⟨l, hl, x, hx, hport, hxid⟩
  case lines =>
    intro l hl x hx hasn
    obtain ⟨y, hy, hdeclares⟩ := exists_declares_of_generate h hl
    have hline := (SortedMap.get?_ofList hnodup).2
      (StaticInfo.mem_endsOn_iff.2 ⟨l, hl, x, hx, hasn, rfl, rfl⟩)
    exact ⟨y, hy, hdeclares, by rw [hline, Option.map_some, hdeclares.line]⟩

/-- The static information of an AS is written in each of its domains. -/
theorem mem_artifacts_of_staticInformation? (h : generate c options source = .ok g) {d : AsDecl}
    (hd : d ∈ c.ases) (ha : g.emulation.as? d.asn = some a) {info : StaticInfo}
    (hinfo : a.staticInformation? g.resolved = some info) {m : MembershipDecl} (hm : m ∈ d.isds) :
    ⟨memberPath ⟨m.isd, d.asn⟩ StaticInfo.fileName, info.text ++ "\n"⟩ ∈ g.artifacts := by
  have hlinked := Generation.linked_of_generate h
  obtain ⟨a', ha', houtlines⟩ := hlinked.declared d hd
  obtain rfl := Option.some.inj (ha'.symm.trans ha)
  obtain ⟨-, -, -, -, -, -, hrender⟩ := phases_of_generate h
  have hmember : (a', m.isd) ∈ g.emulation.memberships :=
    hlinked.mem_memberships_iff.2 ⟨d, hd, m, hm, ha, rfl⟩
  obtain ⟨files, hfiles⟩ := exists_files_of_render hrender hmember
  obtain ⟨t, keys, policies, -, -, -, hsplit⟩ := AutonomousSystem.files_eq_ok_iff.1 hfiles
  refine (mem_artifacts_memberPath_iff hrender).2 ⟨a', files, hmember, houtlines.asn, hfiles, ?_⟩
  simp [hsplit, AutonomousSystem.otherFiles, AutonomousSystem.staticInfoFiles, hinfo]

/-- **Lines and interfaces.** In the network that generation makes, an AS that was declared with
static information gets a file in each of its domains. The file is read back as a document, which
tells the lines of all interfaces that are attached to the routers of the AS, and of no others: a
direct one where the link was declared over a cross-connect, and one with several hops where it was
declared over an exchange. -/
theorem generate_tells_lines (h : generate c options source = .ok g) {d : AsDecl}
    (hd : d ∈ c.ases) (hwanted : d.staticInfo = true) :
    ∃ a info v, g.emulation.as? d.asn = some a ∧ a.staticInformation? g.resolved = some info ∧
      (∀ m ∈ d.isds, ⟨memberPath ⟨m.isd, d.asn⟩ StaticInfo.fileName, info.text ++ "\n"⟩
        ∈ g.artifacts) ∧
      info.Tells c g a ∧ Json.read? (info.text ++ "\n") = some v ∧
      StaticInfo.read? (.typed v) = some info ∧ v.TellsLines c g a := by
  have hlinked := Generation.linked_of_generate h
  obtain ⟨a, ha, houtlines⟩ := hlinked.declared d hd
  have hinfo : a.staticInformation? g.resolved
      = some ⟨.ofList (StaticInfo.endsOn a.asn g.resolved), a.note⟩ := by
    rw [AutonomousSystem.staticInformation?, staticInfo_of_generate h hd ha, hwanted, if_pos rfl]
  have ha' : g.emulation.as? a.asn = some a := houtlines.asn ▸ ha
  have htells := tells_endsOn h ha' a.note
  refine ⟨a, _, _, ha, hinfo, ?_, htells, StaticInfo.read?_text _,
    StaticInfo.read?_toValue (htells.fits hlinked ha'), htells.tellsLines⟩
  intro m hm
  exact mem_artifacts_of_staticInformation? h hd ha hinfo hm

end Generated

/-! ### Two ASes with three links -/

/-- The crossroads with static information. -/
def annotated : Config :=
  { crossroads with ases := crossroads.ases.map fun d ↦ { d with staticInfo := true } }

theorem exists_generate_annotated :
    ∃ g, generate annotated {} (⟨0, 1⟩ : Stepper) = .ok g ∧
      ((g.emulation.as? 1).bind (·.staticInformation? g.resolved)).map (·.lineTypes.toList)
        = some [(1, .direct), (2, .direct), (3, .multihop)] :=
  exists_eq_ok_of_map_toOption (by decide +kernel)

/-- The first AS has two links over a cross-connect on one router and one over an exchange on the
other, and its file says so. -/
theorem annotated_tells_lines :
    ∃ g, generate annotated {} (⟨0, 1⟩ : Stepper) = .ok g ∧
      ∃ a info v, g.emulation.as? 1 = some a ∧ a.staticInformation? g.resolved = some info ∧
        info.lineTypes.toList = [(1, .direct), (2, .direct), (3, .multihop)] ∧
        info.Tells annotated g a ∧ Json.read? (info.text ++ "\n") = some v ∧
        StaticInfo.read? (.typed v) = some info ∧ v.TellsLines annotated g a := by
  obtain ⟨g, hg, hlines⟩ := exists_generate_annotated
  obtain ⟨a, info, v, ha, hinfo, -, htells, hv, hread, htellsLines⟩ :=
    generate_tells_lines hg List.mem_cons_self rfl
  refine ⟨g, hg, a, info, v, ha, hinfo, ?_, htells, hv, hread, htellsLines⟩
  have has : g.emulation.as? 1 = some a := ha
  rw [has, Option.bind_some, hinfo, Option.map_some] at hlines
  exact Option.some.inj hlines

end Interdomain
