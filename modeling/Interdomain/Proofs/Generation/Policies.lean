import Interdomain.Proofs.Generation.Rendering
import Interdomain.Proofs.Generation.Slots
import Interdomain.Proofs.Texts.ControlSettings
import Interdomain.Proofs.Texts.Yaml

/-!
# Beacon policies and their files

The files of the beacon policies are written by one loop, and the settings of the control services
name them in another. A name that leads nowhere would only be noticed by a running service. Both
loops go over the policies that the AS has, so in each domain the settings name every policy file
in the directory of the AS and nothing else.
-/

namespace Interdomain

/-! ## Directories -/

/-- The path of a file in the directory of an AS in a domain, if it is there. -/
def relative? (ia : IsdAsn) (path : String) : Option String :=
  ((memberPath ia "").toList.isPrefixOf? path.toList).map String.ofList

/-- The paths of the files in the directory of an AS in a domain. -/
def listing (artifacts : List Artifact) (ia : IsdAsn) : List String :=
  artifacts.filterMap (relative? ia ·.path)

/-- Whether a path leads into the directory of the beacon policies. -/
def isPolicyPath (path : String) : Bool := "beacon_policy/".toList.isPrefixOf path.toList

/-- The paths of the beacon policies in the directory of an AS in a domain. -/
def policyPaths (artifacts : List Artifact) (ia : IsdAsn) : List String :=
  (listing artifacts ia).filter isPolicyPath

theorem relative?_eq_some_iff {ia : IsdAsn} {path rest : String} :
    relative? ia path = some rest ↔ path = memberPath ia rest := by
  rw [relative?, Option.map_eq_some_iff]
  simp only [List.isPrefixOf?_eq_some_iff_append_eq]
  constructor
  · rintro ⟨cs, hcs, rfl⟩
    rw [← String.toList_inj, ← hcs]
    simp [memberPath]
  · rintro rfl
    exact ⟨rest.toList, by simp [memberPath], String.ofList_toList⟩

theorem relative?_memberPath (ia ia' : IsdAsn) (path : String) :
    relative? ia (memberPath ia' path) = if ia' = ia then some path else none := by
  split
  case isTrue heq => rw [heq, relative?_eq_some_iff]
  case isFalse hne =>
    rw [Option.eq_none_iff_forall_ne_some]
    intro rest hrest
    exact hne (memberPath_inj.1 (relative?_eq_some_iff.1 hrest)).1

theorem relative?_graphFile (ia : IsdAsn) : relative? ia graphFile = none := by
  rw [Option.eq_none_iff_forall_ne_some]
  intro rest hrest
  exact memberPath_ne_graphFile ia rest (relative?_eq_some_iff.1 hrest).symm

theorem Slot.isPolicyPath_iff (s : Slot) :
    isPolicyPath s.path = true ↔ ∃ kind, s = .policy kind := by
  rw [isPolicyPath, List.isPrefixOf_iff_prefix]
  cases s with
  | topology => exact iff_of_false (by decide) (by simp)
  | key second => cases second <;> exact iff_of_false (by decide) (by simp)
  | staticInfo => exact iff_of_false (by decide) (by simp)
  | policy kind => exact iff_of_true (by simp [path, policyFile]) ⟨kind, rfl⟩
  | control name => exact iff_of_false (by simp [path]) (by simp)
  | gateway name => exact iff_of_false (by simp [path]) (by simp)

/-- Of the files of an AS just those of its policies are in the directory of policies. -/
theorem AutonomousSystem.filter_slots (a : AutonomousSystem) (links : List ResolvedLink) :
    ((a.slots links).map Slot.path).filter isPolicyPath = a.policies.keys.map policyFile := by
  have hothers : ∀ l : List Slot, (∀ s ∈ l, ∀ kind, s ≠ .policy kind) →
      (l.map Slot.path).filter isPolicyPath = [] := by
    intro l hl
    rw [List.filter_eq_nil_iff]
    intro path hpath hpolicy
    obtain ⟨s, hs, rfl⟩ := List.mem_map.1 hpath
    obtain ⟨kind, hkind⟩ := s.isPolicyPath_iff.1 hpolicy
    exact hl s hs kind hkind
  have hpolicies : ((a.policies.keys.map Slot.policy).map Slot.path).filter isPolicyPath
      = a.policies.keys.map policyFile := by
    rw [List.map_map]
    refine List.filter_eq_self.2 fun path hpath ↦ ?_
    obtain ⟨kind, -, rfl⟩ := List.mem_map.1 hpath
    exact (Slot.policy kind).isPolicyPath_iff.2 ⟨kind, rfl⟩
  simp only [slots, List.map_append, List.filter_append, hpolicies]
  rw [hothers [.topology, .key false, .key true] (by simp),
    hothers ((a.staticInformation? links).toList.map _) (by simp),
    hothers (a.controlServices.keys.map Slot.control) (by simp),
    hothers (a.gateways.gateways.map _) (by simp)]
  simp

/-! ## All files -/

namespace Emulation

variable {e : Emulation} {links : LinkRegistry} {resolved : List ResolvedLink}
  {artifacts : List Artifact}

theorem listing_of_render (h : render e links resolved = .ok artifacts)
    (hdistinct : (e.memberships.map fun x ↦ IsdAsn.mk x.2 x.1.asn).Nodup) {a : AutonomousSystem}
    {isd : Isd} (hmember : (a, isd) ∈ e.memberships) :
    listing artifacts ⟨isd, a.asn⟩ = (a.slots resolved).map Slot.path := by
  have hone : ∀ x : AutonomousSystem × Isd,
      ((x.1.slots resolved).map fun s ↦ memberPath ⟨x.2, x.1.asn⟩ s.path).filterMap
        (relative? ⟨isd, a.asn⟩) =
      if IsdAsn.mk x.2 x.1.asn = ⟨isd, a.asn⟩ then (x.1.slots resolved).map Slot.path else [] := by
    intro x
    rw [List.filterMap_map]
    simp only [Function.comp_def, relative?_memberPath]
    split
    case isTrue => rw [← List.filterMap_eq_map]; rfl
    case isFalse => rw [List.filterMap_eq_nil_iff]; exact fun _ _ ↦ rfl
  have hnone : ∀ l : List (AutonomousSystem × Isd),
      (∀ x ∈ l, IsdAsn.mk x.2 x.1.asn ≠ ⟨isd, a.asn⟩) →
      (l.flatMap fun x ↦ if IsdAsn.mk x.2 x.1.asn = ⟨isd, a.asn⟩
        then (x.1.slots resolved).map Slot.path else []) = [] :=
    fun l hl ↦ List.flatMap_eq_nil_iff.2 fun x hx ↦ if_neg (hl x hx)
  have hlisting : listing artifacts ⟨isd, a.asn⟩
      = (artifacts.map (·.path)).filterMap (relative? ⟨isd, a.asn⟩) := by
    rw [List.filterMap_map]
    rfl
  obtain ⟨before, after, hsplit⟩ := List.append_of_mem hmember
  rw [hsplit, List.map_append, List.map_cons, List.nodup_append, List.nodup_cons] at hdistinct
  obtain ⟨-, ⟨hafter, -⟩, hbefore⟩ := hdistinct
  rw [hlisting, paths_of_render h, List.filterMap_append, List.filterMap_flatMap]
  simp only [hone, List.filterMap_cons, relative?_graphFile, List.filterMap_nil, List.append_nil]
  rw [hsplit, List.flatMap_append, List.flatMap_cons, if_pos rfl,
    hnone before fun x hx ↦ hbefore _ (List.mem_map_of_mem hx) _ List.mem_cons_self,
    hnone after fun x hx heq ↦ hafter (heq ▸ List.mem_map_of_mem hx), List.nil_append,
    List.append_nil]

end Emulation

/-! ## The settings of control services -/

/-- The policies that the settings of a control service name. -/
def ControlConfig.policies (c : ControlConfig) : SortedMap String String :=
  c.beaconing.elim {} (·.policies)

namespace AutonomousSystem

variable {a : AutonomousSystem} {links : List ResolvedLink} {isd : Isd} {files : List Artifact}
  {name : String}

theorem policies_controlConfig (a : AutonomousSystem) (name : String) :
    (a.controlConfig name).policies = a.beaconingSection.policies := by
  rw [ControlConfig.policies, controlConfig]
  dsimp only
  split
  case isTrue hsilent => rw [hsilent, Option.elim_none]
  case isFalse => rfl

theorem get?_policies_controlConfig_iff {kindName path : String} :
    (a.controlConfig name).policies.get? kindName = some path ↔
      ∃ kind ∈ a.policies.keys, kindName = kind.text ∧
        path = "/etc/scion/" ++ ("beacon_policy/" ++ kindName ++ ".yaml") := by
  rw [a.policies_controlConfig, ← SortedMap.mem_toList_iff (e := (kindName, path)),
    a.toList_policies_beaconingSection.mem_iff, List.mem_map]
  refine exists_congr fun kind ↦ and_congr_right fun _ ↦ ?_
  rw [Prod.mk.injEq]
  constructor
  · rintro ⟨rfl, rfl⟩
    exact ⟨rfl, rfl⟩
  · rintro ⟨rfl, rfl⟩
    exact ⟨rfl, rfl⟩

theorem beaconing_controlConfig_eq_none_iff :
    (a.controlConfig name).beaconing = none ↔ a.intervals = {} ∧ a.policies.keys = [] := by
  rw [← a.beaconingSection_eq_default_iff, controlConfig]
  simp

/-- Only the files of the control services have this first letter. -/
theorem mem_controlFiles_of_head? (h : a.files links isd = .ok files) {f : Artifact}
    (hf : f ∈ files) (hhead : f.path.toList.head? = some 'c') : f ∈ a.controlFiles := by
  obtain ⟨topology, keys, policies, -, -, hpolicies, rfl⟩ := files_eq_ok_iff.1 h
  simp only [otherFiles, List.mem_append] at hf
  rcases hf with hf | ((hf | hf) | hf) | hf
  · simp only [topologyFiles, List.mem_cons, List.not_mem_nil, or_false] at hf
    rcases hf with rfl | rfl | rfl <;> exact absurd hhead (by simp)
  · rw [staticInfoFiles] at hf
    split at hf
    · obtain rfl := List.mem_singleton.1 hf
      exact absurd hhead (by decide : StaticInfo.fileName.toList.head? ≠ some 'c')
    · exact absurd hf List.not_mem_nil
  · obtain ⟨kind, hpath⟩ := path_of_mem_policyFiles hpolicies hf
    rw [hpath] at hhead
    exact absurd hhead (by simp [policyFile])
  · exact hf
  · obtain ⟨g, -, rfl⟩ := List.mem_map.1 hf
    exact absurd hhead (by simp)

theorem exists_mem_files_policy (h : a.files links isd = .ok files) {kind : PolicyKind}
    {policy : Value} (hpolicy : a.policies.get? kind = some policy) :
    ∃ text, Yaml.text? policy = some text ∧ ⟨policyFile kind, text⟩ ∈ files := by
  obtain ⟨topology, keys, policies, -, -, hpolicies, rfl⟩ := files_eq_ok_iff.1 h
  have hentry := (a.policies.mem_toList_iff (e := (kind, policy))).2 hpolicy
  obtain ⟨f, hf, heq⟩ := exists_of_mem_of_forall₂ (mapM_eq_ok_iff.1 hpolicies) hentry
  split at heq
  case h_1 text htext =>
    refine ⟨text, htext, ?_⟩
    obtain rfl := Except.ok.inj heq
    simp [otherFiles, hf]
  case h_2 => exact absurd heq (by simp)

theorem mem_files_control_iff (h : a.files links isd = .ok files)
    (hname : name ∈ a.controlServices.keys) {contents : String} :
    ⟨"control/" ++ name ++ ".toml", contents⟩ ∈ files ↔
      contents = (a.controlConfig name).text := by
  constructor
  · intro hmem
    obtain ⟨name', -, heq⟩ := List.mem_map.1 (mem_controlFiles_of_head? h hmem (by simp))
    obtain ⟨hpath, rfl⟩ := Artifact.mk.inj heq
    obtain rfl : name' = name := by simpa using hpath
    rfl
  · rintro rfl
    obtain ⟨topology, keys, policies, -, -, -, rfl⟩ := files_eq_ok_iff.1 h
    simp [otherFiles, controlFiles, hname]

end AutonomousSystem

/-! ## The configured network -/

def AsDecl.intervals (d : AsDecl) : Intervals := (d.beaconing.getD {}).intervals

section Generated

variable {σ : Type} [WordSource σ] {c : Config} {options : ResolverOptions} {source : σ}
  {g : Generation} {d : AsDecl} {a : AutonomousSystem}

theorem intervals_of_generate (h : generate c options source = .ok g) (hd : d ∈ c.ases)
    (ha : g.emulation.as? d.asn = some a) : a.intervals = d.intervals := by
  obtain ⟨exchanges, loopbacks, s, hbuild, houtline⟩ := exists_site_of_generate h hd ha
  obtain ⟨_, _, _, _, _, _, -, -, -, -, rfl⟩ := AsDecl.stages_of_build hbuild
  exact (congrArg AutonomousSystem.intervals houtline).symm

theorem Config.Configures.mem_artifacts_control_iff (hall : c.Configures g.emulation)
    (hrender : render g.emulation g.links g.resolved = .ok g.artifacts) {isd : Isd}
    (hmember : (a, isd) ∈ g.emulation.memberships) {name : String}
    (hname : name ∈ a.controlServices.keys) {contents : String} :
    ⟨memberPath ⟨isd, a.asn⟩ ("control/" ++ name ++ ".toml"), contents⟩ ∈ g.artifacts ↔
      contents = (a.controlConfig name).text := by
  rw [mem_artifacts_memberPath_iff hrender]
  constructor
  · rintro ⟨a', files, hmember', hasn, hfiles, hmem⟩
    -- No other AS has this number.
    obtain ⟨⟨n, ha⟩, -⟩ := Emulation.mem_memberships_iff.1 hmember
    obtain ⟨⟨n', ha'⟩, -⟩ := Emulation.mem_memberships_iff.1 hmember'
    obtain rfl := (hall.asn_eq ha).symm.trans (hasn.symm.trans (hall.asn_eq ha'))
    obtain rfl := Option.some.inj (ha.symm.trans ha')
    exact (AutonomousSystem.mem_files_control_iff hfiles hname).1 hmem
  · intro hcontents
    obtain ⟨files, hfiles⟩ := exists_files_of_render hrender hmember
    exact ⟨a, files, hmember, rfl, hfiles,
      (AutonomousSystem.mem_files_control_iff hfiles hname).2 hcontents⟩

/-- A policy whose texts are on one line is what its files say. -/
theorem policies_read_back (h : generate c options source = .ok g) (hd : d ∈ c.ases)
    {m : MembershipDecl} (hm : m ∈ d.isds) {kind : PolicyKind} {policy : Value}
    (hpolicy : d.policies.get? kind = some policy) {levels : Nat}
    (hlegible : Yaml.IsLegible levels policy) (uniqueKeys : Bool) :
    ∃ text, ⟨memberPath ⟨m.isd, d.asn⟩ (policyFile kind), text⟩ ∈ g.artifacts ∧
      (Yaml.read? text).bind (Document.value? uniqueKeys levels) = some policy := by
  obtain ⟨built, settled, hbuild, -, ⟨_, hsettled⟩, hresolve, hrender⟩ := phases_of_generate h
  have hall := Config.configures_of_resolve hbuild hsettled hresolve
  obtain ⟨a, ha, hconfigures⟩ := hall.declared d hd
  have hmember : (a, m.isd) ∈ g.emulation.memberships := Emulation.mem_memberships_iff.2
    ⟨⟨d.asn, ha⟩, (hconfigures.outlines.isds m.isd).2 (List.mem_map_of_mem hm)⟩
  obtain ⟨files, hfiles⟩ := exists_files_of_render hrender hmember
  rw [← hconfigures.fills.policies] at hpolicy
  obtain ⟨text, htext, hmem⟩ := AutonomousSystem.exists_mem_files_policy hfiles hpolicy
  obtain ⟨text', htext', hread⟩ := Yaml.exists_text?_eq hlegible uniqueKeys
  obtain rfl := Option.some.inj (htext.symm.trans htext')
  exact ⟨text, (mem_artifacts_memberPath_iff hrender).2
    ⟨a, files, hmember, hconfigures.outlines.asn, hfiles, hmem⟩, hread⟩

/-- **Policies and files.** In each domain of an AS, the file of a control service holds its
settings. They name the policy files in the directory of the AS, each once and no others, by their
paths below the directory from which the service reads: each kind that was declared has the file of
its name. There is a section about beaconing, in the settings as in their text, unless neither an
interval nor a policy was declared. -/
theorem policies_name_files (h : generate c options source = .ok g) (hd : d ∈ c.ases)
    {m : MembershipDecl} (hm : m ∈ d.isds) {s : NodeDecl} (hs : s ∈ d.controlServices) :
    ∃ a kinds, g.emulation.as? d.asn = some a ∧
      (∀ contents, ⟨memberPath ⟨m.isd, d.asn⟩ ("control/" ++ s.name ++ ".toml"), contents⟩
        ∈ g.artifacts ↔ contents = (a.controlConfig s.name).text) ∧
      (a.controlConfig s.name).text = settingsText s.name d.intervals kinds ∧
      kinds.Perm d.policies.keys ∧
      (kinds.map policyFile).Perm (policyPaths g.artifacts ⟨m.isd, d.asn⟩) ∧
      ((a.controlConfig s.name).text = generalText s.name ↔
        d.intervals = {} ∧ d.policies.keys = []) ∧
      (a.controlConfig s.name).policies.values.Perm
        ((policyPaths g.artifacts ⟨m.isd, d.asn⟩).map ("/etc/scion/" ++ ·)) ∧
      (∀ name path, (a.controlConfig s.name).policies.get? name = some path ↔
        ∃ kind ∈ d.policies.keys, name = kind.text ∧
          path = "/etc/scion/" ++ ("beacon_policy/" ++ name ++ ".yaml")) ∧
      ((a.controlConfig s.name).beaconing = none ↔
        d.intervals = {} ∧ d.policies.keys = []) := by
  obtain ⟨built, settled, hbuild, -, ⟨_, hsettled⟩, hresolve, hrender⟩ := phases_of_generate h
  have hall := Config.configures_of_resolve hbuild hsettled hresolve
  obtain ⟨a, ha, hconfigures⟩ := hall.declared d hd
  have hasn := hconfigures.outlines.asn
  have hpolicies := hconfigures.fills.policies
  have hintervals := intervals_of_generate h hd ha
  have hservice : s.name ∈ a.controlServices.keys :=
    hconfigures.fills.controlServices ▸ List.mem_map_of_mem hs
  have hmember : (a, m.isd) ∈ g.emulation.memberships := Emulation.mem_memberships_iff.2
    ⟨⟨d.asn, ha⟩, (hconfigures.outlines.isds m.isd).2 (List.mem_map_of_mem hm)⟩
  have hlisting := Emulation.listing_of_render hrender hall.nodup_memberships hmember
  rw [hasn] at hlisting
  have hpaths : policyPaths g.artifacts ⟨m.isd, d.asn⟩ = a.policies.keys.map policyFile := by
    rw [policyPaths, hlisting, a.filter_slots]
  obtain ⟨kinds, hkinds, htext⟩ := a.text_controlConfig s.name
  rw [hintervals] at htext
  refine ⟨a, kinds, ha, fun contents ↦ ?_, htext, hpolicies ▸ hkinds, ?_, ?_, ?_,
    fun name path ↦ ?_, ?_⟩
  · rw [← hasn]
    exact hall.mem_artifacts_control_iff hrender hmember hservice
  · rw [hpaths]
    exact hkinds.map policyFile
  · have hempty : kinds = [] ↔ a.policies.keys = [] := by
      rw [← List.length_eq_zero_iff, hkinds.length_eq, List.length_eq_zero_iff]
    rw [htext, settingsText_eq_generalText_iff, hempty, hpolicies]
  · rw [hpaths, a.policies_controlConfig, List.map_map]
    refine (a.toList_policies_beaconingSection.map (·.2)).trans (.of_eq ?_)
    rw [List.map_map]
    rfl
  · rw [AutonomousSystem.get?_policies_controlConfig_iff, hpolicies]
  · rw [AutonomousSystem.beaconing_controlConfig_eq_none_iff, hintervals, hpolicies]

end Generated

/-! ### A service with two policies -/

/-- One AS in two domains with a control service and two policies. -/
def selectiveSite : Config where
  isds := [1, 2]
  ases := [{
    asn := 1
    isds := [{ isd := 1, core := true }, { isd := 2 }]
    networks := [{ name := "net0" }]
    controlServices := [{ name := "cs1", networks := ["net0"] }]
    beaconing := some {
      policies := .ofList [(.upRegistration, .object []), (.propagation, .object [])] } }]

theorem exists_generate_selectiveSite :
    ∃ g, generate selectiveSite {} (⟨0, 1⟩ : Stepper) = .ok g ∧
      policyPaths g.artifacts ⟨2, 1⟩
        = ["beacon_policy/propagation.yaml", "beacon_policy/up_registration.yaml"] :=
  exists_eq_ok_of_map_toOption (by decide +kernel)

/-- In its second domain, too, the service is told of both files. -/
theorem selectiveSite_policies :
    ∃ g a, generate selectiveSite {} (⟨0, 1⟩ : Stepper) = .ok g ∧ g.emulation.as? 1 = some a ∧
      ⟨memberPath ⟨2, 1⟩ "control/cs1.toml", (a.controlConfig "cs1").text⟩ ∈ g.artifacts ∧
      (∃ kinds, (kinds.map policyFile).Perm
          ["beacon_policy/propagation.yaml", "beacon_policy/up_registration.yaml"] ∧
        (a.controlConfig "cs1").text = settingsText "cs1" {} kinds) ∧
      (a.controlConfig "cs1").policies.values.Perm
        ["/etc/scion/beacon_policy/propagation.yaml",
          "/etc/scion/beacon_policy/up_registration.yaml"] ∧
      (a.controlConfig "cs1").policies.get? "up_registration"
        = some "/etc/scion/beacon_policy/up_registration.yaml" ∧
      (a.controlConfig "cs1").beaconing ≠ none := by
  obtain ⟨g, hg, hpaths⟩ := exists_generate_selectiveSite
  have hsecond : ({ isd := 2 } : MembershipDecl) ∈ [{ isd := 1, core := true }, { isd := 2 }] :=
    List.mem_cons_of_mem _ List.mem_cons_self
  obtain ⟨a, kinds, ha, hwritten, htext, -, hfiles, -, hnamed, hentry, hsilent⟩ :=
    policies_name_files hg List.mem_cons_self hsecond List.mem_cons_self
  rw [show policyPaths g.artifacts _ = _ from hpaths] at hnamed hfiles
  refine ⟨g, a, hg, ha, (hwritten _).2 rfl, ⟨kinds, hfiles, htext⟩, hnamed, (hentry _ _).2 ?_,
    fun h ↦ ?_⟩
  · exact ⟨.upRegistration, by decide +kernel, by decide, by decide⟩
  · exact absurd (hsilent.1 h).2 (by decide +kernel)

end Interdomain
