import Interdomain.Proofs.Generation.Rendering
import Interdomain.Proofs.Generation.Slots
import Interdomain.Proofs.Texts.Identifiers

/-!
# Where the files go

The files of an AS in a domain are in the directory of the two. A name that is put into a path may
hold a slash, and nothing looks for one: the path may then lead to the slot of another file or out
of the output directory. As long as no name has a slash, every file is at the location of its slot.
Then all files are written, and each of them is read back.
-/

namespace Interdomain

open FileSystem (names resolve? IsPlain Apart)

/-! ## All files -/

theorem IsdAsn.not_mem_text (ia : IsdAsn) : '/' ∉ ia.text.toList := by
  have hdigits : ∀ n, '/' ∉ Decimal.digits n := fun n hmem ↦
    absurd (Decimal.isDigit_of_mem_digits n '/' hmem) (by decide)
  rw [IsdAsn.text, String.toList_ofList, IsdAsn.chars]
  simp [hdigits]

theorem IsdAsn.text_ne (ia : IsdAsn) {name : String} (h : '-' ∉ name.toList) : ia.text ≠ name := by
  rintro rfl
  rw [IsdAsn.text, String.toList_ofList, IsdAsn.chars] at h
  exact h (by simp)

theorem IsdAsn.isPlain_text (ia : IsdAsn) : IsPlain ia.text :=
  ⟨ia.text_ne (by decide), ia.text_ne (by decide), ia.text_ne (by decide)⟩

/-- Where the files of an AS in a domain are. -/
def memberLocations (links : List ResolvedLink) (x : AutonomousSystem × Isd) : List Location :=
  (x.1.slots links).map fun s ↦ x.1.directory x.2 :: s.location

namespace Emulation

variable {e : Emulation} {links : LinkRegistry} {resolved : List ResolvedLink}
  {artifacts : List Artifact}

/-- Without slashes in their names, the files are at the locations of their slots. -/
theorem names_of_render (h : render e links resolved = .ok artifacts)
    (hplain : ∀ x ∈ e.memberships, ∀ s ∈ x.1.slots resolved, s.HasNoSlash) :
    artifacts.map (names ·.path) =
      e.memberships.flatMap (memberLocations resolved) ++ [[graphFile]] := by
  have hgraph : names graphFile = [graphFile] := by decide
  have hpaths := congrArg (List.map names) (paths_of_render h)
  rw [List.map_map, List.map_append, List.map_flatMap, List.map_singleton, hgraph] at hpaths
  refine hpaths.trans (congrArg (· ++ [[graphFile]]) (List.flatMap_congr fun x hx ↦ ?_))
  have hdirectory : names (x.1.directory x.2) = [x.1.directory x.2] :=
    FileSystem.names_of_not_mem (IsdAsn.not_mem_text _)
  rw [List.map_map]
  refine List.map_congr_left fun s hs ↦ ?_
  rw [Function.comp_apply, memberPath, FileSystem.names_append_slash,
    Slot.names_path (hplain x hx s hs)]
  exact congrArg (· ++ s.location) hdirectory

theorem pairwise_locations
    (hmembers : e.memberships.Pairwise fun x y ↦ x.1.directory x.2 ≠ y.1.directory y.2)
    (hslots : ∀ x ∈ e.memberships, (x.1.slots resolved).Nodup) :
    (e.memberships.flatMap (memberLocations resolved) ++ [[graphFile]]).Pairwise Apart := by
  rw [List.pairwise_append, List.pairwise_flatMap]
  refine ⟨⟨fun x hx ↦ ?_, hmembers.imp fun hne l hl l' hl' ↦ ?_⟩, List.pairwise_singleton _ _,
    fun l hl l' hl' ↦ ?_⟩
  · exact List.pairwise_map.2 <|
      (hslots x hx).imp fun hne ↦ (Slot.apart hne).cons (x.1.directory x.2)
  · obtain ⟨s, -, rfl⟩ := List.mem_map.1 hl
    obtain ⟨s', -, rfl⟩ := List.mem_map.1 hl'
    exact FileSystem.apart_of_ne hne s.location s'.location
  · obtain ⟨x, -, hl⟩ := List.mem_flatMap.1 hl
    obtain ⟨s, -, rfl⟩ := List.mem_map.1 hl
    obtain rfl := List.mem_singleton.1 hl'
    exact FileSystem.apart_of_ne (IsdAsn.text_ne _ (by decide)) s.location []

theorem isPlain_of_mem_locations {l : Location} {name : String}
    (hl : l ∈ e.memberships.flatMap (memberLocations resolved) ++ [[graphFile]])
    (hname : name ∈ l) : IsPlain name := by
  rcases List.mem_append.1 hl with hl | hl
  · obtain ⟨x, -, hl⟩ := List.mem_flatMap.1 hl
    obtain ⟨s, -, rfl⟩ := List.mem_map.1 hl
    rcases List.mem_cons.1 hname with rfl | hname
    · exact IsdAsn.isPlain_text _
    · exact Slot.isPlain_of_mem_location hname
  · obtain rfl := List.mem_singleton.1 hl
    obtain rfl := List.mem_singleton.1 hname
    decide

end Emulation

/-! ## Names without slashes -/

/-- The names that are put into paths as they are. -/
def AsDecl.fileNames (d : AsDecl) : List String :=
  d.controlServices.map (·.name) ++ d.gateways.map (·.name)

/-- No name that is put into a path has a slash. -/
def Config.HasNoSlash (c : Config) : Prop := ∀ d ∈ c.ases, ∀ name ∈ d.fileNames, '/' ∉ name.toList

instance (c : Config) : Decidable c.HasNoSlash :=
  inferInstanceAs (Decidable (∀ d ∈ c.ases, ∀ name ∈ d.fileNames, _))

theorem AsDecl.Configures.hasNoSlash {d : AsDecl} {a : AutonomousSystem} (h : d.Configures a)
    (hd : ∀ name ∈ d.fileNames, '/' ∉ name.toList) {links : List ResolvedLink} {s : Slot}
    (hs : s ∈ a.slots links) : s.HasNoSlash := by
  cases s with
  | control name =>
    refine hd name (List.mem_append_left _ ?_)
    rw [← h.fills.controlServices]
    simpa [AutonomousSystem.slots] using hs
  | gateway name =>
    refine hd name (List.mem_append_right _ ?_)
    rw [← h.fills.gateways]
    simpa [AutonomousSystem.slots] using hs
  | _ => trivial

namespace Generation

variable {σ : Type} [WordSource σ] {c : Config} {options : ResolverOptions} {source : σ}
  {g : Generation}

/-- Without slashes in names, the paths are rows of plain names and none continues another. -/
theorem locations_of_generate (h : generate c options source = .ok g) (hplain : c.HasNoSlash) :
    (∀ f ∈ g.artifacts, ∀ name ∈ names f.path, IsPlain name) ∧
      g.artifacts.Pairwise fun f f' ↦ Apart (names f.path) (names f'.path) := by
  obtain ⟨built, settled, hbuild, -, ⟨_, hsettled⟩, hresolve, hrender⟩ := phases_of_generate h
  have hconfigures := Config.configures_of_resolve hbuild hsettled hresolve
  have hnames := Emulation.names_of_render hrender fun x hx s hs ↦ by
    obtain ⟨d, hd, hconfigured, -⟩ := hconfigures.exists_of_mem_memberships hx
    exact hconfigured.hasNoSlash (hplain d hd) hs
  have hmembers : g.emulation.memberships.Pairwise
      fun x y ↦ x.1.directory x.2 ≠ y.1.directory y.2 :=
    (List.pairwise_map.1 hconfigures.nodup_memberships).imp fun hne heq ↦
      hne (IsdAsn.text_inj heq)
  have hslots : ∀ x ∈ g.emulation.memberships, (x.1.slots g.resolved).Nodup := by
    intro x hx
    obtain ⟨d, -, hconfigured, -⟩ := hconfigures.exists_of_mem_memberships hx
    refine AutonomousSystem.nodup_slots ?_
    rw [hconfigured.fills.gateways]
    exact hconfigured.fills.gatewayNames
  have hpairwise := Emulation.pairwise_locations hmembers hslots
  rw [← hnames, List.pairwise_map] at hpairwise
  refine ⟨fun f hf name hname ↦ ?_, hpairwise⟩
  have hmem : names f.path ∈ g.artifacts.map (names ·.path) := List.mem_map_of_mem hf
  rw [hnames] at hmem
  exact Emulation.isPlain_of_mem_locations hmem hname

/-- **Files apart.** Where no control service and no gateway has a slash in its name, every path
resolves to a location strictly below the output directory, and no two to the same. So whatever is
written is read back under its own path, and in an empty output directory everything is written, as
far as no name and no path is too long. -/
theorem files_kept_apart (h : generate c options source = .ok g) (hplain : c.HasNoSlash) :
    (∀ f ∈ g.artifacts, ∃ location, resolve? f.path = some location ∧ location ≠ []) ∧
    (g.artifacts.Pairwise fun f f' ↦ resolve? f.path ≠ resolve? f'.path) ∧
    (∀ directory fs fs', FileSystem.runWriteAll directory g.artifacts fs = (.ok (), fs') →
      ∀ f ∈ g.artifacts, fs'.read? (CommandLine.below directory f.path) = some f.contents) ∧
    ∀ directory fs made base, FileSystem.makeDirectory? fs directory = some (made, base) →
      made.contentAt? base = some (.directory []) →
      (∀ f ∈ g.artifacts, FileSystem.Takes directory f.path) →
      ∃ fs', FileSystem.runWriteAll directory g.artifacts fs = (.ok (), fs') := by
  obtain ⟨hplain, hapart⟩ := locations_of_generate h hplain
  have hresolve : ∀ f ∈ g.artifacts, resolve? f.path = some (names f.path) := fun f hf ↦
    FileSystem.resolve?_of_isPlain (hplain f hf)
  have hdistinct : g.artifacts.Pairwise fun f f' ↦ names f.path ≠ names f'.path :=
    hapart.imp FileSystem.Apart.ne
  refine ⟨fun f hf ↦ ⟨_, hresolve f hf, FileSystem.names_ne_nil f.path⟩, ?_,
    fun directory fs fs' hrun ↦ ?_, fun directory fs made base hmake hempty htakes ↦ ?_⟩
  · refine hdistinct.imp_of_mem fun {f f'} hf hf' hne heq ↦ hne ?_
    rw [hresolve f hf, hresolve f' hf'] at heq
    exact Option.some.inj heq
  · refine FileSystem.read?_of_writes? (FileSystem.runWriteAll_eq_ok_iff.1 hrun) ?_
    refine hdistinct.imp_of_mem fun {f f'} hf hf' hne location hlocate ↦ ?_
    exact FileSystem.locate?_below_ne (hresolve f hf) (hresolve f' hf') hne hlocate
  · obtain ⟨fs', hwrites⟩ :=
      FileSystem.exists_writes?_of_empty hmake hempty htakes hplain hapart
    exact ⟨fs', FileSystem.runWriteAll_eq_ok_iff.2 hwrites⟩

/-! ### Names in paths -/

/-- One AS with a control service and a gateway of some names. -/
def serviceSite (service gateway : String) : Config where
  isds := [1]
  ases := [{
    asn := 1
    isds := [{ isd := 1, core := true }]
    networks := [{ name := "net0" }]
    hosts := [{ name := "h1", networks := ["net0"] }]
    controlServices := [{ name := service, networks := ["net0"] }]
    gateways := [{ name := gateway, host := "h1", localNet := .ofOctets 172 16 0 0 24 }] }]

theorem exists_generate_dots :
    ∃ g, generate (serviceSite "." "..") {} (⟨0, 1⟩ : Stepper) = .ok g ∧
      g.artifacts.map (·.path) =
        ["1-1/topology.json", "1-1/keys/master0.key", "1-1/keys/master1.key",
          "1-1/control/..toml", "1-1/gateways/...json", "scion_links.dot"] :=
  exists_eq_ok_of_map_toOption (by decide +kernel)

/-- Names of dots alone are harmless, and what is written is read back. -/
theorem dots_kept_apart :
    (serviceSite "." "..").validate = .ok () ∧
      ∃ g, generate (serviceSite "." "..") {} (⟨0, 1⟩ : Stepper) = .ok g ∧ g.artifacts.length = 6 ∧
        ∃ fs', FileSystem.runWriteAll "out" g.artifacts {} = (.ok (), fs') ∧
          ∀ f ∈ g.artifacts, fs'.read? (CommandLine.below "out" f.path) = some f.contents := by
  have hvalid : (serviceSite "." "..").validate = .ok () := by decide +kernel
  have hplain : (serviceSite "." "..").HasNoSlash := by decide +kernel
  obtain ⟨g, hg, hpaths⟩ := exists_generate_dots
  have htakes : ∀ f ∈ g.artifacts, FileSystem.Takes "out" f.path := by
    have hall : ∀ path ∈ g.artifacts.map (·.path), FileSystem.Takes "out" path := by
      rw [hpaths]
      decide +kernel
    exact fun f hf ↦ hall f.path (List.mem_map_of_mem hf)
  have hlength : g.artifacts.length = 6 := by rw [← List.length_map (·.path), hpaths]; rfl
  obtain ⟨-, -, hread, hwrite⟩ := files_kept_apart hg hplain
  obtain ⟨fs', hrun⟩ :=
    hwrite "out" {} ⟨.directory [("out", .directory [])], []⟩ ["out"] rfl rfl htakes
  exact ⟨hvalid, g, hg, hlength, fs', hrun, hread "out" {} fs' hrun⟩

/-- The files of some slashed names: where they are, whether the first and the fifth are different,
and whether they are written. -/
theorem exists_generate_slashes :
    ∃ g, generate (serviceSite "../../../cs1" "../topology") {} (⟨0, 1⟩ : Stepper) = .ok g ∧
      (g.artifacts.map (resolve? ·.path),
        decide ((g.artifacts[0]?).map (·.contents) = (g.artifacts[4]?).map (·.contents)),
        (FileSystem.runWriteAll "out" g.artifacts {}).1.toOption) =
      ([some ["1-1", "topology.json"], some ["1-1", "keys", "master0.key"],
          some ["1-1", "keys", "master1.key"], none, some ["1-1", "topology.json"],
          some ["scion_links.dot"]], false, some ()) :=
  exists_eq_ok_of_map_toOption (by decide +kernel)

/-- With slashes in names, one file leaves the output directory and one takes the place of another,
which is not read back. -/
theorem slashes_collide :
    (serviceSite "../../../cs1" "../topology").validate = .ok () ∧
      ∃ g, generate (serviceSite "../../../cs1" "../topology") {} (⟨0, 1⟩ : Stepper) = .ok g ∧
        (∃ f ∈ g.artifacts, resolve? f.path = none) ∧
        (¬g.artifacts.Pairwise fun f f' ↦ resolve? f.path ≠ resolve? f'.path) ∧
        (∃ fs', FileSystem.runWriteAll "out" g.artifacts {} = (.ok (), fs')) ∧
        ∀ directory fs fs', FileSystem.runWriteAll directory g.artifacts fs = (.ok (), fs') →
          ¬∀ f ∈ g.artifacts,
            fs'.read? (CommandLine.below directory f.path) = some f.contents := by
  have hvalid : (serviceSite "../../../cs1" "../topology").validate = .ok () := by decide +kernel
  obtain ⟨g, hg, hcomputed⟩ := exists_generate_slashes
  obtain ⟨hresolve, hcomputed⟩ := Prod.mk.inj hcomputed
  obtain ⟨hcontents, hwritten⟩ := Prod.mk.inj hcomputed
  have hat : ∀ i : Nat, (g.artifacts[i]?).map (fun f ↦ resolve? f.path) = _ := fun i ↦ by
    rw [← List.getElem?_map, hresolve]
  obtain ⟨f, hf, hfirst⟩ := Option.map_eq_some_iff.1 (hat 0)
  obtain ⟨out, hout, hescapes⟩ := Option.map_eq_some_iff.1 (hat 3)
  obtain ⟨f', hf', hfifth⟩ := Option.map_eq_some_iff.1 (hat 4)
  refine ⟨hvalid, g, hg, ⟨out, List.mem_of_getElem? hout, hescapes⟩, ?_, ?_,
    fun directory fs fs' _ hread ↦ ?_⟩
  · intro hapart
    have hnodup : (g.artifacts.map (resolve? ·.path)).Nodup := List.pairwise_map.2 hapart
    rw [hresolve] at hnodup
    exact absurd hnodup (by decide)
  · exact ⟨_, Prod.ext (toOption_eq_some_iff.1 hwritten) rfl⟩
  · have hsame := FileSystem.read?_below_unique hfirst hfifth
      (hread f (List.mem_of_getElem? hf)) (hread f' (List.mem_of_getElem? hf'))
    rw [hf, hf', Option.map_some, Option.map_some, hsame] at hcontents
    exact absurd hcontents (by simp)

end Generation

end Interdomain
